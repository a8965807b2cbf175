import Calculator.Proofs.Rpn.Conservation
import Calculator.Proofs.Rpn.Value

namespace Calculator

variable {stack stack' : List Waiting} {t : Token}
  {ts us settled out before after as bs : List Token}

/-- What waits below an opening parenthesis is out of reach. -/
theorem Rpn.Settles.frame (h : Settles stack t settled stack') (base : List Waiting) :
    Settles (stack ++ .opening :: base) t settled (stack' ++ .opening :: base) := by
  cases h with
  | number text => exact .number text _
  | @operator o top rest ht hr =>
    rw [List.append_assoc]
    refine .operator ht ?_
    intro w hw
    cases rest with
    | nil =>
      cases hw
      rfl
    | cons v rest => exact hr w hw
  | opening => exact .opening _
  | closing ht =>
    rw [List.append_assoc]
    exact .closing ht

theorem Rpn.run_frame (h : run stack ts = .ok (out, stack')) (base : List Waiting) :
    run (stack ++ .opening :: base) ts = .ok (out, stack' ++ .opening :: base) := by
  induction ts generalizing stack out with
  | nil =>
    cases h
    rfl
  | cons t ts ih =>
    obtain ⟨settled, mid, rest, hs, hr, rfl⟩ := settles_of_run h
    exact (hs.frame base).run_cons (ih hr)

/-- Tokens that can be reordered by themselves are reordered alike in parentheses, whatever waits
before them. -/
theorem Rpn.run_group (h : ofInfix ts = .ok us) (base : List Waiting) :
    run base (.opening :: (ts ++ [.closing])) = .ok (us, base) := by
  obtain ⟨out, stack, hr, ho, rfl⟩ := run_of_ofInfix h
  have hc : run (stack ++ .opening :: base) [.closing] = .ok (stack.map Waiting.token, base) := by
    simpa using (Settles.closing ho).run_cons (run.eq_1 base)
  exact (Settles.opening base).run_cons (run_append_of_eq_ok (run_frame hr base) hc)

/-- The output before a group and the one after it, which do not depend on the group. -/
def Rpn.around (before after : List Token) : Except OrderFault (List Token × List Token) := do
  let (settled, stack) ← run [] before
  let (settled', stack) ← run stack after
  let rest ← finish stack
  return (settled, settled' ++ rest)

theorem Rpn.filter_isNumber_of_around (h : around before after = .ok (as, bs)) :
    as.filter Token.isNumber = before.filter Token.isNumber := by
  obtain ⟨⟨settled, stack⟩, hr, h⟩ := exists_of_bind_eq_ok h
  obtain ⟨⟨settled', stack'⟩, -, h⟩ := exists_of_bind_eq_ok h
  obtain ⟨rest, -, h⟩ := exists_of_bind_eq_ok h
  cases h
  exact filter_isNumber_of_run hr

/-- Tokens that leave alone what waits before them put their output between the two parts. -/
theorem Rpn.ofInfix_around (h : ∀ base, run base ts = .ok (us, base)) (before after : List Token) :
    ofInfix (before ++ (ts ++ after)) = do
      let (as, bs) ← around before after
      return as ++ (us ++ bs) := by
  simp only [ofInfix, around, run_append, h, ok_bind, bind_assoc, pure_bind, List.append_assoc]

theorem Rpn.ofInfix_group (h : ofInfix ts = .ok us) (before after : List Token) :
    ofInfix (before ++ (.opening :: (ts ++ [.closing]) ++ after)) = do
      let (as, bs) ← around before after
      return as ++ (us ++ bs) :=
  ofInfix_around (run_group h) before after

theorem Rpn.ofInfix_number (text : String) (before after : List Token) :
    ofInfix (before ++ .number text :: after) = do
      let (as, bs) ← around before after
      return as ++ .number text :: bs := by
  have hr (base : List Waiting) : run base [.number text] = .ok ([.number text], base) := rfl
  exact ofInfix_around hr before after

theorem Rpn.ofInfix_parentheses (h : ofInfix ts = .ok us) :
    ofInfix (.opening :: (ts ++ [.closing])) = .ok us := by
  have ho := ofInfix_of_run (run_group h []) (List.forall_mem_nil _)
  rwa [List.map_nil, List.append_nil] at ho

/-- A group is reordered like a number that stands in its place, whatever stands around it, and its
own order stands in the output where the number would. More parentheses change nothing. -/
theorem Rpn.ofInfix_group_as_number (h : ofInfix ts = .ok us) (before after : List Token)
    (text : String) :
    ((∃ out, ofInfix (before ++ .opening :: (ts ++ .closing :: after)) = .ok out) ↔
        ∃ out, ofInfix (before ++ .number text :: after) = .ok out) ∧
      (∀ out, ofInfix (before ++ .number text :: after) = .ok out →
        ∃ as bs, out = as ++ .number text :: bs ∧
          as.filter Token.isNumber = before.filter Token.isNumber ∧
          ofInfix (before ++ .opening :: (ts ++ .closing :: after)) = .ok (as ++ us ++ bs)) ∧
      ofInfix (before ++ .opening :: .opening :: (ts ++ .closing :: .closing :: after)) =
        ofInfix (before ++ .opening :: (ts ++ .closing :: after)) := by
  have hg := ofInfix_group h before after
  have hd := ofInfix_group (ofInfix_parentheses h) before after
  simp only [List.cons_append, List.nil_append, List.append_assoc] at hg hd
  rw [hg, hd, ofInfix_number text before after]
  cases ha : around before after with
  | error f => exact ⟨iff_of_false nofun nofun, nofun, rfl⟩
  | ok r =>
    obtain ⟨as, bs⟩ := r
    refine ⟨iff_of_true ⟨_, rfl⟩ ⟨_, rfl⟩, ?_, rfl⟩
    rintro _ ⟨⟩
    refine ⟨as, bs, rfl, filter_isNumber_of_around ha, ?_⟩
    rw [List.append_assoc]
    rfl

theorem Rpn.ofInfix_group_as_number_twice :
    ofInfix [.number "3", .operator .add, .number "4"] =
        .ok [.number "3", .number "4", .operator .add] ∧
      ∃ as bs, [.number "7", .number "7", .operator .mul, .number "1", .operator .sub] =
          as ++ .number "7" :: bs ∧
        as.filter Token.isNumber = [.number "7"] ∧
        ofInfix [.number "7", .operator .mul, .opening, .number "3", .operator .add, .number "4",
            .closing, .operator .sub, .number "1"] =
          .ok (as ++ [.number "3", .number "4", .operator .add] ++ bs) := by
  have h : ofInfix [.number "3", .operator .add, .number "4"] =
      .ok [.number "3", .number "4", .operator .add] := by rfl
  obtain ⟨-, ho, -⟩ :=
    ofInfix_group_as_number h [.number "7", .operator .mul] [.operator .sub, .number "1"] "7"
  exact ⟨h, ho _ (by rfl)⟩

variable {values values' : List Binary64} {x : Binary64}

theorem Rpn.Pushes.frame (h : Pushes values t values') (base : List Binary64) :
    Pushes (values ++ base) t (values' ++ base) := by
  cases h with
  | number hx => exact .number hx _
  | operator => exact .operator _ _ _ _

theorem Rpn.execute_frame (h : execute values ts = .ok values') (base : List Binary64) :
    execute (values ++ base) ts = .ok (values' ++ base) := by
  induction ts generalizing values with
  | nil =>
    cases h
    rfl
  | cons t ts ih =>
    obtain ⟨mid, hp, h⟩ := pushes_of_execute h
    rw [(hp.frame base).execute_cons]
    exact ih h

/-- Tokens that have a value by themselves put it onto whatever stack they find. -/
theorem Rpn.execute_of_value_append (h : value ts = .ok x) (base : List Binary64)
    (us : List Token) : execute base (ts ++ us) = execute (x :: base) us := by
  have hb : execute base ts = .ok (x :: base) :=
    execute_frame (execute_of_value h) base
  rw [execute_append, hb]
  rfl

theorem Rpn.value_append_of_value (h : value ts = .ok x) (before after : List Token) :
    value (before ++ (ts ++ after)) =
      execute [] before >>= fun stack => execute (x :: stack) after >>= result := by
  rw [value, execute_append, bind_assoc]
  congr 1
  funext stack
  rw [execute_of_value_append h]

theorem Rpn.value_number {text : String} (hx : Binary64.ofText? text = some x) :
    value [.number text] = .ok x := by
  rw [value, (Pushes.number hx []).execute_cons]
  rfl

/-- A sequence that has a value can stand wherever a number of that value can, and the outcome is
the same, a value or a fault, whatever stands around it. There is only one NaN: any text that is
read as NaN can stand for a sequence whose value is NaN. -/
theorem Rpn.value_sequence_as_number {text : String} (h : value ts = .ok x)
    (hx : Binary64.ofText? text = some x) (before after : List Token) :
    value (before ++ ts ++ after) = value (before ++ [.number text] ++ after) := by
  rw [List.append_assoc, List.append_assoc, value_append_of_value h,
    value_append_of_value (value_number hx)]

theorem Rpn.value_sequence_as_number_nan :
    let ts : List Token :=
      [.number "0", .number "1", .number "1", .operator .sub, .operator .div]
    let before : List Token := [.number "7"]
    let after : List Token := [.operator .mul, .operator .add]
    value ts = .ok .nan ∧ Binary64.ofText? "-NaN" = some .nan ∧
      value (before ++ ts ++ after) = value (before ++ [.number "-NaN"] ++ after) := by
  intro ts before after
  have h : value ts = .ok .nan := by decide +kernel
  have hx : Binary64.ofText? "-NaN" = some .nan := by decide +kernel
  exact ⟨h, hx, value_sequence_as_number h hx before after⟩

end Calculator
