import Calculator.Proofs.Expression.Adjacency
import Calculator.Proofs.Rpn.Value

namespace Calculator

/-- Each operator that waits has a number for its left operand, and after a token that ends an
operand one number more is there. -/
def Rpn.Supplied (stack : List Waiting) (t : Token) (values : List Binary64) : Prop :=
  (Waiting.operators stack).length + t.endsOperand.toNat ≤ values.length

variable {stack stack' top rest : List Waiting} {values : List Binary64} {t u : Token}
  {ts us settled out : List Token}

theorem Rpn.supplied_iff (ht : t.endsOperand) :
    Supplied stack t values ↔ (Waiting.operators stack).length < values.length := by
  rw [Supplied, ht]
  rfl

theorem Token.endsOperand_of_lacksOperand (h : t.lacksOperand u = false)
    (hu : u.beginsOperand = false) : t.endsOperand = true := by
  simpa [lacksOperand, hu] using h

theorem Rpn.exists_execute_top (ht : ∀ w ∈ top, w.isOperator)
    (hv : (Waiting.operators (top ++ rest)).length < values.length) :
    ∃ values', execute values (top.map Waiting.token) = .ok values' ∧
      (Waiting.operators rest).length < values'.length := by
  induction top generalizing values with
  | nil => exact ⟨values, rfl, hv⟩
  | cons w top ih =>
    obtain ⟨hw, ht'⟩ := List.forall_mem_cons.1 ht
    cases w with
    | opening => cases hw
    | operator o =>
      rw [List.cons_append, Waiting.operators_operator, List.length_cons] at hv
      match values with
      | [] => cases hv
      | [x] => exact absurd (Nat.lt_of_succ_lt_succ hv) (Nat.not_lt_zero _)
      | right :: left :: values =>
        have hp := Pushes.operator o left right values
        have hv : (Waiting.operators (top ++ rest)).length <
            (o.apply left right :: values).length := Nat.lt_of_succ_lt_succ hv
        obtain ⟨values', he, hl⟩ := ih ht' hv
        exact ⟨values', hp.execute_cons.trans he, hl⟩

theorem Rpn.Settles.exists_execute (h : Settles stack u settled stack')
    (hu : ∀ text, u = .number text → (Binary64.ofText? text).isSome)
    (hp : t.lacksOperand u = false) (hv : Supplied stack t values) :
    ∃ values', execute values settled = .ok values' ∧ Supplied stack' u values' := by
  cases h with
  | number text =>
    obtain ⟨x, hx⟩ := Option.isSome_iff_exists.1 (hu text rfl)
    refine ⟨x :: values, (Pushes.number hx values).execute_cons, ?_⟩
    exact Nat.succ_le_succ (Nat.le_of_add_right_le hv)
  | operator ht hr =>
    rw [supplied_iff (Token.endsOperand_of_lacksOperand hp rfl)] at hv
    exact exists_execute_top (fun w hw => Waiting.isOperator_of_bindsFirst (ht w hw)) hv
  | opening => exact ⟨values, rfl, Nat.le_of_add_right_le hv⟩
  | closing ht =>
    rw [supplied_iff (Token.endsOperand_of_lacksOperand hp rfl)] at hv
    obtain ⟨values', hx, hl⟩ := exists_execute_top ht hv
    exact ⟨values', hx, hl⟩

theorem Rpn.exists_execute_of_run (h : run stack ts = .ok (out, stack'))
    (hn : ∀ text, .number text ∈ ts → (Binary64.ofText? text).isSome)
    (hc : (t :: ts).IsChain fun t u => t.lacksOperand u = false)
    (hv : Supplied stack t values) :
    ∃ values', execute values out = .ok values' ∧ Supplied stack' (ts.getLastD t) values' := by
  induction ts generalizing stack t values out with
  | nil =>
    cases h
    exact ⟨values, rfl, hv⟩
  | cons u ts ih =>
    obtain ⟨settled, mid, rest, hs, hr, rfl⟩ := settles_of_run h
    rw [List.isChain_cons_cons] at hc
    have hu (text : String) (he : u = .number text) : (Binary64.ofText? text).isSome :=
      hn text (he ▸ List.mem_cons_self)
    obtain ⟨values₁, he, hv⟩ := hs.exists_execute hu hc.1 hv
    obtain ⟨values₂, he', hv⟩ :=
      ih hr (fun text hm => hn text (List.mem_cons_of_mem u hm)) hc.2 hv
    refine ⟨values₂, ?_, ?_⟩
    · rw [execute_append, he]
      exact he'
    · rwa [List.getLastD_cons]

theorem Rpn.executable_of_ofInfix (h : ofInfix ts = .ok us)
    (hn : ∀ text, .number text ∈ ts → (Binary64.ofText? text).isSome) :
    ∀ t ∈ us, t.Executable := by
  intro t ht
  obtain ⟨ht, hp⟩ := mem_of_ofInfix h ht
  cases t with
  | number text => exact hn text ht
  | operator o => trivial
  | opening => cases hp
  | closing => cases hp

/-- However execution ends, two operands side by side leave a number more, and a missing one leaves
a number less. -/
theorem Rpn.length_add_missingOperands (h : ofInfix ts = .ok us)
    (he : execute [] us = .ok values) :
    values.length + missingOperands ts = juxtapositions ts + 1 := by
  have hn := countP_of_ofInfix Token.isNumber h fun t ht => by simp [t.isParenthesis_eq, ht]
  have ho := countP_of_ofInfix Token.isOperator h fun t ht => by simp [t.isParenthesis_eq, ht]
  have hl := execute_length he
  have hc := missingOperands_add_numbers ts
  rw [List.length_nil] at hl
  omega

/-- Where no operand is missing, no operator lacks one when it is executed. -/
theorem Rpn.exists_execute_of_ofInfix (h : ofInfix ts = .ok us)
    (hn : ∀ text, .number text ∈ ts → (Binary64.ofText? text).isSome)
    (hm : missingOperands ts = 0) :
    ∃ values, execute [] us = .ok values ∧ values.length = juxtapositions ts + 1 := by
  have hc := missingOperands_eq_zero_iff.1 hm
  rw [← List.cons_append, List.isChain_append] at hc
  obtain ⟨hc, -, hl⟩ := hc
  have hg : (Token.opening :: ts).getLast? = some (ts.getLastD .opening) := by
    rw [List.getLast?_cons, List.getLastD_eq_getLast?]
  have hl := Token.endsOperand_of_lacksOperand (hl _ hg .closing rfl) rfl
  obtain ⟨out, stack, hr, ho, hu⟩ := run_of_ofInfix h
  have hv : Supplied [] .opening [] := Nat.le_refl 0
  obtain ⟨values₁, he, hv⟩ := exists_execute_of_run hr hn hc hv
  rw [supplied_iff hl, ← List.append_nil stack] at hv
  obtain ⟨values₂, he', -⟩ := exists_execute_top ho hv
  have hx : execute [] us = .ok values₂ := by
    rw [hu, execute_append, he]
    exact he'
  exact ⟨values₂, hx, by simpa [hm] using length_add_missingOperands h hx⟩

end Calculator
