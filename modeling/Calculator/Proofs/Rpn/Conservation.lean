import Calculator.Proofs.Rpn.Balance

namespace Calculator

/-- The tokens before the number at an index, the first number being at 0; all of the tokens if
there are not as many numbers. -/
def Token.beforeNumber : Nat → List Token → List Token
  | _, [] => []
  | 0, .number _ :: _ => []
  | k + 1, .number text :: ts => .number text :: beforeNumber k ts
  | k, t :: ts => t :: beforeNumber k ts

variable {stack stack' : List Waiting} {t : Token} {ts us settled out : List Token} {k : Nat}

theorem Token.beforeNumber_cons (ht : t.isNumber = false) :
    beforeNumber k (t :: ts) = t :: beforeNumber k ts := by
  cases t with
  | number text => cases ht
  | operator o => cases k <;> rfl
  | opening => cases k <;> rfl
  | closing => cases k <;> rfl

theorem Token.beforeNumber_append (h : ∀ t ∈ ts, t.isNumber = false) :
    beforeNumber k (ts ++ us) = ts ++ beforeNumber k us := by
  induction ts with
  | nil => rfl
  | cons t ts ih =>
    obtain ⟨ht, h⟩ := List.forall_mem_cons.1 h
    rw [List.cons_append, beforeNumber_cons ht, ih h, List.cons_append]

theorem Token.beforeNumber_eq_self (h : ∀ t ∈ ts, t.isNumber = false) :
    beforeNumber k ts = ts := by
  have hb : beforeNumber k (ts ++ []) = _ := beforeNumber_append h
  rwa [beforeNumber, List.append_nil] at hb

theorem Waiting.isNumber_map_token (stack : List Waiting) :
    ∀ t ∈ stack.map token, t.isNumber = false := by
  intro t ht
  obtain ⟨w, -, rfl⟩ := List.mem_map.1 ht
  cases w with
  | operator o => rfl
  | opening => rfl

theorem Waiting.isNumber_operators (stack : List Waiting) :
    ∀ t ∈ operators stack, t.isNumber = false :=
  isNumber_map_token _

theorem Rpn.Settles.of_isNumber (h : Settles stack t settled stack') (ht : t.isNumber) :
    ∃ text, t = .number text ∧ settled = [.number text] ∧ stack' = stack := by
  cases h with
  | number text => exact ⟨text, rfl, rfl, rfl⟩
  | operator => cases ht
  | opening => cases ht
  | closing => cases ht

theorem Rpn.Settles.isNumber_settled (h : Settles stack t settled stack')
    (ht : t.isNumber = false) : ∀ u ∈ settled, u.isNumber = false := by
  cases h with
  | number text => cases ht
  | operator => exact Waiting.isNumber_map_token _
  | opening => nofun
  | closing => exact Waiting.isNumber_map_token _

theorem Rpn.Settles.filter_isNumber (h : Settles stack t settled stack') :
    settled.filter Token.isNumber = [t].filter Token.isNumber := by
  cases ht : t.isNumber with
  | true =>
    obtain ⟨text, rfl, rfl, rfl⟩ := h.of_isNumber ht
    rfl
  | false =>
    have hn := h.isNumber_settled ht
    rw [List.filter_singleton, ht, List.filter_eq_nil_iff.2 (by simpa using hn)]
    rfl

/-- A number moves to the output as soon as it is read. -/
theorem Rpn.filter_isNumber_of_run (h : run stack ts = .ok (out, stack')) :
    out.filter Token.isNumber = ts.filter Token.isNumber := by
  induction ts generalizing stack out with
  | nil =>
    cases h
    rfl
  | cons t ts ih =>
    obtain ⟨settled, mid, rest, hs, hr, rfl⟩ := settles_of_run h
    rw [List.filter_append, hs.filter_isNumber, ih hr, ← List.filter_append]
    rfl

/-- No operator comes to the output earlier than it is read: what stands before a number there
waited from the start or was read before that number. -/
theorem Rpn.count_beforeNumber_of_run (h : run stack ts = .ok (out, stack')) (k : Nat)
    (o : Operator) :
    (Token.beforeNumber k (out ++ Waiting.operators stack')).count (.operator o) ≤
      (Waiting.operators stack).count (.operator o) +
        (Token.beforeNumber k ts).count (.operator o) := by
  induction ts generalizing stack out k with
  | nil =>
    cases h
    rw [List.nil_append, Token.beforeNumber_eq_self (Waiting.isNumber_operators _)]
    exact Nat.le_refl _
  | cons t ts ih =>
    obtain ⟨settled, mid, rest, hs, hr, rfl⟩ := settles_of_run h
    cases ht : t.isNumber with
    | false =>
      have hp := hs.perm.count_eq (.operator o)
      have hf : ([t].filter (!·.isParenthesis)).count (.operator o) ≤ [t].count (.operator o) :=
        List.filter_sublist.count_le _
      have ih := ih hr k
      rw [List.count_append, List.count_append] at hp
      rw [List.append_assoc, Token.beforeNumber_append (hs.isNumber_settled ht),
        Token.beforeNumber_cons ht, ← List.singleton_append, List.count_append,
        List.count_append]
      omega
    | true =>
      obtain ⟨text, rfl, rfl, rfl⟩ := hs.of_isNumber ht
      cases k with
      | zero => exact Nat.zero_le _
      | succ k => exact ih hr k

theorem Rpn.filter_isNumber_of_ofInfix (h : ofInfix ts = .ok us) :
    us.filter Token.isNumber = ts.filter Token.isNumber := by
  obtain ⟨out, stack, hr, rfl⟩ := exists_run_of_ofInfix h
  have hn : (Waiting.operators stack).filter Token.isNumber = [] :=
    List.filter_eq_nil_iff.2 (by simpa using Waiting.isNumber_operators stack)
  rw [List.filter_append, hn, List.append_nil, filter_isNumber_of_run hr]

theorem Rpn.count_operator_of_ofInfix (h : ofInfix ts = .ok us) (o : Operator) :
    us.count (.operator o) = ts.count (.operator o) := by
  rw [(perm_of_ofInfix h).count_eq, List.count_filter]
  rfl

/-- Reordering drops the parentheses and nothing else. The numbers keep their order, and the
operators only move behind later numbers. -/
theorem Rpn.ofInfix_conserves_tokens (h : ofInfix ts = .ok us) :
    (∀ t ∈ us, t.isParenthesis = false) ∧
      us.filter Token.isNumber = ts.filter Token.isNumber ∧
      us.Perm (ts.filter (!·.isParenthesis)) ∧
      (∀ o, us.count (.operator o) = ts.count (.operator o)) ∧
      ∀ k o, (Token.beforeNumber k us).count (.operator o) ≤
        (Token.beforeNumber k ts).count (.operator o) := by
  refine ⟨fun t ht => (mem_of_ofInfix h ht).2, filter_isNumber_of_ofInfix h, perm_of_ofInfix h,
    count_operator_of_ofInfix h, ?_⟩
  intro k o
  obtain ⟨out, stack, hr, rfl⟩ := exists_run_of_ofInfix h
  have hc := count_beforeNumber_of_run hr k o
  rwa [show Waiting.operators [] = [] from rfl, List.count_nil, Nat.zero_add] at hc

theorem Rpn.ofInfix_conserves_tokens_misplaced :
    let ts := [.operator .mul, .opening, .number "1", .operator .add, .closing, .number "2",
      .operator .sub]
    let us := [.number "1", .operator .add, .number "2", .operator .mul, .operator .sub]
    ofInfix ts = .ok us ∧ us.filter Token.isNumber = ts.filter Token.isNumber ∧
      us.Perm (ts.filter (!·.isParenthesis)) ∧
      ∀ k o, (Token.beforeNumber k us).count (.operator o) ≤
        (Token.beforeNumber k ts).count (.operator o) := by
  intro ts us
  have h : ofInfix ts = .ok us := by rfl
  obtain ⟨-, hn, hp, -, hc⟩ := ofInfix_conserves_tokens h
  exact ⟨h, hn, hp, hc⟩

end Calculator
