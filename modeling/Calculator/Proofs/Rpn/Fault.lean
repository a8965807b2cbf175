import Calculator.Proofs.Rpn.Value

namespace Calculator

def Token.surplus (ts : List Token) : Int :=
  ts.countP isNumber - ts.countP isOperator

/-- The fault of the token at an index of a postfix sequence. What follows does not matter, and what
stands before matters only by its count of numbers and operators. -/
inductive Rpn.FaultAt (ts : List Token) (i : Nat) : ValueFault → Prop
  | parenthesis {t : Token} (ht : ts[i]? = some t) (hp : t.isParenthesis) :
      FaultAt ts i .parenthesis
  | notNumber {text : String} (ht : ts[i]? = some (.number text))
      (hn : Binary64.ofText? text = none) : FaultAt ts i (.notNumber text)
  | missingOperand {o : Operator} (ht : ts[i]? = some (.operator o))
      (hs : Token.surplus (ts.take i) < 2) : FaultAt ts i (.missingOperand o.symbol)

variable {stack : List Binary64} {t : Token} {ts : List Token} {i : Nat} {f : ValueFault}

/-- The stack is as high as the counts tell, whatever the numbers on it are. -/
theorem Rpn.length_of_execute (h : execute [] ts = .ok stack) :
    (stack.length : Int) = Token.surplus ts := by
  have hl := execute_length h
  rw [List.length_nil] at hl
  rw [Token.surplus]
  omega

theorem Rpn.push_parenthesis (ht : t.isParenthesis) (stack : List Binary64) :
    push stack t = .error .parenthesis := by
  cases t with
  | number text => cases ht
  | operator o => cases ht
  | opening => rw [push]
  | closing => rw [push]

theorem Rpn.push_operator (h : stack.length < 2) (o : Operator) :
    push stack (.operator o) = .error (.missingOperand o.symbol) := by
  match stack with
  | [] => rfl
  | [x] => rfl
  | right :: left :: stack =>
    rw [List.length_cons, List.length_cons] at h
    omega

theorem Rpn.FaultAt.push (h : FaultAt ts i f) (he : execute [] (ts.take i) = .ok stack) :
    ∃ t, ts[i]? = some t ∧ push stack t = .error f := by
  have hl := length_of_execute he
  cases h with
  | @parenthesis t ht hp => exact ⟨t, ht, push_parenthesis hp stack⟩
  | @notNumber text ht hn =>
    refine ⟨.number text, ht, ?_⟩
    rw [Rpn.push, hn]
  | @missingOperand o ht hs => exact ⟨.operator o, ht, push_operator (by omega) o⟩

theorem Rpn.faultAt_of_push (ht : ts[i]? = some t) (he : execute [] (ts.take i) = .ok stack)
    (h : push stack t = .error f) : FaultAt ts i f := by
  have hl := length_of_execute he
  cases t with
  | number text =>
    cases hx : Binary64.ofText? text with
    | none =>
      rw [Rpn.push, hx] at h
      cases h
      exact .notNumber ht hx
    | some x => cases h.symm.trans (Pushes.number hx stack).push
  | operator o =>
    rcases pushes_or_missing (t := .operator o) trivial stack with ⟨stack', hp⟩ | ⟨_, ⟨⟩, hs, he⟩
    · cases h.symm.trans hp.push
    · cases h.symm.trans he
      exact .missingOperand ht (by omega)
  | opening =>
    cases h.symm.trans (push_parenthesis rfl stack)
    exact .parenthesis ht rfl
  | closing =>
    cases h.symm.trans (push_parenthesis rfl stack)
    exact .parenthesis ht rfl

/-- Up to the first fault every token is executed. -/
theorem Rpn.exists_execute_take (h : ∀ j < i, ∀ f, ¬FaultAt ts j f) :
    ∃ stack, execute [] (ts.take i) = .ok stack := by
  induction i with
  | zero => exact ⟨[], rfl⟩
  | succ i ih =>
    obtain ⟨stack, he⟩ := ih fun j hj => h j (Nat.lt_succ_of_lt hj)
    rw [List.take_add_one, execute_append, he, ok_bind]
    cases ht : ts[i]? with
    | none => exact ⟨stack, rfl⟩
    | some t =>
      cases hp : push stack t with
      | error f => exact absurd (faultAt_of_push ht he hp) (h i (Nat.lt_succ_self i) f)
      | ok stack' => exact ⟨stack', (pushes_of_push hp).execute_cons⟩

theorem Rpn.FaultAt.value (h : FaultAt ts i f) (hf : ∀ j < i, ∀ g, ¬FaultAt ts j g) :
    value ts = .error f := by
  obtain ⟨stack, he⟩ := exists_execute_take hf
  obtain ⟨t, ht, hp⟩ := h.push he
  have hts : ts = ts.take i ++ t :: ts.drop (i + 1) := by
    obtain ⟨hi, rfl⟩ := List.getElem?_eq_some_iff.1 ht
    rw [← List.drop_eq_getElem_cons hi, List.take_append_drop]
  rw [hts, Rpn.value, execute_append, he, ok_bind, execute, List.foldlM_cons, hp]
  rfl

/-- The first token at fault decides how execution fails. Where no token is at fault, the numbers
and the operators alone decide whether there is a value. -/
theorem Rpn.value_of_first_fault (ts : List Token) :
    (∀ i f, FaultAt ts i f → (∀ j < i, ∀ g, ¬FaultAt ts j g) → value ts = .error f) ∧
      ((∀ i f, ¬FaultAt ts i f) →
        ((∃ x, value ts = .ok x) ↔ Token.surplus ts = 1) ∧
          (Token.surplus ts ≠ 1 →
            ∃ n : Nat, Token.surplus ts = n ∧ value ts = .error (.leftover n))) := by
  constructor
  · intro i f h hf
    exact h.value hf
  · intro h
    obtain ⟨stack, he⟩ := exists_execute_take (i := ts.length) fun j _ => h j
    rw [List.take_length] at he
    have hl := length_of_execute he
    have hv := value_of_execute he
    by_cases hs : Token.surplus ts = 1
    · have hone : stack.length = 1 := by omega
      obtain ⟨x, rfl⟩ := List.length_eq_one_iff.1 hone
      exact ⟨iff_of_true ⟨x, hv⟩ hs, absurd hs⟩
    · have hr : result stack = .error (.leftover stack.length) :=
        result_of_length_ne_one (by omega)
      refine ⟨iff_of_false ?_ hs, fun _ => ⟨stack.length, hl.symm, hv.trans hr⟩⟩
      rintro ⟨x, hx⟩
      cases hx.symm.trans (hv.trans hr)

theorem Rpn.value_of_first_fault_several :
    let ts := [.number "1", .operator .add, .number "x", .opening]
    let us := [.number "1", .number "2", .operator .mul, .number ".5"]
    (FaultAt ts 1 (.missingOperand '+') ∧ (∀ j < 1, ∀ g, ¬FaultAt ts j g) ∧
        value ts = .error (.missingOperand '+')) ∧
      (∀ i f, ¬FaultAt us i f) ∧ value us = .error (.leftover 2) := by
  intro ts us
  have h : FaultAt ts 1 (.missingOperand '+') := .missingOperand (o := .add) rfl (by decide)
  have hf : ∀ j < 1, ∀ g, ¬FaultAt ts j g := by
    intro j hj g hg
    cases Nat.lt_one_iff.1 hj
    cases hg with
    | parenthesis ht hp =>
      cases ht
      cases hp
    | notNumber ht hn =>
      cases ht
      exact absurd hn (by decide +kernel)
    | missingOperand ht => cases ht
  have hn : ∀ i f, ¬FaultAt us i f := by
    intro i f hf
    match i with
    | 0 | 1 | 3 =>
      cases hf with
      | parenthesis ht hp =>
        cases ht
        cases hp
      | notNumber ht hn =>
        cases ht
        exact absurd hn (by decide +kernel)
      | missingOperand ht => cases ht
    | 2 =>
      cases hf with
      | parenthesis ht hp =>
        cases ht
        cases hp
      | notNumber ht => cases ht
      | missingOperand ht hs => exact absurd hs (by decide)
    | i + 4 => cases hf <;> contradiction
  obtain ⟨hfirst, -⟩ := value_of_first_fault ts
  obtain ⟨-, hnone⟩ := value_of_first_fault us
  obtain ⟨n, hs, he⟩ := (hnone hn).2 (by decide)
  cases Int.ofNat.inj hs
  exact ⟨⟨h, hf, hfirst 1 _ h hf⟩, hn, he⟩

end Calculator
