import Calculator.Proofs.Except
import Calculator.Token.Basic
import Calculator.Rpn

namespace Calculator

inductive Rpn.Pushes : List Binary64 → Token → List Binary64 → Prop
  | number {text : String} {x : Binary64} (hx : Binary64.ofText? text = some x)
      (stack : List Binary64) : Pushes stack (.number text) (x :: stack)
  | operator (o : Operator) (left right : Binary64) (stack : List Binary64) :
      Pushes (right :: left :: stack) (.operator o) (o.apply left right :: stack)

/-- Whether a token can be executed on a stack that holds enough numbers: a number must be
readable, and no parenthesis is left. -/
def Token.Executable : Token → Prop
  | number text => (Binary64.ofText? text).isSome
  | operator _ => True
  | opening | closing => False

variable {stack stack' : List Binary64} {t : Token} {ts : List Token} {x : Binary64}

theorem Rpn.Pushes.push (h : Pushes stack t stack') : push stack t = .ok stack' := by
  cases h with
  | number hx => rw [Rpn.push, hx]
  | operator => rfl

theorem Rpn.pushes_of_push (h : push stack t = .ok stack') : Pushes stack t stack' := by
  unfold push at h
  split at h
  · split at h
    · next hx =>
      cases h
      exact .number hx _
    · cases h
  · cases h
    exact .operator _ _ _ _
  · cases h
  · cases h
  · cases h

theorem Rpn.Pushes.execute_cons (h : Pushes stack t stack') :
    execute stack (t :: ts) = execute stack' ts := by
  rw [execute, List.foldlM_cons, h.push]
  rfl

theorem Rpn.pushes_of_execute {stack'' : List Binary64}
    (h : execute stack (t :: ts) = .ok stack'') :
    ∃ stack', Pushes stack t stack' ∧ execute stack' ts = .ok stack'' := by
  rw [execute, List.foldlM_cons] at h
  obtain ⟨stack', hp, h⟩ := exists_of_bind_eq_ok h
  exact ⟨stack', pushes_of_push hp, h⟩

theorem Rpn.push_length (h : push stack t = .ok stack') :
    stack'.length + (if t.isOperator then 1 else 0) =
      stack.length + (if t.isNumber then 1 else 0) := by
  cases pushes_of_push h with
  | number => rfl
  | operator => rfl

theorem Rpn.execute_length (h : execute stack ts = .ok stack') :
    stack'.length + ts.countP Token.isOperator = stack.length + ts.countP Token.isNumber := by
  induction ts generalizing stack with
  | nil =>
    cases h
    rfl
  | cons t ts ih =>
    obtain ⟨mid, hp, h⟩ := pushes_of_execute h
    have hl := push_length hp.push
    have ih := ih h
    simp only [List.countP_cons]
    omega

theorem Rpn.execute_ne_nil (h : execute stack ts = .ok stack') (hn : stack ≠ [] ∨ ts ≠ []) :
    stack' ≠ [] := by
  induction ts generalizing stack with
  | nil =>
    cases h
    exact hn.resolve_right (absurd rfl)
  | cons t ts ih =>
    obtain ⟨mid, hp, h⟩ := pushes_of_execute h
    apply ih h
    left
    cases hp with
    | number => nofun
    | operator => nofun

theorem Rpn.pushes_or_missing (ht : t.Executable) (stack : List Binary64) :
    (∃ stack', Pushes stack t stack') ∨ ∃ o, t = .operator o ∧ stack.length < 2 ∧
      push stack t = .error (.missingOperand o.symbol) := by
  cases t with
  | number text =>
    obtain ⟨x, hx⟩ := Option.isSome_iff_exists.1 ht
    exact .inl ⟨_, .number hx stack⟩
  | operator o =>
    match stack with
    | [] => exact .inr ⟨o, rfl, Nat.zero_lt_two, rfl⟩
    | [x] => exact .inr ⟨o, rfl, Nat.one_lt_two, rfl⟩
    | right :: left :: stack => exact .inl ⟨_, .operator o left right stack⟩
  | opening => cases ht
  | closing => cases ht

/-- Executable tokens can only fail for want of an operand. -/
theorem Rpn.execute_or_missing (h : ∀ t ∈ ts, t.Executable) (stack : List Binary64) :
    (∃ stack', execute stack ts = .ok stack') ∨
      ∃ o, .operator o ∈ ts ∧ execute stack ts = .error (.missingOperand o.symbol) := by
  induction ts generalizing stack with
  | nil => exact .inl ⟨stack, rfl⟩
  | cons t ts ih =>
    obtain ⟨ht, h⟩ := List.forall_mem_cons.1 h
    rcases pushes_or_missing ht stack with ⟨mid, hp⟩ | ⟨o, rfl, -, he⟩
    · rw [hp.execute_cons]
      rcases ih h mid with he | ⟨o, hm, he⟩
      · exact .inl he
      · exact .inr ⟨o, List.mem_cons_of_mem _ hm, he⟩
    · refine .inr ⟨o, List.mem_cons_self, ?_⟩
      rw [execute, List.foldlM_cons, he]
      rfl

theorem Rpn.value_of_execute (h : execute [] ts = .ok stack) : value ts = result stack := by
  rw [value, h]
  rfl

theorem Rpn.result_of_length_ne_one (h : stack.length ≠ 1) :
    result stack = .error (.leftover stack.length) := by
  unfold result
  split
  · exact absurd rfl h
  · rfl

theorem Rpn.execute_of_value (h : value ts = .ok x) : execute [] ts = .ok [x] := by
  obtain ⟨values, he, hr⟩ := exists_of_bind_eq_ok h
  unfold result at hr
  split at hr
  · cases hr
    exact he
  · cases hr

theorem Rpn.count_of_value (h : value ts = .ok x) :
    ts.countP Token.isNumber = ts.countP Token.isOperator + 1 := by
  have hl := execute_length (execute_of_value h)
  rw [List.length_singleton, List.length_nil] at hl
  omega

theorem Rpn.push_ne_notFinite : push stack t ≠ .error (.notFinite x) := by
  unfold push
  split
  · split <;> nofun
  · nofun
  · nofun
  · nofun
  · nofun

theorem Rpn.execute_ne_notFinite : execute stack ts ≠ .error (.notFinite x) := by
  induction ts generalizing stack with
  | nil => nofun
  | cons t ts ih =>
    intro h
    rw [execute, List.foldlM_cons] at h
    rcases exists_of_bind_eq_error h with hp | ⟨mid, -, h⟩
    · exact push_ne_notFinite hp
    · exact ih h

theorem Rpn.value_ne_notFinite : value ts ≠ .error (.notFinite x) := by
  intro h
  rcases exists_of_bind_eq_error h with he | ⟨stack, -, hr⟩
  · exact execute_ne_notFinite he
  · unfold result at hr
    split at hr <;> cases hr

end Calculator
