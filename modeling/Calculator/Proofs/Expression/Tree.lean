import Calculator.Proofs.Rpn.Value

namespace Calculator

/-- An expression as a tree; its numbers are kept as text. -/
inductive Expression where
  | number (text : String)
  | binary (o : Operator) (left right : Expression)
  deriving DecidableEq

def Expression.postorder : Expression → List Token
  | number text => [.number text]
  | binary o left right => left.postorder ++ right.postorder ++ [.operator o]

def Expression.texts : Expression → List String
  | number text => [text]
  | binary _ left right => left.texts ++ right.texts

/-- The value, from the leaves upwards; there is none if a leaf does not denote a number. -/
def Expression.value? : Expression → Option Binary64
  | number text => Binary64.ofText? text
  | binary o left right => do return o.apply (← left.value?) (← right.value?)

/-- Puts the trees together that a postfix sequence stands for, on a stack with the latest first. -/
def Expression.build : List Expression → List Token → Option (List Expression)
  | stack, [] => some stack
  | stack, .number text :: ts => build (.number text :: stack) ts
  | right :: left :: stack, .operator o :: ts => build (.binary o left right :: stack) ts
  | _, _ :: _ => none

/-- The tokens are the postfix sequences of trees, and the numbers on the stack their values. -/
inductive Rpn.Leaves : List Token → List Binary64 → Prop
  | nil : Leaves [] []
  | cons {ts : List Token} {stack : List Binary64} {e : Expression} {x : Binary64}
      (h : Leaves ts stack) (he : e.value? = some x) : Leaves (ts ++ e.postorder) (x :: stack)

variable {e f : Expression} {stack stack' : List Binary64} {x : Binary64} {t : Token}
  {ts us : List Token}

theorem Expression.exists_value (h : ∀ text ∈ e.texts, (Binary64.ofText? text).isSome) :
    ∃ x, e.value? = some x := by
  induction e with
  | number text => exact Option.isSome_iff_exists.1 (h text List.mem_cons_self)
  | binary o left right ihl ihr =>
    obtain ⟨x, hx⟩ := ihl fun text hm => h text (List.mem_append_left _ hm)
    obtain ⟨y, hy⟩ := ihr fun text hm => h text (List.mem_append_right _ hm)
    refine ⟨o.apply x y, ?_⟩
    rw [value?, hx, hy]
    rfl

theorem Rpn.execute_postorder (h : e.value? = some x) (stack : List Binary64) :
    execute stack e.postorder = .ok (x :: stack) := by
  induction e generalizing x stack with
  | number text =>
    rw [Expression.value?] at h
    change push stack (.number text) >>= _ = _
    rw [push, h]
    rfl
  | binary o left right ihl ihr =>
    simp only [Expression.value?, Option.bind_eq_bind, Option.bind_eq_some_iff] at h
    obtain ⟨y, hy, z, hz, hx⟩ := h
    cases hx
    rw [Expression.postorder, execute_append, execute_append, ihl hy]
    change (execute (y :: stack) right.postorder >>= _) = _
    rw [ihr hz]
    rfl

theorem Rpn.value_postorder (h : e.value? = some x) : value e.postorder = .ok x := by
  rw [value, execute_postorder h]
  rfl

theorem Expression.build_postorder (e : Expression) (es : List Expression) (ts : List Token) :
    build es (e.postorder ++ ts) = build (e :: es) ts := by
  induction e generalizing es ts with
  | number text => rfl
  | binary o left right ihl ihr =>
    rw [postorder, List.append_assoc, List.append_assoc, ihl, ihr]
    rfl

theorem Expression.postorder_injective (h : e.postorder = f.postorder) : e = f := by
  have he := build_postorder e [] []
  rw [h, build_postorder] at he
  cases he
  rfl

theorem Expression.value?_binary_eq_some_iff {o : Operator} {left right : Expression} :
    (binary o left right).value? = some x ↔
      ∃ y z, left.value? = some y ∧ right.value? = some z ∧ o.apply y z = x := by
  simp only [value?, Option.bind_eq_bind, Option.bind_eq_some_iff, Option.pure_def,
    Option.some.injEq]
  constructor
  · rintro ⟨y, hy, z, hz, h⟩
    exact ⟨y, z, hy, hz, h⟩
  · rintro ⟨y, z, hy, hz, h⟩
    exact ⟨y, hy, z, hz, h⟩

theorem Rpn.Leaves.pushes (h : Leaves ts stack) (hp : Pushes stack t stack') :
    Leaves (ts ++ [t]) stack' := by
  cases hp with
  | number hx => exact h.cons (e := .number _) hx
  | operator o y z stack =>
    obtain _ | ⟨h, hz⟩ := h
    obtain _ | ⟨h, hy⟩ := h
    have hx := (Expression.value?_binary_eq_some_iff (o := o)).2 ⟨y, z, hy, hz, rfl⟩
    have hl := h.cons hx
    rw [Expression.postorder, ← List.append_assoc, ← List.append_assoc] at hl
    exact hl

/-- Whatever is executed is the postfix order of trees, and their values are left. -/
theorem Rpn.Leaves.execute (h : Leaves ts stack) (he : execute stack us = .ok stack') :
    Leaves (ts ++ us) stack' := by
  induction us generalizing ts stack with
  | nil =>
    cases he
    rwa [List.append_nil]
  | cons u us ih =>
    obtain ⟨mid, hp, he⟩ := pushes_of_execute he
    have hl := ih (h.pushes hp) he
    rwa [List.append_assoc] at hl

/-- A sequence that has a value is the postfix order of a tree that has it. -/
theorem Rpn.exists_tree_of_value (h : value ts = .ok x) :
    ∃ e : Expression, e.postorder = ts ∧ e.value? = some x := by
  have hl := Leaves.nil.execute (execute_of_value h)
  rw [List.nil_append] at hl
  obtain _ | ⟨hl, hx⟩ := hl
  cases hl
  exact ⟨_, rfl, hx⟩

theorem Expression.isSome_of_value? (h : e.value? = some x) :
    ∀ text ∈ e.texts, (Binary64.ofText? text).isSome := by
  induction e generalizing x with
  | number text =>
    intro y hy
    cases List.mem_singleton.1 hy
    exact Option.isSome_of_eq_some h
  | binary o left right ihl ihr =>
    obtain ⟨y, z, hy, hz, -⟩ := value?_binary_eq_some_iff.1 h
    intro text ht
    rcases List.mem_append.1 ht with ht | ht
    · exact ihl hy text ht
    · exact ihr hz text ht

/-- A sequence has a value exactly if it is the postfix order of a tree of readable numbers, and it
is then the value of this tree. There is no other tree that it is the postfix order of. -/
theorem Rpn.value_eq_ok_iff_postorder (ts : List Token) (x : Binary64) :
    (value ts = .ok x ↔ ∃ e : Expression, (∀ text ∈ e.texts, (Binary64.ofText? text).isSome) ∧
        e.postorder = ts ∧ e.value? = some x) ∧
      ∀ e f : Expression, e.postorder = ts → f.postorder = ts → e = f := by
  refine ⟨⟨?_, ?_⟩, ?_⟩
  · intro h
    obtain ⟨e, he, hx⟩ := exists_tree_of_value h
    exact ⟨e, Expression.isSome_of_value? hx, he, hx⟩
  · rintro ⟨e, -, rfl, hx⟩
    exact value_postorder hx
  · intro e f he hf
    exact Expression.postorder_injective (he.trans hf.symm)

theorem Rpn.value_eq_ok_iff_postorder_division :
    let ts := [.number "7", .number "2", .operator .div, .number "-1e1", .operator .sub]
    let e := Expression.binary .sub (.binary .div (.number "7") (.number "2")) (.number "-1e1")
    (∃ x, Binary64.ofText? "13.5" = some x ∧ value ts = .ok x) ∧
      (∀ f : Expression, f.postorder = ts → f = e) ∧
      ∀ x, value [.number "7", .number "2"] ≠ .ok x := by
  intro ts e
  have hv : ∃ x, Binary64.ofText? "13.5" = some x ∧ e.value? = some x := by
    refine ⟨_, rfl, ?_⟩
    decide +kernel
  obtain ⟨x, hx, hv⟩ := hv
  obtain ⟨hi, hu⟩ := value_eq_ok_iff_postorder ts x
  refine ⟨⟨x, hx, hi.2 ⟨e, Expression.isSome_of_value? hv, rfl, hv⟩⟩, ?_, ?_⟩
  · intro f hf
    exact hu f e hf rfl
  · intro x h
    obtain ⟨f, -, hf, -⟩ := (value_eq_ok_iff_postorder _ x).1.1 h
    cases f with
    | number text => cases hf
    | binary o left right =>
      have hl := congrArg List.getLast? hf
      rw [Expression.postorder, List.getLast?_concat] at hl
      cases hl

end Calculator
