import Mathlib.Data.List.Perm.Basic
import Calculator.Proofs.Rpn.Settles
import Calculator.Token.Basic

namespace Calculator

inductive Balanced : List Token → Prop
  | nil : Balanced []
  | plain {t : Token} {ts : List Token} (ht : t.isParenthesis = false) (h : Balanced ts) :
      Balanced (t :: ts)
  | group {ts us : List Token} (h : Balanced ts) (h' : Balanced us) :
      Balanced (.opening :: (ts ++ .closing :: us))

/-- The token lists that match once `n` parentheses are open before them. -/
inductive Closes : Nat → List Token → Prop
  | balanced {ts : List Token} (h : Balanced ts) : Closes 0 ts
  | closing {n : Nat} {ts us : List Token} (h : Balanced ts) (h' : Closes n us) :
      Closes (n + 1) (ts ++ .closing :: us)

def Waiting.depth (stack : List Waiting) : Nat :=
  stack.count .opening

def Waiting.operators (stack : List Waiting) : List Token :=
  (stack.filter isOperator).map token

variable {n : Nat} {stack stack' top rest : List Waiting} {t : Token}
  {ts us settled out : List Token}

theorem Balanced.ne_closing_of_head? (h : Balanced ts) : ∀ t ∈ ts.head?, t ≠ .closing := by
  cases h with
  | nil => nofun
  | plain ht h =>
    rintro _ ⟨⟩ rfl
    cases ht
  | group h h' =>
    rintro _ ⟨⟩
    nofun

theorem Balanced.ne_opening_of_getLast? (h : Balanced ts) : ∀ t ∈ ts.getLast?, t ≠ .opening := by
  induction h with
  | nil => nofun
  | @plain t ts ht h ih =>
    cases ts with
    | nil =>
      rintro _ ⟨⟩ rfl
      cases ht
    | cons u ts => rwa [List.getLast?_cons_cons]
  | @group ts us h h' ih ih' =>
    cases us with
    | nil =>
      rw [← List.cons_append, List.getLast?_concat]
      rintro _ ⟨⟩
      nofun
    | cons u us => rwa [← List.cons_append, List.getLast?_append_cons, List.getLast?_cons_cons]

theorem Closes.plain (ht : t.isParenthesis = false) (h : Closes n ts) : Closes n (t :: ts) := by
  cases h with
  | balanced h => exact .balanced (.plain ht h)
  | closing h h' => exact .closing (.plain ht h) h'

theorem Closes.opening (h : Closes (n + 1) ts) : Closes n (.opening :: ts) := by
  cases h with
  | closing h h' =>
    cases h' with
    | balanced h' => exact .balanced (.group h h')
    | @closing m us vs h' h'' =>
      have hc := Closes.closing (.group h h') h''
      rwa [List.cons_append, List.append_assoc] at hc

theorem Waiting.isOperator_of_bindsFirst {w : Waiting} {o : Operator} (h : w.bindsFirst o) :
    w.isOperator := by
  cases w with
  | operator => rfl
  | opening => cases h

theorem Waiting.depth_eq_zero_iff : depth stack = 0 ↔ ∀ w ∈ stack, w.isOperator := by
  rw [depth, List.count_eq_zero]
  constructor
  · intro h w hw
    cases w with
    | operator o => rfl
    | opening => exact absurd hw h
  · intro h hm
    cases h _ hm

@[simp] theorem Waiting.depth_nil : depth [] = 0 := rfl

theorem Waiting.depth_append (ht : ∀ w ∈ top, w.isOperator) :
    depth (top ++ rest) = depth rest := by
  have hd : depth (top ++ rest) = depth top + depth rest := List.count_append
  rw [hd, depth_eq_zero_iff.2 ht, Nat.zero_add]

@[simp] theorem Waiting.depth_opening : depth (.opening :: stack) = depth stack + 1 :=
  List.count_cons_self

@[simp] theorem Waiting.operators_operator {o : Operator} :
    operators (.operator o :: stack) = .operator o :: operators stack := rfl

theorem Waiting.operators_append (ht : ∀ w ∈ top, w.isOperator) :
    operators (top ++ rest) = top.map token ++ operators rest := by
  rw [operators, List.filter_append, List.filter_eq_self.2 ht, List.map_append]
  rfl

theorem Rpn.closes_of_run (h : run stack ts = .ok (out, stack'))
    (h' : Waiting.depth stack' = 0) : Closes (Waiting.depth stack) ts := by
  -- What is left to read closes the parentheses that wait, from the innermost outwards.
  induction ts generalizing stack out with
  | nil =>
    cases h
    rw [h']
    exact .balanced .nil
  | cons t ts ih =>
    obtain ⟨settled, mid, rest, hs, hr, -⟩ := settles_of_run h
    have ih := ih hr
    cases hs with
    | number text => exact ih.plain rfl
    | operator ht =>
      rw [Waiting.depth_append fun w hw => Waiting.isOperator_of_bindsFirst (ht w hw)]
      exact ih.plain rfl
    | opening =>
      rw [Waiting.depth_opening] at ih
      exact .opening ih
    | closing ht =>
      rw [Waiting.depth_append ht, Waiting.depth_opening]
      exact .closing .nil ih

theorem Rpn.Settles.perm (h : Settles stack t settled stack') :
    (settled ++ Waiting.operators stack').Perm
      (Waiting.operators stack ++ [t].filter (!·.isParenthesis)) := by
  cases h with
  | number text => exact List.perm_append_comm
  | @operator o top rest ht =>
    rw [Waiting.operators_append fun w hw => Waiting.isOperator_of_bindsFirst (ht w hw),
      List.append_assoc]
    exact .append_left _ (List.perm_append_singleton _ _).symm
  | opening => exact .of_eq (List.append_nil _).symm
  | closing ht =>
    rw [Waiting.operators_append ht]
    exact .of_eq (List.append_nil _).symm

/-- A run loses no number and no operator, and makes none. -/
theorem Rpn.perm_of_run (h : run stack ts = .ok (out, stack')) :
    (out ++ Waiting.operators stack').Perm
      (Waiting.operators stack ++ ts.filter (!·.isParenthesis)) := by
  induction ts generalizing stack out with
  | nil =>
    cases h
    exact .of_eq (List.append_nil _).symm
  | cons t ts ih =>
    obtain ⟨settled, mid, rest, hs, hr, rfl⟩ := settles_of_run h
    have hl := (ih hr).append_left settled
    have hp := hs.perm.append_right (ts.filter (!·.isParenthesis))
    rw [← List.append_assoc, ← List.append_assoc] at hl
    rw [List.append_assoc (Waiting.operators stack), ← List.filter_append] at hp
    exact hl.trans hp

theorem Rpn.exists_run_of_ofInfix (h : ofInfix ts = .ok us) :
    ∃ out stack, run [] ts = .ok (out, stack) ∧ us = out ++ Waiting.operators stack := by
  obtain ⟨out, stack, hr, ho, rfl⟩ := run_of_ofInfix h
  refine ⟨out, stack, hr, ?_⟩
  rw [Waiting.operators, List.filter_eq_self.2 ho]

/-- Reordering succeeds only if the parentheses match. -/
theorem Rpn.balanced_of_ofInfix (h : ofInfix ts = .ok us) : Balanced ts := by
  obtain ⟨out, stack, hr, ho, -⟩ := run_of_ofInfix h
  cases closes_of_run hr (Waiting.depth_eq_zero_iff.2 ho) with
  | balanced hb => exact hb

/-- Reordering drops the parentheses and nothing else. -/
theorem Rpn.perm_of_ofInfix (h : ofInfix ts = .ok us) :
    us.Perm (ts.filter (!·.isParenthesis)) := by
  obtain ⟨out, stack, hr, rfl⟩ := exists_run_of_ofInfix h
  exact perm_of_run hr

theorem Rpn.mem_of_ofInfix (h : ofInfix ts = .ok us) (ht : t ∈ us) :
    t ∈ ts ∧ t.isParenthesis = false := by
  obtain ⟨ht, hp⟩ := List.mem_filter.1 ((perm_of_ofInfix h).mem_iff.1 ht)
  exact ⟨ht, by simpa using hp⟩

theorem Rpn.countP_of_ofInfix (p : Token → Bool) (h : ofInfix ts = .ok us)
    (hp : ∀ t, p t → t.isParenthesis = false) : us.countP p = ts.countP p := by
  rw [(perm_of_ofInfix h).countP_eq, List.countP_filter]
  apply List.countP_congr
  intro t _
  simpa using hp t

end Calculator
