import Mathlib.Data.List.TakeWhile
import Calculator.Proofs.Except
import Calculator.Rpn

namespace Calculator

/-- What a token does to the waiting stack when it does not fail: what moves to the output is the
longest part of the top that binds first, or the operators above the parenthesis that is closed. -/
inductive Rpn.Settles : List Waiting → Token → List Token → List Waiting → Prop
  | number (text : String) (stack : List Waiting) :
      Settles stack (.number text) [.number text] stack
  | operator {o : Operator} {top rest : List Waiting} (ht : ∀ w ∈ top, w.bindsFirst o)
      (hr : ∀ w ∈ rest.head?, w.bindsFirst o = false) :
      Settles (top ++ rest) (.operator o) (top.map Waiting.token) (.operator o :: rest)
  | opening (stack : List Waiting) : Settles stack .opening [] (.opening :: stack)
  | closing {top rest : List Waiting} (ht : ∀ w ∈ top, w.isOperator) :
      Settles (top ++ .opening :: rest) .closing (top.map Waiting.token) rest

theorem takeWhile_append_of_head {α : Type} {p : α → Bool} {as bs : List α} (ha : ∀ a ∈ as, p a)
    (hb : ∀ b ∈ bs.head?, p b = false) : (as ++ bs).takeWhile p = as := by
  rw [List.takeWhile_append_of_pos ha]
  cases bs with
  | nil => rw [List.takeWhile_nil, List.append_nil]
  | cons b bs =>
    rw [List.takeWhile_cons_of_neg (Bool.eq_false_iff.1 (hb b rfl)), List.append_nil]

theorem dropWhile_append_of_head {α : Type} {p : α → Bool} {as bs : List α} (ha : ∀ a ∈ as, p a)
    (hb : ∀ b ∈ bs.head?, p b = false) : (as ++ bs).dropWhile p = bs := by
  rw [List.dropWhile_append_of_pos ha]
  cases bs with
  | nil => rfl
  | cons b bs => exact List.dropWhile_cons_of_neg (Bool.eq_false_iff.1 (hb b rfl))

variable {stack stack' stack'' : List Waiting} {t : Token} {ts us settled rest : List Token}

theorem Rpn.Settles.settle (h : Settles stack t settled stack') :
    settle stack t = .ok (settled, stack') := by
  cases h with
  | number text => rfl
  | operator ht hr =>
    rw [Rpn.settle, takeWhile_append_of_head ht hr, dropWhile_append_of_head ht hr]
  | opening => rfl
  | closing ht =>
    have hr : ∀ w ∈ (Waiting.opening :: stack').head?, w.isOperator = false := by
      rintro _ ⟨⟩
      rfl
    simp only [Rpn.settle, takeWhile_append_of_head ht hr, dropWhile_append_of_head ht hr]

theorem eq_false_of_mem_head?_dropWhile {α : Type} (p : α → Bool) (as : List α) :
    ∀ a ∈ (as.dropWhile p).head?, p a = false := by
  intro a ha
  have hn : as.dropWhile p ≠ [] := by
    intro h
    rw [h] at ha
    cases ha
  rw [List.head?_eq_some_head hn, Option.mem_some] at ha
  subst ha
  exact List.head_dropWhile_not p hn

theorem Rpn.settles_of_settle (h : settle stack t = .ok (settled, stack')) :
    Settles stack t settled stack' := by
  cases t with
  | number text =>
    cases h
    exact .number text _
  | operator o =>
    have ht : ∀ w ∈ stack.takeWhile (·.bindsFirst o), w.bindsFirst o :=
      fun w => List.mem_takeWhile_imp
    have hs := Settles.operator ht (eq_false_of_mem_head?_dropWhile _ stack)
    rw [List.takeWhile_append_dropWhile] at hs
    cases h
    exact hs
  | opening =>
    cases h
    exact .opening _
  | closing =>
    simp only [settle] at h
    split at h
    · next rest hd =>
      have ht : ∀ w ∈ stack.takeWhile Waiting.isOperator, w.isOperator :=
        fun w => List.mem_takeWhile_imp
      have hs : Settles (_ ++ .opening :: rest) .closing _ rest := .closing ht
      rw [← hd, List.takeWhile_append_dropWhile] at hs
      cases h
      exact hs
    · cases h

theorem Rpn.Settles.run_cons (h : Settles stack t settled stack')
    (h' : run stack' ts = .ok (rest, stack'')) :
    run stack (t :: ts) = .ok (settled ++ rest, stack'') := by
  simp only [run, h.settle, h', ok_bind]
  rfl

theorem Rpn.run_append_of_eq_ok (h : run stack ts = .ok (settled, stack'))
    (h' : run stack' us = .ok (rest, stack'')) :
    run stack (ts ++ us) = .ok (settled ++ rest, stack'') := by
  simp only [run_append, h, h', ok_bind]
  rfl

theorem Rpn.settles_of_run {out : List Token} (h : run stack (t :: ts) = .ok (out, stack'')) :
    ∃ settled stack' rest, Settles stack t settled stack' ∧
      run stack' ts = .ok (rest, stack'') ∧ out = settled ++ rest := by
  rw [run] at h
  obtain ⟨p, hs, h⟩ := exists_of_bind_eq_ok h
  obtain ⟨q, hr, h⟩ := exists_of_bind_eq_ok h
  cases h
  exact ⟨p.1, p.2, q.1, settles_of_settle hs, hr, rfl⟩

theorem Rpn.ofInfix_of_run (h : run [] ts = .ok (settled, stack))
    (ho : ∀ w ∈ stack, w.isOperator) : ofInfix ts = .ok (settled ++ stack.map Waiting.token) := by
  have hf : finish stack = .ok (stack.map Waiting.token) := by
    rw [finish, if_pos (List.all_eq_true.2 ho)]
  simp only [ofInfix, h, hf, ok_bind]
  rfl

theorem Rpn.run_of_ofInfix (h : ofInfix ts = .ok us) :
    ∃ out stack, run [] ts = .ok (out, stack) ∧ (∀ w ∈ stack, w.isOperator) ∧
      us = out ++ stack.map Waiting.token := by
  obtain ⟨⟨out, stack⟩, hr, h⟩ := exists_of_bind_eq_ok h
  obtain ⟨rest, hf, h⟩ := exists_of_bind_eq_ok h
  simp only [finish] at hf
  split at hf
  · next ha =>
    cases hf
    cases h
    exact ⟨out, stack, hr, List.all_eq_true.1 ha, rfl⟩
  · cases hf

end Calculator
