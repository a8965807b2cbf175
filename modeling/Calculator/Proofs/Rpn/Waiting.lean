import Mathlib.Data.List.Count
import Calculator.Proofs.Rpn.Order
import Calculator.Proofs.Rpn.Parentheses

namespace Calculator

/-- Whether one thing can wait directly above another: of two operators the upper one must bind
tighter. -/
def Waiting.CoversNext : Waiting → Waiting → Prop
  | operator o, operator p => p.precedence < o.precedence
  | _, _ => True

/-- How many operators can wait from here down to the next opening parenthesis. -/
def Waiting.room : Waiting → Nat
  | operator o => o.precedence
  | opening => 0

variable {stack stack' : List Waiting} {w : Waiting} {t : Token} {ts settled out : List Token}
  {o : Operator}

theorem Operator.precedence_pos (o : Operator) : 0 < o.precedence := by
  cases o <;> decide

theorem Operator.precedence_le_two (o : Operator) : o.precedence ≤ 2 := by
  cases o <;> decide

theorem Waiting.room_le_two (w : Waiting) : w.room ≤ 2 := by
  cases w with
  | operator o => exact o.precedence_le_two
  | opening => exact Nat.zero_le 2

/-- An operator is put above what it does not move to the output. -/
theorem Waiting.coversNext_of_bindsFirst (h : w.bindsFirst o = false) :
    (operator o).CoversNext w := by
  cases w with
  | operator p =>
    have hn : ¬o.precedence ≤ p.precedence := by
      rw [← Operator.bindsFirst_iff]
      exact Bool.eq_false_iff.1 h
    exact Nat.lt_of_not_le hn
  | opening => trivial

theorem Rpn.Settles.isChain (h : Settles stack t settled stack')
    (hc : stack.IsChain Waiting.CoversNext) : stack'.IsChain Waiting.CoversNext := by
  cases h with
  | number text => exact hc
  | @operator o top rest ht hr =>
    refine List.isChain_cons.2 ⟨?_, hc.right_of_append⟩
    intro w hw
    exact Waiting.coversNext_of_bindsFirst (hr w hw)
  | opening => exact List.isChain_cons.2 ⟨fun _ _ => trivial, hc⟩
  | closing => exact hc.right_of_append.tail

theorem Rpn.isChain_of_run (h : run stack ts = .ok (out, stack'))
    (hc : stack.IsChain Waiting.CoversNext) : stack'.IsChain Waiting.CoversNext := by
  induction ts generalizing stack out with
  | nil =>
    cases h
    exact hc
  | cons t ts ih =>
    obtain ⟨settled, mid, rest, hs, hr, -⟩ := settles_of_run h
    exact ih hr (hs.isChain hc)

/-- Each opening parenthesis makes room for itself and two operators more. -/
theorem Waiting.length_le_room (hc : stack.IsChain CoversNext) :
    stack.length ≤ 3 * depth stack + stack.head?.elim 0 room := by
  induction stack with
  | nil => exact Nat.zero_le _
  | cons w rest ih =>
    obtain ⟨hw, hc⟩ := List.isChain_cons.1 hc
    have ih := ih hc
    cases w with
    | operator o =>
      have hd : depth (.operator o :: rest) = depth rest := rfl
      have ho : rest.head?.elim 0 room < o.precedence := by
        cases rest with
        | nil => exact o.precedence_pos
        | cons v rest =>
          cases v with
          | operator p => exact hw _ rfl
          | opening => exact o.precedence_pos
      change rest.length + 1 ≤ 3 * depth (.operator o :: rest) + o.precedence
      omega
    | opening =>
      have ho : rest.head?.elim 0 room ≤ 2 := by
        cases rest with
        | nil => exact Nat.zero_le 2
        | cons v rest => exact v.room_le_two
      change rest.length + 1 ≤ 3 * depth (.opening :: rest) + 0
      rw [depth_opening]
      omega

theorem Waiting.length_le (hc : stack.IsChain CoversNext) :
    stack.length ≤ 3 * depth stack + 2 := by
  have hl := length_le_room hc
  cases stack with
  | nil => exact Nat.zero_le _
  | cons w rest => exact Nat.le_trans hl (Nat.add_le_add_left w.room_le_two _)

theorem Waiting.length_operators_le {os : List Operator} (hc : stack.IsChain CoversNext)
    (h : os.map operator <:+: stack) : os.length ≤ 2 := by
  have hd : depth (os.map operator) = 0 := by
    apply depth_eq_zero_iff.2
    intro w hw
    obtain ⟨o, -, rfl⟩ := List.mem_map.1 hw
    rfl
  have hi := List.IsChain.infix hc h
  have hl := length_le hi
  rwa [hd, List.length_map] at hl

theorem Rpn.exists_finish_eq_error_iff :
    (∃ f, finish stack = .error f) ↔ .opening ∈ stack := by
  have hd : stack.all Waiting.isOperator ↔ .opening ∉ stack := by
    rw [List.all_eq_true, ← Waiting.depth_eq_zero_iff, Waiting.depth, List.count_eq_zero]
  rw [finish]
  split
  · next ha =>
    refine iff_of_false ?_ (hd.1 ha)
    rintro ⟨f, hf⟩
    cases hf
  · next ha => exact iff_of_true ⟨_, rfl⟩ (not_not.1 (mt hd.2 ha))

theorem Rpn.Unrestricted.settle_map (stack : List Waiting) (t : Token) :
    settle (stack.map Waiting.token) t =
      (Rpn.settle stack t).map fun p => (p.1, p.2.map Waiting.token) := by
  cases t with
  | number text => rfl
  | operator o =>
    have hp : (Token.bindsFirst o ∘ Waiting.token) = Waiting.bindsFirst o := by
      funext w
      cases w <;> rfl
    simp only [settle, Rpn.settle, List.takeWhile_map, List.dropWhile_map, hp]
    rfl
  | opening => rfl
  | closing =>
    have hp : ((fun t => decide (t ≠ .opening)) ∘ Waiting.token) = Waiting.isOperator := by
      funext w
      cases w <;> rfl
    have hd := eq_false_of_mem_head?_dropWhile Waiting.isOperator stack
    simp only [settle, Rpn.settle, List.takeWhile_map, List.dropWhile_map, hp]
    cases hs : stack.dropWhile Waiting.isOperator with
    | nil => rfl
    | cons w rest =>
      rw [hs] at hd
      cases w with
      | operator o => cases hd _ rfl
      | opening => rfl

theorem Rpn.Unrestricted.run_map (stack : List Waiting) (ts : List Token) :
    run (stack.map Waiting.token) ts =
      (Rpn.run stack ts).map fun p => (p.1, p.2.map Waiting.token) := by
  induction ts generalizing stack with
  | nil => rfl
  | cons t ts ih =>
    rw [run, Rpn.run, settle_map]
    cases Rpn.settle stack t with
    | error f => rfl
    | ok p =>
      simp only [Except.map, ok_bind, ih]
      cases Rpn.run p.2 ts <;> rfl

theorem Rpn.Unrestricted.finish_map (stack : List Waiting) :
    finish (stack.map Waiting.token) = Rpn.finish stack := by
  have hp : (Token.isParenthesis ∘ Waiting.token) = fun w => !w.isOperator := by
    funext w
    cases w <;> rfl
  rw [finish, Rpn.finish, List.any_map, hp, List.any_eq_not_all_not]
  simp only [Bool.not_not]
  cases stack.all Waiting.isOperator <;> rfl

/-- No other token ever waits: the conversion is the same on a stack that could hold any. -/
theorem Rpn.Unrestricted.ofInfix_eq (ts : List Token) : ofInfix ts = Rpn.ofInfix ts := by
  have hr := run_map [] ts
  rw [List.map_nil] at hr
  rw [ofInfix, Rpn.ofInfix, hr]
  cases Rpn.run [] ts with
  | error f => rfl
  | ok p =>
    change (finish (p.2.map Waiting.token) >>= _) = Rpn.finish p.2 >>= _
    rw [finish_map]

theorem Waiting.token_injective : Function.Injective token := by
  intro v w h
  cases v <;> cases w <;> cases h <;> rfl

theorem Waiting.infix_of_map_token {os : List Operator}
    (h : os.map Token.operator <:+: stack.map token) : os.map operator <:+: stack := by
  have he : os.map Token.operator = (os.map operator).map token := by
    rw [List.map_map]
    rfl
  obtain ⟨ws, hi, hs⟩ := List.infix_map_iff.1 h
  rw [he, List.map_inj_right token_injective] at hs
  rwa [hs]

/-- Whatever has been read, only operators and opening parentheses wait, also where any token might,
and at the end only an opening parenthesis stands in the way. Of two operators that wait directly
above one another the upper one binds tighter, so that no three of them do, and what waits is
bounded by the number of parentheses that are open. -/
theorem Rpn.waiting_of_run (ts : List Token) :
    Unrestricted.ofInfix ts = ofInfix ts ∧
      Unrestricted.run [] ts = (run [] ts).map (fun p => (p.1, p.2.map Waiting.token)) ∧
      ∀ out stack, Unrestricted.run [] ts = .ok (out, stack) →
        (∀ t ∈ stack, t.isOperator ∨ t = .opening) ∧
        ((∃ f, Unrestricted.finish stack = .error f) ↔ .opening ∈ stack) ∧
        (∀ o p, [.operator o, .operator p] <:+: stack → p.precedence < o.precedence) ∧
        (∀ os : List Operator, os.map .operator <:+: stack → os.length ≤ 2) ∧
        stack.length ≤ 3 * stack.count .opening + 2 ∧
        stack.count .opening + ts.count .closing = ts.count .opening := by
  refine ⟨Unrestricted.ofInfix_eq ts, Unrestricted.run_map [] ts, ?_⟩
  intro out stack h
  obtain ⟨⟨out, waiting⟩, hr, ⟨⟩⟩ := exists_of_map_eq_ok ((Unrestricted.run_map [] ts).symm.trans h)
  have hc : waiting.IsChain Waiting.CoversNext := isChain_of_run hr .nil
  have hn : (waiting.map Waiting.token).count .opening = Waiting.depth waiting :=
    List.count_map_of_injective waiting _ Waiting.token_injective .opening
  refine ⟨?_, ?_, ?_, ?_, ?_, ?_⟩
  · intro t ht
    obtain ⟨w, -, rfl⟩ := List.mem_map.1 ht
    cases w with
    | operator o => exact .inl rfl
    | opening => exact .inr rfl
  · rw [Unrestricted.finish_map, exists_finish_eq_error_iff]
    exact (List.mem_map_of_injective Waiting.token_injective).symm
  · intro o p hi
    have hi : [o, p].map Waiting.operator <:+: waiting := Waiting.infix_of_map_token hi
    have hw : ([o, p].map Waiting.operator).IsChain Waiting.CoversNext :=
      List.IsChain.infix hc hi
    exact (List.isChain_cons_cons.1 hw).1
  · intro os hi
    exact Waiting.length_operators_le hc (Waiting.infix_of_map_token hi)
  · rw [List.length_map, hn]
    exact Waiting.length_le hc
  · have hd := depth_of_run hr
    rwa [Waiting.depth_nil, Nat.zero_add, ← hn] at hd

theorem Rpn.waiting_of_run_full :
    let ts : List Token := [.number "1", .operator .add, .number "2", .operator .mul, .opening,
      .number "3", .operator .sub, .number "4", .operator .div]
    let stack : List Token := [.operator .div, .operator .sub, .opening, .operator .mul,
      .operator .add]
    Unrestricted.run [] ts = .ok ([.number "1", .number "2", .number "3", .number "4"], stack) ∧
      (∀ t ∈ stack, t.isOperator ∨ t = .opening) ∧
      (∀ o p, [.operator o, .operator p] <:+: stack → p.precedence < o.precedence) ∧
      (∀ os : List Operator, os.map .operator <:+: stack → os.length ≤ 2) ∧
      stack.length ≤ 3 * stack.count .opening + 2 ∧ 3 * stack.count .opening + 2 = 5 := by
  intro ts stack
  have h : Unrestricted.run [] ts =
      .ok ([.number "1", .number "2", .number "3", .number "4"], stack) := by rfl
  obtain ⟨ht, -, hp, ho, hl, -⟩ := (waiting_of_run ts).2.2 _ _ h
  exact ⟨h, ht, hp, ho, hl, rfl⟩

end Calculator
