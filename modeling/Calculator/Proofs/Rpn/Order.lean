import Calculator.Proofs.Expression.Grammar
import Calculator.Proofs.Rpn.Settles

namespace Calculator

/-- How tightly the operators bind that a layer joins; a factor has none. -/
def Layer.precedence : Layer → Nat
  | sum => 1
  | product => 2
  | factor => 3

theorem Operator.bindsFirst_iff {waiting incoming : Operator} :
    waiting.bindsFirst incoming ↔ incoming.precedence ≤ waiting.precedence := by
  cases waiting <;> cases incoming <;> decide

/-- Whether no operator of a layer makes the top of a stack move to the output. -/
def Layer.Shields (l : Layer) (stack : List Waiting) : Prop :=
  ∀ o : Operator, l.precedence ≤ o.precedence → ∀ w ∈ stack.head?, w.bindsFirst o = false

/-- Reading tokens above a stack leaves the stack as it is: the output, and the operators that wait
above the stack, are the postfix order of a tree. -/
def Layer.Reads (l : Layer) (stack : List Waiting) (ts : List Token) (e : Expression) : Prop :=
  ∃ (settled : List Token) (os : List Operator),
    Rpn.run stack ts = .ok (settled, os.map .operator ++ stack) ∧
    settled ++ os.map .operator = e.postorder ∧ ∀ o ∈ os, l.precedence ≤ o.precedence

variable {l l' : Layer} {stack stack' stack'' : List Waiting} {t : Token}
  {ts us settled rest : List Token} {e f : Expression} {o : Operator} {os : List Operator}

theorem Layer.Shields.mono (h : l.Shields stack) (hl : l.precedence ≤ l'.precedence) :
    l'.Shields stack :=
  fun o ho => h o (Nat.le_trans hl ho)

theorem Layer.shields_opening : l.Shields (.opening :: stack) := by
  intro o _ w hw
  cases hw
  rfl

theorem Layer.shields_operator (h : o.precedence < l.precedence) :
    l.Shields (.operator o :: stack) := by
  intro o' ho w hw
  cases hw
  apply Bool.eq_false_iff.2
  intro hb
  have := Operator.bindsFirst_iff.1 hb
  omega

theorem map_token_operator : (os.map Waiting.operator).map Waiting.token = os.map .operator := by
  rw [List.map_map]
  rfl

theorem Rpn.settles_operator (hb : ∀ p ∈ os, o.precedence ≤ p.precedence)
    (hs : ∀ w ∈ stack.head?, w.bindsFirst o = false) :
    Settles (os.map .operator ++ stack) (.operator o) (os.map .operator)
      (.operator o :: stack) := by
  rw [← map_token_operator]
  refine .operator ?_ hs
  intro w hw
  obtain ⟨p, hp, rfl⟩ := List.mem_map.1 hw
  exact Operator.bindsFirst_iff.2 (hb p hp)

theorem Rpn.settles_closing :
    Settles (os.map .operator ++ .opening :: stack) .closing (os.map .operator) stack := by
  rw [← map_token_operator]
  refine .closing ?_
  intro w hw
  obtain ⟨p, hp, rfl⟩ := List.mem_map.1 hw
  rfl

theorem Layer.Reads.mono (h : l.Reads stack ts e) (hl : l'.precedence ≤ l.precedence) :
    l'.Reads stack ts e := by
  obtain ⟨settled, os, hr, he, ho⟩ := h
  exact ⟨settled, os, hr, he, fun o hm => Nat.le_trans hl (ho o hm)⟩

theorem Layer.Reads.group (h : l.Reads (.opening :: stack) ts e) :
    l'.Reads stack (.opening :: (ts ++ [.closing])) e := by
  obtain ⟨settled, os, hr, he, -⟩ := h
  have hc : Rpn.run (os.map .operator ++ .opening :: stack) [.closing] =
      .ok (os.map .operator, stack) := by
    simpa using Rpn.settles_closing.run_cons (Rpn.run.eq_1 stack)
  have hr := (Rpn.Settles.opening stack).run_cons (Rpn.run_append_of_eq_ok hr hc)
  refine ⟨settled ++ os.map Token.operator, [], hr, ?_, List.forall_mem_nil _⟩
  rw [List.map_nil, List.append_nil, he]

theorem Layer.Reads.binary (ho : o.precedence = l.precedence)
    (hl : l.precedence < l'.precedence) (hs : l.Shields stack) (h : l.Reads stack ts e)
    (h' : l'.Reads (.operator o :: stack) us f) :
    l.Reads stack (ts ++ .operator o :: us) (.binary o e f) := by
  obtain ⟨settled, os, hr, he, hb⟩ := h
  obtain ⟨settled', os', hr', he', hb'⟩ := h'
  have ho' : Rpn.Settles (os.map .operator ++ stack) (.operator o) (os.map .operator)
      (.operator o :: stack) :=
    Rpn.settles_operator (fun p hp => ho ▸ hb p hp) (hs o (Nat.le_of_eq ho.symm))
  refine ⟨settled ++ (os.map .operator ++ settled'), os' ++ [o], ?_, ?_, ?_⟩
  · rw [List.map_append, List.append_assoc]
    exact Rpn.run_append_of_eq_ok hr (ho'.run_cons hr')
  · rw [Expression.postorder, ← he, ← he']
    simp only [List.map_append, List.append_assoc]
    rfl
  · intro p hp
    rcases List.mem_append.1 hp with hp | hp
    · exact Nat.le_trans (Nat.le_of_lt hl) (hb' p hp)
    · cases List.mem_singleton.1 hp
      exact Nat.le_of_eq ho.symm

theorem Derives.reads (h : Derives l ts e) (hs : l.Shields stack) : l.Reads stack ts e := by
  -- Below a parenthesis, or below an operator of a looser layer, any stack is shielded.
  induction h generalizing stack with
  | number text => exact ⟨[.number text], [], rfl, rfl, nofun⟩
  | group h ih => exact (ih Layer.shields_opening).group
  | factor h ih => exact (ih (hs.mono (by decide))).mono (by decide)
  | @times o _ _ _ _ ho h h' ih ih' =>
    have hp : o.precedence = Layer.product.precedence := by
      rcases ho with rfl | rfl <;> rfl
    exact .binary hp (by decide) hs (ih hs) (ih' (Layer.shields_operator (by rw [hp]; decide)))
  | product h ih => exact (ih (hs.mono (by decide))).mono (by decide)
  | @plus o _ _ _ _ ho h h' ih ih' =>
    have hp : o.precedence = Layer.sum.precedence := by
      rcases ho with rfl | rfl <;> rfl
    exact .binary hp (by decide) hs (ih hs) (ih' (Layer.shields_operator (by rw [hp]; decide)))

theorem Layer.Reads.ofInfix (h : l.Reads [] ts e) : Rpn.ofInfix ts = .ok e.postorder := by
  obtain ⟨settled, os, hr, he, -⟩ := h
  rw [List.append_nil] at hr
  rw [Rpn.ofInfix_of_run hr (by simp [Waiting.isOperator]), map_token_operator, he]

/-- Reordering what can be read as a sum yields the postfix order of its tree. -/
theorem Rpn.ofInfix_eq_postorder (h : Derives .sum ts e) : ofInfix ts = .ok e.postorder := by
  have hs : Layer.sum.Shields [] := nofun
  exact (h.reads hs).ofInfix

theorem Rpn.ofInfix_eq_postorder_nested :
    Derives .sum [.number "9", .operator .sub, .opening, .number "3", .operator .sub, .number "2",
        .closing, .operator .mul, .number "4", .operator .sub, .number "1"]
        (.binary .sub (.binary .sub (.number "9") (.binary .mul (.binary .sub (.number "3")
          (.number "2")) (.number "4"))) (.number "1")) ∧
      ofInfix [.number "9", .operator .sub, .opening, .number "3", .operator .sub, .number "2",
          .closing, .operator .mul, .number "4", .operator .sub, .number "1"] =
        .ok [.number "9", .number "3", .number "2", .operator .sub, .number "4", .operator .mul,
          .operator .sub, .number "1", .operator .sub] := by
  have hm := Derives.plus (.inr rfl) (.product (.factor (.number "3"))) (.factor (.number "2"))
  have hp := Derives.times (.inl rfl) (.factor (.group hm)) (.number "4")
  have hs := Derives.plus (.inr rfl) (.product (.factor (.number "9"))) hp
  have hd := Derives.plus (.inr rfl) hs (.factor (.number "1"))
  exact ⟨hd, ofInfix_eq_postorder hd⟩

end Calculator
