import Mathlib.Data.List.Infix
import Calculator.Proofs.Rpn.Balance

namespace Calculator

/-- No parenthesis is closed before it is opened, and in the end all are closed. -/
def Nests (ts : List Token) : Prop :=
  (∀ us ∈ ts.inits, us.count .closing ≤ us.count .opening) ∧
    ts.count .closing = ts.count .opening

instance (ts : List Token) : Decidable (Nests ts) :=
  inferInstanceAs (Decidable (_ ∧ _))

variable {stack stack' : List Waiting} {t : Token} {ts us settled out : List Token}

theorem Waiting.exists_opening (h : 0 < depth stack) :
    ∃ top rest, stack = top ++ .opening :: rest ∧ ∀ w ∈ top, w.isOperator := by
  obtain ⟨top, rest, hs, hn⟩ := List.eq_append_cons_of_mem (List.count_pos_iff.1 h)
  exact ⟨top, rest, hs, depth_eq_zero_iff.1 (List.count_eq_zero.2 hn)⟩

/-- One parenthesis waits for each that is open. -/
theorem Rpn.Settles.depth (h : Settles stack t settled stack') :
    Waiting.depth stack' + [t].count .closing = Waiting.depth stack + [t].count .opening := by
  cases h with
  | number text => rfl
  | operator ht =>
    rw [Waiting.depth_append fun w hw => Waiting.isOperator_of_bindsFirst (ht w hw)]
    rfl
  | opening => exact Waiting.depth_opening
  | closing ht =>
    rw [Waiting.depth_append ht, Waiting.depth_opening]
    rfl

theorem Rpn.depth_of_run (h : run stack ts = .ok (out, stack')) :
    Waiting.depth stack' + ts.count .closing = Waiting.depth stack + ts.count .opening := by
  induction ts generalizing stack out with
  | nil =>
    cases h
    rfl
  | cons t ts ih =>
    obtain ⟨settled, mid, rest, hs, hr, -⟩ := settles_of_run h
    have hd := hs.depth
    have ih := ih hr
    rw [← List.singleton_append, List.count_append, List.count_append]
    omega

theorem Rpn.exists_settles (h : [t].count .closing ≤ Waiting.depth stack + [t].count .opening) :
    ∃ settled stack', Settles stack t settled stack' := by
  cases t with
  | number text => exact ⟨_, _, .number text stack⟩
  | operator o => exact ⟨_, _, settles_of_settle rfl⟩
  | opening => exact ⟨_, _, .opening stack⟩
  | closing =>
    obtain ⟨top, rest, rfl, ht⟩ := Waiting.exists_opening h
    exact ⟨_, _, .closing ht⟩

/-- A run succeeds as long as it closes nothing that is not open. -/
theorem Rpn.exists_run_iff : (∃ r, run stack ts = .ok r) ↔
    ∀ us, us <+: ts → us.count .closing ≤ Waiting.depth stack + us.count .opening := by
  constructor
  · rintro ⟨⟨out, stack'⟩, h⟩ us ⟨vs, rfl⟩
    rw [run_append] at h
    obtain ⟨⟨settled, mid⟩, hr, -⟩ := exists_of_bind_eq_ok h
    have hd := depth_of_run hr
    omega
  · intro h
    induction ts generalizing stack with
    | nil => exact ⟨_, rfl⟩
    | cons t ts ih =>
      obtain ⟨settled, mid, hs⟩ := exists_settles (h [t] (List.prefix_append [t] ts))
      have hd := hs.depth
      obtain ⟨⟨rest, stack'⟩, hr⟩ : ∃ r, run mid ts = .ok r := by
        apply ih
        intro us hu
        have hc := h (t :: us) (List.cons_prefix_cons.2 ⟨rfl, hu⟩)
        rw [← List.singleton_append, List.count_append, List.count_append] at hc
        omega
      exact ⟨_, hs.run_cons hr⟩

theorem Rpn.exists_ofInfix_iff : (∃ us, ofInfix ts = .ok us) ↔ Nests ts := by
  constructor
  · rintro ⟨us, h⟩
    obtain ⟨out, stack, hr, ho, -⟩ := run_of_ofInfix h
    have hd := depth_of_run hr
    rw [Waiting.depth_eq_zero_iff.2 ho, Waiting.depth_nil, Nat.zero_add, Nat.zero_add] at hd
    refine ⟨?_, hd⟩
    intro us hu
    have hc := exists_run_iff.1 ⟨_, hr⟩ us ((List.mem_inits us ts).1 hu)
    rwa [Waiting.depth_nil, Nat.zero_add] at hc
  · rintro ⟨hp, hc⟩
    have hx : ∃ r, run [] ts = .ok r := by
      apply exists_run_iff.2
      intro us hu
      rw [Waiting.depth_nil, Nat.zero_add]
      exact hp us ((List.mem_inits us ts).2 hu)
    obtain ⟨⟨out, stack⟩, hr⟩ := hx
    have hd := depth_of_run hr
    rw [Waiting.depth_nil] at hd
    have ho := Waiting.depth_eq_zero_iff.1 (show Waiting.depth stack = 0 by omega)
    exact ⟨_, ofInfix_of_run hr ho⟩

/-- Reordering fails exactly where the parentheses do not match, whatever else is wrong with the
tokens. -/
theorem Rpn.ofInfix_ok_iff_nests (ts : List Token) :
    ((∃ us, ofInfix ts = .ok us) ↔ Nests ts) ∧
      (ofInfix ts = .error .unbalanced ↔ ¬Nests ts) := by
  refine ⟨exists_ofInfix_iff, ?_⟩
  rw [← exists_ofInfix_iff]
  cases ofInfix ts with
  | error f =>
    cases f
    exact iff_of_true rfl nofun
  | ok us => exact iff_of_false nofun fun h => h ⟨us, rfl⟩

/-- As many closed as opened is not enough. -/
example : ¬Nests [.number "1", .closing, .opening] := by decide

end Calculator
