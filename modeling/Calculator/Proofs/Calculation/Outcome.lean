import Calculator.Progress
import Calculator.Proofs.Except
import Calculator.Proofs.Rpn.Value

namespace Calculator

/-- What a calculation comes to, by the first stage that fails. -/
inductive Calculates (source : String) : Except Fault Binary64 → Prop
  | unread {f : LexFault} (ht : Token.lex source = .error f) : Calculates source (.error (.lex f))
  | unordered {ts : List Token} {f : OrderFault} (ht : Token.lex source = .ok ts)
      (hu : Rpn.ofInfix ts = .error f) : Calculates source (.error (.order f))
  | unvalued {ts us : List Token} {f : ValueFault} (ht : Token.lex source = .ok ts)
      (hu : Rpn.ofInfix ts = .ok us) (hx : Rpn.value us = .error f) :
      Calculates source (.error (.value f))
  | refused {ts us : List Token} {x : Binary64} (ht : Token.lex source = .ok ts)
      (hu : Rpn.ofInfix ts = .ok us) (hx : Rpn.value us = .ok x) (hf : x.isFinite = false) :
      Calculates source (.error (.value (.notFinite x)))
  | accepted {ts us : List Token} {x : Binary64} (ht : Token.lex source = .ok ts)
      (hu : Rpn.ofInfix ts = .ok us) (hx : Rpn.value us = .ok x) (hf : x.isFinite) :
      Calculates source (.ok x)

variable {source : String} {ts us : List Token}

theorem calculate_of_ofInfix (ht : Token.lex source = .ok ts) (hu : Rpn.ofInfix ts = .ok us) :
    calculate source = (Rpn.value us >>= Binary64.requireFinite).mapError .value := by
  rw [calculate_eq, ht, mapError_ok_bind, hu, mapError_ok_bind]
  cases Rpn.value us <;> rfl

theorem Binary64.requireFinite_of_isFinite {x : Binary64} (hf : x.isFinite) :
    x.requireFinite = .ok x :=
  if_pos hf

theorem Binary64.requireFinite_of_not_isFinite {x : Binary64} (hf : x.isFinite = false) :
    x.requireFinite = .error (.notFinite x) :=
  if_neg (Bool.eq_false_iff.1 hf)

theorem Calculates.eq {r : Except Fault Binary64} (h : Calculates source r) :
    calculate source = r := by
  cases h with
  | unread ht =>
    rw [calculate_eq, ht]
    rfl
  | unordered ht hu =>
    rw [calculate_eq, ht, mapError_ok_bind, hu]
    rfl
  | unvalued ht hu hx =>
    rw [calculate_of_ofInfix ht hu, hx]
    rfl
  | refused ht hu hx hf =>
    rw [calculate_of_ofInfix ht hu, hx, ok_bind, Binary64.requireFinite_of_not_isFinite hf]
    rfl
  | accepted ht hu hx hf =>
    rw [calculate_of_ofInfix ht hu, hx, ok_bind, Binary64.requireFinite_of_isFinite hf]
    rfl

theorem exists_calculates (source : String) : ∃ r, Calculates source r := by
  cases ht : Token.lex source with
  | error f => exact ⟨_, .unread ht⟩
  | ok ts =>
    cases hu : Rpn.ofInfix ts with
    | error f => exact ⟨_, .unordered ht hu⟩
    | ok us =>
      cases hx : Rpn.value us with
      | error f => exact ⟨_, .unvalued ht hu hx⟩
      | ok x =>
        cases hf : x.isFinite with
        | true => exact ⟨_, .accepted ht hu hx hf⟩
        | false => exact ⟨_, .refused ht hu hx hf⟩

theorem calculates (source : String) : Calculates source (calculate source) := by
  obtain ⟨r, h⟩ := exists_calculates source
  rwa [h.eq]

end Calculator
