import Calculator.Proofs.Calculation.Leftover

namespace Calculator

/-- The faults that a calculation can end in. Past the lexer no fault is about a single token. -/
inductive Fails (source : String) : Fault → Prop
  | unread {f : LexFault} (ht : Token.lex source = .error f) : Fails source (.lex f)
  | unbalanced : Fails source (.order .unbalanced)
  | missingOperand (o : Operator) : Fails source (.value (.missingOperand o.symbol))
  | leftover {n : Nat} (hn : n ≠ 1) : Fails source (.value (.leftover n))
  | notFinite {x : Binary64} (hx : x.isFinite = false) : Fails source (.value (.notFinite x))

variable {source : String} {ts us : List Token} {f : Fault}

theorem Rpn.result_eq_error {values : List Binary64} {f : ValueFault}
    (h : result values = .error f) : f = .leftover values.length ∧ values.length ≠ 1 := by
  unfold result at h
  split at h
  · cases h
  · next hv =>
    cases h
    refine ⟨rfl, ?_⟩
    intro hl
    obtain ⟨x, rfl⟩ := List.length_eq_one_iff.1 hl
    exact hv x rfl

theorem Rpn.value_eq_error {f : ValueFault} (h : ∀ t ∈ us, t.Executable)
    (hv : value us = .error f) :
    (∃ o : Operator, f = .missingOperand o.symbol) ∨ ∃ n, f = .leftover n ∧ n ≠ 1 := by
  rcases execute_or_missing h [] with ⟨values, he⟩ | ⟨o, -, he⟩
  · rw [value_of_execute he] at hv
    exact .inr ⟨values.length, result_eq_error hv⟩
  · rw [value, he] at hv
    exact .inl ⟨o, (Except.error.inj hv).symm⟩

theorem Token.executable_of_lex (ht : lex source = .ok ts) (hu : Rpn.ofInfix ts = .ok us) :
    ∀ t ∈ us, t.Executable :=
  Rpn.executable_of_ofInfix hu (isSome_ofText?_of_lex ht)

theorem fails_of_calculate (h : calculate source = .error f) : Fails source f := by
  cases h ▸ calculates source with
  | unread ht => exact .unread ht
  | unordered ht hu => exact .unbalanced
  | refused ht hu hx hf => exact .notFinite hf
  | unvalued ht hu hx =>
    rcases Rpn.value_eq_error (Token.executable_of_lex ht hu) hx with ⟨o, rfl⟩ | ⟨n, rfl, hn⟩
    · exact .missingOperand o
    · exact .leftover hn

theorem Fails.exists_malformedNumber (h : Fails source f) (hk : f.kind = .notANumber) :
    ∃ literal position, f = .lex (.malformedNumber literal position) ∧
      Token.lex source = .error (.malformedNumber literal position) := by
  cases h with
  | @unread g ht =>
    cases g with
    | malformedNumber literal position => exact ⟨literal, position, rfl, ht⟩
    | unsupported => cases hk
    | strayOperator => cases hk
  | unbalanced => cases hk
  | missingOperand => cases hk
  | leftover => cases hk
  | notFinite => cases hk

/-- What is not a number is found by the lexer and by no later stage: whatever is left to be
executed consists of readable numbers and operators. -/
theorem malformedNumber_of_notANumber (source : String) :
    (∀ literal, calculate source ≠ .error (.value (.notNumber literal))) ∧
      calculate source ≠ .error (.value .parenthesis) ∧
      (∀ f, calculate source = .error f → f.kind = .notANumber →
        ∃ literal position, f = .lex (.malformedNumber literal position) ∧
          Token.lex source = .error (.malformedNumber literal position)) ∧
      ∀ ts us, Token.lex source = .ok ts → Rpn.ofInfix ts = .ok us →
        (∀ text, .number text ∈ us → (Binary64.ofText? text).isSome) ∧
          ∀ t ∈ us, t ≠ .opening ∧ t ≠ .closing := by
  refine ⟨?_, ?_, ?_, ?_⟩
  · intro literal h
    cases fails_of_calculate h
  · intro h
    cases fails_of_calculate h
  · intro f h hk
    exact (fails_of_calculate h).exists_malformedNumber hk
  · intro ts us ht hu
    have hx := Token.executable_of_lex ht hu
    refine ⟨fun text hm => hx _ hm, fun t hm => ?_⟩
    constructor
    · rintro rfl
      exact hx _ hm
    · rintro rfl
      exact hx _ hm

theorem malformedNumber_of_notANumber_points :
    (calculate "1+2.3.4" = .error (.lex (.malformedNumber "2.3.4" 2)) ∧
        ∃ literal position, Token.lex "1+2.3.4" = .error (.malformedNumber literal position)) ∧
      Token.lex "2*(-3+.5)" = .ok [.number "2", .operator .mul, .opening, .number "-3",
        .operator .add, .number ".5", .closing] ∧
      ∀ text, .number text ∈ [Token.number "2", .number "-3", .number ".5", .operator .add,
        .operator .mul] → (Binary64.ofText? text).isSome := by
  have he : calculate "1+2.3.4" = .error (.lex (.malformedNumber "2.3.4" 2)) :=
    (Calculates.unread (by rfl)).eq
  have ht : Token.lex "2*(-3+.5)" = .ok [.number "2", .operator .mul, .opening, .number "-3",
      .operator .add, .number ".5", .closing] := by rfl
  obtain ⟨-, -, hf, -⟩ := malformedNumber_of_notANumber "1+2.3.4"
  obtain ⟨literal, position, -, hl⟩ := hf _ he rfl
  obtain ⟨-, -, -, hx⟩ := malformedNumber_of_notANumber "2*(-3+.5)"
  obtain ⟨hn, -⟩ := hx _ _ ht (by rfl)
  exact ⟨⟨he, literal, position, hl⟩, ht, hn⟩

end Calculator
