import Calculator.Proofs.Calculation.Outcome
import Calculator.Proofs.Expression.Adjacency
import Calculator.Proofs.Rpn.Operands

namespace Calculator

/-- Whether a source text has a value, be it finite or not. -/
def HasValue (source : String) : Prop :=
  (∃ x, calculate source = .ok x) ∨ ∃ x, calculate source = .error (.value (.notFinite x))

variable {source : String} {ts us : List Token} {values : List Binary64}

theorem hasValue_iff : HasValue source ↔ ∃ ts us x,
    Token.lex source = .ok ts ∧ Rpn.ofInfix ts = .ok us ∧ Rpn.value us = .ok x := by
  constructor
  · rintro (⟨x, h⟩ | ⟨x, h⟩)
    · cases h ▸ calculates source with
      | accepted ht hu hx hf => exact ⟨_, _, _, ht, hu, hx⟩
    · cases h ▸ calculates source with
      | unvalued ht hu hx => exact absurd hx Rpn.value_ne_notFinite
      | refused ht hu hx hf => exact ⟨_, _, _, ht, hu, hx⟩
  · rintro ⟨ts, us, x, ht, hu, hx⟩
    cases hf : x.isFinite with
    | true => exact .inl ⟨x, (Calculates.accepted ht hu hx hf).eq⟩
    | false => exact .inr ⟨x, (Calculates.refused ht hu hx hf).eq⟩

/-- A text can have a value and not be well-formed: numbers in parentheses can stand side by side,
and an operator that comes after them finds both. -/
theorem hasValue_not_formula :
    Token.lex "(1)(2)+" = .ok [.opening, .number "1", .closing, .opening, .number "2", .closing,
        .operator .add] ∧
      HasValue "(1)(2)+" ∧
      ¬Formula [.opening, .number "1", .closing, .opening, .number "2", .closing,
        .operator .add] := by
  refine ⟨by rfl, hasValue_iff.2 ⟨_, _, _, by rfl, by rfl, by rfl⟩, fun h => ?_⟩
  exact absurd (h.alternates (t := .opening) (u := .closing) rfl rfl) (by decide)

/-- In a text that has a value the parentheses match, and there are as many places where two
operands stand side by side as there are where one is missing. Only such places can keep it from
being well-formed. -/
theorem HasValue.formula_iff_juxtapositions (h : HasValue source) :
    ∃ ts, Token.lex source = .ok ts ∧ Lexical ts ∧ Balanced ts ∧
      juxtapositions ts = missingOperands ts ∧ (Formula ts ↔ juxtapositions ts = 0) := by
  obtain ⟨ts, us, x, ht, hu, hx⟩ := hasValue_iff.1 h
  have hb : Balanced ts := Rpn.balanced_of_ofInfix hu
  have hn := Rpn.countP_of_ofInfix Token.isNumber hu fun t ht => by simp [t.isParenthesis_eq, ht]
  have ho := Rpn.countP_of_ofInfix Token.isOperator hu fun t ht => by
    simp [t.isParenthesis_eq, ht]
  have hv := Rpn.count_of_value hx
  have hc := missingOperands_add_numbers ts
  have hj : juxtapositions ts = missingOperands ts := by omega
  refine ⟨ts, ht, Token.lexical_of_lex ht, hb, hj, ?_⟩
  rw [hb.formula_iff, ← hj, and_self]

theorem HasValue.formula_iff_empty_group :
    HasValue "()+1(2)" ∧
      ∃ ts, Token.lex "()+1(2)" = .ok ts ∧ Lexical ts ∧ Balanced ts ∧
        juxtapositions ts = missingOperands ts ∧ (Formula ts ↔ juxtapositions ts = 0) := by
  have h : HasValue "()+1(2)" := hasValue_iff.2 ⟨_, _, _, by rfl, by rfl, by rfl⟩
  exact ⟨h, h.formula_iff_juxtapositions⟩

theorem calculate_of_execute (ht : Token.lex source = .ok ts) (hu : Rpn.ofInfix ts = .ok us)
    (he : Rpn.execute [] us = .ok values) :
    (values.length = 1 → HasValue source) ∧
      (values.length ≠ 1 → calculate source = .error (.value (.leftover values.length))) := by
  have hv := Rpn.value_of_execute he
  constructor
  · intro hl
    obtain ⟨x, rfl⟩ := List.length_eq_one_iff.1 hl
    exact hasValue_iff.2 ⟨ts, us, x, ht, hu, hv⟩
  · intro hl
    exact (Calculates.unvalued ht hu (hv.trans (Rpn.result_of_length_ne_one hl))).eq

theorem calculate_of_missing {o : Operator} (ht : Token.lex source = .ok ts)
    (hu : Rpn.ofInfix ts = .ok us)
    (he : Rpn.execute [] us = .error (.missingOperand o.symbol)) :
    calculate source = .error (.value (.missingOperand o.symbol)) := by
  refine (Calculates.unvalued ht hu ?_).eq
  rw [Rpn.value, he]
  rfl

theorem Token.isSome_ofText?_of_lex (ht : lex source = .ok ts) :
    ∀ text, .number text ∈ ts → (Binary64.ofText? text).isSome :=
  fun text hm => ((lexical_of_lex ht).literal text hm).isSome_ofText?

theorem HasValue.ne_error {f : ValueFault} (h : HasValue source)
    (hf : ∀ x, f ≠ .notFinite x) : calculate source ≠ .error (.value f) := by
  intro he
  rcases h with ⟨x, h⟩ | ⟨x, h⟩
  · cases he.symm.trans h
  · cases he.symm.trans h
    exact hf x rfl

theorem HasValue.ne_leftover (h : HasValue source) (n : Nat) :
    calculate source ≠ .error (.value (.leftover n)) :=
  h.ne_error fun _ he => ValueFault.noConfusion he

theorem HasValue.ne_missingOperand (h : HasValue source) (symbol : Char) :
    calculate source ≠ .error (.value (.missingOperand symbol)) :=
  h.ne_error fun _ he => ValueFault.noConfusion he

/-- Where no operand is missing, no operator lacks one, and the count of leftover numbers tells how
many operators are missing between two operands. -/
theorem calculate_of_no_missing_operand {n : Nat} (ht : Token.lex source = .ok ts) (hne : ts ≠ [])
    (hu : Rpn.ofInfix ts = .ok us) (hg : ts.IsChain fun t u => ¬(t = .opening ∧ u = .closing))
    (ho : ts.IsChain fun t u => ¬(t.isOperator ∧ u = .closing))
    (hl : ∀ t ∈ ts.getLast?, ¬t.isOperator)
    (hn : (ts.zip ts.tail).countP (fun p => p.1.endsOperand && p.2.beginsOperand) = n) :
    (∀ c, calculate source ≠ .error (.value (.missingOperand c))) ∧
      (n = 0 → HasValue source) ∧
      (1 ≤ n → calculate source = .error (.value (.leftover (n + 1)))) := by
  have hb := Rpn.balanced_of_ofInfix hu
  have hm := missingOperands_eq_zero (Token.lexical_of_lex ht) hb hne hg ho hl
  obtain ⟨values, he, hv⟩ :=
    Rpn.exists_execute_of_ofInfix hu (Token.isSome_ofText?_of_lex ht) hm
  have hv : values.length = n + 1 := by rw [hv, juxtapositions_eq, ← hn]; rfl
  obtain ⟨hone, hmore⟩ := calculate_of_execute ht hu he
  rw [hv] at hone hmore
  refine ⟨fun c => ?_, fun hn => hone (by omega), fun hn => hmore (by omega)⟩
  cases n with
  | zero => exact (hone rfl).ne_missingOperand c
  | succ n =>
    rw [hmore (by omega)]
    nofun

theorem calculate_of_no_missing_operand_groups :
    Token.lex "2(3)*(4-(5)-6)(7)" = .ok [.number "2", .opening, .number "3", .closing,
        .operator .mul, .opening, .number "4", .operator .sub, .opening, .number "5", .closing,
        .operator .sub, .number "6", .closing, .opening, .number "7", .closing] ∧
      calculate "2(3)*(4-(5)-6)(7)" = .error (.value (.leftover 3)) := by
  have ht : Token.lex "2(3)*(4-(5)-6)(7)" = .ok [.number "2", .opening, .number "3", .closing,
      .operator .mul, .opening, .number "4", .operator .sub, .opening, .number "5", .closing,
      .operator .sub, .number "6", .closing, .opening, .number "7", .closing] := by rfl
  have h := calculate_of_no_missing_operand ht (by decide) (by rfl) (by decide) (by decide)
    (by decide) rfl
  exact ⟨ht, h.2.2 (by decide)⟩

/-- Where no two operands stand side by side, either the text is well-formed and has a value, or
nothing is there to be executed, or an operator lacks an operand. -/
theorem outcome_of_no_juxtaposition (ht : Token.lex source = .ok ts)
    (hu : Rpn.ofInfix ts = .ok us) (hj : juxtapositions ts = 0) :
    (Formula ts ∧ HasValue source) ∨
      (¬Formula ts ∧ (∀ t ∈ ts, t.isParenthesis) ∧
        calculate source = .error (.value (.leftover 0))) ∨
      (¬Formula ts ∧ ∃ o, .operator o ∈ ts ∧
        calculate source = .error (.value (.missingOperand o.symbol))) := by
  have hr := Token.isSome_ofText?_of_lex ht
  have hf : Formula ts ↔ missingOperands ts = 0 := by
    rw [(Rpn.balanced_of_ofInfix hu).formula_iff, hj]
    exact and_iff_right rfl
  have hp := Rpn.perm_of_ofInfix hu
  rcases Rpn.execute_or_missing (Rpn.executable_of_ofInfix hu hr) [] with ⟨values, he⟩ | ⟨o, hm, he⟩
  · have hl := Rpn.length_add_missingOperands hu he
    obtain ⟨hone, hmore⟩ := calculate_of_execute ht hu he
    by_cases hn : us = []
    · subst hn
      cases he
      refine .inr (.inl ⟨fun h => ?_, ?_, hmore nofun⟩)
      · have := hf.1 h
        rw [List.length_nil] at hl
        omega
      · simpa using hp.symm.eq_nil
    · have := List.length_pos_iff.2 (Rpn.execute_ne_nil he (.inr hn))
      exact .inl ⟨hf.2 (by omega), hone (by omega)⟩
  · refine .inr (.inr ⟨fun h => ?_, o, ?_, calculate_of_missing ht hu he⟩)
    · obtain ⟨values, he', -⟩ := Rpn.exists_execute_of_ofInfix hu hr (hf.1 h)
      cases he.symm.trans he'
    · exact List.mem_of_mem_filter (hp.mem_iff.1 hm)

/-- Where no operator is missing between two operands, a text has a value exactly if it is
well-formed. Any other one lacks an operand, or holds nothing but parentheses. -/
theorem calculate_of_no_missing_operator (ht : Token.lex source = .ok ts)
    (hu : Rpn.ofInfix ts = .ok us)
    (hj : ts.IsChain fun t u => ¬(t.endsOperand ∧ u.beginsOperand)) :
    (HasValue source ↔ Formula ts) ∧
      (¬Formula ts → (∀ t ∈ ts, ¬t.isNumber ∧ ¬t.isOperator) →
        calculate source = .error (.value (.leftover 0))) ∧
      (¬Formula ts → (∃ t ∈ ts, t.isNumber ∨ t.isOperator) →
        ∃ o, .operator o ∈ ts ∧
          calculate source = .error (.value (.missingOperand o.symbol))) ∧
      ∀ n, 2 ≤ n → calculate source ≠ .error (.value (.leftover n)) := by
  rcases outcome_of_no_juxtaposition ht hu (juxtapositions_eq_zero hj) with
    ⟨hf, hv⟩ | ⟨hf, hp, he⟩ | ⟨hf, o, ho, he⟩
  · exact ⟨iff_of_true hv hf, (absurd hf ·), (absurd hf ·), fun n _ => hv.ne_leftover n⟩
  · refine ⟨iff_of_false (fun hv => hv.ne_leftover 0 he) hf, fun _ _ => he, ?_, ?_⟩
    · rintro - ⟨t, ht, hn⟩
      have hp := hp t ht
      cases t <;> simp [Token.isNumber, Token.isOperator, Token.isParenthesis] at hn hp
    · rintro n hn he'
      cases he.symm.trans he'
      omega
  · refine ⟨iff_of_false (fun hv => hv.ne_missingOperand o.symbol he) hf, ?_,
      fun _ _ => ⟨o, ho, he⟩, ?_⟩
    · rintro - hp
      exact absurd rfl (hp _ ho).2
    · rintro n hn he'
      cases he.symm.trans he'

theorem calculate_of_no_missing_operator_empty_group :
    Token.lex "(1+())*(2)" = .ok [.opening, .number "1", .operator .add, .opening, .closing,
        .closing, .operator .mul, .opening, .number "2", .closing] ∧
      ∃ o, calculate "(1+())*(2)" = .error (.value (.missingOperand o)) := by
  have ht : Token.lex "(1+())*(2)" = .ok [.opening, .number "1", .operator .add, .opening,
      .closing, .closing, .operator .mul, .opening, .number "2", .closing] := by rfl
  have hf : ¬Formula [.opening, .number "1", .operator .add, .opening, .closing, .closing,
      .operator .mul, .opening, .number "2", .closing] := by
    intro h
    exact absurd (h.alternates (t := .opening) (u := .closing) rfl rfl) (by decide)
  obtain ⟨-, -, h, -⟩ := calculate_of_no_missing_operator ht (by rfl) (by decide)
  obtain ⟨o, -, he⟩ := h hf (by decide)
  exact ⟨ht, o.symbol, he⟩

end Calculator
