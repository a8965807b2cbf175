import Calculator.Decimal
import Calculator.Proofs.Binary64
import Calculator.Proofs.Token.Literal

namespace Calculator

variable {cs ds fs : List Char} {negative : Bool} {d : Decimal} {x : Binary64}

theorem Decimal.ofChars?_point (hd : ∀ c ∈ ds, c.isDigit) (hf : ∀ c ∈ fs, c.isDigit)
    (hn : ds ++ fs ≠ []) :
    ofChars? (ds ++ '.' :: fs) = some ⟨Nat.ofDigitChars 10 (ds ++ fs) 0, -fs.length⟩ := by
  have hs : splitFraction ('.' :: fs) = (fs, []) := by
    rw [splitFraction, List.takeWhile_eq_self_iff.2 hf, List.dropWhile_eq_nil_iff.2 hf]
  simp only [ofChars?, takeWhile_digits_point hd, dropWhile_digits_point hd, hs, if_neg hn,
    readExponent, Option.map_some, Int.zero_sub]

theorem Decimal.isDigit_digits (d : Decimal) : ∀ c ∈ d.digits, c.isDigit :=
  fun _ => Nat.isDigit_of_mem_toDigits (by decide) (by decide)

theorem isDigit_replicate_zero (k : Nat) : ∀ c ∈ List.replicate k '0', c.isDigit := by
  intro c hc
  rw [List.eq_of_mem_replicate hc]
  rfl

theorem Decimal.positional_of_places (hp : (-d.exponent).toNat ≠ 0) :
    ∃ ds fs, d.positional false = ds ++ '.' :: fs ∧ (∀ c ∈ ds ++ fs, c.isDigit) ∧
      ds ++ fs ≠ [] ∧ fs.length = (-d.exponent).toNat ∧
      Nat.ofDigitChars 10 (ds ++ fs) 0 = d.coefficient := by
  have hn : d.digits ≠ [] := Nat.toDigits_ne_nil
  simp only [positional, if_neg hp]
  generalize hz : List.replicate ((-d.exponent).toNat + 1 - d.digits.length) '0' = zs
  have hl : (-d.exponent).toNat < (zs ++ d.digits).length := by
    have := congrArg List.length hz
    rw [List.length_replicate] at this
    rw [List.length_append]
    omega
  refine ⟨_, _, rfl, ?_, ?_, ?_, ?_⟩
  · rw [List.take_append_drop]
    intro c hc
    rcases List.mem_append.1 hc with hc | hc
    · exact isDigit_replicate_zero _ c (hz ▸ hc)
    · exact d.isDigit_digits c hc
  · rw [List.take_append_drop]
    exact List.append_ne_nil_of_right_ne_nil _ hn
  · rw [List.length_drop]
    omega
  · rw [List.take_append_drop, Nat.ofDigitChars_append, ← hz, Nat.ofDigitChars_replicate_zero,
      Nat.mul_zero]
    exact Nat.ofDigitChars_ten_toDigits

theorem Decimal.positional_of_whole (hp : (-d.exponent).toNat = 0) :
    d.positional false = d.digits ++ .replicate d.exponent.toNat '0' := by
  simp only [positional, if_pos hp]
  exact List.append_nil _

theorem Decimal.isDigit_whole (d : Decimal) (k : Nat) :
    ∀ c ∈ d.digits ++ .replicate k '0', c.isDigit := by
  intro c hc
  rcases List.mem_append.1 hc with hc | hc
  · exact d.isDigit_digits c hc
  · exact isDigit_replicate_zero k c hc

theorem Decimal.isNumeric_positional (d : Decimal) : ∀ c ∈ d.positional false, isNumeric c := by
  by_cases hp : (-d.exponent).toNat = 0
  · rw [positional_of_whole hp]
    exact fun c hc => isNumeric_iff.2 (.inl (d.isDigit_whole _ c hc))
  · obtain ⟨ds, fs, he, hd, -⟩ := positional_of_places hp
    rw [he]
    intro c hc
    rw [List.mem_append, List.mem_cons, or_left_comm] at hc
    rcases hc with rfl | hc
    · rfl
    · exact isNumeric_iff.2 (.inl (hd c (List.mem_append.2 hc)))

/-- A decimal that is written without an exponent reads back as the same number. -/
theorem Decimal.exists_ofChars?_positional (d : Decimal) :
    ∃ d', ofChars? (d.positional false) = some d' ∧ d'.magnitude? = d.magnitude? := by
  have hc : Nat.ofDigitChars 10 d.digits 0 = d.coefficient := Nat.ofDigitChars_ten_toDigits
  by_cases hp : (-d.exponent).toNat = 0
  · have hn : d.digits ++ .replicate d.exponent.toNat '0' ≠ [] :=
      List.append_ne_nil_of_left_ne_nil Nat.toDigits_ne_nil _
    refine ⟨_, by rw [positional_of_whole hp, ofChars?_digits (d.isDigit_whole _) hn], ?_⟩
    rw [Nat.ofDigitChars_append, Nat.ofDigitChars_replicate_zero, hc, magnitude?_eq_round,
      magnitude?_eq_round d, hp, Nat.mul_comm (10 ^ _)]
    simp only [Int.neg_zero, Int.toNat_zero, Nat.pow_zero, Nat.mul_one]
  · obtain ⟨ds, fs, he, hd, hn, hl, hc⟩ := positional_of_places hp
    have hx : -(fs.length : Int) = d.exponent := by omega
    refine ⟨d, ?_, rfl⟩
    rw [he, ofChars?_point (fun c h => hd c (List.mem_append_left _ h))
      (fun c h => hd c (List.mem_append_right _ h)) hn, hc, hx]

theorem withoutSign_of_isNumeric (h : ∀ c ∈ cs, isNumeric c) : withoutSign cs = cs := by
  cases cs with
  | nil => rfl
  | cons c cs =>
    apply withoutSign_cons
    rintro rfl
    exact absurd (h '-' List.mem_cons_self) (by decide)

theorem splitSign_of_isNumeric (h : ∀ c ∈ cs, isNumeric c) : (splitSign cs).1 = false := by
  unfold splitSign
  split
  · exact absurd (h '-' List.mem_cons_self) (by decide)
  · rfl
  · rfl

theorem withoutSign_signed (h : ∀ c ∈ cs, isNumeric c) (negative : Bool) :
    withoutSign ((signText negative).toList ++ cs) = cs := by
  cases negative with
  | true => rfl
  | false => exact withoutSign_of_isNumeric h

theorem splitSign_signed (h : ∀ c ∈ cs, isNumeric c) (negative : Bool) :
    (splitSign ((signText negative).toList ++ cs)).1 = negative := by
  cases negative with
  | true => rfl
  | false => exact splitSign_of_isNumeric h

theorem Binary64.display_of_isZero (hx : x.isZero) : x.display = "0" :=
  if_pos hx

theorem Binary64.toList_display {m : Magnitude} (hm : (finite negative m).isZero = false) :
    (finite negative m).display.toList =
      (signText negative).toList ++ m.shortest.positional false := by
  rw [display, hm, if_neg Bool.false_ne_true, render, String.toList_append, Decimal.render]
  exact congrArg _ String.toList_ofList

/-- The text of a finite number reads back as the number, but for the sign of zero. -/
theorem Binary64.ofText?_display (h : x.isFinite) : ofText? x.display = some x.unsignedZero := by
  cases x with
  | nan => cases h
  | infinite => cases h
  | finite negative m =>
    cases hz : (finite negative m).isZero with
    | true =>
      rw [display_of_isZero hz, unsignedZero_of_isZero hz]
      rfl
    | false =>
      have hn := m.shortest.isNumeric_positional
      obtain ⟨d, hd, hm⟩ := m.shortest.exists_ofChars?_positional
      have hw := withoutSign_signed hn negative
      rw [ofText?, toList_display hz, Numeral.ofChars?_of_isNumeric (hw.symm ▸ hn), hw,
        splitSign_signed hn, hd, unsignedZero_of_not_isZero hz]
      simp only [Option.map_some, Numeral.value, hm, m.magnitude?_shortest, signed]

theorem Binary64.isLiteral_display (h : x.isFinite) : IsLiteral x.display := by
  refine (isSome_ofText?_iff ?_).1 (by rw [ofText?_display h, Option.isSome_some])
  cases x with
  | nan => cases h
  | infinite => cases h
  | finite negative m =>
    cases hz : (finite negative m).isZero with
    | true =>
      rw [display_of_isZero hz]
      exact List.all_eq_true.1 (by decide)
    | false =>
      have hn := m.shortest.isNumeric_positional
      rwa [toList_display hz, withoutSign_signed hn]

end Calculator
