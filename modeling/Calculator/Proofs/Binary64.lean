import Calculator.Token.Basic

namespace Calculator

/-- Equality but for the sign of zero. -/
inductive Binary64.Alike : Binary64 → Binary64 → Prop
  | refl (x : Binary64) : Alike x x
  | zero (s t : Bool) : Alike (finite s .zero) (finite t .zero)

def Binary64.unsignedZero (x : Binary64) : Binary64 :=
  if x.isZero then finite false .zero else x

variable {x y z x' y' : Binary64} {m : Magnitude} {s : Bool}

theorem Binary64.Alike.symm (h : x.Alike y) : y.Alike x := by
  cases h with
  | refl => exact .refl x
  | zero s t => exact .zero t s

theorem Binary64.Alike.trans (h : x.Alike y) (h' : y.Alike z) : x.Alike z := by
  cases h with
  | refl => exact h'
  | zero s t =>
    cases h' with
    | refl => exact .zero s t
    | zero _ u => exact .zero s u

theorem Binary64.Alike.isFinite_eq (h : x.Alike y) : x.isFinite = y.isFinite := by
  cases h <;> rfl

theorem Binary64.Alike.eq_of_not_finite (h : x.Alike y) (hx : x.isFinite = false) : x = y := by
  cases h with
  | refl => rfl
  | zero => cases hx

theorem Magnitude.units_zero : zero.units = 0 := rfl

theorem Magnitude.eq_zero (h : m.units = 0) : m = zero := by
  cases m
  cases h
  rfl

theorem Binary64.exists_of_isZero (h : x.isZero) : ∃ s, x = finite s .zero := by
  cases x with
  | nan => cases h
  | infinite => cases h
  | finite s m =>
    cases Magnitude.eq_zero (m := m) (by simpa [isZero] using h)
    exact ⟨s, rfl⟩

theorem Binary64.alike_of_isZero (h : x.isZero) (s : Bool) : x.Alike (finite s .zero) := by
  obtain ⟨t, rfl⟩ := exists_of_isZero h
  exact .zero t s

theorem Binary64.unsignedZero_of_isZero (h : x.isZero) : x.unsignedZero = finite false .zero :=
  if_pos h

theorem Binary64.unsignedZero_of_not_isZero (h : x.isZero = false) : x.unsignedZero = x :=
  if_neg (Bool.eq_false_iff.1 h)

theorem Binary64.alike_unsignedZero (x : Binary64) : x.Alike x.unsignedZero := by
  cases h : x.isZero with
  | true =>
    rw [unsignedZero_of_isZero h]
    exact alike_of_isZero h false
  | false =>
    rw [unsignedZero_of_not_isZero h]
    exact .refl x

/-- Only negative zero is changed. -/
theorem Binary64.unsignedZero_eq (x : Binary64) :
    x.unsignedZero = if x = finite true .zero then finite false .zero else x := by
  cases h : x.isZero with
  | true =>
    obtain ⟨s, rfl⟩ := exists_of_isZero h
    cases s <;> rfl
  | false =>
    have hn : x ≠ finite true .zero := by
      rintro rfl
      cases h
    rw [unsignedZero_of_not_isZero h, if_neg hn]

theorem Binary64.Alike.eq_or_isZero (h : x.Alike y) : x = y ∨ x.isZero ∧ y.isZero := by
  cases h with
  | refl => exact .inl rfl
  | zero s t => exact .inr ⟨rfl, rfl⟩

theorem Magnitude.eq_zero_of_toInt {s : Bool} (h : m.toInt s = 0) : m = zero := by
  apply eq_zero
  cases s <;> simp only [toInt, Bool.false_eq_true, ↓reduceIte] at h <;> omega

theorem Magnitude.toInt_zero (s : Bool) : zero.toInt s = 0 := by
  cases s <;> rfl

theorem Magnitude.signed_toInt {s : Bool} (h : m.toInt s ≠ 0) :
    Binary64.signed (decide (m.toInt s < 0)) (round (m.toInt s).natAbs 1) = .finite s m := by
  have ha : (m.toInt s).natAbs = m.units := by
    cases s with
    | false => exact Int.natAbs_natCast _
    | true => exact Int.natAbs_neg _
  have hs : decide (m.toInt s < 0) = s := by
    cases s with
    | false => exact decide_eq_false (Int.not_lt.2 (Int.natCast_nonneg _))
    | true =>
      simp only [toInt, ↓reduceIte] at h ⊢
      exact decide_eq_true (by omega)
  have hr := m.round_units Nat.one_pos
  rw [Nat.mul_one] at hr
  rw [ha, hs, hr, Binary64.signed]

/-- Adding zero changes a number at most in the sign of zero. -/
theorem Binary64.zero_add_alike (s : Bool) (y : Binary64) : (finite s .zero + y).Alike y := by
  cases y with
  | nan => exact .refl _
  | infinite t => exact .refl _
  | finite t n =>
    change (add (finite s .zero) (finite t n)).Alike (finite t n)
    simp only [add, Magnitude.toInt_zero, Int.zero_add]
    split
    · next hn =>
      rw [Magnitude.eq_zero_of_toInt hn]
      exact .zero _ _
    · next hn =>
      rw [Magnitude.signed_toInt hn]
      exact .refl _

theorem Binary64.add_zero_alike (x : Binary64) (s : Bool) : (x + finite s .zero).Alike x := by
  cases x with
  | nan => exact .refl _
  | infinite t => exact .refl _
  | finite t m =>
    change (add (finite t m) (finite s .zero)).Alike (finite t m)
    simp only [add, Magnitude.toInt_zero, Int.add_zero]
    split
    · next hm =>
      rw [Magnitude.eq_zero_of_toInt hm]
      exact .zero _ _
    · next hm =>
      rw [Magnitude.signed_toInt hm]
      exact .refl _

theorem Magnitude.round_zero {d : Nat} (hd : 0 < d) : round 0 d = some zero :=
  round_small (by omega)

theorem Binary64.zero_mul_alike (s t : Bool) (y : Binary64) :
    (finite s .zero * y).Alike (finite t .zero * y) := by
  cases y with
  | nan => exact .refl _
  | infinite u => exact .refl _
  | finite u n =>
    have hr : Magnitude.round (Magnitude.zero.units * n.units) unitsPerOne = some .zero := by
      rw [Magnitude.units_zero, Nat.zero_mul, Magnitude.round_zero unitsPerOne_pos]
    change (mul (finite s .zero) (finite u n)).Alike (mul (finite t .zero) (finite u n))
    rw [mul, mul, hr]
    exact .zero _ _

theorem Binary64.mul_zero_alike (x : Binary64) (s t : Bool) :
    (x * finite s .zero).Alike (x * finite t .zero) := by
  cases x with
  | nan => exact .refl _
  | infinite u => exact .refl _
  | finite u m =>
    have hr : Magnitude.round (m.units * Magnitude.zero.units) unitsPerOne = some .zero := by
      rw [Magnitude.units_zero, Nat.mul_zero, Magnitude.round_zero unitsPerOne_pos]
    change (mul (finite u m) (finite s .zero)).Alike (mul (finite u m) (finite t .zero))
    rw [mul, mul, hr]
    exact .zero _ _

theorem Binary64.zero_div_alike (s t : Bool) (y : Binary64) :
    (finite s .zero / y).Alike (finite t .zero / y) := by
  cases y with
  | nan => exact .refl _
  | infinite u => exact .zero _ _
  | finite u n =>
    change (div (finite s .zero) (finite u n)).Alike (div (finite t .zero) (finite u n))
    rw [div, div]
    by_cases hn : n.units = 0
    · rw [if_pos hn, if_pos hn]
      exact .refl _
    · have hr : Magnitude.round (Magnitude.zero.units * unitsPerOne) n.units = some .zero := by
        rw [Magnitude.units_zero, Nat.zero_mul, Magnitude.round_zero (Nat.pos_of_ne_zero hn)]
      rw [if_neg hn, if_neg hn, hr]
      exact .zero _ _

theorem Operator.alike_apply_left (o : Operator) (h : x.Alike x') (y : Binary64) :
    (o.apply x y).Alike (o.apply x' y) := by
  cases h with
  | refl => exact .refl _
  | zero s t =>
    cases o with
    | add => exact (Binary64.zero_add_alike s y).trans (Binary64.zero_add_alike t y).symm
    | sub => exact (Binary64.zero_add_alike s (-y)).trans (Binary64.zero_add_alike t (-y)).symm
    | mul => exact Binary64.zero_mul_alike s t y
    | div =>
      rw [apply, apply]
      split
      · exact .refl _
      · exact Binary64.zero_div_alike s t y

theorem Operator.alike_apply_right (o : Operator) (x : Binary64) (h : y.Alike y') :
    (o.apply x y).Alike (o.apply x y') := by
  cases h with
  | refl => exact .refl _
  | zero s t =>
    cases o with
    | add => exact (Binary64.add_zero_alike x s).trans (Binary64.add_zero_alike x t).symm
    | sub => exact (Binary64.add_zero_alike x !s).trans (Binary64.add_zero_alike x !t).symm
    | mul => exact Binary64.mul_zero_alike x s t
    | div => exact .refl _

/-- The sign of zero has no influence but on the sign of zero, since a quotient by either zero is
undefined. -/
theorem Operator.alike_apply (o : Operator) (hx : x.Alike x') (hy : y.Alike y') :
    (o.apply x y).Alike (o.apply x' y') :=
  (o.alike_apply_left hx y).trans (o.alike_apply_right x' hy)

theorem Binary64.isFinite_infinite_add (s : Bool) (y : Binary64) :
    (infinite s + y).isFinite = false := by
  cases y with
  | nan => rfl
  | infinite t => cases s <;> cases t <;> rfl
  | finite t n => rfl

theorem Binary64.isFinite_add_infinite (x : Binary64) (s : Bool) :
    (x + infinite s).isFinite = false := by
  cases x with
  | nan => rfl
  | infinite t => exact isFinite_infinite_add t _
  | finite t n => rfl

theorem Binary64.isFinite_infinite_mul (s : Bool) (y : Binary64) :
    (infinite s * y).isFinite = false := by
  cases y with
  | nan => rfl
  | infinite t => rfl
  | finite t n =>
    change (if n.units = 0 then nan else infinite (s ^^ t)).isFinite = false
    split <;> rfl

theorem Binary64.isFinite_mul_infinite (x : Binary64) (s : Bool) :
    (x * infinite s).isFinite = false := by
  cases x with
  | nan => rfl
  | infinite t => rfl
  | finite t m =>
    change (if m.units = 0 then nan else infinite (t ^^ s)).isFinite = false
    split <;> rfl

theorem Binary64.isFinite_infinite_div (s : Bool) (y : Binary64) :
    (infinite s / y).isFinite = false := by
  cases y <;> rfl

theorem Binary64.isFinite_div_infinite (x : Binary64) (s : Bool) :
    (x / infinite s).isFinite = x.isFinite := by
  cases x <;> rfl

theorem Operator.apply_nan_left (o : Operator) (y : Binary64) : o.apply .nan y = .nan := by
  cases o with
  | add => rfl
  | sub => rfl
  | mul => rfl
  | div => exact ite_self _

theorem Operator.apply_nan_right (o : Operator) (x : Binary64) : o.apply x .nan = .nan := by
  cases o <;> cases x <;> rfl

theorem Operator.apply_div_zero (hy : y.isZero) : div.apply x y = .nan :=
  if_pos hy

/-- No operation makes a finite number of an infinite one on its left. -/
theorem Operator.isFinite_apply_infinite (o : Operator) (s : Bool) (y : Binary64) :
    (o.apply (.infinite s) y).isFinite = false := by
  cases o with
  | add => exact Binary64.isFinite_infinite_add s y
  | sub => exact Binary64.isFinite_infinite_add s (-y)
  | mul => exact Binary64.isFinite_infinite_mul s y
  | div =>
    rw [apply]
    split
    · rfl
    · exact Binary64.isFinite_infinite_div s y

/-- Of an infinite number on the right only a division makes a finite one, if it divides a finite
one. -/
theorem Operator.eq_div_of_isFinite_apply {o : Operator} (h : (o.apply x (.infinite s)).isFinite) :
    o = .div ∧ x.isFinite := by
  cases o with
  | add => exact absurd h (Bool.eq_false_iff.1 (Binary64.isFinite_add_infinite x s))
  | sub => exact absurd h (Bool.eq_false_iff.1 (Binary64.isFinite_add_infinite x !s))
  | mul => exact absurd h (Bool.eq_false_iff.1 (Binary64.isFinite_mul_infinite x s))
  | div => exact ⟨rfl, (Binary64.isFinite_div_infinite x s).symm.trans h⟩

end Calculator
