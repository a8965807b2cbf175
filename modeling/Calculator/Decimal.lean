import Calculator.Binary64

namespace Calculator

attribute [local instance (10000)] instPowNat

structure Decimal where
  coefficient : Nat
  exponent : Int
  deriving DecidableEq, Repr, Inhabited

/-- The nearest magnitude; there is none beyond the largest. Exponents far outside the format are
settled without a power: `10 ^ 309` is too large by itself, and a coefficient `c` at the exponent
`-k` is below `2 ^ (log2 c + 1 - 3 * k)`, which vanishes. -/
def Decimal.magnitude? (d : Decimal) : Option Magnitude :=
  if d.coefficient = 0 then some .zero
  else if 309 ≤ d.exponent then none
  else if d.coefficient.log2 + 1100 ≤ 3 * -d.exponent then some .zero
  else
    Magnitude.round (d.coefficient * 10 ^ d.exponent.toNat * unitsPerOne)
      (10 ^ (-d.exponent).toNat)

theorem two_pow_le_ten_pow (k : Nat) : 2 ^ (3 * k) ≤ 10 ^ k := by
  rw [Nat.pow_mul]
  exact Nat.pow_le_pow_left (by decide) k

theorem two_pow_lt_ten_pow {j k : Nat} (h : 28 * j < k) : 2 ^ (93 * j + 1) ≤ 10 ^ k := by
  calc 2 ^ (93 * j + 1)
    _ = (2 ^ (93 : Nat)) ^ j * 2 := by rw [← Nat.pow_mul, Nat.pow_succ]
    _ ≤ (10 ^ (28 : Nat)) ^ j * 10 :=
      Nat.mul_le_mul (Nat.pow_le_pow_left (by decide) j) (by omega)
    _ = 10 ^ (28 * j + 1) := by rw [← Nat.pow_mul, Nat.pow_succ]
    _ ≤ 10 ^ k := Nat.pow_le_pow_right (by omega) h

/-- The settled cases agree with rounding the fraction. -/
theorem Decimal.magnitude?_eq_round (d : Decimal) :
    d.magnitude? =
      Magnitude.round (d.coefficient * 10 ^ d.exponent.toNat * unitsPerOne)
        (10 ^ (-d.exponent).toNat) := by
  rw [magnitude?]
  split
  next hc =>
    rw [hc, Nat.zero_mul, Nat.zero_mul, Magnitude.round_small]
    exact Nat.pow_pos (by omega)
  next hc =>
    split
    next hx =>
      have hz : (-d.exponent).toNat = 0 := by omega
      have hp := two_pow_lt_ten_pow (j := 11) (k := d.exponent.toNat) (by omega)
      have hm := Nat.le_mul_of_pos_left (10 ^ d.exponent.toNat) (Nat.pos_of_ne_zero hc)
      have h₀ : d.coefficient * 10 ^ d.exponent.toNat ≠ 0 :=
        Nat.mul_ne_zero hc (Nat.ne_of_gt (Nat.pow_pos (by omega)))
      have hl := (Nat.le_log2 h₀).2 (Nat.le_trans hp hm)
      rw [hz, Nat.pow_zero, Magnitude.round_large]
      simp only [unitsPerOne]
      rw [Nat.div_one, log2_mul_two_pow h₀ 1074]
      omega
    next =>
      split
      next hx =>
        have hz : d.exponent.toNat = 0 := by omega
        rw [hz, Nat.pow_zero, Nat.mul_one, Magnitude.round_small]
        calc 2 * (d.coefficient * unitsPerOne)
          _ < 2 * (2 ^ (d.coefficient.log2 + 1) * unitsPerOne) := by
            have := Nat.mul_lt_mul_of_pos_right (Nat.lt_log2_self (n := d.coefficient))
              unitsPerOne_pos
            omega
          _ = 2 ^ (d.coefficient.log2 + 1 + 1074 + 1) := by
            simp only [unitsPerOne]
            rw [← Nat.pow_add 2 (d.coefficient.log2 + 1) 1074, ← Nat.pow_succ']
          _ ≤ 2 ^ (3 * (-d.exponent).toNat) := Nat.pow_le_pow_right (by omega) (by omega)
          _ ≤ 10 ^ (-d.exponent).toNat := two_pow_le_ten_pow _
      next => rfl

/-- So many decimal places hold a magnitude exactly. -/
def Magnitude.places (m : Magnitude) : Nat :=
  1074 - (m.units.log2 - 52)

/-- A magnitude counted at its last decimal place. -/
def Magnitude.decimalUnits (m : Magnitude) : Nat :=
  m.units * 10 ^ m.places / unitsPerOne

theorem Magnitude.two_pow_dvd (m : Magnitude) {t p : Nat} (h : t ≤ m.units.log2 - 52 + p) :
    2 ^ t ∣ m.units * 10 ^ p := by
  have h10 : 10 ^ p = 2 ^ p * 5 ^ p := Nat.mul_pow 2 5 p
  rw [h10, ← Nat.mul_assoc]
  apply Nat.dvd_mul_right_of_dvd
  apply Nat.dvd_trans (Nat.pow_dvd_pow 2 h)
  rw [Nat.pow_add]
  exact Nat.mul_dvd_mul m.representable.2 (Nat.dvd_refl _)

theorem Magnitude.decimalUnits_mul (m : Magnitude) :
    m.decimalUnits * unitsPerOne = m.units * 10 ^ m.places := by
  apply Nat.div_mul_cancel
  simp only [unitsPerOne]
  apply m.two_pow_dvd
  simp only [places]
  omega

theorem Magnitude.five_pow_le_decimalUnits {m : Magnitude} (h₀ : m.units ≠ 0)
    (hp : m.places ≠ 0) : 5 ^ m.places ≤ m.decimalUnits := by
  have he := Nat.two_pow_pos (m.units.log2 - 52)
  have hU : unitsPerOne = 2 ^ (m.units.log2 - 52) * 2 ^ m.places := by
    rw [← Nat.pow_add]
    simp only [unitsPerOne]
    congr 1
    simp only [places] at hp ⊢
    omega
  have h10 : 10 ^ m.places = 5 ^ m.places * 2 ^ m.places := Nat.mul_pow 5 2 m.places
  have hu := m.decimalUnits_mul
  rw [hU, h10, ← Nat.mul_assoc, ← Nat.mul_assoc] at hu
  have hc := Nat.eq_of_mul_eq_mul_right (Nat.two_pow_pos _) hu
  have hl : 2 ^ (m.units.log2 - 52) ≤ m.units :=
    Nat.le_trans (Nat.pow_le_pow_right (by omega) (by omega)) (Nat.log2_self_le h₀)
  apply Nat.le_of_mul_le_mul_right _ he
  rw [hc, Nat.mul_comm m.units]
  exact Nat.mul_le_mul_left _ hl

/-- With all its places kept, the decimal reads back. -/
theorem Magnitude.magnitude?_decimalUnits {m : Magnitude} (h₀ : m.units ≠ 0) :
    Decimal.magnitude? ⟨m.decimalUnits, -m.places⟩ = some m := by
  have hN : m.decimalUnits ≠ 0 := by
    intro hz
    have hu := m.decimalUnits_mul
    rw [hz, Nat.zero_mul] at hu
    have := Nat.mul_pos (Nat.pos_of_ne_zero h₀) (Nat.pow_pos (n := m.places) (a := 10) (by omega))
    omega
  have hl : ¬((m.decimalUnits.log2 : Int) + 1100 ≤ 3 * - -(m.places : Int)) := by
    by_cases hp : m.places = 0
    · omega
    have h4 : 2 ^ (2 * m.places) ≤ m.decimalUnits := by
      rw [Nat.pow_mul]
      exact Nat.le_trans (Nat.pow_le_pow_left (by omega) _) (five_pow_le_decimalUnits h₀ hp)
    have := (Nat.le_log2 hN).2 h4
    have : m.places ≤ 1074 := by simp only [places]; omega
    omega
  have hz : (-(m.places : Int)).toNat = 0 := by omega
  rw [Decimal.magnitude?, if_neg hN, if_neg (by simp only; omega), if_neg hl]
  simp only [hz, Int.neg_neg, Int.toNat_natCast, Nat.pow_zero, Nat.mul_one, m.decimalUnits_mul]
  exact m.round_units (Nat.pow_pos (by omega))

/-- The two multiples of `p` around `n`, divided by `p`: the nearer first, and the upper one first
when both are as near. -/
def neighbours (n p : Nat) : List Nat :=
  if 2 * (n % p) < p then [n / p, n / p + 1] else [n / p + 1, n / p]

/-- The first decimal that reads back when the last `j` digits are dropped, then when one less is,
and so on; with none dropped the decimal is exact. -/
def Magnitude.shortestFrom (m : Magnitude) : Nat → Decimal
  | 0 => ⟨m.decimalUnits, -m.places⟩
  | j + 1 =>
    let grid := (neighbours m.decimalUnits (10 ^ (j + 1))).map fun c => ⟨c, j + 1 - m.places⟩
    (grid.find? fun d => d.magnitude? == some m).getD (m.shortestFrom j)

/-- The decimal of fewest digits that reads back as the magnitude, of those the nearest to it. -/
def Magnitude.shortest (m : Magnitude) : Decimal :=
  if m.units = 0 then ⟨0, 0⟩ else m.shortestFrom (Nat.toDigits 10 m.decimalUnits).length

theorem Magnitude.magnitude?_shortestFrom {m : Magnitude} (h₀ : m.units ≠ 0) (j : Nat) :
    (m.shortestFrom j).magnitude? = some m := by
  induction j with
  | zero => exact magnitude?_decimalUnits h₀
  | succ j ih =>
    simp only [shortestFrom]
    generalize hg : List.find? _ _ = found
    cases found with
    | none => exact ih
    | some d => simpa using List.find?_some hg

/-- The shortest decimal of a magnitude reads back as it. -/
theorem Magnitude.magnitude?_shortest (m : Magnitude) : m.shortest.magnitude? = some m := by
  by_cases h₀ : m.units = 0
  · obtain ⟨u, h⟩ := m
    cases h₀
    rfl
  · rw [shortest, if_neg h₀]
    exact magnitude?_shortestFrom h₀ _

structure Layout where
  /-- Whether a number whose leading digit stands at this power of ten is written without an
  exponent. -/
  isPositional : Int → Bool
  /-- Whether a whole number is written with a point and a zero. -/
  keepsPoint : Bool

/-- Results are written without an exponent, whole numbers without a point. -/
def Layout.plain : Layout := ⟨fun _ => true, false⟩

/-- The log shows a point in every positional number, and an exponent from `1e16` on and below
`1e-4`. -/
def Layout.logged : Layout := ⟨fun e => -4 ≤ e && e < 16, true⟩

def Decimal.digits (d : Decimal) : List Char :=
  Nat.toDigits 10 d.coefficient

/-- The power of ten at which the leading digit stands. -/
def Decimal.leading (d : Decimal) : Int :=
  d.digits.length - 1 + d.exponent

/-- Every digit at its place, zeros filling the gap to the point. -/
def Decimal.positional (keepsPoint : Bool) (d : Decimal) : List Char :=
  let places := (-d.exponent).toNat
  if places = 0 then
    d.digits ++ .replicate d.exponent.toNat '0' ++ if keepsPoint then ".0".toList else []
  else
    let padded := .replicate (places + 1 - d.digits.length) '0' ++ d.digits
    padded.take (padded.length - places) ++ '.' :: padded.drop (padded.length - places)

/-- One digit before the point, and the power of ten after an `e`. -/
def Decimal.scientific (d : Decimal) : List Char :=
  let fraction := d.digits.drop 1
  d.digits.take 1 ++ (if fraction = [] then [] else '.' :: fraction) ++
    'e' :: (toString d.leading).toList

def Decimal.render (l : Layout) (d : Decimal) : String :=
  .ofList (if l.isPositional d.leading then d.positional l.keepsPoint else d.scientific)

def signText (negative : Bool) : String :=
  if negative then "-" else ""

/-- The shortest digits that read back, in a layout; zero keeps its sign. -/
def Binary64.render (l : Layout) : Binary64 → String
  | nan => "NaN"
  | infinite negative => signText negative ++ "inf"
  | finite negative m => signText negative ++ m.shortest.render l

/-- The text of a result, in which zero has no sign. -/
def Binary64.display (x : Binary64) : String :=
  if x.isZero then "0" else x.render .plain

inductive Numeral where
  | nan
  | infinite (negative : Bool)
  | finite (negative : Bool) (decimal : Decimal)
  deriving DecidableEq

/-- Takes one leading sign off; no sign counts as plus. -/
def splitSign : List Char → Bool × List Char
  | '-' :: cs => (true, cs)
  | '+' :: cs => (false, cs)
  | cs => (false, cs)

/-- The exponent part after the digits: nothing, or a mark, an optional sign and digits. -/
def readExponent : List Char → Option Int
  | [] => some 0
  | c :: cs =>
    let (negative, ds) := splitSign cs
    if (c = 'e' ∨ c = 'E') ∧ ds ≠ [] ∧ ds.all Char.isDigit then
      let n := Nat.ofDigitChars 10 ds 0
      some (if negative then -n else n)
    else none

def splitFraction : List Char → List Char × List Char
  | '.' :: cs => (cs.takeWhile Char.isDigit, cs.dropWhile Char.isDigit)
  | cs => ([], cs)

/-- ASCII digits with at most one point and at least one digit, then an exponent part. -/
def Decimal.ofChars? (cs : List Char) : Option Decimal :=
  let whole := cs.takeWhile Char.isDigit
  let (fraction, rest) := splitFraction (cs.dropWhile Char.isDigit)
  if whole ++ fraction = [] then none
  else (readExponent rest).map fun e =>
    ⟨Nat.ofDigitChars 10 (whole ++ fraction) 0, e - fraction.length⟩

/-- An optional sign before a decimal or, in any ASCII case, `inf`, `infinity` or `nan`. -/
def Numeral.ofChars? (cs : List Char) : Option Numeral :=
  let (negative, body) := splitSign cs
  let word := body.map Char.toLower
  if word = "inf".toList ∨ word = "infinity".toList then some (infinite negative)
  else if word = "nan".toList then some nan
  else (Decimal.ofChars? body).map (finite negative)

def Numeral.value : Numeral → Binary64
  | nan => .nan
  | infinite negative => .infinite negative
  | finite negative d => .signed negative d.magnitude?

def Binary64.ofText? (s : String) : Option Binary64 :=
  (Numeral.ofChars? s.toList).map Numeral.value

end Calculator
