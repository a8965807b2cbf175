namespace Calculator

attribute [local instance (10000)] instPowNat

/-- A count of units `2 ^ -1074` is held exactly when it lies below `2 ^ 1024` and has at most
53 significant bits. -/
def Representable (n : Nat) : Prop :=
  n.log2 < 2098 ∧ 2 ^ (n.log2 - 52) ∣ n

instance (n : Nat) : Decidable (Representable n) :=
  inferInstanceAs (Decidable (n.log2 < 2098 ∧ 2 ^ (n.log2 - 52) ∣ n))

theorem log2_mul_two_pow {m : Nat} (hm : m ≠ 0) (e : Nat) : (m * 2 ^ e).log2 = m.log2 + e := by
  have hp := Nat.two_pow_pos e
  rw [Nat.log2_eq_iff (Nat.mul_ne_zero hm (by omega))]
  constructor
  · rw [Nat.pow_add]
    exact Nat.mul_le_mul_right _ (Nat.log2_self_le hm)
  · rw [Nat.add_right_comm, Nat.pow_add]
    exact Nat.mul_lt_mul_of_pos_right Nat.lt_log2_self hp

/-- A significand of 53 bits, or the first one beyond, can be scaled freely below the bound. -/
theorem representable_scaled {m e : Nat} (hm : m ≤ 2 ^ (53 : Nat))
    (hb : (m * 2 ^ e).log2 < 2098) : Representable (m * 2 ^ e) := by
  refine ⟨hb, ?_⟩
  by_cases h₀ : m = 0
  · simp only [h₀, Nat.zero_mul, Nat.dvd_zero]
  rw [log2_mul_two_pow h₀]
  rcases Nat.lt_or_eq_of_le hm with hlt | rfl
  · have hl := (Nat.log2_lt h₀).2 hlt
    exact Nat.dvd_mul_left_of_dvd (Nat.pow_dvd_pow 2 (by omega)) m
  · rw [Nat.log2_two_pow, ← Nat.pow_add]
    exact Nat.pow_dvd_pow 2 (by omega)

/-- The size of a finite number, counted in units of `2 ^ -1074`. -/
structure Magnitude where
  units : Nat
  representable : Representable units
  deriving DecidableEq

def Magnitude.zero : Magnitude := ⟨0, by decide⟩

instance : Inhabited Magnitude := ⟨.zero⟩

/-- A number of the binary64 format; the NaNs are not told apart. -/
inductive Binary64 where
  | nan
  | infinite (negative : Bool)
  | finite (negative : Bool) (magnitude : Magnitude)
  deriving DecidableEq, Inhabited

def Binary64.isZero : Binary64 → Bool
  | finite _ m => m.units == 0
  | _ => false

def Binary64.isFinite : Binary64 → Bool
  | finite _ _ => true
  | _ => false

/-- A significand at an exponent field, the hidden bit added to it beyond the lowest exponent. -/
def Magnitude.ofFields (exponent fraction : Nat) (he : exponent < 2047)
    (hf : fraction < 2 ^ (52 : Nat)) : Magnitude where
  units :=
    if exponent = 0 then fraction * 2 ^ (0 : Nat)
    else (2 ^ (52 : Nat) + fraction) * 2 ^ (exponent - 1)
  representable := by
    split
    · refine representable_scaled (by omega) ?_
      by_cases h₀ : fraction = 0
      · simp only [h₀, Nat.zero_mul, Nat.log2_zero, Nat.zero_lt_succ]
      · rw [log2_mul_two_pow h₀]
        have := (Nat.log2_lt h₀).2 hf
        omega
    · refine representable_scaled (by omega) ?_
      rw [log2_mul_two_pow (by omega)]
      have := (Nat.log2_lt (n := 2 ^ (52 : Nat) + fraction) (k := 53) (by omega)).2 (by omega)
      omega

/-- Reads the sign, the eleven exponent bits and the fraction of an interchange word. -/
def Binary64.ofBits (w : UInt64) : Binary64 :=
  let negative := decide (2 ^ (63 : Nat) ≤ w.toNat)
  let fraction := w.toNat % 2 ^ (52 : Nat)
  let exponent := w.toNat % 2 ^ (63 : Nat) / 2 ^ (52 : Nat)
  if h : exponent < 2047 then
    finite negative (.ofFields exponent fraction h (Nat.mod_lt _ (Nat.two_pow_pos 52)))
  else if fraction = 0 then infinite negative
  else nan

/-- The bits below the sign: the leading significand bit carries into the exponent field. -/
def Magnitude.bits (m : Magnitude) : Nat :=
  let e := m.units.log2 - 52
  e * 2 ^ (52 : Nat) + m.units / 2 ^ e

/-- The interchange word; NaN is written as the positive quiet one. -/
def Binary64.toBits : Binary64 → UInt64
  | nan => 0x7FF8000000000000
  | infinite negative => .ofNat (negative.toNat * 2 ^ (63 : Nat) + 2047 * 2 ^ (52 : Nat))
  | finite negative m => .ofNat (negative.toNat * 2 ^ (63 : Nat) + m.bits)

/-- The natural number nearest to `a / d`; of two equally near the even one. -/
def nearestEven (a d : Nat) : Nat :=
  let q := a / d
  let r := a % d
  if d < 2 * r ∨ 2 * r = d ∧ q % 2 = 1 then q + 1 else q

theorem nearestEven_le (a d : Nat) : nearestEven a d ≤ a / d + 1 := by
  simp only [nearestEven]
  split <;> omega

theorem nearestEven_mul (n : Nat) {d : Nat} (hd : 0 < d) : nearestEven (n * d) d = n := by
  simp only [nearestEven, Nat.mul_div_cancel n hd, Nat.mul_mod_left]
  rw [if_neg (by omega)]

/-- The place of the last significant bit of `a / d` units, never below one unit. -/
def lastPlace (a d : Nat) : Nat :=
  (a / d).log2 - 52

theorem div_lastPlace_lt (a d : Nat) : a / (d * 2 ^ lastPlace a d) < 2 ^ (53 : Nat) := by
  rw [← Nat.div_div_eq_div_mul, Nat.div_lt_iff_lt_mul (Nat.two_pow_pos _), ← Nat.pow_add]
  apply Nat.lt_of_lt_of_le (Nat.lt_log2_self (n := a / d))
  exact Nat.pow_le_pow_right (by omega) (by simp only [lastPlace]; omega)

/-- The units nearest to `a / d` on the grid of 53 significant bits. -/
def roundedUnits (a d : Nat) : Nat :=
  nearestEven a (d * 2 ^ lastPlace a d) * 2 ^ lastPlace a d

theorem roundedUnits_representable {a d : Nat} (h : (roundedUnits a d).log2 < 2098) :
    Representable (roundedUnits a d) := by
  refine representable_scaled ?_ h
  have := nearestEven_le a (d * 2 ^ lastPlace a d)
  have := div_lastPlace_lt a d
  omega

theorem roundedUnits_mul {n d : Nat} (h : Representable n) (hd : 0 < d) :
    roundedUnits (n * d) d = n := by
  obtain ⟨k, hk⟩ := h.2
  have he : lastPlace (n * d) d = n.log2 - 52 := by
    rw [lastPlace, Nat.mul_div_cancel n hd]
  have hn : n * d = k * (d * 2 ^ (n.log2 - 52)) := by
    conv => lhs; rw [hk]
    rw [Nat.mul_comm (2 ^ _) k, Nat.mul_assoc, Nat.mul_comm (2 ^ _) d]
  rw [roundedUnits, he, hn, nearestEven_mul k (Nat.mul_pos hd (Nat.two_pow_pos _)), Nat.mul_comm]
  exact hk.symm

/-- What is less than half a unit vanishes. -/
theorem roundedUnits_eq_zero {a d : Nat} (h : 2 * a < d) : roundedUnits a d = 0 := by
  have hq : a / d = 0 := Nat.div_eq_of_lt (by omega)
  have he : lastPlace a d = 0 := by simp only [lastPlace, hq, Nat.log2_zero]
  have hm : a % d = a := Nat.mod_eq_of_lt (by omega)
  simp only [roundedUnits, he, Nat.pow_zero, Nat.mul_one, nearestEven, hq, hm]
  rw [if_neg (by omega)]

/-- Rounding never takes the leading bit away. -/
theorem log2_le_roundedUnits {a d : Nat} (h : 52 ≤ (a / d).log2) :
    (a / d).log2 ≤ (roundedUnits a d).log2 := by
  have hp := Nat.two_pow_pos (lastPlace a d)
  have hq : a / d ≠ 0 := by
    intro hz
    simp only [hz, Nat.log2_zero] at h
    omega
  have hl : 2 ^ (52 : Nat) * 2 ^ lastPlace a d ≤ a / d := by
    rw [← Nat.pow_add]
    exact Nat.le_trans (Nat.pow_le_pow_right (by omega) (by simp only [lastPlace]; omega))
      (Nat.log2_self_le hq)
  have hn : 2 ^ (52 : Nat) ≤ nearestEven a (d * 2 ^ lastPlace a d) := by
    apply Nat.le_trans ((Nat.le_div_iff_mul_le hp).2 hl)
    rw [Nat.div_div_eq_div_mul]
    simp only [nearestEven]
    split <;> omega
  have hr : nearestEven a (d * 2 ^ lastPlace a d) ≠ 0 := by omega
  rw [roundedUnits, log2_mul_two_pow hr]
  have := (Nat.le_log2 hr).2 hn
  simp only [lastPlace] at this ⊢
  omega

/-- The magnitude nearest to `a / d` units, to even on a tie; there is none beyond the largest. -/
def Magnitude.round (a d : Nat) : Option Magnitude :=
  if h : (roundedUnits a d).log2 < 2098 then
    some ⟨roundedUnits a d, roundedUnits_representable h⟩
  else none

/-- A magnitude is its own rounding. -/
theorem Magnitude.round_units (m : Magnitude) {d : Nat} (hd : 0 < d) :
    round (m.units * d) d = some m := by
  simp only [round, roundedUnits_mul m.representable hd, m.representable.1, ↓reduceDIte]

theorem Magnitude.round_small {a d : Nat} (h : 2 * a < d) : round a d = some .zero := by
  simp only [round, roundedUnits_eq_zero h, Nat.log2_zero, Nat.zero_lt_succ, ↓reduceDIte, zero]

theorem Magnitude.round_large {a d : Nat} (h : 2098 ≤ (a / d).log2) : round a d = none := by
  have := log2_le_roundedUnits (a := a) (d := d) (by omega)
  rw [round, dif_neg (by omega)]

/-- A magnitude with its sign; what is beyond the largest is infinite. -/
def Binary64.signed (negative : Bool) : Option Magnitude → Binary64
  | some m => finite negative m
  | none => infinite negative

def unitsPerOne : Nat := 2 ^ (1074 : Nat)

theorem unitsPerOne_pos : 0 < unitsPerOne := by
  simp only [unitsPerOne, Nat.two_pow_pos]

def Magnitude.toInt (negative : Bool) (m : Magnitude) : Int :=
  if negative then -m.units else m.units

/-- The exact sum, rounded; it is negative zero only when both terms are. -/
def Binary64.add : Binary64 → Binary64 → Binary64
  | nan, _ | _, nan => nan
  | infinite s, infinite t => if s = t then infinite s else nan
  | infinite s, finite _ _ => infinite s
  | finite _ _, infinite t => infinite t
  | finite s m, finite t n =>
    let sum := m.toInt s + n.toInt t
    if sum = 0 then finite (s && t) .zero
    else signed (decide (sum < 0)) (Magnitude.round sum.natAbs 1)

def Binary64.neg : Binary64 → Binary64
  | nan => nan
  | infinite s => infinite !s
  | finite s m => finite (!s) m

/-- The exact product, rounded; zero times infinity is undefined. -/
def Binary64.mul : Binary64 → Binary64 → Binary64
  | nan, _ | _, nan => nan
  | infinite s, infinite t => infinite (s ^^ t)
  | infinite s, finite t n => if n.units = 0 then nan else infinite (s ^^ t)
  | finite s m, infinite t => if m.units = 0 then nan else infinite (s ^^ t)
  | finite s m, finite t n => signed (s ^^ t) (Magnitude.round (m.units * n.units) unitsPerOne)

/-- The exact quotient, rounded; a nonzero number over zero is infinite. -/
def Binary64.div : Binary64 → Binary64 → Binary64
  | nan, _ | _, nan => nan
  | infinite _, infinite _ => nan
  | infinite s, finite t _ => infinite (s ^^ t)
  | finite s _, infinite t => finite (s ^^ t) .zero
  | finite s m, finite t n =>
    if n.units = 0 then
      if m.units = 0 then nan else infinite (s ^^ t)
    else signed (s ^^ t) (Magnitude.round (m.units * unitsPerOne) n.units)

instance : Add Binary64 := ⟨Binary64.add⟩
instance : Neg Binary64 := ⟨Binary64.neg⟩
instance : Sub Binary64 := ⟨fun x y => x + -y⟩
instance : Mul Binary64 := ⟨Binary64.mul⟩
instance : Div Binary64 := ⟨Binary64.div⟩

end Calculator
