import Calculator.Proofs.Binary64
import Calculator.Proofs.Expression.Tree

namespace Calculator

inductive Side where
  | left
  | right
  deriving DecidableEq

/-- An expression occurs in another one, at the end of a path from the root. -/
inductive Expression.Occurs (f : Expression) : List Side → Expression → Prop
  | root : Occurs f [] f
  | left {path : List Side} {left : Expression} (h : Occurs f path left) (o : Operator)
      (right : Expression) : Occurs f (.left :: path) (.binary o left right)
  | right {path : List Side} {right : Expression} (h : Occurs f path right) (o : Operator)
      (left : Expression) : Occurs f (.right :: path) (.binary o left right)

def Expression.DividesByInfinity : Expression → Prop
  | binary .div left right =>
    (∃ y, left.value? = some y ∧ y.isFinite) ∧ ∃ s, right.value? = some (.infinite s)
  | _ => False

/-- Whether a path into an expression leads through the divisor of such a division. -/
def Expression.BehindInfinity (e : Expression) (path : List Side) : Prop :=
  ∃ (above below : List Side) (d : Expression),
    path = above ++ .right :: below ∧ d.Occurs above e ∧ d.DividesByInfinity

variable {e f l r : Expression} {path : List Side} {o : Operator} {x : Binary64} {s : Bool}

theorem Expression.BehindInfinity.left (h : l.BehindInfinity path) :
    (binary o l r).BehindInfinity (.left :: path) := by
  obtain ⟨above, below, d, rfl, hd, hi⟩ := h
  exact ⟨.left :: above, below, d, rfl, hd.left o r, hi⟩

theorem Expression.BehindInfinity.right (h : r.BehindInfinity path) :
    (binary o l r).BehindInfinity (.right :: path) := by
  obtain ⟨above, below, d, rfl, hd, hi⟩ := h
  exact ⟨.right :: above, below, d, rfl, hd.right o l, hi⟩

/-- NaN anywhere in an expression is the value of the whole. -/
theorem Expression.Occurs.ne_nan (h : f.Occurs path e) (hx : e.value? = some x)
    (hn : x ≠ .nan) : ∃ y, f.value? = some y ∧ y ≠ .nan := by
  induction h generalizing x with
  | root => exact ⟨x, hx, hn⟩
  | left h o right ih =>
    obtain ⟨y, z, hy, hz, rfl⟩ := value?_binary_eq_some_iff.1 hx
    apply ih hy
    rintro rfl
    exact hn (Operator.apply_nan_left o z)
  | right h o left ih =>
    obtain ⟨y, z, hy, hz, rfl⟩ := value?_binary_eq_some_iff.1 hx
    apply ih hz
    rintro rfl
    exact hn (Operator.apply_nan_right o y)

theorem Binary64.ne_nan_of_isFinite (h : x.isFinite) : x ≠ .nan := by
  rintro rfl
  cases h

/-- In an expression of finite value an infinity can only occur in the divisor of a finite
number. -/
theorem Expression.Occurs.behindInfinity (h : f.Occurs path e) (hx : e.value? = some x)
    (hf : x.isFinite) (hs : f.value? = some (.infinite s)) : e.BehindInfinity path := by
  -- On the way down both operands of a finite value are finite, until a divisor is not.
  induction h generalizing x with
  | root =>
    rw [hs] at hx
    cases hx
    cases hf
  | left h o right ih =>
    obtain ⟨y, z, hy, hz, rfl⟩ := value?_binary_eq_some_iff.1 hx
    cases y with
    | nan => exact absurd (Operator.apply_nan_left o z) (Binary64.ne_nan_of_isFinite hf)
    | infinite t => exact absurd hf (Bool.eq_false_iff.1 (Operator.isFinite_apply_infinite o t z))
    | finite t m => exact (ih hy rfl).left
  | right h o left ih =>
    obtain ⟨y, z, hy, hz, rfl⟩ := value?_binary_eq_some_iff.1 hx
    cases z with
    | nan => exact absurd (Operator.apply_nan_right o y) (Binary64.ne_nan_of_isFinite hf)
    | infinite t =>
      obtain ⟨rfl, hl⟩ := Operator.eq_div_of_isFinite_apply hf
      exact ⟨[], _, _, rfl, .root, ⟨y, hy, hl⟩, t, hz⟩
    | finite t m => exact (ih hz rfl).right

theorem Expression.Occurs.divisor_ne_zero {y : Binary64}
    (h : (binary .div l r).Occurs path e) (hx : e.value? = some x) (hn : x ≠ .nan)
    (hy : r.value? = some y) : y.isZero = false := by
  obtain ⟨q, hq, hn⟩ := h.ne_nan hx hn
  obtain ⟨z, y', -, hy', rfl⟩ := value?_binary_eq_some_iff.1 hq
  cases hy.symm.trans hy'
  apply Bool.eq_false_iff.2
  intro hz
  exact hn (Operator.apply_div_zero hz)

end Calculator
