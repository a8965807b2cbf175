import Mathlib.Data.List.Basic
import Mathlib.Data.List.TakeWhile
import Calculator.Decimal

namespace Calculator

def withoutSign : List Char → List Char
  | '-' :: cs => cs
  | cs => cs

/-- A character that a number can consist of after its sign. -/
def isNumeric (c : Char) : Bool :=
  c.isDigit || c == '.'

/-- Digits with at most one point among them, and at least one digit. -/
def IsUnsigned (cs : List Char) : Prop :=
  (∀ c ∈ cs, isNumeric c) ∧ cs.count '.' ≤ 1 ∧ ∃ c ∈ cs, c.isDigit

instance (cs : List Char) : Decidable (IsUnsigned cs) :=
  decidable_of_iff (cs.all isNumeric ∧ cs.count '.' ≤ 1 ∧ cs.any Char.isDigit) (by
    rw [IsUnsigned, List.all_eq_true, List.any_eq_true])

/-- The literals of the calculator: an unsigned number, and a minus sign before it at most. -/
def IsLiteral (text : String) : Prop :=
  IsUnsigned (withoutSign text.toList)

instance (text : String) : Decidable (IsLiteral text) :=
  inferInstanceAs (Decidable (IsUnsigned (withoutSign text.toList)))

def IsSigned (text : String) : Prop :=
  text.toList.head? = some '-'

instance (text : String) : Decidable (IsSigned text) :=
  inferInstanceAs (Decidable (text.toList.head? = some '-'))

theorem withoutSign_cons {c : Char} (cs : List Char) (hc : c ≠ '-') :
    withoutSign (c :: cs) = c :: cs := by
  unfold withoutSign
  split
  · next he => exact absurd (List.cons.inj he).1 hc
  · rfl

theorem withoutSign_concat {c : Char} (cs : List Char) (hc : c ≠ '-') :
    withoutSign (cs ++ [c]) = withoutSign cs ++ [c] := by
  cases cs with
  | nil => exact withoutSign_cons [] hc
  | cons d ds =>
    by_cases hd : d = '-'
    · subst hd
      rfl
    · rw [withoutSign_cons ds hd]
      exact withoutSign_cons _ hd

theorem mem_withoutSign {c : Char} {cs : List Char} (hc : c ∈ cs) (hs : c ≠ '-') :
    c ∈ withoutSign cs := by
  unfold withoutSign
  split
  · exact (List.mem_cons.1 hc).resolve_left hs
  · exact hc

theorem IsLiteral.eq_or_isNumeric {text : String} (h : IsLiteral text) :
    ∀ c ∈ text.toList, c = '-' ∨ isNumeric c := by
  intro c hc
  by_cases hs : c = '-'
  · exact .inl hs
  · exact .inr (h.1 c (mem_withoutSign hc hs))

theorem isSigned_push {text : String} {c : Char} (hc : c ≠ '-') :
    IsSigned (text.push c) ↔ IsSigned text := by
  simp only [IsSigned, String.toList_push]
  cases text.toList with
  | nil => simpa using hc
  | cons d ds => rfl

theorem isNumeric_iff {c : Char} : isNumeric c = true ↔ c.isDigit = true ∨ c = '.' := by
  simp only [isNumeric, Bool.or_eq_true, beq_iff_eq]

theorem ne_minus_of_isNumeric {c : Char} (h : isNumeric c) : c ≠ '-' := by
  rintro rfl
  cases h

theorem toLower_of_isNumeric {c : Char} (h : isNumeric c) : c.toLower = c := by
  delta Char.toLower
  rw [dif_neg]
  rcases isNumeric_iff.1 h with h | rfl
  · simp only [Char.isDigit, ge_iff_le, Bool.and_eq_true, decide_eq_true_eq,
      UInt32.le_iff_toNat_le] at h ⊢
    have h₉ : '9'.val.toNat = 57 := rfl
    have hA : 'A'.val.toNat = 65 := rfl
    omega
  · decide

theorem map_toLower_of_isNumeric {cs : List Char} (h : ∀ c ∈ cs, isNumeric c) :
    cs.map Char.toLower = cs := by
  induction cs with
  | nil => rfl
  | cons c cs ih =>
    rw [List.map_cons, toLower_of_isNumeric (h c List.mem_cons_self),
      ih fun d hd => h d (List.mem_cons_of_mem c hd)]

theorem splitSign_snd {cs : List Char} (h : ∀ c ∈ withoutSign cs, isNumeric c) :
    (splitSign cs).2 = withoutSign cs := by
  unfold splitSign
  split
  · rfl
  · exact absurd (h '+' List.mem_cons_self) (by decide)
  · rename_i hm _
    unfold withoutSign
    split
    · exact (hm _ rfl).elim
    · rfl

theorem isSome_readExponent_iff {cs : List Char} (h : ∀ c ∈ cs, isNumeric c) :
    (readExponent cs).isSome ↔ cs = [] := by
  cases cs with
  | nil => simp only [readExponent, Option.isSome_some]
  | cons c cs =>
    have hc := isNumeric_iff.1 (h c List.mem_cons_self)
    have he : ¬(c = 'e' ∨ c = 'E') := by
      rintro (rfl | rfl) <;> simp at hc
    simp only [readExponent, he, false_and, ↓reduceIte, Option.isSome_none, Bool.false_eq_true,
      reduceCtorEq]

theorem eq_nil_or_point_of_dropWhile {cs : List Char} (h : ∀ c ∈ cs, isNumeric c) :
    cs.dropWhile Char.isDigit = [] ∨ ∃ ds, cs.dropWhile Char.isDigit = '.' :: ds := by
  cases hd : cs.dropWhile Char.isDigit with
  | nil => exact .inl rfl
  | cons c ds =>
    have hn := List.head?_dropWhile_not Char.isDigit cs
    rw [hd] at hn
    have hc : c ∈ cs := (List.dropWhile_sublist _).subset (hd ▸ List.mem_cons_self)
    rcases isNumeric_iff.1 (h c hc) with h | rfl
    · simp [h] at hn
    · exact .inr ⟨ds, rfl⟩

theorem count_point_eq_zero {cs : List Char} (h : ∀ c ∈ cs, c.isDigit) : cs.count '.' = 0 :=
  List.count_eq_zero.2 fun hp => absurd (h _ hp) (by decide)

theorem count_point_le_one_iff {ds cs : List Char} (hd : ∀ c ∈ ds, c.isDigit)
    (hc : ∀ c ∈ cs, isNumeric c) :
    (ds ++ '.' :: cs).count '.' ≤ 1 ↔ cs.dropWhile Char.isDigit = [] := by
  rw [List.count_append, count_point_eq_zero hd, List.count_cons_self, List.dropWhile_eq_nil_iff]
  constructor
  · intro h c hm
    rcases isNumeric_iff.1 (hc c hm) with h' | rfl
    · exact h'
    · have := List.count_pos_iff.2 hm
      omega
  · intro h
    have := count_point_eq_zero h
    omega

theorem Decimal.ofChars?_digits {ds : List Char} (hd : ∀ c ∈ ds, c.isDigit) (hn : ds ≠ []) :
    ofChars? ds = some ⟨Nat.ofDigitChars 10 ds 0, 0⟩ := by
  have ht : ds.takeWhile Char.isDigit = ds := List.takeWhile_eq_self_iff.2 hd
  have hr : ds.dropWhile Char.isDigit = [] := List.dropWhile_eq_nil_iff.2 hd
  simp only [ofChars?, ht, hr, splitFraction, readExponent, List.append_nil, if_neg hn]
  rfl

theorem Decimal.isSome_ofChars?_digits {ds : List Char} (hd : ∀ c ∈ ds, c.isDigit) :
    (ofChars? ds).isSome ↔ ∃ c ∈ ds, c.isDigit := by
  cases ds with
  | nil => simp [ofChars?, splitFraction]
  | cons c ds =>
    rw [ofChars?_digits hd (List.cons_ne_nil c ds)]
    exact iff_of_true rfl ⟨c, List.mem_cons_self, hd c List.mem_cons_self⟩

theorem takeWhile_digits_point {ds cs : List Char} (hd : ∀ c ∈ ds, c.isDigit) :
    (ds ++ '.' :: cs).takeWhile Char.isDigit = ds := by
  rw [List.takeWhile_append_of_pos hd, List.takeWhile_cons_of_neg (by decide), List.append_nil]

theorem dropWhile_digits_point {ds cs : List Char} (hd : ∀ c ∈ ds, c.isDigit) :
    (ds ++ '.' :: cs).dropWhile Char.isDigit = '.' :: cs := by
  rw [List.dropWhile_append_of_pos hd, List.dropWhile_cons_of_neg (by decide)]

theorem Decimal.isSome_ofChars?_point {ds cs : List Char} (hd : ∀ c ∈ ds, c.isDigit)
    (hc : ∀ c ∈ cs, isNumeric c) :
    (ofChars? (ds ++ '.' :: cs)).isSome ↔
      cs.dropWhile Char.isDigit = [] ∧ ∃ c ∈ ds ++ '.' :: cs, c.isDigit := by
  have hp : ¬ '.'.isDigit := by decide
  have hn : ∀ c ∈ cs.dropWhile Char.isDigit, isNumeric c :=
    fun c h => hc c ((List.dropWhile_sublist _).subset h)
  simp only [ofChars?, takeWhile_digits_point hd, dropWhile_digits_point hd, splitFraction]
  split
  next he =>
    obtain ⟨rfl, hf⟩ := List.append_eq_nil_iff.1 he
    simp only [Option.isSome_none, Bool.false_eq_true, false_iff, List.nil_append]
    rintro ⟨hr, c, hm, hd⟩
    have ha := List.takeWhile_append_dropWhile (p := Char.isDigit) (l := cs)
    rw [hf, hr] at ha
    rw [← ha] at hm
    cases List.mem_singleton.1 hm
    exact hp hd
  next he =>
    obtain ⟨c, hm⟩ := List.exists_mem_of_ne_nil _ he
    have hx : ∃ c ∈ ds ++ '.' :: cs, c.isDigit := by
      rcases List.mem_append.1 hm with hm | hm
      · exact ⟨c, List.mem_append_left _ hm, hd c hm⟩
      · have hs := (List.takeWhile_sublist _).subset hm
        exact ⟨c, List.mem_append_right _ (List.mem_cons_of_mem _ hs), List.mem_takeWhile_imp hm⟩
    rw [Option.isSome_map, isSome_readExponent_iff hn]
    exact (and_iff_left hx).symm

theorem Decimal.isSome_ofChars?_iff {cs : List Char} (h : ∀ c ∈ cs, isNumeric c) :
    (ofChars? cs).isSome ↔ cs.count '.' ≤ 1 ∧ ∃ c ∈ cs, c.isDigit := by
  have ha := List.takeWhile_append_dropWhile (p := Char.isDigit) (l := cs)
  have hw : ∀ c ∈ cs.takeWhile Char.isDigit, c.isDigit := fun c => List.mem_takeWhile_imp
  rcases eq_nil_or_point_of_dropWhile h with hr | ⟨ds, hr⟩
  · have hd := List.dropWhile_eq_nil_iff.1 hr
    have hz := count_point_eq_zero hd
    rw [isSome_ofChars?_digits hd, hz]
    simp only [Nat.zero_le, true_and]
  · rw [hr] at ha
    rw [← ha] at h ⊢
    have hn : ∀ c ∈ ds, isNumeric c := fun c hc =>
      h c (List.mem_append_right _ (List.mem_cons_of_mem _ hc))
    rw [isSome_ofChars?_point hw hn, count_point_le_one_iff hw hn]

/-- A text of digits and points, after a minus sign or not, is read as a decimal. -/
theorem Numeral.ofChars?_of_isNumeric {cs : List Char} (h : ∀ c ∈ withoutSign cs, isNumeric c) :
    ofChars? cs = (Decimal.ofChars? (withoutSign cs)).map (finite (splitSign cs).1) := by
  have hl := map_toLower_of_isNumeric h
  have hw {word : List Char} (hi : 'n' ∈ word) : withoutSign cs ≠ word := by
    rintro rfl
    exact absurd (h 'n' hi) (by decide)
  simp only [ofChars?, splitSign_snd h, hl]
  rw [if_neg (not_or.2 ⟨hw (by decide), hw (by decide)⟩), if_neg (hw (by decide))]

/-- Such a text denotes a number when it is a literal. -/
theorem Binary64.isSome_ofText?_iff {text : String}
    (h : ∀ c ∈ withoutSign text.toList, isNumeric c) :
    (ofText? text).isSome ↔ IsLiteral text := by
  rw [ofText?, Numeral.ofChars?_of_isNumeric h, Option.isSome_map, Option.isSome_map,
    Decimal.isSome_ofChars?_iff h]
  exact (and_iff_right h).symm

theorem IsLiteral.isSome_ofText? {text : String} (h : IsLiteral text) :
    (Binary64.ofText? text).isSome :=
  (Binary64.isSome_ofText?_iff h.1).2 h

end Calculator
