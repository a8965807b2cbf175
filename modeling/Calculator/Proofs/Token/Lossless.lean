import Calculator.Proofs.Token.Reading

namespace Calculator

def Token.letters (ts : List Token) : List Char :=
  ts.flatMap fun t => t.text.toList

def Lexer.pending : Lexer → List Char
  | literal _ text => text.toList
  | _ => []

/-- Token `i` holds the character that comes after a text: blanks left out, that character lies
beyond the tokens before `i`, but not beyond `i` itself. -/
def Token.Holds (ts : List Token) (before : String) (i : Nat) : Prop :=
  let n := (before.toList.filter (!isBlank ·)).length
  (letters (ts.take i)).length ≤ n ∧ n < (letters (ts.take (i + 1))).length

/-- The character that comes after a text belongs to one token and to no other, and this is `t`. -/
def Token.HeldBy (ts : List Token) (before : String) (t : Token) : Prop :=
  ∃ i, (∀ j, Holds ts before j ↔ j = i) ∧ ts[i]? = some t

variable {s s' : Lexer} {position start i j : Nat} {c : Char} {next : Option Char}
  {cs : List Char} {t u : Token} {ts as bs : List Token} {before after source text : String}

@[simp] theorem Token.letters_append (ts us : List Token) :
    letters (ts ++ us) = letters ts ++ letters us :=
  List.flatMap_append

@[simp] theorem Token.letters_singleton (t : Token) : letters [t] = t.text.toList :=
  List.flatMap_singleton _ t

theorem Token.toList_join_text (ts : List Token) :
    (String.join (ts.map Token.text)).toList = letters ts := by
  rw [String.toList_join, List.flatMap_map]
  rfl

theorem Token.not_blank_of_symbol? (h : t.symbol? = some c) : isBlank c = false := by
  have hn : ∀ text, t = .number text → IsLiteral text := by
    rintro text rfl
    cases h
  apply not_blank hn
  rw [toList_text_of_symbol? h]
  exact List.mem_singleton_self c

theorem Lexer.letters_finish (h : s.finish = .ok ts) : Token.letters ts = s.pending := by
  cases s with
  | literal start text =>
    rw [(of_finish_literal h).2]
    exact Token.letters_singleton _
  | _ =>
    cases h
    rfl

theorem Lexer.pending_extend (s : Lexer) (position : Nat) (c : Char) :
    (s.extend position c).pending = s.pending ++ [c] := by
  cases s with
  | literal start text => exact String.toList_push c
  | _ => exact String.toList_singleton c

/-- A character is settled or pending once it is read, unless it is a blank. -/
theorem Lexer.Moves.letters (h : s.Moves position c next ts s') :
    Token.letters ts ++ s'.pending = s.pending ++ [c].filter (!isBlank ·) := by
  cases h with
  | blank hc =>
    rw [List.filter_cons_of_neg (by simpa using hc)]
    exact (List.append_nil _).symm
  | numeric hc =>
    rw [List.filter_cons_of_pos (by simpa using isBlank_eq_false hc)]
    exact pending_extend s position c
  | sign hs hc =>
    subst hs hc
    rfl
  | @symbol t fs ht hs hf =>
    have hc := Token.not_blank_of_symbol? ht
    have ha : (after t).pending = [] := by
      cases t <;> rfl
    rw [List.filter_cons_of_pos (by simpa using hc), Token.letters_append, Token.letters_singleton,
      letters_finish hf, Token.toList_text_of_symbol? ht, ha, List.append_nil]
    rfl

theorem Lexer.letters_of_read (h : s.read position next cs = .ok (ts, s')) :
    Token.letters ts ++ s'.pending = s.pending ++ cs.filter (!isBlank ·) := by
  induction cs generalizing s position ts with
  | nil =>
    cases h
    exact (List.append_nil _).symm
  | cons c cs ih =>
    obtain ⟨settled, mid, rest, hm, hr, rfl⟩ := moves_of_read h
    calc Token.letters (settled ++ rest) ++ s'.pending
      _ = Token.letters settled ++ (mid.pending ++ cs.filter (!isBlank ·)) := by
        rw [Token.letters_append, List.append_assoc, ih hr]
      _ = s.pending ++ ([c].filter (!isBlank ·) ++ cs.filter (!isBlank ·)) := by
        rw [← List.append_assoc, hm.letters, List.append_assoc]
      _ = s.pending ++ (c :: cs).filter (!isBlank ·) := by
        rw [← List.filter_append, List.singleton_append]

theorem Token.letters_of_lex (h : lex source = .ok ts) :
    letters ts = source.toList.filter (!isBlank ·) := by
  obtain ⟨settled, s, pending, hr, hf, rfl⟩ := Lexer.read_of_run h
  rw [letters_append, Lexer.letters_finish hf, Lexer.letters_of_read hr]
  rfl

theorem Token.length_letters_take_le (ts : List Token) (h : i ≤ j) :
    (letters (ts.take i)).length ≤ (letters (ts.take j)).length := by
  obtain ⟨k, rfl⟩ := Nat.exists_eq_add_of_le h
  rw [List.take_add, letters_append, List.length_append]
  exact Nat.le_add_right _ _

theorem Token.Holds.unique (hi : Holds ts before i) (hj : Holds ts before j) : i = j := by
  obtain ⟨hi, hi'⟩ := hi
  obtain ⟨hj, hj'⟩ := hj
  rcases Nat.lt_trichotomy i j with hlt | rfl | hlt
  · have := length_letters_take_le ts (show i + 1 ≤ j from hlt)
    omega
  · rfl
  · have := length_letters_take_le ts (show j + 1 ≤ i from hlt)
    omega

theorem Token.HeldBy.unique (ht : HeldBy ts before t) (hu : HeldBy ts before u) : t = u := by
  obtain ⟨i, hi, ht⟩ := ht
  obtain ⟨j, hj, hu⟩ := hu
  cases (hj i).1 ((hi i).2 rfl)
  exact Option.some.inj (ht.symm.trans hu)

/-- The character belongs to the token that begins with it. -/
theorem Token.heldBy_of_letters (ht : t.text.toList ≠ [])
    (ha : letters as = before.toList.filter (!isBlank ·)) : HeldBy (as ++ t :: bs) before t := by
  have hl : 0 < t.text.toList.length := List.length_pos_iff.2 ht
  have hi : Holds (as ++ t :: bs) before as.length := by
    rw [Holds, ← ha, List.take_left, ← List.singleton_append, ← List.append_assoc,
      List.take_left' (by simp), letters_append, letters_singleton, List.length_append]
    omega
  refine ⟨as.length, fun j => ⟨fun hj => hj.unique hi, ?_⟩, by simp⟩
  rintro rfl
  exact hi

/-- A literal that has begun with a sign ends as a number with that sign. -/
theorem Lexer.exists_signed_of_run (h : (literal start text).run position cs = .ok ts)
    (hs : IsSigned text) : ∃ x rest, ts = .number x :: rest ∧ IsSigned x := by
  induction cs generalizing text position with
  | nil => exact ⟨text, [], (of_finish_literal h).2, hs⟩
  | cons c cs ih =>
    obtain ⟨settled, s', rest, hm, hr, rfl⟩ := moves_of_run h
    cases hm with
    | blank hc => exact ih hr hs
    | numeric hc => exact ih hr ((isSigned_push (ne_minus_of_isNumeric hc)).2 hs)
    | sign ho => cases ho
    | @symbol t fs ht ho hf =>
      cases (of_finish_literal hf).2
      exact ⟨text, t :: rest, rfl, hs⟩

theorem Token.text_ne_nil_of_isSigned (h : IsSigned text) :
    (number text).text.toList ≠ [] := by
  intro he
  rw [IsSigned, show text.toList = [] from he] at h
  cases h

/-- A minus sign is an operator, unless an operand is due: then it is the sign of a literal. -/
theorem Token.heldBy_minus (h : lex (before ++ "-" ++ after) = .ok ts) :
    ∃ settled s rest, Lexer.operand.read 0 (some '-') before.toList = .ok (settled, s) ∧
      s.run (byteLength before.toList) ('-' :: after.toList) = .ok rest ∧ ts = settled ++ rest ∧
      (s ≠ .operand ∧ HeldBy ts before (.operator .sub) ∨
        s = .operand ∧ ∃ x, IsSigned x ∧ HeldBy ts before (.number x)) := by
  have hs : (before ++ "-" ++ after).toList = before.toList ++ '-' :: after.toList := by
    simp only [String.toList_append, List.append_assoc]
    rfl
  rw [lex, hs] at h
  obtain ⟨settled, s, us, hr, h', rfl⟩ := Lexer.read_of_run_append h
  rw [Nat.zero_add] at h'
  have hl : letters settled ++ s.pending = before.toList.filter (!isBlank ·) :=
    Lexer.letters_of_read hr
  refine ⟨settled, s, us, hr, h', rfl, ?_⟩
  obtain ⟨now, s', rest, hm, hrest, rfl⟩ := Lexer.moves_of_run h'
  cases hm with
  | blank hc => cases hc
  | numeric hc => cases hc
  | sign ho =>
    subst ho
    obtain ⟨x, rest, rfl, hx⟩ := Lexer.exists_signed_of_run hrest rfl
    exact .inr ⟨rfl, x, hx, heldBy_of_letters (text_ne_nil_of_isSigned hx)
      ((List.append_nil _).symm.trans hl)⟩
  | @symbol t fs ht ho hf =>
    have he : t = .operator .sub := by
      cases t with
      | operator o => cases o <;> cases ht; rfl
      | _ => cases ht
    subst he
    refine .inl ⟨ho rfl, ?_⟩
    rw [← Lexer.letters_finish hf, ← letters_append] at hl
    have hb : HeldBy ((settled ++ fs) ++ .operator .sub :: rest) before (.operator .sub) :=
      heldBy_of_letters (List.cons_ne_nil '-' []) hl
    simpa only [List.append_assoc, List.singleton_append] using hb

/-- The lexer leaves out the blanks and nothing else, and puts each minus sign into one token,
either as the operator or as the sign of a number. -/
theorem Token.lex_lossless (h : lex source = .ok ts) :
    String.join (ts.map Token.text) = .ofList (source.toList.filter (!isBlank ·)) ∧
      ∀ before after, source = before ++ "-" ++ after →
        HeldBy ts before (.operator .sub) ∨ ∃ x, IsSigned x ∧ HeldBy ts before (.number x) := by
  constructor
  · rw [← String.toList_inj, toList_join_text, letters_of_lex h, String.toList_ofList]
  · rintro before after rfl
    obtain ⟨settled, s, rest, -, -, -, hm⟩ := heldBy_minus h
    exact hm.imp And.right And.right

theorem Token.lex_lossless_signs :
    let source := "2 -(-.5\t3\n)--1"
    let ts := [.number "2", .operator .sub, .opening, .number "-.53", .closing, .operator .sub,
      .number "-1"]
    lex source = .ok ts ∧
      String.join (ts.map Token.text) = .ofList (source.toList.filter (!isBlank ·)) ∧
      (HeldBy ts "2 -(-.5\t3\n)-" (.operator .sub) ∨
        ∃ x, IsSigned x ∧ HeldBy ts "2 -(-.5\t3\n)-" (.number x)) := by
  intro source ts
  have h : lex source = .ok ts := by decide +kernel
  obtain ⟨hj, hm⟩ := lex_lossless h
  exact ⟨h, hj, hm "2 -(-.5\t3\n)-" "1" rfl⟩

end Calculator
