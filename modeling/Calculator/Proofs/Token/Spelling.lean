import Calculator.Proofs.Token.Lexical

namespace Calculator

/-- A piece of text spells a token if it is the token's text once its blanks are left out; the sign
of a number has no blank directly after it. -/
structure Token.SpelledAs (t : Token) (cs : List Char) : Prop where
  text : cs.filter (!isBlank ·) = t.text.toList
  sign : t.isNumber → cs.IsChain fun c d => c = '-' → isBlank d = false

/-- A text spells tokens if it is cut into pieces that spell them, one after another, and blanks at
its end. -/
inductive Spelling : List Token → List Char → Prop
  | blanks {cs : List Char} (hb : ∀ c ∈ cs, isBlank c) : Spelling [] cs
  | cons {t : Token} {ts : List Token} {w cs : List Char} (hw : t.SpelledAs w)
      (h : Spelling ts cs) : Spelling (t :: ts) (w ++ cs)

def byteLength : List Char → Nat
  | [] => 0
  | c :: cs => c.utf8Size + byteLength cs

def Lexer.Reads (t : Token) : Lexer → Prop
  | operand => t.endsOperand = false
  | group => t = .closing
  | literal _ text => t = .number text

/-- What the lexer has yet to settle when it has read a token to its end. -/
def Token.held (t : Token) : List Token :=
  if t.isNumber then [t] else []

variable {s s' : Lexer} {position start : Nat} {c : Char} {bs cs w : List Char} {t u : Token}
  {ts : List Token}

theorem Lexer.Moves.run_silent (h : s.Moves position c cs.head? [] s') :
    s.run position (c :: cs) = s'.run (position + c.utf8Size) cs := by
  rw [h.run]
  cases s'.run (position + c.utf8Size) cs <;> rfl

theorem Lexer.run_blanks (h : ∀ c ∈ bs, isBlank c) :
    s.run position (bs ++ cs) = s.run (position + byteLength bs) cs := by
  induction bs generalizing position with
  | nil => rfl
  | cons b bs ih =>
    have hm : s.Moves position b (bs ++ cs).head? [] s := .blank (h b List.mem_cons_self)
    rw [List.cons_append, hm.run_silent, ih fun c hc => h c (List.mem_cons_of_mem b hc),
      Nat.add_assoc]
    rfl

theorem isBlank_eq_false {c : Char} (h : isNumeric c) : isBlank c = false := by
  apply Bool.eq_false_iff.2
  intro hb
  simp only [isBlank, Bool.or_eq_true, beq_iff_eq] at hb
  rcases hb with ((rfl | rfl) | rfl) | rfl <;> cases h

theorem Lexer.run_literal {text : String} (h : ∀ c ∈ w, isBlank c ∨ isNumeric c) :
    (literal start text).run position (w ++ cs) =
      (literal start (text ++ .ofList (w.filter (!isBlank ·)))).run (position + byteLength w)
        cs := by
  induction w generalizing position text with
  | nil =>
    rw [List.filter_nil, String.ofList_nil, String.append_empty]
    rfl
  | cons c w ih =>
    have ih {text : String} := @ih (position + c.utf8Size) text
      fun d hd => h d (List.mem_cons_of_mem c hd)
    rw [Nat.add_assoc] at ih
    rw [List.cons_append]
    rcases h c List.mem_cons_self with hc | hc
    · have hm : (literal start text).Moves position c (w ++ cs).head? [] _ := .blank hc
      rw [hm.run_silent, ih, List.filter_cons_of_neg (by simpa using hc)]
      rfl
    · have hm : (literal start text).Moves position c (w ++ cs).head? [] _ := .numeric hc
      rw [hm.run_silent, Lexer.extend, ih,
        List.filter_cons_of_pos (by simpa using isBlank_eq_false hc), String.push_eq_append,
        String.append_assoc, ← String.ofList_cons]
      rfl

theorem Lexer.Reads.finish (h : s.Reads t) (ht : ∀ text, t = .number text → IsLiteral text) :
    s.finish = .ok t.held := by
  cases s with
  | operand =>
    cases t <;> cases h <;> rfl
  | group =>
    cases h
    rfl
  | literal start text =>
    cases h
    have hl := ht text rfl
    have := (Binary64.isSome_ofText?_iff hl.1).2 hl
    simp only [Lexer.finish, this, ↓reduceIte]
    rfl

theorem Lexer.run_symbol (hu : u.symbol? = some c) (hw : u.SpelledAs w) (hp : t.Precedes u)
    (hs : s.Reads t) (ht : ∀ text, t = .number text → IsLiteral text)
    (hr : ∀ position, (after u).run position cs = .ok ts) :
    s.run position (w ++ cs) = .ok (t.held ++ u :: ts) := by
  have hf := hw.text
  rw [Token.toList_text_of_symbol? hu, List.filter_eq_cons_iff] at hf
  obtain ⟨bs, bs', rfl, hb, -, hb'⟩ := hf
  have hb : ∀ b ∈ bs, isBlank b := by simpa using hb
  have hb' : ∀ b ∈ bs', isBlank b := by simpa using hb'
  have ho : u.isOperator → s ≠ operand := by
    rintro hu rfl
    cases u with
    | operator o => exact absurd (hs.symm.trans hp) Bool.false_ne_true
    | _ => cases hu
  have hm : s.Moves (position + byteLength bs) c (bs' ++ cs).head? (t.held ++ [u]) (after u) :=
    .symbol hu ho (hs.finish ht)
  rw [List.append_assoc, run_blanks hb, List.cons_append, hm.run, run_blanks hb', hr,
    Except.map, List.append_assoc]
  rfl

theorem isBlank_or_isNumeric (h : ∀ d ∈ w.filter (!isBlank ·), isNumeric d) :
    ∀ d ∈ w, isBlank d ∨ isNumeric d := by
  intro d hd
  cases hb : isBlank d with
  | true => exact .inl rfl
  | false => exact .inr (h d (List.mem_filter.2 ⟨hd, by rw [hb]; rfl⟩))

theorem Lexer.run_rest {x : String} (hx : x.toList = c :: w.filter (!isBlank ·))
    (hn : ∀ d ∈ w.filter (!isBlank ·), isNumeric d) :
    (literal start (.singleton c)).run position (w ++ cs) =
      (literal start x).run (position + byteLength w) cs := by
  rw [run_literal (isBlank_or_isNumeric hn), show String.singleton c ++ _ = x from ?_]
  rw [← String.ofList_cons, ← hx, String.ofList_toList]

theorem Lexer.run_unsigned {x : String} (hx : x.toList = c :: w.filter (!isBlank ·))
    (hn : ∀ d ∈ c :: w.filter (!isBlank ·), isNumeric d) (hs : s.Reads t)
    (ht : t.isNumber = false) :
    s.run position (c :: (w ++ cs)) =
      (literal position x).run (position + c.utf8Size + byteLength w) cs := by
  have hm : s.Moves position c (w ++ cs).head? [] _ := .numeric (hn c List.mem_cons_self)
  have he : s.extend position c = literal position (.singleton c) := by
    cases s with
    | operand => rfl
    | group => rfl
    | literal => cases hs; cases ht
  rw [hm.run_silent, he, run_rest hx fun d hd => hn d (List.mem_cons_of_mem c hd)]

theorem Lexer.run_signed {x : String} (hx : x.toList = '-' :: w.filter (!isBlank ·))
    (hn : ∀ d ∈ w.filter (!isBlank ·), isNumeric d) (h0 : w.filter (!isBlank ·) ≠ [])
    (hb : ('-' :: w).IsChain fun c d => c = '-' → isBlank d = false) :
    operand.run position ('-' :: (w ++ cs)) =
      (literal position x).run (position + '-'.utf8Size + byteLength w) cs := by
  obtain ⟨d, hd⟩ : ∃ d, (w ++ cs).head? = some d ∧ isNumeric d := by
    cases w with
    | nil => exact absurd rfl h0
    | cons d w =>
      have hd : isBlank d = false := (List.isChain_cons_cons.1 hb).1 rfl
      rcases isBlank_or_isNumeric hn d List.mem_cons_self with h | h
      · rw [hd] at h
        cases h
      · exact ⟨d, rfl, h⟩
  have hm : operand.Moves position '-' (w ++ cs).head? [] _ := .sign rfl rfl ⟨d, hd⟩
  rw [hm.run_silent]
  exact run_rest hx hn

theorem Lexer.run_number {x : String} (hw : (Token.number x).SpelledAs w)
    (hp : t.Precedes (.number x)) (hs : s.Reads t)
    (hr : ∀ start position, (literal start x).run position cs = .ok (.number x :: ts)) :
    s.run position (w ++ cs) = .ok (.number x :: ts) := by
  obtain ⟨⟨hn, -, d, hd, -⟩, ht, hsign⟩ := hp
  have hf : w.filter (!isBlank ·) = x.toList := hw.text
  cases hl : x.toList with
  | nil =>
    rw [hl] at hd
    cases hd
  | cons c xs =>
    have hc := hw.sign rfl
    rw [hl, List.filter_eq_cons_iff] at hf
    obtain ⟨bs, w, rfl, hb, -, rfl⟩ := hf
    have hb : ∀ b ∈ bs, isBlank b := by simpa using hb
    rw [List.append_assoc, run_blanks hb, List.cons_append]
    by_cases hm : c = '-'
    · subst hm
      have he : s = operand := by
        have ho := hsign (by rw [IsSigned, hl]; rfl)
        cases s with
        | operand => rfl
        | group => cases hs; cases ho
        | literal => cases hs; cases ho
      rw [hl] at hn hd
      rw [he, run_signed hl hn (List.ne_nil_of_mem hd) hc.right_of_append]
      exact hr _ _
    · rw [hl, withoutSign_cons _ hm] at hn
      rw [run_unsigned hl hn hs ht]
      exact hr _ _

theorem Lexer.run_piece (hw : u.SpelledAs w) (hp : t.Precedes u) (hs : s.Reads t)
    (ht : ∀ text, t = .number text → IsLiteral text)
    (hr : ∀ (s : Lexer) position, s.Reads u → s.run position cs = .ok (u.held ++ ts)) :
    s.run position (w ++ cs) = .ok (t.held ++ u :: ts) := by
  cases u with
  | number x =>
    have he : t.held = [] := by simp [Token.held, hp.2.1]
    rw [he, run_number hw hp hs fun start position => hr (.literal start x) position rfl]
    rfl
  | operator o => exact run_symbol rfl hw hp hs ht fun position => hr operand position rfl
  | opening => exact run_symbol rfl hw hp hs ht fun position => hr operand position rfl
  | closing => exact run_symbol rfl hw hp hs ht fun position => hr group position rfl

theorem Lexer.run_spelling (h : Spelling ts cs) (hc : (t :: ts).IsChain Token.Precedes)
    (hs : s.Reads t) (ht : ∀ text, t = .number text → IsLiteral text) :
    s.run position cs = .ok (t.held ++ ts) := by
  induction h generalizing s t position with
  | @blanks cs hb =>
    rw [← List.append_nil cs, run_blanks hb, List.append_nil]
    exact hs.finish ht
  | @cons u ts w cs hw h ih =>
    rw [List.isChain_cons_cons] at hc
    exact run_piece hw hc.1 hs ht fun s position hs =>
      ih hc.2 hs (Token.precedes_iff.1 hc.1).1

/-- Every spelling of a lexical list splits into it. -/
theorem Token.lex_of_spelling {source : String} (h : Lexical ts)
    (hs : Spelling ts source.toList) : lex source = .ok ts :=
  Lexer.run_spelling hs (lexical_iff.1 h) (s := .operand) rfl nofun

theorem IsLiteral.not_blank {text : String} (h : IsLiteral text) :
    ∀ c ∈ text.toList, isBlank c = false := by
  intro c hc
  rcases h.eq_or_isNumeric c hc with rfl | hn
  · rfl
  · exact isBlank_eq_false hn

theorem Token.not_blank (ht : ∀ text, t = .number text → IsLiteral text) :
    ∀ c ∈ t.text.toList, isBlank c = false := by
  cases t with
  | number text => exact (ht text rfl).not_blank
  | operator o =>
    rw [toList_text_of_symbol? (t := .operator o) rfl, List.forall_mem_singleton]
    cases o <;> rfl
  | opening =>
    rw [toList_text_of_symbol? (t := .opening) rfl, List.forall_mem_singleton]
    rfl
  | closing =>
    rw [toList_text_of_symbol? (t := .closing) rfl, List.forall_mem_singleton]
    rfl

theorem Token.spelledAs_text (ht : ∀ text, t = .number text → IsLiteral text) :
    t.SpelledAs t.text.toList := by
  have hb := not_blank ht
  constructor
  · exact List.filter_eq_self.2 fun c hc => by rw [hb c hc]; rfl
  · intro _
    rw [List.isChain_iff_forall_rel_of_append_cons_cons]
    intro c d l₁ l₂ he _
    exact hb d (by simp [he])

theorem Token.SpelledAs.cons_blank (hc : isBlank c) (h : t.SpelledAs w) :
    t.SpelledAs (c :: w) := by
  constructor
  · rw [List.filter_cons_of_neg (by simpa using hc)]
    exact h.text
  · intro hn
    refine List.isChain_cons.2 ⟨?_, h.sign hn⟩
    rintro d - rfl
    cases hc

theorem Spelling.cons_blank (hc : isBlank c) (h : Spelling ts cs) : Spelling ts (c :: cs) := by
  cases h with
  | blanks hb => exact .blanks (List.forall_mem_cons.2 ⟨hc, hb⟩)
  | cons hw h => exact .cons (hw.cons_blank hc) h

theorem Spelling.append_blanks (hb : ∀ c ∈ bs, isBlank c) (h : Spelling ts cs) :
    Spelling ts (bs ++ cs) := by
  induction bs with
  | nil => exact h
  | cons b bs ih =>
    exact .cons_blank (hb b List.mem_cons_self) (ih fun c hc => hb c (List.mem_cons_of_mem b hc))

theorem spelling_intercalate {separator : String} (hb : ∀ c ∈ separator.toList, isBlank c)
    (h : ∀ text, .number text ∈ ts → IsLiteral text) :
    Spelling ts (separator.intercalate (ts.map Token.text)).toList := by
  induction ts with
  | nil =>
    rw [List.map_nil, String.intercalate_nil]
    exact .blanks nofun
  | cons t ts ih =>
    have ih := ih fun text hm => h text (List.mem_cons_of_mem t hm)
    have hw := Token.spelledAs_text (t := t) fun text he => h text (he ▸ List.mem_cons_self)
    cases ts with
    | nil =>
      rw [List.map_singleton, String.intercalate_singleton, ← List.append_nil t.text.toList]
      exact .cons hw (.blanks nofun)
    | cons u ts =>
      rw [List.map_cons, List.map_cons, String.intercalate_cons_cons, String.toList_append,
        String.toList_append, List.append_assoc]
      exact .cons hw (.append_blanks hb ih)

theorem join_eq_intercalate (l : List String) : String.join l = "".intercalate l := by
  induction l with
  | nil => rw [String.join_nil, String.intercalate_nil]
  | cons s l ih =>
    rw [String.join_cons, ih]
    cases l with
    | nil => rw [String.intercalate_nil, String.intercalate_singleton, String.append_empty]
    | cons t l => rw [String.intercalate_cons_cons, String.append_empty]

/-- The lexer yields the lexical lists and no others, and reads each of them off the texts of its
tokens. -/
theorem Token.lex_inverts_text :
    (∀ source ts, lex source = .ok ts → Lexical ts) ∧
      ∀ ts, Lexical ts → lex (String.join (ts.map text)) = .ok ts ∧
        lex (" ".intercalate (ts.map text)) = .ok ts := by
  refine ⟨fun source ts => lexical_of_lex, fun ts h => ⟨?_, ?_⟩⟩
  · rw [join_eq_intercalate]
    exact lex_of_spelling h (spelling_intercalate nofun h.literal)
  · have hb : ∀ c ∈ " ".toList, isBlank c := List.all_eq_true.1 (by decide)
    exact lex_of_spelling h (spelling_intercalate hb h.literal)

theorem Token.lex_inverts_text_signs :
    Lexical [.opening, .number "-2", .closing, .operator .sub, .number "3", .operator .sub,
        .number "-.5"] ∧
      lex "(-2)-3--.5" = .ok [.opening, .number "-2", .closing, .operator .sub, .number "3",
        .operator .sub, .number "-.5"] := by
  have h : Lexical [.opening, .number "-2", .closing, .operator .sub, .number "3",
      .operator .sub, .number "-.5"] := by
    apply lexical_iff.2
    simp only [List.isChain_cons_cons, List.isChain_singleton, Token.Precedes]
    decide
  exact ⟨h, (lex_inverts_text.2 _ h).1⟩

end Calculator
