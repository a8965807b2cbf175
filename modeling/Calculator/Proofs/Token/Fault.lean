import Calculator.Proofs.Token.Lossless
import Calculator.Proofs.Token.Position

namespace Calculator

def isSymbol (c : Char) : Bool :=
  (Operator.ofSymbol? c).isSome || c == '(' || c == ')'

def isSupported (c : Char) : Bool :=
  isNumeric c || isBlank c || isSymbol c

/-- What a fault tells of the character where it is found, and of what stands before and after that
character. A number is written up to the next symbol, or to the end of the text. -/
inductive LexFault.FoundAt (before : String) (c : Char) (after : String) : LexFault → Prop
  | unsupported {position : Nat} (hc : isSupported c = false)
      (hb : ∀ d ∈ before.toList, isSupported d)
      (hl : ∀ f, Token.lex before = .error f →
        ∃ literal start, f = .malformedNumber literal start) :
      FoundAt before c after (.unsupported c position)
  | strayOperator {position : Nat} {o : Operator} {ts : List Token} (ho : o.symbol = c)
      (hl : Token.lex before = .ok ts) (ht : ∀ t ∈ ts.getLast?, t.isOperator ∨ t = .opening)
      (hn : c = '-' → ∀ d ∈ after.toList.head?, isNumeric d = false) :
      FoundAt before c after (.strayOperator c position)
  | malformedNumber {position : Nat} {ts : List Token} {body rest : List Char} {literal : String}
      (hl : Token.lex before = .ok ts) (ha : after.toList = body ++ rest)
      (hb : ∀ d ∈ body, isSymbol d = false) (hr : ∀ d ∈ rest.head?, isSymbol d)
      (hx : literal.toList = (c :: body).filter (!isBlank ·))
      (hn : (∀ d ∈ literal.toList, d.isDigit = false) ∨ 1 < literal.toList.count '.') :
      FoundAt before c after (.malformedNumber literal position)

/-- The characters end in a literal that begins at `start`, after the tokens `ts`; only digits,
points and blanks have followed its first character. -/
inductive EndsInLiteral : List Char → List Token → Nat → Prop
  | intro {as bs : List Char} {c : Char} {ts : List Token} {s : Lexer}
      (hr : Lexer.operand.read 0 (some c) as = .ok (ts, s)) (hs : s.inLiteral = false)
      (hb : ∀ d ∈ bs, isBlank d ∨ isNumeric d) :
      EndsInLiteral (as ++ c :: bs) ts (byteLength as)

variable {s s' : Lexer} {position start : Nat} {c : Char} {next : Option Char}
  {as cs rest : List Char} {t : Token} {ts : List Token} {f : LexFault} {text source : String}

theorem isSymbol_of_symbol? (h : t.symbol? = some c) : isSymbol c := by
  cases t with
  | number text => cases h
  | operator o =>
    cases h
    cases o <;> rfl
  | opening =>
    cases h
    rfl
  | closing =>
    cases h
    rfl

theorem exists_shows_of_isSupported (h : isSupported c) : ∃ g, Glyph.Shows c g := by
  simp only [isSupported, isSymbol, Bool.or_eq_true, beq_iff_eq] at h
  rcases h with (hn | hb) | (ho | hc) | hc
  · rcases isNumeric_iff.1 hn with hd | hp
    · exact ⟨.digit, hd⟩
    · exact ⟨.dot, hp⟩
  · exact ⟨.blank, hb⟩
  · obtain ⟨o, ho⟩ := Option.isSome_iff_exists.1 ho
    exact ⟨.operator o, Operator.symbol_of_ofSymbol? ho⟩
  · exact ⟨.opening, hc⟩
  · exact ⟨.closing, hc⟩

theorem isSupported_eq_false (h : Glyph.ofChar? c = none) : isSupported c = false := by
  apply Bool.eq_false_iff.2
  intro hs
  obtain ⟨g, hg⟩ := exists_shows_of_isSupported hs
  cases h.symm.trans hg.ofChar?

theorem isSymbol_eq_false (h : isBlank c ∨ isNumeric c) : isSymbol c = false := by
  apply Bool.eq_false_iff.2
  intro hs
  have hn : isBlank c = false ∧ isNumeric c = false := by
    simp only [isSymbol, Bool.or_eq_true, beq_iff_eq] at hs
    rcases hs with (ho | rfl) | rfl
    · obtain ⟨o, ho⟩ := Option.isSome_iff_exists.1 ho
      rw [← Operator.symbol_of_ofSymbol? ho]
      cases o <;> decide
    · decide
    · decide
  rw [hn.1, hn.2] at h
  rcases h with h | h <;> cases h

theorem Lexer.Moves.isSupported (h : s.Moves position c next ts s') : isSupported c := by
  simp only [Calculator.isSupported, Bool.or_eq_true]
  cases h with
  | blank hc => exact .inl (.inr hc)
  | numeric hc => exact .inl (.inl hc)
  | sign hs hc =>
    subst hc
    exact .inr rfl
  | symbol ht => exact .inr (isSymbol_of_symbol? ht)

theorem Lexer.isSupported_of_read (h : s.read position next cs = .ok (ts, s')) :
    ∀ c ∈ cs, Calculator.isSupported c := by
  induction cs generalizing s position ts with
  | nil => exact List.forall_mem_nil _
  | cons c cs ih =>
    obtain ⟨settled, mid, rest, hm, hr, -⟩ := moves_of_read h
    exact List.forall_mem_cons.2 ⟨hm.isSupported, ih hr⟩

theorem Lexer.finish_of_not_inLiteral (hs : s.inLiteral = false) : s.finish = .ok [] := by
  cases s with
  | literal => cases hs
  | _ => rfl

theorem Lexer.pending_of_not_inLiteral (hs : s.inLiteral = false) : s.pending = [] := by
  cases s with
  | literal => cases hs
  | _ => rfl

theorem Token.lex_of_read (h : Lexer.operand.read 0 next cs = .ok (ts, s))
    (hn : s.inLiteral → ∀ d ∈ next, isNumeric d = false) :
    lex (.ofList cs) = s.finish.map (ts ++ ·) := by
  simp only [lex, String.toList_ofList, Lexer.run_eq_read, Lexer.read_with_next h hn none, ok_bind]
  cases s.finish <;> rfl

theorem Token.lex_of_not_inLiteral (h : Lexer.operand.read 0 next cs = .ok (ts, s))
    (hs : s.inLiteral = false) : lex (.ofList cs) = .ok ts := by
  have hn : s.inLiteral → ∀ d ∈ next, isNumeric d = false := by
    rw [hs]
    nofun
  rw [lex_of_read h hn, Lexer.finish_of_not_inLiteral hs, Except.map, List.append_nil]

theorem EndsInLiteral.concat (h : EndsInLiteral cs ts start) (hc : isBlank c ∨ isNumeric c) :
    EndsInLiteral (cs ++ [c]) ts start := by
  cases h with
  | @intro as bs b ts s hr hs hb =>
    rw [List.append_assoc, List.cons_append]
    refine .intro hr hs ?_
    rw [List.forall_mem_append, List.forall_mem_singleton]
    exact ⟨hb, hc⟩

theorem Lexer.endsInLiteral_of_read
    (h : operand.read 0 next cs = .ok (ts, literal start text)) : EndsInLiteral cs ts start := by
  induction cs using List.reverseRecOn generalizing next ts text with
  | nil => cases h
  | append_singleton cs d ih =>
    obtain ⟨settled, mid, rest, hr, hm, rfl⟩ := moves_of_read_concat h
    have begun (hs : mid.inLiteral = false) : EndsInLiteral (cs ++ [d]) settled (byteLength cs) :=
      .intro hr hs (List.forall_mem_nil _)
    rw [Nat.zero_add] at hm
    generalize hl : literal start text = s at hm
    cases hm with
    | blank hd =>
      subst hl
      rw [List.append_nil]
      exact (ih hr).concat (.inl hd)
    | numeric hd =>
      rw [List.append_nil]
      cases mid with
      | literal start' text' =>
        cases hl
        exact (ih hr).concat (.inr hd)
      | _ =>
        cases hl
        exact begun rfl
    | sign hs =>
      subst hs
      cases hl
      rw [List.append_nil]
      exact begun rfl
    | @symbol t => cases t <;> cases hl

theorem withoutSign_sublist (cs : List Char) : (withoutSign cs).Sublist cs := by
  unfold withoutSign
  split
  · exact List.sublist_cons_self _ _
  · exact .refl _

theorem no_digit_or_points (h : ∀ c ∈ withoutSign text.toList, isNumeric c)
    (hn : ¬IsLiteral text) :
    (∀ c ∈ text.toList, c.isDigit = false) ∨ 1 < text.toList.count '.' := by
  by_cases hp : (withoutSign text.toList).count '.' ≤ 1
  · left
    intro c hc
    apply Bool.eq_false_iff.2
    intro hd
    have hs : c ≠ '-' := by
      rintro rfl
      cases hd
    exact hn ⟨h, hp, c, mem_withoutSign hc hs, hd⟩
  · right
    exact Nat.lt_of_lt_of_le (Nat.lt_of_not_le hp) ((withoutSign_sublist _).count_le '.')

/-- A literal that ends in a fault is found where it begins. -/
theorem Lexer.exists_foundAt_of_finish (h : operand.read 0 next cs = .ok (ts, s))
    (hf : s.finish = .error f) (hr : ∀ d ∈ rest.head?, isSymbol d) :
    ∃ before c after, cs ++ rest = before ++ c :: after ∧ f.position = byteLength before ∧
      f.FoundAt (.ofList before) c (.ofList after) := by
  obtain ⟨start, text, rfl, hx, rfl⟩ := exists_literal_of_finish hf
  have hl := letters_of_read h
  obtain ⟨-, hw, -⟩ : (literal start text).Follows (ts.getLastD .opening) :=
    Follows.read (s := operand) rfl h
  have hn : ¬IsLiteral text := by
    rw [← Binary64.isSome_ofText?_iff hw, hx]
    nofun
  cases endsInLiteral_of_read h with
  | @intro as bs c _ s hr' hs hb =>
    have hl' := letters_of_read hr'
    rw [pending_of_not_inLiteral hs, List.append_nil] at hl'
    rw [List.filter_append, ← List.append_assoc, ← hl'] at hl
    refine ⟨as, c, bs ++ rest, by simp, rfl, ?_⟩
    refine .malformedNumber (Token.lex_of_not_inLiteral hr' hs) String.toList_ofList ?_ hr ?_
      (no_digit_or_points hw hn)
    · intro d hd
      exact isSymbol_eq_false (hb d hd)
    · exact List.append_cancel_left hl

/-- A character that is refused is at fault itself, unless it ends a literal that is. -/
theorem Lexer.Refuses.exists_foundAt (h : s.Refuses position c next f)
    (hr : operand.read 0 (some c) cs = .ok (ts, s)) (hp : position = byteLength cs)
    (hn : next = rest.head?) :
    ∃ before d after, cs ++ c :: rest = before ++ d :: after ∧ f.position = byteLength before ∧
      f.FoundAt (.ofList before) d (.ofList after) := by
  cases h with
  | unsupported hc =>
    have hc := isSupported_eq_false hc
    have hd : s.inLiteral → ∀ d ∈ some c, isNumeric d = false := by
      rintro - _ ⟨⟩
      simp only [isSupported, Bool.or_eq_false_iff] at hc
      exact hc.1.1
    refine ⟨cs, c, rest, rfl, hp, .unsupported hc ?_ ?_⟩
    · rw [String.toList_ofList]
      exact isSupported_of_read hr
    · intro g hg
      rw [Token.lex_of_read hr hd] at hg
      obtain ⟨start, text, -, -, rfl⟩ := exists_literal_of_finish (eq_error_of_map_eq_error hg)
      exact ⟨text, start, rfl⟩
  | @stray o ho hs hd =>
    subst hs
    refine ⟨cs, c, rest, rfl, hp, .strayOperator ho (Token.lex_of_not_inLiteral hr rfl) ?_ ?_⟩
    · intro t ht
      have hf : operand.Follows (ts.getLastD .opening) := Follows.read (s := operand) rfl hr
      rw [List.getLastD_eq_getLast?, Option.mem_def.1 ht] at hf
      cases t with
      | operator p => exact .inl rfl
      | opening => exact .inr rfl
      | number text => cases hf
      | closing => cases hf
    · rw [String.toList_ofList, ← hn]
      exact hd
  | literal ht hf =>
    apply exists_foundAt_of_finish hr hf
    rintro _ ⟨⟩
    exact isSymbol_of_symbol? ht

/-- A fault of the lexer lies at a character of the text. Either this is the first character that no
text may hold, or it is an operator where an operand is due, or the literal that begins there is no
number. What stands before it can be split into tokens, except that before an unsupported character
a literal may be pending that is no number. -/
theorem Token.exists_foundAt_of_lex (h : lex source = .error f) :
    f.position < source.utf8ByteSize ∧
      ∃ before c after, source = before ++ .singleton c ++ after ∧
        f.position = before.utf8ByteSize ∧ f.FoundAt before c after := by
  have hx : ∃ before c after, source.toList = before ++ c :: after ∧
      f.position = byteLength before ∧ f.FoundAt (.ofList before) c (.ofList after) := by
    rw [lex, Lexer.run_eq_read] at h
    rcases exists_of_bind_eq_error h with hr | ⟨⟨ts, s⟩, hr, h⟩
    · obtain ⟨as, c, bs, settled, s, hs, hr, hf⟩ := Lexer.exists_refuses_of_read hr
      rw [hs]
      exact hf.exists_foundAt hr (Nat.zero_add _) Option.or_none
    · rcases exists_of_bind_eq_error h with hf | ⟨pending, -, h⟩
      · have hn : ∀ d ∈ ([] : List Char).head?, isSymbol d := by
          rintro _ ⟨⟩
        have hx := Lexer.exists_foundAt_of_finish hr hf hn
        rwa [List.append_nil] at hx
      · cases h
  obtain ⟨before, c, after, hs, hp, hf⟩ := hx
  have hb : byteLength before = (String.ofList before).utf8ByteSize := by
    rw [← byteLength_toList, String.toList_ofList]
  have he : source = .ofList before ++ .singleton c ++ .ofList after := by
    rw [← String.toList_inj, hs]
    simp
  rw [hb] at hp
  refine ⟨?_, .ofList before, c, .ofList after, he, hp, hf⟩
  have hc := c.utf8Size_pos
  rw [he, String.utf8ByteSize_append, String.utf8ByteSize_append, String.utf8ByteSize_singleton]
  omega

theorem Token.exists_foundAt_of_lex_pending :
    (lex "7-(-1.\t5. )é" = .error (.malformedNumber "-1.5." 3) ∧
        3 < "7-(-1.\t5. )é".utf8ByteSize ∧
        ∃ before c after, "7-(-1.\t5. )é" = before ++ .singleton c ++ after ∧
          3 = before.utf8ByteSize ∧
          LexFault.FoundAt before c after (.malformedNumber "-1.5." 3)) ∧
      (lex "1..é" = .error (.unsupported 'é' 3) ∧
        ∃ before c after, "1..é" = before ++ .singleton c ++ after ∧ 3 = before.utf8ByteSize ∧
          LexFault.FoundAt before c after (.unsupported 'é' 3)) ∧
      lex "(3--é" = .error (.strayOperator '-' 3) ∧
        ∃ before c after, "(3--é" = before ++ .singleton c ++ after ∧ 3 = before.utf8ByteSize ∧
          LexFault.FoundAt before c after (.strayOperator '-' 3) := by
  have h : lex "7-(-1.\t5. )é" = .error (.malformedNumber "-1.5." 3) := by decide +kernel
  have h' : lex "1..é" = .error (.unsupported 'é' 3) := by decide +kernel
  have h'' : lex "(3--é" = .error (.strayOperator '-' 3) := by decide +kernel
  exact ⟨⟨h, exists_foundAt_of_lex h⟩, ⟨h', (exists_foundAt_of_lex h').2⟩, h'',
    (exists_foundAt_of_lex h'').2⟩

end Calculator
