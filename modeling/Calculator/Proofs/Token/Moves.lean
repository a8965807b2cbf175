import Calculator.Proofs.Except
import Calculator.Proofs.Token.Literal
import Calculator.Token.Basic
import Calculator.Token.Lexer

namespace Calculator

def isBlank (c : Char) : Bool :=
  c == ' ' || c == '\t' || c == '\r' || c == '\n'

def Glyph.Shows (c : Char) : Glyph → Prop
  | digit => c.isDigit
  | dot => c = '.'
  | operator o => o.symbol = c
  | opening => c = '('
  | closing => c = ')'
  | blank => isBlank c

theorem Glyph.shows_of_ofChar? {c : Char} {g : Glyph} (h : ofChar? c = some g) : g.Shows c := by
  unfold ofChar? at h
  split at h
  · cases h
    assumption
  · split at h
    case h_8 =>
      obtain ⟨o, ho, rfl⟩ := Option.map_eq_some_iff.1 h
      exact Operator.symbol_of_ofSymbol? ho
    all_goals cases h; rfl

theorem Glyph.Shows.ofChar? {c : Char} {g : Glyph} (h : g.Shows c) : ofChar? c = some g := by
  cases g with
  | digit => exact if_pos h
  | blank =>
    simp only [Shows, isBlank, Bool.or_eq_true, beq_iff_eq] at h
    rcases h with ((rfl | rfl) | rfl) | rfl <;> rfl
  | operator o =>
    cases h
    cases o <;> rfl
  | _ => cases h; rfl

def Lexer.after : Token → Lexer
  | .closing => group
  | _ => operand

/-- The steps of the lexer that succeed: what a character settles, and the state it leads to. -/
inductive Lexer.Moves (s : Lexer) (position : Nat) (c : Char) (next : Option Char) :
    List Token → Lexer → Prop
  | blank (hc : isBlank c) : Moves s position c next [] s
  | numeric (hc : isNumeric c) : Moves s position c next [] (s.extend position c)
  | sign (hs : s = operand) (hc : c = '-') (hn : ∃ d ∈ next, isNumeric d) :
      Moves s position c next [] (literal position "-")
  | symbol {t : Token} {ts : List Token} (ht : t.symbol? = some c)
      (hs : t.isOperator → s ≠ operand) (hf : s.finish = .ok ts) :
      Moves s position c next (ts ++ [t]) (after t)

/-- The steps of the lexer that fail, and their faults: a character that no text can hold, an
operator where an operand is due, or the end of a literal that is no number. -/
inductive Lexer.Refuses (s : Lexer) (position : Nat) (c : Char) (next : Option Char) :
    LexFault → Prop
  | unsupported (hc : Glyph.ofChar? c = none) : Refuses s position c next (.unsupported c position)
  | stray {o : Operator} (ho : o.symbol = c) (hs : s = operand)
      (hn : c = '-' → ∀ d ∈ next, isNumeric d = false) :
      Refuses s position c next (.strayOperator c position)
  | literal {t : Token} {f : LexFault} (ht : t.symbol? = some c) (hf : s.finish = .error f) :
      Refuses s position c next f

variable {s s' : Lexer} {position : Nat} {c : Char} {next : Option Char} {ts : List Token}
  {f : LexFault}

theorem Lexer.of_finish_literal {start : Nat} {text : String}
    (h : (literal start text).finish = .ok ts) :
    (Binary64.ofText? text).isSome ∧ ts = [.number text] := by
  simp only [finish] at h
  split at h
  · next hx =>
    cases h
    exact ⟨hx, rfl⟩
  · cases h

/-- Only a literal can end in a fault. -/
theorem Lexer.exists_literal_of_finish (h : s.finish = .error f) :
    ∃ start text, s = literal start text ∧ Binary64.ofText? text = none ∧
      f = .malformedNumber text start := by
  cases s with
  | literal start text =>
    simp only [finish] at h
    split at h
    · cases h
    · next hx =>
      cases h
      exact ⟨start, text, rfl, by simpa using hx, rfl⟩
  | _ => cases h

/-- A character that is a token by itself ends what comes before it. -/
theorem Lexer.step_symbol {t : Token} (ht : t.symbol? = some c)
    (hs : t.isOperator → s ≠ operand) :
    s.step position c next = s.finish.map fun ts => (ts ++ [t], after t) := by
  cases t with
  | number => cases ht
  | opening =>
    rw [step, Glyph.Shows.ofChar? (g := .opening) (Option.some.inj ht).symm]
    rfl
  | closing =>
    rw [step, Glyph.Shows.ofChar? (g := .closing) (Option.some.inj ht).symm]
    rfl
  | operator o =>
    rw [step, Glyph.Shows.ofChar? (g := .operator o) (Option.some.inj ht)]
    simp only [if_neg (hs rfl)]
    rfl

theorem Lexer.Moves.step (h : s.Moves position c next ts s') :
    s.step position c next = .ok (ts, s') := by
  cases h with
  | blank hc => rw [Lexer.step, Glyph.Shows.ofChar? (g := .blank) hc]
  | numeric hc =>
    rcases isNumeric_iff.1 hc with hc | hc
    · rw [Lexer.step, Glyph.Shows.ofChar? (g := .digit) hc]
    · rw [Lexer.step, Glyph.Shows.ofChar? (g := .dot) hc]
  | sign hs hc hn =>
    obtain ⟨d, hd, hn⟩ := hn
    have hn : next.any startsNumber := (Option.any_eq_true ..).2 ⟨d, hd, hn⟩
    rw [Lexer.step, Glyph.Shows.ofChar? (g := .operator .sub) hc.symm]
    simp only [hs, ↓reduceIte, hn, true_and]
    rw [hc]
    rfl
  | symbol ht hs hf =>
    rw [step_symbol ht hs, hf]
    rfl

theorem Lexer.moves_of_step (h : s.step position c next = .ok (ts, s')) :
    s.Moves position c next ts s' := by
  unfold step at h
  split at h
  · cases h
  · next hg =>
    cases h
    exact .blank (Glyph.shows_of_ofChar? hg)
  · next hg =>
    cases h
    exact .numeric (isNumeric_iff.2 (.inl (Glyph.shows_of_ofChar? hg)))
  · next hg =>
    cases h
    exact .numeric (isNumeric_iff.2 (.inr (Glyph.shows_of_ofChar? hg)))
  · next hg =>
    obtain ⟨fs, hf, he⟩ := exists_of_map_eq_ok h
    cases he
    cases (Glyph.shows_of_ofChar? hg : c = '(')
    exact .symbol (t := .opening) rfl (by nofun) hf
  · next hg =>
    obtain ⟨fs, hf, he⟩ := exists_of_map_eq_ok h
    cases he
    cases (Glyph.shows_of_ofChar? hg : c = ')')
    exact .symbol (t := .closing) rfl (by nofun) hf
  · next o hg =>
    have hc : o.symbol = c := Glyph.shows_of_ofChar? hg
    split at h
    · next hs =>
      split at h
      · next hn =>
        obtain ⟨rfl, hn⟩ := hn
        cases h
        cases hc
        obtain ⟨d, hd, hn⟩ := (Option.any_eq_true ..).1 hn
        subst hs
        exact .sign rfl rfl ⟨d, hd, hn⟩
      · cases h
    · next hs =>
      obtain ⟨fs, hf, he⟩ := exists_of_map_eq_ok h
      cases he
      exact .symbol (t := .operator o) (congrArg some hc) (fun _ => hs) hf

theorem Lexer.Refuses.step (h : s.Refuses position c next f) :
    s.step position c next = .error f := by
  cases h with
  | unsupported hc => rw [Lexer.step, hc]
  | @stray o ho hs hn =>
    have hn : ¬(o = .sub ∧ next.any startsNumber) := by
      rintro ⟨rfl, ha⟩
      obtain ⟨d, hd, hd'⟩ := (Option.any_eq_true ..).1 ha
      exact absurd hd' (Bool.eq_false_iff.1 (hn ho.symm d hd))
    rw [Lexer.step, Glyph.Shows.ofChar? (g := .operator o) ho]
    simp only [hs, ↓reduceIte, if_neg hn]
  | literal ht hf =>
    have hs : s ≠ operand := by
      rintro rfl
      cases hf
    rw [step_symbol ht fun _ => hs, hf]
    rfl

theorem Lexer.refuses_of_step (h : s.step position c next = .error f) :
    s.Refuses position c next f := by
  unfold step at h
  split at h
  · next hg =>
    cases h
    exact .unsupported hg
  · cases h
  · cases h
  · cases h
  · next hg =>
    cases (Glyph.shows_of_ofChar? hg : c = '(')
    exact .literal (t := .opening) rfl (eq_error_of_map_eq_error h)
  · next hg =>
    cases (Glyph.shows_of_ofChar? hg : c = ')')
    exact .literal (t := .closing) rfl (eq_error_of_map_eq_error h)
  · next o hg =>
    have hc : o.symbol = c := Glyph.shows_of_ofChar? hg
    split at h
    · next hs =>
      split at h
      · cases h
      · next hn =>
        cases h
        refine .stray hc hs ?_
        rintro rfl d hd
        have ho := Operator.ofSymbol?_symbol o
        rw [hc] at ho
        cases ho
        apply Bool.eq_false_iff.2
        intro hd'
        exact hn ⟨rfl, (Option.any_eq_true ..).2 ⟨d, hd, hd'⟩⟩
    · exact .literal (t := .operator o) (congrArg some hc) (eq_error_of_map_eq_error h)

theorem Lexer.Moves.run {cs : List Char} (h : s.Moves position c cs.head? ts s') :
    s.run position (c :: cs) = (s'.run (position + c.utf8Size) cs).map (ts ++ ·) := by
  simp only [Lexer.run, h.step, bind, Except.bind, pure, Except.pure]
  cases s'.run (position + c.utf8Size) cs <;> rfl

theorem Lexer.moves_of_run {cs : List Char} (h : s.run position (c :: cs) = .ok ts) :
    ∃ settled s' rest, s.Moves position c cs.head? settled s' ∧
      s'.run (position + c.utf8Size) cs = .ok rest ∧ settled ++ rest = ts := by
  obtain ⟨p, hs, h⟩ := exists_of_bind_eq_ok h
  obtain ⟨rest, hr, h⟩ := exists_of_bind_eq_ok h
  exact ⟨p.1, p.2, rest, moves_of_step hs, hr, Except.ok.inj h⟩

end Calculator
