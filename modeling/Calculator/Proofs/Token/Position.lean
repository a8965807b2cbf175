import Calculator.Proofs.Token.Reading

namespace Calculator

def LexFault.position : LexFault → Nat
  | unsupported _ position | strayOperator _ position | malformedNumber _ position => position

/-- The fault as it is found in a text where every position `p` has become `g p`. -/
def LexFault.relocate (g : Nat → Nat) : LexFault → LexFault
  | unsupported found position => unsupported found (g position)
  | strayOperator symbol position => strayOperator symbol (g position)
  | malformedNumber literal position => malformedNumber literal (g position)

def Lexer.relocate (g : Nat → Nat) : Lexer → Lexer
  | literal start text => literal (g start) text
  | s => s

def Lexer.StartsBefore (n : Nat) : Lexer → Prop
  | literal start _ => start < n
  | _ => True

variable {s s' : Lexer} {position n : Nat} {c : Char} {next : Option Char} {cs : List Char}
  {t : Token} {ts : List Token} {f : LexFault} {g : Nat → Nat} {first source : String}

@[simp] theorem LexFault.kind_relocate (g : Nat → Nat) (f : LexFault) :
    (f.relocate g).kind = f.kind := by
  cases f <;> rfl

theorem LexFault.relocate_eq_self (h : g f.position = f.position) : f.relocate g = f := by
  cases f <;> exact congrArg _ h

theorem Lexer.relocate_eq_self (h : s.StartsBefore n) (hg : ∀ p < n, g p = p) :
    s.relocate g = s := by
  cases s with
  | literal start text => rw [relocate, hg start h]
  | _ => rfl

theorem Lexer.finish_relocate (s : Lexer) (g : Nat → Nat) :
    (s.relocate g).finish = s.finish.mapError (·.relocate g) := by
  cases s with
  | literal start text =>
    simp only [relocate, finish]
    split <;> rfl
  | _ => rfl

theorem Lexer.relocate_eq_operand_iff : s.relocate g = operand ↔ s = operand := by
  cases s <;> simp [relocate]

theorem Lexer.extend_relocate (s : Lexer) (g : Nat → Nat) (position : Nat) (c : Char) :
    (s.relocate g).extend (g position) c = (s.extend position c).relocate g := by
  cases s <;> rfl

/-- A step keeps positions, and does nothing else with them. -/
theorem Lexer.step_relocate (s : Lexer) (g : Nat → Nat) (position : Nat) (c : Char)
    (next : Option Char) :
    (s.relocate g).step (g position) c next =
      ((s.step position c next).map fun p => (p.1, p.2.relocate g)).mapError (·.relocate g) := by
  simp only [step, finish_relocate, extend_relocate, relocate_eq_operand_iff]
  cases Glyph.ofChar? c with
  | none => rfl
  | some k =>
    cases k with
    | blank => rfl
    | digit => rfl
    | dot => rfl
    | opening => cases s.finish <;> rfl
    | closing => cases s.finish <;> rfl
    | operator o =>
      simp only
      split
      · split <;> rfl
      · cases s.finish <;> rfl

/-- A text that is found elsewhere is read alike, if its own positions have moved together. -/
theorem Lexer.read_relocate (s : Lexer) (next : Option Char) (cs : List Char)
    (hg : ∀ k, g (position + k) = g position + k) :
    (s.relocate g).read (g position) next cs =
      ((s.read position next cs).map fun p => (p.1, p.2.relocate g)).mapError
        (·.relocate g) := by
  induction cs generalizing s position with
  | nil => rfl
  | cons c cs ih =>
    have hg' : ∀ k, g (position + c.utf8Size + k) = g (position + c.utf8Size) + k := by
      intro k
      rw [hg, Nat.add_assoc, hg, Nat.add_assoc]
    simp only [read, step_relocate, ← hg, bind, Except.bind, pure, Except.pure]
    cases s.step position c (cs.head?.or next) with
    | error f => rfl
    | ok p =>
      simp only [Except.map, Except.mapError, ih p.2 hg']
      cases p.2.read (position + c.utf8Size) next cs <;> rfl

theorem Lexer.run_relocate (s : Lexer) (cs : List Char)
    (hg : ∀ k, g (position + k) = g position + k) :
    (s.relocate g).run (g position) cs = (s.run position cs).mapError (·.relocate g) := by
  simp only [run_eq_read, read_relocate s none cs hg, bind, Except.bind, pure, Except.pure]
  cases s.read position none cs with
  | error f => rfl
  | ok p =>
    simp only [Except.map, Except.mapError, finish_relocate]
    cases p.2.finish <;> rfl

/-- Between two literals the lexer does not know how far it has come. -/
theorem Lexer.run_of_relocate_eq_self (h : s.relocate (· + n) = s) (cs : List Char) :
    s.run n cs = (s.run 0 cs).mapError (·.relocate (· + n)) := by
  have hr := @run_relocate 0 (· + n) s cs fun k => Nat.add_right_comm 0 k n
  rw [h, Nat.zero_add] at hr
  exact hr

theorem Lexer.StartsBefore.mono (h : s.StartsBefore position) (hn : position ≤ n) :
    s.StartsBefore n := by
  cases s with
  | literal start text => exact Nat.lt_of_lt_of_le h hn
  | _ => trivial

theorem Lexer.StartsBefore.extend (h : s.StartsBefore position) :
    (s.extend position c).StartsBefore (position + c.utf8Size) := by
  have hc : position < position + c.utf8Size := Nat.lt_add_of_pos_right c.utf8Size_pos
  cases s with
  | literal start text => exact Nat.lt_trans h hc
  | _ => exact hc

theorem Lexer.StartsBefore.moves (h : s.StartsBefore position)
    (hm : s.Moves position c next ts s') : s'.StartsBefore (position + c.utf8Size) := by
  cases hm with
  | blank => exact h.mono (Nat.le_add_right _ _)
  | numeric => exact h.extend
  | sign => exact Nat.lt_add_of_pos_right c.utf8Size_pos
  | @symbol t => cases t <;> trivial

theorem Lexer.StartsBefore.finish (h : s.StartsBefore position) (hf : s.finish = .error f) :
    f.position < position := by
  obtain ⟨start, text, rfl, -, rfl⟩ := exists_literal_of_finish hf
  exact h

theorem Lexer.StartsBefore.refuses (h : s.StartsBefore position)
    (hr : s.Refuses position c next f) : f.position < position + c.utf8Size := by
  have hc : position < position + c.utf8Size := Nat.lt_add_of_pos_right c.utf8Size_pos
  cases hr with
  | unsupported => exact hc
  | stray => exact hc
  | literal ht hf => exact Nat.lt_trans (h.finish hf) hc

theorem Lexer.StartsBefore.read (h : s.StartsBefore position)
    (hr : s.read position next cs = .ok (ts, s')) :
    s'.StartsBefore (position + byteLength cs) := by
  induction cs generalizing s position ts with
  | nil =>
    cases hr
    exact h
  | cons c cs ih =>
    obtain ⟨settled, mid, rest, hm, hr', rfl⟩ := moves_of_read hr
    rw [byteLength, ← Nat.add_assoc]
    exact ih (h.moves hm) hr'

/-- A fault in a text lies in that text. -/
theorem Lexer.StartsBefore.position_lt (h : s.StartsBefore position)
    (hr : s.read position next cs = .error f) : f.position < position + byteLength cs := by
  induction cs generalizing s position with
  | nil => cases hr
  | cons c cs ih =>
    rw [byteLength, ← Nat.add_assoc]
    rcases refuses_of_read hr with hf | ⟨settled, mid, hm, hr⟩
    · exact Nat.lt_of_lt_of_le (h.refuses hf) (Nat.le_add_right _ _)
    · exact ih (h.moves hm) hr

theorem byteLength_toList (text : String) : byteLength text.toList = text.utf8ByteSize := by
  have h (cs : List Char) : byteLength cs = (String.ofList cs).utf8ByteSize := by
    induction cs with
    | nil => rfl
    | cons c cs ih =>
      rw [String.ofList_cons, String.utf8ByteSize_append, String.utf8ByteSize_singleton,
        byteLength, ih]
  rw [h, String.ofList_toList]

/-- What follows a text is read from where the lexer stands after it. -/
theorem Token.lex_append_of_read {before after : String}
    (h : Lexer.operand.read 0 after.toList.head? before.toList = .ok (ts, s)) :
    lex (before ++ after) = (s.run before.utf8ByteSize after.toList).map (ts ++ ·) := by
  simp only [lex, String.toList_append, Lexer.run_append, h, ok_bind, Nat.zero_add,
    byteLength_toList]
  cases s.run before.utf8ByteSize after.toList <;> rfl

/-- A text whose last token asks for an operand leaves the lexer where it began. -/
theorem Lexer.read_of_restart (h : operand.run 0 cs = .ok ts) (hl : ts.getLast? = some t)
    (ht : t.endsOperand = false) (next : Option Char) :
    operand.read 0 next cs = .ok (ts, operand) := by
  obtain ⟨settled, s, pending, hr, hf, rfl⟩ := read_of_run h
  have hs : s.Follows (settled.getLastD .opening) := Follows.read (s := operand) rfl hr
  have ho : s = operand := by
    by_contra hn
    have he := (hs.finish hf).2 hn
    rw [← getLastD_append, List.getLastD_eq_getLast?, hl] at he
    exact absurd he (Bool.eq_false_iff.1 ht)
  subst ho
  cases hf
  rw [List.append_nil]
  exact read_of_none hr

/-- After an operator or an opening parenthesis a text is split as it would be by itself. -/
theorem Token.lex_append_of_operator_or_opening (h : lex first = .ok ts)
    (hl : ts.getLast? = some .opening ∨ ∃ o, ts.getLast? = some (.operator o))
    (second : String) :
    lex (first ++ second) =
      ((lex second).map (ts ++ ·)).mapError (·.relocate (· + first.utf8ByteSize)) := by
  obtain ⟨t, hl, ht⟩ : ∃ t, ts.getLast? = some t ∧ t.endsOperand = false := by
    rcases hl with hl | ⟨o, hl⟩
    · exact ⟨.opening, hl, rfl⟩
    · exact ⟨.operator o, hl, rfl⟩
  have hs : Lexer.operand.run first.utf8ByteSize second.toList =
      (lex second).mapError (·.relocate (· + first.utf8ByteSize)) :=
    Lexer.run_of_relocate_eq_self rfl second.toList
  rw [lex_append_of_read (Lexer.read_of_restart h hl ht _), hs]
  cases lex second <;> rfl

theorem Token.lex_append_of_operator_or_opening_minus :
    let ts := [.number "5", .operator .mul, .opening, .number "-2", .operator .sub]
    lex "5*(-2 -" = .ok ts ∧ ts.getLast? = some (.operator .sub) ∧
      lex ("5*(-2 -" ++ "-3*é") =
        ((lex "-3*é").map (ts ++ ·)).mapError (·.relocate (· + "5*(-2 -".utf8ByteSize)) := by
  intro ts
  have h : lex "5*(-2 -" = .ok ts := by decide +kernel
  exact ⟨h, rfl, lex_append_of_operator_or_opening h (.inr ⟨.sub, rfl⟩) "-3*é"⟩

theorem Lexer.run_group (n : Nat) (cs : List Char) :
    group.run n cs = (group.run 0 cs).mapError (·.relocate (· + n)) :=
  run_of_relocate_eq_self rfl cs

theorem Lexer.run_opening (s : Lexer) (position : Nat) (cs : List Char) :
    s.run position ('(' :: cs) = do
      let pending ← s.finish
      let rest ← operand.run (position + 1) cs
      return pending ++ .opening :: rest := by
  have hs : s.step position '(' cs.head? = (do
      let pending ← s.finish
      return (pending ++ [.opening], operand)) := by
    rw [step_symbol (t := .opening) rfl nofun]
    cases s.finish <;> rfl
  simp only [run, hs, bind_assoc, pure_bind, List.append_assoc, List.singleton_append]
  rfl

theorem Lexer.run_closing (h : operand.run 0 cs = .ok ts) (position : Nat) (ds : List Char) :
    operand.run position (cs ++ ')' :: ds) = do
      let rest ← group.run (position + byteLength cs + 1) ds
      return ts ++ .closing :: rest := by
  obtain ⟨settled, s, pending, hr, hf, rfl⟩ := read_of_run h
  have hr : operand.read position none cs = .ok (settled, s.relocate (· + position)) := by
    have hs := @read_relocate 0 (· + position) operand none cs fun k =>
      Nat.add_right_comm 0 k position
    rw [hr, Nat.zero_add] at hs
    exact hs
  have hf : (s.relocate (· + position)).finish = .ok pending := by
    rw [finish_relocate, hf]
    rfl
  have hm : (s.relocate (· + position)).Moves (position + byteLength cs) ')' ds.head?
      (pending ++ [.closing]) group := .symbol (t := .closing) rfl nofun hf
  rw [run_append, List.head?_cons, read_of_none hr, ok_bind]
  simp only [hm.run, List.append_assoc]
  change (group.run (position + byteLength cs + 1) ds).map _ >>= _ = _
  cases group.run (position + byteLength cs + 1) ds <;> rfl

/-- The tokens of a text that goes on with an opening parenthesis. -/
def Token.lexBeforeGroup (source : String) : Except LexFault (List Token) := do
  let (settled, s) ← Lexer.operand.read 0 (some '(') source.toList
  let pending ← s.finish
  return settled ++ pending

/-- What stands in parentheses is split apart from what is before and after it. -/
theorem Token.lex_group (h : lex source = .ok ts) (before after : String) :
    ∃ n, lex (before ++ "(" ++ source ++ ")" ++ after) = do
      let us ← lexBeforeGroup before
      let vs ← (Lexer.group.run 0 after.toList).mapError (·.relocate (· + n))
      return us ++ (.opening :: (ts ++ [.closing]) ++ vs) := by
  have hs : (before ++ "(" ++ source ++ ")" ++ after).toList =
      before.toList ++ '(' :: (source.toList ++ ')' :: after.toList) := by
    simp only [String.toList_append, List.append_assoc]
    rfl
  refine ⟨0 + byteLength before.toList + 1 + byteLength source.toList + 1, ?_⟩
  rw [← Lexer.run_group]
  simp only [lex, hs, Lexer.run_append, lexBeforeGroup, List.head?_cons, Lexer.run_opening,
    Lexer.run_closing h, bind_assoc, pure_bind, List.append_assoc, List.cons_append,
    List.nil_append]

end Calculator
