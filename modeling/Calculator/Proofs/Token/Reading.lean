import Calculator.Proofs.Token.Spelling

namespace Calculator

/-- What the characters of a text settle when `next` comes after them, and where the lexer stands
then. -/
def Lexer.read (s : Lexer) (position : Nat) (next : Option Char) :
    List Char → Except LexFault (List Token × Lexer)
  | [] => .ok ([], s)
  | c :: cs => do
    let (settled, s) ← s.step position c (cs.head?.or next)
    let (rest, s) ← s.read (position + c.utf8Size) next cs
    return (settled ++ rest, s)

def Lexer.inLiteral : Lexer → Bool
  | literal _ _ => true
  | _ => false

variable {s s' : Lexer} {position : Nat} {c : Char} {next : Option Char} {cs ds : List Char}
  {t : Token} {ts : List Token} {f : LexFault} {r : List Token × Lexer}

theorem Lexer.run_append (s : Lexer) (position : Nat) (cs ds : List Char) :
    s.run position (cs ++ ds) = do
      let (settled, s) ← s.read position ds.head? cs
      let rest ← s.run (position + byteLength cs) ds
      return settled ++ rest := by
  induction cs generalizing s position with
  | nil => simp only [List.nil_append, read, byteLength, Nat.add_zero, ok_bind, bind_pure]
  | cons c cs ih =>
    simp only [List.cons_append, run, read, ih, byteLength, List.head?_append, Nat.add_assoc,
      bind_assoc, pure_bind, List.append_assoc]

theorem Lexer.run_eq_read (s : Lexer) (position : Nat) (cs : List Char) :
    s.run position cs = do
      let (settled, s) ← s.read position none cs
      let rest ← s.finish
      return settled ++ rest := by
  rw [← List.append_nil cs, run_append, List.append_nil]
  rfl

theorem Lexer.read_of_run_append (h : s.run position (cs ++ ds) = .ok ts) :
    ∃ settled s' rest, s.read position ds.head? cs = .ok (settled, s') ∧
      s'.run (position + byteLength cs) ds = .ok rest ∧ ts = settled ++ rest := by
  rw [run_append] at h
  obtain ⟨⟨settled, s'⟩, hr, h⟩ := exists_of_bind_eq_ok h
  obtain ⟨rest, hr', h⟩ := exists_of_bind_eq_ok h
  cases h
  exact ⟨settled, s', rest, hr, hr', rfl⟩

theorem Lexer.read_of_run (h : s.run position cs = .ok ts) :
    ∃ settled s' pending, s.read position none cs = .ok (settled, s') ∧
      s'.finish = .ok pending ∧ ts = settled ++ pending := by
  rw [← List.append_nil cs] at h
  exact read_of_run_append h

theorem Lexer.moves_of_read (h : s.read position next (c :: cs) = .ok (ts, s')) :
    ∃ settled mid rest, s.Moves position c (cs.head?.or next) settled mid ∧
      mid.read (position + c.utf8Size) next cs = .ok (rest, s') ∧ ts = settled ++ rest := by
  obtain ⟨p, hs, h⟩ := exists_of_bind_eq_ok h
  obtain ⟨q, hr, h⟩ := exists_of_bind_eq_ok h
  cases h
  exact ⟨p.1, p.2, q.1, moves_of_step hs, hr, rfl⟩

theorem Lexer.refuses_of_read (h : s.read position next (c :: cs) = .error f) :
    s.Refuses position c (cs.head?.or next) f ∨
      ∃ settled mid, s.Moves position c (cs.head?.or next) settled mid ∧
        mid.read (position + c.utf8Size) next cs = .error f := by
  rcases exists_of_bind_eq_error h with hs | ⟨p, hs, h⟩
  · exact .inl (refuses_of_step hs)
  · rcases exists_of_bind_eq_error h with hr | ⟨q, -, h⟩
    · exact .inr ⟨p.1, p.2, moves_of_step hs, hr⟩
    · cases h

theorem head?_append_cons_or (as bs : List Char) (c : Char) (next : Option Char) :
    (as ++ c :: bs).head?.or next = as.head?.or (some c) := by
  cases as <;> rfl

theorem Lexer.read_concat (s : Lexer) (position : Nat) (next : Option Char) (cs : List Char)
    (c : Char) :
    s.read position next (cs ++ [c]) = do
      let (settled, s) ← s.read position (some c) cs
      let (rest, s) ← s.step (position + byteLength cs) c next
      return (settled ++ rest, s) := by
  induction cs generalizing s position with
  | nil =>
    simp only [List.nil_append, read, List.head?_nil, Option.none_or, byteLength, Nat.add_zero,
      ok_bind, List.append_nil]
  | cons d cs ih =>
    simp only [List.cons_append, read, head?_append_cons_or, ih, byteLength, Nat.add_assoc,
      bind_assoc, pure_bind, List.append_assoc]

theorem Lexer.moves_of_read_concat (h : s.read position next (cs ++ [c]) = .ok (ts, s')) :
    ∃ settled mid rest, s.read position (some c) cs = .ok (settled, mid) ∧
      mid.Moves (position + byteLength cs) c next rest s' ∧ ts = settled ++ rest := by
  rw [read_concat] at h
  obtain ⟨p, hr, h⟩ := exists_of_bind_eq_ok h
  obtain ⟨q, hs, h⟩ := exists_of_bind_eq_ok h
  cases h
  exact ⟨p.1, p.2, q.1, hr, moves_of_step hs, rfl⟩

/-- A text that cannot be read is read up to the character that is refused. -/
theorem Lexer.exists_refuses_of_read (h : s.read position next cs = .error f) :
    ∃ as c bs settled s', cs = as ++ c :: bs ∧ s.read position (some c) as = .ok (settled, s') ∧
      s'.Refuses (position + byteLength as) c (bs.head?.or next) f := by
  induction cs generalizing s position with
  | nil => cases h
  | cons d cs ih =>
    rcases refuses_of_read h with hf | ⟨now, mid, hm, hr⟩
    · exact ⟨[], d, cs, [], s, rfl, rfl, hf⟩
    · obtain ⟨as, c, bs, settled, s', rfl, hr, hf⟩ := ih hr
      rw [head?_append_cons_or] at hm
      refine ⟨d :: as, c, bs, now ++ settled, s', rfl, ?_, ?_⟩
      · simp only [read, hm.step, hr, ok_bind]
        rfl
      · rwa [byteLength, ← Nat.add_assoc]

theorem getLastD_append {α : Type} (as bs : List α) (a : α) :
    (as ++ bs).getLastD a = bs.getLastD (as.getLastD a) := by
  rw [List.getLastD_eq_getLast?, List.getLastD_eq_getLast?, List.getLastD_eq_getLast?,
    List.getLast?_append, Option.getD_or]

/-- Where the lexer stands goes with the last token that it has settled. -/
theorem Lexer.Follows.read (h : s.Follows t) (hr : s.read position next cs = .ok (ts, s')) :
    s'.Follows (ts.getLastD t) := by
  induction cs generalizing s position t ts with
  | nil =>
    cases hr
    exact h
  | cons c cs ih =>
    obtain ⟨settled, mid, rest, hm, hr', rfl⟩ := moves_of_read hr
    rw [getLastD_append]
    exact ih (h.moves hm).2 hr'

/-- Only a sign looks at the next character, and it begins a literal, which needs a digit or a point
there. -/
theorem Lexer.Moves.with_next (h : s.Moves position c next ts s')
    (hn : s'.inLiteral → ∀ d ∈ next, isNumeric d = false) (next' : Option Char) :
    s.Moves position c next' ts s' := by
  cases h with
  | blank hc => exact .blank hc
  | numeric hc => exact .numeric hc
  | sign hs hc hd =>
    obtain ⟨d, hd, hd'⟩ := hd
    exact absurd hd' (Bool.eq_false_iff.1 (hn rfl d hd))
  | symbol ht hs hf => exact .symbol ht hs hf

theorem Lexer.read_with_next (h : s.read position next cs = .ok (ts, s'))
    (hn : s'.inLiteral → ∀ d ∈ next, isNumeric d = false) (next' : Option Char) :
    s.read position next' cs = .ok (ts, s') := by
  induction cs generalizing s position ts with
  | nil => exact h
  | cons c cs ih =>
    obtain ⟨p, hs, h⟩ := exists_of_bind_eq_ok h
    obtain ⟨q, hr, h⟩ := exists_of_bind_eq_ok h
    cases h
    have hs : s.step position c (cs.head?.or next') = .ok p := by
      cases cs with
      | nil =>
        cases hr
        exact ((moves_of_step hs).with_next hn next').step
      | cons d cs => exact hs
    simp only [read, hs, ok_bind, ih hr]
    rfl

theorem Lexer.read_of_none (h : s.read position none cs = .ok r) :
    s.read position next cs = .ok r :=
  read_with_next h (fun _ => nofun) next

theorem Lexer.step_congr_next (hc : c ≠ '-') (next next' : Option Char) :
    s.step position c next = s.step position c next' := by
  unfold step
  cases hg : Glyph.ofChar? c with
  | none => rfl
  | some g =>
    cases g with
    | operator o =>
      have ho : o ≠ .sub := by
        rintro rfl
        exact hc (Glyph.shows_of_ofChar? hg : Operator.sub.symbol = c).symm
      simp only [ho, false_and, ↓reduceIte]
    | _ => rfl

/-- What comes after a text matters only to a minus sign at its end. -/
theorem Lexer.read_congr_next (h : cs.getLast? ≠ some '-') (next next' : Option Char) :
    s.read position next cs = s.read position next' cs := by
  induction cs generalizing s position with
  | nil => rfl
  | cons c cs ih =>
    cases cs with
    | nil =>
      have hc : c ≠ '-' := by
        rintro rfl
        exact h rfl
      rw [read, read, step_congr_next hc (Option.or _ next) (Option.or _ next')]
      rfl
    | cons d cs =>
      rw [List.getLast?_cons_cons] at h
      simp only [read.eq_2 _ _ _ c, ih h]
      rfl

end Calculator
