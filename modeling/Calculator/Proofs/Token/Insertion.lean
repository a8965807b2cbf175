import Calculator.Proofs.Token.Lossless
import Calculator.Proofs.Token.Position

namespace Calculator

/-- Where a byte offset is found once a byte has been inserted at the offset `i`. -/
def offsetAfterInsertion (i p : Nat) : Nat :=
  if p < i then p else p + 1

variable {s : Lexer} {position : Nat} {w : Char} {cs : List Char} {ts : List Token}

theorem utf8Size_of_isBlank (hw : isBlank w) : w.utf8Size = 1 := by
  simp only [isBlank, Bool.or_eq_true, beq_iff_eq] at hw
  rcases hw with ((rfl | rfl) | rfl) | rfl <;> rfl

/-- A blank is passed over: only the faults that are found after it have moved. -/
theorem Lexer.run_blank (hw : isBlank w) (hs : s.StartsBefore position) (cs : List Char) :
    s.run position (w :: cs) =
      (s.run position cs).mapError (·.relocate (offsetAfterInsertion position)) := by
  have hp : offsetAfterInsertion position position = position + 1 := if_neg (Nat.lt_irrefl _)
  have hg : ∀ k, offsetAfterInsertion position (position + k) =
      offsetAfterInsertion position position + k := by
    intro k
    rw [hp, offsetAfterInsertion, if_neg (Nat.not_lt.2 (Nat.le_add_right _ _))]
    exact Nat.add_right_comm position k 1
  have hm : s.Moves position w cs.head? [] s := .blank hw
  have hs : s.relocate (offsetAfterInsertion position) = s :=
    relocate_eq_self hs fun p hp => if_pos hp
  have hr := run_relocate s cs hg
  rw [hs, hp] at hr
  rw [hm.run_silent, utf8Size_of_isBlank hw, hr]

/-- A blank can be inserted anywhere but after a minus sign, which looks at the next character. -/
theorem Lexer.run_insert_blank (hw : isBlank w) (hc : cs.getLast? ≠ some '-')
    (hs : s.StartsBefore position) (ds : List Char) :
    s.run position (cs ++ w :: ds) =
      (s.run position (cs ++ ds)).mapError
        (·.relocate (offsetAfterInsertion (position + byteLength cs))) := by
  rw [run_append, run_append, read_congr_next hc _ ds.head?]
  cases hr : s.read position ds.head? cs with
  | error f =>
    have hf : f.relocate (offsetAfterInsertion (position + byteLength cs)) = f :=
      LexFault.relocate_eq_self (if_pos (hs.position_lt hr))
    exact (congrArg Except.error hf).symm
  | ok p =>
    simp only [ok_bind, run_blank hw (hs.read hr)]
    cases p.2.run (position + byteLength cs) ds <;> rfl

theorem Lexer.run_operator_blank (hw : isBlank w) (hs : s ≠ operand)
    (h : s.run position ('-' :: cs) = .ok ts) : s.run position ('-' :: w :: cs) = .ok ts := by
  obtain ⟨settled, s', rest, hm, hr, rfl⟩ := moves_of_run h
  cases hm with
  | blank hc => cases hc
  | numeric hc => cases hc
  | sign ho => exact absurd ho hs
  | @symbol t fs ht ho hf =>
    have hm : s.Moves position '-' (w :: cs).head? (fs ++ [t]) (after t) := .symbol ht ho hf
    have ha : (after t).StartsBefore (position + '-'.utf8Size) := by
      cases t <;> trivial
    rw [hm.run, run_blank hw ha, hr]
    rfl

theorem Lexer.run_sign_blank (hw : isBlank w) (position : Nat) (cs : List Char) :
    operand.run position ('-' :: w :: cs) = .error (.strayOperator '-' position) := by
  have hn : isNumeric w = false := by
    apply Bool.eq_false_iff.2
    intro hn
    exact absurd hw (Bool.eq_false_iff.1 (isBlank_eq_false hn))
  have hr : operand.Refuses position '-' (some w) (.strayOperator '-' position) := by
    refine .stray (o := .sub) rfl rfl ?_
    rintro - d ⟨⟩
    exact hn
  rw [run, List.head?_cons, hr.step]
  rfl

/-- A blank that is inserted anywhere but right after a minus sign changes nothing, except that the
faults found at or after it are found one byte later. Right after a minus sign it changes nothing if
that is an operator; if it is the sign of a number, the sign is a stray operator now. -/
theorem Token.lex_insert_blank (hw : isBlank w) (before after : String) :
    (before.toList.getLast? ≠ some '-' →
      lex (before ++ .singleton w ++ after) =
        (lex (before ++ after)).mapError
          (·.relocate (offsetAfterInsertion before.utf8ByteSize))) ∧
      ∀ ts, lex (before ++ "-" ++ after) = .ok ts →
        (HeldBy ts before (.operator .sub) ∨ ∃ x, HeldBy ts before (.number x)) ∧
          (HeldBy ts before (.operator .sub) →
            lex (before ++ "-" ++ .singleton w ++ after) = .ok ts) ∧
          ∀ x, HeldBy ts before (.number x) →
            lex (before ++ "-" ++ .singleton w ++ after) =
              .error (.strayOperator '-' before.utf8ByteSize) := by
  constructor
  · intro hc
    have hs : Lexer.operand.StartsBefore 0 := trivial
    have hi := Lexer.run_insert_blank hw hc hs after.toList
    rw [Nat.zero_add, byteLength_toList] at hi
    simpa only [lex, String.toList_append, String.toList_singleton, List.append_assoc,
      List.singleton_append] using hi
  · intro ts h
    obtain ⟨settled, s, rest, hr, hrest, rfl, hm⟩ := heldBy_minus h
    rw [byteLength_toList] at hrest
    have hi : lex (before ++ "-" ++ .singleton w ++ after) =
        (s.run before.utf8ByteSize ('-' :: w :: after.toList)).map (settled ++ ·) := by
      have he : ("-" ++ .singleton w ++ after).toList = '-' :: w :: after.toList := by
        simp
      have ha : before ++ "-" ++ .singleton w ++ after =
          before ++ ("-" ++ .singleton w ++ after) := by
        simp only [String.append_assoc]
      rw [ha, lex_append_of_read (by rwa [he]), he]
    refine ⟨?_, ?_, ?_⟩
    · rcases hm with ⟨-, ho⟩ | ⟨-, x, -, hx⟩
      · exact .inl ho
      · exact .inr ⟨x, hx⟩
    · intro ho
      rcases hm with ⟨hs, -⟩ | ⟨-, x, -, hx⟩
      · rw [hi, Lexer.run_operator_blank hw hs hrest]
        rfl
      · cases ho.unique hx
    · intro x hx
      rcases hm with ⟨-, ho⟩ | ⟨rfl, -⟩
      · cases hx.unique ho
      · rw [hi, Lexer.run_sign_blank hw]
        rfl

theorem Token.lex_insert_blank_minus :
    let ts := [.number "2", .operator .sub, .number "-3"]
    isBlank '\t' ∧ "2*1.".toList.getLast? ≠ some '-' ∧
      lex ("2*1." ++ .singleton '\t' ++ "5.") =
        (lex ("2*1." ++ "5.")).mapError
          (·.relocate (offsetAfterInsertion "2*1.".utf8ByteSize)) ∧
      lex ("2" ++ "-" ++ "-3") = .ok ts ∧ HeldBy ts "2" (.operator .sub) ∧
      lex ("2" ++ "-" ++ .singleton '\t' ++ "-3") = .ok ts ∧
      lex ("2-" ++ "-" ++ "3") = .ok ts ∧ HeldBy ts "2-" (.number "-3") ∧
      lex ("2-" ++ "-" ++ .singleton '\t' ++ "3") =
        .error (.strayOperator '-' "2-".utf8ByteSize) := by
  intro ts
  have hw : isBlank '\t' := rfl
  have hc : "2*1.".toList.getLast? ≠ some '-' := by decide
  have h : lex ("2" ++ "-" ++ "-3") = .ok ts := by decide +kernel
  have h' : lex ("2-" ++ "-" ++ "3") = .ok ts := by decide +kernel
  have ho : HeldBy ([.number "2"] ++ [.operator .sub, .number "-3"]) "2" (.operator .sub) :=
    heldBy_of_letters (by decide) (by decide)
  have hx : HeldBy ([.number "2", .operator .sub] ++ [.number "-3"]) "2-" (.number "-3") :=
    heldBy_of_letters (by decide) (by decide)
  exact ⟨hw, hc, (lex_insert_blank hw "2*1." "5.").1 hc,
    h, ho, ((lex_insert_blank hw "2" "-3").2 ts h).2.1 ho,
    h', hx, ((lex_insert_blank hw "2-" "3").2 ts h').2.2 "-3" hx⟩

end Calculator
