import Calculator.Proofs.Expression.Grammar
import Calculator.Proofs.Rpn.Balance

namespace Calculator

/-- Two operands stand side by side, with no operator between them. -/
def Token.juxtaposes (t u : Token) : Bool :=
  t.endsOperand && u.beginsOperand

def Token.lacksOperand (t u : Token) : Bool :=
  !t.endsOperand && !u.beginsOperand

/-- Each two tokens in a row, from `t` before the list to the closing parenthesis after it. -/
def Token.neighbours (t : Token) (ts : List Token) : List (Token × Token) :=
  (t :: ts).zip (ts ++ [.closing])

def juxtapositions (ts : List Token) : Nat :=
  (Token.opening.neighbours ts).countP fun p => p.1.juxtaposes p.2

def missingOperands (ts : List Token) : Nat :=
  (Token.opening.neighbours ts).countP fun p => p.1.lacksOperand p.2

variable {t u : Token} {ts us : List Token}

theorem Token.neighbours_nil : t.neighbours [] = [(t, .closing)] := rfl

theorem Token.neighbours_cons : t.neighbours (u :: ts) = (t, u) :: u.neighbours ts := rfl

theorem Token.alternates_iff :
    t.Alternates u ↔ t.juxtaposes u = false ∧ t.lacksOperand u = false := by
  rw [Alternates, juxtaposes, lacksOperand]
  cases t.endsOperand <;> cases u.beginsOperand <;> decide

theorem Token.count_neighbour (t u : Token) :
    (if u.isNumber then 1 else 0) + (if t.lacksOperand u then 1 else 0) + t.endsOperand.toNat =
      (if u.isOperator then 1 else 0) + (if t.juxtaposes u then 1 else 0) +
        u.endsOperand.toNat := by
  cases t <;> cases u <;> rfl

/-- Where operands stand side by side, the list has numbers to spare; where they are missing, it
has operators to spare. -/
theorem Token.count_neighbours :
    ts.countP isNumber + ((t.neighbours ts).countP fun p => p.1.lacksOperand p.2) +
        t.endsOperand.toNat =
      ts.countP isOperator + ((t.neighbours ts).countP fun p => p.1.juxtaposes p.2) + 1 := by
  induction ts generalizing t with
  | nil => cases t <;> rfl
  | cons u ts ih =>
    have ih := @ih u
    have hp := t.count_neighbour u
    simp only [neighbours_cons, List.countP_cons]
    omega

theorem missingOperands_add_numbers (ts : List Token) :
    ts.countP Token.isNumber + missingOperands ts =
      ts.countP Token.isOperator + juxtapositions ts + 1 :=
  Token.count_neighbours (t := .opening)

theorem Token.isChain_iff_neighbours {R : Token → Token → Prop} :
    (t :: (ts ++ [.closing])).IsChain R ↔ ∀ p ∈ t.neighbours ts, R p.1 p.2 := by
  induction ts generalizing t with
  | nil => simp [neighbours_nil]
  | cons u ts ih =>
    rw [neighbours_cons, List.forall_mem_cons, List.cons_append, List.isChain_cons_cons, ih]

theorem juxtapositions_eq_zero_iff : juxtapositions ts = 0 ↔
    (Token.opening :: (ts ++ [.closing])).IsChain fun t u => t.juxtaposes u = false := by
  simp only [juxtapositions, List.countP_eq_zero, Bool.not_eq_true, Token.isChain_iff_neighbours]

theorem missingOperands_eq_zero_iff : missingOperands ts = 0 ↔
    (Token.opening :: (ts ++ [.closing])).IsChain fun t u => t.lacksOperand u = false := by
  simp only [missingOperands, List.countP_eq_zero, Bool.not_eq_true, Token.isChain_iff_neighbours]

/-- The places before the first token and after the last one count for neither. -/
theorem juxtapositions_eq (ts : List Token) :
    juxtapositions ts = (ts.zip ts.tail).countP fun p => p.1.juxtaposes p.2 := by
  have hn (t : Token) (ts : List Token) : (t.neighbours ts).countP (fun p => p.1.juxtaposes p.2) =
      ((t :: ts).zip ts).countP fun p => p.1.juxtaposes p.2 := by
    induction ts generalizing t with
    | nil => cases t <;> rfl
    | cons u ts ih => rw [Token.neighbours_cons, List.zip_cons_cons, List.countP_cons,
        List.countP_cons, ih]
  cases ts with
  | nil => rfl
  | cons t ts => exact hn t ts

theorem juxtapositions_eq_zero (h : ts.IsChain fun t u => ¬(t.endsOperand ∧ u.beginsOperand)) :
    juxtapositions ts = 0 := by
  rw [juxtapositions_eq_zero_iff, ← List.cons_append, List.isChain_append, List.isChain_cons]
  refine ⟨⟨fun t _ => rfl, h.imp fun t u h => ?_⟩, .singleton _, ?_⟩
  · simpa [Token.juxtaposes] using h
  · rintro t - _ ⟨⟩
    exact Bool.and_false _

theorem Token.Precedes.lacksOperand_eq_false (h : t.Precedes u)
    (hc : u = .closing → t.endsOperand) : t.lacksOperand u = false := by
  rw [lacksOperand]
  cases u with
  | number text => exact Bool.and_false _
  | opening => exact Bool.and_false _
  | operator o => rw [show t.endsOperand = true from h]; rfl
  | closing => rw [hc rfl]; rfl

/-- In a lexical list an operand can only be missing in an empty pair of parentheses, or after an
operator at the end of the text or of a pair of parentheses. -/
theorem missingOperands_eq_zero (hx : Lexical ts) (hb : Balanced ts) (hn : ts ≠ [])
    (hg : ts.IsChain fun t u => ¬(t = .opening ∧ u = .closing))
    (ho : ts.IsChain fun t u => ¬(t.isOperator ∧ u = .closing))
    (hl : ∀ t ∈ ts.getLast?, ¬t.isOperator) : missingOperands ts = 0 := by
  obtain ⟨hf, hx⟩ := List.isChain_cons.1 (lexical_iff.1 hx)
  rw [missingOperands_eq_zero_iff, ← List.cons_append, List.isChain_append, List.isChain_cons]
  refine ⟨⟨fun t ht => ?_, ?_⟩, .singleton _, ?_⟩
  · exact (hf t ht).lacksOperand_eq_false fun hc => absurd hc (hb.ne_closing_of_head? t ht)
  · rw [List.isChain_iff_forall_rel_of_append_cons_cons] at hx hg ho ⊢
    intro t u l₁ l₂ he
    refine (hx he).lacksOperand_eq_false fun hu => ?_
    cases t with
    | number => rfl
    | closing => rfl
    | opening => exact absurd ⟨rfl, hu⟩ (hg he)
    | operator => exact absurd ⟨rfl, hu⟩ (ho he)
  · rintro t ht _ ⟨⟩
    rw [List.getLast?_cons_of_ne_nil hn] at ht
    have ho := hl t ht
    cases t with
    | number => rfl
    | closing => rfl
    | opening => exact absurd rfl (hb.ne_opening_of_getLast? _ ht)
    | operator => exact absurd rfl ho

theorem Balanced.formula_of_alternates (h : Balanced ts)
    (hc : (t :: (ts ++ [.closing])).IsChain Token.Alternates) :
    (t.endsOperand → ∀ us, Formula us → Formula (us ++ ts)) ∧
      (t.endsOperand = false → Formula ts) := by
  -- An operand that ends at `t` goes on into `ts`; otherwise `ts` is an operand of its own.
  induction h generalizing t with
  | nil =>
    have ha : t.Alternates .closing := List.rel_of_isChain_cons_cons hc
    rw [Token.Alternates] at ha
    refine ⟨fun _ us hu => ?_, fun hn => ?_⟩
    · rwa [List.append_nil]
    · rw [ha] at hn
      cases hn
  | @plain u ts hu h ih =>
    have ha : t.Alternates u := List.rel_of_isChain_cons_cons hc
    rw [Token.Alternates] at ha
    obtain ⟨hl, hr⟩ := ih (List.isChain_cons_cons.1 hc).2
    rw [ha]
    cases u with
    | number text => exact ⟨(absurd · Bool.false_ne_true), fun _ => hl rfl _ (.number text)⟩
    | operator o =>
      exact ⟨fun _ us hu => .binary o hu (hr rfl), fun hn => absurd hn.symm Bool.false_ne_true⟩
    | opening => cases hu
    | closing => cases hu
  | @group ts us h h' ih ih' =>
    have ha : t.Alternates .opening := List.rel_of_isChain_cons_cons hc
    rw [Token.Alternates] at ha
    rw [List.cons_append, List.append_assoc] at hc
    obtain ⟨hl, hr⟩ := List.isChain_cons_split.1 (List.isChain_cons_cons.1 hc).2
    have hg := (ih' hr).1 rfl _ (.group ((ih hl).2 rfl))
    rw [ha]
    refine ⟨(absurd · Bool.false_ne_true), fun _ => ?_⟩
    simpa using hg

/-- Once its parentheses match, a token list is well-formed if no two operands stand side by side
and none is missing. -/
theorem Balanced.formula_iff (h : Balanced ts) :
    Formula ts ↔ juxtapositions ts = 0 ∧ missingOperands ts = 0 := by
  have hc : (.opening :: (ts ++ [.closing])).IsChain Token.Alternates ↔
      juxtapositions ts = 0 ∧ missingOperands ts = 0 := by
    simp only [juxtapositions_eq_zero_iff, missingOperands_eq_zero_iff,
      Token.isChain_iff_neighbours, Token.alternates_iff, forall_and]
  rw [← hc]
  exact ⟨fun hf => hf.alternates rfl rfl, fun hc => (h.formula_of_alternates hc).2 rfl⟩

end Calculator
