import Mathlib.Data.List.Chain
import Calculator.Proofs.Token.Moves

namespace Calculator

/-- What the lexer makes of a text: literals with a sign only where an operand is due, no two
numbers in a row, and an operand before every operator. -/
structure Lexical (ts : List Token) : Prop where
  literal : ∀ text, .number text ∈ ts → IsLiteral text
  signed : ts.IsChain fun t u => ∀ text, u = .number text → IsSigned text →
    t.isOperator ∨ t = .opening
  apart : ts.IsChain fun t u => ¬(t.isNumber ∧ u.isNumber)
  first : ∀ t ∈ ts.head?, ¬t.isOperator
  operator : ts.IsChain fun t u => u.isOperator → t.isNumber ∨ t = .closing

def Token.Precedes (t : Token) : Token → Prop
  | number text =>
    IsLiteral text ∧ t.isNumber = false ∧ (IsSigned text → t.endsOperand = false)
  | operator _ => t.endsOperand
  | opening | closing => True

theorem Token.precedes_iff {t u : Token} :
    t.Precedes u ↔ (∀ text, u = .number text → IsLiteral text) ∧
      (∀ text, u = .number text → IsSigned text → t.isOperator ∨ t = .opening) ∧
      ¬(t.isNumber ∧ u.isNumber) ∧ (u.isOperator → t.isNumber ∨ t = .closing) := by
  cases t <;> cases u <;>
    simp [Precedes, isNumber, isOperator, endsOperand]

theorem exists_rel_of_isChain_cons {α : Type} {R : α → α → Prop} {a b : α} {as : List α}
    (h : (a :: as).IsChain R) (hb : b ∈ as) : ∃ c, R c b := by
  induction as generalizing a with
  | nil => cases hb
  | cons a' as ih =>
    rw [List.isChain_cons_cons] at h
    rcases List.mem_cons.1 hb with rfl | hb
    · exact ⟨a, h.1⟩
    · exact ih h.2 hb

theorem lexical_iff {ts : List Token} :
    Lexical ts ↔ (.opening :: ts).IsChain Token.Precedes := by
  constructor
  · intro h
    have hl {u : Token} (hu : u ∈ ts) (text : String) (he : u = .number text) :
        IsLiteral text := h.literal text (he ▸ hu)
    rw [List.isChain_cons, List.isChain_iff_forall_rel_of_append_cons_cons]
    constructor
    · intro u hu
      refine Token.precedes_iff.2 ⟨hl (List.mem_of_mem_head? hu), fun _ _ _ => .inr rfl,
        (nomatch ·.1), fun ho => absurd ho (h.first u hu)⟩
    · intro t u l₁ l₂ he
      have hr {R : Token → Token → Prop} (hc : ts.IsChain R) : R t u :=
        List.isChain_iff_forall_rel_of_append_cons_cons.1 hc he
      have hu : u ∈ ts := by simp [he]
      exact Token.precedes_iff.2 ⟨hl hu, hr h.signed, hr h.apart, hr h.operator⟩
  · intro h
    have ht := (List.isChain_cons.1 h).2
    constructor
    · intro text hm
      obtain ⟨t, hp⟩ := exists_rel_of_isChain_cons h hm
      exact hp.1
    · exact ht.imp fun t u hp => (Token.precedes_iff.1 hp).2.1
    · exact ht.imp fun t u hp => (Token.precedes_iff.1 hp).2.2.1
    · intro u hu ho
      simpa [Token.isNumber] using (Token.precedes_iff.1 (h.rel_head? hu)).2.2.2 ho
    · exact ht.imp fun t u hp => (Token.precedes_iff.1 hp).2.2.2

theorem isChain_cons_append {α : Type} {R : α → α → Prop} {a : α} {as bs : List α}
    (ha : (a :: as).IsChain R) (hb : (as.getLastD a :: bs).IsChain R) :
    (a :: (as ++ bs)).IsChain R := by
  induction as generalizing a with
  | nil => exact hb
  | cons a' as ih =>
    rw [List.getLastD_cons] at hb
    rw [List.isChain_cons_cons] at ha
    exact .cons_cons ha.1 (ih ha.2 hb)

/-- Where the lexer can stand when `t` is the last token that it has settled. -/
def Lexer.Follows (t : Token) : Lexer → Prop
  | operand => t.endsOperand = false
  | group => t = .closing
  | literal _ text =>
    t.isNumber = false ∧ (∀ c ∈ withoutSign text.toList, isNumeric c) ∧
      (IsSigned text → t.endsOperand = false)

variable {s s' : Lexer} {position : Nat} {c : Char} {next : Option Char} {t : Token}
  {ts : List Token}

theorem Lexer.Follows.extend (h : s.Follows t) (hc : isNumeric c) :
    (s.extend position c).Follows t := by
  have hd : c ≠ '-' := ne_minus_of_isNumeric hc
  have hn : ∀ d ∈ withoutSign [c], isNumeric d := by
    rw [withoutSign_cons [] hd]
    simpa using hc
  have hs : ¬IsSigned (String.singleton c) := by
    simpa [IsSigned] using hd
  cases s with
  | operand =>
    refine ⟨?_, by simpa using hn, fun h => absurd h hs⟩
    cases t <;> trivial
  | group =>
    cases h
    exact ⟨rfl, by simpa using hn, fun h => absurd h hs⟩
  | literal start text =>
    obtain ⟨ht, hb, hp⟩ := h
    refine ⟨ht, ?_, ?_⟩
    · rw [String.toList_push, withoutSign_concat _ hd]
      intro d hm
      rcases List.mem_append.1 hm with hm | hm
      · exact hb d hm
      · cases List.mem_singleton.1 hm
        exact hc
    · rwa [isSigned_push hd]

theorem Lexer.Follows.finish (h : s.Follows t) (hf : s.finish = .ok ts) :
    (t :: ts).IsChain Token.Precedes ∧ (s ≠ operand → (ts.getLastD t).endsOperand) := by
  cases s with
  | operand =>
    cases hf
    exact ⟨.singleton t, (absurd rfl ·)⟩
  | group =>
    cases hf
    cases h
    exact ⟨.singleton _, fun _ => rfl⟩
  | literal start text =>
    obtain ⟨hn, hb, hs⟩ := h
    obtain ⟨ht, rfl⟩ := of_finish_literal hf
    have hl := (Binary64.isSome_ofText?_iff hb).1 ht
    exact ⟨.cons_cons ⟨hl, hn, hs⟩ (.singleton _), fun _ => rfl⟩

theorem Lexer.Follows.moves (h : s.Follows t) (hm : s.Moves position c next ts s') :
    (t :: ts).IsChain Token.Precedes ∧ s'.Follows (ts.getLastD t) := by
  cases hm with
  | blank => exact ⟨.singleton t, h⟩
  | numeric hc => exact ⟨.singleton t, h.extend hc⟩
  | sign hs hc hn =>
    subst hs
    refine ⟨.singleton t, ?_, by simp [withoutSign], fun _ => h⟩
    cases t with
    | number => cases h
    | _ => rfl
  | @symbol u fs hu hs hf =>
    obtain ⟨hc, ho⟩ := h.finish hf
    have hp : (fs.getLastD t).Precedes u := by
      cases u with
      | number => cases hu
      | operator o => exact ho (hs rfl)
      | opening => trivial
      | closing => trivial
    refine ⟨isChain_cons_append hc (.cons_cons hp (.singleton u)), ?_⟩
    rw [List.getLastD_concat]
    cases u with
    | number => cases hu
    | operator o => rfl
    | opening => rfl
    | closing => rfl

theorem Lexer.Follows.run (h : s.Follows t) {cs : List Char}
    (hr : s.run position cs = .ok ts) : (t :: ts).IsChain Token.Precedes := by
  induction cs generalizing s position t ts with
  | nil => exact (h.finish hr).1
  | cons c cs ih =>
    obtain ⟨settled, s', rest, hm, hr', rfl⟩ := moves_of_run hr
    obtain ⟨hc, h'⟩ := h.moves hm
    exact isChain_cons_append hc (ih h' hr')

theorem Token.lexical_of_lex {source : String} (h : lex source = .ok ts) : Lexical ts :=
  lexical_iff.2 (Lexer.Follows.run (s := .operand) rfl h)

end Calculator
