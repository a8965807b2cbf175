import Calculator.Proofs.Expression.Tree
import Calculator.Proofs.Token.Lexical

namespace Calculator

/-- What an expression can be read as: a sum of products of factors. -/
inductive Layer where
  | sum
  | product
  | factor
  deriving DecidableEq

/-- The readings of a token list, with the tree that each stands for: sums and products are grouped
from the left, and a factor is a number or a sum in parentheses. -/
inductive Derives : Layer → List Token → Expression → Prop
  | number (text : String) : Derives .factor [.number text] (.number text)
  | group {ts : List Token} {e : Expression} (h : Derives .sum ts e) :
      Derives .factor (.opening :: (ts ++ [.closing])) e
  | factor {ts : List Token} {e : Expression} (h : Derives .factor ts e) : Derives .product ts e
  | times {o : Operator} {ts us : List Token} {e f : Expression} (ho : o = .mul ∨ o = .div)
      (h : Derives .product ts e) (h' : Derives .factor us f) :
      Derives .product (ts ++ .operator o :: us) (.binary o e f)
  | product {ts : List Token} {e : Expression} (h : Derives .product ts e) : Derives .sum ts e
  | plus {o : Operator} {ts us : List Token} {e f : Expression} (ho : o = .add ∨ o = .sub)
      (h : Derives .sum ts e) (h' : Derives .product us f) :
      Derives .sum (ts ++ .operator o :: us) (.binary o e f)

/-- The well-formed token lists, whatever tree they may stand for. -/
inductive Formula : List Token → Prop
  | number (text : String) : Formula [.number text]
  | group {ts : List Token} (h : Formula ts) : Formula (.opening :: (ts ++ [.closing]))
  | binary (o : Operator) {ts us : List Token} (h : Formula ts) (h' : Formula us) :
      Formula (ts ++ .operator o :: us)

/-- Whether exactly one of two adjacent tokens is beside an operand of its own: a token begins an
operand if the one before it does not end one. -/
def Token.Alternates (t u : Token) : Prop :=
  t.endsOperand = !u.beginsOperand

instance (t u : Token) : Decidable (t.Alternates u) :=
  inferInstanceAs (Decidable (t.endsOperand = !u.beginsOperand))

variable {l : Layer} {t u : Token} {ts us : List Token} {e : Expression}

theorem Derives.formula (h : Derives l ts e) : Formula ts := by
  induction h with
  | number text => exact .number text
  | group h ih => exact .group ih
  | factor h ih => exact ih
  | times ho h h' ih ih' => exact .binary _ ih ih'
  | product h ih => exact ih
  | plus ho h h' ih ih' => exact .binary _ ih ih'

theorem mem_append_operator {o : Operator} {text : String}
    (h : .number text ∈ ts ++ .operator o :: us) : .number text ∈ ts ∨ .number text ∈ us := by
  simpa using h

theorem Derives.mem_texts (h : Derives l ts e) {text : String} (hm : .number text ∈ ts) :
    text ∈ e.texts := by
  induction h with
  | number x =>
    cases List.mem_singleton.1 hm
    exact List.mem_cons_self
  | group h ih => exact ih (by simpa using hm)
  | factor h ih => exact ih hm
  | times ho h h' ih ih' => exact List.mem_append.2 ((mem_append_operator hm).imp ih ih')
  | product h ih => exact ih hm
  | plus ho h h' ih ih' => exact List.mem_append.2 ((mem_append_operator hm).imp ih ih')

/-- In a formula, and at its ends, operands and what joins them alternate. -/
theorem Formula.alternates (h : Formula ts) (ht : t.endsOperand = false)
    (hu : u.beginsOperand = false) : (t :: (ts ++ [u])).IsChain Token.Alternates := by
  induction h generalizing t u with
  | number text =>
    have hc : (Token.number text).Alternates u := by rw [Token.Alternates, hu]; rfl
    exact .cons_cons ht (.cons_cons hc (.singleton u))
  | @group ts h ih =>
    have hc : Token.closing.Alternates u := by rw [Token.Alternates, hu]; rfl
    have hg := ih (t := .opening) (u := .closing) rfl rfl
    have hs : (Token.closing :: [u]).IsChain Token.Alternates := .cons_cons hc (.singleton u)
    rw [List.cons_append, List.append_assoc]
    exact .cons_cons ht (List.isChain_cons_split.2 ⟨hg, hs⟩)
  | @binary o ts us h h' ih ih' =>
    have hl := ih (u := .operator o) ht rfl
    have hr := ih' (t := .operator o) rfl hu
    rw [List.append_assoc]
    exact List.isChain_cons_split.2 ⟨hl, hr⟩

theorem Token.Alternates.precedes (h : t.Alternates u)
    (hl : ∀ text, u = .number text → IsLiteral text) : t.Precedes u := by
  cases u with
  | number text =>
    refine ⟨hl text rfl, ?_, fun _ => h⟩
    cases t with
    | number => cases h
    | _ => rfl
  | operator o => exact h
  | opening => trivial
  | closing => trivial

theorem Formula.lexical (h : Formula ts) (hl : ∀ text, .number text ∈ ts → IsLiteral text) :
    Lexical ts := by
  have hc := h.alternates (t := .opening) (u := .closing) rfl rfl
  rw [← List.cons_append] at hc
  refine lexical_iff.2 (hc.left_of_append.imp_of_mem_tail_imp fun t u _ hu ha => ?_)
  exact ha.precedes fun text he => hl text (he ▸ hu)

end Calculator
