import Mathlib.Data.List.Forall2
import Calculator.Proofs.Calculation.Outcome
import Calculator.Proofs.Decimal
import Calculator.Proofs.Expression.Tree
import Calculator.Proofs.Rpn.Group
import Calculator.Proofs.Token.Position
import Calculator.Proofs.Token.Spelling

namespace Calculator

variable {source source' text : String} {stack stack' : List Binary64} {x x' y : Binary64}
  {ts ts' us us' : List Token}

theorem IsLiteral.lex (h : IsLiteral text) : Token.lex text = .ok [.number text] := by
  have hs : Spelling [.number text] text.toList := by
    have ht : Token.SpelledAs (.number text) text.toList :=
      Token.spelledAs_text (t := .number text) (by rintro _ ⟨⟩; exact h)
    simpa using Spelling.cons ht (.blanks (List.forall_mem_nil _))
  refine Token.lex_of_spelling (lexical_iff.2 (List.isChain_pair.2 ?_)) hs
  exact ⟨h, rfl, fun _ => rfl⟩

theorem IsLiteral.calculate (h : IsLiteral text) (hx : Binary64.ofText? text = some x)
    (hf : x.isFinite) : calculate text = .ok x := by
  have hv : Rpn.value [.number text] = .ok x := by
    simp only [Rpn.value, Rpn.execute, List.foldlM_cons, Rpn.push, hx]
    rfl
  have hu : Rpn.ofInfix [.number text] = .ok [.number text] := rfl
  exact (Calculates.accepted h.lex hu hv hf).eq

theorem calculate_display_eq (h : x.isFinite) : calculate x.display = .ok x.unsignedZero := by
  have hf : x.unsignedZero.isFinite := x.alike_unsignedZero.isFinite_eq ▸ h
  exact (Binary64.isLiteral_display h).calculate (Binary64.ofText?_display h) hf

theorem calculate_display (h : x.isFinite) : ∃ x', calculate x.display = .ok x' ∧ x.Alike x' :=
  ⟨_, calculate_display_eq h, x.alike_unsignedZero⟩

theorem Binary64.alike_of_display_eq (hx : x.isFinite) (hy : y.isFinite)
    (h : x.display = y.display) : x.Alike y := by
  have he := ofText?_display hx
  rw [h, ofText?_display hy, Option.some.injEq] at he
  have ha := x.alike_unsignedZero
  rw [← he] at ha
  exact ha.trans y.alike_unsignedZero.symm

/-- The text of a finite number is one literal, which comes to exactly this number; only zero loses
its sign. So no two numbers but the two zeros are written alike. -/
theorem Binary64.calculate_own_display (h : x.isFinite) :
    Token.lex x.display = .ok [.number x.display] ∧
      calculate x.display = .ok (if x = finite true .zero then finite false .zero else x) ∧
      ∀ y : Binary64, y.isFinite → x.display = y.display → x = y ∨ x.isZero ∧ y.isZero := by
  refine ⟨(isLiteral_display h).lex, ?_, ?_⟩
  · rw [calculate_display_eq h, unsignedZero_eq]
  · intro y hy he
    exact (alike_of_display_eq h hy he).eq_or_isZero

theorem Binary64.calculate_own_display_least :
    calculate (finite true .zero).display = .ok (finite false .zero) ∧
      ∃ hr, (finite true ⟨1, hr⟩).isFinite ∧
        calculate (finite true ⟨1, hr⟩).display = .ok (finite true ⟨1, hr⟩) := by
  obtain ⟨-, hz, -⟩ := calculate_own_display (x := finite true .zero) rfl
  have hr : Representable 1 := by decide
  have hn : finite true ⟨1, hr⟩ ≠ finite true .zero := by
    intro he
    cases congrArg isZero he
  obtain ⟨-, hx, -⟩ := calculate_own_display (x := finite true ⟨1, hr⟩) rfl
  rw [if_neg hn] at hx
  exact ⟨hz, hr, rfl, hx⟩

theorem Rpn.push_alike (h : List.Forall₂ Binary64.Alike stack stack') (t : Token) :
    Agree Eq (List.Forall₂ Binary64.Alike) (push stack t) (push stack' t) := by
  cases t with
  | number text =>
    simp only [push]
    cases Binary64.ofText? text with
    | none => exact .error rfl
    | some x => exact .ok (.cons (.refl x) h)
  | operator o =>
    cases h with
    | nil => exact .error rfl
    | cons hr h =>
      cases h with
      | nil => exact .error rfl
      | cons hl h => exact .ok (.cons (o.alike_apply hl hr) h)
  | opening => exact .error rfl
  | closing => exact .error rfl

theorem Rpn.execute_alike (h : List.Forall₂ Binary64.Alike stack stack') (ts : List Token) :
    Agree Eq (List.Forall₂ Binary64.Alike) (execute stack ts) (execute stack' ts) := by
  induction ts generalizing stack stack' with
  | nil => exact .ok h
  | cons t ts ih => exact (push_alike h t).bind fun _ _ => ih

theorem Rpn.result_alike (h : List.Forall₂ Binary64.Alike stack stack') :
    Agree Eq Binary64.Alike (result stack) (result stack') := by
  have hl : stack.length = stack'.length := h.length_eq
  cases h with
  | nil => exact .error rfl
  | cons hx h =>
    cases h with
    | nil => exact .ok hx
    | cons => exact .error (congrArg _ hl)

theorem Binary64.Alike.requireFinite (h : x.Alike x') :
    Agree Eq Alike x.requireFinite x'.requireFinite := by
  rw [Binary64.requireFinite, Binary64.requireFinite, ← h.isFinite_eq]
  split
  · exact .ok h
  · next hf => exact .error (congrArg _ (h.eq_of_not_finite (Bool.eq_false_iff.2 hf)))

theorem Token.lex_group_agree (h : lex source = .ok ts) (h' : lex source' = .ok ts')
    (before after : String) :
    Agree (fun e f => e.kind = f.kind)
      (fun us us' => ∃ as bs, us = as ++ (.opening :: (ts ++ [.closing]) ++ bs) ∧
        us' = as ++ (.opening :: (ts' ++ [.closing]) ++ bs))
      (lex (before ++ "(" ++ source ++ ")" ++ after))
      (lex (before ++ "(" ++ source' ++ ")" ++ after)) := by
  obtain ⟨n, hn⟩ := lex_group h before after
  obtain ⟨n', hn'⟩ := lex_group h' before after
  rw [hn, hn']
  cases lexBeforeGroup before with
  | error f => exact .error rfl
  | ok as =>
    cases Lexer.group.run 0 after.toList with
    | error f => exact .error (by rw [LexFault.kind_relocate, LexFault.kind_relocate])
    | ok bs => exact .ok ⟨as, bs, rfl, rfl⟩

theorem Rpn.ofInfix_group_agree (h : ofInfix ts = .ok us) (h' : ofInfix ts' = .ok us')
    (before after : List Token) :
    Agree Eq (fun vs vs' => ∃ as bs, vs = as ++ (us ++ bs) ∧ vs' = as ++ (us' ++ bs))
      (ofInfix (before ++ (.opening :: (ts ++ [.closing]) ++ after)))
      (ofInfix (before ++ (.opening :: (ts' ++ [.closing]) ++ after))) := by
  rw [ofInfix_group h, ofInfix_group h']
  cases around before after with
  | error f => exact .error rfl
  | ok r => exact .ok ⟨r.1, r.2, rfl, rfl⟩

theorem Rpn.value_group_agree (h : value us = .ok x) (h' : value us' = .ok x') (hx : x.Alike x')
    (as bs : List Token) :
    Agree Eq Binary64.Alike (value (as ++ (us ++ bs))) (value (as ++ (us' ++ bs))) := by
  rw [value_append_of_value h, value_append_of_value h']
  cases execute [] as with
  | error f => exact .error rfl
  | ok stack =>
    rw [ok_bind, ok_bind]
    have hs : List.Forall₂ Binary64.Alike (x :: stack) (x' :: stack) :=
      .cons hx (List.forall₂_same.2 fun y _ => .refl y)
    exact (execute_alike hs bs).bind fun _ _ => result_alike

/-- What stands in parentheses can be replaced by anything of the same value. -/
theorem calculate_group_congr (h : calculate source = .ok x) (h' : calculate source' = .ok x')
    (hx : x.Alike x') (before after : String) :
    Agree (fun e f => e.kind = f.kind) Binary64.Alike
      (calculate (before ++ "(" ++ source ++ ")" ++ after))
      (calculate (before ++ "(" ++ source' ++ ")" ++ after)) := by
  cases h ▸ calculates source with
  | accepted ht hu hv hf =>
    cases h' ▸ calculates source' with
    | accepted ht' hu' hv' hf' =>
      -- The outcomes agree stage by stage: only positions, then only the group, then only a sign
      -- of zero can differ.
      rw [calculate_eq, calculate_eq]
      refine .bind (.mapError (Token.lex_group_agree ht ht' before after) fun _ _ he => he) ?_
      rintro _ _ ⟨as, bs, rfl, rfl⟩
      refine .bind (.mapError (Rpn.ofInfix_group_agree hu hu' as bs) fun _ _ he => he ▸ rfl) ?_
      rintro _ _ ⟨as, bs, rfl, rfl⟩
      refine .bind (.mapError (Rpn.value_group_agree hv hv' hx as bs) fun _ _ he => he ▸ rfl) ?_
      exact fun y y' hy => hy.requireFinite.mapError fun _ _ he => he ▸ rfl

/-- A result can be printed and put in the place of the expression in parentheses that it is the
value of, whatever stands around it. -/
theorem calculate_substitute (h : calculate source = .ok x) (before after : String) :
    Agree (fun e f => e.kind = f.kind) Binary64.Alike
      (calculate (before ++ "(" ++ source ++ ")" ++ after))
      (calculate (before ++ "(" ++ x.display ++ ")" ++ after)) := by
  cases h ▸ calculates source with
  | accepted ht hu hv hf =>
    obtain ⟨x', hx', ha⟩ := calculate_display hf
    exact calculate_group_congr h hx' ha before after

theorem calculate_substitute_negative_zero :
    calculate "0*-1" = .ok (.finite true .zero) ∧
      Agree (fun e f => e.kind = f.kind) Binary64.Alike
        (calculate ("6/" ++ "(" ++ "0*-1" ++ ")" ++ "-1)(7"))
        (calculate ("6/" ++ "(" ++ "0" ++ ")" ++ "-1)(7")) := by
  have hv : (Expression.binary .mul (.number "0") (.number "-1")).value? =
      some (.finite true .zero) := by decide +kernel
  have h : calculate "0*-1" = .ok (.finite true .zero) :=
    (Calculates.accepted (by rfl) (by rfl) (Rpn.value_postorder hv) rfl).eq
  exact ⟨h, calculate_substitute h "6/" "-1)(7"⟩

end Calculator
