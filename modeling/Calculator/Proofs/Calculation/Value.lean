import Calculator.Proofs.Calculation.Outcome
import Calculator.Proofs.Expression.Occurrence
import Calculator.Proofs.Rpn.Order
import Calculator.Proofs.Token.Spelling

namespace Calculator

variable {l : Layer} {ts : List Token} {e : Expression} {source : String}

theorem Derives.lexical (h : Derives l ts e) (hl : ∀ text ∈ e.texts, IsLiteral text) :
    Lexical ts :=
  h.formula.lexical fun text hm => hl text (h.mem_texts hm)

/-- However an expression over literals is written, with whatever parentheses and blanks, its text
has the value of its tree, and the only way to fail is that this value is not finite. -/
theorem calculate_of_spelling (h : Derives .sum ts e) (hl : ∀ text ∈ e.texts, IsLiteral text)
    (hs : Spelling ts source.toList) :
    ∃ x, e.value? = some x ∧
      calculate source = if x.isFinite then .ok x else .error (.value (.notFinite x)) := by
  obtain ⟨x, hx⟩ := Expression.exists_value fun text hm => (hl text hm).isSome_ofText?
  have ht : Token.lex source = .ok ts := Token.lex_of_spelling (h.lexical hl) hs
  have hu : Rpn.ofInfix ts = .ok e.postorder := Layer.Reads.ofInfix (h.reads nofun)
  have hv : Rpn.value e.postorder = .ok x := Rpn.value_postorder hx
  refine ⟨x, hx, ?_⟩
  split
  · next hf => exact (Calculates.accepted ht hu hv hf).eq
  · next hf => exact (Calculates.refused ht hu hv (Bool.eq_false_iff.2 hf)).eq

theorem calculate_of_spelling_blanks :
    Derives .sum [.opening, .opening, .number "10", .closing, .operator .sub, .number "-2.",
        .closing, .operator .div, .number "4"]
        (.binary .div (.binary .sub (.number "10") (.number "-2.")) (.number "4")) ∧
      Spelling [.opening, .opening, .number "10", .closing, .operator .sub, .number "-2.",
        .closing, .operator .div, .number "4"] " ((1 0)- -2\t. )/4\n".toList ∧
      ∃ x, (Expression.binary .div (.binary .sub (.number "10") (.number "-2."))
          (.number "4")).value? = some x ∧
        calculate " ((1 0)- -2\t. )/4\n" =
          if x.isFinite then .ok x else .error (.value (.notFinite x)) := by
  have hg := Derives.group (.product (.factor (.number "10")))
  have hm := Derives.plus (.inr rfl) (.product (.factor hg)) (.factor (.number "-2."))
  have hd := Derives.times (.inr rfl) (.factor (.group hm)) (.number "4")
  have hs : Spelling [.opening, .opening, .number "10", .closing, .operator .sub, .number "-2.",
      .closing, .operator .div, .number "4"]
      ([' ', '('] ++ (['('] ++ (['1', ' ', '0'] ++ ([')'] ++ (['-'] ++
        ([' ', '-', '2', '\t', '.'] ++ ([' ', ')'] ++ (['/'] ++ (['4'] ++ ['\n']))))))))) := by
    repeat apply Spelling.cons ⟨by decide, by decide⟩
    exact .blanks (List.forall_mem_singleton.2 rfl)
  exact ⟨.product hd, hs, calculate_of_spelling (.product hd) (by decide) hs⟩

/-- An accepted text is reordered to the postfix order of one tree. No part of the tree is NaN, no
divisor in it is zero, and an infinity is or lies inside the infinite divisor of a finite number. -/
theorem subexpressions_of_calculate {source : String} {x : Binary64}
    (h : calculate source = .ok x) :
    ∃ ts us e, Token.lex source = .ok ts ∧ Rpn.ofInfix ts = .ok us ∧
      e.postorder = us ∧ (∀ e' : Expression, e'.postorder = us → e' = e) ∧ e.value? = some x ∧
      (∀ path (f : Expression), f.Occurs path e → ∃ y, f.value? = some y ∧ y ≠ .nan ∧
        ∀ s, y = .infinite s → e.BehindInfinity path) ∧
      (∀ path l r y, (Expression.binary .div l r).Occurs path e → r.value? = some y →
        y.isZero = false) ∧
      ((∀ path (d : Expression), d.Occurs path e → ¬d.DividesByInfinity) →
        ∀ path (f : Expression), f.Occurs path e → ∃ y, f.value? = some y ∧ y.isFinite) := by
  cases h ▸ calculates source with
  | @accepted ts us x ht hu hx hf =>
    obtain ⟨e, rfl, hv⟩ := Rpn.exists_tree_of_value hx
    have hn := Binary64.ne_nan_of_isFinite hf
    refine ⟨ts, e.postorder, e, ht, hu, rfl, fun _ => Expression.postorder_injective, hv, ?_,
      fun path l r y ho hy => ho.divisor_ne_zero hv hn hy, ?_⟩
    · intro path f ho
      obtain ⟨y, hy, hn⟩ := ho.ne_nan hv hn
      refine ⟨y, hy, hn, ?_⟩
      rintro s rfl
      exact ho.behindInfinity hv hf hy
    · intro hd path f ho
      obtain ⟨y, hy, hn⟩ := ho.ne_nan hv hn
      refine ⟨y, hy, ?_⟩
      cases y with
      | nan => exact absurd rfl hn
      | infinite s =>
        obtain ⟨above, below, d, -, ho, hi⟩ := ho.behindInfinity hv hf hy
        exact absurd hi (hd above d ho)
      | finite s m => rfl

theorem subexpressions_of_calculate_overflow :
    let large := String.ofList ('1' :: List.replicate 78 '0')
    let ts := [.number "1", .operator .div, .opening, .number large, .operator .mul, .number large,
      .operator .mul, .number large, .operator .mul, .number large, .closing]
    let product := Expression.binary .mul (.binary .mul (.binary .mul (.number large)
      (.number large)) (.number large)) (.number large)
    let quotient := Expression.binary .div (.number "1") product
    calculate (Rpn.text ts) = .ok (.finite false .zero) ∧
      Rpn.ofInfix ts = .ok quotient.postorder ∧ product.Occurs [.right] quotient ∧
      product.value? = some (.infinite false) ∧ quotient.BehindInfinity [.right] := by
  intro large ts product quotient
  have hl : Lexical ts := by
    apply lexical_iff.2
    simp only [ts, List.isChain_cons_cons, List.isChain_singleton, Token.Precedes]
    decide +kernel
  have hb : ∀ c ∈ " ".toList, isBlank c := List.all_eq_true.1 (by decide)
  have ht : Token.lex (Rpn.text ts) = .ok ts :=
    Token.lex_of_spelling hl (spelling_intercalate hb hl.literal)
  have hu : Rpn.ofInfix ts = .ok quotient.postorder := by rfl
  have hv : quotient.value? = some (.finite false .zero) := by decide +kernel
  have hp : product.value? = some (.infinite false) := by decide +kernel
  have h := (Calculates.accepted ht hu (Rpn.value_postorder hv) rfl).eq
  have ho : product.Occurs [.right] quotient := .right .root _ _
  obtain ⟨ts', us, e, ht', hu', rfl, he, -, hs, -⟩ := subexpressions_of_calculate h
  cases ht.symm.trans ht'
  have he := he quotient (Except.ok.inj (hu.symm.trans hu'))
  obtain ⟨y, hy, -, hb⟩ := hs _ _ (he ▸ ho)
  exact ⟨h, hu, ho, hp, he ▸ hb false (Option.some.inj (hy.symm.trans hp))⟩

end Calculator
