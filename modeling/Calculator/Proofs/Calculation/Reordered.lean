import Calculator.Proofs.Calculation.Outcome
import Calculator.Proofs.Decimal
import Calculator.Proofs.Rpn.Balance
import Calculator.Proofs.Token.Spelling

namespace Calculator

def Token.ofWord : String → Token
  | "+" => .operator .add
  | "-" => .operator .sub
  | "*" => .operator .mul
  | "/" => .operator .div
  | word => .number word

/-- The tokens of a postfix text: a space parts two words, and the empty text has none. -/
def Rpn.ofText (text : String) : List Token :=
  if text = "" then []
  else (text.toList.splitOn ' ').map fun word => .ofWord (.ofList word)

/-- Whether a token can stand in a postfix text, if it comes from the lexer. -/
def Token.IsWord : Token → Prop
  | number text => IsLiteral text
  | operator _ => True
  | opening | closing => False

variable {source : String} {t : Token} {ts us : List Token}

theorem Token.IsWord.literal (h : t.IsWord) : ∀ text, t = .number text → IsLiteral text := by
  rintro text rfl
  exact h

theorem IsLiteral.ofWord {text : String} (h : IsLiteral text) :
    Token.ofWord text = .number text := by
  unfold Token.ofWord
  split
  · exact absurd h (by decide)
  · exact absurd h (by decide)
  · exact absurd h (by decide)
  · exact absurd h (by decide)
  · rfl

theorem Token.IsWord.ofWord_text (h : t.IsWord) : ofWord t.text = t := by
  cases t with
  | number text => exact IsLiteral.ofWord h
  | operator o => cases o <;> rfl
  | opening => cases h
  | closing => cases h

theorem Token.IsWord.text_ne_nil (h : t.IsWord) : t.text.toList ≠ [] := by
  cases t with
  | number text =>
    obtain ⟨-, -, c, hc, -⟩ := h
    intro hn
    rw [show text.toList = [] from hn] at hc
    cases hc
  | operator o =>
    rw [toList_text_of_symbol? (t := .operator o) rfl]
    exact List.cons_ne_nil _ _
  | opening => cases h
  | closing => cases h

theorem Token.IsWord.space_not_mem (h : t.IsWord) : ' ' ∉ t.text.toList := by
  intro hc
  exact absurd (not_blank h.literal ' ' hc) (by decide)

theorem Rpn.splitOn_text (h : ∀ t ∈ us, t.IsWord) (hn : us ≠ []) :
    (text us).toList.splitOn ' ' = us.map fun t => t.text.toList := by
  have hs : (text us).toList = [' '].intercalate (us.map fun t => t.text.toList) := by
    rw [text, String.toList_intercalate, List.map_map]
    rfl
  rw [hs]
  apply List.splitOn_intercalate
  · intro word hw
    obtain ⟨t, ht, rfl⟩ := List.mem_map.1 hw
    exact (h t ht).space_not_mem
  · simpa using hn

/-- No word of a postfix text is empty or holds a space, and no literal is an operator's symbol, so
the text tells its tokens. -/
theorem Rpn.ofText_text (h : ∀ t ∈ us, t.IsWord) : ofText (text us) = us := by
  by_cases hn : us = []
  · subst hn
    rfl
  have hs := splitOn_text h hn
  have ht : text us ≠ "" := by
    intro he
    rw [he] at hs
    have hm : [] ∈ us.map fun t => t.text.toList := hs ▸ List.mem_singleton_self []
    obtain ⟨t, ht, he⟩ := List.mem_map.1 hm
    exact (h t ht).text_ne_nil he
  rw [ofText, if_neg ht, hs, List.map_map]
  conv => rhs; rw [← List.map_id us]
  apply List.map_congr_left
  intro t ht
  change Token.ofWord (String.ofList t.text.toList) = t
  rw [String.ofList_toList, (h t ht).ofWord_text]

theorem Token.isWord_of_lex (ht : lex source = .ok ts) (hu : Rpn.ofInfix ts = .ok us) :
    ∀ t ∈ us, t.IsWord := by
  intro t hm
  obtain ⟨hm, hp⟩ := Rpn.mem_of_ofInfix hu hm
  cases t with
  | number text => exact (lexical_of_lex ht).literal text hm
  | operator o => trivial
  | opening => cases hp
  | closing => cases hp

theorem exists_of_reorder {text : String} (h : reorder source = .ok text) :
    ∃ ts us, Token.lex source = .ok ts ∧ Rpn.ofInfix ts = .ok us ∧ Rpn.text us = text := by
  rw [reorder_eq] at h
  obtain ⟨ts, ht, h⟩ := exists_of_bind_eq_ok h
  obtain ⟨us, hu, h⟩ := exists_of_bind_eq_ok h
  exact ⟨ts, us, ok_of_mapError_eq_ok ht, ok_of_mapError_eq_ok hu, Except.ok.inj h⟩

/-- The postfix text of an expression reads back as the tokens that it was written from, and these
come to what the expression comes to. -/
theorem Rpn.ofText_reorder {text : String} (h : reorder source = .ok text) :
    ∃ ts us, Token.lex source = .ok ts ∧ ofInfix ts = .ok us ∧ ofText text = us ∧
      (value (ofText text) >>= Binary64.requireFinite).mapError Fault.value =
        calculate source := by
  obtain ⟨ts, us, ht, hu, rfl⟩ := exists_of_reorder h
  have hr := ofText_text (Token.isWord_of_lex ht hu)
  refine ⟨ts, us, ht, hu, hr, ?_⟩
  rw [hr, calculate_of_ofInfix ht hu]

theorem Rpn.ofText_reorder_signs :
    reorder "(1--2)*-.5-3" = .ok "1 -2 - -.5 * 3 -" ∧
      ofText "1 -2 - -.5 * 3 -" = [.number "1", .number "-2", .operator .sub, .number "-.5",
        .operator .mul, .number "3", .operator .sub] := by
  have h : reorder "(1--2)*-.5-3" = .ok "1 -2 - -.5 * 3 -" := by rfl
  obtain ⟨ts, us, ht, hu, hr, -⟩ := ofText_reorder h
  cases ht.symm.trans (show _ = .ok [.opening, .number "1", .operator .sub, .number "-2", .closing,
    .operator .mul, .number "-.5", .operator .sub, .number "3"] by rfl)
  cases hu.symm.trans (by rfl)
  exact ⟨h, hr⟩

def resultOf (rpn : Bool) (line : String) : Except Fault String :=
  if rpn then reorder line else (calculate line).map Binary64.display

def isResultChar (c : Char) : Bool :=
  isNumeric c || (Operator.ofSymbol? c).isSome || c == ' '

variable {text line : String} {rpn : Bool}

theorem isResultChar_of_isNumeric {c : Char} (h : isNumeric c) : isResultChar c := by
  rw [isResultChar, h]
  rfl

theorem IsLiteral.isResultChar (h : IsLiteral text) : ∀ c ∈ text.toList, isResultChar c := by
  intro c hc
  rcases h.eq_or_isNumeric c hc with rfl | hn
  · rfl
  · exact isResultChar_of_isNumeric hn

theorem Token.IsWord.isResultChar (h : t.IsWord) : ∀ c ∈ t.text.toList, isResultChar c := by
  cases t with
  | number text => exact IsLiteral.isResultChar h
  | operator o =>
    rw [toList_text_of_symbol? (t := .operator o) rfl, List.forall_mem_singleton]
    cases o <;> rfl
  | opening => cases h
  | closing => cases h

theorem Rpn.isResultChar_text (h : ∀ t ∈ us, t.IsWord) :
    ∀ c ∈ (Rpn.text us).toList, isResultChar c := by
  induction us with
  | nil => exact List.forall_mem_nil _
  | cons t us ih =>
    obtain ⟨ht, h⟩ := List.forall_mem_cons.1 h
    have ht := ht.isResultChar
    cases us with
    | nil => simpa [Rpn.text] using ht
    | cons u us =>
      have hs : ∀ c ∈ " ".toList, Calculator.isResultChar c := List.all_eq_true.1 (by decide)
      have hu := ih h
      rw [Rpn.text, List.map_cons] at hu
      rw [Rpn.text, List.map_cons, List.map_cons, String.intercalate_cons_cons,
        String.toList_append, String.toList_append, List.forall_mem_append, List.forall_mem_append]
      exact ⟨⟨ht, hs⟩, hu⟩

theorem isFinite_of_calculate {source : String} {x : Binary64} (h : calculate source = .ok x) :
    x.isFinite := by
  cases h ▸ calculates source with
  | accepted ht hu hx hf => exact hf

/-- A result has characters of its own, whatever the line that it is the result of. -/
theorem isResultChar_of_resultOf (h : resultOf rpn line = .ok text) :
    ∀ c ∈ text.toList, isResultChar c := by
  cases rpn with
  | true =>
    obtain ⟨ts, us, ht, hu, rfl⟩ := exists_of_reorder h
    exact Rpn.isResultChar_text (Token.isWord_of_lex ht hu)
  | false =>
    obtain ⟨x, hx, rfl⟩ := exists_of_map_eq_ok h
    exact (Binary64.isLiteral_display (isFinite_of_calculate hx)).isResultChar

end Calculator
