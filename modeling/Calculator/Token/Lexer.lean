import Calculator.Decimal
import Calculator.Fault
import Calculator.Token.Basic

namespace Calculator

inductive Glyph where
  | digit
  | dot
  | operator (o : Operator)
  | opening
  | closing
  | blank
  deriving DecidableEq, Repr

/-- Digits are the ASCII ones; a blank is a space, a tab or an end of line. -/
def Glyph.ofChar? (c : Char) : Option Glyph :=
  if c.isDigit then some digit
  else match c with
    | '.' => some dot
    | '(' => some opening
    | ')' => some closing
    | ' ' | '\t' | '\r' | '\n' => some blank
    | _ => (Operator.ofSymbol? c).map operator

/-- Each character's glyph with its first byte offset and the one after it. -/
def Glyph.spansFrom (position : Nat) : List Char → List (Option Glyph × Nat × Nat)
  | [] => []
  | c :: cs =>
    let next := position + c.utf8Size
    (ofChar? c, position, next) :: spansFrom next cs

def Glyph.spans (source : String) : List (Option Glyph × Nat × Nat) :=
  spansFrom 0 source.toList

/-- Where the lexer stands between two characters. -/
inductive Lexer where
  /-- At the start, after an operator or after an opening parenthesis. -/
  | operand
  /-- After a closing parenthesis. -/
  | group
  /-- Inside a literal, of which the first byte offset and the text so far are known. -/
  | literal (start : Nat) (text : String)
  deriving DecidableEq

/-- The literal that ends here, if there is one; it must denote a number. -/
def Lexer.finish : Lexer → Except LexFault (List Token)
  | literal start text =>
    if (Binary64.ofText? text).isSome then .ok [.number text]
    else .error (.malformedNumber text start)
  | _ => .ok []

def Lexer.extend (position : Nat) (c : Char) : Lexer → Lexer
  | literal start text => literal start (text.push c)
  | _ => literal position (String.singleton c)

def startsNumber (c : Char) : Bool :=
  c.isDigit || c == '.'

/-- What a character settles, given the one after it. A blank settles nothing and does not end a
literal; a minus sign where an operand is due belongs to the number right after it. -/
def Lexer.step (s : Lexer) (position : Nat) (c : Char) (next : Option Char) :
    Except LexFault (List Token × Lexer) :=
  match Glyph.ofChar? c with
  | none => .error (.unsupported c position)
  | some .blank => .ok ([], s)
  | some .digit | some .dot => .ok ([], s.extend position c)
  | some .opening => s.finish.map fun ts => (ts ++ [.opening], operand)
  | some .closing => s.finish.map fun ts => (ts ++ [.closing], group)
  | some (.operator o) =>
    if s = operand then
      if o = .sub ∧ next.any startsNumber then .ok ([], s.extend position c)
      else .error (.strayOperator c position)
    else s.finish.map fun ts => (ts ++ [.operator o], operand)

/-- The tokens of the characters from a byte offset on. -/
def Lexer.run (s : Lexer) (position : Nat) : List Char → Except LexFault (List Token)
  | [] => s.finish
  | c :: cs => do
    let (settled, s) ← s.step position c cs.head?
    let rest ← s.run (position + c.utf8Size) cs
    return settled ++ rest

def Token.lex (source : String) : Except LexFault (List Token) :=
  Lexer.operand.run 0 source.toList

end Calculator
