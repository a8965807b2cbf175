import Calculator.Binary64

namespace Calculator

inductive Operator where
  | add
  | sub
  | mul
  | div
  deriving DecidableEq, Repr, Inhabited

inductive Associativity where
  | left
  | right
  deriving DecidableEq, Repr

def Operator.symbol : Operator → Char
  | add => '+'
  | sub => '-'
  | mul => '*'
  | div => '/'

def Operator.ofSymbol? : Char → Option Operator
  | '+' => some add
  | '-' => some sub
  | '*' => some mul
  | '/' => some div
  | _ => none

@[simp] theorem Operator.ofSymbol?_symbol (o : Operator) : ofSymbol? o.symbol = some o := by
  cases o <;> rfl

theorem Operator.symbol_of_ofSymbol? {c : Char} {o : Operator} (h : ofSymbol? c = some o) :
    o.symbol = c := by
  simp only [ofSymbol?] at h
  split at h <;> cases h <;> rfl

/-- The higher binds the tighter. -/
def Operator.precedence : Operator → Nat
  | add | sub => 1
  | mul | div => 2

def Operator.associativity (_ : Operator) : Associativity :=
  .left

/-- Whether an operator that waits for its right operand takes what has been read so far as that
operand, rather than leave it to the incoming operator. -/
def Operator.bindsFirst (waiting incoming : Operator) : Bool :=
  incoming.precedence < waiting.precedence ||
    incoming.precedence == waiting.precedence && incoming.associativity == .left

/-- The value of an operation; a quotient by zero is undefined, whatever is divided. -/
def Operator.apply : Operator → Binary64 → Binary64 → Binary64
  | add, x, y => x + y
  | sub, x, y => x - y
  | mul, x, y => x * y
  | div, x, y => if y.isZero then .nan else x / y

/-- A lexical unit; a number keeps the text it was written as. -/
inductive Token where
  | number (text : String)
  | operator (o : Operator)
  | opening
  | closing
  deriving DecidableEq, Repr, Inhabited

def Token.text : Token → String
  | number text => text
  | operator o => o.symbol.toString
  | opening => "("
  | closing => ")"

def Token.isNumber : Token → Bool
  | number _ => true
  | _ => false

def Token.isOperator : Token → Bool
  | operator _ => true
  | _ => false

def Token.isParenthesis : Token → Bool
  | opening | closing => true
  | _ => false

theorem Token.isParenthesis_eq (t : Token) : t.isParenthesis = !(t.isNumber || t.isOperator) := by
  cases t <;> rfl

def Token.beginsOperand : Token → Bool
  | number _ | opening => true
  | operator _ | closing => false

def Token.endsOperand : Token → Bool
  | number _ | closing => true
  | operator _ | opening => false

def Token.symbol? : Token → Option Char
  | number _ => none
  | operator o => some o.symbol
  | opening => some '('
  | closing => some ')'

theorem Token.toList_text_of_symbol? {t : Token} {c : Char} (h : t.symbol? = some c) :
    t.text.toList = [c] := by
  cases t <;> cases h
  · exact String.toList_singleton _
  · rfl
  · rfl

end Calculator
