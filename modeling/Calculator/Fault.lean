import Calculator.Decimal

namespace Calculator

/-- Why a text does not split into tokens; positions are byte offsets. -/
inductive LexFault where
  | unsupported (found : Char) (position : Nat)
  | strayOperator (symbol : Char) (position : Nat)
  | malformedNumber (literal : String) (position : Nat)
  deriving DecidableEq

inductive OrderFault where
  | unbalanced
  deriving DecidableEq

inductive ValueFault where
  | notNumber (literal : String)
  | missingOperand (symbol : Char)
  | leftover (count : Nat)
  | parenthesis
  | notFinite (value : Binary64)
  deriving DecidableEq

inductive Fault where
  | lex (fault : LexFault)
  | order (fault : OrderFault)
  | value (fault : ValueFault)
  deriving DecidableEq

inductive FaultKind where
  | unsupportedChar
  | unexpectedOperator
  | notANumber
  | mismatchedParens
  | stackUnderflow
  | invalidExpression
  | nonFiniteResult
  deriving DecidableEq

def FaultKind.name : FaultKind → String
  | unsupportedChar => "UnsupportedChar"
  | unexpectedOperator => "UnexpectedOperator"
  | notANumber => "NotANumber"
  | mismatchedParens => "MismatchedParens"
  | stackUnderflow => "StackUnderflow"
  | invalidExpression => "InvalidExpression"
  | nonFiniteResult => "NonFiniteResult"

def LexFault.kind : LexFault → FaultKind
  | unsupported _ _ => .unsupportedChar
  | strayOperator _ _ => .unexpectedOperator
  | malformedNumber _ _ => .notANumber

def OrderFault.kind : OrderFault → FaultKind
  | unbalanced => .mismatchedParens

def ValueFault.kind : ValueFault → FaultKind
  | notNumber _ => .notANumber
  | missingOperand _ => .stackUnderflow
  | leftover _ | parenthesis => .invalidExpression
  | notFinite _ => .nonFiniteResult

def Fault.kind : Fault → FaultKind
  | lex f => f.kind
  | order f => f.kind
  | value f => f.kind

def LexFault.message : LexFault → String
  | unsupported found position =>
    s!"Error at position {position}: Unsupported character '{found}'."
  | strayOperator symbol position =>
    s!"Error at position {position}: Unexpected operator '{symbol}'."
  | malformedNumber literal position =>
    s!"Error at position {position}: Malformed number '{literal}'."

def OrderFault.message : OrderFault → String
  | unbalanced => "Mismatched parentheses."

/-- The message of a fault; a value in it keeps the sign of zero. -/
def ValueFault.message : ValueFault → String
  | notNumber literal => s!"'{literal}' is not a number."
  | missingOperand symbol => s!"Operator '{symbol}' is missing an operand."
  | leftover count =>
    s!"Invalid expression: {count} values left after evaluation, expected 1."
  | parenthesis => "Invalid expression: parenthesis in postfix input."
  | notFinite value =>
    let text := value.render .plain
    s!"Result {text} is not a finite number."

def Fault.message : Fault → String
  | lex f => f.message
  | order f => f.message
  | value f => f.message

end Calculator
