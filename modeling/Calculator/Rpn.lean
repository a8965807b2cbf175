import Calculator.Decimal
import Calculator.Fault
import Calculator.Token.Basic

namespace Calculator

/-- What waits while its right operand, or the closing parenthesis, is still to come. -/
inductive Waiting where
  | operator (o : Operator)
  | opening
  deriving DecidableEq, Repr

def Waiting.token : Waiting → Token
  | operator o => .operator o
  | opening => .opening

def Waiting.isOperator : Waiting → Bool
  | operator _ => true
  | opening => false

/-- An opening parenthesis shields what waits below it. -/
def Waiting.bindsFirst (incoming : Operator) : Waiting → Bool
  | operator o => o.bindsFirst incoming
  | opening => false

/-- What a token moves to the output, and what waits afterwards, the latest first. -/
def Rpn.settle (stack : List Waiting) : Token → Except OrderFault (List Token × List Waiting)
  | .number text => .ok ([.number text], stack)
  | .operator o =>
    .ok ((stack.takeWhile (·.bindsFirst o)).map Waiting.token,
      .operator o :: stack.dropWhile (·.bindsFirst o))
  | .opening => .ok ([], .opening :: stack)
  | .closing =>
    match stack.dropWhile Waiting.isOperator with
    | .opening :: rest => .ok ((stack.takeWhile Waiting.isOperator).map Waiting.token, rest)
    | _ => .error .unbalanced

/-- The output of all the tokens, and what waits after them. -/
def Rpn.run (stack : List Waiting) : List Token → Except OrderFault (List Token × List Waiting)
  | [] => .ok ([], stack)
  | t :: ts => do
    let (settled, stack) ← settle stack t
    let (rest, stack) ← run stack ts
    return (settled ++ rest, stack)

theorem Rpn.run_append (stack : List Waiting) (ts us : List Token) :
    run stack (ts ++ us) = do
      let (settled, stack) ← run stack ts
      let (rest, stack) ← run stack us
      return (settled ++ rest, stack) := by
  induction ts generalizing stack with
  | nil => exact (bind_pure (run stack us)).symm
  | cons t ts ih =>
    simp only [List.cons_append, run, ih, bind_assoc, pure_bind, List.append_assoc]

/-- At the end every operator has its operands, but no parenthesis may still be open. -/
def Rpn.finish (stack : List Waiting) : Except OrderFault (List Token) :=
  if stack.all Waiting.isOperator then .ok (stack.map Waiting.token) else .error .unbalanced

/-- Reorders infix tokens so that each operator follows its operands. -/
def Rpn.ofInfix (ts : List Token) : Except OrderFault (List Token) := do
  let (settled, stack) ← run [] ts
  let rest ← finish stack
  return settled ++ rest

def Token.bindsFirst (incoming : Operator) : Token → Bool
  | operator o => o.bindsFirst incoming
  | _ => false

/-- What a token does to a stack on which any token may wait; the type of the stack that
`Rpn.settle` works on admits only operators and opening parentheses. -/
def Rpn.Unrestricted.settle (stack : List Token) :
    Token → Except OrderFault (List Token × List Token)
  | .number text => .ok ([.number text], stack)
  | .operator o =>
    .ok (stack.takeWhile (·.bindsFirst o), .operator o :: stack.dropWhile (·.bindsFirst o))
  | .opening => .ok ([], .opening :: stack)
  | .closing =>
    match stack.dropWhile (· ≠ .opening) with
    | _ :: rest => .ok (stack.takeWhile (· ≠ .opening), rest)
    | [] => .error .unbalanced

def Rpn.Unrestricted.run (stack : List Token) :
    List Token → Except OrderFault (List Token × List Token)
  | [] => .ok ([], stack)
  | t :: ts => do
    let (settled, stack) ← settle stack t
    let (rest, stack) ← run stack ts
    return (settled ++ rest, stack)

def Rpn.Unrestricted.finish (stack : List Token) : Except OrderFault (List Token) :=
  if stack.any Token.isParenthesis then .error .unbalanced else .ok stack

def Rpn.Unrestricted.ofInfix (ts : List Token) : Except OrderFault (List Token) := do
  let (settled, stack) ← run [] ts
  let rest ← finish stack
  return settled ++ rest

/-- A number goes onto the stack; an operator takes its right operand from the top and its left one
from below, and leaves its value. -/
def Rpn.push : List Binary64 → Token → Except ValueFault (List Binary64)
  | stack, .number text =>
    match Binary64.ofText? text with
    | some x => .ok (x :: stack)
    | none => .error (.notNumber text)
  | right :: left :: stack, .operator o => .ok (o.apply left right :: stack)
  | _, .operator o => .error (.missingOperand o.symbol)
  | _, .opening | _, .closing => .error .parenthesis

def Rpn.execute (stack : List Binary64) (ts : List Token) : Except ValueFault (List Binary64) :=
  ts.foldlM push stack

theorem Rpn.execute_append (stack : List Binary64) (ts us : List Token) :
    execute stack (ts ++ us) = execute stack ts >>= fun stack => execute stack us :=
  List.foldlM_append

/-- A sequence has a value when it leaves exactly one number. -/
def Rpn.result : List Binary64 → Except ValueFault Binary64
  | [x] => .ok x
  | stack => .error (.leftover stack.length)

def Rpn.value (ts : List Token) : Except ValueFault Binary64 :=
  execute [] ts >>= result

def Binary64.requireFinite (x : Binary64) : Except ValueFault Binary64 :=
  if x.isFinite then .ok x else .error (.notFinite x)

end Calculator
