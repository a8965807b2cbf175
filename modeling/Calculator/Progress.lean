import Calculator.Rpn
import Calculator.Token.Lexer

namespace Calculator

inductive Stage where
  | lexed (tokens : List Token)
  | ordered (tokens : List Token)
  | executed (stack : List Binary64)
  | valued (x : Binary64)
  | accepted (x : Binary64)

/-- The stages that came to their end, and the outcome of them all. -/
structure Progress (α : Type) where
  stages : List Stage
  outcome : Except Fault α

def Progress.stage {α : Type} (tell : α → Stage) (r : Except Fault α) : Progress α where
  stages := match r with
    | .ok a => [tell a]
    | .error _ => []
  outcome := r

def Progress.bind {α β : Type} (p : Progress α) (f : α → Progress β) : Progress β :=
  match p.outcome with
  | .ok a => ⟨p.stages ++ (f a).stages, (f a).outcome⟩
  | .error e => ⟨p.stages, .error e⟩

instance : Monad Progress where
  pure a := ⟨[], .ok a⟩
  bind := Progress.bind

@[simp] theorem Progress.outcome_stage {α : Type} (tell : α → Stage) (r : Except Fault α) :
    (stage tell r).outcome = r := rfl

@[simp] theorem Progress.outcome_bind {α β : Type} (p : Progress α) (f : α → Progress β) :
    (p >>= f).outcome = p.outcome >>= fun a => (f a).outcome := by
  change (Progress.bind p f).outcome = _
  rw [Progress.bind]
  cases p.outcome <;> rfl

def Progress.ordered (source : String) : Progress (List Token) := do
  let tokens ← stage .lexed ((Token.lex source).mapError .lex)
  stage .ordered ((Rpn.ofInfix tokens).mapError .order)

def Progress.valued (source : String) : Progress Binary64 := do
  let tokens ← ordered source
  let stack ← stage .executed ((Rpn.execute [] tokens).mapError .value)
  let x ← stage .valued ((Rpn.result stack).mapError .value)
  stage .accepted (x.requireFinite.mapError .value)

def calculate (source : String) : Except Fault Binary64 :=
  (Progress.valued source).outcome

/-- Lexing, ordering and evaluation one after another, with the demand for a finite value last. -/
theorem calculate_eq (source : String) :
    calculate source = (do
      let tokens ← (Token.lex source).mapError Fault.lex
      let tokens ← (Rpn.ofInfix tokens).mapError Fault.order
      let x ← (Rpn.value tokens).mapError Fault.value
      x.requireFinite.mapError Fault.value) := by
  simp only [calculate, Progress.valued, Progress.ordered, Progress.outcome_bind,
    Progress.outcome_stage, bind_assoc, Rpn.value]
  congr 1
  funext tokens
  congr 1
  funext tokens
  cases Rpn.execute [] tokens <;> rfl

/-- Tokens written one after another, a space between any two. -/
def Rpn.text (ts : List Token) : String :=
  " ".intercalate (ts.map Token.text)

/-- The postfix form of an expression, which need not have a value. -/
def reorder (source : String) : Except Fault String :=
  (Progress.ordered source).outcome.map Rpn.text

theorem reorder_eq (source : String) :
    reorder source = (do
      let tokens ← (Token.lex source).mapError Fault.lex
      let tokens ← (Rpn.ofInfix tokens).mapError Fault.order
      return Rpn.text tokens) := by
  simp only [reorder, Progress.ordered, Progress.outcome_bind, Progress.outcome_stage]
  cases Token.lex source with
  | error e => rfl
  | ok tokens =>
    change ((Rpn.ofInfix tokens).mapError Fault.order).map Rpn.text =
      (Rpn.ofInfix tokens).mapError Fault.order >>= fun tokens => .ok (Rpn.text tokens)
    cases Rpn.ofInfix tokens <;> rfl

end Calculator
