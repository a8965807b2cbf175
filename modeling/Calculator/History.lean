import Calculator.Log
import Calculator.Text.Lines

namespace Calculator

/-- A line that was worked on: its result text or its fault, and what happened on the way. -/
structure Entry where
  line : String
  outcome : Except Fault String
  events : List Event

def Entry.succeeded (e : Entry) : Bool :=
  match e.outcome with
  | .ok _ => true
  | .error _ => false

def shownResult : Except Fault String → String
  | .ok text => text
  | .error _ => "Error"

def historyLine (line : String) (r : Except Fault String) : String :=
  s!"{line} = {shownResult r}\n"

def Entry.text (e : Entry) : String :=
  historyLine e.line e.outcome

def Event.conclusion (line : String) : Except Fault Binary64 → Event
  | .ok x => .evaluated line x
  | .error fault => .failed line fault

def Event.warnings {α : Type} (line : String) : Except Fault α → List Event
  | .ok _ => []
  | .error fault => [.warned line fault]

def Entry.ofValue (line : String) : Entry :=
  let p := Progress.valued line
  { line
    outcome := p.outcome.map Binary64.display
    events := p.stages.flatMap Stage.events ++
      Event.conclusion line p.outcome :: Event.warnings line p.outcome }

def Entry.ofRpn (line : String) : Entry :=
  let p := Progress.ordered line
  { line
    outcome := p.outcome.map Rpn.text
    events := p.stages.flatMap Stage.events ++ Event.warnings line p.outcome }

/-- The entries of the lines that are not blank, in order. -/
def history (rpn : Bool) (lines : List String) : List Entry :=
  (nonBlank lines).map (if rpn then Entry.ofRpn else Entry.ofValue)

end Calculator
