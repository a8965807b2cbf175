import Calculator.Progress
import Calculator.Text.Quoted

namespace Calculator

inductive Level where
  | error
  | warn
  | info
  | debug
  | trace
  deriving DecidableEq, Repr

/-- A less serious level has the higher rank. -/
def Level.rank : Level → Nat
  | error => 1
  | warn => 2
  | info => 3
  | debug => 4
  | trace => 5

def Level.name : Level → String
  | error => "ERROR"
  | warn => "WARN"
  | info => "INFO"
  | debug => "DEBUG"
  | trace => "TRACE"

def Level.column (l : Level) : String :=
  .ofList (.replicate (5 - l.name.length) ' ') ++ l.name

inductive Event where
  | lexed (tokens : List Token)
  | ordered (tokens : List Token)
  | executed (stack : List Binary64)
  | evaluated (source : String) (x : Binary64)
  | failed (source : String) (fault : Fault)
  | warned (line : String) (fault : Fault)

def Event.level : Event → Level
  | lexed _ | ordered _ | executed _ => .trace
  | evaluated _ _ | failed _ _ => .debug
  | warned _ _ => .warn

/-- The part of the program that tells an event, by its path. -/
def Event.target : Event → String
  | lexed _ => "reckon::interpreter::lexer"
  | ordered _ => "reckon::interpreter::converter"
  | executed _ => "reckon::interpreter::evaluator"
  | evaluated _ _ | failed _ _ | warned _ _ => "reckon"

def Operator.name : Operator → String
  | add => "Add"
  | sub => "Sub"
  | mul => "Mul"
  | div => "Div"

def Token.logText : Token → String
  | number text => s!"Number({quoted text})"
  | operator o => s!"Operator({o.name})"
  | opening => "LeftParen"
  | closing => "RightParen"

def bracketed (texts : List String) : String :=
  "[" ++ ", ".intercalate texts ++ "]"

/-- What the log says of an event; a stack is listed from its bottom. -/
def Event.text : Event → String
  | lexed tokens =>
    s!"tokenized count={tokens.length} tokens=" ++ bracketed (tokens.map Token.logText)
  | ordered tokens => "converted to postfix postfix=" ++ bracketed (tokens.map Token.logText)
  | executed stack =>
    "postfix evaluated stack=" ++ bracketed (stack.reverse.map (Binary64.render .logged))
  | evaluated source x => s!"evaluated source={quoted source} value=" ++ x.render .logged
  | failed source fault =>
    s!"evaluation failed source={quoted source} error={fault.message} kind={fault.kind.name}"
  | warned line fault => disarmed s!"{line}: {fault.message}"

def Event.line (e : Event) : String :=
  s!"{e.level.column} {e.text}\n"

def Stage.events : Stage → List Event
  | lexed tokens => [.lexed tokens]
  | ordered tokens => [.ordered tokens]
  | executed stack => [.executed stack]
  | valued _ | accepted _ => []

abbrev LogFilter := Event → Bool

/-- The least serious level that is shown, if any is. -/
abbrev Threshold := Option Level

def Threshold.shows (t : Threshold) (l : Level) : Bool :=
  t.any fun least => l.rank ≤ least.rank

def Threshold.filter (t : Threshold) : LogFilter :=
  fun e => t.shows e.level

/-- The names of the thresholds, of which a rank is one too. -/
def Threshold.names : List (String × Threshold) :=
  [("off", none), ("0", none), ("error", some .error), ("1", some .error), ("warn", some .warn),
    ("2", some .warn), ("info", some .info), ("3", some .info), ("debug", some .debug),
    ("4", some .debug), ("trace", some .trace), ("5", some .trace)]

def Threshold.ofText? (s : String) : Option Threshold :=
  names.lookup (s.map Char.toLower)

/-- A threshold for the events whose target begins with a text. -/
structure Directive where
  target : String
  threshold : Threshold

def isTarget (s : String) : Bool :=
  s ≠ "" && s.toList.all fun c => c.isAlphanum || c == ':' || c == '_' || c == '-'

def splitText (sep : Char) (s : String) : List String :=
  (s.toList.splitOn sep).map String.ofList

/-- A threshold for every target, or a target with its threshold after an equals sign. Of a target
with no threshold everything is shown. -/
def Directive.ofText? (s : String) : Option Directive :=
  match Threshold.ofText? s, splitText '=' s with
  | some t, _ => some ⟨"", t⟩
  | none, [target] | none, [target, ""] =>
    if isTarget target then some ⟨target, some .trace⟩ else none
  | none, [target, level] =>
    if isTarget target then (Threshold.ofText? level).map (⟨target, ·⟩) else none
  | none, _ => none

def Directive.covers (d : Directive) (e : Event) : Bool :=
  d.target.toList.isPrefixOf e.target.toList

/-- The directive with the longest target, of two with one target the later. -/
def Directive.decisive? (ds : List Directive) (e : Event) : Option Directive :=
  (ds.filter (·.covers e)).foldl (fun best d =>
    if best.all (·.target.length ≤ d.target.length) then some d else best) none

def LogFilter.ofDirectives (ds : List Directive) : LogFilter :=
  fun e => (Directive.decisive? ds e).any fun d => d.threshold.shows e.level

/-- Reads directives with commas between them. -/
def LogFilter.ofText? (s : String) : Option LogFilter :=
  (((splitText ',' s).filter (· ≠ "")).mapM Directive.ofText?).map ofDirectives

section
variable {s : String} {t : Threshold}

theorem Threshold.mem_names (h : ofText? s = some t) : (s.map Char.toLower, t) ∈ names := by
  obtain ⟨before, after, he, -⟩ := List.lookup_eq_some_iff.1 h
  rw [he]
  exact List.mem_append_right before List.mem_cons_self

theorem Threshold.comma_not_mem (h : ofText? s = some t) : ',' ∉ s.toList := by
  have hn : ∀ p ∈ names, ',' ∉ p.1.toList := by decide
  intro hc
  apply hn _ (mem_names h)
  rw [String.toList_map]
  exact List.mem_map.2 ⟨',', hc, rfl⟩

theorem Threshold.ne_empty (h : ofText? s = some t) : s ≠ "" := by
  have hn : ofText? "" = none := by decide +kernel
  rintro rfl
  cases hn.symm.trans h

/-- The directive that is a threshold alone, for every target. -/
theorem LogFilter.ofText?_threshold (h : Threshold.ofText? s = some t) :
    ofText? s = some t.filter := by
  have hs : splitText ',' s = [s] := by
    rw [splitText, List.splitOn_eq_singleton (Threshold.comma_not_mem h), List.map_singleton,
      String.ofList_toList]
  have hd : Directive.ofText? s = some ⟨"", t⟩ := by
    simp only [Directive.ofText?, h]
  have hn : [s].filter (· ≠ "") = [s] := by
    simp [Threshold.ne_empty h]
  rw [ofText?, hs, hn, List.mapM_cons, hd]
  rfl

end

/-- A way to read log settings, which can refuse a setting. A threshold it has to understand. -/
structure LogReader where
  read : String → Option LogFilter
  read_threshold : ∀ {text : String} {t : Threshold}, Threshold.ofText? text = some t →
    read text = some t.filter

/-- Understands the directives that ask for neither spans nor fields. -/
def LogReader.directives : LogReader where
  read := LogFilter.ofText?
  read_threshold := LogFilter.ofText?_threshold

def logText (shown : LogFilter) (events : List Event) : String :=
  String.join ((events.filter shown).map Event.line)

end Calculator
