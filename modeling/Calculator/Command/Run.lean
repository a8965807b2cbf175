import Calculator.Command.Arguments
import Calculator.History
import Calculator.Log

namespace Calculator

inductive FileFault where
  | missing
  | directory
  | undecodable
  | other (reason : String)
  deriving DecidableEq, Repr

def FileFault.message : FileFault → String
  | missing => "No such file or directory (os error 2)"
  | directory => "Is a directory (os error 21)"
  | undecodable => "stream did not contain valid UTF-8"
  | other reason => reason

inductive Origin where
  | expression (text : String)
  | file (path : String)
  | standardInput
  deriving DecidableEq, Repr

def Options.origin (o : Options) : Origin :=
  match o.contents with
  | none => .standardInput
  | some text => if .file ∈ o.flags then .file text else .expression text

/-- What a run finds around it. How a log setting is to be read is not up to the program. -/
structure Surroundings where
  files : String → Except FileFault ByteArray
  standardInput : ByteArray
  logVariable : Option String
  logReader : LogReader := .directives

structure Transcript where
  code : Nat
  output : String
  log : String
  deriving DecidableEq, Repr

def Surroundings.textOf (s : Surroundings) (path : String) : Except FileFault String := do
  match String.fromUTF8? (← s.files path) with
  | some text => .ok text
  | none => .error .undecodable

def Origin.lines (s : Surroundings) : Origin → Except String (List String)
  | expression text => .ok [text]
  | file path =>
    match s.textOf path with
    | .ok text => .ok (linesOfText text)
    | .error fault => .error s!"Failed to read the input file '{path}': {fault.message}\n"
  | standardInput => .ok (linesOfStream s.standardInput)

/-- The history of the entries, with what the log shows of their events; the code is zero if every
entry succeeded. -/
def Transcript.ofEntries (shown : LogFilter) (entries : List Entry) : Transcript where
  code := if entries.all Entry.succeeded then 0 else 1
  output := String.join (entries.map Entry.text)
  log := logText shown (entries.flatMap Entry.events)

/-- What the environment asks the log to show, if it asks for anything that can be read. -/
def Surroundings.logFilter? (s : Surroundings) : Option LogFilter :=
  s.logVariable.bind s.logReader.read

/-- Warnings are shown, and what is for debugging too if the user wants to see more. -/
def Options.threshold (o : Options) : Threshold :=
  some (if .verbose ∈ o.flags then .debug else .warn)

/-- The environment wins over the options. -/
def Options.logFilter (o : Options) (s : Surroundings) : LogFilter :=
  s.logFilter?.getD o.threshold.filter

/-- Works through every line, whatever became of those before it. -/
def Options.run (o : Options) (s : Surroundings) : Transcript :=
  match o.origin.lines s with
  | .ok lines => .ofEntries (o.logFilter s) (history (.rpn ∈ o.flags) lines)
  | .error message => ⟨1, "", message⟩

def helpText : String :=
"A safe arithmetic expression evaluator built on a shunting-yard parser.

Usage: reckon [OPTIONS] [CONTENTS]

Arguments:
  [CONTENTS]  The expression, or the file path with `--file`. Expressions are read from standard input when omitted

Options:
  -f, --file     Tells reckon to read expressions from a file, one per line, instead of taking a single expression
  -p, --postfix  Prints the postfix (Reverse Polish) form instead of the value
  -v, --verbose  Logs each evaluation at debug level. `RUST_LOG` takes precedence
  -h, --help     Print help
  -V, --version  Print version
"

def versionText : String :=
  "reckon 0.1.0\n"

/-- What is said when no run starts, but for the explanation of a misuse. -/
def Exit.transcript : Exit → Transcript
  | help => ⟨0, helpText, ""⟩
  | version => ⟨0, versionText, ""⟩
  | misuse => ⟨2, "", ""⟩

def respond (arguments : List String) (s : Surroundings) : Transcript :=
  match Options.ofArguments arguments with
  | .ok o => o.run s
  | .error e => e.transcript

end Calculator
