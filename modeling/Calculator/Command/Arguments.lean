namespace Calculator

inductive Flag where
  | file
  | rpn
  | verbose
  deriving DecidableEq, Repr

/-- What a letter after one dash, or a name after two, stands for. -/
inductive Switch where
  | flag (f : Flag)
  | help
  | version
  deriving DecidableEq, Repr

def Switch.ofLetter? : Char → Option Switch
  | 'f' => some (flag .file)
  | 'p' => some (flag .rpn)
  | 'v' => some (flag .verbose)
  | 'h' => some help
  | 'V' => some version
  | _ => none

def Switch.ofName? : String → Option Switch
  | "file" => some (flag .file)
  | "postfix" => some (flag .rpn)
  | "verbose" => some (flag .verbose)
  | "help" => some help
  | "version" => some version
  | _ => none

structure Options where
  flags : List Flag
  contents : Option String
  deriving DecidableEq, Repr

inductive Exit where
  | help
  | version
  | misuse
  deriving DecidableEq, Repr

/-- A flag may be given once; help and version end the reading. -/
def Options.switch (o : Options) : Switch → Except Exit Options
  | .flag f => if f ∈ o.flags then .error .misuse else .ok { o with flags := f :: o.flags }
  | .help => .error .help
  | .version => .error .version

def Options.letters (o : Options) : List Char → Except Exit Options
  | [] => .ok o
  | c :: cs =>
    match Switch.ofLetter? c with
    | none => .error .misuse
    | some s => do (← o.switch s).letters cs

def Options.positional (o : Options) (argument : String) : Except Exit Options :=
  match o.contents with
  | none => .ok { o with contents := some argument }
  | some _ => .error .misuse

/-- Reads the arguments from left to right; two dashes alone end the switches, and one dash alone is
no switch. -/
def Options.read (o : Options) : List String → Except Exit Options
  | [] => .ok o
  | argument :: rest =>
    match argument.toList with
    | ['-', '-'] => rest.foldlM positional o
    | '-' :: '-' :: name =>
      match Switch.ofName? (.ofList name) with
      | none => .error .misuse
      | some s => do (← o.switch s).read rest
    | '-' :: c :: cs => do (← o.letters (c :: cs)).read rest
    | _ => do (← o.positional argument).read rest

def Options.ofArguments (arguments : List String) : Except Exit Options :=
  read ⟨[], none⟩ arguments

end Calculator
