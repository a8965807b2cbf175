import Calculator.Command.Run

namespace Calculator

def readFile (path : String) : IO (Except FileFault ByteArray) := do
  try
    return .ok (← IO.FS.readBinFile path)
  catch
    | .noFileOrDirectory .. => return .error .missing
    | .inappropriateType _ 21 _ => return .error .directory
    | .inappropriateType _ code details | .permissionDenied _ code details =>
      return .error (.other s!"{details} (os error {code})")
    | e => return .error (.other (toString e))

/-- Looks only at the file or the stream that a run takes its lines from. -/
def surroundings (origin : Origin) : IO Surroundings := do
  let contents ← match origin with
    | .file path => readFile path
    | _ => pure (.error .missing)
  let standardInput ← match origin with
    | .standardInput => (← IO.getStdin).readBinToEnd
    | _ => pure .empty
  return { files := fun _ => contents, standardInput, logVariable := ← IO.getEnv "RUST_LOG" }

def perform (arguments : List String) : IO UInt32 := do
  let transcript ← match Options.ofArguments arguments with
    | .ok o => o.run <$> surroundings o.origin
    | .error e => pure e.transcript
  IO.print transcript.output
  IO.eprint transcript.log
  return transcript.code.toUInt32

end Calculator

def main (arguments : List String) : IO UInt32 :=
  Calculator.perform arguments
