import RecordQuery.Command.Run

/-!
# The command

Reads the arguments and the input, writes the report and ends with its status.
-/

open RecordQuery RecordQuery.Command

/-- Reads all lines of a stream. -/
partial def readAll (stream : IO.FS.Stream) (text : String) : IO String := do
  let line ← stream.getLine
  if line.isEmpty then return text else readAll stream (text ++ line)

/-- Reads a text that an invocation asks for; at a terminal there is nothing to read. -/
def readSource (source : Arguments.Source) : IO (Except String (Option String)) := do
  try
    match source with
    | .inline text => return .ok (some text)
    | .file path => return .ok (some (← IO.FS.readFile path))
    | .standardInput =>
      let stdin ← IO.getStdin
      if ← stdin.isTty then return .ok none
      return .ok (some (← readAll stdin ""))
  catch e => return .error ("IO error: " ++ toString e)

/-- Runs the command. -/
def main (arguments : List String) : IO UInt32 := do
  let source := match Arguments.readArguments arguments with
    | .run invocation => sourceOf? invocation
    | _ => none
  let input ← match source with
    | some source => readSource source
    | none => pure (.ok none)
  let result := report (fun _ => input) arguments
  IO.print result.output
  IO.eprint result.complaint
  return UInt32.ofNat result.status
