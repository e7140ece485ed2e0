import ApiDescription.CommandLine.Run
import ApiDescription.Json.Printer

namespace ApiDescription.CommandLine

open Files (FileError)

def fileError : IO.Error → FileError
  | .noFileOrDirectory .. => .missing
  | .alreadyExists .. => .taken
  | .inappropriateType .. => .notFolder
  | other => .other (toString other)

def attempt (action : IO α) : IO (Except FileError α) := do
  match ← action.toBaseIO with
  | .ok value => return .ok value
  | .error error => return .error (fileError error)

instance : Files.Access IO where
  read name := attempt (IO.FS.readBinFile name)
  makeFolders name := attempt (IO.FS.createDirAll name)
  write name text := attempt (IO.FS.writeFile name text)
  print text := IO.print text

-- The line that shows an event.
def eventLine (event : Event) : String :=
  event.level.text ++ " " ++ event.message ++
    String.join (event.fields.map fun (name, value) => " " ++ name ++ "=" ++ value.compact)

end ApiDescription.CommandLine

open ApiDescription in
def main (arguments : List String) : IO UInt32 := do
  let environment : CommandLine.Environment := {
    input := ← IO.getEnv "OASGEN_INPUT"
    output := ← IO.getEnv "OASGEN_OUTPUT"
    log := ← IO.getEnv "RUST_LOG" }
  let outcome ← CommandLine.run arguments environment
  for event in outcome.shown do
    IO.eprintln (CommandLine.eventLine event)
  match outcome with
  | .refused error => IO.eprintln ("error: " ++ error.message)
  | .failed _ error => IO.eprintln ("Error: " ++ error.message)
  | _ => pure ()
  return outcome.code
