import ApiDescription.CommandLine.Arguments
import ApiDescription.CommandLine.Filter

namespace ApiDescription.CommandLine

-- How a run ended, and which events of it are shown.
inductive Outcome where
  | refused (error : UsageError)
  | explained
  | done (shown : List Event)
  | failed (shown : List Event) (error : GenerateError)

def Outcome.code : Outcome → UInt32
  | explained | done _ => 0
  | failed .. => 1
  | refused _ => 2

def Outcome.shown : Outcome → List Event
  | done shown | failed shown _ => shown
  | refused _ | explained => []

def version : String := "oasgen-cli 0.1.0"

def help : String :=
  "Usage: oasgen [-v]... generate --input FILE [--output FILE] [--format json|yaml]"

def run [Monad m] [Files.Access m] (arguments : List String) (environment : Environment) :
    m Outcome := do
  match order arguments environment with
  | .error error => return .refused error
  | .ok .help =>
    Files.Access.print (help ++ "\n")
    return .explained
  | .ok .version =>
    Files.Access.print (version ++ "\n")
    return .explained
  | .ok (.generate request verbosity) =>
    let (events, result) ← request.execute
    let shown := events.filter (Filter.chosen environment.log verbosity).shows
    match result with
    | .ok () => return .done shown
    | .error error => return .failed shown error

end ApiDescription.CommandLine
