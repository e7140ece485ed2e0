import ApiDescription.Definition.Reading
import ApiDescription.Files.Access
import ApiDescription.Json.Printer
import ApiDescription.Yaml.Printer

namespace ApiDescription

inductive Format where
  | json
  | yaml
deriving DecidableEq, Repr

def Format.names : List (String × Format) := [("json", .json), ("yaml", .yaml)]

def Format.text (document : Document) : Format → String
  | json => document.value.prettyText
  | yaml => Yaml.print document.value

-- Which document to make and where to put it.
structure Request where
  input : String
  output : Option String := none
  format : Option Format := none
deriving DecidableEq, Repr

-- The format that was asked for, or the one that the name of the output suggests.
def Request.chosenFormat (r : Request) : Format :=
  match r.format with
  | some format => format
  | none =>
    match r.output.bind Files.extension? with
    | some "yaml" | some "yml" => .yaml
    | _ => .json

inductive GenerateError where
  | file (error : Files.FileError)
  | definition (error : DefinitionError)
  | outline (error : OutlineError)
deriving DecidableEq, Repr

def GenerateError.message : GenerateError → String
  | file error => "IO Error: " ++ error.message
  | definition error => error.message
  | outline error => error.message

namespace Request

-- The document that a definition file describes, and what is told on the way.
def render (r : Request) (content : ByteArray) : List Event × Except GenerateError String :=
  match String.fromUTF8? content with
  | none => ([], .error (.file .notText))
  | some text =>
    match Definition.parse r.input text with
    | .error error => ([], .error (.definition error))
    | .ok definition =>
      match definition.document with
      | .error error => (definition.groupEvents, .error (.outline error))
      | .ok (document, events) =>
        (definition.groupEvents ++ events, .ok (r.chosenFormat.text document))

-- Writes a text to a file, and makes the folders that the file's name needs.
def save [Monad m] [Files.Access m] (name text : String) : m (Except Files.FileError Unit) := do
  match Files.folder? name with
  | none => Files.Access.write name text
  | some folder =>
    match ← Files.Access.makeFolders folder with
    | .error error => return .error error
    | .ok () => Files.Access.write name text

-- Makes the document and only then puts it where it belongs.
def execute [Monad m] [Files.Access m] (r : Request) :
    m (List Event × Except GenerateError Unit) := do
  match ← Files.Access.read r.input with
  | .error error => return ([], .error (.file error))
  | .ok content =>
    match r.render content with
    | (events, .error error) => return (events, .error error)
    | (events, .ok text) =>
      match r.output with
      | none =>
        Files.Access.print (text ++ "\n")
        return (events, .ok ())
      | some name =>
        match ← save name text with
        | .error error => return (events, .error (.file error))
        | .ok () => return (events ++ [.saved r.input name], .ok ())

end Request

end ApiDescription
