import ApiDescription.Files.Access
import ApiDescription.Files.Name

namespace ApiDescription.Files

-- The folders from the outermost one down, and the file at the end of them.
abbrev Place := List String

inductive Item where
  | folder
  | file (content : ByteArray)

-- All files and folders, each by its place, and the folder where names without a slash at their
-- start begin. The outermost folder is always there.
structure Store where
  items : List (Place × Item) := []
  here : Place := []

namespace Store

def at? (s : Store) (place : Place) : Option Item :=
  if place = [] then some .folder else s.items.lookup place

def put (s : Store) (place : Place) (item : Item) : Store :=
  { s with items := (place, item) :: s.items.filter fun entry => entry.1 ≠ place }

def start (s : Store) (name : String) : Place := if isAbsolute name then [] else s.here

-- How many bytes the name of one file or folder can have.
def nameLimit : Nat := 255

-- The place where one step leads; only folders have steps out of them.
def step (s : Store) (place : Place) (name : String) : Except FileError Place :=
  match s.at? place with
  | none => .error .missing
  | some (.file _) => .error .notFolder
  | some .folder =>
    if nameLimit < name.utf8ByteSize then .error .longName
    else if isIdle name then .ok place
    else .ok (if name = ".." then place.dropLast else place ++ [name])

def walk (s : Store) (place : Place) (names : List String) : Except FileError Place :=
  names.foldlM s.step place

def read (s : Store) (name : String) : Except FileError ByteArray := do
  if name = "" then .error .missing
  else match s.at? (← s.walk (s.start name) (steps name)) with
    | none => .error .missing
    | some .folder => .error .isFolder
    | some (.file content) => .ok content

-- Follows the steps and creates each folder that is not there.
def makeFoldersFrom (place : Place) : List String → Store → Except FileError Unit × Store
  | [], s =>
    match s.at? place with
    | none => (.ok (), s.put place .folder)
    | some .folder => (.ok (), s)
    | some (.file _) => (.error .taken, s)
  | name :: rest, s =>
    let s := if (s.at? place).isNone then s.put place .folder else s
    match s.step place name with
    | .error error => (.error error, s)
    | .ok next => makeFoldersFrom next rest s

def makeFolders (s : Store) (name : String) : Except FileError Unit × Store :=
  makeFoldersFrom (s.start name) (steps name) s

-- A name that says that it is a folder is no name of a file to write.
def write (s : Store) (name : String) (content : ByteArray) : Except FileError Store := do
  let names := steps name
  let last := names.getLast?.getD ""
  if name = "" then .error .missing
  else if last = "" then .error .isFolder
  else
    let folder ← s.walk (s.start name) names.dropLast
    let place ← s.step folder last
    if last = "." || last = ".." then .error .isFolder
    else match s.at? place with
      | some .folder => .error .isFolder
      | _ => .ok (s.put place (.file content))

end Store

-- Files, and what was printed so far.
structure World where
  store : Store
  printed : String := ""

instance : Access (StateM World) where
  read name := do return (← get).store.read name
  makeFolders name := modifyGet fun w =>
    let (result, store) := w.store.makeFolders name
    (result, { w with store })
  write name text := modifyGet fun w =>
    match w.store.write name text.toUTF8 with
    | .ok store => (.ok (), { w with store })
    | .error error => (.error error, w)
  print text := modify fun w => { w with printed := w.printed ++ text }

end ApiDescription.Files
