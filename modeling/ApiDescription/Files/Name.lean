import ApiDescription.Text.Split

namespace ApiDescription.Files

-- The name of a file: the folders on the way to it and the file itself, apart by slashes.

def steps (name : String) : List String := (Text.split '/' name.toList).map String.ofList

def isAbsolute (name : String) : Bool := name.toList.head? = some '/'

-- Whether a step leads nowhere.
def isIdle (step : String) : Bool := step = "" || step = "."

-- The steps that count. Only at the start does a single dot count.
def components (name : String) : List String :=
  match steps name with
  | [] => []
  | first :: rest =>
    (if first = "" then [] else [first]) ++ rest.filter fun step => !isIdle step

-- What comes after the last dot of the file itself. A dot at its start is a part of its name.
def extension? (name : String) : Option String := do
  let last ← (components name).getLast?
  if isIdle last || last = ".." then none
  else
    let reversed := last.toList.reverse
    let after := reversed.takeWhile (· ≠ '.')
    match reversed.drop after.length with
    | '.' :: _ :: _ => some (String.ofList after.reverse)
    | _ => none

-- The folder that the file is in, if the name tells it.
def folder? (name : String) : Option String :=
  let way := "/".intercalate (components name).dropLast
  if isAbsolute name then some ("/" ++ way)
  else if way = "" then none
  else some way

end ApiDescription.Files
