namespace ApiDescription.Files

-- Why a file cannot be read or written.
inductive FileError where
  | missing
  | notFolder
  | isFolder
  | taken
  | longName
  | notText
  | other (text : String)
deriving DecidableEq, Repr

def FileError.message : FileError → String
  | missing => "No such file or directory (os error 2)"
  | notFolder => "Not a directory (os error 20)"
  | isFolder => "Is a directory (os error 21)"
  | taken => "File exists (os error 17)"
  | longName => "File name too long (os error 36)"
  | notText => "stream did not contain valid UTF-8"
  | other text => text

-- A place with files, and with a screen to print on.
class Access (m : Type → Type) where
  read (name : String) : m (Except FileError ByteArray)
  -- Creates a folder and those around it, as far as they are missing.
  makeFolders (name : String) : m (Except FileError Unit)
  -- Replaces what the file held.
  write (name : String) (text : String) : m (Except FileError Unit)
  print (text : String) : m Unit

end ApiDescription.Files
