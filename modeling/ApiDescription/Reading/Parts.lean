import ApiDescription.Entries

namespace ApiDescription

-- Which parts of a document are read when it is read as a certain thing. The others are passed over
-- and may be anything.
inductive Parts where
  | whole
  -- Each item of a list.
  | items (each : Parts)
  -- The value of each entry of a map.
  | values (each : Parts)
  -- The values of some keys.
  | fields (known : List (String × Parts))
deriving Inhabited

namespace Parts

def ofItem : Parts → Parts
  | items each => each
  | _ => whole

-- What is read of the value of a key; nothing at all if the key has no meaning.
def ofValue? (parts : Parts) (key : String) : Option Parts :=
  match parts with
  | values each => some each
  | fields known => Entries.get? known key
  | _ => some whole

end Parts

end ApiDescription
