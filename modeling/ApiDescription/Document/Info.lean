import ApiDescription.Reading.Record

namespace ApiDescription

open Json (field field?)

structure Contact where
  name : Option String := none
  url : Option String := none
  email : Option String := none
deriving DecidableEq, Repr

structure License where
  name : String
  url : Option String := none
deriving DecidableEq, Repr

-- The metadata of a document.
structure Info where
  title : String
  version : String
  description : Option String := none
  termsOfService : Option String := none
  contact : Option Contact := none
  license : Option License := none
deriving DecidableEq, Repr

-- What a document shows that was given no metadata.
def Info.placeholder : Info where
  title := "oasgen : add an info object to the conversion options"
  version := "1.0.0"

namespace Contact

def toJson (c : Contact) : Json :=
  Json.present [
    field? "name" c.name .string,
    field? "url" c.url .string,
    field? "email" c.email .string]

def layout : Record Contact where
  title := "struct OpenApiContact"
  fields := [
    .optional "name" Node.asString fun x d => { d with name := x },
    .optional "url" Node.asString fun x d => { d with url := x },
    .optional "email" Node.asString fun x d => { d with email := x }]

def read (medium : Medium) (node : Node) : Except Fault Contact := layout.read medium {} node

def parts : Parts := layout.parts

end Contact

namespace License

def toJson (l : License) : Json :=
  Json.present [field "name" (.string l.name), field? "url" l.url .string]

structure Draft where
  name : Option String := none
  url : Option String := none

def layout : Record Draft where
  title := "struct OpenApiLicense"
  fields := [
    .required "name" Node.asString fun x d => { d with name := some x },
    .optional "url" Node.asString fun x d => { d with url := x }]

def read (medium : Medium) (node : Node) : Except Fault License := do
  let draft ← layout.read medium {} node
  return { name := ← demand "name" draft.name, url := draft.url }

def parts : Parts := layout.parts

end License

namespace Info

-- A contact that says nothing is left out.
def toJson (i : Info) : Json :=
  Json.present [
    field "title" (.string i.title),
    field? "description" i.description .string,
    field? "termsOfService" i.termsOfService .string,
    field? "contact" (i.contact.filter (· ≠ {})) Contact.toJson,
    field? "license" i.license License.toJson,
    field "version" (.string i.version)]

structure Draft where
  title : Option String := none
  version : Option String := none
  description : Option String := none
  termsOfService : Option String := none
  contact : Option Contact := none
  license : Option License := none

def layout (medium : Medium) : Record Draft where
  title := "struct OpenApiInfo"
  fields := [
    .required "title" Node.asString fun x d => { d with title := some x },
    .required "version" Node.asString fun x d => { d with version := some x },
    .optional "description" Node.asString fun x d => { d with description := x },
    .optional "termsOfService" Node.asString fun x d => { d with termsOfService := x },
    .optional "contact" (Contact.read medium) fun x d => { d with contact := x },
    .optional "license" (License.read medium) fun x d => { d with license := x }]

def read (medium : Medium) (node : Node) : Except Fault Info := do
  let draft ← (layout medium).read medium {} node
  return {
    title := ← demand "title" draft.title
    version := ← demand "version" draft.version
    description := draft.description
    termsOfService := draft.termsOfService
    contact := draft.contact
    license := draft.license }

def parts : Parts :=
  (layout .yaml).parts [("contact", Contact.parts), ("license", License.parts)]

def ofJson (value : Json) : Except Fault Info := read .value value.node

end Info

end ApiDescription
