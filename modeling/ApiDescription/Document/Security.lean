import ApiDescription.Reading.Record

namespace ApiDescription

open Json (field field?)

inductive KeyLocation where
  | query
  | header
  | cookie
deriving DecidableEq, Repr

def KeyLocation.text : KeyLocation → String
  | query => "query"
  | header => "header"
  | cookie => "cookie"

def KeyLocation.names : List (String × KeyLocation) :=
  [("query", .query), ("header", .header), ("cookie", .cookie)]

-- One way to get a token.
structure OAuthFlow where
  authorizationUrl : Option String := none
  tokenUrl : Option String := none
  refreshUrl : Option String := none
  -- Names with the texts that explain them.
  scopes : Entries String := []
deriving DecidableEq, Repr

structure OAuthFlows where
  implicit : Option OAuthFlow := none
  password : Option OAuthFlow := none
  clientCredentials : Option OAuthFlow := none
  authorizationCode : Option OAuthFlow := none
deriving DecidableEq, Repr

inductive Mechanism where
  | bearer
  | basic
  | apiKey (name : String) (location : KeyLocation)
  | oauth2 (flows : OAuthFlows)
deriving DecidableEq, Repr

structure SecurityScheme where
  mechanism : Mechanism
  description : Option String := none
deriving DecidableEq, Repr

namespace OAuthFlow

def toJson (f : OAuthFlow) : Json :=
  Json.present [
    field? "authorizationUrl" f.authorizationUrl .string,
    field? "tokenUrl" f.tokenUrl .string,
    field? "refreshUrl" f.refreshUrl .string,
    field "scopes" (.object (f.scopes.mapValues .string))]

def withScope (f : OAuthFlow) (name text : String) : OAuthFlow :=
  { f with scopes := f.scopes.insert name text }

def layout : Record OAuthFlow where
  title := "struct OAuthFlow"
  fields := [
    .optional "authorizationUrl" Node.asString fun x d => { d with authorizationUrl := x },
    .optional "tokenUrl" Node.asString fun x d => { d with tokenUrl := x },
    .optional "refreshUrl" Node.asString fun x d => { d with refreshUrl := x },
    .defaulted "scopes" (Node.asMap Node.asString) fun x d => { d with scopes := x }]

def read (node : Node) : Except Fault OAuthFlow := layout.read .buffered {} node

end OAuthFlow

namespace OAuthFlows

def toJson (f : OAuthFlows) : Json :=
  Json.present [
    field? "implicit" f.implicit OAuthFlow.toJson,
    field? "password" f.password OAuthFlow.toJson,
    field? "clientCredentials" f.clientCredentials OAuthFlow.toJson,
    field? "authorizationCode" f.authorizationCode OAuthFlow.toJson]

def layout : Record OAuthFlows where
  title := "struct OAuthFlows"
  fields := [
    .optional "implicit" OAuthFlow.read fun x d => { d with implicit := x },
    .optional "password" OAuthFlow.read fun x d => { d with password := x },
    .optional "clientCredentials" OAuthFlow.read fun x d => { d with clientCredentials := x },
    .optional "authorizationCode" OAuthFlow.read fun x d => { d with authorizationCode := x }]

def read (node : Node) : Except Fault OAuthFlows := layout.read .buffered {} node

end OAuthFlows

def Mechanism.entries : Mechanism → List (Option (String × Json))
  | bearer => [field "type" (.string "http"), field "scheme" (.string "bearer"),
      field "bearerFormat" (.string "JWT")]
  | basic => [field "type" (.string "http"), field "scheme" (.string "basic")]
  | apiKey name location => [field "type" (.string "apiKey"), field "name" (.string name),
      field "in" (.string location.text)]
  | oauth2 flows => [field "type" (.string "oauth2"), field "flows" flows.toJson]

namespace SecurityScheme

def toJson (s : SecurityScheme) : Json :=
  Json.present (s.mechanism.entries ++ [field? "description" s.description .string])

def describe (text : String) (s : SecurityScheme) : SecurityScheme :=
  { s with description := some text }

inductive Kind where
  | bearer
  | basic
  | apiKey
  | oauth2
deriving DecidableEq, Repr

def Kind.names : List (String × Kind) :=
  [("bearer", .bearer), ("basic", .basic), ("apiKey", .apiKey), ("oauth2", .oauth2)]

structure Draft where
  name : Option String := none
  location : Option KeyLocation := none
  flows : Option OAuthFlows := none
  description : Option String := none

def layout (kind : Kind) : Record Draft :=
  match kind with
  | .bearer => ⟨"struct variant SecurityScheme::Bearer", [text]⟩
  | .basic => ⟨"struct variant SecurityScheme::Basic", [text]⟩
  | .apiKey => ⟨"struct variant SecurityScheme::ApiKey", [
      .required "name" Node.asString fun x d => { d with name := some x },
      .required "in" (keyword KeyLocation.names .buffered) fun x d => { d with location := some x },
      text]⟩
  | .oauth2 => ⟨"struct variant SecurityScheme::OAuth2", [
      .required "flows" OAuthFlows.read fun x d => { d with flows := some x },
      text]⟩
where
  text : Field Draft := .optional "description" Node.asString fun x d => { d with description := x }

def readKind (kind : Kind) (node : Node) : Except Fault SecurityScheme := do
  let draft ← (layout kind).read .buffered {} node
  let mechanism ← match kind with
    | .bearer => pure .bearer
    | .basic => pure .basic
    | .apiKey => do
      let name ← demand "name" draft.name
      pure (.apiKey name (← demand "in" draft.location))
    | .oauth2 => do pure (.oauth2 (← demand "flows" draft.flows))
  return { mechanism, description := draft.description }

def kindOf (node : Node) : Except Fault Kind := do variantOf Kind.names (← node.asString .variant)

-- A map with the kind at any place, or a list that begins with it.
def read (medium : Medium) : Node → Except Fault SecurityScheme
  | .list [] => .error (.missingField "kind")
  | .list (kind :: rest) => do
    let kind ← kindOf kind
    readKind kind (.list (← rest.mapM (Node.buffer medium)))
  | .map entries => do
    let (kind, rest) ← splitTag "kind" kindOf medium entries none
    readKind kind (.map rest)
  | other => .error (other.mismatch (.record "internally tagged enum SecurityScheme"))

def ofJson (value : Json) : Except Fault SecurityScheme := read .value value.node

end SecurityScheme

end ApiDescription
