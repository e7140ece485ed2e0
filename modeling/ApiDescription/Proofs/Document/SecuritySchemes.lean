import ApiDescription.Document.Security
import ApiDescription.Proofs.Json
import Mathlib.Logic.Equiv.Basic

namespace ApiDescription

namespace Json

-- A relation between values that cannot tell them apart: neither can it tell apart what they have
-- under any key. It does tell texts apart.
structure Likeness (r : Json → Json → Prop) : Prop where
  get? : ∀ {as bs : Entries Json}, as.Distinct → r (object as) (object bs) →
    ∀ key, Option.Rel r (as.get? key) (bs.get? key)
  string : ∀ {s t : String}, r (string s) (string t) → s = t

theorem likeness_eq : Likeness fun a b => a = b := by
  refine ⟨fun {as bs} _ h key => ?_, fun h => Json.string.inj h⟩
  cases h
  cases as.get? key with
  | none => exact .none
  | some value => exact .some rfl

theorem likeness_same : Likeness fun a b => same a b = true :=
  ⟨get?_of_same, fun h => of_decide_eq_true h⟩

theorem Likeness.text {r : Json → Json → Prop} (h : Likeness r) {s t : Option String}
    (hr : Option.Rel r (s.map .string) (t.map .string)) : s = t := by
  cases s with
  | none => cases t with
    | none => rfl
    | some t => cases hr
  | some s => cases t with
    | none => cases hr
    | some t =>
      cases hr with
      | some hr => rw [h.string hr]

end Json

-- The ways to get a token, each of which may have a flow of its own.
inductive Grant where
  | implicit
  | password
  | clientCredentials
  | authorizationCode
deriving DecidableEq

def Grant.text : Grant → String
  | implicit => "implicit"
  | password => "password"
  | clientCredentials => "clientCredentials"
  | authorizationCode => "authorizationCode"

-- What an address of a flow is for.
inductive Purpose where
  | authorization
  | token
  | refresh
deriving DecidableEq

def Purpose.text : Purpose → String
  | authorization => "authorizationUrl"
  | token => "tokenUrl"
  | refresh => "refreshUrl"

namespace OAuthFlow

def url? (f : OAuthFlow) : Purpose → Option String
  | .authorization => f.authorizationUrl
  | .token => f.tokenUrl
  | .refresh => f.refreshUrl

-- The same addresses for other purposes.
def rearranged (purpose : Purpose → Purpose) (f : OAuthFlow) : OAuthFlow where
  authorizationUrl := f.url? (purpose .authorization)
  tokenUrl := f.url? (purpose .token)
  refreshUrl := f.url? (purpose .refresh)
  scopes := f.scopes

theorem url?_rearranged (purpose : Purpose → Purpose) (f : OAuthFlow) (p : Purpose) :
    (f.rearranged purpose).url? p = f.url? (purpose p) := by cases p <;> rfl

theorem get?_toJson_url (f : OAuthFlow) (p : Purpose) :
    f.toJson.get? p.text = (f.url? p).map .string := by
  cases p <;> simp [toJson, Purpose.text, url?]

theorem get?_toJson_scopes (f : OAuthFlow) :
    f.toJson.get? "scopes" = some (.object (f.scopes.mapValues .string)) := by simp [toJson]

theorem distinct_toJson (f : OAuthFlow) : f.toJson.entries.Distinct := by
  have hkeys := Json.keys_filterMap_field? (Json.keys_filterMap_field? (Json.keys_filterMap_field?
    (Json.keys_filterMap_field Json.keys_filterMap_nil "scopes"
      (.object (f.scopes.mapValues .string))) "refreshUrl" f.refreshUrl .string)
    "tokenUrl" f.tokenUrl .string) "authorizationUrl" f.authorizationUrl .string
  exact Json.distinct_of_keys hkeys (by decide)

-- Whether two flows have the same addresses, and scopes that are related.
structure Agree (r : Entries String → Entries String → Prop) (a b : OAuthFlow) : Prop where
  url? : ∀ p, a.url? p = b.url? p
  scopes : r a.scopes b.scopes

end OAuthFlow

namespace OAuthFlows

def get? (f : OAuthFlows) : Grant → Option OAuthFlow
  | .implicit => f.implicit
  | .password => f.password
  | .clientCredentials => f.clientCredentials
  | .authorizationCode => f.authorizationCode

def ofGrants (flow? : Grant → Option OAuthFlow) : OAuthFlows where
  implicit := flow? .implicit
  password := flow? .password
  clientCredentials := flow? .clientCredentials
  authorizationCode := flow? .authorizationCode

theorem get?_ofGrants (flow? : Grant → Option OAuthFlow) (grant : Grant) :
    (ofGrants flow?).get? grant = flow? grant := by cases grant <;> rfl

theorem ext_get? {a b : OAuthFlows} (h : ∀ grant, a.get? grant = b.get? grant) : a = b := by
  obtain ⟨_, _, _, _⟩ := a
  obtain ⟨_, _, _, _⟩ := b
  congr
  exacts [h .implicit, h .password, h .clientCredentials, h .authorizationCode]

theorem get?_toJson (f : OAuthFlows) (grant : Grant) :
    f.toJson.get? grant.text = (f.get? grant).map OAuthFlow.toJson := by
  cases grant <;> simp [toJson, Grant.text, get?]

theorem distinct_toJson (f : OAuthFlows) : f.toJson.entries.Distinct := by
  have hkeys := Json.keys_filterMap_field? (Json.keys_filterMap_field? (Json.keys_filterMap_field?
    (Json.keys_filterMap_field? Json.keys_filterMap_nil "authorizationCode" f.authorizationCode
      OAuthFlow.toJson) "clientCredentials" f.clientCredentials OAuthFlow.toJson)
    "password" f.password OAuthFlow.toJson) "implicit" f.implicit OAuthFlow.toJson
  exact Json.distinct_of_keys hkeys (by decide)

-- The same flows for other ways to get a token.
def rearranged (grant : Grant → Grant) (f : OAuthFlows) : OAuthFlows :=
  ofGrants fun g => f.get? (grant g)

theorem get?_rearranged (grant : Grant → Grant) (f : OAuthFlows) (g : Grant) :
    (f.rearranged grant).get? g = f.get? (grant g) := get?_ofGrants ..

def Agree (r : Entries String → Entries String → Prop) (a b : OAuthFlows) : Prop :=
  ∀ grant, Option.Rel (OAuthFlow.Agree r) (a.get? grant) (b.get? grant)

end OAuthFlows

theorem KeyLocation.text_injective : Function.Injective text := by
  intro a b h
  cases a <;> cases b <;> simp_all [text]

namespace Mechanism

def typeName : Mechanism → String
  | bearer | basic => "http"
  | apiKey .. => "apiKey"
  | oauth2 _ => "oauth2"

def scheme? : Mechanism → Option String
  | bearer => some "bearer"
  | basic => some "basic"
  | apiKey .. | oauth2 _ => none

inductive Agree (r : Entries String → Entries String → Prop) : Mechanism → Mechanism → Prop where
  | bearer : Agree r .bearer .bearer
  | basic : Agree r .basic .basic
  | apiKey (name : String) (location : KeyLocation) :
    Agree r (.apiKey name location) (.apiKey name location)
  | oauth2 {a b : OAuthFlows} : a.Agree r b → Agree r (.oauth2 a) (.oauth2 b)

end Mechanism

namespace SecurityScheme

structure Agree (r : Entries String → Entries String → Prop) (a b : SecurityScheme) : Prop where
  mechanism : a.mechanism.Agree r b.mechanism
  description : a.description = b.description

theorem get?_toJson_type (s : SecurityScheme) :
    s.toJson.get? "type" = some (.string s.mechanism.typeName) := by
  obtain ⟨mechanism, text⟩ := s
  cases mechanism <;> simp [toJson, Mechanism.entries, Mechanism.typeName]

theorem get?_toJson_scheme (s : SecurityScheme) :
    s.toJson.get? "scheme" = s.mechanism.scheme?.map .string := by
  obtain ⟨mechanism, text⟩ := s
  cases mechanism <;> simp [toJson, Mechanism.entries, Mechanism.scheme?]

theorem get?_toJson_description (s : SecurityScheme) :
    s.toJson.get? "description" = s.description.map .string := by
  obtain ⟨mechanism, text⟩ := s
  cases mechanism <;> simp [toJson, Mechanism.entries]

theorem distinct_toJson (s : SecurityScheme) : s.toJson.entries.Distinct := by
  have htext := Json.keys_filterMap_field? Json.keys_filterMap_nil "description" s.description
    .string
  obtain ⟨mechanism, text⟩ := s
  cases mechanism with
  | bearer =>
    have hkeys := Json.keys_filterMap_field (Json.keys_filterMap_field (Json.keys_filterMap_field
      htext "bearerFormat" (.string "JWT")) "scheme" (.string "bearer")) "type" (.string "http")
    exact Json.distinct_of_keys hkeys (by decide)
  | basic =>
    have hkeys := Json.keys_filterMap_field (Json.keys_filterMap_field htext
      "scheme" (.string "basic")) "type" (.string "http")
    exact Json.distinct_of_keys hkeys (by decide)
  | apiKey name location =>
    have hkeys := Json.keys_filterMap_field (Json.keys_filterMap_field (Json.keys_filterMap_field
      htext "in" (.string location.text)) "name" (.string name)) "type" (.string "apiKey")
    exact Json.distinct_of_keys hkeys (by decide)
  | oauth2 flows =>
    have hkeys := Json.keys_filterMap_field (Json.keys_filterMap_field htext "flows" flows.toJson)
      "type" (.string "oauth2")
    exact Json.distinct_of_keys hkeys (by decide)

end SecurityScheme

-- Scopes between whose renderings a relation cannot tell.
def ScopesShownBy (r : Json → Json → Prop) (s t : Entries String) : Prop :=
  r (.object (s.mapValues .string)) (.object (t.mapValues .string))

section

variable {r : Json → Json → Prop} (h : Json.Likeness r)

include h

theorem OAuthFlow.agree_of_toJson {a b : OAuthFlow} (hr : r a.toJson b.toJson) :
    a.Agree (ScopesShownBy r) b := by
  have hkey : ∀ key, Option.Rel r (a.toJson.get? key) (b.toJson.get? key) :=
    h.get? a.distinct_toJson hr
  refine ⟨fun p => ?_, ?_⟩
  · apply h.text
    rw [← get?_toJson_url, ← get?_toJson_url]
    exact hkey p.text
  · have hscopes := hkey "scopes"
    rw [get?_toJson_scopes, get?_toJson_scopes] at hscopes
    cases hscopes with
    | some hscopes => exact hscopes

theorem OAuthFlows.agree_of_toJson {a b : OAuthFlows} (hr : r a.toJson b.toJson) :
    a.Agree (ScopesShownBy r) b := by
  intro grant
  have hflow : Option.Rel r (a.toJson.get? grant.text) (b.toJson.get? grant.text) :=
    h.get? a.distinct_toJson hr grant.text
  rw [get?_toJson, get?_toJson] at hflow
  cases ha : a.get? grant <;> cases hb : b.get? grant <;> rw [ha, hb] at hflow <;> cases hflow
  case none.none.none => exact .none
  case some.some.some hflow => exact .some (OAuthFlow.agree_of_toJson h hflow)

-- The type tells three mechanisms from each other, and what is called the scheme tells the two that
-- share a type.
theorem SecurityScheme.agree_of_toJson {a b : SecurityScheme} (hr : r a.toJson b.toJson) :
    a.Agree (ScopesShownBy r) b := by
  have hkey : ∀ key, Option.Rel r (a.toJson.get? key) (b.toJson.get? key) :=
    h.get? a.distinct_toJson hr
  have htext : ∀ (key : String) {s t : Option String}, a.toJson.get? key = s.map .string →
      b.toJson.get? key = t.map .string → s = t := by
    intro key s t hs ht
    apply h.text
    rw [← hs, ← ht]
    exact hkey key
  have htype := htext "type" (s := some _) (t := some _) a.get?_toJson_type b.get?_toJson_type
  have hscheme := htext "scheme" a.get?_toJson_scheme b.get?_toJson_scheme
  refine ⟨?_, htext "description" a.get?_toJson_description b.get?_toJson_description⟩
  obtain ⟨amechanism, atext⟩ := a
  obtain ⟨bmechanism, btext⟩ := b
  cases amechanism <;> cases bmechanism <;>
    simp only [Mechanism.typeName, Mechanism.scheme?, Option.some.injEq, String.reduceEq]
      at htype hscheme
  case bearer.bearer => exact .bearer
  case basic.basic => exact .basic
  case apiKey.apiKey name location other place =>
    have hname := htext "name" (s := some name) (t := some other)
      (by simp [toJson, Mechanism.entries]) (by simp [toJson, Mechanism.entries])
    have hlocation := htext "in" (s := some location.text) (t := some place.text)
      (by simp [toJson, Mechanism.entries]) (by simp [toJson, Mechanism.entries])
    cases hname
    cases KeyLocation.text_injective (Option.some.inj hlocation)
    exact .apiKey name location
  case oauth2.oauth2 flows others =>
    have hflows : Option.Rel r (some flows.toJson) (some others.toJson) := by
      simpa [toJson, Mechanism.entries] using hkey "flows"
    cases hflows with
    | some hflows => exact .oauth2 (OAuthFlows.agree_of_toJson h hflows)

end

-- Scopes are written in their order, which is seen in what is written.
theorem eq_of_scopesShownBy_eq {s t : Entries String}
    (h : ScopesShownBy (fun a b => a = b) s t) : s = t := by
  have hinjective : Function.Injective fun entry : String × String =>
      (entry.1, Json.string entry.2) := by
    rintro ⟨_, _⟩ ⟨_, _⟩ he
    cases he
    rfl
  exact List.map_injective_iff.mpr hinjective (Json.object.inj h)

-- Scopes that are equal but for their order.
def SameScopes (s t : Entries String) : Prop := ∀ name, s.get? name = t.get? name

theorem sameScopes_of_scopesShownBy_same {s t : Entries String} (hd : s.Distinct)
    (h : ScopesShownBy (fun a b => Json.same a b = true) s t) : SameScopes s t := by
  intro name
  have hshown : (s.mapValues Json.string).Distinct := by
    rw [Entries.Distinct, Entries.keys_mapValues]
    exact hd
  have hname := Json.get?_of_same hshown h name
  rw [Entries.get?_mapValues, Entries.get?_mapValues] at hname
  exact Json.likeness_same.text hname

theorem OAuthFlow.eq_of_agree {a b : OAuthFlow}
    (h : a.Agree (ScopesShownBy fun x y => x = y) b) : a = b := by
  have hscopes := eq_of_scopesShownBy_eq h.scopes
  obtain ⟨_, _, _, _⟩ := a
  obtain ⟨_, _, _, _⟩ := b
  congr
  exacts [h.url? .authorization, h.url? .token, h.url? .refresh]

theorem OAuthFlows.eq_of_agree {a b : OAuthFlows}
    (h : a.Agree (ScopesShownBy fun x y => x = y) b) : a = b := by
  apply ext_get?
  intro grant
  have hflow := h grant
  generalize a.get? grant = flow, b.get? grant = other at hflow ⊢
  cases hflow with
  | none => rfl
  | some hflow => rw [OAuthFlow.eq_of_agree hflow]

theorem OAuthFlows.Agree.imp {r q : Entries String → Entries String → Prop} {a b : OAuthFlows}
    (h : a.Agree r b)
    (hq : ∀ grant flow, a.get? grant = some flow → ∀ t, r flow.scopes t → q flow.scopes t) :
    a.Agree q b := by
  intro grant
  have hflow := h grant
  have hscopes := hq grant
  generalize a.get? grant = flow, b.get? grant = other at hflow hscopes ⊢
  cases hflow with
  | none => exact .none
  | some hflow => exact .some ⟨hflow.url?, hscopes _ rfl _ hflow.scopes⟩

namespace SecurityScheme

def flow? (s : SecurityScheme) (grant : Grant) : Option OAuthFlow :=
  match s.mechanism with
  | .oauth2 flows => flows.get? grant
  | _ => none

theorem Agree.flow? {r : Entries String → Entries String → Prop} {a b : SecurityScheme}
    (h : a.Agree r b) (grant : Grant) :
    Option.Rel (OAuthFlow.Agree r) (a.flow? grant) (b.flow? grant) := by
  obtain ⟨amechanism, atext⟩ := a
  obtain ⟨bmechanism, btext⟩ := b
  obtain ⟨hmechanism, -⟩ := h
  cases hmechanism with
  | bearer | basic | apiKey => exact .none
  | oauth2 hflows => exact hflows grant

theorem toJson_injective : Function.Injective toJson := by
  intro a b h
  obtain ⟨amechanism, atext⟩ := a
  obtain ⟨bmechanism, btext⟩ := b
  obtain ⟨hmechanism, rfl⟩ := agree_of_toJson Json.likeness_eq h
  cases hmechanism with
  | bearer | basic | apiKey => rfl
  | oauth2 hflows => rw [OAuthFlows.eq_of_agree hflows]

theorem agree_of_same {a b : SecurityScheme}
    (hd : ∀ grant flow, a.flow? grant = some flow → flow.scopes.Distinct)
    (h : a.toJson.same b.toJson = true) : a.Agree SameScopes b := by
  obtain ⟨amechanism, atext⟩ := a
  obtain ⟨bmechanism, btext⟩ := b
  obtain ⟨hmechanism, htext⟩ := agree_of_toJson Json.likeness_same h
  refine ⟨?_, htext⟩
  cases hmechanism with
  | bearer => exact .bearer
  | basic => exact .basic
  | apiKey name location => exact .apiKey name location
  | oauth2 hflows =>
    exact .oauth2 (hflows.imp fun grant flow hflow t =>
      sameScopes_of_scopesShownBy_same (hd grant flow hflow))

-- A flow without anything in it is seen, and so is what an address is for.
theorem not_same_of_flow?_eq_none {a b : SecurityScheme} {grant : Grant} {flow : OAuthFlow}
    (ha : a.flow? grant = none) (hb : b.flow? grant = some flow) :
    ¬a.toJson.same b.toJson = true := by
  intro h
  have hflow := (agree_of_toJson Json.likeness_same h).flow? grant
  rw [ha, hb] at hflow
  cases hflow

theorem not_same_of_rearranged {a b : SecurityScheme} {grant : Grant} {flow : OAuthFlow}
    {purpose : Purpose → Purpose} (ha : a.flow? grant = some flow)
    (hb : b.flow? grant = some (flow.rearranged purpose)) {p : Purpose}
    (hne : flow.url? p ≠ flow.url? (purpose p)) : ¬a.toJson.same b.toJson = true := by
  intro h
  have hflow := (agree_of_toJson Json.likeness_same h).flow? grant
  rw [ha, hb] at hflow
  cases hflow with
  | some hflow => exact hne ((hflow.url? p).trans (OAuthFlow.url?_rearranged purpose flow p))

theorem toJson_ne_of_rearranged {flows : OAuthFlows} {grant : Grant → Grant} {g : Grant}
    (hne : flows.get? g ≠ flows.get? (grant g)) (text other : Option String) :
    (SecurityScheme.mk (.oauth2 flows) text).toJson ≠
      (SecurityScheme.mk (.oauth2 (flows.rearranged grant)) other).toJson := by
  intro he
  have hflow : flows.get? g = (flows.rearranged grant).get? g :=
    congrArg (fun s => s.flow? g) (toJson_injective he)
  exact hne (hflow.trans (OAuthFlows.get?_rearranged grant flows g))

end SecurityScheme

-- What is rendered of a scheme tells it from every other one, and even without the order of keys it
-- tells apart all but orders of scopes.
theorem security_schemes_told_apart :
    (∀ a b : SecurityScheme, a.toJson = b.toJson → a = b) ∧
    (∀ a b : SecurityScheme,
      (∀ grant flow, a.flow? grant = some flow → flow.scopes.Distinct) →
      a.toJson.same b.toJson = true → a.Agree SameScopes b) ∧
    (∀ (a b : SecurityScheme) (grant : Grant) (flow : OAuthFlow),
      a.flow? grant = none → b.flow? grant = some flow → a.toJson.same b.toJson = false) ∧
    (∀ (a b : SecurityScheme) (grant : Grant) (flow : OAuthFlow) (p q : Purpose),
      a.flow? grant = some flow → b.flow? grant = some (flow.rearranged (Equiv.swap p q)) →
      flow.url? p ≠ flow.url? q → a.toJson.same b.toJson = false) ∧
    ∀ (flows : OAuthFlows) (text other : Option String) (g h : Grant),
      flows.get? g ≠ flows.get? h →
      (SecurityScheme.mk (.oauth2 flows) text).toJson ≠
        (SecurityScheme.mk (.oauth2 (flows.rearranged (Equiv.swap g h))) other).toJson := by
  refine ⟨fun a b h => SecurityScheme.toJson_injective h,
    fun a b hd h => SecurityScheme.agree_of_same hd h, ?_, ?_, ?_⟩
  · intro a b grant flow ha hb
    exact Bool.eq_false_iff.mpr (SecurityScheme.not_same_of_flow?_eq_none ha hb)
  · intro a b grant flow p q ha hb hne
    have hswap : flow.url? p ≠ flow.url? (Equiv.swap p q p) := by rwa [Equiv.swap_apply_left]
    exact Bool.eq_false_iff.mpr (SecurityScheme.not_same_of_rearranged ha hb hswap)
  · intro flows text other g h hne
    have hswap : flows.get? g ≠ flows.get? (Equiv.swap g h g) := by rwa [Equiv.swap_apply_left]
    exact SecurityScheme.toJson_ne_of_rearranged hswap text other

def customerFlow : OAuthFlow where
  authorizationUrl := some "https://shop.test/authorize"
  scopes := [("read", "Read access"), ("write", "Write access")]

def customerFlows : OAuthFlows where
  implicit := some customerFlow
  password := some {}

def customerScheme : SecurityScheme := ⟨.oauth2 customerFlows, some "Customers"⟩

-- The same scheme, with the other order of scopes.
def reorderedScheme : SecurityScheme where
  mechanism := .oauth2 { customerFlows with
    implicit := some { customerFlow with
      scopes := [("write", "Write access"), ("read", "Read access")] } }
  description := some "Customers"

theorem security_schemes_told_apart_customers :
    customerScheme = SecurityScheme.describe "Customers" ⟨.oauth2 customerFlows, none⟩ ∧
    customerScheme.toJson ≠ reorderedScheme.toJson ∧
    customerScheme.toJson.same reorderedScheme.toJson = true ∧
    customerScheme.Agree SameScopes reorderedScheme ∧
    (SecurityScheme.mk (.oauth2 { customerFlows with password := none }) none).toJson.same
      (SecurityScheme.mk (.oauth2 customerFlows) none).toJson = false ∧
    (SecurityScheme.mk (.oauth2 { implicit := some customerFlow }) none).toJson.same
      (SecurityScheme.mk (.oauth2 { implicit := some (customerFlow.rearranged
        (Equiv.swap .authorization .token)) }) none).toJson = false ∧
    customerScheme.toJson ≠ (SecurityScheme.mk (.oauth2
      (customerFlows.rearranged (Equiv.swap .implicit .password))) none).toJson := by
  obtain ⟨hequal, hsame, habsent, hurls, hflows⟩ := security_schemes_told_apart
  have hdistinct : ∀ grant flow, customerScheme.flow? grant = some flow →
      flow.scopes.Distinct := by
    intro grant flow hflow
    cases grant <;> cases hflow <;> decide
  have horder : customerScheme.toJson.same reorderedScheme.toJson = true := by decide
  refine ⟨hequal _ _ rfl, fun he => ?_, horder, hsame _ _ hdistinct horder,
    habsent _ _ .password {} rfl rfl, hurls _ _ .implicit customerFlow .authorization .token rfl rfl
      (by decide), hflows _ _ _ .implicit .password (by decide)⟩
  exact absurd (hequal _ _ he) (by decide)

end ApiDescription
