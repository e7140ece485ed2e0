import ApiDescription.Document.Info
import ApiDescription.Document.Server
import ApiDescription.Proofs.Reading.Record

namespace ApiDescription

theorem Contact.read_toJson (medium : Medium) (c : Contact) :
    read medium c.toJson.node = .ok c := by
  have hfills : Fills layout.fields [
      Json.field? "name" c.name .string, Json.field? "url" c.url .string,
      Json.field? "email" c.email .string] {} c := by
    apply Fills.optional "name" c.name rfl Node.inverts_string
    apply Fills.optional "url" c.url rfl Node.inverts_string
    apply Fills.optional "email" c.email rfl Node.inverts_string
    exact .nil _
  exact Record.read_of_fills (by decide) medium hfills

theorem Contact.inverts_toJson (medium : Medium) : Node.Inverts (read medium) toJson :=
  ⟨fun _ => nofun, read_toJson medium⟩

theorem License.read_toJson (medium : Medium) (l : License) :
    read medium l.toJson.node = .ok l := by
  have hfills : Fills layout.fields [
      Json.field "name" (.string l.name), Json.field? "url" l.url .string]
      {} ⟨some l.name, l.url⟩ := by
    apply Fills.required "name" (x := l.name) rfl
    apply Fills.optional "url" l.url rfl Node.inverts_string
    exact .nil _
  have hread : layout.read medium {} l.toJson.node = .ok _ :=
    Record.read_of_fills (by decide) medium hfills
  rw [read, hread]
  rfl

theorem License.inverts_toJson (medium : Medium) : Node.Inverts (read medium) toJson :=
  ⟨fun _ => nofun, read_toJson medium⟩

namespace Info

-- The metadata that a document shows: a contact that says nothing is no contact.
def shown (i : Info) : Info := { i with contact := if i.contact = some {} then none else i.contact }

theorem contact_shown (i : Info) : i.contact.filter (· ≠ {}) = i.shown.contact := by
  rw [shown]
  cases i.contact with
  | none => rfl
  | some c => by_cases h : c = {} <;> simp [h]

theorem shown_shown (i : Info) : i.shown.shown = i.shown := by
  simp only [shown]
  congr 1
  split <;> simp_all

theorem toJson_shown (i : Info) : i.shown.toJson = i.toJson := by
  rw [toJson, toJson, contact_shown, contact_shown, shown_shown]
  rfl

-- The version is declared as the second field and written as the last one.
theorem read_toJson (medium : Medium) (i : Info) : read medium i.toJson.node = .ok i.shown := by
  obtain ⟨fields, hfields, hfills⟩ : ∃ fields, fields.Perm (layout medium).fields ∧ Fills fields [
      Json.field "title" (.string i.title),
      Json.field? "description" i.description .string,
      Json.field? "termsOfService" i.termsOfService .string,
      Json.field? "contact" i.shown.contact Contact.toJson,
      Json.field? "license" i.license License.toJson,
      Json.field "version" (.string i.version)]
      {} ⟨some i.title, some i.version, i.description, i.termsOfService, i.shown.contact,
        i.license⟩ := by
    refine ⟨_ :: (_ ++ [_]), .cons _ (List.perm_append_singleton ..), ?_⟩
    apply Fills.required "title" (x := i.title) rfl
    apply Fills.optional "description" i.description rfl Node.inverts_string
    apply Fills.optional "termsOfService" i.termsOfService rfl Node.inverts_string
    apply Fills.optional "contact" i.shown.contact rfl (Contact.inverts_toJson medium)
    apply Fills.optional "license" i.license rfl (License.inverts_toJson medium)
    apply Fills.required "version" (x := i.version) rfl
    exact .nil _
  have hnames : ((layout medium).fields.map Field.name).Nodup := by
    show ["title", "version", "description", "termsOfService", "contact", "license"].Nodup
    decide
  have hread := Record.read_of_fills_of_perm hnames medium hfields hfills
  rw [toJson, contact_shown, read, hread]
  rfl

end Info

theorem ServerVariable.read_toJson (medium : Medium) (v : ServerVariable) :
    read medium v.toJson.node = .ok v := by
  have hchoices : Node.Inverts (Node.asList Node.asString) Json.strings :=
    ⟨fun _ => nofun, fun _ => Node.asList_array fun _ _ => rfl⟩
  have hfills : Fills layout.fields [
      Json.field? "enum" v.choices Json.strings, Json.field "default" (.string v.default),
      Json.field? "description" v.description .string]
      {} ⟨v.choices, some v.default, v.description⟩ := by
    apply Fills.optional "enum" v.choices rfl hchoices
    apply Fills.required "default" (x := v.default) rfl
    apply Fills.optional "description" v.description rfl Node.inverts_string
    exact .nil _
  have hread : layout.read medium {} v.toJson.node = .ok _ :=
    Record.read_of_fills (by decide) medium hfills
  rw [read, hread]
  rfl

-- Variables are written if there are any, and a server without them is read as one with none.
theorem Server.read_toJson (medium : Medium) {s : Server} (hd : s.substitutions.Distinct) :
    read medium s.toJson.node = .ok s := by
  have hfills : Fills (layout medium).fields [
      Json.field "url" (.string s.url), Json.field? "description" s.description .string,
      if s.substitutions = [] then none
      else Json.field "variables" (.object (s.substitutions.mapValues ServerVariable.toJson))]
      {} ⟨some s.url, s.description, s.substitutions⟩ := by
    apply Fills.required "url" (x := s.url) rfl
    apply Fills.optional "description" s.description rfl Node.inverts_string
    by_cases hnone : s.substitutions = []
    · rw [if_pos hnone, hnone]
      exact .absent (.nil _)
    · rw [if_neg hnone]
      apply Fills.defaulted "variables" (Node.asMap_object hd fun entry _ =>
        ServerVariable.read_toJson medium entry.2)
      exact .nil _
  have hnames : ((layout medium).fields.map Field.name).Nodup := by
    show ["url", "description", "variables"].Nodup
    decide
  have hread : (layout medium).read medium {} s.toJson.node = .ok _ :=
    Record.read_of_fills hnames medium hfills
  rw [read, hread]
  rfl

-- What is shown of metadata and servers is read back, the variables in their order, and is then
-- shown as before.
theorem metadata_read_back :
    (∀ i : Info, Info.ofJson i.toJson = .ok i.shown) ∧
    (∀ s : Server, s.substitutions.Distinct → Server.ofJson s.toJson = .ok s) ∧
    (∀ i : Info, Info.toJson <$> Info.ofJson i.toJson = .ok i.toJson) ∧
    ∀ s : Server, s.substitutions.Distinct →
      Server.toJson <$> Server.ofJson s.toJson = .ok s.toJson := by
  have hinfo : ∀ i : Info, Info.ofJson i.toJson = .ok i.shown := Info.read_toJson .value
  have hserver : ∀ s : Server, s.substitutions.Distinct → Server.ofJson s.toJson = .ok s :=
    fun _ hd => Server.read_toJson .value hd
  refine ⟨hinfo, hserver, fun i => ?_, fun s hd => ?_⟩
  · rw [hinfo i]
    exact congrArg Except.ok i.toJson_shown
  · rw [hserver s hd]
    rfl

def shopInfo : Info where
  title := "Shop"
  version := ""
  termsOfService := some "https://shop.test/terms"
  contact := some {}
  license := some { name := "MIT" }

-- The variables are not in the order of their names, and one may only be chosen from nothing.
def shopServer : Server where
  url := "https://{region}.shop.test/{base}"
  description := some ""
  substitutions := [
    ("region", { choices := some ["eu", "us"], default := "eu", description := some "Where" }),
    ("base", { default := "v1" }),
    ("default", { choices := some [], default := "" })]

theorem metadata_read_back_shop :
    Info.ofJson shopInfo.toJson = .ok { shopInfo with contact := none } ∧
    shopServer.substitutions.Distinct ∧
    Server.ofJson shopServer.toJson = .ok shopServer ∧
    Server.toJson <$> Server.ofJson shopServer.toJson = .ok shopServer.toJson := by
  obtain ⟨hinfo, hserver, -, hagain⟩ := metadata_read_back
  have hdistinct : shopServer.substitutions.Distinct := by decide
  exact ⟨hinfo shopInfo, hdistinct, hserver shopServer hdistinct, hagain shopServer hdistinct⟩

end ApiDescription
