import ApiDescription.Proofs.Schema.Shaping
import ApiDescription.Schema.Reading

namespace ApiDescription

def Leaf.kind : Leaf → Schema.Kind
  | string _ => .string
  | number _ => .number
  | boolean => .boolean
  | null => .null
  | literal _ => .literal
  | enumeration _ => .enumeration
  | void => .void
  | any => .any

def Wrapper.kind : Wrapper → Schema.Kind
  | optional => .optional
  | nullable => .nullable
  | default _ => .default
  | refine _ => .refine

def Schema.kind : Schema → Schema.Kind
  | leaf kind _ => kind.kind
  | array .. => .array
  | object .. => .object
  | record .. => .record
  | union .. => .union
  | wrapped wrapper _ _ => wrapper.kind

-- What a constraint can be about: one field of the nodes of one kind.
inductive Facet where
  | format
  | minLength
  | maxLength
  | pattern
  | integer
  | minimum
  | maximum
  | multipleOf
  | minItems
  | maxItems
  | unknownKeys
  | properties
deriving DecidableEq

namespace Facet

def kind : Facet → Schema.Kind
  | format | minLength | maxLength | pattern => .string
  | integer | minimum | maximum | multipleOf => .number
  | minItems | maxItems => .array
  | unknownKeys | properties => .object

-- What can stand in the field.
def Value : Facet → Type
  | format => Option StringFormat
  | minLength | maxLength | minItems | maxItems => Option UInt64
  | pattern => Option String
  | integer => Bool
  | minimum | maximum => Option Bound
  | multipleOf => Option Number
  | unknownKeys => UnknownKeys
  | properties => Entries Schema

-- What stands in the field of a node, if the node is of the kind that has it.
def get? : (facet : Facet) → Schema → Option facet.Value
  | format, .leaf (.string limits) _ => some limits.format
  | minLength, .leaf (.string limits) _ => some limits.minLength
  | maxLength, .leaf (.string limits) _ => some limits.maxLength
  | pattern, .leaf (.string limits) _ => some limits.pattern
  | integer, .leaf (.number limits) _ => some limits.integer
  | minimum, .leaf (.number limits) _ => some limits.minimum
  | maximum, .leaf (.number limits) _ => some limits.maximum
  | multipleOf, .leaf (.number limits) _ => some limits.multipleOf
  | minItems, .array _ limits _ => some limits.minItems
  | maxItems, .array _ limits _ => some limits.maxItems
  | unknownKeys, .object _ policy _ => some policy
  | properties, .object entries _ _ => some entries
  | _, _ => none

theorem get?_eq_none_iff (facet : Facet) (node : Schema) :
    facet.get? node = none ↔ node.kind ≠ facet.kind := by
  cases node with
  | leaf kind text => cases kind <;> cases facet <;> simp [get?, Facet.kind, Schema.kind, Leaf.kind]
  | wrapped wrapper inner text =>
    cases wrapper <;> cases facet <;> simp [get?, Facet.kind, Schema.kind, Wrapper.kind]
  | array | object | record | union => cases facet <;> simp [get?, Facet.kind, Schema.kind]

end Facet

namespace Modifier

def facet : Modifier → Facet
  | format _ => .format
  | minLength _ => .minLength
  | maxLength _ => .maxLength
  | pattern _ => .pattern
  | integer => .integer
  | minimum _ => .minimum
  | maximum _ => .maximum
  | multipleOf _ => .multipleOf
  | minItems _ => .minItems
  | maxItems _ => .maxItems
  | unknownKeys _ => .unknownKeys
  | without _ | extend _ => .properties

-- What a constraint makes of what stands in its field.
def act : (m : Modifier) → m.facet.Value → m.facet.Value
  | format value, _ => some value
  | minLength length, _ => some length
  | maxLength length, _ => some length
  | pattern value, _ => some value
  | integer, _ => true
  | minimum bound, _ => some bound
  | maximum bound, _ => some bound
  | multipleOf step, _ => some step
  | minItems count, _ => some count
  | maxItems count, _ => some count
  | unknownKeys policy, _ => policy
  | without names, entries => Entries.without entries names
  | extend more, entries => Entries.extend entries more

-- What a constraint makes of what stands in any field: of another field than its own, nothing.
def on (m : Modifier) (facet : Facet) (value : facet.Value) : facet.Value :=
  if h : m.facet = facet then (h ▸ m.act : facet.Value → facet.Value) value else value

theorem on_facet (m : Modifier) (value : m.facet.Value) : m.on m.facet value = m.act value :=
  dif_pos rfl

theorem on_of_ne {m : Modifier} {facet : Facet} (h : m.facet ≠ facet) (value : facet.Value) :
    m.on facet value = value := dif_neg h

theorem onString_eq (m : Modifier) (limits : StringLimits) :
    m.onString limits = {
      format := m.on .format limits.format
      minLength := m.on .minLength limits.minLength
      maxLength := m.on .maxLength limits.maxLength
      pattern := m.on .pattern limits.pattern } := by
  cases m <;> rfl

theorem onNumber_eq (m : Modifier) (limits : NumberLimits) :
    m.onNumber limits = {
      integer := m.on .integer limits.integer
      minimum := m.on .minimum limits.minimum
      maximum := m.on .maximum limits.maximum
      multipleOf := m.on .multipleOf limits.multipleOf } := by
  cases m <;> rfl

theorem onArray_eq (m : Modifier) (limits : ArrayLimits) :
    m.onArray limits = {
      minItems := m.on .minItems limits.minItems
      maxItems := m.on .maxItems limits.maxItems } := by
  cases m <;> rfl

theorem onProperties_eq (m : Modifier) (properties : Entries Schema) :
    m.onProperties properties = m.on .properties properties := by
  cases m <;> rfl

theorem onUnknownKeys_eq (m : Modifier) (policy : UnknownKeys) :
    m.onUnknownKeys policy = m.on .unknownKeys policy := by
  cases m <;> rfl

-- A constraint acts on each field of a node by itself.
theorem get?_onNode (m : Modifier) (facet : Facet) (node : Schema) :
    facet.get? (m.onNode node) = (facet.get? node).map (m.on facet) := by
  cases node with
  | leaf kind text =>
    cases kind with
    | string limits =>
      rw [onNode, onString_eq]
      cases facet <;> rfl
    | number limits =>
      rw [onNode, onNumber_eq]
      cases facet <;> rfl
    | boolean | null | literal | enumeration | void | any => cases facet <;> rfl
  | array items limits text =>
    rw [onNode, onArray_eq]
    cases facet <;> rfl
  | object entries policy text =>
    rw [onNode, onProperties_eq, onUnknownKeys_eq]
    cases facet <;> rfl
  | record | union | wrapped => cases facet <;> rfl

end Modifier

namespace Schema

-- A node as it is without all that constraints can say of it.
def plain : Schema → Schema
  | leaf (.string _) text => leaf (.string {}) text
  | leaf (.number _) text => leaf (.number {}) text
  | array items _ text => array items {} text
  | object _ _ text => object [] .strip text
  | other => other

theorem plain_onNode (m : Modifier) (node : Schema) : (m.onNode node).plain = node.plain := by
  cases node with
  | leaf kind text => cases kind <;> rfl
  | array | object | record | union | wrapped => rfl

-- A node put together again from what stands in its fields.
def filled (fields : (facet : Facet) → Option facet.Value) : Schema → Schema
  | leaf (.string limits) text =>
    leaf (.string {
      format := (fields .format).getD limits.format
      minLength := (fields .minLength).getD limits.minLength
      maxLength := (fields .maxLength).getD limits.maxLength
      pattern := (fields .pattern).getD limits.pattern }) text
  | leaf (.number limits) text =>
    leaf (.number {
      integer := (fields .integer).getD limits.integer
      minimum := (fields .minimum).getD limits.minimum
      maximum := (fields .maximum).getD limits.maximum
      multipleOf := (fields .multipleOf).getD limits.multipleOf }) text
  | array items limits text =>
    array items {
      minItems := (fields .minItems).getD limits.minItems
      maxItems := (fields .maxItems).getD limits.maxItems } text
  | object properties policy text =>
    object ((fields .properties).getD properties) ((fields .unknownKeys).getD policy) text
  | other => other

theorem filled_plain (node : Schema) : node.plain.filled (fun facet => facet.get? node) = node := by
  cases node with
  | leaf kind text => cases kind <;> rfl
  | array | object | record | union | wrapped => rfl

-- There is nothing to a node but what stands in its fields and what no constraint can change.
theorem eq_of_facets {a b : Schema} (hplain : a.plain = b.plain)
    (hfacets : ∀ facet : Facet, facet.get? a = facet.get? b) : a = b := by
  rw [← filled_plain a, hplain, funext hfacets, filled_plain]

-- Whether two schemas have the same layers, and innermost nodes that differ in one field at most.
structure AgreeBut (facet : Facet) (a b : Schema) : Prop where
  layers : b.layers = a.layers
  plain : b.innermost.plain = a.innermost.plain
  others : ∀ other : Facet, other ≠ facet → other.get? b.innermost = other.get? a.innermost

theorem agreeBut_modify (schema : Schema) (m : Modifier) :
    AgreeBut m.facet schema (schema.modify m) := by
  refine ⟨layers_modify schema m, ?_, fun other hne => ?_⟩
  · rw [innermost_modify, plain_onNode]
  · have hid : m.on other = id := funext (Modifier.on_of_ne hne.symm)
    rw [innermost_modify, m.get?_onNode, hid, Option.map_id_fun, id]

theorem get?_facet_modify (schema : Schema) (m : Modifier) :
    m.facet.get? (schema.modify m).innermost = (m.facet.get? schema.innermost).map m.act := by
  rw [innermost_modify, m.get?_onNode, funext m.on_facet]

-- A constraint changes its own field and nothing else.
theorem modify_eq_iff (schema : Schema) (m : Modifier) (other : Schema) :
    schema.modify m = other ↔ AgreeBut m.facet schema other ∧
      m.facet.get? other.innermost = (m.facet.get? schema.innermost).map m.act := by
  constructor
  · rintro rfl
    exact ⟨agreeBut_modify schema m, get?_facet_modify schema m⟩
  · rintro ⟨hagree, hact⟩
    have hmodify := agreeBut_modify schema m
    refine eq_of_layers (eq_of_facets (hmodify.plain.trans hagree.plain.symm) fun facet => ?_)
      (hmodify.layers.trans hagree.layers.symm)
    by_cases hfacet : facet = m.facet
    · rw [hfacet, get?_facet_modify, hact]
    · rw [hmodify.others facet hfacet, hagree.others facet hfacet]

theorem modify_of_kind_ne {schema : Schema} {m : Modifier}
    (h : schema.innermost.kind ≠ m.facet.kind) : schema.modify m = schema := by
  rw [modify_eq_iff, (m.facet.get?_eq_none_iff schema.innermost).mpr h]
  exact ⟨⟨rfl, rfl, fun _ _ => rfl⟩, rfl⟩

end Schema

end ApiDescription
