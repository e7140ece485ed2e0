import ApiDescription.Proofs.Schema.Facet

namespace ApiDescription

namespace Facet

-- Those of some constraints that are about one field.
def constraints (facet : Facet) (ms : List Modifier) : List Modifier :=
  ms.filter fun m => m.facet = facet

-- What stands in the field after some constraints, one after the other.
def after (facet : Facet) (ms : List Modifier) (value : facet.Value) : facet.Value :=
  ms.foldl (fun value m => m.on facet value) value

-- The constraints on the other fields leave a field alone.
theorem after_constraints (facet : Facet) (ms : List Modifier) :
    facet.after (facet.constraints ms) = facet.after ms := by
  funext value
  rw [after, after, constraints, List.foldl_filter]
  congr 1
  funext value m
  split
  · rfl
  · rename_i h
    exact (Modifier.on_of_ne (by simpa using h) value).symm

theorem facet_of_mem_constraints {facet : Facet} {ms : List Modifier} {m : Modifier}
    (hm : m ∈ facet.constraints ms) : m.facet = facet :=
  of_decide_eq_true (List.mem_filter.mp hm).2

end Facet

-- A constraint on anything but properties does not look at what it replaces.
theorem Modifier.on_const {m : Modifier} {facet : Facet} (hm : m.facet = facet)
    (hfacet : facet ≠ .properties) (value other : facet.Value) :
    m.on facet value = m.on facet other := by
  subst hm
  rw [on_facet, on_facet]
  cases m with
  | without | extend => exact absurd rfl hfacet
  | format | minLength | maxLength | pattern | integer | minimum | maximum | multipleOf | minItems
  | maxItems | unknownKeys => rfl

namespace Facet

theorem after_eq_last {facet : Facet} (hfacet : facet ≠ .properties) (ms : List Modifier)
    (value : facet.Value) :
    facet.after ms value =
      (facet.constraints ms).getLast?.elim value fun m => m.on facet value := by
  rw [← after_constraints]
  have hms : ∀ m ∈ facet.constraints ms, m.facet = facet := fun _ => facet_of_mem_constraints
  generalize facet.constraints ms = own at hms
  induction own using List.reverseRecOn with
  | nil => rfl
  | append_singleton own last _ =>
    rw [after, List.foldl_append, List.getLast?_concat]
    exact Modifier.on_const (hms last (by simp)) hfacet _ _

theorem constraints_swap {m n : Modifier} (h : m.facet ≠ n.facet) (facet : Facet) :
    facet.constraints [m, n] = facet.constraints [n, m] := by
  by_cases hm : m.facet = facet
  · have hn : n.facet ≠ facet := fun hn => h (hm.trans hn.symm)
    simp [constraints, hm, hn]
  · simp [constraints, hm, List.filter_cons]

end Facet

-- Whether two runs of constraints come to the same. Of the properties all constraints count in
-- their order, and of any other field only the last one does.
structure SameConstraints (ms others : List Modifier) : Prop where
  properties : Facet.properties.constraints ms = Facet.properties.constraints others
  last : ∀ facet : Facet, facet ≠ .properties →
    (facet.constraints ms).getLast? = (facet.constraints others).getLast?

namespace SameConstraints

theorem of_constraints {ms others : List Modifier}
    (h : ∀ facet : Facet, facet.constraints ms = facet.constraints others) :
    SameConstraints ms others :=
  ⟨h .properties, fun facet _ => congrArg List.getLast? (h facet)⟩

theorem overwritten {m n : Modifier} (h : m.facet = n.facet) (hn : n.facet ≠ .properties) :
    SameConstraints [m, n] [n] := by
  refine ⟨by simp [Facet.constraints, h, hn], fun facet _ => ?_⟩
  by_cases hfacet : n.facet = facet <;> simp [Facet.constraints, h, hfacet]

theorem after_eq {ms others : List Modifier} (h : SameConstraints ms others) (facet : Facet) :
    facet.after ms = facet.after others := by
  by_cases hfacet : facet = .properties
  · subst hfacet
    rw [← Facet.after_constraints, h.properties, Facet.after_constraints]
  · funext value
    rw [Facet.after_eq_last hfacet, h.last facet hfacet, ← Facet.after_eq_last hfacet]

end SameConstraints

namespace Schema

-- The schema after some constraints, one after the other.
def constrain (schema : Schema) (ms : List Modifier) : Schema := schema.shape (ms.map .modify)

theorem innermost_constrain (schema : Schema) (ms : List Modifier) :
    (schema.constrain ms).innermost = ms.foldl (fun node m => m.onNode node) schema.innermost := by
  rw [constrain, innermost_shape, Shaping.modifiers_map_modify]

theorem layers_constrain (schema : Schema) (ms : List Modifier) :
    (schema.constrain ms).layers = schema.layers := by
  rw [constrain, layers_shape, Shaping.wrappers_map_modify]
  rfl

theorem plain_innermost_constrain (schema : Schema) (ms : List Modifier) :
    (schema.constrain ms).innermost.plain = schema.innermost.plain := by
  rw [innermost_constrain]
  generalize schema.innermost = node
  induction ms generalizing node with
  | nil => rfl
  | cons m rest ih => rw [List.foldl_cons, ih, plain_onNode]

theorem get?_constrain (schema : Schema) (ms : List Modifier) (facet : Facet) :
    facet.get? (schema.constrain ms).innermost =
      (facet.get? schema.innermost).map (facet.after ms) := by
  rw [innermost_constrain]
  generalize schema.innermost = node
  induction ms generalizing node with
  | nil => exact (Option.map_id' ..).symm
  | cons m rest ih =>
    rw [List.foldl_cons, ih, m.get?_onNode, Option.map_map]
    rfl

-- Runs of constraints come to the same if they do to each field.
theorem constrain_eq (schema : Schema) {ms others : List Modifier}
    (h : ∀ facet : Facet, facet.after ms = facet.after others) :
    schema.constrain ms = schema.constrain others := by
  refine eq_of_layers (eq_of_facets ?_ fun facet => ?_) ?_
  · rw [plain_innermost_constrain, plain_innermost_constrain]
  · rw [get?_constrain, get?_constrain, h facet]
  · rw [layers_constrain, layers_constrain]

theorem constrain_congr (schema : Schema) {ms others : List Modifier}
    (h : SameConstraints ms others) : schema.constrain ms = schema.constrain others :=
  schema.constrain_eq h.after_eq

-- A constraint on what is left when an optional layer is taken away is one on the whole.
theorem stripOptional_modify (schema : Schema) (m : Modifier) :
    (schema.modify m).stripOptional = schema.stripOptional.map (modify m) := by
  induction schema using layer_induction with
  | bare core hbare _ =>
    rw [modify, mapInnermost_of_bare _ hbare, stripOptional_of_bare (bare_onNode m hbare),
      stripOptional_of_bare hbare, Option.map_none]
  | layer wrapper inner text ih =>
    cases wrapper with
    | optional => rfl
    | nullable | default value =>
      show (inner.modify m).stripOptional.map _ = (inner.stripOptional.map _).map _
      rw [ih, Option.map_map, Option.map_map]
      rfl
    | refine message => rfl

theorem isOptional_modify (schema : Schema) (m : Modifier) :
    (schema.modify m).isOptional = schema.isOptional := by
  induction schema using layer_induction with
  | bare core hbare _ =>
    rw [modify, mapInnermost_of_bare _ hbare]
    cases core with
    | leaf kind text => cases kind <;> rfl
    | array | object | record | union | wrapped => rfl
  | layer wrapper inner text ih =>
    cases wrapper with
    | optional | default value => rfl
    | nullable | refine message => exact ih

theorem isArray_modify (schema : Schema) (m : Modifier) :
    (schema.modify m).isArray = schema.isArray := by
  induction schema using layer_induction with
  | bare core hbare _ =>
    rw [modify, mapInnermost_of_bare _ hbare]
    cases core with
    | leaf kind text => cases kind <;> rfl
    | array | object | record | union | wrapped => rfl
  | layer wrapper inner text ih => exact ih

-- Every constraint is about one field of the innermost node, so that a run of them comes down to
-- what it does to each field, and none of them is in the way of what the layers are asked for.
theorem constraints_act_on_facets (schema : Schema) :
    (∀ m : Modifier, schema.innermost.kind ≠ m.facet.kind → schema.modify m = schema) ∧
    (∀ (m : Modifier) (other : Schema), schema.modify m = other ↔
      AgreeBut m.facet schema other ∧
        m.facet.get? other.innermost = (m.facet.get? schema.innermost).map m.act) ∧
    (∀ ms others : List Modifier,
      (∀ facet : Facet, facet.constraints ms = facet.constraints others) →
      schema.constrain ms = schema.constrain others) ∧
    (∀ ms others : List Modifier, SameConstraints ms others →
      schema.constrain ms = schema.constrain others) ∧
    (∀ m n : Modifier, m.facet ≠ n.facet →
      (schema.modify m).modify n = (schema.modify n).modify m) ∧
    (∀ m n : Modifier, m.facet = n.facet → n.facet ≠ .properties →
      (schema.modify m).modify n = schema.modify n) ∧
    ∀ m : Modifier,
      (schema.modify m).stripOptional = schema.stripOptional.map (modify m) ∧
      (schema.modify m).isOptional = schema.isOptional ∧
      (schema.modify m).isArray = schema.isArray ∧
      (schema.modify m).description = schema.description := by
  refine ⟨fun m h => modify_of_kind_ne h, modify_eq_iff schema,
    fun ms others h => schema.constrain_congr (.of_constraints h),
    fun ms others h => schema.constrain_congr h, fun m n h => ?_, fun m n h hn => ?_,
    fun m => ⟨stripOptional_modify schema m, isOptional_modify schema m, isArray_modify schema m,
      description_modify schema m⟩⟩
  · exact schema.constrain_congr (.of_constraints (Facet.constraints_swap h))
  · exact schema.constrain_congr (.overwritten h hn)

-- A number under three layers, and constraints on it in three orders. The second has those of each
-- field in the order of the first, and the third has the last one of each field alone. A constraint
-- on texts says nothing of a number.
def pageLimit : Schema :=
  number.within [(.nullable, some "Page size"), (.default .null, none),
    (.optional, some "Given page size")]

def scatteredLimits : List Modifier := [
  .positive, .max (.ofUInt16 50), .minLength 3, .integer, .lt (.ofUInt16 20), .nonnegative,
  .max (.ofUInt16 100)]

def sortedLimits : List Modifier := [
  .integer, .positive, .nonnegative, .max (.ofUInt16 50), .lt (.ofUInt16 20), .max (.ofUInt16 100),
  .minLength 3]

def lastLimits : List Modifier := [
  .minLength 3, .max (.ofUInt16 100), .nonnegative, .integer]

theorem constraints_act_on_facets_pageLimit :
    pageLimit.modify (.minLength 3) = pageLimit ∧
    (∀ facet : Facet, facet.constraints scatteredLimits = facet.constraints sortedLimits) ∧
    pageLimit.constrain scatteredLimits = pageLimit.constrain sortedLimits ∧
    SameConstraints scatteredLimits lastLimits ∧
    pageLimit.constrain scatteredLimits = pageLimit.constrain lastLimits ∧
    pageLimit.constrain lastLimits =
      within (leaf (.number {
          integer := true
          minimum := some ⟨.zero, false⟩
          maximum := some ⟨.ofUInt16 100, false⟩ }) none)
        [(.nullable, some "Page size"), (.default .null, none),
          (.optional, some "Given page size")] ∧
    (pageLimit.modify .positive).modify .negative = (pageLimit.modify .negative).modify .positive ∧
    (pageLimit.modify .positive).modify .nonnegative = pageLimit.modify .nonnegative ∧
    (pageLimit.modify .integer).stripOptional =
      some (integer.within [(.nullable, some "Page size"), (.default .null, none)]) := by
  obtain ⟨hkind, -, hfields, hlasts, hcommute, hlast, hasked⟩ := constraints_act_on_facets pageLimit
  have hsorted : ∀ facet : Facet,
      facet.constraints scatteredLimits = facet.constraints sortedLimits := by
    intro facet
    cases facet <;> rfl
  have hsame : SameConstraints scatteredLimits lastLimits := by
    refine ⟨rfl, fun facet _ => ?_⟩
    cases facet <;> rfl
  refine ⟨hkind (.minLength 3) (by decide), hsorted, hfields _ _ hsorted, hsame, hlasts _ _ hsame,
    rfl, hcommute .positive .negative (by decide), hlast .positive .nonnegative rfl (by decide), ?_⟩
  rw [(hasked .integer).1]
  rfl

end Schema

end ApiDescription
