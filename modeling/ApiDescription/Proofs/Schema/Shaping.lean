import ApiDescription.Proofs.Schema.Optionality
import ApiDescription.Schema.Modifier

namespace ApiDescription

-- One step in the making of a schema: a constraint on what is there, or a layer around it.
inductive Shaping where
  | modify (m : Modifier)
  | wrap (wrapper : Wrapper)

namespace Shaping

def modifier? : Shaping → Option Modifier
  | modify m => some m
  | wrap _ => none

def wrapper? : Shaping → Option Wrapper
  | modify _ => none
  | wrap wrapper => some wrapper

-- The same steps with all constraints before all layers.
def constraintsFirst (steps : List Shaping) : List Shaping :=
  (steps.filterMap modifier?).map modify ++ (steps.filterMap wrapper?).map wrap

theorem modifiers_map_modify (ms : List Modifier) : (ms.map modify).filterMap modifier? = ms := by
  rw [List.filterMap_map]
  exact List.filterMap_some

theorem modifiers_map_wrap (wrappers : List Wrapper) :
    (wrappers.map wrap).filterMap modifier? = [] := by
  simp [modifier?]

theorem wrappers_map_modify (ms : List Modifier) : (ms.map modify).filterMap wrapper? = [] := by
  simp [wrapper?]

theorem wrappers_map_wrap (wrappers : List Wrapper) :
    (wrappers.map wrap).filterMap wrapper? = wrappers := by
  rw [List.filterMap_map]
  exact List.filterMap_some

theorem modifiers_constraintsFirst (steps : List Shaping) :
    (constraintsFirst steps).filterMap modifier? = steps.filterMap modifier? := by
  rw [constraintsFirst, List.filterMap_append, modifiers_map_modify, modifiers_map_wrap,
    List.append_nil]

theorem wrappers_constraintsFirst (steps : List Shaping) :
    (constraintsFirst steps).filterMap wrapper? = steps.filterMap wrapper? := by
  rw [constraintsFirst, List.filterMap_append, wrappers_map_modify, wrappers_map_wrap,
    List.nil_append]

end Shaping

namespace Schema

def step (schema : Schema) : Shaping → Schema
  | .modify m => schema.modify m
  | .wrap wrapper => schema.wrap wrapper

def shape (schema : Schema) (steps : List Shaping) : Schema := steps.foldl step schema

theorem description_onNode (m : Modifier) (schema : Schema) :
    (m.onNode schema).description = schema.description := by
  cases schema with
  | leaf kind text => cases kind <;> rfl
  | array | object | record | union | wrapped => rfl

theorem bare_onNode (m : Modifier) {core : Schema} (h : core.Bare) : (m.onNode core).Bare := by
  cases core with
  | wrapped wrapper inner text => exact absurd rfl (h wrapper inner text)
  | leaf kind text => cases kind <;> exact nofun
  | array | object | record | union => exact nofun

theorem mapInnermost_of_bare (f : Schema → Schema) {core : Schema} (h : core.Bare) :
    mapInnermost f core = f core := by
  cases core with
  | wrapped wrapper inner text => exact absurd rfl (h wrapper inner text)
  | leaf | array | object | record | union => rfl

-- A constraint changes the innermost node at most, and leaves the layers and all descriptions.
theorem innermost_modify (schema : Schema) (m : Modifier) :
    (schema.modify m).innermost = m.onNode schema.innermost := by
  induction schema using layer_induction with
  | bare schema hbare _ =>
    rw [modify, mapInnermost_of_bare _ hbare, innermost_of_bare hbare,
      innermost_of_bare (bare_onNode m hbare)]
  | layer wrapper inner text ih => exact ih

theorem layers_modify (schema : Schema) (m : Modifier) :
    (schema.modify m).layers = schema.layers := by
  induction schema using layer_induction with
  | bare schema hbare _ =>
    rw [modify, mapInnermost_of_bare _ hbare, layers_of_bare hbare,
      layers_of_bare (bare_onNode m hbare)]
  | layer wrapper inner text ih => exact congrArg ((wrapper, text) :: ·) ih

theorem description_modify (schema : Schema) (m : Modifier) :
    (schema.modify m).description = schema.description := by
  induction schema using layer_induction with
  | bare schema hbare _ => rw [modify, mapInnermost_of_bare _ hbare, description_onNode]
  | layer wrapper inner text _ => rfl

theorem innermost_shape (schema : Schema) (steps : List Shaping) :
    (schema.shape steps).innermost =
      (steps.filterMap Shaping.modifier?).foldl (fun node m => m.onNode node)
        schema.innermost := by
  induction steps generalizing schema with
  | nil => rfl
  | cons first rest ih =>
    rw [shape, List.foldl_cons, ← shape, ih]
    cases first with
    | modify m => rw [step, innermost_modify]; rfl
    | wrap wrapper => rfl

-- Each layer takes over the description that the schema has had from the beginning.
theorem layers_shape (schema : Schema) (steps : List Shaping) :
    (schema.shape steps).layers =
      (steps.filterMap Shaping.wrapper?).reverse.map (fun wrapper =>
        (wrapper, schema.description)) ++ schema.layers := by
  induction steps generalizing schema with
  | nil => rfl
  | cons first rest ih =>
    rw [shape, List.foldl_cons, ← shape, ih]
    cases first with
    | modify m => rw [step, layers_modify, description_modify]; rfl
    | wrap wrapper =>
      have hwrappers : (Shaping.wrap wrapper :: rest).filterMap Shaping.wrapper? =
          wrapper :: rest.filterMap Shaping.wrapper? := rfl
      rw [hwrappers, List.reverse_cons, List.map_append, List.append_assoc]
      rfl

-- All constraints of a run meet at the innermost node, and all its layers lie around those that
-- were there before. So it makes no difference which of them comes first.
theorem constraints_pass_layers (schema : Schema) :
    (∀ steps, schema.shape steps = schema.shape (Shaping.constraintsFirst steps)) ∧
    (∀ m wrapper, (schema.wrap wrapper).modify m = (schema.modify m).wrap wrapper) ∧
    ∀ steps,
      (schema.shape steps).innermost =
        (steps.filterMap Shaping.modifier?).foldl (fun node m => m.onNode node)
          schema.innermost ∧
      (schema.shape steps).layers =
        (steps.filterMap Shaping.wrapper?).reverse.map (fun wrapper =>
          (wrapper, schema.description)) ++ schema.layers := by
  have hfirst : ∀ steps, schema.shape steps = schema.shape (Shaping.constraintsFirst steps) := by
    intro steps
    apply eq_of_layers
    · rw [innermost_shape, innermost_shape, Shaping.modifiers_constraintsFirst]
    · rw [layers_shape, layers_shape, Shaping.wrappers_constraintsFirst]
  exact ⟨hfirst, fun m wrapper => hfirst [.wrap wrapper, .modify m],
    fun steps => ⟨innermost_shape schema steps, layers_shape schema steps⟩⟩

end Schema

end ApiDescription
