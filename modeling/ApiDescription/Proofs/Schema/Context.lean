import ApiDescription.Proofs.Schema.RoundTrip

namespace ApiDescription.Schema

-- A node from which one of the schemas inside is left out.
inductive Frame where
  | items (limits : ArrayLimits) (description : Option String)
  | property (before : List (String × Schema)) (name : String) (after : List (String × Schema))
      (unknownKeys : UnknownKeys) (description : Option String)
  | values (description : Option String)
  | option (before after : List Schema) (description : Option String)
  | inner (wrapper : Wrapper) (description : Option String)

def Frame.fill (hole : Schema) : Frame → Schema
  | items limits text => .array hole limits text
  | property before name after policy text => .object (before ++ (name, hole) :: after) policy text
  | values text => .record hole text
  | option before after text => .union (before ++ hole :: after) text
  | inner wrapper text => .wrapped wrapper hole text

-- A schema with one hole: the nodes on the way from the outside to the hole.
abbrev Context := List Frame

def Context.fill (hole : Schema) : Context → Schema
  | [] => hole
  | frame :: rest => frame.fill (Context.fill hole rest)

-- Whether a node stands in a schema, at any depth or as the schema itself.
def Contains (schema part : Schema) : Prop := ∃ context : Context, schema = context.fill part

theorem Frame.mem_inside_fill (frame : Frame) (hole : Schema) : hole ∈ (frame.fill hole).inside := by
  cases frame with
  | items limits text | values text | inner wrapper text => exact List.mem_singleton.mpr rfl
  | property before name after policy text =>
    exact List.mem_map.mpr ⟨(name, hole), List.mem_append_cons_self, rfl⟩
  | option before after text => exact List.mem_append_cons_self

theorem exists_frame_of_mem_inside {schema part : Schema} (hm : part ∈ schema.inside) :
    ∃ frame : Frame, schema = frame.fill part := by
  cases schema with
  | leaf kind text => cases hm
  | array items limits text =>
    cases List.mem_singleton.mp hm
    exact ⟨.items limits text, rfl⟩
  | object properties policy text =>
    obtain ⟨⟨name, part⟩, hp, rfl⟩ := List.mem_map.mp hm
    obtain ⟨before, after, rfl⟩ := List.append_of_mem hp
    exact ⟨.property before name after policy text, rfl⟩
  | record values text =>
    cases List.mem_singleton.mp hm
    exact ⟨.values text, rfl⟩
  | union options text =>
    obtain ⟨before, after, rfl⟩ := List.append_of_mem hm
    exact ⟨.option before after text, rfl⟩
  | wrapped wrapper inner text =>
    cases List.mem_singleton.mp hm
    exact ⟨.inner wrapper text, rfl⟩

theorem contains_iff (schema part : Schema) :
    schema.Contains part ↔ schema = part ∨ ∃ child ∈ schema.inside, child.Contains part := by
  constructor
  · rintro ⟨context, rfl⟩
    cases context with
    | nil => exact .inl rfl
    | cons frame rest => exact .inr ⟨_, frame.mem_inside_fill _, rest, rfl⟩
  · rintro (rfl | ⟨child, hm, context, rfl⟩)
    · exact ⟨[], rfl⟩
    · obtain ⟨frame, rfl⟩ := exists_frame_of_mem_inside hm
      exact ⟨frame :: context, rfl⟩

-- A node of its own, and not a layer around one.
def Bare (schema : Schema) : Prop := ∀ wrapper inner text, schema ≠ .wrapped wrapper inner text

-- An induction that does not tell the kinds of nodes apart, only the layers from the rest.
@[elab_as_elim]
theorem layer_induction {motive : Schema → Prop}
    (bare : ∀ schema : Schema, schema.Bare → (∀ part ∈ schema.inside, motive part) → motive schema)
    (layer : ∀ wrapper inner text, motive inner → motive (.wrapped wrapper inner text))
    (schema : Schema) : motive schema := by
  induction schema using Schema.induction with
  | leaf kind text => exact bare _ nofun nofun
  | array items limits text ih => exact bare _ nofun (List.forall_mem_singleton.mpr ih)
  | object properties policy text ih => exact bare _ nofun (List.forall_mem_map.mpr ih)
  | record values text ih => exact bare _ nofun (List.forall_mem_singleton.mpr ih)
  | union options text ih => exact bare _ nofun ih
  | wrapped wrapper inner text ih => exact layer wrapper inner text ih

end ApiDescription.Schema
