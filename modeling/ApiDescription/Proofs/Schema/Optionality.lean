import ApiDescription.Proofs.Schema.Context
import Mathlib.Data.List.TakeWhile

namespace ApiDescription

-- A layer around a node: a wrapper with a description of its own.
abbrev Layer := Wrapper × Option String

def Layer.isOptional : Layer → Bool
  | (.optional, _) => true
  | _ => false

-- Whether an optional layer that lies below can still be taken away.
def Layer.isTransparent : Layer → Bool
  | (.default _, _) | (.nullable, _) => true
  | _ => false

-- Whether the search for optional layers goes on below it.
def Layer.isPassed (layer : Layer) : Bool := layer.isOptional || layer.isTransparent

theorem Layer.isOptional_iff (layer : Layer) :
    layer.isOptional = true ↔ ∃ text, layer = (.optional, text) := by
  obtain ⟨wrapper, text⟩ := layer
  cases wrapper <;> simp [isOptional]

namespace Schema

-- The layers around the innermost node, from the outside.
def layers : Schema → List Layer
  | wrapped wrapper inner text => (wrapper, text) :: inner.layers
  | _ => []

def within (core : Schema) (layers : List Layer) : Schema :=
  layers.foldr (fun layer inner => wrapped layer.1 inner layer.2) core

@[simp] theorem within_nil (core : Schema) : core.within [] = core := rfl

@[simp] theorem within_cons (core : Schema) (layer : Layer) (rest : List Layer) :
    core.within (layer :: rest) = wrapped layer.1 (core.within rest) layer.2 := rfl

theorem layers_of_bare {core : Schema} (h : core.Bare) : core.layers = [] := by
  cases core with
  | wrapped wrapper inner text => exact absurd rfl (h wrapper inner text)
  | leaf | array | object | record | union => rfl

theorem innermost_of_bare {core : Schema} (h : core.Bare) : core.innermost = core := by
  cases core with
  | wrapped wrapper inner text => exact absurd rfl (h wrapper inner text)
  | leaf | array | object | record | union => rfl

theorem stripOptional_of_bare {core : Schema} (h : core.Bare) : core.stripOptional = none := by
  cases core with
  | wrapped wrapper inner text => exact absurd rfl (h wrapper inner text)
  | leaf | array | object | record | union => rfl

-- A schema is its innermost node within its layers.
theorem innermost_within_layers (schema : Schema) :
    schema.innermost.within schema.layers = schema := by
  induction schema using layer_induction with
  | bare schema hbare _ => rw [innermost_of_bare hbare, layers_of_bare hbare, within_nil]
  | layer wrapper inner text ih => rw [layers, innermost, within_cons, ih]

theorem eq_of_layers {a b : Schema} (hinnermost : a.innermost = b.innermost)
    (hlayers : a.layers = b.layers) : a = b := by
  rw [← innermost_within_layers a, hinnermost, hlayers, innermost_within_layers]

theorem layers_within (core : Schema) (layers : List Layer) :
    (core.within layers).layers = layers ++ core.layers := by
  induction layers with
  | nil => rfl
  | cons layer rest ih => rw [within_cons, Schema.layers, ih, List.cons_append]

theorem isArray_iff (schema : Schema) :
    schema.isArray = true ↔ ∃ items limits text, schema.innermost = .array items limits text := by
  induction schema using layer_induction with
  | bare schema hbare _ =>
    cases schema with
    | wrapped wrapper inner text => exact absurd rfl (hbare wrapper inner text)
    | leaf | array | object | record | union => simp [isArray, innermost]
  | layer wrapper inner text ih => exact ih

theorem isArray_within (core : Schema) (layers : List Layer) :
    (core.within layers).isArray = core.isArray := by
  induction layers with
  | nil => rfl
  | cons layer rest ih => exact ih

theorem stripOptional_within (core : Schema) {layers : List Layer}
    (h : ∀ layer ∈ layers, layer.isTransparent = true) :
    (core.within layers).stripOptional =
      core.stripOptional.map fun stripped => stripped.within layers := by
  induction layers with
  | nil => simp
  | cons layer rest ih =>
    obtain ⟨hlayer, hrest⟩ := List.forall_mem_cons.mp h
    obtain ⟨wrapper, text⟩ := layer
    cases wrapper with
    | optional | refine message => cases hlayer
    | nullable | default value =>
      rw [within_cons, stripOptional, ih hrest, Option.map_map]
      rfl

-- The outermost optional layer of a schema, if all layers before it are looked through.
structure OptionalAt (schema : Schema) (before : List Layer) (inner : Schema)
    (text : Option String) : Prop where
  eq : schema = (wrapped .optional inner text).within before
  transparent : ∀ layer ∈ before, layer.isTransparent = true

theorem OptionalAt.layer {schema : Schema} {before : List Layer} {inner : Schema}
    {text : Option String} (h : schema.OptionalAt before inner text) {wrapper : Wrapper}
    {outer : Option String} (hlayer : Layer.isTransparent (wrapper, outer) = true) :
    (wrapped wrapper schema outer).OptionalAt ((wrapper, outer) :: before) inner text := by
  obtain ⟨rfl, htransparent⟩ := h
  exact ⟨rfl, List.forall_mem_cons.mpr ⟨hlayer, htransparent⟩⟩

theorem OptionalAt.stripOptional {schema : Schema} {before : List Layer} {inner : Schema}
    {text : Option String} (h : schema.OptionalAt before inner text) :
    schema.stripOptional = some (inner.within before) := by
  obtain ⟨rfl, htransparent⟩ := h
  rw [stripOptional_within _ htransparent]
  rfl

theorem exists_optionalAt {schema stripped : Schema} (h : schema.stripOptional = some stripped) :
    ∃ before inner text, schema.OptionalAt before inner text := by
  fun_induction stripOptional schema generalizing stripped with
  | case1 inner text => exact ⟨[], inner, text, rfl, nofun⟩
  | case2 value below outer ih | case3 below outer ih =>
    obtain ⟨part, hpart, _⟩ := Option.map_eq_some_iff.mp h
    obtain ⟨before, inner, text, hat⟩ := ih hpart
    exact ⟨_, inner, text, hat.layer rfl⟩
  | case4 => cases h

theorem stripOptional_eq_some_iff (schema stripped : Schema) :
    schema.stripOptional = some stripped ↔
      ∃ before inner text, schema.OptionalAt before inner text ∧
        stripped = inner.within before := by
  constructor
  · intro h
    obtain ⟨before, inner, text, hat⟩ := exists_optionalAt h
    exact ⟨before, inner, text, hat, Option.some.inj (h.symm.trans hat.stripOptional)⟩
  · rintro ⟨before, inner, text, hat, rfl⟩
    exact hat.stripOptional

theorem isOptional_of_stripOptional {schema stripped : Schema}
    (h : schema.stripOptional = some stripped) : schema.isOptional = true := by
  fun_induction stripOptional schema generalizing stripped with
  | case1 | case2 => rfl
  | case3 inner text ih =>
    obtain ⟨part, hpart, _⟩ := Option.map_eq_some_iff.mp h
    exact ih hpart
  | case4 => cases h

theorem isArray_of_stripOptional {schema stripped : Schema}
    (h : schema.stripOptional = some stripped) : stripped.isArray = schema.isArray := by
  obtain ⟨before, inner, text, ⟨rfl, _⟩, rfl⟩ := (stripOptional_eq_some_iff ..).mp h
  rw [isArray_within, isArray_within]
  rfl

-- The layers that the search for optional ones comes by.
def chain (schema : Schema) : List Layer := schema.layers.takeWhile Layer.isPassed

def optionalCount (schema : Schema) : Nat := schema.chain.countP Layer.isOptional

-- What is left when an optional layer has been taken away as often as the number says.
def stripTimes : Nat → Schema → Option Schema
  | 0, schema => some schema
  | n + 1, schema => schema.stripOptional.bind (stripTimes n)

theorem chain_within (core : Schema) {layers : List Layer}
    (h : ∀ layer ∈ layers, layer.isTransparent = true) :
    (core.within layers).chain = layers ++ core.chain := by
  rw [chain, layers_within]
  apply List.takeWhile_append_of_pos
  intro layer hm
  rw [Layer.isPassed, h layer hm, Bool.or_true]

theorem OptionalAt.optionalCount {schema : Schema} {before : List Layer} {inner : Schema}
    {text : Option String} (h : schema.OptionalAt before inner text) :
    schema.optionalCount = (inner.within before).optionalCount + 1 := by
  obtain ⟨rfl, htransparent⟩ := h
  rw [Schema.optionalCount, Schema.optionalCount, chain_within _ htransparent,
    chain_within _ htransparent, List.countP_append, List.countP_append, Nat.add_assoc]
  congr 1
  exact List.countP_cons_of_pos rfl

theorem optionalCount_of_stripOptional {schema : Schema} (h : schema.stripOptional = none) :
    schema.optionalCount = 0 := by
  fun_induction stripOptional schema with
  | case1 => cases h
  | case2 value inner text ih | case3 inner text ih => exact ih (Option.map_eq_none_iff.mp h)
  | case4 other hoptional hdefault hnullable =>
    -- The search has come to its end: at a refinement, or at the innermost node.
    cases other with
    | leaf | array | object | record | union => rfl
    | wrapped wrapper inner text =>
      cases wrapper with
      | optional => exact absurd rfl (hoptional inner text)
      | default value => exact absurd rfl (hdefault value inner text)
      | nullable => exact absurd rfl (hnullable inner text)
      | refine message => rfl

theorem isSome_stripOptional_iff (schema : Schema) :
    schema.stripOptional.isSome = true ↔ 0 < schema.optionalCount := by
  cases hstrip : schema.stripOptional with
  | none =>
    rw [optionalCount_of_stripOptional hstrip]
    exact iff_of_false nofun (Nat.lt_irrefl 0)
  | some stripped =>
    obtain ⟨before, inner, text, hat⟩ := exists_optionalAt hstrip
    rw [hat.optionalCount]
    exact iff_of_true rfl (Nat.succ_pos _)

-- With each step there is one optional layer less on the way.
theorem isSome_stripTimes_iff (n : Nat) (schema : Schema) :
    (stripTimes n schema).isSome = true ↔ n ≤ schema.optionalCount := by
  induction n generalizing schema with
  | zero => exact iff_of_true rfl (Nat.zero_le _)
  | succ n ih =>
    rw [stripTimes]
    cases hstrip : schema.stripOptional with
    | none =>
      rw [optionalCount_of_stripOptional hstrip]
      exact iff_of_false nofun (Nat.not_succ_le_zero n)
    | some stripped =>
      obtain ⟨before, inner, text, hat, rfl⟩ := (stripOptional_eq_some_iff ..).mp hstrip
      rw [Option.bind_some, ih, hat.optionalCount]
      exact Nat.succ_le_succ_iff.symm

-- What is taken away is the outermost optional layer that lies under nothing but defaults and
-- nullability. What is around it and below it stays as it is.
theorem outermost_optional_stripped (schema : Schema) :
    (∀ stripped, schema.stripOptional = some stripped ↔
      ∃ before inner text, schema.OptionalAt before inner text ∧
        stripped = inner.within before) ∧
    (schema.stripOptional.isSome = true ↔ ∃ text, (.optional, text) ∈ schema.chain) ∧
    (∀ stripped, schema.stripOptional = some stripped →
      schema.isOptional = true ∧ stripped.isArray = schema.isArray) ∧
    ∀ n, (stripTimes n schema).isSome = true ↔ n ≤ schema.optionalCount := by
  refine ⟨stripOptional_eq_some_iff schema, ?_,
    fun stripped h => ⟨isOptional_of_stripOptional h, isArray_of_stripOptional h⟩,
    fun n => isSome_stripTimes_iff n schema⟩
  rw [isSome_stripOptional_iff, optionalCount, List.countP_pos_iff]
  constructor
  · rintro ⟨layer, hm, hlayer⟩
    obtain ⟨text, rfl⟩ := (Layer.isOptional_iff layer).mp hlayer
    exact ⟨text, hm⟩
  · rintro ⟨text, hm⟩
    exact ⟨_, hm, rfl⟩

-- A list that three layers allow to be left out, one of them out of reach below a refinement.
def pageSizes : Schema :=
  (arrayOf integer).within [
    (.default .null, some "Sizes"), (.nullable, none), (.optional, some "Given sizes"),
    (.nullable, some "Sizes or null"), (.optional, none), (.refine (some "sorted"), none),
    (.optional, some "Sorted sizes")]

def givenPageSizes : Schema :=
  (arrayOf integer).within [
    (.default .null, some "Sizes"), (.nullable, none), (.nullable, some "Sizes or null"),
    (.optional, none), (.refine (some "sorted"), none), (.optional, some "Sorted sizes")]

theorem outermost_optional_stripped_pageSizes :
    pageSizes.stripOptional = some givenPageSizes ∧ pageSizes.isOptional = true ∧
    givenPageSizes.isArray = pageSizes.isArray ∧ (stripTimes 2 pageSizes).isSome = true ∧
    stripTimes 3 pageSizes = none := by
  obtain ⟨hstrips, -, hasked, hsteps⟩ := outermost_optional_stripped pageSizes
  have hat : pageSizes.OptionalAt [(.default .null, some "Sizes"), (.nullable, none)] _
      (some "Given sizes") := ⟨rfl, by simp [Layer.isTransparent]⟩
  have hgiven : pageSizes.stripOptional = some givenPageSizes :=
    (hstrips givenPageSizes).mpr ⟨_, _, _, hat, rfl⟩
  refine ⟨hgiven, (hasked _ hgiven).1, (hasked _ hgiven).2, (hsteps 2).mpr (by decide), ?_⟩
  rw [← Option.not_isSome_iff_eq_none, hsteps 3]
  decide

end Schema

end ApiDescription
