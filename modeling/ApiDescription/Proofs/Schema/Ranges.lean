import ApiDescription.Proofs.Schema.Constraints
import ApiDescription.Proofs.Schema.Layers
import Mathlib.Algebra.Order.Ring.Rat
import Mathlib.Tactic.TFAE

namespace ApiDescription

def Double.toRat (d : Double) : ℚ :=
  (if d.negative then -1 else 1) * d.significand * 2 ^ d.scale

-- What a number is, whichever way it is kept.
def Number.toRat : Number → ℚ
  | integer value _ => value
  | double value => value.toRat

theorem Number.toRat_zero : Number.zero.toRat = 0 := Int.cast_zero

namespace Bound

-- Whether a number is on the right side of a lower bound.
def Below : Bound → ℚ → Prop
  | ⟨limit, false⟩, x => limit.toRat ≤ x
  | ⟨limit, true⟩, x => limit.toRat < x

def Above : Bound → ℚ → Prop
  | ⟨limit, false⟩, x => x ≤ limit.toRat
  | ⟨limit, true⟩, x => x < limit.toRat

end Bound

-- Whether a number lies between the bounds, of which either may be missing.
structure NumberLimits.Admits (limits : NumberLimits) (x : ℚ) : Prop where
  minimum : ∀ bound ∈ limits.minimum, bound.Below x
  maximum : ∀ bound ∈ limits.maximum, bound.Above x

namespace Json

-- A bound of OpenAPI 3.0 includes its limit, unless a flag beside it says that it does not.
structure AdmitsOpenApi3 (schema : Json) (x : ℚ) : Prop where
  minimum : ∀ limit, schema.get? "minimum" = some (number limit) →
    limit.toRat ≤ x ∧ (schema.get? "exclusiveMinimum" = some (bool true) → limit.toRat < x)
  maximum : ∀ limit, schema.get? "maximum" = some (number limit) →
    x ≤ limit.toRat ∧ (schema.get? "exclusiveMaximum" = some (bool true) → x < limit.toRat)

-- In the seventh draft the bounds that include their limits and those that do not are apart.
structure AdmitsDraft7 (schema : Json) (x : ℚ) : Prop where
  minimum : ∀ limit, schema.get? "minimum" = some (number limit) → limit.toRat ≤ x
  exclusiveMinimum : ∀ limit, schema.get? "exclusiveMinimum" = some (number limit) →
    limit.toRat < x
  maximum : ∀ limit, schema.get? "maximum" = some (number limit) → x ≤ limit.toRat
  exclusiveMaximum : ∀ limit, schema.get? "exclusiveMaximum" = some (number limit) →
    x < limit.toRat

end Json

-- A call that sets one end of a range.
inductive RangeCall where
  | min (limit : Number)
  | gt (limit : Number)
  | max (limit : Number)
  | lt (limit : Number)
  | positive
  | nonnegative
  | negative
  | nonpositive

namespace RangeCall

def modifier : RangeCall → Modifier
  | min limit => .min limit
  | gt limit => .gt limit
  | max limit => .max limit
  | lt limit => .lt limit
  | positive => .positive
  | nonnegative => .nonnegative
  | negative => .negative
  | nonpositive => .nonpositive

-- What a call asks of numbers from below, if it is about that end.
def lower? : RangeCall → Option (ℚ → Prop)
  | min limit => some fun x => limit.toRat ≤ x
  | gt limit => some fun x => limit.toRat < x
  | positive => some fun x => 0 < x
  | nonnegative => some fun x => 0 ≤ x
  | max _ | lt _ | negative | nonpositive => none

def upper? : RangeCall → Option (ℚ → Prop)
  | max limit => some fun x => x ≤ limit.toRat
  | lt limit => some fun x => x < limit.toRat
  | negative => some fun x => x < 0
  | nonpositive => some fun x => x ≤ 0
  | min _ | gt _ | positive | nonnegative => none

-- The bound that a call leaves at its end.
def minimum? (call : RangeCall) : Option Bound :=
  match call.modifier with
  | .minimum bound => some bound
  | _ => none

def maximum? (call : RangeCall) : Option Bound :=
  match call.modifier with
  | .maximum bound => some bound
  | _ => none

theorem lower?_eq (call : RangeCall) : call.lower? = call.minimum?.map Bound.Below := by
  cases call with
  | positive | nonnegative =>
    apply congrArg some
    funext x
    show _ = Bound.Below ⟨.zero, _⟩ x
    rw [Bound.Below, Number.toRat_zero]
  | min | gt | max | lt | negative | nonpositive => rfl

theorem upper?_eq (call : RangeCall) : call.upper? = call.maximum?.map Bound.Above := by
  cases call with
  | negative | nonpositive =>
    apply congrArg some
    funext x
    show _ = Bound.Above ⟨.zero, _⟩ x
    rw [Bound.Above, Number.toRat_zero]
  | min | gt | max | lt | positive | nonnegative => rfl

-- A call replaces the bound at its own end, and leaves the other end.
theorem onNumber_modifier (call : RangeCall) (limits : NumberLimits) :
    call.modifier.onNumber limits = { limits with
      minimum := call.minimum?.or limits.minimum
      maximum := call.maximum?.or limits.maximum } := by
  cases call <;> rfl

-- The last call for an end counts.
theorem onNumber_modifiers (calls : List RangeCall) (limits : NumberLimits) :
    (calls.map modifier).foldl (fun limits m => m.onNumber limits) limits = { limits with
      minimum := (calls.filterMap minimum?).getLast?.or limits.minimum
      maximum := (calls.filterMap maximum?).getLast?.or limits.maximum } := by
  induction calls using List.reverseRecOn with
  | nil => rfl
  | append_singleton calls call ih =>
    rw [List.map_append, List.foldl_append, ih]
    show call.modifier.onNumber _ = _
    rw [onNumber_modifier]
    have hlast : ∀ (bound? : RangeCall → Option Bound) (own : Option Bound),
        (bound? call).or ((calls.filterMap bound?).getLast?.or own) =
          ((calls ++ [call]).filterMap bound?).getLast?.or own := by
      intro bound? own
      rw [List.filterMap_append]
      cases h : bound? call <;> simp [h]
    simp only [hlast]

end RangeCall

namespace Schema

open Json (field field?)

-- What the calls ask of a number. Where there is no call for one end, the node's own bound asks.
structure Asks (limits : NumberLimits) (calls : List RangeCall) (x : ℚ) : Prop where
  lower : ∀ p ∈ (calls.filterMap RangeCall.lower?).getLast?.or (limits.minimum.map Bound.Below), p x
  upper : ∀ p ∈ (calls.filterMap RangeCall.upper?).getLast?.or (limits.maximum.map Bound.Above), p x

theorem constrain_number (limits : NumberLimits) (text : Option String) (ms : List Modifier) :
    (leaf (.number limits) text).constrain ms =
      leaf (.number (ms.foldl (fun limits m => m.onNumber limits) limits)) text := by
  induction ms generalizing limits with
  | nil => rfl
  | cons m rest ih => exact ih (m.onNumber limits)

-- What is asked from one end is what the last bound for it asks.
theorem forall_asked_iff (asked? : RangeCall → Option (ℚ → Prop))
    (bound? : RangeCall → Option Bound) (holds : Bound → ℚ → Prop)
    (h : ∀ call, asked? call = (bound? call).map holds) (calls : List RangeCall)
    (own : Option Bound) (x : ℚ) :
    (∀ p ∈ (calls.filterMap asked?).getLast?.or (own.map holds), p x) ↔
      ∀ bound ∈ (calls.filterMap bound?).getLast?.or own, holds bound x := by
  have hcalls : calls.filterMap asked? = (calls.filterMap bound?).map holds := by
    rw [funext h, List.map_filterMap]
  rw [hcalls, List.getLast?_map, ← Option.map_or]
  simp

theorem asks_iff (limits : NumberLimits) (calls : List RangeCall) (x : ℚ) :
    Asks limits calls x ↔ ((calls.map RangeCall.modifier).foldl
      (fun limits m => m.onNumber limits) limits).Admits x := by
  have hlower := forall_asked_iff _ _ _ RangeCall.lower?_eq calls limits.minimum x
  have hupper := forall_asked_iff _ _ _ RangeCall.upper?_eq calls limits.maximum x
  rw [RangeCall.onNumber_modifiers]
  exact ⟨fun h => ⟨hlower.mp h.lower, hupper.mp h.upper⟩,
    fun h => ⟨hlower.mpr h.minimum, hupper.mpr h.maximum⟩⟩

-- What stands in an export for one end of a range.
def shownBound (dialect : Dialect) (name exclusiveName : String) (bound : Option Bound) :
    Entries Json := present (boundEntries dialect name exclusiveName bound)

theorem get?_exportNumber (dialect : Dialect) (limits : NumberLimits) {key : String}
    (htype : "type" ≠ key) (hstep : "multipleOf" ≠ key) : (exportNumber dialect limits).get? key =
      ((shownBound dialect "minimum" "exclusiveMinimum" limits.minimum).get? key).or
        ((shownBound dialect "maximum" "exclusiveMaximum" limits.maximum).get? key) := by
  have hfirst : Entries.get? (present [typed (if limits.integer then "integer" else "number")])
      key = none := by
    rw [typed, ← Json.get?_object, get?_object_present, Json.get?_present_field, if_neg htype]
    rfl
  have hlast : Entries.get? (present [field? "multipleOf" limits.multipleOf .number]) key =
      none := by
    rw [← Json.get?_object, get?_object_present, Json.get?_present_field?, if_neg hstep]
    rfl
  have hparts : exportNumber dialect limits =
      present [typed (if limits.integer then "integer" else "number")] ++
        shownBound dialect "minimum" "exclusiveMinimum" limits.minimum ++
        shownBound dialect "maximum" "exclusiveMaximum" limits.maximum ++
        present [field? "multipleOf" limits.multipleOf .number] := by
    simp only [exportNumber, shownBound, present, List.filterMap_append]
  rw [hparts, Entries.get?_append, Entries.get?_append, Entries.get?_append, hfirst, hlast,
    Option.none_or, Option.or_none]

-- Each end of a range is exported on its own, between the type and the step.
theorem get?_limits (dialect : Dialect) (limits : NumberLimits) (text : Option String)
    {key : String} (hkey : key ∉ ["type", "multipleOf", "description"]) :
    ((leaf (.number limits) text).toJsonSchema dialect).get? key =
      ((shownBound dialect "minimum" "exclusiveMinimum" limits.minimum).get? key).or
        ((shownBound dialect "maximum" "exclusiveMaximum" limits.maximum).get? key) := by
  obtain ⟨htype, hstep, htext⟩ : "type" ≠ key ∧ "multipleOf" ≠ key ∧ key ≠ "description" := by
    simpa [eq_comm] using hkey
  rw [← get?_exportNumber dialect limits htype hstep]
  exact get?_exportDescribed htext text _

theorem get?_minimum (dialect : Dialect) (limits : NumberLimits) (text : Option String)
    (key : String) (hkey : key ∈ ["minimum", "exclusiveMinimum"]) :
    ((leaf (.number limits) text).toJsonSchema dialect).get? key =
      (shownBound dialect "minimum" "exclusiveMinimum" limits.minimum).get? key := by
  have hneither : ∀ key ∈ ["minimum", "exclusiveMinimum"],
      key ∉ ["type", "multipleOf", "description"] ∧ key ∉ ["exclusiveMaximum", "maximum"] := by
    decide
  have hother : (shownBound dialect "maximum" "exclusiveMaximum" limits.maximum).get? key = none :=
    Json.get?_of_keys (keys_boundEntries ..) (hneither key hkey).2
  rw [get?_limits dialect limits text (hneither key hkey).1, hother, Option.or_none]

theorem get?_maximum (dialect : Dialect) (limits : NumberLimits) (text : Option String)
    (key : String) (hkey : key ∈ ["maximum", "exclusiveMaximum"]) :
    ((leaf (.number limits) text).toJsonSchema dialect).get? key =
      (shownBound dialect "maximum" "exclusiveMaximum" limits.maximum).get? key := by
  have hneither : ∀ key ∈ ["maximum", "exclusiveMaximum"],
      key ∉ ["type", "multipleOf", "description"] ∧ key ∉ ["exclusiveMinimum", "minimum"] := by
    decide
  have hother : (shownBound dialect "minimum" "exclusiveMinimum" limits.minimum).get? key = none :=
    Json.get?_of_keys (keys_boundEntries ..) (hneither key hkey).2
  rw [get?_limits dialect limits text (hneither key hkey).1, hother, Option.none_or]

-- What one end of a range says of a number, with its limit and without.
structure Says (holds : Bound → Prop) (within beyond : Number → Prop) : Prop where
  inclusive : ∀ limit, holds ⟨limit, false⟩ ↔ within limit
  exclusive : ∀ limit, holds ⟨limit, true⟩ ↔ beyond limit
  within : ∀ limit, beyond limit → within limit

theorem Says.openApi3_iff {holds : Bound → Prop} {within beyond : Number → Prop}
    (h : Says holds within beyond) {name exclusiveName : String} (hne : exclusiveName ≠ name)
    (bound : Option Bound) :
    (∀ limit, (shownBound .openApi3 name exclusiveName bound).get? name = some (.number limit) →
      within limit ∧ ((shownBound .openApi3 name exclusiveName bound).get? exclusiveName =
        some (.bool true) → beyond limit)) ↔ ∀ b ∈ bound, holds b := by
  rcases bound with _ | ⟨limit, _ | _⟩
  · simp [shownBound, boundEntries, present, Entries.get?]
  · simp [shownBound, boundEntries, present, field, Entries.get?, h.inclusive, hne.symm]
  · simpa [shownBound, boundEntries, present, field, Entries.get?, h.exclusive, hne]
      using h.within limit

theorem Says.draft7_iff {holds : Bound → Prop} {within beyond : Number → Prop}
    (h : Says holds within beyond) {name exclusiveName : String} (hne : exclusiveName ≠ name)
    (bound : Option Bound) :
    (∀ limit, (shownBound .draft7 name exclusiveName bound).get? name = some (.number limit) →
      within limit) ∧
    (∀ limit, (shownBound .draft7 name exclusiveName bound).get? exclusiveName =
      some (.number limit) → beyond limit) ↔ ∀ b ∈ bound, holds b := by
  rcases bound with _ | ⟨limit, _ | _⟩
  · simp [shownBound, boundEntries, present, Entries.get?]
  · simp [shownBound, boundEntries, present, field, Entries.get?, h.inclusive, hne.symm]
  · simp [shownBound, boundEntries, present, field, Entries.get?, h.exclusive, hne]

theorem says_below (x : ℚ) :
    Says (Bound.Below · x) (fun limit => limit.toRat ≤ x) fun limit => limit.toRat < x :=
  ⟨fun _ => .rfl, fun _ => .rfl, fun _ => le_of_lt⟩

theorem says_above (x : ℚ) :
    Says (Bound.Above · x) (fun limit => x ≤ limit.toRat) fun limit => x < limit.toRat :=
  ⟨fun _ => .rfl, fun _ => .rfl, fun _ => le_of_lt⟩

theorem admitsOpenApi3_iff (limits : NumberLimits) (text : Option String) (x : ℚ) :
    ((leaf (.number limits) text).toJsonSchema .openApi3).AdmitsOpenApi3 x ↔ limits.Admits x := by
  have hlower := (says_below x).openApi3_iff
    (by decide : "exclusiveMinimum" ≠ "minimum") limits.minimum
  have hupper := (says_above x).openApi3_iff
    (by decide : "exclusiveMaximum" ≠ "maximum") limits.maximum
  rw [← get?_minimum .openApi3 limits text "minimum" (by decide),
    ← get?_minimum .openApi3 limits text "exclusiveMinimum" (by decide)] at hlower
  rw [← get?_maximum .openApi3 limits text "maximum" (by decide),
    ← get?_maximum .openApi3 limits text "exclusiveMaximum" (by decide)] at hupper
  exact ⟨fun h => ⟨hlower.mp h.minimum, hupper.mp h.maximum⟩,
    fun h => ⟨hlower.mpr h.minimum, hupper.mpr h.maximum⟩⟩

theorem admitsDraft7_iff (limits : NumberLimits) (text : Option String) (x : ℚ) :
    ((leaf (.number limits) text).toJsonSchema .draft7).AdmitsDraft7 x ↔ limits.Admits x := by
  have hlower := (says_below x).draft7_iff
    (by decide : "exclusiveMinimum" ≠ "minimum") limits.minimum
  have hupper := (says_above x).draft7_iff
    (by decide : "exclusiveMaximum" ≠ "maximum") limits.maximum
  rw [← get?_minimum .draft7 limits text "minimum" (by decide),
    ← get?_minimum .draft7 limits text "exclusiveMinimum" (by decide)] at hlower
  rw [← get?_maximum .draft7 limits text "maximum" (by decide),
    ← get?_maximum .draft7 limits text "exclusiveMaximum" (by decide)] at hupper
  constructor
  · intro h
    exact ⟨hlower.mp ⟨h.minimum, h.exclusiveMinimum⟩, hupper.mp ⟨h.maximum, h.exclusiveMaximum⟩⟩
  · intro h
    obtain ⟨hminimum, hexclusiveMinimum⟩ := hlower.mpr h.minimum
    obtain ⟨hmaximum, hexclusiveMaximum⟩ := hupper.mpr h.maximum
    exact ⟨hminimum, hexclusiveMinimum, hmaximum, hexclusiveMaximum⟩

-- Whatever the calls for the ends of a range and their order, both exports describe the numbers
-- that the last call for either end asks for.
theorem ranges_exported (limits : NumberLimits) (text : Option String) (calls : List RangeCall)
    (x : ℚ) : List.TFAE [
      Asks limits calls x,
      (((leaf (.number limits) text).constrain (calls.map RangeCall.modifier)).toJsonSchema
        .openApi3).AdmitsOpenApi3 x,
      (((leaf (.number limits) text).constrain (calls.map RangeCall.modifier)).toJsonSchema
        .draft7).AdmitsDraft7 x] := by
  rw [constrain_number]
  tfae_have 1 ↔ 2 := by rw [asks_iff, admitsOpenApi3_iff]
  tfae_have 1 ↔ 3 := by rw [asks_iff, admitsDraft7_iff]
  tfae_finish

end Schema

end ApiDescription
