import ApiDescription.Endpoint.Reading
import ApiDescription.Proofs.Schema.Wording
import Mathlib.Logic.Relation

namespace ApiDescription

variable {σ : Type} {schema : SchemaReader σ} {medium : Medium}

theorem Parameter.overlooks_read (hschema : Overlooks (.one .schema) (schema medium)) :
    Overlooks (.one .parameter) (read schema medium) := by
  have hapart : (layout schema medium).fields.Pairwise Field.Apart := by simp [layout]
  have hfields : List.Forall₂ (Describes {}) (Subject.parameter.slots [])
      (layout schema medium).fields :=
    .cons (.required "name" (.data _)) <| .cons (.required "type" (.data _)) <|
      .cons (.option "description" rfl (.data _)) <| .cons (.required "schema" hschema) .nil
  exact (Record.overlooks (fun _ => rfl) hfields (by decide) hapart medium).bind _

theorem ErrorResponse.overlooks_read (hschema : Overlooks (.one .schema) (schema medium)) :
    Overlooks (.one .error) (read schema medium) := by
  have hapart : (layout schema medium).fields.Pairwise Field.Apart := by simp [layout]
  have hfields : List.Forall₂ (Describes {}) (Subject.error.slots [])
      (layout schema medium).fields :=
    .cons (.required "status" (.data _)) <| .cons (.option "description" rfl (.data _)) <|
      .cons (.required "schema" hschema) .nil
  exact (Record.overlooks (fun _ => rfl) hfields (by decide) hapart medium).bind _

theorem Endpoint.overlooks_read (hschema : Overlooks (.one .schema) (schema medium)) :
    Overlooks (.one .endpoint) (read schema medium) := by
  have hapart : (layout schema medium).fields.Pairwise Field.Apart := by simp [layout]
  have hfields : List.Forall₂ (Describes {}) (Subject.endpoint.slots [])
      (layout schema medium).fields :=
    .cons (.required "method" (.data _)) <| .cons (.required "path" (.data _)) <|
      .cons (.required "alias" (.data _)) <| .cons (.option "description" rfl (.data _)) <|
      .cons (.defaulted "parameters" (Parameter.overlooks_read hschema).items) <|
      .cons (.required "response" hschema) <|
      .cons (.defaulted "errors" (ErrorResponse.overlooks_read hschema).items) <|
      .cons (.option "status" rfl (.data _)) .nil
  exact (Record.overlooks (fun _ => rfl) hfields (by decide) hapart medium).bind _

-- Values that come to the same by such changes, made or taken back, are read as the same endpoint
-- or both as none. Nothing is asked of their keys: what has a key of a field twice is not read
-- anyway.
theorem wording_invisible {value other : Json}
    (h : Relation.EqvGen (Reworded (.one .endpoint)) value other) (e : Endpoint Schema) :
    Endpoint.ofJson value = .ok e ↔ Endpoint.ofJson other = .ok e := by
  have hsame : (Endpoint.ofJson value).toOption = (Endpoint.ofJson other).toOption := by
    induction h with
    | rel value other hreworded =>
      exact Endpoint.overlooks_read (Schema.overlooks_read .value) hreworded
    | refl value => rfl
    | symm _ _ _ ih => exact ih.symm
    | trans _ _ _ _ _ ih ih' => exact ih.trans ih'
  rw [← toOption_eq_some_iff, hsame, toOption_eq_some_iff]

-- An endpoint that counts something, with what is written first and the entries of its response.
def counting (first response : List (String × Json)) : Json :=
  .object (first ++ [("method", .string "get"), ("path", .string "/count"),
    ("alias", .string "count"), ("response", .object response)])

-- A status that is absent goes, an owner comes, who has no meaning for an endpoint, the kind of the
-- response moves to its end, and a unit comes, which has no meaning for a bound.
theorem wording_invisible_count :
    let terse := counting [("status", .null)]
      [("type", .string "number"), ("minimum", .object [("value", .number .zero)])]
    let wordy := counting [("owner", .string "statistics")]
      [("minimum", .object [("unit", .null), ("value", .number .zero)]), ("type", .string "number")]
    Relation.EqvGen (Reworded (.one .endpoint)) terse wordy ∧
    (∀ e, Endpoint.ofJson terse = .ok e ↔ Endpoint.ofJson wordy = .ok e) ∧
    Endpoint.ofJson wordy = .ok ⟨.get, "/count", "count", none, [],
      .leaf (.number { minimum := some { value := .zero } }) none, [], none⟩ := by
  intro terse wordy
  let response := [("type", Json.string "number"), ("minimum", .object [("value", .number .zero)])]
  let owner := [("owner", Json.string "statistics")]
  have hstatus : Reworded (.one .endpoint) (counting [] response) terse := by
    have hm : Slot.option "status" ∈ Subject.endpoint.slots [] := by simp [Subject.slots]
    exact .object .endpoint (.null hm rfl (by decide))
  have howner : Reworded (.one .endpoint) (counting [] response) (counting owner response) :=
    .object .endpoint (.unknown _ _ (by decide))
  have hresponse {entries others : List (String × Json)}
      (h : RewordedEntries (Schema.slots (Schema.kindOf? entries)) entries others) :
      Reworded (.one .endpoint) (counting owner entries) (counting owner others) := by
    have hm : ⟨"response", .one .schema, false⟩ ∈ Subject.endpoint.slots [] := by
      simp [Subject.slots]
    exact .object .endpoint (.inside [_, _, _, _] [] hm (.object .schema h))
  have hbound : RewordedEntries (Schema.slots (some .number)) response.reverse [("minimum",
      .object [("unit", .null), ("value", .number .zero)]), ("type", .string "number")] := by
    have hm : Slot.option "minimum" (.one .bound) ∈ Schema.slots (some .number) := by
      simp [Schema.slots, Schema.Kind.slots]
    exact .inside [] [_] hm (.object .bound (.unknown _ _ (by decide)))
  have hreworded : Relation.EqvGen (Reworded (.one .endpoint)) terse wordy :=
    .trans _ _ _ (.symm _ _ (.rel _ _ hstatus)) <| .trans _ _ _ (.rel _ _ howner) <|
      .trans _ _ _ (.rel _ _ (hresponse (.order (.swap _ _ _)))) (.rel _ _ (hresponse hbound))
  have hread := wording_invisible hreworded
  exact ⟨hreworded, hread, (hread _).mp rfl⟩

end ApiDescription
