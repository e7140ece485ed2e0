import ApiDescription.Document.Operation
import ApiDescription.Proofs.Entries

namespace ApiDescription

namespace Json

-- A response as a document shows it.
def response (text : String) (schema : Json) : Json :=
  .object [("description", .string text), ("content", .object [("application/json",
    .object [("schema", schema)])])]

end Json

namespace ErrorStatus

theorem toList_key_code (value : UInt16) :
    (code value).key.toList = Nat.toDigits 10 value.toNat := by
  rw [key, Nat.toString_eq_ofList_toDigits, String.toList_ofList]

-- A code can be read back from its decimal digits, and the word for the other codes has none.
theorem key_inj (a b : ErrorStatus) : a.key = b.key ↔ a = b := by
  have hword : ∀ value : UInt16, (code value).key ≠ otherwise.key := by
    intro value he
    have hd : 'd' ∈ (code value).key.toList := by
      rw [he]
      decide
    rw [toList_key_code] at hd
    have hdigit : 'd'.isDigit = true := Nat.isDigit_of_mem_toDigits (by decide) (by decide) hd
    cases hdigit
  refine ⟨fun h => ?_, congrArg key⟩
  cases a with
  | code value =>
    cases b with
    | code other =>
      have hdigits := congrArg (fun key => Nat.ofDigitChars 10 key.toList 0) h
      simp only [toList_key_code, Nat.ofDigitChars_ten_toDigits] at hdigits
      rw [UInt16.toNat_inj.mp hdigits]
    | otherwise => exact absurd h (hword value)
  | otherwise =>
    cases b with
    | code other => exact absurd h.symm (hword other)
    | otherwise => rfl

end ErrorStatus

namespace Endpoint

variable {σ : Type}

-- What an endpoint answers with a status: what the last error that is declared for it says, or the
-- success response if none is.
inductive Answers (e : Endpoint σ) : ErrorStatus → String → σ → Prop where
  | declared (before : List (ErrorResponse σ)) (error : ErrorResponse σ)
      (after : List (ErrorResponse σ)) (errors : e.errors = before ++ error :: after)
      (last : ∀ later ∈ after, later.status ≠ error.status) :
      e.Answers error.status (error.description.getD "Error") error.schema
  | success (undeclared : ∀ error ∈ e.errors, error.status ≠ .code e.successStatus) :
      e.Answers (.code e.successStatus) "Success" e.response

-- The success response in the form of a declared one.
def successAnswer (e : Endpoint σ) : ErrorResponse σ where
  status := .code e.successStatus
  description := some "Success"
  schema := e.response

def answers (e : Endpoint σ) : List (ErrorResponse σ) := e.successAnswer :: e.errors

def answerTo (e : Endpoint σ) (status : ErrorStatus) : Option (ErrorResponse σ) :=
  e.answers.findRev? fun answer => answer.status = status

theorem answers_iff (e : Endpoint σ) (status : ErrorStatus) (text : String) (schema : σ) :
    e.Answers status text schema ↔ ∃ answer, e.answerTo status = some answer ∧
      answer.description.getD "Error" = text ∧ answer.schema = schema := by
  have hanswer : ∀ answer, e.answerTo status = some answer ↔ answer.status = status ∧
      ∃ before after, e.answers = before ++ answer :: after ∧
        ∀ later ∈ after, later.status ≠ status := by
    intro answer
    rw [answerTo, findRev?_eq_some_iff]
    simp only [decide_eq_true_eq, decide_eq_false_iff_not]
  constructor
  · intro h
    cases h with
    | declared before error after herrors hlast =>
      have hanswers : e.answers = (e.successAnswer :: before) ++ error :: after :=
        congrArg (e.successAnswer :: ·) herrors
      exact ⟨error, (hanswer error).mpr ⟨rfl, _, after, hanswers, hlast⟩, rfl, rfl⟩
    | success hundeclared =>
      exact ⟨e.successAnswer, (hanswer _).mpr ⟨rfl, [], e.errors, rfl, hundeclared⟩, rfl, rfl⟩
  · rintro ⟨answer, hfound, rfl, rfl⟩
    obtain ⟨rfl, before, after, hanswers, hlast⟩ := (hanswer answer).mp hfound
    cases before with
    | nil =>
      obtain ⟨rfl, rfl⟩ := List.cons.inj hanswers
      exact .success hlast
    | cons first before => exact .declared before answer after (List.cons.inj hanswers).2 hlast

variable [SchemaView σ]

def answerEntry (answer : ErrorResponse σ) : String × Json :=
  (answer.status.key, responseEntry (answer.description.getD "Error") answer.schema)

theorem responses_eq (e : Endpoint σ) :
    e.responses = Entries.ofList (e.answers.map answerEntry) := rfl

theorem get?_responses (e : Endpoint σ) (status : ErrorStatus) :
    e.responses.get? status.key = (e.answerTo status).map fun answer =>
      responseEntry (answer.description.getD "Error") answer.schema := by
  rw [responses_eq, Entries.get?_ofList, ← List.map_reverse, answerTo,
    List.findRev?_eq_find?_reverse]
  show Entries.get? (e.answers.reverse.map fun answer => (answer.status.key,
    responseEntry (answer.description.getD "Error") answer.schema)) status.key = _
  rw [Entries.get?_map]
  simp only [ErrorStatus.key_inj]

theorem keys_responses (e : Endpoint σ) :
    e.responses.keys = (e.answers.map fun answer => answer.status.key).eraseDups := by
  rw [responses_eq, Entries.keys_ofList, List.map_map]
  rfl

-- The first response with a status gives it its place, and the last one what stands there.
theorem responses_by_status (e : Endpoint σ) :
    (∀ value : UInt16, (ErrorStatus.code value).key.toList = Nat.toDigits 10 value.toNat) ∧
    (∀ a b : ErrorStatus, a.key = b.key ↔ a = b) ∧
    e.responses.keys = (toString e.successStatus.toNat ::
      e.errors.map fun error => error.status.key).eraseDups ∧
    e.responses.keys.head? = some (toString e.successStatus.toNat) ∧
    ∀ (status : ErrorStatus) (value : Json), e.responses.get? status.key = some value ↔
      ∃ text schema, e.Answers status text schema ∧
        value = Json.response text (SchemaView.toJsonSchema .openApi3 schema) := by
  refine ⟨ErrorStatus.toList_key_code, ErrorStatus.key_inj, keys_responses e, ?_,
    fun status value => ?_⟩
  · rw [keys_responses, answers, List.map_cons, List.eraseDups_cons, List.head?_cons]
    rfl
  · rw [get?_responses, Option.map_eq_some_iff]
    simp only [answers_iff]
    constructor
    · rintro ⟨answer, hanswer, rfl⟩
      exact ⟨_, _, ⟨answer, hanswer, rfl, rfl⟩, rfl⟩
    · rintro ⟨text, schema, ⟨answer, hanswer, rfl, rfl⟩, rfl⟩
      exact ⟨answer, hanswer, rfl⟩

-- Two errors take the place of the success response, one after the other, and keep it.
def memberErrors : List (ErrorResponse Schema) := [
  { status := .code 404, description := some "Unknown", schema := .string },
  { status := .code 200, description := some "Renamed", schema := .string },
  { status := .otherwise, description := some "Failure", schema := .any },
  { status := .code 200, schema := .boolean },
  { status := .code 404, description := some "Gone", schema := .null }]

def memberEndpoint : Endpoint Schema where
  method := .get
  path := "/members/:id"
  operationId := "getMember"
  response := .string
  errors := memberErrors

theorem responses_by_status_member :
    memberEndpoint.responses.keys = ["200", "404", "default"] ∧
    memberEndpoint.Answers (.code 200) "Error" .boolean ∧
    memberEndpoint.responses.get? "200" =
      some (Json.response "Error" (.object [("type", .string "boolean")])) ∧
    memberEndpoint.Answers (.code 404) "Gone" .null ∧
    memberEndpoint.responses.get? "404" = some (Json.response "Gone"
      (.object [("enum", .array [.string "null"]), ("nullable", .bool true)])) ∧
    { memberEndpoint with status := some 201 }.responses.get? "201" =
      some (Json.response "Success" (.object [("type", .string "string")])) := by
  obtain ⟨-, -, hkeys, -, hanswers⟩ := responses_by_status memberEndpoint
  obtain ⟨-, -, -, -, hcreated⟩ := responses_by_status { memberEndpoint with status := some 201 }
  have hok : memberEndpoint.Answers (.code 200) "Error" .boolean :=
    .declared (memberErrors.take 3) ⟨.code 200, none, .boolean⟩ (memberErrors.drop 4) rfl
      (by decide)
  have hgone : memberEndpoint.Answers (.code 404) "Gone" .null :=
    .declared (memberErrors.take 4) ⟨.code 404, some "Gone", .null⟩ (memberErrors.drop 5) rfl
      (by decide)
  refine ⟨by rw [hkeys]; decide +kernel, hok, (hanswers (.code 200) _).mpr ⟨_, _, hok, rfl⟩, hgone,
    (hanswers (.code 404) _).mpr ⟨_, _, hgone, rfl⟩, ?_⟩
  exact (hcreated (.code 201) _).mpr ⟨_, _, .success (by decide), rfl⟩

end Endpoint

end ApiDescription
