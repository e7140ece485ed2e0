import ApiDescription.Generate
import ApiDescription.Proofs.Files.Store

namespace ApiDescription

namespace Files

variable {w : World} {made saved : Store} {name text : String}

-- A program on worlds goes on with what its first part made of the world.
theorem run_bind {σ α β : Type} {action : StateM σ α} {next : α → StateM σ β} {before after : σ}
    {value : α} (h : StateT.run action before = (value, after)) :
    StateT.run (action >>= next) before = StateT.run (next value) after := by
  rw [StateT.run_bind, h]
  rfl

theorem run_read (w : World) (name : String) :
    StateT.run (Access.read name : StateM World _) w = (w.store.read name, w) := rfl

theorem run_makeFolders {result : Except FileError Unit}
    (h : w.store.makeFolders name = (result, made)) :
    StateT.run (Access.makeFolders name : StateM World _) w =
      (result, { w with store := made }) := by
  simp only [Access.makeFolders, StateT.run_modifyGet, h]
  rfl

theorem run_write (h : w.store.write name text.toUTF8 = .ok saved) :
    StateT.run (Access.write name text : StateM World _) w =
      (.ok (), { w with store := saved }) := by
  simp only [Access.write, StateT.run_modifyGet, h]
  rfl

theorem run_save (hmade : w.store.makeParents name = (.ok (), made))
    (hsaved : made.write name text.toUTF8 = .ok saved) :
    StateT.run (Request.save name text : StateM World _) w =
      (.ok (), { w with store := saved }) := by
  rw [Request.save]
  rw [Store.makeParents] at hmade
  cases hfolder : folder? name with
  | none =>
    rw [hfolder] at hmade
    cases hmade
    exact run_write hsaved
  | some folder =>
    rw [hfolder] at hmade
    exact (run_bind (run_makeFolders hmade)).trans (run_write hsaved)

end Files

namespace Request

open Files

variable {r : Request} {w : World}

-- The ways in which a request comes to nothing before anything is written, each with what was told
-- until then.
inductive Fails (r : Request) (s : Store) : List Event → GenerateError → Prop where
  | unread {error : FileError} (hread : s.read r.input = .error error) :
    Fails r s [] (.file error)
  | undecoded {content : ByteArray} (hread : s.read r.input = .ok content)
    (htext : String.fromUTF8? content = none) : Fails r s [] (.file .notText)
  | unparsed {content : ByteArray} {text : String} {error : DefinitionError}
    (hread : s.read r.input = .ok content) (htext : String.fromUTF8? content = some text)
    (hparse : Definition.parse r.input text = .error error) : Fails r s [] (.definition error)
  | unbuilt {content : ByteArray} {text : String} {definition : Definition} {error : OutlineError}
    (hread : s.read r.input = .ok content) (htext : String.fromUTF8? content = some text)
    (hparse : Definition.parse r.input text = .ok definition)
    (hbuild : definition.document = .error error) :
    Fails r s definition.groupEvents (.outline error)

-- A request makes a text out of what its input file holds.
inductive Renders (r : Request) (s : Store) : List Event → String → Prop where
  | of {content : ByteArray} {text : String} {definition : Definition} {document : Document}
    {events : List Event}
    (hread : s.read r.input = .ok content) (htext : String.fromUTF8? content = some text)
    (hparse : Definition.parse r.input text = .ok definition)
    (hbuild : definition.document = .ok (document, events)) :
    Renders r s (definition.groupEvents ++ events) (r.chosenFormat.text document)

theorem fails_or_renders (r : Request) (s : Store) :
    (∃ events error, r.Fails s events error) ∨ ∃ events text, r.Renders s events text := by
  cases hread : s.read r.input with
  | error error => exact .inl ⟨_, _, .unread hread⟩
  | ok content =>
    cases htext : String.fromUTF8? content with
    | none => exact .inl ⟨_, _, .undecoded hread htext⟩
    | some text =>
      cases hparse : Definition.parse r.input text with
      | error error => exact .inl ⟨_, _, .unparsed hread htext hparse⟩
      | ok definition =>
        cases hbuild : definition.document with
        | error error => exact .inl ⟨_, _, .unbuilt hread htext hparse hbuild⟩
        | ok built => exact .inr ⟨_, _, .of hread htext hparse hbuild⟩

-- What a request does to a world.
def runIn (r : Request) (w : World) : (List Event × Except GenerateError Unit) × World :=
  StateT.run (r.execute : StateM World _) w

theorem runIn_of_fails {events : List Event} {error : GenerateError}
    (h : r.Fails w.store events error) : r.runIn w = ((events, .error error), w) := by
  have hrender : ∀ {content : ByteArray}, w.store.read r.input = .ok content →
      r.render content = (events, .error error) → r.runIn w = ((events, .error error), w) := by
    intro content hread hrender
    rw [runIn, execute, run_bind (run_read w r.input), hread]
    dsimp only
    rw [hrender]
    rfl
  cases h with
  | unread hread =>
    rw [runIn, execute, run_bind (run_read w r.input), hread]
    rfl
  | undecoded hread htext => exact hrender hread (by rw [render, htext])
  | unparsed hread htext hparse => exact hrender hread (by simp only [render, htext, hparse])
  | unbuilt hread htext hparse hbuild =>
    exact hrender hread (by simp only [render, htext, hparse, hbuild])

theorem runIn_of_renders_none {events : List Event} {text : String}
    (h : r.Renders w.store events text) (houtput : r.output = none) :
    r.runIn w = ((events, .ok ()), { w with printed := w.printed ++ (text ++ "\n") }) := by
  obtain ⟨hread, htext, hparse, hbuild⟩ := h
  rw [runIn, execute, run_bind (run_read w r.input), hread]
  simp only [render, htext, hparse, hbuild, houtput]
  rfl

theorem runIn_of_renders_some {events : List Event} {text name : String} {made saved : Store}
    (h : r.Renders w.store events text) (houtput : r.output = some name)
    (hmade : w.store.makeParents name = (.ok (), made))
    (hsaved : made.write name text.toUTF8 = .ok saved) :
    r.runIn w = ((events ++ [.saved r.input name], .ok ()), { w with store := saved }) := by
  obtain ⟨hread, htext, hparse, hbuild⟩ := h
  rw [runIn, execute, run_bind (run_read w r.input), hread]
  simp only [render, htext, hparse, hbuild, houtput]
  rw [run_bind (run_save hmade hsaved)]
  rfl

-- A request fails before it changes anything, or it makes its text and then does nothing but put
-- it where it belongs. It does not matter what is there, not even if it is the input.
theorem all_or_nothing (r : Request) (w : World) :
    ((∃ events error, r.Fails w.store events error) ∨
      ∃ events text, r.Renders w.store events text) ∧
    (∀ events error, r.Fails w.store events error → r.runIn w = ((events, .error error), w)) ∧
    ∀ events text, r.Renders w.store events text →
      (r.output = none →
        r.runIn w = ((events, .ok ()), { w with printed := w.printed ++ (text ++ "\n") })) ∧
      ∀ name made saved, r.output = some name → w.store.makeParents name = (.ok (), made) →
        made.write name text.toUTF8 = .ok saved →
        r.runIn w = ((events ++ [.saved r.input name], .ok ()), { w with store := saved }) ∧
        w.store.Saved saved name text.toUTF8 ∧ saved.read name = .ok text.toUTF8 ∧
        ∀ other old, w.store.read other = .ok old → saved.read other =
          .ok (if w.store.place other = w.store.place name then text.toUTF8 else old) := by
  refine ⟨fails_or_renders r w.store, fun _ _ => runIn_of_fails, fun events text hrenders =>
    ⟨runIn_of_renders_none hrenders, fun name made saved houtput hmade hwrite => ?_⟩⟩
  have hsaved := Store.saved_of_write hmade hwrite
  exact ⟨runIn_of_renders_some hrenders houtput hmade hwrite, hsaved, Store.read_of_write hwrite,
    fun _ _ => hsaved.read_of_read⟩

def bareText : String := "\x7b\"apis\":[]\x7d"

def bareDocument : Document where
  value := .object [
    ("openapi", .string "3.0.0"),
    ("info", .object [
      ("title", .string "oasgen : add an info object to the conversion options"),
      ("version", .string "1.0.0")]),
    ("paths", .object [])]

def bareJson : String := bareDocument.value.prettyText

-- A world with one file. It is the input, and also the output under a name that needs a new folder.
def bareWorld : World where
  store := { items := [(["api.json"], .file bareText.toUTF8)] }

def bareRequest (output : Option String) : Request where
  input := "api.json"
  output := output

def bareMade : Store where
  items := [(["new"], .folder), (["api.json"], .file bareText.toUTF8)]

def bareSaved : Store where
  items := [(["api.json"], .file bareJson.toUTF8), (["new"], .folder)]

theorem renders_bare (output : Option String) (h : (bareRequest output).chosenFormat = .json) :
    (bareRequest output).Renders bareWorld.store [] bareJson := by
  have hread : bareWorld.store.read "api.json" = .ok bareText.toUTF8 := by rfl
  have htext : String.fromUTF8? bareText.toUTF8 = some bareText := dif_pos bareText.isValidUTF8
  have hparse : Definition.parse "api.json" bareText = .ok { groups := [] } := by
    have htree : Json.readTree? bareText = some (.map [(.atom (.string "apis"), .list [])]) := by
      cbv
    rw [Definition.parse, if_pos (by decide +kernel), htree]
    rfl
  have hbuild : Definition.document { groups := [] } = .ok (bareDocument, []) := by rfl
  have hrenders : (bareRequest output).Renders bareWorld.store _ _ :=
    .of hread htext hparse hbuild
  rw [h] at hrenders
  exact hrenders

theorem all_or_nothing_bare :
    (bareRequest none).runIn bareWorld =
      (([], .ok ()), { bareWorld with printed := bareWorld.printed ++ (bareJson ++ "\n") }) ∧
    (bareRequest (some "new/../api.json")).runIn bareWorld =
      (([.saved "api.json" "new/../api.json"], .ok ()), { bareWorld with store := bareSaved }) ∧
    bareSaved.read "api.json" = .ok bareJson.toUTF8 ∧
    Request.runIn { input := "none.json", output := some "new/api.json" } bareWorld =
      (([], .error (.file .missing)), bareWorld) := by
  have hread : bareWorld.store.read "api.json" = .ok bareText.toUTF8 := by rfl
  have hmade : bareWorld.store.makeParents "new/../api.json" = (.ok (), bareMade) := by rfl
  have hsaved : bareMade.write "new/../api.json" bareJson.toUTF8 = .ok bareSaved := by rfl
  obtain ⟨hrun, -, -, hall⟩ := (all_or_nothing (bareRequest (some "new/../api.json")) bareWorld).2.2
    [] bareJson (renders_bare _ (by rfl)) |>.2 _ _ _ rfl hmade hsaved
  refine ⟨?_, hrun, ?_, ?_⟩
  · exact ((all_or_nothing _ _).2.2 _ _ (renders_bare none (by rfl))).1 rfl
  · exact (hall "api.json" _ hread).trans (congrArg _ (if_pos (by rfl)))
  · exact (all_or_nothing _ _).2.1 _ _ (.unread (by rfl))

end Request

end ApiDescription
