import ApiDescription.Proofs.Document.Tally
import ApiDescription.Proofs.Path.Settled

namespace ApiDescription

namespace Path

-- A template with a colon before each name that it has between braces.
def restored (template : String) : String :=
  String.ofList ((templatePieces template.toList).flatMap Piece.written)

theorem restored_templated {path : String} (h : '\x7b' ∉ path.toList) :
    restored (analyze path).templated = route path := by
  rw [restored, templatePieces_analyze h, written_pieces, String.ofList_toList]

theorem templated_eq_of_route_eq {path other : String} (h : route path = route other) :
    (analyze path).templated = (analyze other).templated := by
  have hchars : routeChars path.toList = routeChars other.toList := by
    have hlists := congrArg String.toList h
    rwa [route, route, String.toList_ofList, String.toList_ofList] at hlists
  rw [analyze, analyze, hchars]

-- A route can be read back from its template, so that two routes have two templates.
theorem templated_eq_iff {path other : String} (hpath : '\x7b' ∉ path.toList)
    (hother : '\x7b' ∉ other.toList) :
    (analyze path).templated = (analyze other).templated ↔ route path = route other := by
  constructor
  · intro h
    rw [← restored_templated hpath, h, restored_templated hother]
  · exact templated_eq_of_route_eq

-- A path that has braces itself may look like the template of another one.
example : (analyze "/users/\x7bid\x7d").templated = (analyze "/users/:id").templated := by
  decide +kernel

end Path

variable {σ : Type}

-- Whether two endpoints have the same method and, up to the query and the fragment, the same path.
def Endpoint.SameRoute (e other : Endpoint σ) : Prop :=
  e.method = other.method ∧ Path.route e.path = Path.route other.path

instance (e other : Endpoint σ) : Decidable (e.SameRoute other) :=
  inferInstanceAs (Decidable (_ ∧ _))

theorem Endpoint.place_eq_iff {e other : Endpoint σ} (he : '\x7b' ∉ e.path.toList)
    (hother : '\x7b' ∉ other.path.toList) : e.place = other.place ↔ e.SameRoute other := by
  rw [place, place, Prod.mk.injEq, Path.templated_eq_iff he hother, Method.text_injective.eq_iff]
  exact and_comm

-- Of the endpoints of a place one wins, be it the one that is asked about or another one.
theorem exists_winner {placed : List (Placed σ)} {p : Placed σ} (hp : p ∈ placed) :
    ∃ w, winner placed p.key p.endpoint.method = some w ∧ w.endpoint.place = p.endpoint.place := by
  have hmaps : p.endpoint.Maps p.key p.endpoint.method := ⟨rfl, rfl⟩
  obtain ⟨w, hw, -⟩ := exists_findRev?_eq_some
    (fun q : Placed σ => q.endpoint.Maps p.key p.endpoint.method) hp (decide_eq_true hmaps)
  obtain ⟨hpath, hmethod⟩ := maps_of_winner hw
  refine ⟨w, hw, ?_⟩
  rw [Endpoint.place, hpath, hmethod]
  rfl

variable [SchemaView σ]

-- Where an endpoint finds its place taken, and where a document shows the operation of another
-- endpoint at its place: if neither has an opening brace in its path, they have the same route.
structure KeepsApart (o : Outline σ) (d : Document) (events : List Event) : Prop where
  shown : ∀ p ∈ o.placed, ∃ w, winner o.placed p.key p.endpoint.method = some w ∧
    d.operation p.key p.endpoint.method = some (w.endpoint.operation o.tags w.security) ∧
    ('\x7b' ∉ w.endpoint.path.toList → '\x7b' ∉ p.endpoint.path.toList →
      w.endpoint.SameRoute p.endpoint)
  overwritten : ∀ event ∈ told .warning "operation overwritten by a later endpoint" events,
    ∃ before e after other, o.placed.map Placed.endpoint = before ++ e :: after ∧
      event = e.overwriting ∧
      -- Of those before `e`, this one was in its place.
      before.findRev? (fun earlier => earlier.place = e.place) = some other ∧
      ('\x7b' ∉ other.path.toList → '\x7b' ∉ e.path.toList → other.SameRoute e)

theorem keepsApart_render (o : Outline σ) :
    KeepsApart o ⟨o.render⟩ (eventsAfter [] o.placed) := by
  refine ⟨fun p hp => ?_, fun event hm => ?_⟩
  · obtain ⟨w, hw, hplace⟩ := exists_winner hp
    refine ⟨w, hw, ?_, fun hwpath hpath => (Endpoint.place_eq_iff hwpath hpath).mp hplace⟩
    rw [(publishes_render o).operation, hw]
    rfl
  · rw [(accounts_render o).overwritten] at hm
    obtain ⟨e, he, rfl⟩ := List.mem_map.mp hm
    obtain ⟨before, after, hsplit, earlier, hearlier, hplace⟩ := mem_repeatsAfter he
    have hm : earlier ∈ before := by simpa using hearlier
    obtain ⟨other, hother, hsame⟩ := exists_findRev?_eq_some
      (fun earlier : Endpoint σ => earlier.place = e.place) hm (decide_eq_true hplace)
    exact ⟨before, e, after, other, hsplit, rfl, hother,
      fun hpath hepath => (Endpoint.place_eq_iff hpath hepath).mp (of_decide_eq_true hsame)⟩

def userAt (path operationId : String) : Endpoint Schema :=
  ⟨.get, path, operationId, none, [], .string, [], none⟩

-- Of four like paths only the first and the last have the same route.
def likeUsers : Outline Schema where
  info := usersInfo
  groups := [⟨[userAt "/users/:id" "getUser", userAt "/users/::id" "getMarked",
    userAt "/users/:id:" "getOpen", userAt "/users/:id?full=:full" "getFull"], none⟩]

end ApiDescription
