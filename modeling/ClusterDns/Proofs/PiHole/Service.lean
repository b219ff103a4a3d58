import ClusterDns.PiHole.Settings
import ClusterDns.Proofs.Http.Exchange
import ClusterDns.Proofs.Url.Segment

/-! What a Pi-hole does with the requests of its client. Only holders of a session are served, and
what becomes of the list of hosts depends on nothing but the list and the request. -/

namespace ClusterDns

namespace Rehearsal.PiHoleServer

open Url (IsDotted visibleText)

/-! ## Places -/

theorem place_eq_some {url : Url} {list : List String} : place url = some list ↔
    ∃ rest, url.path = .segments ("api" :: rest) ∧ rest.map Url.meaning = list := by
  unfold place
  split
  · rename_i rest hpath
    simp only [hpath, Url.Path.segments.injEq, List.cons.injEq, true_and, Option.some.injEq]
    exact ⟨fun h => ⟨rest, rfl, h⟩, fun ⟨_, he, h⟩ => he ▸ h⟩
  · rename_i hpath
    simp only [reduceCtorEq, false_iff, not_exists, not_and]
    exact fun rest hrest => absurd hrest (hpath rest)

theorem place_congr {url other : Url} (h : url.path = other.path) : place url = place other := by
  unfold place
  rw [h]

/-- A segment is understood as the text it was made of. -/
theorem place_push {url : Url} {list : List String} (h : place url = some list)
    {segment : String} (hd : ¬ IsDotted segment) :
    place (url.push segment) = some (list ++ [visibleText segment]) := by
  obtain ⟨rest, hpath, rfl⟩ := place_eq_some.mp h
  refine place_eq_some.mpr ⟨rest ++ [Url.Percent.encode url.segmentSet
    (Url.visible segment.toList)], ?_, ?_⟩
  · rw [Url.push_eq hd, hpath]
    cases rest <;> rfl
  · rw [List.map_append, List.map_singleton, Url.meaning_encode url.segmentSet_percent]
    rfl

theorem place_extend {url : Url} {list : List String} (h : place url = some list)
    {segments : List String} (hd : ∀ segment ∈ segments, ¬ IsDotted segment) :
    place (url.extend segments) = some (list ++ segments.map visibleText) := by
  induction segments generalizing url list with
  | nil => simpa [Url.extend] using h
  | cons segment rest ih =>
    obtain ⟨hsegment, hrest⟩ := List.forall_mem_cons.mp hd
    have hpush := ih (place_push h hsegment) hrest
    simpa [Url.extend] using hpush

/-! ## Requests -/

variable {server : PiHoleServer} {request : Http.Request}

theorem isRedirect_handle (server : PiHoleServer) (request : Http.Request) :
    Http.isRedirect (server.handle request).1.status = false := by
  unfold handle
  split
  · split <;> rfl
  · split
    · rfl
    · split
      · rfl
      · unfold put
        split <;> rfl
      · unfold delete
        split <;> rfl
      · rfl

/-- A request for a session with the right password. -/
theorem handle_auth (hm : request.method = .post) (hp : place request.url = some ["auth"])
    (h : server.hasPassword request = true) : server.handle request = server.grant := by
  simp [handle, hm, hp, h]

/-- Who has no session is turned away. -/
theorem handle_of_not_admitted (hm : request.method ≠ .post)
    (h : server.isAdmitted request = false) : server.handle request = (bare 401, server) := by
  unfold handle
  split
  · contradiction
  · simp [h]

section

variable (h : server.isAdmitted request = true)

include h

theorem handle_get (hm : request.method = .get)
    (hp : place request.url = some ["config", "dns", "hosts"]) :
    server.handle request = (server.hostsAnswer, server) := by
  simp [handle, hm, hp, h]

theorem handle_put (hm : request.method = .put) {entry : String}
    (hp : place request.url = some ["config", "dns", "hosts", entry]) :
    server.handle request = server.put entry := by
  simp [handle, hm, hp, h]

theorem handle_delete (hm : request.method = .delete) {entry : String}
    (hp : place request.url = some ["config", "dns", "hosts", entry]) :
    server.handle request = server.delete entry := by
  simp [handle, hm, hp, h]

end

end Rehearsal.PiHoleServer

namespace PiHole

open Rehearsal (PiHoleServer)
open Rehearsal.PiHoleServer (bare domainOf place)
open Url (IsDotted visibleText)

/-! ## Requests of a client -/

/-- The API of a Pi-hole lies below the URL of the endpoint. -/
structure Endpoint.Reaches (endpoint : Endpoint) : Prop where
  supported : Http.isSupported endpoint.base = true
  place : PiHoleServer.place endpoint.base = some []

namespace Endpoint.Reaches

variable {endpoint : Endpoint} (h : endpoint.Reaches)

include h

theorem supported_extend (segments : List String) :
    Http.isSupported (endpoint.base.extend segments) = true :=
  (Http.isSupported_congr (Url.extend_scheme _ _)).trans h.supported

theorem supported_authUrl : Http.isSupported endpoint.authUrl = true :=
  h.supported_extend ["auth"]

theorem place_authUrl : PiHoleServer.place endpoint.authUrl = some ["auth"] :=
  PiHoleServer.place_push h.place (by decide)

theorem place_hostsUrl :
    PiHoleServer.place endpoint.hostsUrl = some ["config", "dns", "hosts"] := by
  have hplain : ∀ segment ∈ ["config", "dns", "hosts"], ¬ IsDotted segment := by decide
  exact PiHoleServer.place_extend h.place hplain

theorem place_entryUrl {entry : String} (hd : ¬ IsDotted entry) :
    PiHoleServer.place (endpoint.entryUrl entry) =
      some ["config", "dns", "hosts", visibleText entry] :=
  PiHoleServer.place_push h.place_hostsUrl hd

end Endpoint.Reaches

/-- What the holder of a session gets for a request, and what becomes of the list of hosts. -/
structure IsServed (method : Http.Method) (url : Url) (response : List String → Http.Response)
    (change : List String → List String) : Prop where
  supported : Http.isSupported url = true
  admitted : method ≠ .post
  handle : ∀ {server : PiHoleServer} {request : Http.Request}, request.method = method →
    place request.url = place url → server.isAdmitted request = true →
      server.handle request = (response server.hosts, { server with hosts := change server.hosts })
  /-- Holders of a session are not turned away. -/
  status : ∀ hosts, (response hosts).status ≠ 401

/-- An entry of the same name is there. -/
def isTaken (entry : String) (hosts : List String) : Bool :=
  hosts.any fun other => domainOf other == domainOf entry

section

variable {endpoint : Endpoint} (h : endpoint.Reaches)

include h

theorem isServed_hosts : IsServed .get endpoint.hostsUrl
    (fun hosts => { hosts : PiHoleServer }.hostsAnswer) id where
  supported := h.supported_extend _
  admitted := by decide
  handle hm hp ha := PiHoleServer.handle_get ha hm (hp.trans h.place_hostsUrl)
  status hosts := by simp [PiHoleServer.hostsAnswer, PiHoleServer.withJson]

theorem isServed_put {entry : String} (hd : ¬ IsDotted entry) :
    IsServed .put (endpoint.entryUrl entry)
      (fun hosts => if isTaken (visibleText entry) hosts
        then PiHoleServer.failure 400 "bad_request" "Item already present" else bare 201)
      (fun hosts => if isTaken (visibleText entry) hosts then hosts
        else hosts ++ [visibleText entry]) where
  supported := (Http.isSupported_congr (Url.push_scheme _ _)).trans (h.supported_extend _)
  admitted := by decide
  handle hm hp ha := by
    rw [PiHoleServer.handle_put ha hm (hp.trans (h.place_entryUrl hd)), PiHoleServer.put]
    unfold isTaken
    split <;> rfl
  status hosts := by split <;> simp [PiHoleServer.failure, PiHoleServer.withJson, bare]

theorem isServed_delete {entry : String} (hd : ¬ IsDotted entry) :
    IsServed .delete (endpoint.entryUrl entry)
      (fun hosts => if hosts.contains (visibleText entry) then bare 204 else bare 404)
      (fun hosts => hosts.erase (visibleText entry)) where
  supported := (Http.isSupported_congr (Url.push_scheme _ _)).trans (h.supported_extend _)
  admitted := by decide
  handle {server request} hm hp ha := by
    rw [PiHoleServer.handle_delete ha hm (hp.trans (h.place_entryUrl hd)), PiHoleServer.delete]
    split
    · rfl
    · rename_i hmissing
      rw [List.erase_of_not_mem (by simpa using hmissing)]
  status hosts := by split <;> simp [bare]

end

end PiHole

end ClusterDns
