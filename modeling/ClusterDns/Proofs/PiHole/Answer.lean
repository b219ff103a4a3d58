import ClusterDns.PiHole.Client
import ClusterDns.Proofs.Json.RoundTrip
import ClusterDns.Proofs.Text.Utf8
import ClusterDns.Rehearsal.PiHoleServer
import Mathlib

/-! A Pi-hole's answers as its client reads them. -/

namespace ClusterDns.PiHole

open Rehearsal (PiHoleServer)
open Rehearsal.PiHoleServer (withJson failure)

theorem value?_withJson (status : Nat) {json : Json} (h : json.Whole) :
    Answer.value? (withJson status json).body = some json := by
  simp [Answer.value?, withJson, Json.parse?_render h]

theorem text_withJson (status : Nat) (json : Json) :
    (withJson status json).text = json.render := by
  simp [Http.Response.text, withJson]

theorem mapM_string? (texts : List String) :
    texts.mapM (Json.string? ∘ Json.string) = some texts := by
  induction texts with
  | nil => rfl
  | cons text rest ih => simp [List.mapM_cons, ih, Json.string?]

/-- The list of hosts is read entry for entry. -/
theorem hosts?_hostsAnswer (server : PiHoleServer) :
    Answer.hosts? server.hostsAnswer.body = some server.hosts := by
  have hwhole := (((Json.Whole.strings server.hosts).single "hosts").single "dns").single "config"
  have hvalue := value?_withJson 200 hwhole
  simp [Answer.hosts?, PiHoleServer.hostsAnswer, hvalue, Json.fields?, Answer.texts?,
    Json.Members.get?_cons, Json.items?, mapM_string?]

/-- A session is read with its id and the time it is told to be valid. -/
theorem grant?_grant {server : PiHoleServer} (h : server.validitySecs < Time.secsBound) :
    Answer.grant? server.grant.1.body =
      some ⟨s!"sid-{server.granted + 1}", .ofSecs server.validitySecs h⟩ := by
  have hwhole : Json.Whole (.object [("valid", .bool true),
      ("sid", .string s!"sid-{server.granted + 1}"), ("csrf", .string "csrf"),
      ("validity", .ofNat server.validitySecs)]) := by
    refine .object ?_
    simp only [List.forall_mem_cons]
    exact ⟨.bool true, .string _, .string _, .number _, fun _ hm => nomatch hm⟩
  have hvalue := value?_withJson 200 (hwhole.single "session")
  have htime : Answer.time? (some (.ofNat server.validitySecs)) =
      some (.ofSecs server.validitySecs h) := by
    simp [Answer.time?, Json.ofNat, Json.nat?, Time.Duration.ofParts?, Time.Duration.ofSecs, h,
      Time.nanosPerSecond]
  simp only [Answer.grant?, PiHoleServer.grant, hvalue]
  simp [Json.fields?, Json.Members.get?_cons, htime,
    Answer.string?]

/-- What the client says about an entry whose name is taken. -/
theorem apiError_failure (status : Nat) (key message : String) :
    Client.apiError (failure status key message) = .api status (Json.render
      (.object [("error", .object [("key", .string key), ("message", .string message)])])) := by
  have htext : (failure status key message).text = _ := text_withJson status _
  have hshown : Text.isBlankText (failure status key message).text.toList = false := by
    rw [htext, Json.toList_render_object]
    simp [Text.isBlankText, Text.isBlank]
  have hstatus : (failure status key message).status = status := rfl
  simp only [Client.apiError, hshown, hstatus]
  rw [htext]
  rfl

end ClusterDns.PiHole
