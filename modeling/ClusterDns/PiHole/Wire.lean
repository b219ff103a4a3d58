import ClusterDns.Http.Agent
import ClusterDns.Journal
import ClusterDns.PiHole.Error
import ClusterDns.Time.Duration

/-! What a client of a Pi-hole may ask of its surroundings. The session it keeps is shared by all
that use it at the same time, so reading, keeping and forgetting one are steps of their own. -/

namespace ClusterDns.PiHole

inductive WireRequest where
  /-- The id of the session that is kept, if it may be sent now. -/
  | cachedId
  /-- Keeps a session granted now. -/
  | keep (id : String) (validity : Time.Duration)
  | forget
  | exchange (request : Http.Request)
  | note (entry : Journal.Entry)

abbrev WireRequest.Answer : WireRequest → Type
  | cachedId => Option String
  | keep .. => Unit
  | forget => Unit
  | exchange _ => Except Http.Failure Http.Received
  | note _ => Unit

def Wire : Interface := ⟨WireRequest, WireRequest.Answer⟩

abbrev Talk (α : Type) := Attempt Wire Error α

namespace Wire

def ask (q : WireRequest) : Program Wire q.Answer := .ask (I := Wire) q .done

def cachedId : Talk (Option String) := ExceptT.lift (ask .cachedId)

def keep (id : String) (validity : Time.Duration) : Talk Unit :=
  ExceptT.lift (ask (.keep id validity))

def forget : Talk Unit := ExceptT.lift (ask .forget)

def note (level : Journal.Level) (message : String) (fields : List (String × String)) : Talk Unit :=
  ExceptT.lift (ask (.note ⟨level, message, fields.map fun (name, s) => (name, .text s)⟩))

/-- Sends a request made for a URL, under which a failure is told. -/
def exchange (url : Url) (request : Http.Request) : Talk Http.Received :=
  Attempt.rephrase
    (fun
      | .late => .timeout url.render
      | failure => .transport url.render failure.reason)
    (.ofAnswer (ask (.exchange request)))

end Wire

end ClusterDns.PiHole
