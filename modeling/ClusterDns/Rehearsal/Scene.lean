import ClusterDns.Rehearsal.World

/-! Runs of reconciles in a world, one call at a time. Somebody else may change things in between;
rules say what changes there are, whether they may also come while a reconcile is under way, and
which reconciles may start. -/

namespace ClusterDns.Rehearsal

open Reconcile (Request Subject Surroundings)

/-- What is observed of a run. -/
inductive Occurrence where
  | edited
  | started (subject : Subject)
  | called (q : Request) (fate : Fate) (r : q.Answer)

namespace Occurrence

/-- Whether a question is one to the cluster or to the keeper of records. -/
def IsCall : Request → Prop
  | .note _ => False
  | .count _ => False
  | _ => True

/-- What is observed of a question: nothing if it only takes note of something. -/
def ofQuestion : (q : Request) → Fate → q.Answer → List Occurrence
  | .note _, _, _ => []
  | .count _, _, _ => []
  | .fetch ref, fate, r => [called (.fetch ref) fate r]
  | .patch ref body, fate, r => [called (.patch ref body) fate r]
  | .dns q, fate, r => [called (.dns q) fate r]

/-- The events of the reconcile under way, where the last event of a run comes first. -/
def current : List Occurrence → List Occurrence
  | [] => []
  | started _ :: _ => []
  | event :: events => event :: current events

end Occurrence

/-- A world and what the reconcile under way in it has still to do. -/
structure Scene where
  world : World
  subject : Subject
  rest : Program Surroundings (Except Reconcile.Error Unit)

namespace Scene

def beginning (world : World) (subject : Subject) (defaultTarget : String) : Scene :=
  ⟨world, subject, (Reconcile.reconcile subject defaultTarget).run⟩

/-- No reconcile is under way. -/
def IsIdle (scene : Scene) : Prop := ∃ outcome, scene.rest = .done outcome

end Scene

structure Rules where
  /-- Changes by others. -/
  edit : World → World → Prop
  /-- Whether they may come between the calls of a reconcile. -/
  anytime : Prop
  /-- The reconciles there may be: of which object and with which default target. -/
  start : Subject → String → Prop

/-- A reconcile that has begun is all there is. -/
def Rules.alone : Rules := ⟨fun _ _ => False, False, fun _ _ => False⟩

/-- From one scene to the next, with what is observed of it. -/
inductive Step (rules : Rules) : Scene → List Occurrence → Scene → Prop
  | edited {scene : Scene} {world : World} :
      rules.anytime ∨ scene.IsIdle → rules.edit scene.world world →
      Step rules scene [.edited] { scene with world }
  | started {scene : Scene} {subject : Subject} {defaultTarget : String} :
      scene.IsIdle → rules.start subject defaultTarget →
      Step rules scene [.started subject] (.beginning scene.world subject defaultTarget)
  | asked {world world' : World} {subject : Subject} {q : Request}
      {next : q.Answer → Program Surroundings (Except Reconcile.Error Unit)} {fate : Fate}
      {r : q.Answer} :
      world.Answers subject.kind q fate r world' →
      Step rules ⟨world, subject, .ask (I := Surroundings) q next⟩ (Occurrence.ofQuestion q fate r)
        ⟨world', subject, next r⟩

/-- From one scene to another, with the events on the way, the last one first. -/
inductive Run (rules : Rules) (first : Scene) : List Occurrence → Scene → Prop
  | none : Run rules first [] first
  | step {events observed : List Occurrence} {scene next : Scene} :
      Run rules first events scene → Step rules scene observed next →
      Run rules first (observed ++ events) next

end ClusterDns.Rehearsal
