import ClusterDns.Proofs.Reconcile.Confinement
import ClusterDns.Proofs.Reconcile.Custody

/-! What stays behind when an object is let go. The last reconcile deletes the records of the hosts
written down on the object and no others. Hosts are written down only at the end of a reconcile
that comes to its end, so a record that was made before a failure stays behind, unless a later
reconcile has written its host down. -/

namespace ClusterDns.Reconcile

open Cluster (Kind Object Manifest.read?)
open PiHole (Record)
open Rehearsal

/-! ## Records made by a run -/

/-- The record an event put into the store. -/
def madeBy : Occurrence → Option Record
  | .called (.dns (.create r)) fate _ => if fate = .refused then none else some r
  | _ => none

/-- The records a run put into the store. -/
def made (events : List Occurrence) : List Record := events.filterMap madeBy

theorem made_cons_of_none {event : Occurrence} (h : madeBy event = none)
    (events : List Occurrence) : made (event :: events) = made events :=
  List.filterMap_cons_none h

/-- Reconciles of one object. Between them others may do anything to objects, but neither add nor
take away the finalizer nor touch the record of managed hostnames; nobody else changes records. -/
def undividedCare (subject : Subject) : Rules where
  edit w w' := (custodial subject).edit w w' ∧ w'.records = w.records
  anytime := False
  start := (custodial subject).start

/-! ## The last reconcile -/

section

variable {subject : Subject} {s : Moment} {manifest : Json} {object : Object}

/-- All hosts written down have lost their first records, and no record was made. -/
structure Cleared (hosts : List String) (s t : Moment) : Prop where
  records : t.1.records = removeAll hosts s.1.records
  made : made t.2 = made s.2

/-- One reconcile with no one else about, and calls that may fail. -/
abbrev solitary (kind : Kind) (invariant : Moment → Prop) : Contract Surroundings Moment :=
  keeping .alone kind invariant

theorem alone_eq {t : Moment} (hd : Rules.alone.Drift s t) : t = s := hd.eq id

theorem cleared_deleteHosts {noted : Subject} {hosts : List String} :
    (solitary subject.kind fun _ => True).Tries (deleteHosts noted hosts)
      (fun _ => Cleared hosts s) s := by
  have lasting : ∀ gone, Rules.alone.Lasting (Cleared gone s) := fun _ _ _ hi => hi.1.elim
  refine tries_deleteHosts (P := fun gone => Cleared gone s) lasting ?_ ⟨rfl, rfl⟩
  rintro gone host rest - t ⟨hrec, hmade⟩
  refine tries_delete fun u hd _ => ?_
  obtain rfl := alone_eq hd
  refine ⟨trivial, fun _ _ _ _ => trivial, ?_, ?_⟩
  · rw [removeAll_concat, hrec]
  · rw [made_cons_of_none rfl, hmade]

theorem cleared_cleanup :
    (solitary subject.kind fun _ => True).Tries (cleanup subject.kind object)
      (fun _ => Cleared (Annotations.managed object.annotations) s) s := by
  refine tries_cleanup (Contract.Tries.mono cleared_deleteHosts fun _ t ht => ?_)
  refine ⟨fun _ => ht, fun _ u hu => tries_patch fun v hv _ => ?_⟩
  obtain rfl := alone_eq hu
  obtain rfl := alone_eq hv
  exact ⟨trivial, fun _ _ _ _ => trivial, fun found _ => ⟨ht.records, ht.made⟩⟩

theorem cleared_release {reason : Event} (hf : object.hasFinalizer cleanupFinalizer = true) :
    (solitary subject.kind fun _ => True).Tries (release subject reason object)
      (fun _ => Cleared (Annotations.managed object.annotations) s) s := by
  refine tries_release (fun hbare => absurd hf hbare) fun _ t ht => ?_
  obtain rfl := alone_eq ht
  exact cleared_cleanup

/-- A reconcile of a held object that is being deleted or takes part no more. -/
theorem cleared_reconcile {defaultTarget : String}
    (hf : s.1.server.find? subject.ref = some manifest)
    (hr : Manifest.read? subject.kind manifest = some object)
    (held : object.hasFinalizer cleanupFinalizer = true)
    (leaving : object.isBeingDeleted = true ∨ Annotations.isRegistered object.annotations = false) :
    (solitary subject.kind fun _ => True).Tries (reconcile subject defaultTarget)
      (fun _ => Cleared (Annotations.managed object.annotations) s) s := by
  refine tries_reconcile (tries_fetch fun t hd _ => ?_)
  obtain rfl := alone_eq hd
  refine ⟨trivial, fun _ _ _ _ => trivial, fun found hfound => ?_⟩
  rw [World.fetch_of_read hf hr] at hfound
  cases hfound
  refine ⟨fun _ reason => ?_, fun stays registered => ?_⟩
  · refine Contract.Tries.mono (cleared_release held) fun _ u hu => ?_
    exact ⟨hu.records, hu.made.trans (made_cons_of_none rfl _)⟩
  · rcases leaving with h | h
    · exact absurd h (by simp [stays])
    · exact absurd h (by simp [registered])

/-- A reconcile of a held object that takes part keeps it held. -/
theorem held_reconcile {defaultTarget : String}
    (hf : s.1.server.find? subject.ref = some manifest)
    (hr : Manifest.read? subject.kind manifest = some object)
    (held : object.hasFinalizer cleanupFinalizer = true)
    (stays : ¬ (object.isBeingDeleted = true ∨
      Annotations.isRegistered object.annotations = false)) (hh : Held subject.ref s.1) :
    (Rules.alone.contract subject.kind (Permitted subject) (Guarded subject)).Tries
      (reconcile subject defaultTarget) (fun _ t => Held subject.ref t.1) s := by
  refine tries_reconcile (tries_fetch fun t hd hi => ?_)
  obtain rfl := alone_eq hd
  obtain ⟨ha, hn⟩ := guarded_call (q := .fetch subject.ref) (fun _ => rfl) (by rintro _ ⟨⟩) hi
  refine ⟨ha, fun fate r w hw => hn fate r w _ hw, fun found hfound => ?_⟩
  rw [World.fetch_of_read hf hr] at hfound
  cases hfound
  refine ⟨fun leaving => absurd leaving stays, fun _ _ => ?_⟩
  refine tries_ensureFinalizer (fun _ => ?_) fun hbare => absurd held hbare
  have hcalm : ∀ u v, Rules.alone.Drift u v → (custody subject).drift u v := by
    intro u v hd
    rw [alone_eq hd]
    exact .refl
  have hserve : (custody subject).Tries (serve subject defaultTarget object)
      (fun _ t => Held subject.ref t.1)
      (t.1, .called (.fetch subject.ref) .answered (.ok (some object)) :: t.2) :=
    custody_serve hh
  exact Contract.Secures.calmer hcalm hserve

/-- A reconcile that cannot read the object fails. -/
theorem unread_reconcile {defaultTarget : String}
    (hf : s.1.server.find? subject.ref = some manifest)
    (hr : Manifest.read? subject.kind manifest = none) :
    (solitary subject.kind fun _ => True).Tries (reconcile subject defaultTarget)
      (fun _ _ => False) s := by
  refine tries_reconcile (tries_fetch fun t hd _ => ?_)
  obtain rfl := alone_eq hd
  refine ⟨trivial, fun _ _ _ _ => trivial, fun found hfound => ?_⟩
  simp only [World.fetch, hf, World.read, hr] at hfound
  cases hfound

/-- What a reconcile tries for is so where it has ended without an error. -/
theorem holds_at_end {w : World} {past events : List Occurrence} {last : Scene}
    {allowed : Request → Moment → Prop} {invariant : Moment → Prop} {post : Unit → Moment → Prop}
    {defaultTarget : String} (hi : invariant (w, past))
    (h : (Rules.alone.contract subject.kind allowed invariant).Tries
      (reconcile subject defaultTarget) post (w, past))
    (run : Run .alone (.beginning w subject defaultTarget) events last)
    (ended : last.rest = .done (.ok ())) : post () (last.world, events ++ past) := by
  have hu : Rules.alone.Upholds allowed invariant _ last (events ++ past) := run.alone ⟨hi, h⟩
  have hend := hu.2
  rw [ended] at hend
  exact hend () rfl

/-- Where a reconcile has given up the finalizer, it has deleted all that was written down. -/
theorem cleared_of_released {w : World} {past events : List Occurrence} {last : Scene}
    {defaultTarget : String} (guarded : Guarded subject (w, past)) (held : Held subject.ref w)
    (run : Run .alone (.beginning w subject defaultTarget) events last)
    (ended : last.rest = .done (.ok ())) (gone : ¬ Held subject.ref last.world) :
    Cleared (recordedHosts subject.ref w) (w, past) (last.world, events ++ past) := by
  obtain ⟨manifest, hf, hmem⟩ := held
  cases hr : Manifest.read? subject.kind manifest with
  | none =>
    have hfail : (solitary subject.kind fun _ => True).Tries (reconcile subject defaultTarget)
        (fun _ _ => False) (w, past) := unread_reconcile hf hr
    exact (holds_at_end trivial hfail run ended).elim
  | some object =>
    have hk : Known subject manifest (w, past) :=
      ⟨guarded.versioned, guarded.versioned.pinned _ _ hf⟩
    have hfin := (hk.hasFinalizer hr).mpr hmem
    by_cases leaving : object.isBeingDeleted = true ∨
      Annotations.isRegistered object.annotations = false
    · have hosts : recordedHosts subject.ref w = Annotations.managed object.annotations := by
        rw [(hk.reads hr).2, recordedHosts, recorded?, hf]
        rfl
      rw [hosts]
      exact holds_at_end trivial (cleared_reconcile hf hr hfin leaving) run ended
    · have hstays := holds_at_end guarded
        (held_reconcile hf hr hfin leaving ⟨manifest, hf, hmem⟩) run ended
      exact absurd hstays gone

end

/-! ## Runs -/

/-- After any run of reconciles of one object that starts without a record of managed hostnames,
with any changes of the object between them and any failures in them, a reconcile lets go of the
object. Then nothing the run has made is left in the store if and only if all that was left before
that reconcile had its host written down. -/
theorem nothing_left_iff_written_down {subject : Subject} {first kept last : Scene}
    {before after : List Occurrence} {defaultTarget : String} (idle : first.IsIdle)
    (versioned : first.world.server.Versioned)
    (unrecorded : recorded? subject.ref first.world = none)
    (single : OnePerName first.world.records)
    (run : Run (undividedCare subject) first before kept)
    (release : Run .alone (.beginning kept.world subject defaultTarget) after last)
    (ended : last.rest = .done (.ok ())) (held : Held subject.ref kept.world)
    (gone : ¬ Held subject.ref last.world) :
    (∀ r ∈ last.world.records, r ∉ made (after ++ before)) ↔
      ∀ r ∈ kept.world.records, r ∈ made before →
        r.domain ∈ recordedHosts subject.ref kept.world := by
  have hcustody : Run (custodial subject) first before kept :=
    run.within (fun _ _ he => he.1) False.elim fun _ _ hs => hs
  have hconfined : Run oneByOne first before kept :=
    run.within (fun _ _ he => he.2) id fun _ _ _ => trivial
  have guarded : Guarded subject (kept.world, before) :=
    (custodial_upheld idle ⟨versioned, fun h => absurd unrecorded h⟩ hcustody).1
  have hsingle : OnePerName kept.world.records := (confined_upheld idle hconfined).single single
  obtain ⟨hrec, hmade⟩ := cleared_of_released guarded held release ended gone
  rw [hrec, hmade]
  simp only [hsingle.mem_removeAll]
  constructor
  · intro h r hr hm
    by_contra hnot
    exact h r ⟨hr, hnot⟩ hm
  · intro h r hr hm
    exact hr.2 (h r hr.1 hm)

/-- A route that asks for two records. -/
def pairWorld : World :=
  .holding (routeManifest [(Key.register, "true"), (Key.hosts, "a.local,b.local")] []) []

/-- What has become of it where the second record could not be made. -/
def brokenOff : Except Error Unit × Moment :=
  pairWorld.play route "10.0.0.1" [.answered, .answered, .answered, .answered, .refused]

def optOut : Edit := .merge route.ref (.object [("metadata",
  .object [("annotations", .object [(Key.register, .null)])])])

/-- Then the route takes part no more. -/
def optedOut : World :=
  { brokenOff.2.1 with server := brokenOff.2.1.server.edit optOut }

theorem left_behind_of_broken_off : ∃ first kept last before after,
    Run (undividedCare route) first before kept ∧
    Run .alone (.beginning kept.world route "10.0.0.1") after last ∧
    last.rest = .done (.ok ()) ∧ Held route.ref kept.world ∧ ¬ Held route.ref last.world ∧
    (((∀ r ∈ last.world.records, r ∉ made (after ++ before)) ↔
      ∀ r ∈ kept.world.records, r ∈ made before → r.domain ∈ recordedHosts route.ref kept.world) ∧
    ⟨"a.local", "10.0.0.1"⟩ ∈ made (after ++ before) ∧
    last.world.records = [⟨"a.local", "10.0.0.1"⟩]) := by
  have idle : Scene.IsIdle ⟨pairWorld, route, .done (.ok ())⟩ := ⟨_, rfl⟩
  have versioned : pairWorld.server.Versioned := World.versioned_holding _ _
  have start : (undividedCare route).start route "10.0.0.1" := rfl
  have run := (Run.step .none (.started idle start)).trans
    (.played _ _ _ _ [.answered, .answered, .answered, .answered, .refused])
  have change : (undividedCare route).edit brokenOff.2.1 optedOut :=
    ⟨⟨brokenOff.2.1.server.becomes_edit optOut, by decide +kernel, by decide +kernel⟩, rfl⟩
  have later := run.step (.edited (.inr ⟨_, rfl⟩) change)
  have release := Run.played .alone optedOut route "10.0.0.1" []
  have ended : (optedOut.play route "10.0.0.1" []).1 = .ok () := by decide +kernel
  have held : Held route.ref optedOut := by decide +kernel
  have gone : ¬ Held route.ref (optedOut.play route "10.0.0.1" []).2.1 := by decide +kernel
  have single : OnePerName pairWorld.records := fun _ => Nat.zero_le 1
  have unrecorded : recorded? route.ref pairWorld = none := by decide +kernel
  rw [ended] at release
  exact ⟨_, _, _, _, _, later, release, rfl, held, gone,
    @nothing_left_iff_written_down route _ _ _ _ _ _ idle versioned unrecorded single later release
      rfl held gone, by decide +kernel, by decide +kernel⟩

end ClusterDns.Reconcile
