import ClusterDns.Proofs.Reconcile.Upkeep

/-! A reconcile keeps to the names it has seen. It creates and deletes records only of hostnames
that an object it was given asks for or has recorded as managed, so the records of all other names
stay as they are. And it creates a record only of a name that has none: the list it takes at the
start of its work stays a true account of the keeper's records to the end. -/

namespace ClusterDns.Reconcile

open Cluster (Kind Object ObjectRef)
open PiHole (Record)
open Rehearsal

/-! ## What the store is left as -/

/-- The patch by which an object gets a finalizer. -/
def holdingPatch (object : Object) (finalizer : String) : Json :=
  metadataPatch object [finalizersMember (object.finalizers ++ [finalizer])]

/-- An object was given to a reconcile: as it was fetched, or as it was when it got the
finalizer. -/
def Seen (events : List Occurrence) (object : Object) : Prop :=
  (∃ ref fate, Occurrence.called (.fetch ref) fate (.ok (some object)) ∈ events) ∨
  ∃ ref before fate, Occurrence.called (.patch ref (holdingPatch before cleanupFinalizer)) fate
    (.ok (some object)) ∈ events

/-- A name that no object seen asks for or has recorded as managed. -/
def Foreign (events : List Occurrence) (domain : String) : Prop :=
  ∀ object, Seen events object →
    domain ∉ desiredHosts object ∧ domain ∉ Annotations.managed object.annotations

/-- Reconciles of any objects, one after another. Between them objects may become any others. -/
def oneByOne : Rules where
  edit w w' := w'.records = w.records
  anytime := False
  start _ _ := True

/-- Foreign names are as they were, and no name has come to have two records. -/
structure Confined (records : List Record) (s : Moment) : Prop where
  foreign : ∀ domain, Foreign s.2 domain → recordsOf domain s.1.records = recordsOf domain records
  single : OnePerName records → OnePerName s.1.records

theorem Seen.cons {events : List Occurrence} {object : Object} (h : Seen events object)
    (event : Occurrence) : Seen (event :: events) object := by
  rcases h with ⟨ref, fate, hm⟩ | ⟨ref, before, fate, hm⟩
  · exact .inl ⟨ref, fate, List.mem_cons_of_mem _ hm⟩
  · exact .inr ⟨ref, before, fate, List.mem_cons_of_mem _ hm⟩

theorem Foreign.of_cons {event : Occurrence} {events : List Occurrence} {domain : String}
    (h : Foreign (event :: events) domain) : Foreign events domain :=
  fun object hs => h object (hs.cons event)

theorem Confined.more {records : List Record} {w : World} {events : List Occurrence}
    (h : Confined records (w, events)) (event : Occurrence) :
    Confined records (w, event :: events) :=
  ⟨fun domain hf => h.foreign domain hf.of_cons, h.single⟩

/-- A name is one of an object seen. -/
def Named (events : List Occurrence) (domain : String) : Prop :=
  ∃ object, Seen events object ∧
    (domain ∈ desiredHosts object ∨ domain ∈ Annotations.managed object.annotations)

theorem Named.ne_of_foreign {events : List Occurrence} {domain other : String}
    (hn : Named events domain) (hf : Foreign events other) : domain ≠ other := by
  rintro rfl
  obtain ⟨object, hs, hd | hm⟩ := hn
  · exact (hf object hs).1 hd
  · exact (hf object hs).2 hm

theorem Named.cons {events : List Occurrence} {domain : String} (h : Named events domain)
    (event : Occurrence) : Named (event :: events) domain := by
  obtain ⟨object, hs, hm⟩ := h
  exact ⟨object, hs.cons event, hm⟩

theorem Confined.create {records : List Record} {w : World} {events : List Occurrence}
    (h : Confined records (w, events)) {r : Record} (hn : Named events r.domain)
    (free : OnePerName records → recordsOf r.domain w.records = []) :
    Confined records ({ w with records := w.records ++ [r] }, events) := by
  refine ⟨?_, fun hs => (h.single hs).create (free hs)⟩
  intro domain hf
  rw [recordsOf_create, if_neg (hn.ne_of_foreign hf)]
  exact h.foreign domain hf

theorem Confined.delete {records : List Record} {w : World} {events : List Occurrence}
    (h : Confined records (w, events)) {domain : String} (hn : Named events domain) :
    Confined records ({ w with records := removeFirst domain w.records }, events) := by
  refine ⟨?_, fun hs => (h.single hs).delete domain⟩
  intro other hf
  rw [recordsOf_removeFirst, if_neg (hn.ne_of_foreign hf)]
  exact h.foreign other hf

theorem Confined.patch {records : List Record} {w : World} {events : List Occurrence}
    (h : Confined records (w, events)) (kind : Kind) (ref : ObjectRef) (body : Json) :
    Confined records ((w.patch kind ref body).2, events) :=
  ⟨h.foreign, h.single⟩

theorem outlasts_confined (records : List Record) :
    Outlasts (OnePerName records) Named Named (Confined records) where
  single _ h := h.single
  more _ _ event h := h.more event
  create _ _ _ h hn free := h.create hn free
  delete _ _ _ h hn := h.delete hn

theorem Named.later {events more : List Occurrence} (hs : events <:+ more) {domain : String}
    (h : Named events domain) : Named more domain := by
  obtain ⟨new, rfl⟩ := hs
  induction new with
  | nil => exact h
  | cons event rest ih => exact ih.cons event

/-! ## Whole reconciles -/

section

variable {records : List Record} {kind : Kind} {subject : Subject} {s : Moment}

/-- All a reconcile may rely on and has to keep. -/
abbrev confinement (kind : Kind) (records : List Record) : Contract Surroundings Moment :=
  keeping oneByOne kind (Confined records)

theorem confined_fetch {ref : ObjectRef} {post : Option Object → Moment → Prop}
    (hp : ∀ found, post found (s.1, .called (.fetch ref) .answered (.ok found) :: s.2)) :
    (confinement kind records).Tries (fetch ref) post s := by
  refine tries_fetch fun t hd hi => ?_
  obtain rfl := hd.eq not_false
  refine ⟨trivial, fun fate r w hw => ?_, fun found _ => hp found⟩
  have hleft := hw.leaves (P := fun next => Confined records (next, t.2)) hi hi
  exact hleft.more _

theorem confined_patch {ref : ObjectRef} {body : Json} {post : Option Object → Moment → Prop}
    (hp : ∀ found, post found ((s.1.patch kind ref body).2,
      .called (.patch ref body) .answered (.ok found) :: s.2)) :
    (confinement kind records).Tries (patch ref body) post s := by
  refine tries_patch fun t hd hi => ?_
  obtain rfl := hd.eq not_false
  refine ⟨trivial, fun fate r w hw => ?_, fun found _ => hp found⟩
  have hleft := hw.leaves (P := fun next => Confined records (next, t.2)) hi
    (hi.patch kind ref body)
  exact hleft.more _

theorem confined_cleanup {object : Object} (hs : Seen s.2 object) :
    (confinement kind records).Tries (cleanup kind object) (fun _ _ => True) s := by
  have hn : ∀ host ∈ Annotations.managed object.annotations, ∀ events, s.2 <:+ events →
      Named events host := by
    intro host hh events hsuffix
    exact Named.later hsuffix ⟨object, hs, .inr hh⟩
  refine tries_cleanup (Contract.Tries.mono
    (keeps_deleteHosts not_false (outlasts_confined records) hn) fun _ t _ => ?_)
  exact ⟨fun _ => trivial, fun _ _ _ => confined_patch fun _ => trivial⟩

theorem confined_release {reason : Event} {object : Object} (hs : Seen s.2 object) :
    (confinement subject.kind records).Tries (release subject reason object)
      (fun _ _ => True) s := by
  refine tries_release (fun _ => trivial) fun _ t ht => ?_
  obtain rfl := ht.eq not_false
  exact confined_cleanup hs

theorem confined_writeManaged {hosts : List String} :
    (confinement kind records).Tries (writeManaged subject hosts) (fun _ _ => True) s := by
  refine tries_writeManaged (confined_fetch fun found => ?_)
  cases found with
  | none => exact fun _ _ => trivial
  | some latest => exact ⟨fun _ => trivial, fun _ => confined_patch fun _ => trivial⟩

theorem confined_serve {defaultTarget : String} {object : Object} (hs : Seen s.2 object) :
    (confinement kind records).Tries (serve subject defaultTarget object) (fun _ _ => True) s := by
  have hd : ∀ host ∈ desiredHosts object, ∀ events, s.2 <:+ events → Named events host := by
    intro host hh events hsuffix
    exact Named.later hsuffix ⟨object, hs, .inl hh⟩
  have hm : ∀ host ∈ Annotations.managed object.annotations, ∀ events, s.2 <:+ events →
      Named events host := by
    intro host hh events hsuffix
    exact Named.later hsuffix ⟨object, hs, .inr hh⟩
  have lasts := outlasts_confined records
  refine tries_serve (fun _ _ _ => trivial) fun target _ _ => ?_
  refine Contract.Tries.mono (keeps_syncHosts not_false lasts hd hd) fun _ t ht => ?_
  have hpruned : ∀ host ∈ obsoleteHosts object, ∀ events, t.2 <:+ events → Named events host :=
    fun host hh events he => hm host (List.mem_filter.mp hh).1 events (ht.1.events.trans he)
  refine Contract.Tries.mono (keeps_deleteHosts not_false lasts hpruned) fun _ u _ => ?_
  exact Contract.Tries.mono confined_writeManaged fun _ _ _ _ _ => trivial

theorem confined_ensureFinalizer {object : Object} (hs : Seen s.2 object) :
    (confinement kind records).Tries (ensureFinalizer kind object cleanupFinalizer)
      (fun held t => ∀ next, held = some next → Seen t.2 next) s := by
  refine tries_ensureFinalizer (fun _ => ?_) fun _ t ht => confined_patch ?_
  · rintro next ⟨⟩
    exact hs
  · rintro found next rfl
    exact .inr ⟨_, object, _, List.mem_cons_self⟩

theorem confined_reconcile {defaultTarget : String} :
    (confinement subject.kind records).Tries (reconcile subject defaultTarget)
      (fun _ _ => True) s := by
  refine tries_reconcile (confined_fetch fun found => ?_)
  cases found with
  | none => exact fun _ _ => trivial
  | some object =>
    have hs : Seen (.called (.fetch subject.ref) .answered (.ok (some object)) :: s.2) object :=
      .inl ⟨_, _, List.mem_cons_self⟩
    refine ⟨fun _ _ => confined_release hs, fun _ _ => ?_⟩
    refine Contract.Tries.mono (confined_ensureFinalizer hs) fun held t ht => ?_
    cases held with
    | none => trivial
    | some next => exact confined_serve (ht next rfl)

end

/-! ## Runs -/

theorem confined_upheld {first scene : Scene} {events : List Occurrence} (idle : first.IsIdle)
    (run : Run oneByOne first events scene) :
    Confined first.world.records (scene.world, events) := by
  have hinv : Confined first.world.records (first.world, []) :=
    ⟨fun _ _ => rfl, id⟩
  have hedit : ∀ w w' events, Confined first.world.records (w, events) → oneByOne.edit w w' →
      Confined first.world.records (w', .edited :: events) := by
    rintro w w' events h (hr : w'.records = w.records)
    refine ⟨fun d hd => ?_, fun hs => ?_⟩
    · rw [hr]
      exact h.foreign d hd.of_cons
    · rw [hr]
      exact h.single hs
  have hstart : ∀ w events subject target, Confined first.world.records (w, events) →
      oneByOne.start subject target →
      oneByOne.Upholds (fun _ _ => True) (Confined first.world.records) (fun _ _ => True)
        (.beginning w subject target) (.started subject :: events) := by
    intro w events subject target h _
    refine ⟨h.more _, ?_⟩
    exact Contract.Secures.mono confined_reconcile fun _ _ _ => trivial
  obtain ⟨h, -⟩ := run.upheld idle hinv hedit hstart
  rwa [List.append_nil] at h

/-- Over any run of reconciles of any objects, with any changes of objects between them and any
failures: names that no reconcile has seen keep their records, and uniqueness is kept in every
scene on the way. -/
theorem foreign_records_untouched {first scene : Scene} {events : List Occurrence}
    (idle : first.IsIdle) (run : Run oneByOne first events scene) :
    (∀ domain, Foreign events domain →
      recordsOf domain scene.world.records = recordsOf domain first.world.records) ∧
    (OnePerName first.world.records → OnePerName scene.world.records) := by
  have h := confined_upheld idle run
  exact ⟨h.foreign, h.single⟩

/-- A route that asks for a record beside one that is none of its business. -/
def joiningWorld : World :=
  .holding (routeManifest [(Key.register, "true"), (Key.hosts, "app.local")] [])
    [⟨"db.local", "10.0.0.5"⟩]

theorem foreign_records_untouched_of_joining :
    ∃ events scene, Run oneByOne ⟨joiningWorld, route, .done (.ok ())⟩ events scene ∧
      scene.world.records = [⟨"db.local", "10.0.0.5"⟩, ⟨"app.local", "10.0.0.1"⟩] ∧
      (∀ domain, Foreign events domain →
        recordsOf domain scene.world.records = recordsOf domain joiningWorld.records) ∧
      (OnePerName joiningWorld.records → OnePerName scene.world.records) := by
  have idle : Scene.IsIdle ⟨joiningWorld, route, .done (.ok ())⟩ := ⟨_, rfl⟩
  have start : oneByOne.start route "10.0.0.1" := trivial
  have run := (Run.step .none (.started idle start)).trans (.played _ _ _ _ [])
  exact ⟨_, _, run, by decide +kernel, foreign_records_untouched idle run⟩

end ClusterDns.Reconcile
