import ClusterDns.Proofs.Reconcile.Effect

/-! Objects of every kind and one keeper of records for all of them. Reconciles of different objects
take their turns; each one changes its object and the records of its hosts, and nothing else. -/

namespace ClusterDns.Rehearsal

open Cluster (Kind Manifest.read? Manifest.resourceVersion? Manifest.unversioned Manifest.Kindred)
open PiHole (Record)
open Reconcile

structure Estate where
  servers : Kind → ApiServer
  records : List Record

namespace Estate

def find? (estate : Estate) (subject : Subject) : Option Json :=
  (estate.servers subject.kind).find? subject.ref

/-- What a reconcile of an object of a kind has to do with. -/
def world (estate : Estate) (kind : Kind) : World := ⟨estate.servers kind, estate.records⟩

def withWorld (estate : Estate) (kind : Kind) (w : World) : Estate :=
  ⟨Function.update estate.servers kind w.server, w.records⟩

/-- A change of an object by somebody else. -/
def edit (estate : Estate) (kind : Kind) (change : Edit) : Estate :=
  { estate with
    servers := Function.update estate.servers kind ((estate.servers kind).edit change) }

/-- One reconcile, every call of which is answered. -/
def reconciled (defaultTarget : String) (estate : Estate) (subject : Subject) :
    Except Error Estate :=
  match (reconcile subject defaultTarget).run.run (World.answer subject.kind)
    (estate.world subject.kind) with
  | (.ok _, w) => .ok (estate.withWorld subject.kind w)
  | (.error e, _) => .error e

/-- Reconciles one after another, as long as each one ends without an error. -/
def inTurn (defaultTarget : String) (subjects : List Subject) (estate : Estate) :
    Except Error Estate :=
  subjects.foldlM (reconciled defaultTarget) estate

theorem find?_withWorld (estate : Estate) (subject : Subject) (kind : Kind) (w : World) :
    (estate.withWorld kind w).find? subject =
      if subject.kind = kind then w.server.find? subject.ref else estate.find? subject := by
  by_cases h : subject.kind = kind
  · subst h
    simp [find?, withWorld]
  · simp [find?, withWorld, h]

/-- Where one object of a kind may have changed, the others have not. -/
theorem find?_withWorld_of_ne (estate : Estate) {subject other : Subject} {w : World}
    (same : ∀ ref, ref ≠ subject.ref →
      w.server.find? ref = (estate.servers subject.kind).find? ref) (hne : other ≠ subject) :
    (estate.withWorld subject.kind w).find? other = estate.find? other := by
  rw [find?_withWorld]
  split
  · rename_i hkind
    rw [same other.ref fun href => hne (Subject.mk.injEq .. ▸ ⟨hkind, href⟩), find?, hkind]
  · rfl

end Estate

/-- A manifest that a server gives out, and that is an object of a kind to those who read it. -/
structure Filed (kind : Kind) (manifest : Json) : Prop where
  versioned : (Manifest.resourceVersion? manifest).isSome = true
  readable : (Manifest.read? kind manifest).isSome = true

theorem Filed.kindred {kind : Kind} {manifest : Json} (h : Filed kind manifest) :
    Manifest.Kindred kind manifest manifest := by
  obtain ⟨version, hv⟩ := Option.isSome_iff_exists.mp h.versioned
  obtain ⟨object, hr⟩ := Option.isSome_iff_exists.mp h.readable
  exact (Cluster.Manifest.Kindred.itself hr hv).2

/-- What a plan does to the records of a host it has nothing to do with. -/
theorem recordsAfter_of_not_mem {kind : Kind} {manifest : Json} {host : String}
    (h : host ∉ ownHosts kind manifest) (before : List Record) (todo : Plan) :
    todo.recordsAfter kind manifest host before = before := by
  obtain ⟨hd, hw⟩ := not_or.mp (mt mem_ownHosts.mpr h)
  cases todo <;> simp [Plan.recordsAfter, hd, hw]

/-- The estate after a reconcile of one object. -/
structure Turned (kind : Kind) (manifest : Json) (todo : Plan) (before after : Estate) : Prop where
  single : OnePerName after.records
  others : ∀ subject, subject ≠ subjectOf kind manifest →
    after.find? subject = before.find? subject
  stored : (after.find? (subjectOf kind manifest)).map Manifest.unversioned =
    todo.objectAfter kind manifest
  records : ∀ host, recordsOf host after.records =
    todo.recordsAfter kind manifest host (recordsOf host before.records)

theorem Estate.turned {kind : Kind} {manifest : Json} {estate : Estate}
    (filed : Filed kind manifest) (single : OnePerName estate.records)
    (stored : estate.find? (subjectOf kind manifest) = some manifest) (defaultTarget : String) :
    ∃ next, estate.reconciled defaultTarget (subjectOf kind manifest) = .ok next ∧
      Turned kind manifest (plan kind defaultTarget manifest) estate next := by
  have hworld : OnePerName (estate.world kind).records := single
  obtain ⟨w, hends, hsingle, hspares, events, last, hplace, hlast⟩ :=
    ends_fulfilled defaultTarget filed.kindred hworld stored
  have hrun : (reconcile (subjectOf kind manifest) defaultTarget).run.run (World.answer kind)
      (estate.world kind) = (.ok (), w) := hends
  refine ⟨estate.withWorld kind w, ?_, hsingle, fun subject hne => ?_, ?_, fun host => ?_⟩
  · rw [Estate.reconciled, show (subjectOf kind manifest).kind = kind from rfl, hrun]
  · exact estate.find?_withWorld_of_ne hspares.objects hne
  · rw [Estate.find?_withWorld]
    exact (congrArg _ ((if_pos rfl).trans hplace.stored)).trans hlast
  · by_cases hh : host ∈ ownHosts kind manifest
    · exact hplace.records host hh
    · rw [recordsAfter_of_not_mem hh]
      exact hspares.records host hh

end ClusterDns.Rehearsal
