import ClusterDns.Proofs.Reconcile.Outcome

/-! The life of an object, from its first reconcile to its last. Its owner may change what it asks
for as often as they like, to nothing at all or to something invalid. The hosts written down on the
object account for all records that are not the keeper's first ones, so when the object leaves, the
records are what they were. -/

namespace ClusterDns.Reconcile

open Cluster (Kind ObjectRef Manifest.seen Manifest.finalizers Manifest.annotation?
  Manifest.isBeingDeleted)
open PiHole (Record)
open Rehearsal

/-- A change of an object by its owner. It leaves the records alone, the finalizers, and the hosts
written down; an object that nobody holds may be gone. -/
structure Revises (subject : Subject) (w w' : World) : Prop where
  records : w'.records = w.records
  object : ∀ next, w'.server.find? subject.ref = some next →
    Filed subject.kind next ∧ subjectOf subject.kind next = subject ∧
      ∃ manifest, w.server.find? subject.ref = some manifest ∧
        Manifest.finalizers next = Manifest.finalizers manifest ∧
        Manifest.annotation? next Key.managedHosts = Manifest.annotation? manifest Key.managedHosts
  gone : w'.server.find? subject.ref = none → ∀ manifest,
    w.server.find? subject.ref = some manifest → Manifest.finalizers manifest = []

/-- Hosts that are served can be written down, and had no record in the beginning. -/
def Undisputed (subject : Subject) (defaultTarget : String) (start w : World) : Prop :=
  ∀ manifest, w.server.find? subject.ref = some manifest →
    ∀ target, plan subject.kind defaultTarget manifest = .serve target →
      ∀ host ∈ desired subject.kind manifest,
        Text.CommaList.IsPlain host ∧ recordsOf host start.records = []

/-- Changes by the owner, each one followed by a reconcile that nobody disturbs. -/
inductive Lifetime (subject : Subject) (defaultTarget : String) (start : World) : World → Prop
  | begun : Lifetime subject defaultTarget start start
  | round {w revised w' : World} (life : Lifetime subject defaultTarget start w)
      (revises : Revises subject w revised)
      (undisputed : Undisputed subject defaultTarget start revised)
      (ends : Ends subject.kind (reconcile subject defaultTarget) revised () w') :
      Lifetime subject defaultTarget start w'

/-- The object is being deleted, or takes part no more. -/
def Departs (subject : Subject) (w : World) : Prop :=
  ∀ manifest, w.server.find? subject.ref = some manifest →
    (Manifest.seen subject.kind manifest).isBeingDeleted = true ∨
      Annotations.isRegistered (Manifest.seen subject.kind manifest).annotations = false

/-! ## The account -/

/-- The hosts written down tell the first records from all others, and no finalizer but the
operator's own has come or gone. -/
structure Traceable (first : List String) (start : List Record) (manifest : Json)
    (records : List Record) : Prop where
  others : remainingFinalizers manifest = first
  bare : cleanupFinalizer ∉ Manifest.finalizers manifest →
    Manifest.annotation? manifest Key.managedHosts = none
  kept : records.filter (·.domain ∉ writtenDown manifest) = start
  single : ∀ host ∈ writtenDown manifest, (recordsOf host records).length ≤ 1

section

variable {first : List String} {start records : List Record} {kind : Kind}
  {manifest last : Json} {target host : String}

theorem writtenDown_of_none (h : Manifest.annotation? manifest Key.managedHosts = none) :
    writtenDown manifest = [] := by
  simp [writtenDown, h]

/-- With no hosts written down, the records are the first ones. -/
theorem traceable_of_none (others : remainingFinalizers manifest = first)
    (h : Manifest.annotation? manifest Key.managedHosts = none) :
    Traceable first start manifest start := by
  refine ⟨others, fun _ => h, ?_, ?_⟩ <;> simp [writtenDown_of_none h]

theorem Traceable.eq_of_none (h : Traceable first start manifest records)
    (none : Manifest.annotation? manifest Key.managedHosts = none) : records = start := by
  have hkept := h.kept
  simpa [writtenDown_of_none none] using hkept

theorem Traceable.congr (h : Traceable first start manifest records)
    (finalizers : Manifest.finalizers last = Manifest.finalizers manifest)
    (recorded : Manifest.annotation? last Key.managedHosts =
      Manifest.annotation? manifest Key.managedHosts) : Traceable first start last records := by
  have hwritten : writtenDown last = writtenDown manifest := by
    rw [writtenDown, recorded, writtenDown]
  refine ⟨?_, fun hnot => ?_, ?_, ?_⟩
  · rw [remainingFinalizers, finalizers]
    exact h.others
  · rw [recorded]
    exact h.bare (finalizers ▸ hnot)
  · rw [hwritten]
    exact h.kept
  · rw [hwritten]
    exact h.single

/-- A host with no record in the beginning has one at the most. -/
theorem Traceable.length_le (h : Traceable first start manifest records)
    (unbound : recordsOf host start = []) : (recordsOf host records).length ≤ 1 := by
  by_cases hw : host ∈ writtenDown manifest
  · exact h.single host hw
  · have hsame : recordsOf host start = recordsOf host records := by
      rw [← h.kept, recordsOf, recordsOf, List.filter_filter]
      refine List.filter_congr fun r _ => ?_
      by_cases hr : r.domain = host <;> simp [hr, hw]
    rw [← hsame, unbound]
    exact Nat.zero_le 1

theorem length_turned_le (h : records.length ≤ 1) :
    (turned target host records).length ≤ 1 := by
  unfold turned
  split
  · exact h
  · simp
    omega

/-- What is served are no first records, and so is what was written down before. -/
theorem Traceable.kept_served (h : Traceable first start manifest records)
    (unbound : ∀ host ∈ desired kind manifest, recordsOf host start = []) (target : String) :
    (servedRecords kind manifest manifest target records).filter
      (·.domain ∉ desired kind manifest) = start := by
  have hself : (outdated kind manifest manifest).filter (· ∉ desired kind manifest) =
      outdated kind manifest manifest :=
    List.filter_eq_self.mpr fun host hh => by simpa using (mem_outdated.mp hh).2
  have hsingle : ∀ host ∈ outdated kind manifest manifest,
      (recordsOf host (records.filter (·.domain ∉ desired kind manifest))).length ≤ 1 :=
    fun host hh => (List.filter_sublist.filter _).length_le.trans
      (h.single host (mem_outdated.mp hh).1)
  have hforeign : ∀ r ∈ start, r.domain ∉ desired kind manifest := by
    intro r hr hd
    have hmem : r ∈ recordsOf r.domain start := mem_recordsOf.mpr ⟨hr, rfl⟩
    rw [unbound r.domain hd] at hmem
    cases hmem
  calc (servedRecords kind manifest manifest target records).filter
        (·.domain ∉ desired kind manifest)
    _ = removeAll ((outdated kind manifest manifest).filter (· ∉ desired kind manifest))
          ((boundAll target (desired kind manifest) (.ofRecords records) records).filter
            (·.domain ∉ desired kind manifest)) :=
        filter_removeAll (· ∉ desired kind manifest) _ _
    _ = removeAll (outdated kind manifest manifest)
          (records.filter (·.domain ∉ desired kind manifest)) := by
        rw [hself, filter_boundAll (· ∉ desired kind manifest) (by simp)]
    _ = (records.filter (·.domain ∉ desired kind manifest)).filter
          (·.domain ∉ outdated kind manifest manifest) := removeAll_eq_filter hsingle
    _ = (records.filter (·.domain ∉ writtenDown manifest)).filter
          (·.domain ∉ desired kind manifest) := by
        rw [List.filter_filter, List.filter_filter]
        refine List.filter_congr fun r _ => ?_
        by_cases hd : r.domain ∈ desired kind manifest <;> simp [hd]
    _ = start.filter (·.domain ∉ desired kind manifest) := by rw [h.kept]
    _ = start := List.filter_eq_self.mpr fun r hr => by simpa using hforeign r hr

theorem not_mem_of_nothing {defaultTarget : String}
    (h : plan kind defaultTarget manifest = .nothing) :
    cleanupFinalizer ∉ Manifest.finalizers manifest := by
  intro hin
  rw [plan, if_pos hin] at h
  split at h
  · cases h
  · split at h
    · cases h
    · split at h <;> cases h

/-- Whatever a reconcile does, the hosts written down account for it. -/
theorem Traceable.outcome {defaultTarget : String} {w w' : World}
    (h : Traceable first start manifest w.records)
    (outcome : Outcome kind manifest (plan kind defaultTarget manifest) w w')
    (left : Left kind manifest (plan kind defaultTarget manifest) last)
    (undisputed : ∀ target, plan kind defaultTarget manifest = .serve target →
      ∀ host ∈ desired kind manifest, Text.CommaList.IsPlain host ∧ recordsOf host start = []) :
    Traceable first start last w'.records := by
  have hrecords := outcome.records
  have hrecorded := left.recorded
  have hheld := left.held
  have hothers := left.others.trans h.others
  cases htodo : plan kind defaultTarget manifest with
  | nothing =>
    have hnone := h.bare (not_mem_of_nothing htodo)
    rw [htodo] at hrecords hrecorded
    rw [hrecords, Plan.recordsLeft, h.eq_of_none hnone]
    exact traceable_of_none hothers (hrecorded.trans hnone)
  | release =>
    rw [htodo] at hrecords hrecorded
    rw [hrecords, Plan.recordsLeft, removeAll_eq_filter h.single, h.kept]
    exact traceable_of_none hothers hrecorded
  | hold =>
    rw [htodo] at hrecords hrecorded hheld
    have hwritten : writtenDown last = writtenDown manifest := by
      rw [writtenDown, hrecorded, Plan.textLeft?, writtenDown]
    refine ⟨hothers, fun hnot => absurd (hheld.mpr trivial) hnot, ?_, ?_⟩
    · rw [hrecords, hwritten]
      exact h.kept
    · rw [hrecords, hwritten]
      exact h.single
  | serve target =>
    rw [htodo] at hrecords hrecorded hheld
    have hplain := fun host hh => (undisputed target htodo host hh).1
    have hunbound := fun host hh => (undisputed target htodo host hh).2
    have hwritten : writtenDown last = desired kind manifest := by
      rw [writtenDown, hrecorded]
      exact parse_managedText? hplain (empty_not_mem_desired _)
    refine ⟨hothers, fun hnot => absurd (hheld.mpr trivial) hnot, ?_, fun host hh => ?_⟩
    · rw [hrecords, hwritten]
      exact h.kept_served hunbound target
    · rw [hwritten] at hh
      rw [hrecords, Plan.recordsLeft, recordsOf_servedRecords manifest hh]
      exact length_turned_le (h.length_le (hunbound host hh))

end

/-! ## The life of an object -/

/-- What holds at any time of the life of an object. -/
structure Traced (subject : Subject) (origin : Json) (start w : World) : Prop where
  present : ∀ manifest, w.server.find? subject.ref = some manifest →
    Traceable (Manifest.finalizers origin) start.records manifest w.records
  absent : w.server.find? subject.ref = none → w.records = start.records

section

variable {subject : Subject} {defaultTarget : String} {origin : Json}
  {start w revised : World}

theorem Revises.traced (h : Revises subject w revised) (traced : Traced subject origin start w) :
    Traced subject origin start revised := by
  constructor
  · intro next hnext
    obtain ⟨-, -, manifest, hf, hfinalizers, hrecorded⟩ := h.object next hnext
    rw [h.records]
    exact (traced.present manifest hf).congr hfinalizers hrecorded
  · intro hnone
    rw [h.records]
    cases hf : w.server.find? subject.ref with
    | none => exact traced.absent hf
    | some manifest =>
      have htraceable := traced.present manifest hf
      have hbare : cleanupFinalizer ∉ Manifest.finalizers manifest := by
        simp [h.gone hnone manifest hf]
      exact htraceable.eq_of_none (htraceable.bare hbare)

theorem remainingFinalizers_of_not_mem {manifest : Json}
    (h : cleanupFinalizer ∉ Manifest.finalizers manifest) :
    remainingFinalizers manifest = Manifest.finalizers manifest := by
  rw [remainingFinalizers, List.filter_eq_self]
  intro finalizer hf
  simp only [decide_eq_true_eq]
  rintro rfl
  exact h hf

theorem traced_of_bare (stored : start.server.find? subject.ref = some origin)
    (bare : cleanupFinalizer ∉ Manifest.finalizers origin)
    (unwritten : Manifest.annotation? origin Key.managedHosts = none) :
    Traced subject origin start start := by
  refine ⟨fun manifest hf => ?_, fun _ => rfl⟩
  cases stored.symm.trans hf
  exact traceable_of_none (remainingFinalizers_of_not_mem bare) unwritten

/-- A reconcile after a change by the owner ends without an error, and all is accounted for. -/
theorem exists_reconciled (traced : Traced subject origin start w)
    (revises : Revises subject w revised)
    (undisputed : Undisputed subject defaultTarget start revised) : ∃ w',
    Ends subject.kind (reconcile subject defaultTarget) revised () w' ∧
    Traced subject origin start w' ∧
    (∀ last, w'.server.find? subject.ref = some last → ∃ manifest,
      revised.server.find? subject.ref = some manifest ∧
      Left subject.kind manifest (plan subject.kind defaultTarget manifest) last) ∧
    (w'.server.find? subject.ref = none → ∀ manifest,
      revised.server.find? subject.ref = some manifest →
      Manifest.isBeingDeleted manifest = true ∧ Manifest.finalizers origin = []) := by
  have htraced := revises.traced traced
  cases hf : revised.server.find? subject.ref with
  | none =>
    refine ⟨revised, ends_absent subject defaultTarget hf, htraced, fun last hlast => ?_, ?_⟩
    · rw [hf] at hlast
      cases hlast
    · exact fun _ manifest hm => nomatch hm
  | some manifest =>
    obtain ⟨filed, hsubject, -⟩ := revises.object manifest hf
    have hstored : revised.server.find? (subjectOf subject.kind manifest).ref =
        some manifest := by
      rw [hsubject, hf]
    have htraceable := htraced.present manifest hf
    obtain ⟨w', hends, outcome⟩ := ends_plan defaultTarget hstored filed.kindred
      fun target hplan host hh => (undisputed manifest hf target hplan host hh).1
    have hleft := outcome.left
    have hgone := outcome.gone
    rw [hsubject] at hends hleft hgone
    refine ⟨w', hends, ⟨fun last hlast => ?_, fun hnone => ?_⟩,
      fun last hlast => ⟨manifest, rfl, hleft last hlast⟩, fun hnone next hnext => ?_⟩
    · exact htraceable.outcome outcome (hleft last hlast) (undisputed manifest hf)
    · have hrelease := (hgone hnone).1
      rw [outcome.records, hrelease, Plan.recordsLeft, removeAll_eq_filter htraceable.single,
        htraceable.kept]
    · cases hnext
      obtain ⟨-, hdeleted, hremaining⟩ := hgone hnone
      exact ⟨hdeleted, htraceable.others.symm.trans hremaining⟩

theorem Lifetime.traced (traced : Traced subject origin start start)
    (life : Lifetime subject defaultTarget start w) : Traced subject origin start w := by
  induction life with
  | begun => exact traced
  | round life revises undisputed ends ih =>
    obtain ⟨w', hends, htraced, -⟩ := exists_reconciled ih revises undisputed
    rw [← ends.reconciled_eq, hends.reconciled_eq]
    exact htraced

/-- As long as the hosts that are served were free in the beginning, the life of an object can go
on whatever its owner changes. -/
theorem Lifetime.next (stored : start.server.find? subject.ref = some origin)
    (bare : cleanupFinalizer ∉ Manifest.finalizers origin)
    (unwritten : Manifest.annotation? origin Key.managedHosts = none)
    (life : Lifetime subject defaultTarget start w) (revises : Revises subject w revised)
    (undisputed : Undisputed subject defaultTarget start revised) :
    Lifetime subject defaultTarget start (reconciled subject defaultTarget revised) := by
  have traced := life.traced (traced_of_bare stored bare unwritten)
  obtain ⟨w', hends, -⟩ := exists_reconciled traced revises undisputed
  rw [hends.reconciled_eq]
  exact life.round revises undisputed hends

/-- Take an object without the operator's finalizer and with no hosts written down. Its owner may
change what it asks for any number of times, each change followed by a reconcile that nobody
disturbs, as long as the hosts that are served were free in the beginning. After the owner has let
it go, be it by an opt-out or by its deletion, the next reconcile ends without an error, and then
the records are the first ones, in their first order. If the object is still there it has its first
finalizers and no hosts written down; it is not if it was gone before, or if it is being deleted and
never had a finalizer. -/
theorem lifecycle_leaves_no_trace (stored : start.server.find? subject.ref = some origin)
    (bare : cleanupFinalizer ∉ Manifest.finalizers origin)
    (unwritten : Manifest.annotation? origin Key.managedHosts = none)
    (life : Lifetime subject defaultTarget start w) (revises : Revises subject w revised)
    (departs : Departs subject revised) : ∃ last,
      Ends subject.kind (reconcile subject defaultTarget) revised () last ∧
      last.records = start.records ∧
      (∀ manifest, last.server.find? subject.ref = some manifest →
        Manifest.finalizers manifest = Manifest.finalizers origin ∧
        Manifest.annotation? manifest Key.managedHosts = none) ∧
      (last.server.find? subject.ref = none →
        ∀ manifest, revised.server.find? subject.ref = some manifest →
          Manifest.isBeingDeleted manifest = true ∧ Manifest.finalizers origin = []) := by
  have traced := life.traced (traced_of_bare stored bare unwritten)
  have hplan : ∀ manifest, revised.server.find? subject.ref = some manifest →
      ¬ (plan subject.kind defaultTarget manifest).IsHolding := by
    intro manifest hf
    rw [plan_of_gone (departs manifest hf)]
    split <;> exact id
  have undisputed : Undisputed subject defaultTarget start revised := by
    intro manifest hf target hserve
    exact absurd (hserve ▸ trivial) (hplan manifest hf)
  obtain ⟨last, hends, htraced, hleft, hgone⟩ := exists_reconciled traced revises undisputed
  have hclean : ∀ manifest, last.server.find? subject.ref = some manifest →
      cleanupFinalizer ∉ Manifest.finalizers manifest := by
    intro manifest hf
    obtain ⟨before, hbefore, left⟩ := hleft manifest hf
    exact left.held.not.mpr (hplan before hbefore)
  refine ⟨last, hends, ?_, fun manifest hf => ?_, hgone⟩
  · cases hf : last.server.find? subject.ref with
    | none => exact htraced.absent hf
    | some manifest =>
      have htraceable := htraced.present manifest hf
      exact htraceable.eq_of_none (htraceable.bare (hclean manifest hf))
  · have htraceable := htraced.present manifest hf
    have hnot := hclean manifest hf
    refine ⟨?_, htraceable.bare hnot⟩
    rw [← htraceable.others, remainingFinalizers_of_not_mem hnot]

end

/-! ## A life with a pause -/

/-- What is stored of an object. -/
def storedManifest (ref : ObjectRef) (w : World) : Json := (w.server.find? ref).getD .null

theorem find?_storedManifest {ref : ObjectRef} {w : World}
    (h : (w.server.find? ref).isSome = true) :
    w.server.find? ref = some (storedManifest ref w) := by
  obtain ⟨manifest, hf⟩ := Option.isSome_iff_exists.mp h
  rw [storedManifest, hf]
  rfl

theorem revises_of_stored {subject : Subject} {w revised : World}
    (records : revised.records = w.records) (before : (w.server.find? subject.ref).isSome = true)
    (after : (revised.server.find? subject.ref).isSome = true)
    (filed : Filed subject.kind (storedManifest subject.ref revised))
    (own : subjectOf subject.kind (storedManifest subject.ref revised) = subject)
    (finalizers : Manifest.finalizers (storedManifest subject.ref revised) =
      Manifest.finalizers (storedManifest subject.ref w))
    (recorded : Manifest.annotation? (storedManifest subject.ref revised) Key.managedHosts =
      Manifest.annotation? (storedManifest subject.ref w) Key.managedHosts) :
    Revises subject w revised := by
  have hafter := find?_storedManifest after
  refine ⟨records, fun next hnext => ?_, fun hnone => ?_⟩
  · cases hafter.symm.trans hnext
    exact ⟨filed, own, _, find?_storedManifest before, finalizers, recorded⟩
  · rw [hnone] at after
    cases after

theorem undisputed_of_stored {subject : Subject} {defaultTarget : String} {start w : World}
    (stored : (w.server.find? subject.ref).isSome = true)
    (declared : (Manifest.seen subject.kind (storedManifest subject.ref w)).declaredHosts = [])
    (free : ∀ host ∈ desired subject.kind (storedManifest subject.ref w),
      recordsOf host start.records = []) : Undisputed subject defaultTarget start w := by
  intro manifest hf target _ host hh
  cases (find?_storedManifest stored).symm.trans hf
  exact ⟨plain_desired (by simp [declared]) host hh, free host hh⟩

theorem departs_of_stored {subject : Subject} {w : World}
    (stored : (w.server.find? subject.ref).isSome = true)
    (unregistered : Annotations.isRegistered
      (Manifest.seen subject.kind (storedManifest subject.ref w)).annotations = false) :
    Departs subject w := by
  intro manifest hf
  cases (find?_storedManifest stored).symm.trans hf
  exact .inr unregistered

/-- A route that somebody else holds, and the record of somebody else's host. -/
def pausingManifest : Json := ApiServer.stamped "1" (routeManifest
  [(Key.register, "true"), (Key.hosts, "a.local,b.local")] ["example.com/keep"])

def pausingWorld : World := .holding pausingManifest [⟨"c.local", "10.0.0.9"⟩]

/-- A change of some annotations of the route. -/
def annotated (members : Json.Members) (w : World) : World :=
  let patch := Json.object [("metadata", .object [("annotations", .object members)])]
  { w with server := w.server.edit (.merge route.ref patch) }

theorem records_annotated (members : Json.Members) (w : World) :
    (annotated members w).records = w.records := rfl

/-- The owner gives up a host, but names no address. -/
def pausedWorld : World :=
  annotated [(Key.hosts, .string "b.local"), (Key.targetIp, .string "nowhere")]
    (reconciled route "10.0.0.1" pausingWorld)

def resumedWorld : World :=
  annotated [(Key.targetIp, .null)] (reconciled route "10.0.0.1" pausedWorld)

def optedOutWorld : World :=
  annotated [(Key.register, .null)] (reconciled route "10.0.0.1" resumedWorld)

theorem lifecycle_leaves_no_trace_of_pausing :
    (reconciled route "10.0.0.1" pausedWorld).records =
      [⟨"c.local", "10.0.0.9"⟩, ⟨"a.local", "10.0.0.1"⟩, ⟨"b.local", "10.0.0.1"⟩] ∧
    (reconciled route "10.0.0.1" resumedWorld).records =
      [⟨"c.local", "10.0.0.9"⟩, ⟨"b.local", "10.0.0.1"⟩] ∧
    Lifetime route "10.0.0.1" pausingWorld (reconciled route "10.0.0.1" resumedWorld) ∧
    ∃ last, Ends route.kind (reconcile route "10.0.0.1") optedOutWorld () last ∧
      last.records = [⟨"c.local", "10.0.0.9"⟩] ∧
      (∀ manifest, last.server.find? route.ref = some manifest →
        Manifest.finalizers manifest = Manifest.finalizers pausingManifest ∧
        Manifest.annotation? manifest Key.managedHosts = none) ∧
      (last.server.find? route.ref = none →
        ∀ manifest, optedOutWorld.server.find? route.ref = some manifest →
          Manifest.isBeingDeleted manifest = true ∧
            Manifest.finalizers pausingManifest = []) := by
  have stored : pausingWorld.server.find? route.ref = some pausingManifest := rfl
  have bare : cleanupFinalizer ∉ Manifest.finalizers pausingManifest := by decide +kernel
  have unwritten : Manifest.annotation? pausingManifest Key.managedHosts = none := by
    decide +kernel
  have begins : Revises route pausingWorld pausingWorld :=
    revises_of_stored rfl (by decide +kernel) (by decide +kernel)
      ⟨by decide +kernel, by decide +kernel⟩ rfl rfl rfl
  have pauses : Revises route (reconciled route "10.0.0.1" pausingWorld) pausedWorld :=
    revises_of_stored (records_annotated _ _) (by decide +kernel) (by decide +kernel)
      ⟨by decide +kernel, by decide +kernel⟩ (by decide +kernel) (by decide +kernel)
      (by decide +kernel)
  have resumes : Revises route (reconciled route "10.0.0.1" pausedWorld) resumedWorld :=
    revises_of_stored (records_annotated _ _) (by decide +kernel) (by decide +kernel)
      ⟨by decide +kernel, by decide +kernel⟩ (by decide +kernel) (by decide +kernel)
      (by decide +kernel)
  have leaves : Revises route (reconciled route "10.0.0.1" resumedWorld) optedOutWorld :=
    revises_of_stored (records_annotated _ _) (by decide +kernel) (by decide +kernel)
      ⟨by decide +kernel, by decide +kernel⟩ (by decide +kernel) (by decide +kernel)
      (by decide +kernel)
  have free : ∀ w, (w.server.find? route.ref).isSome = true →
      (Manifest.seen .ingress (storedManifest route.ref w)).declaredHosts = [] →
      (∀ host ∈ desired .ingress (storedManifest route.ref w),
        recordsOf host pausingWorld.records = []) →
      Undisputed route "10.0.0.1" pausingWorld w := fun _ => undisputed_of_stored
  have life : Lifetime route "10.0.0.1" pausingWorld (reconciled route "10.0.0.1" resumedWorld) :=
    ((Lifetime.begun.next stored bare unwritten begins
      (free _ (by decide +kernel) (by decide +kernel) (by decide +kernel))).next stored bare
        unwritten pauses (free _ (by decide +kernel) (by decide +kernel) (by decide +kernel))).next
          stored bare unwritten resumes
            (free _ (by decide +kernel) (by decide +kernel) (by decide +kernel))
  have departs : Departs route optedOutWorld :=
    departs_of_stored (by decide +kernel) (by decide +kernel)
  exact ⟨by decide +kernel, by decide +kernel, life,
    lifecycle_leaves_no_trace stored bare unwritten life leaves departs⟩

end ClusterDns.Reconcile
