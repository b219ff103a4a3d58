import ClusterDns.Proofs.Reconcile.Lifecycle

/-! Objects that ask for no hosts any more but take part as before. As long as this is so, their
records stay, and the hosts stay written down. They are dealt with as soon as the object asks for
some host again or leaves. -/

namespace ClusterDns.Reconcile

open Cluster (Kind Manifest.seen Manifest.finalizers Manifest.annotation?)
open PiHole (Record)
open Rehearsal

/-! ## Objects that ask for nothing -/

/-- The object takes part but asks for no hosts. -/
structure AsksNothing (kind : Kind) (manifest : Json) : Prop where
  stays : (Manifest.seen kind manifest).isBeingDeleted = false
  registered : Annotations.isRegistered (Manifest.seen kind manifest).annotations = true
  hostless : desired kind manifest = []

/-- A reconcile of an object that asks for nothing, and any number of further ones, each after a
change by the owner by which it asks for nothing still. Nobody disturbs them. -/
inductive Pause (subject : Subject) (defaultTarget : String) (start : World) : World → Prop
  | first {w : World} (ends : Ends subject.kind (reconcile subject defaultTarget) start () w) :
    Pause subject defaultTarget start w
  | again {w revised w' : World} (pause : Pause subject defaultTarget start w)
    (revises : Revises subject w revised)
    (nothing : ∀ manifest, revised.server.find? subject.ref = some manifest →
      AsksNothing subject.kind manifest)
    (ends : Ends subject.kind (reconcile subject defaultTarget) revised () w') :
    Pause subject defaultTarget start w'

/-- The object is held, with the hosts written down and the records as they were. -/
structure Awaits (subject : Subject) (text? : Option String) (records : List Record)
    (w : World) : Prop where
  records : w.records = records
  held : ∃ manifest, w.server.find? subject.ref = some manifest ∧
    cleanupFinalizer ∈ Manifest.finalizers manifest ∧
    Manifest.annotation? manifest Key.managedHosts = text?

/-- These hosts have no records, and the text is what is written down, if the object is there. -/
structure RidOf (subject : Subject) (hosts : List String) (text? : Option String)
    (w : World) : Prop where
  gone : ∀ host ∈ hosts, recordsOf host w.records = []
  recorded : ∀ manifest, w.server.find? subject.ref = some manifest →
    Manifest.annotation? manifest Key.managedHosts = text?

section

variable {subject : Subject} {defaultTarget target : String} {origin manifest : Json}
  {w revised w' : World} {text? : Option String} {records : List Record}

/-- An object that asks for nothing is passed over. -/
theorem exists_awaiting (stored : w.server.find? subject.ref = some origin)
    (filed : Filed subject.kind origin) (own : subjectOf subject.kind origin = subject)
    (nothing : AsksNothing subject.kind origin) (defaultTarget : String) : ∃ w',
    Ends subject.kind (reconcile subject defaultTarget) w () w' ∧
      Awaits subject (Manifest.annotation? origin Key.managedHosts) w.records w' := by
  have hplan : plan subject.kind defaultTarget origin = .hold :=
    plan_of_idle nothing.stays nothing.registered (.inl nothing.hostless)
  have hstored : w.server.find? (subjectOf subject.kind origin).ref = some origin := by
    rw [own, stored]
  have hserves : ∀ target, plan subject.kind defaultTarget origin ≠ .serve target := by
    simp [hplan]
  obtain ⟨w', hends, outcome⟩ := ends_plan defaultTarget hstored filed.kindred
    fun target hserve => absurd hserve (hserves target)
  have hleft := outcome.left
  have hgone := outcome.gone
  rw [own] at hends hleft hgone
  rw [hplan] at outcome hleft hgone
  refine ⟨w', hends, outcome.records, ?_⟩
  cases hlast : w'.server.find? subject.ref with
  | none => exact nomatch (hgone hlast).1
  | some last =>
    have left := hleft last hlast
    exact ⟨last, rfl, left.held.mpr trivial, left.recorded⟩

theorem Awaits.kept (h : Awaits subject text? records w) (revises : Revises subject w revised) :
    Awaits subject text? records revised := by
  obtain ⟨manifest, hf, hin, hrecorded⟩ := h.held
  refine ⟨revises.records.trans h.records, ?_⟩
  cases hnext : revised.server.find? subject.ref with
  | none =>
    rw [revises.gone hnext manifest hf] at hin
    cases hin
  | some next =>
    obtain ⟨-, -, before, hbefore, hfinalizers, hsame⟩ := revises.object next hnext
    cases hf.symm.trans hbefore
    exact ⟨next, rfl, hfinalizers ▸ hin, hsame.trans hrecorded⟩

/-- However long the owner waits, nothing happens. -/
theorem Pause.awaits (stored : w.server.find? subject.ref = some origin)
    (filed : Filed subject.kind origin) (own : subjectOf subject.kind origin = subject)
    (nothing : AsksNothing subject.kind origin) (pause : Pause subject defaultTarget w w') :
    Awaits subject (Manifest.annotation? origin Key.managedHosts) w.records w' := by
  induction pause with
  | first ends =>
    obtain ⟨last, hends, hawaits⟩ := exists_awaiting stored filed own nothing defaultTarget
    rwa [← ends.reconciled_eq, hends.reconciled_eq]
  | @again _ revised _ _ revises asksNothing ends ih =>
    have hrevised := ih.kept revises
    obtain ⟨manifest, hf, -, hrecorded⟩ := hrevised.held
    obtain ⟨hfiled, hown, -⟩ := revises.object manifest hf
    obtain ⟨last, hends, hawaits⟩ :=
      exists_awaiting hf hfiled hown (asksNothing manifest hf) defaultTarget
    rw [hrecorded, hrevised.records] at hawaits
    rwa [← ends.reconciled_eq, hends.reconciled_eq]

/-- What a reconcile makes of the hosts that are written down and not served. -/
theorem exists_rid (hosts : List String) (single : OnePerName w.records)
    (stored : w.server.find? subject.ref = some manifest) (filed : Filed subject.kind manifest)
    (own : subjectOf subject.kind manifest = subject)
    (plain : ∀ target, plan subject.kind defaultTarget manifest = .serve target →
      ∀ host ∈ desired subject.kind manifest, Text.CommaList.IsPlain host)
    (gone : ∀ host ∈ hosts, (plan subject.kind defaultTarget manifest).recordsAfter subject.kind
      manifest host (recordsOf host w.records) = []) : ∃ last,
    Ends subject.kind (reconcile subject defaultTarget) w () last ∧
      RidOf subject hosts
        ((plan subject.kind defaultTarget manifest).textLeft? subject.kind manifest) last := by
  have hstored : w.server.find? (subjectOf subject.kind manifest).ref = some manifest := by
    rw [own, stored]
  obtain ⟨last, hends, outcome⟩ := ends_plan defaultTarget hstored filed.kindred plain
  have hleft := outcome.left
  rw [own] at hends hleft
  refine ⟨last, hends, fun host hh => ?_, fun final hfinal => (hleft final hfinal).recorded⟩
  rw [outcome.records, Plan.recordsOf_recordsLeft single]
  exact gone host hh

/-- The owner asks for some hosts again. -/
theorem Awaits.resumes (h : Awaits subject (Manifest.annotation? origin Key.managedHosts) records w)
    (single : OnePerName records) (stored : w.server.find? subject.ref = some manifest)
    (filed : Filed subject.kind manifest) (own : subjectOf subject.kind manifest = subject)
    (part : TakesPart subject.kind manifest defaultTarget target) : ∃ last,
    Ends subject.kind (reconcile subject defaultTarget) w () last ∧
      RidOf subject (outdated subject.kind manifest origin)
        (managedText? (desired subject.kind manifest)) last := by
  obtain ⟨_, hf, -, hrecorded⟩ := h.held
  cases stored.symm.trans hf
  have hplan := plan_of_asks part.stays part.registered part.asks part.address
  have hwritten : writtenDown manifest = writtenDown origin := by
    rw [writtenDown, hrecorded, writtenDown]
  have hgone : ∀ host ∈ outdated subject.kind manifest origin,
      (plan subject.kind defaultTarget manifest).recordsAfter subject.kind manifest host
        (recordsOf host w.records) = [] := by
    intro host hh
    obtain ⟨hw, hd⟩ := mem_outdated.mp hh
    rw [hplan, Plan.recordsAfter, if_neg hd, if_pos (hwritten ▸ hw)]
  have hrid := exists_rid _ (h.records ▸ single) stored filed own (fun _ _ => part.plain) hgone
  rwa [hplan] at hrid

/-- The owner lets the object go. -/
theorem Awaits.departs (h : Awaits subject (Manifest.annotation? origin Key.managedHosts) records w)
    (single : OnePerName records) (stored : w.server.find? subject.ref = some manifest)
    (filed : Filed subject.kind manifest) (own : subjectOf subject.kind manifest = subject)
    (departs : Departs subject w) : ∃ last,
    Ends subject.kind (reconcile subject defaultTarget) w () last ∧
      RidOf subject (writtenDown origin) none last := by
  obtain ⟨_, hf, hin, hrecorded⟩ := h.held
  cases stored.symm.trans hf
  have hplan : plan subject.kind defaultTarget manifest = .release := by
    rw [plan_of_gone (departs manifest stored), if_pos hin]
  have hwritten : writtenDown manifest = writtenDown origin := by
    rw [writtenDown, hrecorded, writtenDown]
  have hserves : ∀ target, plan subject.kind defaultTarget manifest ≠ .serve target := by
    simp [hplan]
  have hgone : ∀ host ∈ writtenDown origin,
      (plan subject.kind defaultTarget manifest).recordsAfter subject.kind manifest host
        (recordsOf host w.records) = [] := by
    intro host hh
    rw [hplan, Plan.recordsAfter, if_pos (hwritten ▸ hh)]
  have hrid := exists_rid _ (h.records ▸ single) stored filed own
    (fun target hserve => absurd hserve (hserves target)) hgone
  rwa [hplan] at hrid

/-- An object that asks for no hosts any more, while it takes part, is passed over, however often it
is reconciled: its records stay, and its hosts stay written down. The first reconcile after it asks
for some host again, with an address, deletes the records of those that were written down and are
not asked for; the first one after it leaves deletes the records of them all. -/
theorem withdrawn_hosts_await (stored : w.server.find? subject.ref = some origin)
    (filed : Filed subject.kind origin) (own : subjectOf subject.kind origin = subject)
    (nothing : AsksNothing subject.kind origin) (single : OnePerName w.records)
    (defaultTarget : String) :
    (∃ w', Ends subject.kind (reconcile subject defaultTarget) w () w') ∧
    ∀ w', Pause subject defaultTarget w w' →
      Awaits subject (Manifest.annotation? origin Key.managedHosts) w.records w' ∧
      ∀ revised, Revises subject w' revised →
        (∀ manifest target, revised.server.find? subject.ref = some manifest →
          TakesPart subject.kind manifest defaultTarget target →
          ∃ last, Ends subject.kind (reconcile subject defaultTarget) revised () last ∧
            RidOf subject (outdated subject.kind manifest origin)
              (managedText? (desired subject.kind manifest)) last) ∧
        (Departs subject revised →
          ∃ last, Ends subject.kind (reconcile subject defaultTarget) revised () last ∧
            RidOf subject (writtenDown origin) none last) := by
  obtain ⟨w', hends, -⟩ := exists_awaiting stored filed own nothing defaultTarget
  refine ⟨⟨w', hends⟩, fun w' pause => ?_⟩
  have hawaits := pause.awaits stored filed own nothing
  refine ⟨hawaits, fun revised revises => ⟨fun manifest target hf part => ?_, fun departs => ?_⟩⟩
  · obtain ⟨hfiled, hown, -⟩ := revises.object manifest hf
    exact (hawaits.kept revises).resumes single hf hfiled hown part
  · obtain ⟨manifest, hf, -⟩ := (hawaits.kept revises).held
    obtain ⟨hfiled, hown, -⟩ := revises.object manifest hf
    exact (hawaits.kept revises).departs single hf hfiled hown departs

end

/-- The owner of a route with two hosts gives up both, and the route takes part as before. -/
def withdrawnWorld : World :=
  annotated [(Key.hosts, .null)] (reconciled route "10.0.0.1" pausingWorld)

/-- Some time later the owner asks for one of them again. -/
def reclaimedWorld : World :=
  annotated [(Key.hosts, .string "b.local")] (reconciled route "10.0.0.1" withdrawnWorld)

theorem filed_withdrawn : Filed .ingress (storedManifest route.ref withdrawnWorld) :=
  ⟨by decide +kernel, by decide +kernel⟩

theorem asksNothing_withdrawn : AsksNothing .ingress (storedManifest route.ref withdrawnWorld) :=
  ⟨by decide +kernel, by decide +kernel, by decide +kernel⟩

theorem single_withdrawn : OnePerName withdrawnWorld.records :=
  onePerName_of_nodup (by decide +kernel)

theorem withdrawn_hosts_await_of_reclaimed :
    withdrawnWorld.records =
      [⟨"c.local", "10.0.0.9"⟩, ⟨"a.local", "10.0.0.1"⟩, ⟨"b.local", "10.0.0.1"⟩] ∧
    Awaits route (some "a.local,b.local") withdrawnWorld.records
      (reconciled route "10.0.0.1" withdrawnWorld) ∧
    ∃ last, Ends .ingress (reconcile route "10.0.0.1") reclaimedWorld () last ∧
      RidOf route ["a.local"] (some "b.local") last := by
  have stored : withdrawnWorld.server.find? route.ref =
      some (storedManifest route.ref withdrawnWorld) := find?_storedManifest (by decide +kernel)
  obtain ⟨⟨w', hends⟩, hpause⟩ := withdrawn_hosts_await stored filed_withdrawn
    (by decide +kernel) asksNothing_withdrawn single_withdrawn "10.0.0.1"
  obtain ⟨hawaits, hlater⟩ := hpause _ (.first (hends.reconciled_eq.symm ▸ hends))
  have revises : Revises route (reconciled route "10.0.0.1" withdrawnWorld) reclaimedWorld :=
    revises_of_stored (records_annotated _ _) (by decide +kernel) (by decide +kernel)
      ⟨by decide +kernel, by decide +kernel⟩ (by decide +kernel) (by decide +kernel)
      (by decide +kernel)
  have reclaimed : reclaimedWorld.server.find? route.ref =
      some (storedManifest route.ref reclaimedWorld) := find?_storedManifest (by decide +kernel)
  have part : TakesPart .ingress (storedManifest route.ref reclaimedWorld) "10.0.0.1" "10.0.0.1" :=
    ⟨by decide +kernel, by decide +kernel, by decide +kernel, by decide +kernel,
      by decide +kernel⟩
  have hrid := (hlater reclaimedWorld revises).1 _ _ reclaimed part
  have htext : Manifest.annotation? (storedManifest route.ref withdrawnWorld) Key.managedHosts =
      some "a.local,b.local" := by decide +kernel
  have hout : outdated .ingress (storedManifest route.ref reclaimedWorld)
      (storedManifest route.ref withdrawnWorld) = ["a.local"] := by decide +kernel
  have hasked : managedText? (desired .ingress (storedManifest route.ref reclaimedWorld)) =
      some "b.local" := by decide +kernel
  refine ⟨by decide +kernel, htext ▸ hawaits, ?_⟩
  rwa [show outdated route.kind _ _ = ["a.local"] from hout,
    show managedText? (desired route.kind _) = some "b.local" from hasked] at hrid

/-- Two hosts were served, and then no host is asked for: after the next reconcile both of them
still have their records, and both are still written down. -/
theorem withdrawn_hosts_stay :
    AsksNothing .ingress (storedManifest route.ref withdrawnWorld) ∧
    Annotations.target? (Manifest.seen .ingress (storedManifest route.ref withdrawnWorld)).annotations
      "10.0.0.1" = some "10.0.0.1" ∧
    writtenDown (storedManifest route.ref withdrawnWorld) = ["a.local", "b.local"] ∧
    OnePerName withdrawnWorld.records ∧
    ∃ w', Ends .ingress (reconcile route "10.0.0.1") withdrawnWorld () w' ∧
      w'.records =
        [⟨"c.local", "10.0.0.9"⟩, ⟨"a.local", "10.0.0.1"⟩, ⟨"b.local", "10.0.0.1"⟩] ∧
      Manifest.annotation? (storedManifest route.ref w') Key.managedHosts =
        some "a.local,b.local" := by
  have stored : withdrawnWorld.server.find? route.ref =
      some (storedManifest route.ref withdrawnWorld) := find?_storedManifest (by decide +kernel)
  obtain ⟨w', hends, -⟩ := exists_awaiting stored filed_withdrawn (by decide +kernel)
    asksNothing_withdrawn "10.0.0.1"
  have hend : w' = reconciled route "10.0.0.1" withdrawnWorld := hends.reconciled_eq.symm
  refine ⟨asksNothing_withdrawn, by decide +kernel, by decide +kernel, single_withdrawn, w', hends,
    ?_, ?_⟩
  · rw [hend]
    decide +kernel
  · rw [hend]
    decide +kernel

end ClusterDns.Reconcile
