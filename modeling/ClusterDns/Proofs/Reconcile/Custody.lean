import ClusterDns.Proofs.Reconcile.Walk
import ClusterDns.Proofs.Rehearsal.Versions

/-! The finalizer is custody of an object's records. A reconcile takes it before the first record is
made, every record is made or deleted under it, and it is given up only when the hostnames written
down on the object have all been deleted. Others may change the object between any two calls: a
patch that names a version finds the manifest it was made from, or does nothing. -/

namespace ClusterDns.Reconcile

open Cluster (Kind Object ObjectRef Manifest.read? Manifest.written Manifest.finalizers
  Manifest.annotation? Manifest.isBeingDeleted)
open PiHole (Record Store.list Store.create Store.delete Store.rebind StoreRequest)
open Rehearsal

/-! ## Marks on the stored object -/

/-- The stored object carries the finalizer. -/
def Held (ref : ObjectRef) (w : World) : Prop :=
  ∃ manifest, w.server.find? ref = some manifest ∧
    cleanupFinalizer ∈ Manifest.finalizers manifest

instance (ref : ObjectRef) (w : World) : Decidable (Held ref w) :=
  inferInstanceAs (Decidable (∃ manifest ∈ w.server.find? ref,
    cleanupFinalizer ∈ Manifest.finalizers manifest))

/-- What the stored object's annotation says about managed hostnames. -/
def recorded? (ref : ObjectRef) (w : World) : Option String :=
  (w.server.find? ref).bind (Manifest.annotation? · Key.managedHosts)

/-- The hostnames written down on the stored object. -/
def recordedHosts (ref : ObjectRef) (w : World) : List String :=
  ((recorded? ref w).map Text.CommaList.parse).getD []

/-- The hostnames written down on a manifest. -/
def writtenDown (manifest : Json) : List String :=
  ((Manifest.annotation? manifest Key.managedHosts).map Text.CommaList.parse).getD []

/-- Reconciles of one object. At any time others may do anything, but for two things: they neither
add nor take away the finalizer, and they leave the record of managed hostnames as it is. -/
def custodial (subject : Subject) : Rules where
  edit w w' := w.server.Becomes w'.server ∧ (Held subject.ref w' ↔ Held subject.ref w) ∧
    recorded? subject.ref w' = recorded? subject.ref w
  anytime := True
  start started _ := started = subject

/-- The reconcile under way was told that the record of a host is deleted. -/
def Deleted (events : List Occurrence) (host : String) : Prop :=
  Occurrence.called (.dns (.delete host)) .answered (.ok ()) ∈ Occurrence.current events

/-- A request that changes records. -/
def IsChange : StoreRequest → Prop
  | .list => False
  | .create _ => True
  | .delete _ => True

/-! ## The contract of a reconcile -/

section

variable {subject : Subject} {s t : Moment} {manifest : Json} {object : Object}
  {place : ObjectRef}

/-- Records change only while the object is held, and a call that ends this comes after the
deletion of all hosts written down. -/
def Permitted (subject : Subject) (q : Request) (s : Moment) : Prop :=
  (∀ change, q = .dns change → IsChange change → Held subject.ref s.1) ∧
  ∀ kind fate r w, s.1.Answers kind q fate r w → Held subject.ref s.1 → ¬ Held subject.ref w →
    ∀ host ∈ recordedHosts subject.ref s.1, Deleted s.2 host

/-- An object with managed hostnames written down on it is held. -/
structure Guarded (subject : Subject) (s : Moment) : Prop where
  versioned : s.1.server.Versioned
  held : recorded? subject.ref s.1 ≠ none → Held subject.ref s.1

abbrev custody (subject : Subject) : Contract Surroundings Moment :=
  (custodial subject).contract subject.kind (Permitted subject) (Guarded subject)

theorem Guarded.more {w : World} {events : List Occurrence} (h : Guarded subject (w, events))
    (event : Occurrence) : Guarded subject (w, event :: events) := ⟨h.versioned, h.held⟩

theorem Guarded.intrusion (h : Guarded subject s) (hi : (custodial subject).Intrusion s t) :
    Guarded subject t := by
  obtain ⟨-, ⟨hb, hh, hr⟩, -⟩ := hi
  refine ⟨hb.versioned h.versioned, ?_⟩
  rw [hr, hh]
  exact h.held

theorem lasting_held : (custodial subject).Lasting fun t => Held subject.ref t.1 := by
  rintro s t ⟨-, ⟨-, hh, -⟩, -⟩ hs
  exact hh.mpr hs

theorem lasting_deleted (hosts : List String) :
    (custodial subject).Lasting fun t => ∀ host ∈ hosts, Deleted t.2 host := by
  rintro s t ⟨-, -, he⟩ hs host hh
  rw [he]
  exact List.mem_cons_of_mem _ (hs host hh)

/-- A manifest that the reconcile under way has read. -/
structure Known (subject : Subject) (manifest : Json) (s : Moment) : Prop where
  versioned : s.1.server.Versioned
  pinned : s.1.server.Pinned subject.ref manifest

theorem lasting_known : (custodial subject).Lasting (Known subject manifest) := by
  rintro s t ⟨-, ⟨hb, -, -⟩, -⟩ hs
  exact ⟨hb.versioned hs.versioned, hb.pinned hs.versioned hs.pinned⟩

/-! ## Calls -/

theorem server_of_answers {kind : Kind} {q : Request} {fate : Fate} {r : q.Answer} {w w' : World}
    (hs : (w.answer kind q).2.server = w.server) (ha : w.Answers kind q fate r w') :
    w'.server = w.server :=
  ha.leaves (P := fun next => next.server = w.server) rfl hs

/-- A call that leaves the objects alone. -/
theorem guarded_call {q : Request} (hs : ∀ kind, (t.1.answer kind q).2.server = t.1.server)
    (hc : ∀ change, q = .dns change → IsChange change → Held subject.ref t.1)
    (hi : Guarded subject t) : Permitted subject q t ∧
      ∀ fate r w events, t.1.Answers subject.kind q fate r w → Guarded subject (w, events) := by
  refine ⟨⟨hc, ?_⟩, ?_⟩
  · intro kind fate r w ha hh hn
    rw [Held, server_of_answers (hs kind) ha] at hn
    exact absurd hh hn
  · intro fate r w events ha
    refine ⟨?_, ?_⟩
    · rw [server_of_answers (hs _) ha]
      exact hi.versioned
    · rw [recorded?, Held, server_of_answers (hs _) ha]
      exact hi.held

theorem custody_fetch {post : Option Object → Moment → Prop}
    (missing : ∀ t : Moment, (Held subject.ref s.1 → Held subject.ref t.1) → post none t)
    (hp : ∀ (t : Moment) manifest found, (Held subject.ref s.1 → Held subject.ref t.1) →
      t.1.server.find? subject.ref = some manifest →
      Manifest.read? subject.kind manifest = some found → Known subject manifest t →
      post (some found) t) :
    (custody subject).Tries (fetch subject.ref) post s := by
  refine tries_fetch ?_
  intro t hd hi
  obtain ⟨ha, hn⟩ := guarded_call (q := .fetch subject.ref) (fun _ => rfl) (by rintro _ ⟨⟩) hi
  refine ⟨ha, fun fate r w hw => hn fate r w _ hw, ?_⟩
  intro found hf
  cases found with
  | none => exact missing _ fun hh => (lasting_held.drift hd hh :)
  | some object =>
    obtain ⟨stored, hstored, hr⟩ := World.fetch_eq_ok hf
    exact hp _ stored object (fun hh => (lasting_held.drift hd hh :)) hstored hr
      ⟨hi.versioned, hi.versioned.pinned _ _ hstored⟩

theorem custody_list {post : List Record → Moment → Prop}
    (hp : ∀ t, (custodial subject).Drift s t → ∀ event, post t.1.records (t.1, event :: t.2)) :
    (custody subject).Tries (onStore .list Store.list) post s := by
  refine tries_list ?_
  intro t hd hi
  obtain ⟨ha, hn⟩ := guarded_call (q := .dns .list) (fun _ => rfl)
    (by rintro _ ⟨⟩ hc; exact hc.elim) hi
  exact ⟨ha, fun fate r w hw => hn fate r w _ hw, hp t hd _⟩

theorem custody_create {step : StoreStep} {r : Record} {post : Unit → Moment → Prop}
    (hh : Held subject.ref s.1) (hp : ∀ t : Moment, Held subject.ref t.1 → post () t) :
    (custody subject).Tries (onStore step (Store.create r)) post s := by
  refine tries_create ?_
  intro t hd hi
  have ht := lasting_held.drift hd hh
  obtain ⟨ha, hn⟩ := guarded_call (q := .dns (.create r)) (fun _ => rfl)
    (fun _ _ _ => ht) hi
  exact ⟨ha, fun fate a w hw => hn fate a w _ hw, hp _ ht⟩

theorem custody_delete {step : StoreStep} {domain : String} {post : Unit → Moment → Prop}
    (hh : Held subject.ref s.1)
    (hp : ∀ t, (custodial subject).Drift s t → Held subject.ref t.1 →
      post () ({ t.1 with records := removeFirst domain t.1.records },
        .called (.dns (.delete domain)) .answered (.ok ()) :: t.2)) :
    (custody subject).Tries (onStore step (Store.delete domain)) post s := by
  refine tries_delete ?_
  intro t hd hi
  have ht := lasting_held.drift hd hh
  obtain ⟨ha, hn⟩ := guarded_call (q := .dns (.delete domain)) (fun _ => rfl)
    (fun _ _ _ => ht) hi
  exact ⟨ha, fun fate a w hw => hn fate a w _ hw, hp t hd ht⟩

/-- The server after a reader's patch is taken. -/
abbrev patched (w : World) (ref : ObjectRef) (manifest : Json) (object : Object)
    (members : Json.Members) : World :=
  { w with server := w.server.afterPatch ref manifest (metadataPatch object members) }

/-- A patch leaves the object stored, unless that is being deleted and has no finalizer then. -/
theorem find?_patched_of_remains {w : World} {ref : ObjectRef} {members : Json.Members}
    {next : Json}
    (hnext : Manifest.written (w.server.version (w.server.writes + 1)) manifest object members =
      next)
    (remains : Manifest.isBeingDeleted next = true → Manifest.finalizers next ≠ []) :
    (patched w ref manifest object members).server.find? ref = some next := by
  have houtcome : w.server.outcomeOf manifest (metadataPatch object members) = next := hnext
  have hstays : (Manifest.isBeingDeleted next && ApiServer.hasNoFinalizer next) = false := by
    rw [Bool.and_eq_false_imp]
    intro hdeleted
    obtain ⟨finalizer, hin⟩ := List.exists_mem_of_ne_nil _ (remains hdeleted)
    exact Cluster.Manifest.hasNoFinalizer_of_mem hin
  rw [ApiServer.find?_afterPatch, if_pos rfl, houtcome, hstays, if_neg Bool.false_ne_true]

theorem find?_patched {w : World} {ref : ObjectRef} {members : Json.Members}
    (h : cleanupFinalizer ∈ Manifest.finalizers
      (Manifest.written (w.server.version (w.server.writes + 1)) manifest object members)) :
    (patched w ref manifest object members).server.find? ref =
      some (Manifest.written (w.server.version (w.server.writes + 1)) manifest object members) :=
  find?_patched_of_remains rfl fun _ => List.ne_nil_of_mem h

theorem held_patched {w : World} {ref : ObjectRef} {members : Json.Members}
    (h : cleanupFinalizer ∈ Manifest.finalizers
      (Manifest.written (w.server.version (w.server.writes + 1)) manifest object members)) :
    Held ref (patched w ref manifest object members) :=
  ⟨_, find?_patched h, h⟩

theorem recorded?_patched {w : World} {ref : ObjectRef} {members : Json.Members}
    (h : recorded? ref (patched w ref manifest object members) ≠ none) :
    Manifest.annotation? (Manifest.written (w.server.version (w.server.writes + 1)) manifest object
      members) Key.managedHosts ≠ none := by
  intro hn
  apply h
  rw [recorded?, ApiServer.find?_afterPatch, if_pos rfl]
  split
  · rfl
  · exact hn

/-- Others may have changed the object before the patch, but then it changes nothing. -/
theorem custody_patch {members : Json.Members} {post : Option Object → Moment → Prop}
    (hk : Known subject manifest s) (hr : Manifest.read? subject.kind manifest = some object)
    (kept : ∀ version, Manifest.annotation? (Manifest.written version manifest object members)
        Key.managedHosts ≠ none →
      cleanupFinalizer ∈ Manifest.finalizers (Manifest.written version manifest object members))
    (released : (∀ version, cleanupFinalizer ∈
        Manifest.finalizers (Manifest.written version manifest object members)) ∨
      ∀ host ∈ writtenDown manifest, Deleted s.2 host)
    (hp : ∀ found t, ((∀ version, cleanupFinalizer ∈
        Manifest.finalizers (Manifest.written version manifest object members)) →
      Held subject.ref s.1 ∨ found ≠ none → Held subject.ref t.1) → post found t) :
    (custody subject).Tries (patch place (metadataPatch object members)) post s := by
  refine tries_patch ?_
  intro t hd hi
  replace hk := lasting_known.drift hd hk
  rcases World.patch_cases hk.pinned hr place members with
    ⟨hsame, hnot⟩ | ⟨rfl, hf, he⟩
  · have hs : ∀ kind, (t.1.answer kind (.patch place (metadataPatch object members))).2.server =
        t.1.server := fun _ => congrArg World.server hsame
    obtain ⟨ha, hn⟩ := guarded_call hs (by rintro _ ⟨⟩) hi
    refine ⟨ha, fun fate r w hw => hn fate r w _ hw, ?_⟩
    intro found hfound
    apply hp
    rintro - (hh | hsome)
    · rw [Held, congrArg World.server hsame]
      exact lasting_held.drift hd hh
    · obtain ⟨next, rfl⟩ := Option.ne_none_iff_exists'.mp hsome
      exact absurd hfound (hnot next)
  · have hafter : ∀ kind, (t.1.answer kind
        (.patch subject.ref (metadataPatch object members))).2 =
          patched t.1 subject.ref manifest object members := fun _ => congrArg Prod.snd he
    have hguarded : ∀ events,
        Guarded subject (patched t.1 subject.ref manifest object members, events) := by
      refine fun events => ⟨(ApiServer.becomes_afterPatch ..).versioned hi.versioned, ?_⟩
      exact fun hrec => held_patched (kept _ (recorded?_patched hrec))
    refine ⟨⟨by rintro _ ⟨⟩, ?_⟩, ?_, ?_⟩
    · intro kind fate r w hw hh hn
      rcases released with hstays | hgone
      · refine absurd (hw.leaves (P := Held subject.ref) hh ?_) hn
        rw [hafter]
        exact held_patched (hstays _)
      · rw [recordedHosts, recorded?, hf]
        exact (lasting_deleted _).drift hd hgone
    · intro fate r w hw
      refine hw.leaves (P := fun next => Guarded subject (next, _ :: t.2)) (hi.more _) ?_
      rw [hafter]
      exact hguarded _
    · intro found _
      apply hp
      intro hstays _
      rw [he]
      exact held_patched (hstays _)

/-! ## What a reconcile does under custody -/

theorem custody_rebind {step : StoreStep} {r : Record} {bound : Option String}
    (hh : Held subject.ref s.1) (hb : bound ≠ some r.address) :
    (custody subject).Tries (onStore step (Store.rebind r bound))
      (fun _ t => Held subject.ref t.1) s := by
  cases bound with
  | none => exact custody_create hh fun t ht => ht
  | some address =>
    rw [onStore_rebind fun h => hb (congrArg some h)]
    refine Contract.Tries.bind ?_
    refine custody_delete hh ?_
    intro t _ ht
    exact custody_create ht fun u hu => hu

theorem custody_syncHosts {target : String} {hosts : List String} (hh : Held subject.ref s.1) :
    (custody subject).Tries (syncHosts subject target hosts)
      (fun _ t => Held subject.ref t.1) s := by
  refine Contract.Tries.bind ?_
  refine custody_list ?_
  intro t hd event
  apply Contract.Tries.mono (tries_bindHosts (P := fun _ t => Held subject.ref t.1) ?_ ?_ ?_)
  · rintro _ u ⟨_, hu, -⟩
    exact hu
  · exact fun _ => lasting_held
  · exact fun host _ b u hu hb => custody_rebind hu hb
  · exact (lasting_held.drift hd hh :)

/-- What is known stays known, and each host's deletion is on record. -/
theorem custody_deleteHosts {noted : Subject} {hosts : List String} (hh : Held subject.ref s.1) :
    (custody subject).Tries (deleteHosts noted hosts) (fun _ t => Held subject.ref t.1 ∧
      (∀ manifest, Known subject manifest s → Known subject manifest t) ∧
      ∀ host ∈ hosts, Deleted t.2 host) s := by
  apply tries_deleteHosts (P := fun gone t => Held subject.ref t.1 ∧
    (∀ manifest, Known subject manifest s → Known subject manifest t) ∧
    ∀ host ∈ gone, Deleted t.2 host)
  · rintro gone t u hi ⟨ht, hk, hg⟩
    exact ⟨lasting_held _ _ hi ht, fun manifest hs => lasting_known _ _ hi (hk manifest hs),
      lasting_deleted gone _ _ hi hg⟩
  · rintro gone host rest - t ⟨ht, hk, hg⟩
    refine custody_delete ht ?_
    intro u hd hu
    refine ⟨hu, ?_, ?_⟩
    · intro manifest hs
      have hku := lasting_known.drift hd (hk manifest hs)
      exact ⟨hku.versioned, hku.pinned⟩
    · intro other ho
      rcases List.mem_append.mp ho with ho | ho
      · exact List.mem_cons_of_mem _ ((lasting_deleted gone).drift hd hg other ho)
      · rw [List.mem_singleton.mp ho]
        exact List.mem_cons_self
  · exact ⟨hh, fun _ => id, by simp⟩

/-- What an object says of itself is what the manifest says that it was read from. -/
theorem Known.reads (hk : Known subject manifest s)
    (hr : Manifest.read? subject.kind manifest = some object) :
    object.finalizers = Manifest.finalizers manifest ∧
      Annotations.managed object.annotations = writtenDown manifest := by
  obtain ⟨n, -, hv, -⟩ := hk.pinned
  obtain ⟨ha, hf, -⟩ := Cluster.Manifest.read?_eq_some hr hv
  rw [Object.finalizers, hf, Object.annotations, ha]
  exact ⟨rfl, rfl⟩

theorem Known.hasFinalizer (hk : Known subject manifest s)
    (hr : Manifest.read? subject.kind manifest = some object) :
    object.hasFinalizer cleanupFinalizer = true ↔
      cleanupFinalizer ∈ Manifest.finalizers manifest := by
  rw [Object.hasFinalizer, (hk.reads hr).1, List.contains_iff_mem]

/-- Before the finalizer is given up, all hosts written down are deleted. -/
theorem custody_cleanup (hh : Held subject.ref s.1) (hk : Known subject manifest s)
    (hr : Manifest.read? subject.kind manifest = some object) :
    (custody subject).Tries (cleanup subject.kind object) (fun _ _ => True) s := by
  refine tries_cleanup (Contract.Tries.mono (custody_deleteHosts hh) ?_)
  rintro _ t ⟨-, hkt, hg⟩
  replace hkt := hkt manifest hk
  refine ⟨fun _ => trivial, fun _ u hu => ?_⟩
  apply custody_patch (lasting_known.drift hu hkt) hr
  · intro version hrec
    rw [Cluster.Manifest.annotation?_written, Cluster.Manifest.amend_cons] at hrec
    exact absurd (Cluster.Manifest.annotation?_amend _ Key.managedHosts none _) hrec
  · right
    rw [← (hkt.reads hr).2]
    exact (lasting_deleted _).drift hu hg
  · exact fun _ _ _ => trivial

theorem custody_release {reason : Event}
    (hf : s.1.server.find? subject.ref = some manifest) (hk : Known subject manifest s)
    (hr : Manifest.read? subject.kind manifest = some object) :
    (custody subject).Tries (release subject reason object) (fun _ _ => True) s := by
  refine tries_release (fun _ => trivial) fun hheld t ht => ?_
  have hh : Held subject.ref s.1 := ⟨manifest, hf, (hk.hasFinalizer hr).mp hheld⟩
  exact custody_cleanup (lasting_held.drift ht hh) (lasting_known.drift ht hk) hr

theorem mem_finalizers_holding (version : String) (manifest : Json) (object : Object) :
    cleanupFinalizer ∈
      Manifest.finalizers (Manifest.written version manifest object (holdingMembers object)) := by
  rw [Manifest.finalizers, Cluster.Manifest.finalizers?_written,
    Cluster.Manifest.finalizers?_amend _ _ (by simp)]
  simp

theorem finalizers_writing (version : String) (manifest : Json) (object : Object)
    (hosts : List String) :
    Manifest.finalizers (Manifest.written version manifest object (writingMembers hosts)) =
      Manifest.finalizers manifest := by
  rw [Manifest.finalizers, Cluster.Manifest.finalizers?_written,
    Cluster.Manifest.finalizers?_amend_of_not_mem (by simp [Cluster.Manifest.annotationMember]),
    Manifest.finalizers]

theorem mem_finalizers_writing (version : String) (manifest : Json) (object : Object)
    (hosts : List String) : cleanupFinalizer ∈
      Manifest.finalizers (Manifest.written version manifest object (writingMembers hosts)) ↔
        cleanupFinalizer ∈ Manifest.finalizers manifest := by
  rw [finalizers_writing]

theorem custody_ensureFinalizer (hf : s.1.server.find? subject.ref = some manifest)
    (hk : Known subject manifest s) (hr : Manifest.read? subject.kind manifest = some object) :
    (custody subject).Tries (ensureFinalizer subject.kind object cleanupFinalizer)
      (fun held t => ∀ next, held = some next → Held subject.ref t.1) s := by
  refine tries_ensureFinalizer (fun hheld => ?_) fun _ t ht => ?_
  · exact fun _ _ => ⟨manifest, hf, (hk.hasFinalizer hr).mp hheld⟩
  · have hin := fun version => mem_finalizers_holding version manifest object
    apply custody_patch (lasting_known.drift ht hk) hr
    · exact fun version _ => hin version
    · exact .inl hin
    · rintro found u hu next rfl
      exact hu hin (.inr (Option.some_ne_none next))

theorem custody_writeManaged {hosts : List String} (hh : Held subject.ref s.1) :
    (custody subject).Tries (writeManaged subject hosts) (fun _ t => Held subject.ref t.1) s := by
  refine tries_writeManaged ?_
  apply custody_fetch
  · exact fun t hkeeps u hu => lasting_held.drift hu (hkeeps hh)
  · intro t manifest latest hkeeps hf hr hk
    refine ⟨fun _ => hkeeps hh, fun _ => ?_⟩
    obtain ⟨stored, hstored, hmem⟩ := hkeeps hh
    rw [hf] at hstored
    cases hstored
    have hin := fun version => (mem_finalizers_writing version manifest latest hosts).mpr hmem
    apply custody_patch hk hr
    · exact fun version _ => hin version
    · exact .inl hin
    · exact fun _ u hu => hu hin (.inl (hkeeps hh))

theorem custody_serve {defaultTarget : String} (hh : Held subject.ref s.1) :
    (custody subject).Tries (serve subject defaultTarget object)
      (fun _ t => Held subject.ref t.1) s := by
  refine tries_serve (fun _ t ht => lasting_held.drift ht hh) fun target _ _ => ?_
  refine Contract.Tries.mono (custody_syncHosts hh) fun _ t ht => ?_
  refine Contract.Tries.mono (custody_deleteHosts ht) ?_
  rintro _ u ⟨hu, -⟩
  refine Contract.Tries.mono (custody_writeManaged hu) ?_
  exact fun _ v hv x hx => lasting_held.drift hx hv

theorem custody_reconcile {defaultTarget : String} :
    (custody subject).Tries (reconcile subject defaultTarget) (fun _ _ => True) s := by
  refine tries_reconcile ?_
  apply custody_fetch
  · exact fun _ _ _ _ => trivial
  · intro t manifest object _ hf hr hk
    refine ⟨fun _ _ => custody_release hf hk hr, fun _ _ => ?_⟩
    refine Contract.Tries.mono (custody_ensureFinalizer hf hk hr) fun held u hu => ?_
    cases held with
    | none => trivial
    | some next => exact Contract.Tries.mono (custody_serve (hu next rfl)) fun _ _ _ => trivial

end

/-! ## Runs -/

theorem custodial_upheld {first scene : Scene} {events : List Occurrence} {subject : Subject}
    (idle : first.IsIdle) (guarded : Guarded subject (first.world, []))
    (run : Run (custodial subject) first events scene) :
    (custodial subject).Upholds (Permitted subject) (Guarded subject) (fun _ _ => True) scene
      events := by
  have hedit : ∀ w w' events, Guarded subject (w, events) → (custodial subject).edit w w' →
      Guarded subject (w', .edited :: events) :=
    fun w w' events h he => h.intrusion ⟨trivial, he, rfl⟩
  have hstart : ∀ w events started target, Guarded subject (w, events) →
      (custodial subject).start started target →
      (custodial subject).Upholds (Permitted subject) (Guarded subject) (fun _ _ => True)
        (.beginning w started target) (.started started :: events) := by
    rintro w events started target h rfl
    refine ⟨h.more _, ?_⟩
    exact Contract.Secures.mono custody_reconcile fun _ _ _ => trivial
  have hu := run.upheld idle guarded hedit hstart
  rwa [List.append_nil] at hu

/-- In every scene of every run of reconciles of one object: if hostnames are written down on it,
it is held; records are changed only while it is held; and it ceases to be held only by a patch
that the reconcile under way makes after it was told of the deletion of all hosts written down. -/
theorem finalizer_guards_records {subject : Subject} {first scene : Scene}
    {events : List Occurrence} (idle : first.IsIdle) (versioned : first.world.server.Versioned)
    (held : recorded? subject.ref first.world ≠ none → Held subject.ref first.world)
    (run : Run (custodial subject) first events scene) :
    (recorded? subject.ref scene.world ≠ none → Held subject.ref scene.world) ∧
    (∀ change next, scene.rest = .ask (I := Surroundings) (.dns change) next → IsChange change →
      Held subject.ref scene.world) ∧
    ∀ observed after, Step (custodial subject) scene observed after →
      Held subject.ref scene.world → ¬ Held subject.ref after.world →
      (∃ place body fate r, observed = [.called (.patch place body) fate r]) ∧
      ∀ host ∈ recordedHosts subject.ref scene.world, Deleted events host := by
  obtain ⟨hg, hs⟩ := custodial_upheld idle ⟨versioned, held⟩ run
  refine ⟨hg.held, ?_, ?_⟩
  · intro change next hrest hc
    rw [hrest] at hs
    exact ((hs _ .refl hg).1 trivial).1 change rfl hc
  · intro observed after hstep hh hn
    cases hstep with
    | edited _ he => exact absurd (he.2.1.mpr hh) hn
    | started _ _ => exact absurd hh hn
    | @asked world world' _ q next fate r ha =>
      obtain ⟨hallowed, -⟩ := hs _ .refl hg
      have hpatch : ∃ place body, q = .patch place body := by
        cases q with
        | patch place body => exact ⟨place, body, rfl⟩
        | _ =>
          rw [Held, server_of_answers rfl ha] at hn
          exact absurd hh hn
      obtain ⟨place, body, rfl⟩ := hpatch
      exact ⟨⟨place, body, fate, r, rfl⟩, (hallowed trivial).2 _ fate r _ ha hh hn⟩

/-- A route that was given a record and takes part no more. -/
def leavingWorld : World :=
  .holding (routeManifest [(Key.managedHosts, "app.local")] [cleanupFinalizer])
    [⟨"app.local", "10.0.0.1"⟩]

theorem finalizer_guards_records_of_leaving :
    ∃ events scene, Run (custodial route) ⟨leavingWorld, route, .done (.ok ())⟩ events scene ∧
      scene.world.records = [] ∧
      (recorded? route.ref scene.world ≠ none → Held route.ref scene.world) ∧
      (∀ change next, scene.rest = .ask (I := Surroundings) (.dns change) next →
        IsChange change → Held route.ref scene.world) ∧
      ∀ observed after, Step (custodial route) scene observed after →
        Held route.ref scene.world → ¬ Held route.ref after.world →
        (∃ place body fate r, observed = [.called (.patch place body) fate r]) ∧
        ∀ host ∈ recordedHosts route.ref scene.world, Deleted events host := by
  have idle : Scene.IsIdle ⟨leavingWorld, route, .done (.ok ())⟩ := ⟨_, rfl⟩
  have versioned : leavingWorld.server.Versioned := World.versioned_holding _ _
  have held : Held route.ref leavingWorld := by decide +kernel
  have start : (custodial route).start route "10.0.0.1" := rfl
  have run := (Run.step .none (.started idle start)).trans (.played _ _ _ _ [])
  exact ⟨_, _, run, by decide +kernel,
    @finalizer_guards_records route _ _ _ idle versioned (fun _ => held) run⟩

end ClusterDns.Reconcile
