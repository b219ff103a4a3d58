import ClusterDns.Proofs.Reconcile.Convergence
import ClusterDns.Proofs.Reconcile.Untroubled

/-! What one reconcile brings about while others work elsewhere. As long as they leave its object
and the records of its hosts alone, every call of it succeeds, it makes calls about this object and
these hosts only, and how it ends is settled by what it found. -/

namespace ClusterDns.Reconcile

open Cluster (Kind Object Manifest.seen Manifest.finalizers Manifest.written Manifest.unversioned
  Manifest.Kindred Manifest.IsOwn Manifest.amend Manifest.annotationMember Manifest.isBeingDeleted)
open PiHole (Record Store.create Store.delete Store.rebind)
open Rehearsal

/-! ## What there is to do -/

/-- What a reconcile does with the object it finds. -/
inductive Plan where
  | nothing
  | release
  /-- The object gets the finalizer, but there is nothing to serve. -/
  | hold
  | serve (target : String)

def plan (kind : Kind) (defaultTarget : String) (origin : Json) : Plan :=
  let object := Manifest.seen kind origin
  if object.isBeingDeleted || !Annotations.isRegistered object.annotations then
    if cleanupFinalizer ∈ Manifest.finalizers origin then .release else .nothing
  else if desired kind origin = [] then .hold
  else
    match Annotations.target? object.annotations defaultTarget with
    | none => .hold
    | some target => .serve target

/-- The finalizers that stay when an object is released. -/
def remainingFinalizers (origin : Json) : List String :=
  (Manifest.finalizers origin).filter (· ≠ cleanupFinalizer)

abbrev releasingMembers (origin : Json) : Json.Members :=
  [finalizersMember (remainingFinalizers origin),
    Manifest.annotationMember Key.managedHosts none]

/-- The object after its release, if it is still there. -/
def releasedForm (origin : Json) : Option Json :=
  if Manifest.isBeingDeleted origin && (remainingFinalizers origin).isEmpty then none
  else some (Manifest.amend (Manifest.unversioned origin) (releasingMembers origin))

namespace Plan

/-- The object at the end, but for its version. -/
def objectAfter (kind : Kind) (origin : Json) : Plan → Option Json
  | nothing => some (Manifest.unversioned origin)
  | release => releasedForm origin
  | hold => some (heldForm origin)
  | serve _ => some (servedForm kind origin)

/-- The records of a host at the end. -/
def recordsAfter (kind : Kind) (origin : Json) (host : String) (before : List Record) :
    Plan → List Record
  | nothing => before
  | release => if host ∈ writtenDown origin then [] else before
  | hold => before
  | serve target =>
    if host ∈ desired kind origin then [⟨host, target⟩]
    else if host ∈ writtenDown origin then [] else before

end Plan

/-- The hosts an object asks for and those that are written down on it. -/
def ownHosts (kind : Kind) (manifest : Json) : List String :=
  desired kind manifest ++ writtenDown manifest

theorem mem_ownHosts {kind : Kind} {manifest : Json} {host : String} :
    host ∈ ownHosts kind manifest ↔
      host ∈ desired kind manifest ∨ host ∈ writtenDown manifest :=
  List.mem_append

/-! ## Others elsewhere -/

/-- Others leave the object and the records of its hosts as they are. -/
def elsewhere (kind : Kind) (origin : Json) : Rules where
  edit w w' :=
    w'.server.find? (subjectOf kind origin).ref = w.server.find? (subjectOf kind origin).ref ∧
    ∀ host ∈ ownHosts kind origin, recordsOf host w'.records = recordsOf host w.records
  anytime := True
  start _ _ := False

/-- A call about the object or its hosts alone. Records are made of free names only, and with the
address that is planned. -/
def IsOwnCall (kind : Kind) (origin : Json) (defaultTarget : String) (w : World) : Request → Prop
  | .fetch ref => ref = (subjectOf kind origin).ref
  | .patch ref _ => ref = (subjectOf kind origin).ref
  | .dns .list => True
  | .dns (.create r) => r.domain ∈ ownHosts kind origin ∧ recordsOf r.domain w.records = [] ∧
      plan kind defaultTarget origin = .serve r.address
  | .dns (.delete domain) => domain ∈ ownHosts kind origin
  | .note _ => True
  | .count _ => True

/-- Such a call, and it succeeds. -/
def IsSoundCall (kind : Kind) (origin : Json) (defaultTarget : String) (q : Request) (w : World) :
    Prop :=
  IsOwnCall kind origin defaultTarget w q ∧ ¬ IsFailure q (w.answer kind q).1

abbrev separation (kind : Kind) (origin : Json) (defaultTarget : String) :
    Contract Surroundings Moment :=
  (elsewhere kind origin).contract kind
    (fun q s => IsSoundCall kind origin defaultTarget q s.1) (fun s => OnePerName s.1.records)

/-- What is stored of the object, and the records of its hosts. -/
structure Place (kind : Kind) (origin : Json) (found : Option Json)
    (records : String → List Record) (s : Moment) : Prop where
  stored : s.1.server.find? (subjectOf kind origin).ref = found
  records : ∀ host ∈ ownHosts kind origin, recordsOf host s.1.records = records host

section

variable {kind : Kind} {origin manifest : Json} {defaultTarget target : String}
  {found : Option Json} {records : String → List Record} {s t : Moment} {hosts : List String}

theorem lasting_place : (elsewhere kind origin).Lasting (Place kind origin found records) := by
  intro s t hi h
  obtain ⟨hfind, hrecords⟩ := hi.2.1
  exact ⟨hfind.trans h.stored, fun host hh => (hrecords host hh).trans (h.records host hh)⟩

theorem Place.congr {others : String → List Record} (h : Place kind origin found records s)
    (same : ∀ host ∈ ownHosts kind origin, records host = others host) :
    Place kind origin found others s :=
  ⟨h.stored, fun host hh => (h.records host hh).trans (same host hh)⟩

theorem IsSoundCall.single {q : Request} {w : World}
    (h : IsSoundCall kind origin defaultTarget q w) (single : OnePerName w.records) :
    OnePerName (w.answer kind q).2.records := by
  cases q with
  | dns q =>
    cases q with
    | list => exact single
    | create r => exact single.create h.1.2.1
    | delete domain => exact single.delete domain
  | _ => exact single

/-- Taking note of something is always sound. -/
theorem sound_of_call {q : Request} {w : World}
    (h : Occurrence.IsCall q → IsSoundCall kind origin defaultTarget q w) :
    IsSoundCall kind origin defaultTarget q w := by
  cases q with
  | note _ => exact ⟨trivial, id⟩
  | count _ => exact ⟨trivial, id⟩
  | _ => exact h trivial

/-! ## Calls -/

theorem place_fetch (h : Place kind origin (some manifest) records s)
    (hk : Manifest.Kindred kind origin manifest) :
    (separation kind origin defaultTarget).Tries (fetch (subjectOf kind origin).ref)
      (fun got t => got = some (Manifest.seen kind manifest) ∧
        Place kind origin (some manifest) records t) s := by
  refine tries_fetch fun t hd hi => ?_
  have ht := lasting_place.drift hd h
  have hf := World.fetch_of_read ht.stored hk.readable
  refine ⟨⟨rfl, ?_⟩, fun fate r w hw => hw.leaves (P := fun w => OnePerName w.records) hi hi, ?_⟩
  · rintro ⟨e, he⟩
    exact nomatch hf.symm.trans he
  · intro got hgot
    cases hf.symm.trans hgot
    exact ⟨rfl, ht.stored, ht.records⟩

/-- The manifest that a patch leaves, if it leaves one. -/
def leftBy (next : Json) : Option Json :=
  if Manifest.isBeingDeleted next && ApiServer.hasNoFinalizer next then none else some next

theorem leftBy_of_mem {next : Json} (h : cleanupFinalizer ∈ Manifest.finalizers next) :
    leftBy next = some next := by
  rw [leftBy, Cluster.Manifest.hasNoFinalizer_of_mem h, Bool.and_false, if_neg Bool.false_ne_true]

theorem place_patch (members : Json.Members)
    (h : Place kind origin (some manifest) records s) (hk : Manifest.Kindred kind origin manifest)
    (own : ∀ member ∈ members, Manifest.IsOwn member) {post : Option Object → Moment → Prop}
    (hp : ∀ version t,
      Place kind origin (leftBy
        (Manifest.written version manifest (Manifest.seen kind manifest) members)) records t →
      post (some (Manifest.seen kind
        (Manifest.written version manifest (Manifest.seen kind manifest) members))) t) :
    (separation kind origin defaultTarget).Tries (patch (subjectOf kind origin).ref
      (metadataPatch (Manifest.seen kind manifest) members)) post s := by
  refine tries_patch fun t hd hi => ?_
  have ht := lasting_place.drift hd h
  have heq := patch_seen ht.stored hk own
  have hanswer := congrArg Prod.fst heq
  refine ⟨⟨rfl, ?_⟩, fun fate r w hw => hw.leaves (P := fun w => OnePerName w.records) hi hi, ?_⟩
  · rintro ⟨e, he⟩
    exact nomatch hanswer.symm.trans he
  · intro got hgot
    cases hanswer.symm.trans hgot
    refine hp _ _ ⟨?_, ht.records⟩
    rw [heq, ApiServer.find?_afterPatch, if_pos rfl]
    rfl

theorem place_create {step : StoreStep} {r : Record} (h : Place kind origin found records s)
    (hr : r.domain ∈ ownHosts kind origin) (free : records r.domain = [])
    (address : plan kind defaultTarget origin = .serve r.address) :
    (separation kind origin defaultTarget).Tries (onStore step (Store.create r))
      (fun _ => Place kind origin found (Function.update records r.domain [r])) s := by
  refine tries_create fun t hd hi => ?_
  have ht := lasting_place.drift hd h
  have hfree : recordsOf r.domain t.1.records = [] := (ht.records _ hr).trans free
  have hsound : IsSoundCall kind origin defaultTarget (.dns (.create r)) t.1 :=
    ⟨⟨hr, hfree, address⟩, ok_not_error _⟩
  refine ⟨hsound, fun fate a w hw => ?_, ht.stored, fun host hh => ?_⟩
  · exact hw.leaves (P := fun w => OnePerName w.records) hi (hsound.single hi)
  · rw [recordsOf_create]
    by_cases he : r.domain = host
    · subst he
      rw [if_pos rfl, hfree, Function.update_self]
      rfl
    · rw [if_neg he, ht.records host hh, Function.update_of_ne (Ne.symm he)]

theorem place_delete {step : StoreStep} {domain : String} (h : Place kind origin found records s)
    (hd : domain ∈ ownHosts kind origin) :
    (separation kind origin defaultTarget).Tries (onStore step (Store.delete domain))
      (fun _ => Place kind origin found (Function.update records domain [])) s := by
  refine tries_delete fun t hdrift hi => ?_
  have ht := lasting_place.drift hdrift h
  have hsound : IsSoundCall kind origin defaultTarget (.dns (.delete domain)) t.1 :=
    ⟨hd, ok_not_error _⟩
  refine ⟨hsound, fun fate a w hw => ?_, ht.stored, fun host hh => ?_⟩
  · exact hw.leaves (P := fun w => OnePerName w.records) hi (hsound.single hi)
  · by_cases he : domain = host
    · subst he
      rw [OnePerName.recordsOf_delete hi, Function.update_self]
    · rw [recordsOf_removeFirst, if_neg he, ht.records host hh, Function.update_of_ne (Ne.symm he)]

/-! ## Records -/

/-- Bindings tell the address of each host of the object, and only the records of some hosts have
changed. -/
def Bound (kind : Kind) (origin : Json) (found : Option Json) (records : String → List Record)
    (hosts : List String) (b : Bindings) (s : Moment) : Prop :=
  ∃ now, Place kind origin found now s ∧
    (∀ host ∈ ownHosts kind origin, b.get? host = (now host).head?.map (·.address)) ∧
    ∀ host, host ∉ hosts → now host = records host

theorem lasting_bound (b : Bindings) :
    (elsewhere kind origin).Lasting (Bound kind origin found records hosts b) :=
  fun s t hi ⟨now, hplace, hb, hrest⟩ => ⟨now, lasting_place s t hi hplace, hb, hrest⟩

/-- The only record of a host that has been bound again. -/
theorem Bound.set {b : Bindings} {now others : String → List Record} {host : String}
    (hb : ∀ other ∈ ownHosts kind origin, b.get? other = (now other).head?.map (·.address))
    (hrest : ∀ other, other ∉ hosts → now other = records other) (hh : host ∈ hosts)
    (same : ∀ other, other ≠ host → others other = now other)
    (h : Place kind origin found (Function.update others host [⟨host, target⟩]) s) :
    Bound kind origin found records hosts (b.set host target) s := by
  refine ⟨_, h, fun other ho => ?_, fun other ho => ?_⟩
  · rw [get?_set]
    by_cases he : other = host
    · subst he
      rw [if_pos rfl, Function.update_self]
      rfl
    · rw [if_neg he, Function.update_of_ne he, same other he, hb other ho]
  · have hne : other ≠ host := fun he => ho (he ▸ hh)
    rw [Function.update_of_ne hne, same other hne, hrest other ho]

theorem place_rebind {host : String} {b : Bindings} (planned : plan kind defaultTarget origin =
      .serve target) (hown : host ∈ ownHosts kind origin) (hh : host ∈ hosts)
    (h : Bound kind origin found records hosts b s) (hne : b.get? host ≠ some target) :
    (separation kind origin defaultTarget).Tries
      (onStore .create (Store.rebind ⟨host, target⟩ (b.get? host)))
      (fun _ => Bound kind origin found records hosts (b.set host target)) s := by
  obtain ⟨now, hplace, hb, hrest⟩ := h
  cases hg : b.get? host with
  | none =>
    have hfree : now host = [] := by
      rw [hb host hown, Option.map_eq_none_iff] at hg
      exact List.head?_eq_none_iff.mp hg
    refine Contract.Tries.mono (place_create hplace hown hfree planned) fun _ t ht => ?_
    exact Bound.set hb hrest hh (fun _ _ => rfl) ht
  | some address =>
    have hother : address ≠ target := fun he => hne (he ▸ hg)
    rw [onStore_rebind hother]
    refine Contract.Tries.bind (Contract.Tries.mono (place_delete hplace hown) fun _ t ht => ?_)
    have hfree := Function.update_self host ([] : List Record) now
    refine Contract.Tries.mono (place_create ht hown hfree planned) fun _ u hu => ?_
    exact Bound.set hb hrest hh (fun other ho => Function.update_of_ne ho _ _) hu

theorem place_syncHosts (planned : plan kind defaultTarget origin = .serve target)
    (hown : ∀ host ∈ hosts, host ∈ ownHosts kind origin) {subject : Subject}
    (h : Place kind origin found records s) :
    (separation kind origin defaultTarget).Tries (syncHosts subject target hosts)
      (fun _ => Place kind origin found fun host =>
        if host ∈ hosts then [⟨host, target⟩] else records host) s := by
  refine Contract.Tries.bind (tries_list fun t hd hi => ?_)
  have ht := lasting_place.drift hd h
  refine ⟨⟨trivial, ok_not_error _⟩,
    fun fate a w hw => hw.leaves (P := fun w => OnePerName w.records) hi hi, ?_⟩
  have hfirst : Bound kind origin found records hosts (.ofRecords t.1.records)
      (t.1, .called (.dns .list) .answered (.ok t.1.records) :: t.2) := by
    refine ⟨records, ⟨ht.stored, ht.records⟩, fun host hh => ?_, fun _ _ => rfl⟩
    rw [accounts_ofRecords, ht.records host hh]
  have hturn : ∀ host ∈ hosts, ∀ b t, Bound kind origin found records hosts b t →
      b.get? host ≠ some target →
      (separation kind origin defaultTarget).Tries
        (onStore .create (Store.rebind ⟨host, target⟩ (b.get? host)))
        (fun _ => Bound kind origin found records hosts (b.set host target)) t :=
    fun host hh b t hb hne => place_rebind planned (hown host hh) hh hb hne
  refine Contract.Tries.mono (Contract.Tries.upheld
    (tries_bindHosts lasting_bound hturn hfirst) hi) ?_
  rintro _ u ⟨⟨b, ⟨now, hplace, hb, hrest⟩, hall, -⟩, hsingle⟩
  refine hplace.congr fun host hh => ?_
  by_cases hin : host ∈ hosts
  · rw [if_pos hin, ← hplace.records host hh]
    refine OnePerName.eq_singleton hsingle ?_
    rw [hplace.records host hh, ← hb host hh, hall host hin]
  · rw [if_neg hin, hrest host hin]

theorem place_deleteHosts (hown : ∀ host ∈ hosts, host ∈ ownHosts kind origin)
    {subject : Subject} (h : Place kind origin found records s) :
    (separation kind origin defaultTarget).Tries (deleteHosts subject hosts)
      (fun _ => Place kind origin found fun host => if host ∈ hosts then [] else records host)
      s := by
  refine tries_deleteHosts (P := fun gone => Place kind origin found fun host =>
    if host ∈ gone then [] else records host) (fun _ => lasting_place) ?_ (h.congr (by simp))
  intro gone host rest hg t ht
  have hin : host ∈ hosts := by simp [hg]
  refine Contract.Tries.mono (place_delete ht (hown host hin)) fun _ u hu => ?_
  refine hu.congr fun other _ => ?_
  by_cases he : other = host
  · subst he
    simp
  · simp [he]

/-! ## The object -/

theorem place_ensureFinalizer (itself : Manifest.Kindred kind origin origin)
    (h : Place kind origin (some origin) records s) :
    (separation kind origin defaultTarget).Tries
      (ensureFinalizer kind (Manifest.seen kind origin) cleanupFinalizer)
      (fun held t => ∃ next, held = some (Manifest.seen kind next) ∧
        Place kind origin (some next) records t ∧ Manifest.Kindred kind origin next ∧
        cleanupFinalizer ∈ Manifest.finalizers next ∧
        Manifest.unversioned next = heldForm origin) s := by
  refine tries_ensureFinalizer (fun hheld => ?_) fun hnot t ht => ?_
  · have hin := (hasFinalizer_seen kind origin).mp hheld
    exact ⟨origin, rfl, h, itself, hin, (if_pos hin).symm⟩
  · rw [hasFinalizer_seen] at hnot
    have own := own_holding (Manifest.seen kind origin)
    refine place_patch _ (lasting_place.drift ht h) itself own fun version u hu => ?_
    have hin := mem_finalizers_holding version origin (Manifest.seen kind origin)
    rw [leftBy_of_mem hin] at hu
    exact ⟨_, rfl, hu, itself.written own _ _, hin, unversioned_holding rfl hnot version⟩

theorem place_writeManaged (h : Place kind origin (some manifest) records s)
    (hk : Manifest.Kindred kind origin manifest)
    (hin : cleanupFinalizer ∈ Manifest.finalizers manifest)
    (form : Manifest.unversioned manifest = heldForm origin) :
    (separation kind origin defaultTarget).Tries
      (writeManaged (subjectOf kind origin) (desired kind origin))
      (fun _ t => ∃ last, Place kind origin (some last) records t ∧
        Manifest.unversioned last = servedForm kind origin) s := by
  refine tries_writeManaged (Contract.Tries.mono (place_fetch h hk) ?_)
  rintro _ t ⟨rfl, ht⟩
  dsimp only
  rw [get?_seen]
  refine ⟨fun hsame => ⟨manifest, ht, servedForm_eq form hsame⟩, fun other => ?_⟩
  have own := own_writing (desired kind origin)
  refine place_patch _ ht hk own fun version u hu => ?_
  rw [leftBy_of_mem ((mem_finalizers_writing version manifest _ _).mpr hin)] at hu
  exact ⟨_, hu, unversioned_writing form other version⟩

theorem own_releasing (origin : Json) : ∀ member ∈ releasingMembers origin,
    Manifest.IsOwn member := by
  intro member hm
  rcases List.mem_cons.mp hm with rfl | hm
  · exact .finalizers _
  · rw [List.mem_singleton.mp hm]
    exact .managed _

/-- What a release leaves of the object is the same whatever version it is given. -/
theorem leftBy_releasing (itself : Manifest.Kindred kind origin origin) (version : String) :
    (leftBy (Manifest.written version origin (Manifest.seen kind origin)
      (releasingMembers origin))).map Manifest.unversioned = releasedForm origin := by
  have hdeleted : Manifest.isBeingDeleted (Manifest.written version origin
      (Manifest.seen kind origin) (releasingMembers origin)) = Manifest.isBeingDeleted origin :=
    (itself.written (own_releasing origin) version _).deleted
  have hnone : ApiServer.hasNoFinalizer (Manifest.written version origin
      (Manifest.seen kind origin) (releasingMembers origin)) =
        (remainingFinalizers origin).isEmpty :=
    Cluster.Manifest.hasNoFinalizer_written _ _ _ _ (by simp [Manifest.annotationMember])
  rw [leftBy, releasedForm, hdeleted, hnone]
  split
  · rfl
  · rw [Option.map_some, Cluster.Manifest.unversioned_written _ _ _
      (by simp [finalizersMember, Manifest.annotationMember])]

theorem place_cleanup (itself : Manifest.Kindred kind origin origin)
    (hin : cleanupFinalizer ∈ Manifest.finalizers origin)
    (h : Place kind origin (some origin) records s) :
    (separation kind origin defaultTarget).Tries (cleanup kind (Manifest.seen kind origin))
      (fun _ t => ∃ last, Place kind origin last
        (fun host => if host ∈ writtenDown origin then [] else records host) t ∧
        last.map Manifest.unversioned = releasedForm origin) s := by
  have hown : ∀ host ∈ writtenDown origin, host ∈ ownHosts kind origin :=
    fun host hh => mem_ownHosts.mpr (.inr hh)
  refine tries_cleanup (Contract.Tries.mono (place_deleteHosts hown h) fun _ t ht => ?_)
  refine ⟨fun hbare => absurd ((hasFinalizer_seen kind origin).mpr hin) hbare, fun _ u hu => ?_⟩
  refine place_patch (releasingMembers origin) (lasting_place.drift hu ht) itself
    (own_releasing origin) fun version v hv => ?_
  exact ⟨_, hv, leftBy_releasing itself version⟩

/-! ## The reconcile -/

/-- The end of a reconcile with a plan. -/
def Fulfilled (kind : Kind) (origin : Json) (records : String → List Record) (todo : Plan)
    (s : Moment) : Prop :=
  ∃ last, Place kind origin last
      (fun host => todo.recordsAfter kind origin host (records host)) s ∧
    last.map Manifest.unversioned = todo.objectAfter kind origin

theorem plan_of_gone (h : (Manifest.seen kind origin).isBeingDeleted = true ∨
      Annotations.isRegistered (Manifest.seen kind origin).annotations = false) :
    plan kind defaultTarget origin =
      if cleanupFinalizer ∈ Manifest.finalizers origin then .release else .nothing := by
  rcases h with h | h <;> simp [plan, h]

theorem plan_of_idle (stays : (Manifest.seen kind origin).isBeingDeleted = false)
    (registered : Annotations.isRegistered (Manifest.seen kind origin).annotations = true)
    (idle : desired kind origin = [] ∨
      Annotations.target? (Manifest.seen kind origin).annotations defaultTarget = none) :
    plan kind defaultTarget origin = .hold := by
  rcases idle with h | h <;> simp [plan, stays, registered, h]

theorem plan_of_asks (stays : (Manifest.seen kind origin).isBeingDeleted = false)
    (registered : Annotations.isRegistered (Manifest.seen kind origin).annotations = true)
    (asks : desired kind origin ≠ [])
    (address : Annotations.target? (Manifest.seen kind origin).annotations defaultTarget =
      some target) :
    plan kind defaultTarget origin = .serve target := by
  simp [plan, stays, registered, asks, address]

theorem place_release (itself : Manifest.Kindred kind origin origin)
    (gone : (Manifest.seen kind origin).isBeingDeleted = true ∨
      Annotations.isRegistered (Manifest.seen kind origin).annotations = false)
    {reason : Event} (h : Place kind origin (some origin) records s) :
    (separation kind origin defaultTarget).Tries
      (release (subjectOf kind origin) reason (Manifest.seen kind origin))
      (fun _ => Fulfilled kind origin records (plan kind defaultTarget origin)) s := by
  rw [plan_of_gone gone]
  refine tries_release (fun hnot => ?_) fun hheld t ht => ?_
  · rw [hasFinalizer_seen] at hnot
    rw [if_neg hnot]
    exact ⟨some origin, h, rfl⟩
  · have hin := (hasFinalizer_seen kind origin).mp hheld
    rw [if_pos hin]
    exact place_cleanup itself hin (lasting_place.drift ht h)

theorem place_serve (stays : (Manifest.seen kind origin).isBeingDeleted = false)
    (registered : Annotations.isRegistered (Manifest.seen kind origin).annotations = true)
    (h : Place kind origin (some manifest) records s) (hk : Manifest.Kindred kind origin manifest)
    (hin : cleanupFinalizer ∈ Manifest.finalizers manifest)
    (form : Manifest.unversioned manifest = heldForm origin) :
    (separation kind origin defaultTarget).Tries
      (serve (subjectOf kind origin) defaultTarget (Manifest.seen kind manifest))
      (fun _ => Fulfilled kind origin records (plan kind defaultTarget origin)) s := by
  have hwritten : writtenDown manifest = writtenDown origin := by
    rw [writtenDown, managed_of_heldForm form, writtenDown]
  have hdesired : desiredHosts (Manifest.seen kind manifest) = desired kind origin :=
    desired_kindred hk
  have hobsolete : obsoleteHosts (Manifest.seen kind manifest) =
      outdated kind origin manifest := by
    rw [obsoleteHosts, hdesired, managed_seen]
  refine tries_serve ?_ ?_ <;> rw [target?_kindred hk defaultTarget, hdesired]
  · intro idle t ht
    rw [plan_of_idle stays registered idle]
    exact ⟨some manifest, lasting_place.drift ht h, congrArg some form⟩
  · intro target asks address
    rw [plan_of_asks stays registered asks address, hobsolete]
    refine Contract.Tries.mono (place_syncHosts (plan_of_asks stays registered asks address)
      (fun host hh => mem_ownHosts.mpr (.inl hh)) h) fun _ t ht => ?_
    have hown : ∀ host ∈ outdated kind origin manifest, host ∈ ownHosts kind origin :=
      fun host hh => mem_ownHosts.mpr (.inr (hwritten ▸ (mem_outdated.mp hh).1))
    refine Contract.Tries.mono (place_deleteHosts hown ht) fun _ u hu => ?_
    refine Contract.Tries.mono (place_writeManaged hu hk hin form) ?_
    rintro _ v ⟨last, hv, hserved⟩ w hw
    refine ⟨some last, (lasting_place.drift hw hv).congr fun host _ => ?_, congrArg some hserved⟩
    simp only [Plan.recordsAfter, mem_outdated, hwritten]
    by_cases hd : host ∈ desired kind origin
    · simp [hd]
    · simp [hd]

/-- How a reconcile ends is settled by the object and the records it finds. -/
theorem place_reconcile (itself : Manifest.Kindred kind origin origin)
    (h : Place kind origin (some origin) records s) :
    (separation kind origin defaultTarget).Tries
      (reconcile (subjectOf kind origin) defaultTarget)
      (fun _ => Fulfilled kind origin records (plan kind defaultTarget origin)) s := by
  refine tries_reconcile (Contract.Tries.mono (place_fetch h itself) ?_)
  rintro _ t ⟨rfl, ht⟩
  refine ⟨fun gone reason => place_release itself gone ht, fun stays registered => ?_⟩
  refine Contract.Tries.mono (place_ensureFinalizer itself ht) ?_
  rintro _ u ⟨next, rfl, hu, hk, hin, form⟩
  exact place_serve stays registered hu hk hin form

/-- Where no call fails, a reconcile ends without an error and with its plan fulfilled. -/
theorem secures_fulfilled (itself : Manifest.Kindred kind origin origin)
    (h : Place kind origin (some origin) records s) :
    (sparing (separation kind origin defaultTarget)).Secures
      (reconcile (subjectOf kind origin) defaultTarget).run
      (fun r t => r = .ok () ∧ Fulfilled kind origin records (plan kind defaultTarget origin) t)
      s := by
  refine Contract.Secures.mono
    ((untroubled_reconcile _ _).secures (place_reconcile itself h)) fun r t hr => ?_
  obtain ⟨_, hr, ht⟩ := hr
  exact ⟨hr, ht⟩

/-! ## Alone -/

/-- Other objects and the records of other hosts are left alone. -/
structure Spares (kind : Kind) (origin : Json) (w w' : World) : Prop where
  objects : ∀ ref, ref ≠ (subjectOf kind origin).ref → w'.server.find? ref = w.server.find? ref
  records : ∀ host, host ∉ ownHosts kind origin →
    recordsOf host w'.records = recordsOf host w.records

theorem Spares.trans {w w' w'' : World} (h : Spares kind origin w w')
    (h' : Spares kind origin w' w'') : Spares kind origin w w'' :=
  ⟨fun ref hr => (h'.objects ref hr).trans (h.objects ref hr),
    fun host hh => (h'.records host hh).trans (h.records host hh)⟩

theorem IsOwnCall.spares {q : Request} {w : World} (h : IsOwnCall kind origin defaultTarget w q) :
    Spares kind origin w (w.answer kind q).2 := by
  cases q with
  | patch ref body =>
    obtain rfl : ref = _ := h
    exact ⟨fun other ho => ApiServer.find?_applyPatch_of_ne ho body, fun _ _ => rfl⟩
  | dns q =>
    cases q with
    | list => exact ⟨fun _ _ => rfl, fun _ _ => rfl⟩
    | create r =>
      refine ⟨fun _ _ => rfl, fun host hh => ?_⟩
      have hne : r.domain ≠ host := fun he => hh (he ▸ h.1)
      exact (recordsOf_create host w.records r).trans (if_neg hne)
    | delete domain =>
      refine ⟨fun _ _ => rfl, fun host hh => ?_⟩
      have hne : domain ≠ host := fun he => hh (he ▸ h)
      exact (recordsOf_removeFirst host domain w.records).trans (if_neg hne)
  | _ => exact ⟨fun _ _ => rfl, fun _ _ => rfl⟩

/-- What is secured while others work elsewhere is so with nobody else about. -/
theorem secured_alone {α : Type} {p : Program Surroundings α} {post : α → Moment → Prop}
    {w : World} {events : List Occurrence} (single : OnePerName w.records)
    (h : (sparing (separation kind origin defaultTarget)).Secures p post (w, events)) :
    ∃ more, post (p.run (World.answer kind) w).1 ((p.run (World.answer kind) w).2, more) ∧
      OnePerName (p.run (World.answer kind) w).2.records ∧
      Spares kind origin w (p.run (World.answer kind) w).2 := by
  induction p generalizing w events with
  | done a => exact ⟨events, h, single, fun _ _ => rfl, fun _ _ => rfl⟩
  | ask q next ih =>
    obtain ⟨hcall, hnext⟩ := h (w, events) .refl single
    have hsound := sound_of_call hcall
    obtain ⟨-, hrest⟩ := hnext (w.answer kind q).1 ((w.answer kind q).2, _)
      ⟨⟨.answered, .answered, rfl⟩, hsound.2⟩
    obtain ⟨more, hpost, hsingle, hspares⟩ := ih _ (hsound.single single) hrest
    exact ⟨more, hpost, hsingle, hsound.1.spares.trans hspares⟩

/-- With nobody else about, a reconcile fulfils its plan and changes nothing else. -/
theorem ends_fulfilled (defaultTarget : String) {w : World}
    (itself : Manifest.Kindred kind origin origin)
    (single : OnePerName w.records)
    (stored : w.server.find? (subjectOf kind origin).ref = some origin) : ∃ w',
      Ends kind (reconcile (subjectOf kind origin) defaultTarget) w () w' ∧
      OnePerName w'.records ∧ Spares kind origin w w' ∧
      ∃ events, Fulfilled kind origin (fun host => recordsOf host w.records)
        (plan kind defaultTarget origin) (w', events) := by
  have hplace : Place kind origin (some origin) (fun host => recordsOf host w.records) (w, []) :=
    ⟨stored, fun _ _ => rfl⟩
  obtain ⟨events, ⟨hok, hfulfilled⟩, hsingle, hspares⟩ :=
    secured_alone single (secures_fulfilled itself hplace)
  exact ⟨_, Prod.ext hok rfl, hsingle, hspares, events, hfulfilled⟩

end

end ClusterDns.Reconcile
