import ClusterDns.Proofs.Reconcile.Edits
import ClusterDns.Proofs.Reconcile.Leftovers
import ClusterDns.Proofs.Reconcile.Stages
import ClusterDns.Proofs.Reconcile.Untroubled

/-! Where the records come from that a reconcile deletes for good. The hosts written down on an
object are the hosts it asks for, whether their records had to be made or were there already. So a
record that is pruned or cleaned up is one that was put into the store for the object, or one that
was found there with the right address and taken over. -/

namespace ClusterDns.Reconcile

open Cluster (Object ObjectRef Manifest.read? Manifest.seen Manifest.written Manifest.annotation?
  Manifest.IsOwn Manifest.Kindred)
open PiHole (Record Store.list Store.create Store.delete Store.rebind)
open Rehearsal

/-! ## The origin of a record -/

/-- An event that may change the records of a name. -/
def Touches (domain : String) : Occurrence → Prop
  | .called (.dns (.create r)) _ _ => r.domain = domain
  | .called (.dns (.delete removed)) _ _ => removed = domain
  | _ => False

/-- Something happened, with certain events before it, and since then no call has changed the
records of a name. -/
def Since (domain : String) (what : Occurrence → List Occurrence → Prop)
    (events : List Occurrence) : Prop :=
  ∃ later event earlier, events = later ++ event :: earlier ∧ what event earlier ∧
    ∀ e ∈ later, ¬ Touches domain e

/-- A reconcile of the object serves a host. -/
def Wants (object : Object) (host : String) : Prop :=
  object.isBeingDeleted = false ∧ Annotations.isRegistered object.annotations = true ∧
    host ∈ desiredHosts object

/-- A record was put into the store. -/
def Put (events : List Occurrence) (r : Record) : Prop :=
  Since r.domain (fun event _ => event = .called (.dns (.create r)) .answered (.ok ())) events

/-- A record was found in the store by a reconcile that serves its host. -/
def Found (events : List Occurrence) (r : Record) : Prop :=
  Since r.domain (fun event earlier => ∃ records object,
    event = .called (.dns .list) .answered (.ok records) ∧ r ∈ records ∧
      inHand earlier = some object ∧ Wants object r.domain) events

/-- An object is stored under its own name, and the hosts it declares can be written down. -/
def Orderly (subject : Subject) (w : World) : Prop :=
  ∀ manifest, w.server.find? subject.ref = some manifest →
    ∀ object, Manifest.read? subject.kind manifest = some object →
      object.ref = subject.ref ∧ ∀ host ∈ object.declaredHosts, Text.CommaList.IsPlain host

instance (subject : Subject) (w : World) : Decidable (Orderly subject w) :=
  inferInstanceAs (Decidable (∀ manifest ∈ w.server.find? subject.ref,
    ∀ object ∈ Manifest.read? subject.kind manifest, object.ref = subject.ref ∧
      ∀ host ∈ object.declaredHosts, Text.CommaList.IsPlain host))

/-- Reconciles of one object. At any time others may edit objects and add records of free names.
They do not write down hosts on the object, but they may take away what is written down. -/
def besideOthers (subject : Subject) : Rules where
  edit w w' := w.server.Becomes w'.server ∧ Orderly subject w' ∧
    (recorded? subject.ref w' = recorded? subject.ref w ∨ recorded? subject.ref w' = none) ∧
    (w'.records = w.records ∨
      ∃ r, w'.records = w.records ++ [r] ∧ recordsOf r.domain w.records = [])
  anytime := True
  start started _ := started = subject

theorem Since.cons {domain : String} {what : Occurrence → List Occurrence → Prop}
    {events : List Occurrence} (h : Since domain what events) {event : Occurrence}
    (untouched : ¬ Touches domain event) : Since domain what (event :: events) := by
  obtain ⟨later, first, earlier, rfl, hw, hl⟩ := h
  exact ⟨event :: later, first, earlier, rfl, hw, List.forall_mem_cons.mpr ⟨untouched, hl⟩⟩

/-- A host has records, and if it has only one, the origin of that is known. -/
structure Ours (host : String) (s : Moment) : Prop where
  bound : recordsOf host s.1.records ≠ []
  origin : ∀ r, recordsOf host s.1.records = [r] → Put s.2 r ∨ Found s.2 r

section

variable {subject : Subject} {s t : Moment} {manifest : Json} {object : Object}
  {host : String} {mine : String → Prop}

theorem Ours.transfer {w w' : World} {events : List Occurrence} {event : Occurrence}
    (h : Ours host (w, events))
    (same : recordsOf host w'.records = recordsOf host w.records)
    (untouched : ¬ Touches host event) : Ours host (w', event :: events) := by
  constructor
  · rw [same]
    exact h.bound
  · intro r hr
    rw [same] at hr
    have hdomain : r.domain = host := (mem_recordsOf.mp (hr ▸ List.mem_singleton_self r)).2
    rw [← hdomain] at untouched
    exact (h.origin r hr).imp (·.cons untouched) (·.cons untouched)

theorem lasting_ours : (besideOthers subject).Lasting (Ours host) := by
  rintro ⟨w, events⟩ ⟨w', later⟩ ⟨-, ⟨-, -, -, hrec⟩, he⟩ h
  dsimp only at he hrec
  subst he
  refine h.transfer ?_ id
  rcases hrec with hsame | ⟨r, hadded, hfree⟩
  · rw [hsame]
  · rw [hadded, recordsOf_create, if_neg]
    rintro rfl
    exact h.bound hfree

/-- What is written down on the stored object is each time another host, and one of ours. -/
structure Kept (subject : Subject) (s : Moment) : Prop where
  nodup : (recordedHosts subject.ref s.1).Nodup
  ours : ∀ host ∈ recordedHosts subject.ref s.1, Ours host s

theorem kept_of_none (h : recorded? subject.ref s.1 = none) : Kept subject s := by
  have hnil : recordedHosts subject.ref s.1 = [] := by rw [recordedHosts, h]; rfl
  constructor
  · rw [hnil]
    exact List.nodup_nil
  · rw [hnil]
    exact List.forall_mem_nil _

theorem kept_of_missing (h : s.1.server.find? subject.ref = none) : Kept subject s := by
  refine kept_of_none ?_
  rw [recorded?, h]
  rfl

theorem lasting_kept : (besideOthers subject).Lasting (Kept subject) := by
  intro s t hi h
  rcases hi.2.1.2.2.1 with hsame | hnone
  · have hhosts : recordedHosts subject.ref t.1 = recordedHosts subject.ref s.1 := by
      rw [recordedHosts, hsame, recordedHosts]
    constructor
    · rw [hhosts]
      exact h.nodup
    · rw [hhosts]
      exact fun host hh => lasting_ours s t hi (h.ours host hh)
  · exact kept_of_none hnone

theorem Kept.transfer {w w' : World} {events : List Occurrence} {event : Occurrence}
    (h : Kept subject (w, events)) (hserver : w'.server = w.server)
    (hrecords : w'.records = w.records) (untouched : ∀ host, ¬ Touches host event) :
    Kept subject (w', event :: events) := by
  have hhosts : recordedHosts subject.ref w' = recordedHosts subject.ref w := by
    rw [recordedHosts, recorded?, hserver, recordedHosts, recorded?]
  constructor
  · rw [hhosts]
    exact h.nodup
  · rw [hhosts]
    exact fun host hh => (h.ours host hh).transfer (by rw [hrecords]) (untouched host)

/-! ## The contract -/

/-- A host that is not served loses a record of known origin. -/
def Rightful (q : Request) (s : Moment) : Prop :=
  ∀ host, q = .dns (.delete host) → ∃ object, inHand s.2 = some object ∧
    (Wants object host ∨ ∀ r, recordsOf host s.1.records = [r] → Put s.2 r ∨ Found s.2 r)

theorem rightful_of_ne {q : Request} {s : Moment} (h : ∀ host, q ≠ .dns (.delete host)) :
    Rightful q s :=
  fun host he => absurd he (h host)

structure Sane (subject : Subject) (s : Moment) : Prop where
  versioned : s.1.server.Versioned
  orderly : Orderly subject s.1

abbrev provenance (subject : Subject) : Contract Surroundings Moment :=
  smoothly (besideOthers subject) subject.kind Rightful (Sane subject)

/-- The hosts that are ours while the reconcile under way has an object in hand. -/
structure Cared (object : Object) (mine : String → Prop) (s : Moment) : Prop where
  smooth : Smooth s.2
  given : inHand s.2 = some object
  ours : ∀ host, mine host → Ours host s

theorem Cared.mono {fewer : String → Prop} (h : Cared object mine s)
    (hm : ∀ host, fewer host → mine host) : Cared object fewer s :=
  ⟨h.smooth, h.given, fun host hh => h.ours host (hm host hh)⟩

theorem lasting_cared : (besideOthers subject).Lasting (Cared object mine) := by
  intro s t hi h
  have he := hi.2.2
  refine ⟨?_, ?_, fun host hh => lasting_ours s t hi (h.ours host hh)⟩
  · rw [he]
    exact h.smooth.edited
  · rw [he, inHand_cons_of_none rfl (fun _ => Occurrence.noConfusion), h.given]

theorem sane_of_server {w : World} {events : List Occurrence} (h : Sane subject s)
    (hs : w.server = s.1.server) : Sane subject (w, events) := by
  refine ⟨?_, ?_⟩
  · rw [hs]
    exact h.versioned
  · intro manifest hf
    rw [hs] at hf
    exact h.orderly manifest hf

theorem cared_create {step : StoreStep} {r : Record} (h : Cared object mine s) :
    (provenance subject).Tries (onStore step (Store.create r))
      (fun _ => Cared object fun host => host = r.domain ∨ mine host) s := by
  refine tries_create fun t hd hi => ?_
  replace h := lasting_cared.drift hd h
  refine ⟨fun _ => rightful_of_ne (by simp), fun fate a w hw hs => ?_, ?_, ?_, fun host hh => ?_⟩
  · exact sane_of_server (hi hs.of_cons) (server_of_answers rfl hw)
  · exact h.smooth.called (ok_not_error _)
  · rw [inHand_cons_of_none rfl (fun _ => Occurrence.noConfusion), h.given]
  · by_cases hr : r.domain = host
    · subst hr
      constructor
      · simp [recordsOf_create]
      · intro only ho
        rw [recordsOf_create, if_pos rfl] at ho
        have hr : only = r := by
          cases hrest : recordsOf r.domain t.1.records with
          | nil => rw [hrest] at ho; exact (List.singleton_inj.mp ho).symm
          | cons first rest => simp [hrest] at ho
        subst hr
        exact .inl ⟨[], _, t.2, rfl, rfl, fun _ hm => nomatch hm⟩
    · refine (h.ours host (hh.resolve_left fun he => hr he.symm)).transfer ?_ hr
      rw [recordsOf_create, if_neg hr]

theorem lasting_of_steady {P : Moment → Prop} (hP : Steady subject P) :
    (besideOthers subject).Lasting P :=
  fun s t hi => hP.lasting s t ⟨trivial, hi.2.1.1, hi.2.2⟩

theorem cared_delete {P : Moment → Prop} (hP : Steady subject P) {step : StoreStep}
    {removed : String} (h : Cared object mine s) (hs : P s)
    (hr : Wants object removed ∨ mine removed) :
    (provenance subject).Tries (onStore step (Store.delete removed))
      (fun _ t => Cared object (fun host => mine host ∧ host ≠ removed) t ∧ P t) s := by
  refine tries_delete fun t hd hi => ?_
  replace h := lasting_cared.drift hd h
  replace hs := (lasting_of_steady hP).drift hd hs
  refine ⟨fun _ _ he => ?_, fun fate a w hw hsm => ?_, ⟨?_, ?_, fun host hh => ?_⟩, ?_⟩
  · cases he
    exact ⟨object, h.given, hr.imp_right fun hm => (h.ours removed hm).origin⟩
  · exact sane_of_server (hi hsm.of_cons) (server_of_answers rfl hw)
  · exact h.smooth.called (ok_not_error _)
  · rw [inHand_cons_of_none rfl (fun _ => Occurrence.noConfusion), h.given]
  · have hne : removed ≠ host := Ne.symm hh.2
    refine (h.ours host hh.1).transfer ?_ hne
    rw [recordsOf_removeFirst, if_neg hne]
  · exact hP.call t.1 _ t.2 _ _ _ rfl rfl hs

/-- A record that is listed for a host that is served is found. -/
theorem cared_list (h : Cared object mine s) :
    (provenance subject).Tries (onStore .list Store.list) (fun records => Cared object fun host =>
      mine host ∨ Wants object host ∧ recordsOf host records ≠ []) s := by
  refine tries_list fun t hd hi => ?_
  replace h := lasting_cared.drift hd h
  refine ⟨fun _ => rightful_of_ne (by simp), fun fate a w hw hs => ?_, ?_, ?_, fun host hh => ?_⟩
  · exact sane_of_server (hi hs.of_cons) (server_of_answers rfl hw)
  · exact h.smooth.called (ok_not_error _)
  · rw [inHand_cons_of_none rfl (fun _ => Occurrence.noConfusion), h.given]
  · rcases hh with hm | ⟨hw, hne⟩
    · exact (h.ours host hm).transfer rfl id
    · refine ⟨hne, fun r hr => ?_⟩
      obtain ⟨hin, rfl⟩ := mem_recordsOf.mp (hr ▸ List.mem_singleton_self r)
      exact .inr ⟨[], _, t.2, rfl, ⟨_, object, rfl, hin, h.given, hw⟩, fun _ hm => nomatch hm⟩

/-! ## The object -/

theorem recordedHosts_of_find? {ref : ObjectRef} {w : World}
    (hf : w.server.find? ref = some manifest) : recordedHosts ref w = writtenDown manifest := by
  rw [recordedHosts, recorded?, hf]
  rfl

/-- What is written down on the object after a patch of the reconcile's is gone with it or is what
the patch makes of it. -/
theorem recordedHosts_patched {w : World} {ref : ObjectRef} {members : Json.Members} :
    recorded? ref (patched w ref manifest object members) = none ∨
      recorded? ref (patched w ref manifest object members) = Manifest.annotation?
        (Manifest.written (w.server.version (w.server.writes + 1)) manifest object members)
        Key.managedHosts := by
  rw [recorded?, ApiServer.find?_afterPatch, if_pos rfl]
  split
  · exact .inl rfl
  · exact .inr rfl

theorem sane_patched {members : Json.Members} (h : Sane subject s)
    (hf : s.1.server.find? subject.ref = some manifest)
    (hr : Manifest.read? subject.kind manifest = some object)
    (hk : Manifest.Kindred subject.kind manifest manifest)
    (hobject : object = Manifest.seen subject.kind manifest)
    (own : ∀ member ∈ members, Manifest.IsOwn member) (events : List Occurrence) :
    Sane subject (patched s.1 subject.ref manifest object members, events) := by
  refine ⟨(ApiServer.becomes_afterPatch ..).versioned h.versioned, ?_⟩
  intro stored hstored next hnext
  have hw := hk.written own (s.1.server.version (s.1.server.writes + 1)) object
  rw [ApiServer.find?_afterPatch, if_pos rfl] at hstored
  split at hstored
  · cases hstored
  · cases hstored
    have hseen : next = Manifest.seen subject.kind (Manifest.written
        (s.1.server.version (s.1.server.writes + 1)) manifest object members) :=
      Option.some.inj (hnext.symm.trans hw.readable)
    obtain ⟨href, hplain⟩ := h.orderly manifest hf object hr
    rw [hobject] at href hplain
    refine ⟨?_, fun host hh => hplain host ?_⟩
    · rw [hseen, hw.ref, href]
    · rw [hseen, Object.declaredHosts, hw.hostnames] at hh
      exact hh

theorem provenance_fetch {post : Option Object → Moment → Prop} (hs : Smooth s.2)
    (missing : ∀ u, (besideOthers subject).Drift s u →
      Smooth (.called (.fetch subject.ref) .answered (.ok none) :: u.2) →
      u.1.server.find? subject.ref = none →
      post none (u.1, .called (.fetch subject.ref) .answered (.ok none) :: u.2))
    (hp : ∀ u manifest found, (besideOthers subject).Drift s u →
      Smooth (.called (.fetch subject.ref) .answered (.ok (some found)) :: u.2) →
      Sane subject u → u.1.server.find? subject.ref = some manifest →
      Manifest.read? subject.kind manifest = some found →
      post (some found) (u.1, .called (.fetch subject.ref) .answered (.ok (some found)) :: u.2)) :
    (provenance subject).Tries (fetch subject.ref) post s := by
  refine tries_fetch fun t hd hi => ?_
  have ht := hs.drift hd
  refine ⟨fun _ => rightful_of_ne (by simp), fun fate a w hw hsm => ?_, fun found hf => ?_⟩
  · exact sane_of_server (hi hsm.of_cons) (server_of_answers rfl hw)
  · cases found with
    | none =>
      exact missing t hd (ht.called (ok_not_error _)) (World.fetch_eq_none hf)
    | some object =>
      obtain ⟨stored, hstored, hr⟩ := World.fetch_eq_ok hf
      exact hp t stored object hd (ht.called (ok_not_error _)) (hi ht) hstored hr

theorem grasped_fetched {u : Moment} (h : Sane subject u)
    (hf : u.1.server.find? subject.ref = some manifest) (object : Object) :
    Grasped subject manifest object
      (u.1, .called (.fetch subject.ref) .answered (.ok (some object)) :: u.2) :=
  ⟨⟨h.versioned, h.versioned.pinned _ _ hf⟩, rfl⟩

theorem lasting_grasped : (besideOthers subject).Lasting (Grasped subject manifest object) :=
  lasting_of_steady steady_grasped

/-- A patch of the object in hand misses it, or finds it as it was read. -/
theorem provenance_patch {members : Json.Members} {post : Option Object → Moment → Prop}
    (hs : Smooth s.2) (hg : Grasped subject manifest object s)
    (hr : Manifest.read? subject.kind manifest = some object)
    (own : ∀ member ∈ members, Manifest.IsOwn member)
    (missing : ∀ u, (besideOthers subject).Drift s u → Smooth u.2 →
      u.1.server.find? subject.ref = none → ∀ event, Smooth (event :: u.2) →
      post none (u.1, event :: u.2))
    (taken : ∀ u, (besideOthers subject).Drift s u →
      u.1.server.find? subject.ref = some manifest → ∀ next,
      next = Manifest.seen subject.kind (Manifest.written
        (u.1.server.version (u.1.server.writes + 1)) manifest object members) →
      Smooth (.called (.patch subject.ref (metadataPatch object members)) .answered
        (.ok (some next)) :: u.2) →
      post (some next) (patched u.1 subject.ref manifest object members,
        .called (.patch subject.ref (metadataPatch object members)) .answered
          (.ok (some next)) :: u.2)) :
    (provenance subject).Tries (patch subject.ref (metadataPatch object members)) post s := by
  refine tries_patch fun u hd hi => ?_
  replace hg := lasting_grasped.drift hd hg
  have hu := hs.drift hd
  obtain ⟨hobject, hk⟩ := hg.kindred hr
  refine ⟨fun _ => rightful_of_ne (by simp), fun fate a w hw hsm => ?_, fun found hfound => ?_⟩
  · refine hw.leaves (P := fun next => Sane subject (next, _)) ?_ ?_
    · exact sane_of_server (hi hsm.of_cons) rfl
    · rcases World.patch_cases hg.pinned hr subject.ref members with ⟨hsame, -⟩ | ⟨-, hf, he⟩
      · exact sane_of_server (hi hsm.of_cons) (congrArg World.server hsame)
      · rw [show (u.1.answer subject.kind (.patch subject.ref (metadataPatch object members))).2 =
          patched u.1 subject.ref manifest object members from congrArg Prod.snd he]
        exact sane_patched (hi hsm.of_cons) hf hr hk hobject own _
  · cases found with
    | none =>
      have hnone := World.patch_eq_none hfound
      have hsame : (u.1.patch subject.kind subject.ref (metadataPatch object members)).2 = u.1 := by
        simp [World.patch, ApiServer.applyPatch, hnone]
      rw [hsame]
      exact missing u hd hu hnone _ (hu.called (ok_not_error _))
    | some next =>
      rcases World.patch_cases hg.pinned hr subject.ref members with ⟨-, hnot⟩ | ⟨-, hf, he⟩
      · exact absurd hfound (hnot next)
      · rw [he] at hfound ⊢
        have hnext : next = _ := Option.some.inj ((World.read_eq_ok hfound).trans
          (hk.written own _ object).readable)
        exact taken u hd hf next hnext (hu.called (ok_not_error _))

/-! ## What a reconcile does -/

/-- What holds between reconciles. -/
def Rested (subject : Subject) (s : Moment) : Prop := Smooth s.2 ∧ Kept subject s

theorem lasting_smooth : (besideOthers subject).Lasting fun s => Smooth s.2 :=
  fun _ _ hi h => h.drift (.single hi)

theorem lasting_rested : (besideOthers subject).Lasting (Rested subject) :=
  lasting_smooth.and lasting_kept

/-- While hosts are bound one after another: one of them is ours once it is bound, and other hosts
are ours as before. -/
def OursByNow (mine : String → Prop) (hosts : List String) (b : Bindings) (host : String) : Prop :=
  mine host ∧ host ∉ hosts ∨ host ∈ hosts ∧ b.get? host ≠ none

theorem OursByNow.of_set {hosts : List String} {b : Bindings} {target other : String}
    (h : OursByNow mine hosts (b.set host target) other) :
    other = host ∨ other ≠ host ∧ OursByNow mine hosts b other := by
  by_cases he : other = host
  · exact .inl he
  · refine .inr ⟨he, ?_⟩
    rwa [OursByNow, get?_set, if_neg he] at h

theorem cared_rebind {hosts : List String} {target : String} {b : Bindings}
    (served : Wants object host) (h : Cared object (OursByNow mine hosts b) s)
    (hb : b.get? host ≠ some target) :
    (provenance subject).Tries (onStore .create (Store.rebind ⟨host, target⟩ (b.get? host)))
      (fun _ => Cared object (OursByNow mine hosts (b.set host target))) s := by
  cases hg : b.get? host with
  | none =>
    refine Contract.Tries.mono (cared_create h) fun _ t ht => ht.mono fun other ho => ?_
    exact ho.of_set.imp_right And.right
  | some address =>
    have hne : address ≠ target := fun he => hb (hg.trans (congrArg some he))
    rw [onStore_rebind hne]
    refine Contract.Tries.bind (Contract.Tries.mono
      (cared_delete steady_true h trivial (.inl served)) fun _ t ht => ?_)
    refine Contract.Tries.mono (cared_create ht.1) fun _ u hu => hu.mono fun other ho => ?_
    exact ho.of_set.imp_right And.symm

theorem provenance_syncHosts {target : String} {hosts : List String}
    (served : ∀ host ∈ hosts, Wants object host) (h : Cared object mine s) :
    (provenance subject).Tries (syncHosts subject target hosts)
      (fun _ => Cared object fun host => mine host ∨ host ∈ hosts) s := by
  refine Contract.Tries.bind (Contract.Tries.mono (cared_list h) fun records t ht => ?_)
  have hfirst : Cared object (OursByNow mine hosts (.ofRecords records)) t := by
    refine ht.mono fun host hh => ?_
    rcases hh with ⟨hmine, -⟩ | ⟨hin, hb⟩
    · exact .inl hmine
    · refine .inr ⟨served host hin, fun hfree => hb ?_⟩
      rw [accounts_ofRecords records host, hfree]
      rfl
  refine Contract.Tries.mono (tries_bindHosts
    (P := fun b => Cared object (OursByNow mine hosts b)) (fun _ => lasting_cared)
    (fun host hh b u hu hb => cared_rebind (served host hh) hu hb) hfirst) ?_
  rintro _ u ⟨b, hb, hall, -⟩
  refine hb.mono fun host hh => ?_
  by_cases hin : host ∈ hosts
  · exact .inr ⟨hin, by simp [hall host hin]⟩
  · exact .inl ⟨hh.resolve_right hin, hin⟩

theorem provenance_deleteHosts {noted : Subject} {hosts : List String} {P : Moment → Prop}
    (hP : Steady subject P) (nodup : hosts.Nodup) (hm : ∀ host ∈ hosts, mine host)
    (h : Cared object mine s) (hs : P s) :
    (provenance subject).Tries (deleteHosts noted hosts)
      (fun _ t => Cared object (fun host => mine host ∧ host ∉ hosts) t ∧ P t) s := by
  refine tries_deleteHosts (P := fun gone t =>
    Cared object (fun host => mine host ∧ host ∉ gone) t ∧ P t) ?_ ?_ ⟨?_, hs⟩
  · exact fun gone => lasting_cared.and (lasting_of_steady hP)
  · rintro gone host rest rfl t ⟨ht, hp⟩
    have hnew : host ∉ gone := by
      intro hin
      exact (List.nodup_append.mp nodup).2.2 host hin host List.mem_cons_self rfl
    have hmine : mine host := hm host (List.mem_append_right _ List.mem_cons_self)
    refine Contract.Tries.mono (cared_delete hP ht hp (.inr ⟨hmine, hnew⟩)) fun _ u hu => ?_
    refine ⟨hu.1.mono fun other ho => ?_, hu.2⟩
    have hnot : other ∉ gone ∧ other ≠ host := by simpa using ho.2
    exact ⟨⟨ho.1, hnot.1⟩, hnot.2⟩
  · exact h.mono fun host hh => hh.1

theorem provenance_cleanup (hc : Cared object (· ∈ Annotations.managed object.annotations) s)
    (nodup : (Annotations.managed object.annotations).Nodup)
    (hg : Grasped subject manifest object s)
    (hr : Manifest.read? subject.kind manifest = some object) (href : object.ref = subject.ref)
    (held : object.hasFinalizer cleanupFinalizer = true) :
    (provenance subject).Tries (cleanup subject.kind object) (fun _ => Rested subject) s := by
  refine tries_cleanup (Contract.Tries.mono
    (provenance_deleteHosts steady_grasped nodup (fun _ hh => hh) hc hg) fun _ t ht => ?_)
  refine ⟨fun hbare => absurd held hbare, fun _ u hu => ?_⟩
  rw [href]
  refine provenance_patch (lasting_smooth.drift hu ht.1.smooth) (lasting_grasped.drift hu ht.2) hr
    ?_ ?_ ?_
  · refine List.forall_mem_cons.mpr ⟨.finalizers _, fun member hm => ?_⟩
    rw [List.mem_singleton.mp hm]
    exact .managed none
  · exact fun v _ _ hnone event hs => ⟨hs, kept_of_missing hnone⟩
  · intro v _ _ next _ hs
    refine ⟨hs, kept_of_none ?_⟩
    rcases recordedHosts_patched with hnone | hsome
    · exact hnone
    · refine hsome.trans ?_
      rw [Cluster.Manifest.annotation?_written, Cluster.Manifest.amend_cons]
      exact Cluster.Manifest.annotation?_amend _ Key.managedHosts none _

/-- An object that is to be served, with all that is known of it. -/
structure Ready (subject : Subject) (object : Object) (s : Moment) : Prop
    extends Cared object (· ∈ Annotations.managed object.annotations) s where
  kept : Kept subject s
  nodup : (Annotations.managed object.annotations).Nodup
  stays : object.isBeingDeleted = false
  registered : Annotations.isRegistered object.annotations = true
  plain : ∀ host ∈ object.declaredHosts, Text.CommaList.IsPlain host

theorem lasting_ready : (besideOthers subject).Lasting (Ready subject object) := fun s t hi h =>
  { h with toCared := lasting_cared s t hi h.toCared, kept := lasting_kept s t hi h.kept }

/-- The patch that adds the finalizer does not touch what is written down. -/
theorem annotation?_holding (version : String) (manifest : Json) (object : Object) (key : String) :
    Manifest.annotation? (Manifest.written version manifest object (holdingMembers object)) key =
      Manifest.annotation? manifest key := by
  rw [Cluster.Manifest.annotation?_written]
  exact Cluster.Manifest.annotation?_amend_of_not_mem (by simp [finalizersMember]) _ _

theorem Kept.holding {event : Occurrence} (h : Kept subject s)
    (hf : s.1.server.find? subject.ref = some manifest)
    (untouched : ∀ host, ¬ Touches host event) : Kept subject
      (patched s.1 subject.ref manifest object (holdingMembers object), event :: s.2) := by
  rcases @recordedHosts_patched manifest object s.1 subject.ref (holdingMembers object) with
    hnone | hsome
  · exact kept_of_none hnone
  · have hhosts : recordedHosts subject.ref (patched s.1 subject.ref manifest object
        (holdingMembers object)) = recordedHosts subject.ref s.1 := by
      rw [recordedHosts, hsome, annotation?_holding, recordedHosts_of_find? hf, writtenDown]
    constructor
    · rw [hhosts]
      exact h.nodup
    · rw [hhosts]
      exact fun host hh => (h.ours host hh).transfer rfl (untouched host)

/-- With its finalizer the object is served like before. -/
theorem Ready.holding {next : Object} (ready : Ready subject object s)
    (hf : s.1.server.find? subject.ref = some manifest)
    (hobject : object = Manifest.seen subject.kind manifest)
    (hk : Manifest.Kindred subject.kind manifest manifest)
    (hnext : next = Manifest.seen subject.kind (Manifest.written
      (s.1.server.version (s.1.server.writes + 1)) manifest object (holdingMembers object)))
    (hs : Smooth (.called (.patch subject.ref (metadataPatch object (holdingMembers object)))
      .answered (.ok (some next)) :: s.2)) :
    Ready subject next (patched s.1 subject.ref manifest object (holdingMembers object),
      .called (.patch subject.ref (metadataPatch object (holdingMembers object))) .answered
        (.ok (some next)) :: s.2) := by
  have hw := hk.written (own_holding object) (s.1.server.version (s.1.server.writes + 1)) object
  have hsame : Annotations.managed next.annotations = Annotations.managed object.annotations := by
    rw [hnext, hobject, managed_seen, managed_seen, writtenDown, ← hobject, annotation?_holding,
      writtenDown]
  refine ⟨⟨hs, rfl, fun host hh => ?_⟩, ready.kept.holding hf fun _ => id, ?_, ?_, ?_, ?_⟩
  · rw [hsame] at hh
    exact (ready.ours host hh).transfer rfl id
  · rw [hsame]
    exact ready.nodup
  · have hstays := ready.stays
    rw [hobject] at hstays
    rw [hnext]
    exact hw.deleted.trans hstays
  · rw [hnext, isRegistered_kindred hw]
    exact hobject ▸ ready.registered
  · intro host hh
    rw [hnext, Object.declaredHosts, hw.hostnames] at hh
    exact ready.plain host (hobject ▸ hh)

theorem provenance_ensureFinalizer (ready : Ready subject object s)
    (hg : Grasped subject manifest object s)
    (hr : Manifest.read? subject.kind manifest = some object) (href : object.ref = subject.ref) :
    (provenance subject).Tries (ensureFinalizer subject.kind object cleanupFinalizer)
      (fun held t => (held = none → Rested subject t) ∧
        ∀ next, held = some next → Ready subject next t) s := by
  refine tries_ensureFinalizer (fun _ => ⟨by simp, ?_⟩) fun _ t ht => ?_
  · rintro next ⟨⟩
    exact ready
  · replace ready := lasting_ready.drift ht ready
    replace hg := lasting_grasped.drift ht hg
    obtain ⟨hobject, hk⟩ := hg.kindred hr
    rw [href]
    refine provenance_patch ready.smooth hg hr (own_holding object) ?_ ?_
    · exact fun u _ _ hnone event hs =>
        ⟨fun _ => ⟨hs, kept_of_missing hnone⟩, fun next he => nomatch he⟩
    · intro u hu hf next hnext hs
      refine ⟨by simp, ?_⟩
      rintro _ ⟨⟩
      exact (lasting_ready.drift hu ready).holding hf hobject hk hnext hs

theorem provenance_writeManaged {hosts : List String} (nodup : hosts.Nodup)
    (plain : ∀ host ∈ hosts, Text.CommaList.IsPlain host) (full : "" ∉ hosts)
    (hc : Cared object (· ∈ hosts) s) :
    (provenance subject).Tries (writeManaged subject hosts) (fun _ => Rested subject) s := by
  have hread := parse_managedText? plain full
  -- hosts that are ours and are now what is written down
  have hkept : ∀ t : Moment, recorded? subject.ref t.1 = none ∨
      recorded? subject.ref t.1 = managedText? hosts → (∀ host ∈ hosts, Ours host t) →
      Kept subject t := by
    intro t hrec hours
    rcases hrec with hnone | hsome
    · exact kept_of_none hnone
    · have hhosts : recordedHosts subject.ref t.1 = hosts := by rw [recordedHosts, hsome, hread]
      exact ⟨hhosts ▸ nodup, hhosts ▸ hours⟩
  refine tries_writeManaged (provenance_fetch hc.smooth ?_ ?_)
  · exact fun u _ hs hnone v hv => lasting_rested.drift hv ⟨hs, kept_of_missing hnone⟩
  · intro u manifest latest hu hs sane hf hr
    have hg := grasped_fetched sane hf latest
    have hours : ∀ host ∈ hosts, Ours host
        (u.1, .called (.fetch subject.ref) .answered (.ok (some latest)) :: u.2) :=
      fun host hh => ((lasting_cared.drift hu hc).ours host hh).transfer rfl id
    refine ⟨fun hsame => ⟨hs, hkept _ (.inr ?_) hours⟩, fun _ => ?_⟩
    · rw [recorded?, hf]
      obtain ⟨hobject, -⟩ := hg.kindred hr
      rw [hobject] at hsame
      exact hsame
    · refine provenance_patch hs hg hr (own_writing hosts) ?_ ?_
      · exact fun v _ _ hnone event hsv => ⟨hsv, kept_of_missing hnone⟩
      · intro v hv _ next _ hsv
        refine ⟨hsv, hkept _ ?_ fun host hh => ?_⟩
        · refine recordedHosts_patched.imp_right fun hsome => hsome.trans ?_
          rw [Cluster.Manifest.annotation?_written]
          exact (Cluster.Manifest.annotation?_amend _ Key.managedHosts _ _).trans (if_pos rfl)
        · exact (lasting_ours.drift hv (hours host hh)).transfer rfl id

theorem provenance_serve {defaultTarget : String} (ready : Ready subject object s) :
    (provenance subject).Tries (serve subject defaultTarget object)
      (fun _ => Rested subject) s := by
  refine tries_serve (fun _ t ht => ?_) fun target _ _ => ?_
  · exact lasting_rested.drift ht ⟨ready.smooth, ready.kept⟩
  · have served : ∀ host ∈ desiredHosts object, Wants object host :=
      fun host hh => ⟨ready.stays, ready.registered, hh⟩
    refine Contract.Tries.mono (provenance_syncHosts served ready.toCared) fun _ t ht => ?_
    refine Contract.Tries.mono (provenance_deleteHosts steady_true (ready.nodup.filter _)
      (fun host hh => .inl (List.mem_filter.mp hh).1) ht trivial) fun _ u hu => ?_
    have hours : Cared object (· ∈ desiredHosts object) u :=
      hu.1.mono fun host hh => ⟨.inr hh, by simp [hh]⟩
    refine Contract.Tries.mono (provenance_writeManaged (nodup_distinct _)
      (plain_desired fun host hh _ => ready.plain host hh) (empty_not_mem_desired object) hours) ?_
    exact fun _ v hv w hw => lasting_rested.drift hw hv

theorem provenance_reconcile {defaultTarget : String} (h : Rested subject s) :
    (provenance subject).Tries (reconcile subject defaultTarget) (fun _ => Rested subject) s := by
  refine tries_reconcile (provenance_fetch h.1 ?_ ?_)
  · intro u hu hs _ v hv
    have hk : Kept subject (u.1, .called (.fetch subject.ref) .answered (.ok none) :: u.2) :=
      (lasting_kept.drift hu h.2).transfer rfl rfl fun _ => id
    exact lasting_rested.drift hv ⟨hs, hk⟩
  · intro u manifest object hu hs sane hf hr
    have hg := grasped_fetched sane hf object
    have hku := lasting_kept.drift hu h.2
    have hk : Kept subject
        (u.1, .called (.fetch subject.ref) .answered (.ok (some object)) :: u.2) :=
      hku.transfer rfl rfl fun _ => id
    obtain ⟨href, hplain⟩ := sane.orderly manifest hf object hr
    have hmanaged : Annotations.managed object.annotations = recordedHosts subject.ref u.1 := by
      rw [(hg.toKnown.reads hr).2, recordedHosts_of_find? hf]
    have hcared : Cared object (· ∈ Annotations.managed object.annotations)
        (u.1, .called (.fetch subject.ref) .answered (.ok (some object)) :: u.2) := by
      refine ⟨hs, rfl, fun host hh => ?_⟩
      rw [hmanaged] at hh
      exact hk.ours host hh
    have hnodup : (Annotations.managed object.annotations).Nodup := hmanaged ▸ hku.nodup
    refine ⟨fun _ reason => ?_, fun stays registered => ?_⟩
    · refine tries_release (fun _ => ⟨hs, hk⟩) fun held t ht => ?_
      exact provenance_cleanup (lasting_cared.drift ht hcared) hnodup (lasting_grasped.drift ht hg)
        hr href held
    · have ready : Ready subject object
          (u.1, .called (.fetch subject.ref) .answered (.ok (some object)) :: u.2) :=
        ⟨hcared, hk, hnodup, stays, registered, hplain⟩
      refine Contract.Tries.mono (provenance_ensureFinalizer ready hg hr href) fun held t ht => ?_
      cases held with
      | none => exact ht.1 rfl
      | some next => exact provenance_serve (ht.2 next rfl)

/-! ## Runs -/

theorem provenance_upheld {first scene : Scene} {events : List Occurrence} (idle : first.IsIdle)
    (versioned : first.world.server.Versioned) (orderly : Orderly subject first.world)
    (unrecorded : recorded? subject.ref first.world = none)
    (run : Run (besideOthers subject) first events scene) :
    (besideOthers subject).Upholds (fun q s => Smooth s.2 → Rightful q s)
      (fun s => Smooth s.2 → Sane subject s) (fun _ s => Smooth s.2 → Kept subject s)
      scene events := by
  have hfirst : (besideOthers subject).Upholds (fun q s => Smooth s.2 → Rightful q s)
      (fun s => Smooth s.2 → Sane subject s) (fun _ s => Smooth s.2 → Kept subject s)
      first [] := by
    refine ⟨fun _ => ⟨versioned, orderly⟩, ?_⟩
    obtain ⟨r, hr⟩ := idle
    rw [hr]
    exact fun _ => kept_of_none unrecorded
  have hedit : ∀ w w' events, (Smooth events → Sane subject (w, events)) →
      (besideOthers subject).edit w w' → Smooth (.edited :: events) →
      Sane subject (w', .edited :: events) := by
    intro w w' events h he hs
    exact ⟨he.1.versioned (h hs.of_cons).versioned, he.2.1⟩
  have hend : ∀ (_ : Except Error Unit) w w' events, (Smooth events → Kept subject (w, events)) →
      (besideOthers subject).edit w w' → Smooth (.edited :: events) →
      Kept subject (w', .edited :: events) :=
    fun _ w w' events h he hs => lasting_kept _ _ ⟨trivial, he, rfl⟩ (h hs.of_cons)
  have hstart : ∀ (_ : Except Error Unit) w events started target,
      (Smooth events → Sane subject (w, events)) → (Smooth events → Kept subject (w, events)) →
      (besideOthers subject).start started target →
      (besideOthers subject).Upholds (fun q s => Smooth s.2 → Rightful q s)
        (fun s => Smooth s.2 → Sane subject s) (fun _ s => Smooth s.2 → Kept subject s)
        (.beginning w started target) (.started started :: events) := by
    rintro _ w events started target hi hp rfl
    refine ⟨fun hs => sane_of_server (hi hs.of_cons) rfl, ?_⟩
    by_cases hs : Smooth events
    · have rested : Rested started (w, .started started :: events) :=
        ⟨hs.started _, (hp hs).transfer rfl rfl fun _ => id⟩
      refine Contract.Secures.mono (secures_of_tries (untroubled_reconcile _ _)
        (provenance_reconcile rested)) fun _ t ht hst => (ht hst).2
    · exact secures_of_not_smooth _ fun hst => hs hst.of_cons
  have hu := run.relay hfirst hedit hend hstart
  rwa [List.append_nil] at hu

/-- Over any run of reconciles of one object in which no call fails, and which starts when no host
is written down on it, while others edit the object and add records of their own at any time: a
record that is deleted otherwise than to be replaced is one that a call of the run has put into the
store, or one that a reconcile has found there when it was to be made. -/
theorem deleted_put_or_found {first scene : Scene} {events : List Occurrence} {host : String}
    {next : Except PiHole.Error Unit → Program Surroundings (Except Error Unit)}
    (idle : first.IsIdle) (versioned : first.world.server.Versioned)
    (orderly : Orderly subject first.world)
    (unrecorded : recorded? subject.ref first.world = none)
    (run : Run (besideOthers subject) first events scene) (smooth : Smooth events)
    (asked : scene.rest = .ask (I := Surroundings) (.dns (.delete host)) next) :
    ∃ object, inHand events = some object ∧ (Wants object host ∨
      ∀ r, recordsOf host scene.world.records = [r] → Put events r ∨ Found events r) := by
  obtain ⟨hi, hp⟩ := provenance_upheld idle versioned orderly unrecorded run
  rw [asked] at hp
  exact (hp _ .refl hi).1 trivial smooth host rfl

end

/-- A route that asks for a host which somebody has given the right record already. -/
def adoptingWorld : World :=
  .holding (routeManifest [(Key.register, "true"), (Key.hosts, "app.local")] [])
    [⟨"app.local", "10.0.0.1"⟩]

/-- The route once it takes part no more. -/
def disowningWorld : World :=
  let served := (adoptingWorld.play route "10.0.0.1" []).2.1
  { served with server := served.server.edit optOut }

/-- No call has put that record there, and it is about to be deleted. -/
theorem deleted_put_or_found_of_adopting : ∃ events scene,
    Run (besideOthers route) ⟨adoptingWorld, route, .done (.ok ())⟩ events scene ∧
    made events = [] ∧ recordsOf "app.local" scene.world.records = [⟨"app.local", "10.0.0.1"⟩] ∧
    (inHand events).map (fun object => Annotations.isRegistered object.annotations) = some false ∧
    (∃ next, scene.rest = .ask (I := Surroundings) (.dns (.delete "app.local")) next) ∧
    ∃ object, inHand events = some object ∧ (Wants object "app.local" ∨
      ∀ r, recordsOf "app.local" scene.world.records = [r] → Put events r ∨ Found events r) := by
  have idle : Scene.IsIdle ⟨adoptingWorld, route, .done (.ok ())⟩ := ⟨_, rfl⟩
  have versioned : adoptingWorld.server.Versioned := World.versioned_holding _ _
  have unrecorded : recorded? route.ref adoptingWorld = none := by decide +kernel
  have orderly : Orderly route adoptingWorld := by decide +kernel
  have start : (besideOthers route).start route "10.0.0.1" := rfl
  have served := (Run.step .none (.started idle start)).trans (.played _ _ _ _ [])
  have change : (besideOthers route).edit (adoptingWorld.play route "10.0.0.1" []).2.1
      disowningWorld := ⟨ApiServer.becomes_edit _ optOut, by decide +kernel,
        .inl (by decide +kernel), .inl rfl⟩
  have edited := served.step (.edited (.inl trivial) change)
  have run := (edited.step (.started ⟨_, rfl⟩ start)).trans (.after _ 2 _)
  exact ⟨_, _, run, by decide +kernel, by decide +kernel, by decide +kernel, ⟨_, rfl⟩,
    deleted_put_or_found idle versioned orderly unrecorded run (by decide +kernel) rfl⟩

end ClusterDns.Reconcile
