import ClusterDns.Proofs.Reconcile.Confinement
import ClusterDns.Proofs.Reconcile.Stages
import ClusterDns.Proofs.Reconcile.Undisturbed

/-! Retries converge. However many reconciles of an object have failed, and wherever they have, one
that is left in peace brings about what the first would have brought about. Until then the store is
half way: the object has come as far as one of its stages, and of the records only those of its
hosts, old and new, have changed. -/

namespace ClusterDns.Reconcile

open Cluster (Kind Object Manifest.seen Manifest.finalizers Manifest.written Manifest.unversioned
  Manifest.Kindred Manifest.IsOwn Manifest.read? Manifest.resourceVersion? Manifest.annotation?
  Manifest.isBeingDeleted)
open PiHole (Record)
open Rehearsal

/-- Reconciles of one object, again and again, with nobody else about. -/
def retries (subject : Subject) (defaultTarget : String) : Rules where
  edit _ _ := False
  anytime := False
  start started target := started = subject ∧ target = defaultTarget

/-- An object that takes part, with all that is needed to serve it. -/
structure TakesPart (kind : Kind) (origin : Json) (defaultTarget target : String) : Prop where
  stays : (Manifest.seen kind origin).isBeingDeleted = false
  registered : Annotations.isRegistered (Manifest.seen kind origin).annotations = true
  asks : desired kind origin ≠ []
  plain : ∀ host ∈ desired kind origin, Text.CommaList.IsPlain host
  address : Annotations.target? (Manifest.seen kind origin).annotations defaultTarget = some target

theorem TakesPart.kindred {kind : Kind} {origin manifest : Json} {defaultTarget target : String}
    (part : TakesPart kind origin defaultTarget target)
    (hk : Manifest.Kindred kind origin manifest) :
    TakesPart kind manifest defaultTarget target where
  stays := hk.deleted.trans part.stays
  registered := (isRegistered_kindred hk).trans part.registered
  asks := by
    rw [desired_kindred hk]
    exact part.asks
  plain := by
    rw [desired_kindred hk]
    exact part.plain
  address := (target?_kindred hk defaultTarget).trans part.address

/-- What holds of the world after some reconciles, whether they failed or not. -/
structure Halfway (kind : Kind) (origin : Json) (start w : World) : Prop where
  single : OnePerName w.records
  outside : ∀ host, host ∉ desired kind origin →
    recordsOf host w.records = recordsOf host start.records ∨
      host ∈ writtenDown origin ∧ recordsOf host w.records = []
  others : ∀ ref, ref ≠ (subjectOf kind origin).ref → w.server.find? ref = start.server.find? ref
  stored : ∃ manifest, w.server.find? (subjectOf kind origin).ref = some manifest ∧
    Manifest.Kindred kind origin manifest ∧ Stage kind origin w.records manifest

section

variable {kind : Kind} {origin manifest : Json} {start w : World} {defaultTarget target : String}
  {s t : Moment}

theorem Halfway.create (h : Halfway kind origin start w) {r : Record}
    (hr : r.domain ∈ desired kind origin) (free : recordsOf r.domain w.records = []) :
    Halfway kind origin start { w with records := w.records ++ [r] } := by
  have same : ∀ host, host ∉ desired kind origin →
      recordsOf host (w.records ++ [r]) = recordsOf host w.records := by
    intro host hd
    have hne : r.domain ≠ host := fun he => hd (he ▸ hr)
    rw [recordsOf_create, if_neg hne]
  obtain ⟨m, hf, hk, hstage⟩ := h.stored
  refine ⟨h.single.create free, fun host hd => ?_, h.others, m, hf, hk, ?_⟩
  · rw [same host hd]
    exact h.outside host hd
  · exact hstage.congr fun host _ hd hclear => (same host hd).trans hclear

theorem Halfway.delete (h : Halfway kind origin start w) {removed : String}
    (hr : removed ∈ desired kind origin ∨ removed ∈ writtenDown origin) :
    Halfway kind origin start { w with records := removeFirst removed w.records } := by
  obtain ⟨m, hf, hk, hstage⟩ := h.stored
  refine ⟨h.single.delete removed, fun host hd => ?_, h.others, m, hf, hk, ?_⟩
  · by_cases hne : removed = host
    · subst hne
      exact .inr ⟨hr.resolve_left hd, h.single.recordsOf_delete removed⟩
    · rw [recordsOf_removeFirst, if_neg hne]
      exact h.outside host hd
  · refine hstage.congr fun host _ _ hclear => ?_
    rw [recordsOf_removeFirst, hclear]
    split <;> rfl

theorem outlasts_halfway (kind : Kind) (origin : Json) (start : World) :
    Outlasts True (fun _ host => host ∈ desired kind origin)
      (fun _ host => host ∈ desired kind origin ∨ host ∈ writtenDown origin)
      (fun s => Halfway kind origin start s.1) where
  single _ h _ := h.single
  more _ _ _ h := h
  create _ _ _ h hr free := h.create hr (free trivial)
  delete _ _ _ h hr := h.delete hr

/-- A patch that keeps the finalizer brings the object to another stage. -/
theorem Halfway.patched (h : Halfway kind origin start w)
    (hk : Manifest.Kindred kind origin manifest) {members : Json.Members}
    (own : ∀ member ∈ members, Manifest.IsOwn member)
    (hin : ∀ version, cleanupFinalizer ∈ Manifest.finalizers
      (Manifest.written version manifest (Manifest.seen kind manifest) members))
    (stage : ∀ version, Stage kind origin w.records
      (Manifest.written version manifest (Manifest.seen kind manifest) members)) :
    Halfway kind origin start
      (patched w (subjectOf kind origin).ref manifest (Manifest.seen kind manifest) members) := by
  refine ⟨h.single, h.outside, fun ref hne => ?_, _, find?_patched (hin _),
    hk.written own _ _, stage _⟩
  rw [ApiServer.find?_afterPatch, if_neg hne]
  exact h.others ref hne

/-! ## What a reconcile does on the way -/

/-- All that holds half way is kept. -/
abbrev converging (kind : Kind) (origin : Json) (start : World) (defaultTarget : String) :
    Contract Surroundings Moment :=
  keeping (retries (subjectOf kind origin) defaultTarget) kind
    (fun s => Halfway kind origin start s.1)

theorem patch_seen (hf : w.server.find? (subjectOf kind origin).ref = some manifest)
    (hk : Manifest.Kindred kind origin manifest) {members : Json.Members}
    (own : ∀ member ∈ members, Manifest.IsOwn member) :
    w.patch kind (subjectOf kind origin).ref
        (metadataPatch (Manifest.seen kind manifest) members) =
      (.ok (some (Manifest.seen kind (Manifest.written
        (w.server.version (w.server.writes + 1)) manifest (Manifest.seen kind manifest) members))),
        patched w (subjectOf kind origin).ref manifest (Manifest.seen kind manifest) members) := by
  rw [World.patch_taken hf rfl, World.read, (hk.written own _ _).readable]

theorem converging_patch (hf : s.1.server.find? (subjectOf kind origin).ref = some manifest)
    (hk : Manifest.Kindred kind origin manifest) {members : Json.Members}
    (own : ∀ member ∈ members, Manifest.IsOwn member)
    (hin : ∀ version, cleanupFinalizer ∈ Manifest.finalizers
      (Manifest.written version manifest (Manifest.seen kind manifest) members))
    (stage : ∀ version, Stage kind origin s.1.records
      (Manifest.written version manifest (Manifest.seen kind manifest) members))
    {post : Option Object → Moment → Prop}
    (hp : ∀ t version, t.1.records = s.1.records →
      t.1.server.find? (subjectOf kind origin).ref = some
        (Manifest.written version manifest (Manifest.seen kind manifest) members) →
      post (some (Manifest.seen kind
        (Manifest.written version manifest (Manifest.seen kind manifest) members))) t) :
    (converging kind origin start defaultTarget).Tries (patch (subjectOf kind origin).ref
      (metadataPatch (Manifest.seen kind manifest) members)) post s := by
  refine tries_patch fun t hd hi => ?_
  obtain rfl := hd.eq id
  have heq := patch_seen hf hk own
  have after := hi.patched hk own hin stage
  have hanswer : (t.1.answer kind (.patch (subjectOf kind origin).ref
      (metadataPatch (Manifest.seen kind manifest) members))).2 =
        patched t.1 (subjectOf kind origin).ref manifest (Manifest.seen kind manifest) members :=
    congrArg Prod.snd heq
  rw [heq]
  refine ⟨trivial, fun fate r w hw => hw.leaves hi ?_, ?_⟩
  · rw [hanswer]
    exact after
  · intro found hfound
    cases hfound
    exact hp _ _ rfl (find?_patched (hin _))

theorem converging_fetch {post : Option Object → Moment → Prop}
    (hp : ∀ manifest events, s.1.server.find? (subjectOf kind origin).ref = some manifest →
      Manifest.Kindred kind origin manifest → Stage kind origin s.1.records manifest →
      post (some (Manifest.seen kind manifest)) (s.1, events)) :
    (converging kind origin start defaultTarget).Tries (fetch (subjectOf kind origin).ref)
      post s := by
  refine tries_fetch fun t hd hi => ?_
  obtain rfl := hd.eq id
  refine ⟨trivial, fun fate r w hw => hw.leaves hi hi, fun found hfound => ?_⟩
  obtain ⟨manifest, hf, hk, hstage⟩ := hi.stored
  rw [World.fetch_of_read hf hk.readable] at hfound
  cases hfound
  exact hp manifest _ hf hk hstage

theorem converging_ensureFinalizer
    (hf : s.1.server.find? (subjectOf kind origin).ref = some manifest)
    (hk : Manifest.Kindred kind origin manifest) (hstage : Stage kind origin s.1.records manifest) :
    (converging kind origin start defaultTarget).Tries
      (ensureFinalizer kind (Manifest.seen kind manifest) cleanupFinalizer)
      (fun held t => ∃ next, held = some (Manifest.seen kind next) ∧
        t.1.server.find? (subjectOf kind origin).ref = some next ∧
        Manifest.Kindred kind origin next ∧ cleanupFinalizer ∈ Manifest.finalizers next) s := by
  refine tries_ensureFinalizer (fun hheld => ⟨manifest, rfl, hf, hk, ?_⟩) fun hnot t ht => ?_
  · exact (hasFinalizer_seen kind manifest).mp hheld
  · obtain rfl := ht.eq id
    rw [hasFinalizer_seen] at hnot
    have hplace : (Manifest.seen kind manifest).ref = (subjectOf kind origin).ref := hk.ref
    have own := own_holding (Manifest.seen kind manifest)
    have hin := fun version => mem_finalizers_holding version manifest (Manifest.seen kind manifest)
    have form := hstage.of_not_mem_finalizers hnot
    rw [hplace]
    refine converging_patch hf hk own hin (fun v => .held (unversioned_holding form hnot v)) ?_
    intro t version _ hnext
    exact ⟨_, rfl, hnext, hk.written own _ _, hin version⟩

/-- The records are as the object asks for. -/
structure Synced (kind : Kind) (origin : Json) (target : String) (records : List Record) :
    Prop where
  bound : ∀ host ∈ desired kind origin, recordsOf host records = [⟨host, target⟩]
  pruned : ∀ host ∈ writtenDown origin, host ∉ desired kind origin → recordsOf host records = []

/-- So they are, and it is written down. -/
structure Settled (kind : Kind) (origin : Json) (target : String) (w : World) : Prop
    extends Synced kind origin target w.records where
  stored : ∃ manifest, w.server.find? (subjectOf kind origin).ref = some manifest ∧
    Manifest.unversioned manifest = servedForm kind origin

theorem converging_writeManaged
    (hf : s.1.server.find? (subjectOf kind origin).ref = some manifest)
    (hin : cleanupFinalizer ∈ Manifest.finalizers manifest)
    (synced : Synced kind origin target s.1.records) :
    (converging kind origin start defaultTarget).Tries
      (writeManaged (subjectOf kind origin) (desired kind origin))
      (fun _ t => Settled kind origin target t.1) s := by
  refine tries_writeManaged (converging_fetch fun stored events hstored hk hstage => ?_)
  rw [hf] at hstored
  cases hstored
  dsimp only
  rw [get?_seen]
  refine ⟨fun same => ⟨synced, manifest, hf, ?_⟩, fun other => ?_⟩
  · rcases hstage.of_mem_finalizers hin with form | ⟨form, -⟩
    · exact servedForm_eq form same
    · exact form
  · have own := own_writing (desired kind origin)
    have hkeeps := fun version => (mem_finalizers_writing version manifest
      (Manifest.seen kind manifest) (desired kind origin)).mpr hin
    have form : Manifest.unversioned manifest = heldForm origin := by
      rcases hstage.of_mem_finalizers hin with form | ⟨form, -⟩
      · exact form
      · exact absurd (managed_of_servedForm form) other
    have hserved := unversioned_writing form other
    refine converging_patch (s := (s.1, events)) hf hk own hkeeps
      (fun version => .served (hserved version) synced.pruned) ?_
    exact fun t version hrecords hnext => ⟨hrecords ▸ synced, _, hnext, hserved version⟩

/-- The hosts that are written down and not asked for. -/
abbrev outdated (kind : Kind) (origin manifest : Json) : List String :=
  (writtenDown manifest).filter (!(desired kind origin).contains ·)

theorem mem_outdated {host : String} : host ∈ outdated kind origin manifest ↔
    host ∈ writtenDown manifest ∧ host ∉ desired kind origin := by
  simp

theorem serve_eq (asks : desired kind origin ≠ [])
    (address : Annotations.target? (Manifest.seen kind origin).annotations defaultTarget =
      some target) (hk : Manifest.Kindred kind origin manifest) :
    serve (subjectOf kind origin) defaultTarget (Manifest.seen kind manifest) = (do
      syncHosts (subjectOf kind origin) target (desired kind origin)
      deleteHosts (subjectOf kind origin) (outdated kind origin manifest)
      (writeManaged (subjectOf kind origin) (desired kind origin)).rephrase .managedHosts
      note (subjectOf kind origin) (.reconciled (desired kind origin).length)) := by
  have hdesired : desiredHosts (Manifest.seen kind manifest) = desired kind origin :=
    desired_kindred hk
  unfold serve
  have htarget := (target?_kindred hk defaultTarget).trans address
  simp only [hdesired, htarget, List.isEmpty_iff, if_neg asks, managed_seen]

/-- The hosts written down now are those written down first, unless these are dealt with. -/
theorem writtenDown_of_stage (plain : ∀ host ∈ desired kind origin, Text.CommaList.IsPlain host)
    {records : List Record} (hstage : Stage kind origin records manifest)
    (hin : cleanupFinalizer ∈ Manifest.finalizers manifest) :
    writtenDown manifest = writtenDown origin ∨
      writtenDown manifest = desired kind origin ∧
        ∀ host ∈ writtenDown origin, host ∉ desired kind origin → recordsOf host records = [] := by
  rcases hstage.of_mem_finalizers hin with form | ⟨form, hpruned⟩
  · left
    rw [writtenDown, managed_of_heldForm form, writtenDown]
  · right
    rw [writtenDown, managed_of_servedForm form]
    exact ⟨parse_managedText? plain (empty_not_mem_desired _), hpruned⟩

theorem synced_of_worked (plain : ∀ host ∈ desired kind origin, Text.CommaList.IsPlain host)
    {u : Moment} (hstage : Stage kind origin s.1.records manifest)
    (hin : cleanupFinalizer ∈ Manifest.finalizers manifest)
    (hsynced : Worked (desired kind origin) s t)
    (hbound : ∀ host ∈ desired kind origin, recordsOf host t.1.records = [⟨host, target⟩])
    (hcleared : Worked (outdated kind origin manifest) t u)
    (hgone : ∀ host ∈ outdated kind origin manifest, recordsOf host u.1.records = []) :
    Synced kind origin target u.1.records := by
  constructor
  · intro host hd
    rw [hcleared.frame host fun hh => (mem_outdated.mp hh).2 hd]
    exact hbound host hd
  · intro host hw hd
    rcases writtenDown_of_stage plain hstage hin with hsame | ⟨hsame, hpruned⟩
    · exact hgone host (mem_outdated.mpr ⟨hsame ▸ hw, hd⟩)
    · have hnot : host ∉ outdated kind origin manifest := by
        rw [mem_outdated, hsame]
        exact fun hh => hd hh.1
      rw [hcleared.frame host hnot, hsynced.frame host hd]
      exact hpruned host hw hd

theorem converging_serve (part : TakesPart kind origin defaultTarget target)
    (hi : Halfway kind origin start s.1)
    (hf : s.1.server.find? (subjectOf kind origin).ref = some manifest)
    (hk : Manifest.Kindred kind origin manifest)
    (hin : cleanupFinalizer ∈ Manifest.finalizers manifest) :
    (converging kind origin start defaultTarget).Tries
      (serve (subjectOf kind origin) defaultTarget (Manifest.seen kind manifest))
      (fun _ t => Settled kind origin target t.1) s := by
  have lasts := outlasts_halfway kind origin start
  have hstage : Stage kind origin s.1.records manifest := by
    obtain ⟨stored, hstored, -, hstage⟩ := hi.stored
    rw [hf] at hstored
    cases hstored
    exact hstage
  have hclears : ∀ host ∈ outdated kind origin manifest,
      host ∈ desired kind origin ∨ host ∈ writtenDown origin := by
    intro host hh
    obtain ⟨hw, hd⟩ := mem_outdated.mp hh
    rcases writtenDown_of_stage part.plain hstage hin with hsame | ⟨hsame, -⟩
    · exact .inr (hsame ▸ hw)
    · exact absurd (hsame ▸ hw) hd
  rw [serve_eq part.asks part.address hk]
  refine Contract.Tries.bind (Contract.Tries.mono (Contract.Tries.upheld
    (keeps_syncHosts id lasts (fun _ hh _ _ => hh) (fun _ hh _ _ => .inl hh)) hi) ?_)
  rintro _ t ⟨⟨hsynced, hbound⟩, ht⟩
  refine Contract.Tries.bind (Contract.Tries.mono
    (keeps_deleteHosts id lasts fun host hh _ _ => hclears host hh) ?_)
  rintro _ u ⟨hcleared, hgone⟩
  have hstored : u.1.server.find? (subjectOf kind origin).ref = some manifest := by
    rw [hcleared.server, hsynced.server, hf]
  have synced : Synced kind origin target u.1.records :=
    synced_of_worked part.plain hstage hin hsynced (hbound trivial ht.single) hcleared
      (hgone trivial)
  refine Contract.Tries.bind (Contract.Tries.rephrase ?_)
  refine Contract.Tries.mono (converging_writeManaged hstored hin synced) fun _ v hv => ?_
  exact keeps_note id hv

theorem converging_reconcile (part : TakesPart kind origin defaultTarget target)
    (hi : Halfway kind origin start s.1) :
    (converging kind origin start defaultTarget).Tries
      (reconcile (subjectOf kind origin) defaultTarget)
      (fun _ t => Settled kind origin target t.1) s := by
  refine tries_reconcile (converging_fetch fun manifest events hf hk hstage => ?_)
  have hpart := part.kindred hk
  refine ⟨fun leaving => ?_, fun _ _ => ?_⟩
  · simp [hpart.stays, hpart.registered] at leaving
  · refine Contract.Tries.mono (Contract.Tries.upheld
      (converging_ensureFinalizer (s := (s.1, events)) hf hk hstage) hi) ?_
    rintro _ t ⟨⟨next, rfl, hnext, hkindred, hin⟩, ht⟩
    exact converging_serve part ht hnext hkindred hin

/-! ## An undisturbed reconcile -/

/-- A later manifest of the same object, by which it is held. All other finalizers are as they were,
and the hosts written down are a given text. -/
structure HeldWith (kind : Kind) (origin manifest next : Json) (text? : Option String) : Prop where
  kindred : Manifest.Kindred kind origin next
  held : cleanupFinalizer ∈ Manifest.finalizers next
  others : (Manifest.finalizers next).filter (· ≠ cleanupFinalizer) =
    (Manifest.finalizers manifest).filter (· ≠ cleanupFinalizer)
  recorded : Manifest.annotation? next Key.managedHosts = text?

theorem ends_fetch_seen (hf : w.server.find? (subjectOf kind origin).ref = some manifest)
    (hk : Manifest.Kindred kind origin manifest) :
    Ends kind (fetch (subjectOf kind origin).ref) w (some (Manifest.seen kind manifest)) w :=
  ends_fetch (World.fetch_of_read hf hk.readable)

theorem heldWith_holding (hk : Manifest.Kindred kind origin manifest) (version : String) :
    HeldWith kind origin manifest (Manifest.written version manifest (Manifest.seen kind manifest)
      (holdingMembers (Manifest.seen kind manifest)))
      (Manifest.annotation? manifest Key.managedHosts) := by
  have own := own_holding (Manifest.seen kind manifest)
  refine ⟨hk.written own _ _, mem_finalizers_holding _ _ _, ?_, ?_⟩
  · rw [Manifest.finalizers, Cluster.Manifest.finalizers?_written,
      Cluster.Manifest.finalizers?_amend _ _ (by simp), finalizers_seen]
    simp
  · rw [Cluster.Manifest.annotation?_written, Cluster.Manifest.annotation?_amend_of_not_mem
      (by simp [finalizersMember])]

theorem ends_ensureFinalizer (hf : w.server.find? (subjectOf kind origin).ref = some manifest)
    (hk : Manifest.Kindred kind origin manifest) : ∃ next w',
      Ends kind (ensureFinalizer kind (Manifest.seen kind manifest) cleanupFinalizer) w
        (some (Manifest.seen kind next)) w' ∧
      w'.records = w.records ∧ w'.server.find? (subjectOf kind origin).ref = some next ∧
      HeldWith kind origin manifest next (Manifest.annotation? manifest Key.managedHosts) := by
  rw [ensureFinalizer]
  split
  · rename_i hheld
    have hin := (hasFinalizer_seen kind manifest).mp hheld
    exact ⟨manifest, w, ends_pure _ w, rfl, hf, hk, hin, rfl, rfl⟩
  · have hplace : (Manifest.seen kind manifest).ref = (subjectOf kind origin).ref := hk.ref
    have hpatch := ends_patch (patch_seen hf hk (own_holding (Manifest.seen kind manifest)))
    have hheld := heldWith_holding hk (w.server.version (w.server.writes + 1))
    rw [hplace]
    exact ⟨_, _, (ends_note _ _ w).bind hpatch, rfl, find?_patched hheld.held, hheld⟩

/-- Hosts are written down on any object that outlasts a patch. -/
theorem ends_writing (hf : w.server.find? (subjectOf kind origin).ref = some manifest)
    (hk : Manifest.Kindred kind origin manifest)
    (remains : Manifest.isBeingDeleted manifest = true → Manifest.finalizers manifest ≠ [])
    (hosts : List String) : ∃ last w',
      Ends kind (writeManaged (subjectOf kind origin) hosts) w () w' ∧
      w'.records = w.records ∧ w'.server.find? (subjectOf kind origin).ref = some last ∧
      Manifest.Kindred kind origin last ∧
      Manifest.finalizers last = Manifest.finalizers manifest ∧
      Manifest.annotation? last Key.managedHosts = managedText? hosts := by
  by_cases other : Annotations.get? (Manifest.seen kind manifest).annotations Key.managedHosts ≠
    managedText? hosts
  · have hwrite := ends_patch (patch_seen hf hk (own_writing hosts))
    have hnext := hk.written (own_writing hosts) (w.server.version (w.server.writes + 1))
      (Manifest.seen kind manifest)
    have hfinalizers := finalizers_writing (w.server.version (w.server.writes + 1)) manifest
      (Manifest.seen kind manifest) hosts
    refine ⟨_, patched w (subjectOf kind origin).ref manifest (Manifest.seen kind manifest)
      (writingMembers hosts), (ends_fetch_seen hf hk).bind ?_, rfl,
      find?_patched_of_remains rfl ?_, hnext, hfinalizers, ?_⟩
    · dsimp only
      rw [if_pos other]
      exact hwrite.bind (ends_pure () _)
    · rw [hnext.deleted, ← hk.deleted, hfinalizers]
      exact remains
    · rw [Cluster.Manifest.annotation?_written, Cluster.Manifest.annotation?_amend, if_pos rfl]
  · refine ⟨manifest, w, (ends_fetch_seen hf hk).bind ?_, rfl, hf, hk, rfl, not_not.mp other⟩
    dsimp only
    rw [if_neg other]
    exact ends_pure () w

theorem ends_writeManaged (hf : w.server.find? (subjectOf kind origin).ref = some manifest)
    (hk : Manifest.Kindred kind origin manifest)
    (hin : cleanupFinalizer ∈ Manifest.finalizers manifest) (hosts : List String) : ∃ last w',
      Ends kind (writeManaged (subjectOf kind origin) hosts) w () w' ∧
      w'.records = w.records ∧ w'.server.find? (subjectOf kind origin).ref = some last ∧
      HeldWith kind origin manifest last (managedText? hosts) := by
  obtain ⟨last, w', hends, hrecords, hlast, kindred, finalizers, recorded⟩ :=
    ends_writing hf hk (fun _ => List.ne_nil_of_mem hin) hosts
  exact ⟨last, w', hends, hrecords, hlast, kindred, finalizers ▸ hin, by rw [finalizers], recorded⟩

/-- The records after an object has been served. -/
def servedRecords (kind : Kind) (origin manifest : Json) (target : String)
    (records : List Record) : List Record :=
  removeAll (outdated kind origin manifest)
    (boundAll target (desired kind origin) (.ofRecords records) records)

theorem ends_serve (part : TakesPart kind origin defaultTarget target)
    (hf : w.server.find? (subjectOf kind origin).ref = some manifest)
    (hk : Manifest.Kindred kind origin manifest)
    (hin : cleanupFinalizer ∈ Manifest.finalizers manifest) : ∃ last w',
      Ends kind (serve (subjectOf kind origin) defaultTarget (Manifest.seen kind manifest))
        w () w' ∧
      w'.records = servedRecords kind origin manifest target w.records ∧
      w'.server.find? (subjectOf kind origin).ref = some last ∧
      HeldWith kind origin manifest last (managedText? (desired kind origin)) := by
  have hsync : Ends kind (syncHosts (subjectOf kind origin) target (desired kind origin)) w () _ :=
    ends_syncHosts _ target _ w
  have hclear : Ends kind (deleteHosts (subjectOf kind origin) (outdated kind origin manifest))
      { w with records := boundAll target (desired kind origin) (.ofRecords w.records) w.records }
      () _ := ends_deleteHosts _ _ _
  obtain ⟨last, w', hwrite, hrecords, hlast, hheld⟩ :=
    ends_writeManaged (w := { w with records := servedRecords kind origin manifest target w.records })
      hf hk hin (desired kind origin)
  refine ⟨last, w', ?_, hrecords, hlast, hheld⟩
  rw [serve_eq part.asks part.address hk]
  exact hsync.bind (hclear.bind ((hwrite.rephrase _).bind (ends_note _ _ w')))

theorem ends_reconcile (part : TakesPart kind origin defaultTarget target)
    (hf : w.server.find? (subjectOf kind origin).ref = some manifest)
    (hk : Manifest.Kindred kind origin manifest) : ∃ last w',
      Ends kind (reconcile (subjectOf kind origin) defaultTarget) w () w' ∧
      w'.records = servedRecords kind origin manifest target w.records ∧
      w'.server.find? (subjectOf kind origin).ref = some last ∧
      HeldWith kind origin manifest last (managedText? (desired kind origin)) := by
  obtain ⟨next, held, hensure, hsame, hnext, hheld⟩ := ends_ensureFinalizer hf hk
  obtain ⟨last, w', hserve, hrecords, hlast, hserved⟩ :=
    ends_serve part hnext hheld.kindred hheld.held
  have hpart := part.kindred hk
  have houtdated : outdated kind origin next = outdated kind origin manifest := by
    rw [outdated, writtenDown, hheld.recorded, outdated, writtenDown]
  refine ⟨last, w', (ends_fetch_seen hf hk).bind ?_, ?_, hlast, hserved.kindred, hserved.held,
    hserved.others.trans hheld.others, hserved.recorded⟩
  · simp only [hpart.stays, hpart.registered, Bool.false_eq_true, if_false, Bool.not_true]
    exact hensure.bind hserve
  · rw [hrecords, hsame, servedRecords, houtdated, servedRecords]

/-- Left in peace, a reconcile brings about what the object asks for. -/
theorem Halfway.settles (h : Halfway kind origin start w)
    (part : TakesPart kind origin defaultTarget target) : ∃ w',
      Ends kind (reconcile (subjectOf kind origin) defaultTarget) w () w' ∧
      Settled kind origin target w' ∧ Halfway kind origin start w' := by
  obtain ⟨manifest, hf, hk, -⟩ := h.stored
  obtain ⟨-, w', hends, -⟩ := ends_reconcile part hf hk
  have htries := Contract.Tries.upheld (converging_reconcile (s := (w, [])) part h) h
  obtain ⟨_, settled, halfway⟩ := hends.keeps h htries
  exact ⟨w', hends, settled, halfway⟩

/-- The hosts that the object has nothing to do with have the records they had. -/
theorem Halfway.untouched (h : Halfway kind origin start w) {host : String}
    (hd : host ∉ desired kind origin) (hw : host ∉ writtenDown origin) :
    recordsOf host w.records = recordsOf host start.records :=
  (h.outside host hd).resolve_right fun hcleared => hw hcleared.1

/-! ## Runs -/

theorem halfway_upheld {first scene : Scene} {events : List Occurrence} (idle : first.IsIdle)
    (part : TakesPart kind origin defaultTarget target)
    (h : Halfway kind origin first.world first.world)
    (run : Run (retries (subjectOf kind origin) defaultTarget) first events scene) :
    Halfway kind origin first.world scene.world := by
  have hstart : ∀ w events started given, Halfway kind origin first.world w →
      (retries (subjectOf kind origin) defaultTarget).start started given →
      (retries (subjectOf kind origin) defaultTarget).Upholds (fun _ _ => True)
        (fun s => Halfway kind origin first.world s.1) (fun _ _ => True)
        (.beginning w started given) (.started started :: events) := by
    rintro w events started given hw ⟨rfl, rfl⟩
    exact ⟨hw, Contract.Secures.mono (converging_reconcile part hw) fun _ _ _ => trivial⟩
  have hu : (retries (subjectOf kind origin) defaultTarget).Upholds (fun _ _ => True)
      (fun s => Halfway kind origin first.world s.1) (fun _ _ => True) scene (events ++ []) :=
    run.upheld idle h (fun _ _ _ _ he => he.elim) hstart
  exact hu.1

end

/-- Worlds that differ in the order of records and in versions alone. -/
structure Alike (w w' : World) : Prop where
  records : w.records.Perm w'.records
  objects : ∀ ref, (w.server.find? ref).map Manifest.unversioned =
    (w'.server.find? ref).map Manifest.unversioned

theorem alike_of_settled {kind : Kind} {origin : Json} {target : String} {start w w' : World}
    (h : Halfway kind origin start w) (settled : Settled kind origin target w)
    (h' : Halfway kind origin start w') (settled' : Settled kind origin target w') :
    Alike w w' := by
  constructor
  · refine perm_of_recordsOf fun host => ?_
    by_cases hd : host ∈ desired kind origin
    · rw [settled.bound host hd, settled'.bound host hd]
    · by_cases hw : host ∈ writtenDown origin
      · rw [settled.pruned host hw hd, settled'.pruned host hw hd]
      · rw [h.untouched hd hw, h'.untouched hd hw]
  · intro ref
    by_cases hr : ref = (subjectOf kind origin).ref
    · obtain ⟨manifest, hf, form⟩ := settled.stored
      obtain ⟨manifest', hf', form'⟩ := settled'.stored
      rw [hr, hf, hf', Option.map_some, Option.map_some, form, form']
    · rw [h.others ref hr, h'.others ref hr]

/-- Reconciles of an object that takes part may fail any number of times, at any call, with or
without its effect. The next one that is left in peace ends without an error in the world that the
first would have made, but for the order of records and for versions: each host asked for has one
record with the target, those asked for no more have none, all others are as they were, and the
object is held with its hosts written down. -/
theorem retries_converge {kind : Kind} {manifest : Json} {object : Object}
    {version defaultTarget target : String} {first scene : Scene} {events : List Occurrence}
    (idle : first.IsIdle) (stored : first.world.server.find? object.ref = some manifest)
    (versioned : Manifest.resourceVersion? manifest = some version)
    (readable : Manifest.read? kind manifest = some object)
    (stays : object.isBeingDeleted = false)
    (registered : Annotations.isRegistered object.annotations = true)
    (asks : desiredHosts object ≠ [])
    (plain : ∀ host ∈ object.declaredHosts, host ∈ desiredHosts object →
      Text.CommaList.IsPlain host)
    (address : Annotations.target? object.annotations defaultTarget = some target)
    (single : OnePerName first.world.records)
    (run : Run (retries ⟨kind, object.ref⟩ defaultTarget) first events scene) :
    ∃ last once, Ends kind (reconcile ⟨kind, object.ref⟩ defaultTarget) scene.world () last ∧
      Ends kind (reconcile ⟨kind, object.ref⟩ defaultTarget) first.world () once ∧
      Alike last once ∧
      (∀ host ∈ desiredHosts object, recordsOf host last.records = [⟨host, target⟩]) ∧
      (∀ host ∈ Annotations.managed object.annotations, host ∉ desiredHosts object →
        recordsOf host last.records = []) ∧
      (∀ host, host ∉ desiredHosts object → host ∉ Annotations.managed object.annotations →
        recordsOf host last.records = recordsOf host first.world.records) ∧
      Held object.ref last ∧ recordedHosts object.ref last = desiredHosts object := by
  obtain ⟨rfl, itself⟩ := Cluster.Manifest.Kindred.itself readable versioned
  have part : TakesPart kind manifest defaultTarget target :=
    ⟨stays, registered, asks, plain_desired plain, address⟩
  have hfirst : Halfway kind manifest first.world first.world :=
    ⟨single, fun _ _ => .inl rfl, fun _ _ => rfl, manifest, stored, itself, .fresh rfl⟩
  have hscene := halfway_upheld idle part hfirst run
  obtain ⟨last, hlast, settled, h⟩ := hscene.settles part
  obtain ⟨once, honce, settled', h'⟩ := hfirst.settles part
  obtain ⟨served, hserved, form⟩ := settled.stored
  have held : Held (Manifest.seen kind manifest).ref last := by
    refine ⟨served, hserved, ?_⟩
    rw [← Cluster.Manifest.finalizers_unversioned, form]
    exact mem_finalizers_servedForm kind manifest
  have written : recordedHosts (Manifest.seen kind manifest).ref last = desired kind manifest := by
    have hrecorded : recorded? (Manifest.seen kind manifest).ref last =
        managedText? (desired kind manifest) := by
      rw [← managed_of_servedForm form]
      exact congrArg (Option.bind · _) hserved
    rw [recordedHosts, hrecorded]
    exact parse_managedText? part.plain (empty_not_mem_desired _)
  exact ⟨last, once, hlast, honce, alike_of_settled h settled h' settled', settled.bound,
    settled.pruned, fun host hd hw => h.untouched hd hw, held, written⟩

/-- A route that asks for two hosts and has given up another one. -/
def movingManifest : Json := ApiServer.stamped "1" (routeManifest
  [(Key.register, "true"), (Key.hosts, "a.local,b.local"), (Key.managedHosts, "old.local")]
  [cleanupFinalizer])

def movingRoute : Object := Manifest.seen .ingress movingManifest

def movingWorld : World :=
  .holding movingManifest [⟨"a.local", "10.0.0.9"⟩, ⟨"old.local", "10.0.0.9"⟩]

/-- The first reconcile breaks off when the first host has lost its record for a better one. -/
theorem retries_converge_of_moving : ∃ events scene,
    Run (retries ⟨.ingress, movingRoute.ref⟩ "10.0.0.1")
      ⟨movingWorld, route, .done (.ok ())⟩ events scene ∧
    scene.world.records = [⟨"old.local", "10.0.0.9"⟩] ∧
    ∃ last once,
      Ends .ingress (reconcile ⟨.ingress, movingRoute.ref⟩ "10.0.0.1") scene.world () last ∧
      Ends .ingress (reconcile ⟨.ingress, movingRoute.ref⟩ "10.0.0.1") movingWorld () once ∧
      Alike last once ∧
      (∀ host ∈ desiredHosts movingRoute, recordsOf host last.records = [⟨host, "10.0.0.1"⟩]) ∧
      (∀ host ∈ Annotations.managed movingRoute.annotations, host ∉ desiredHosts movingRoute →
        recordsOf host last.records = []) ∧
      (∀ host, host ∉ desiredHosts movingRoute →
        host ∉ Annotations.managed movingRoute.annotations →
        recordsOf host last.records = recordsOf host movingWorld.records) ∧
      Held movingRoute.ref last ∧
      recordedHosts movingRoute.ref last = desiredHosts movingRoute := by
  have idle : Scene.IsIdle ⟨movingWorld, route, .done (.ok ())⟩ := ⟨_, rfl⟩
  have stored : movingWorld.server.find? movingRoute.ref = some movingManifest := rfl
  have versioned : Manifest.resourceVersion? movingManifest = some "1" := by decide +kernel
  have readable : Manifest.read? .ingress movingManifest = some movingRoute := rfl
  have stays : movingRoute.isBeingDeleted = false := by decide +kernel
  have registered : Annotations.isRegistered movingRoute.annotations = true := by decide +kernel
  have asks : desiredHosts movingRoute ≠ [] := by decide +kernel
  have plain : ∀ host ∈ movingRoute.declaredHosts, host ∈ desiredHosts movingRoute →
      Text.CommaList.IsPlain host := by
    have none : movingRoute.declaredHosts = [] := by decide +kernel
    simp [none]
  have address : Annotations.target? movingRoute.annotations "10.0.0.1" = some "10.0.0.1" := by
    decide +kernel
  have empty : OnePerName [] := fun _ => Nat.zero_le 1
  have single : OnePerName movingWorld.records :=
    (empty.create (r := ⟨"a.local", "10.0.0.9"⟩) rfl).create (r := ⟨"old.local", "10.0.0.9"⟩)
      (by decide)
  have start : (retries ⟨.ingress, movingRoute.ref⟩ "10.0.0.1").start
      ⟨.ingress, movingRoute.ref⟩ "10.0.0.1" := ⟨rfl, rfl⟩
  have run := (Run.step .none (.started idle start)).trans
    (.played _ _ _ _ [.answered, .answered, .answered, .refused])
  have converged := @retries_converge .ingress movingManifest movingRoute "1" "10.0.0.1" "10.0.0.1"
    _ _ _ idle stored versioned readable stays registered asks plain address single run
  exact ⟨_, _, run, by decide +kernel, converged⟩

end ClusterDns.Reconcile
