import ClusterDns.Proofs.Cluster.Remainder
import ClusterDns.Proofs.Reconcile.Custody

/-! No update of an object is lost. Others may edit objects between any two calls of a reconcile. A
patch is made from the object that was read last, and it names the version read: it finds that very
manifest, or it is refused. So what others have written is at any time what their edits alone would
have made. -/

namespace ClusterDns.Reconcile

open Cluster (Kind Object ObjectRef Manifest.read? Manifest.amend Manifest.remainder
  Manifest.same_remainder_written Manifest.same_remainder_mergePatch Manifest.remainder_stamped
  Manifest.same_remainder_finalizers Manifest.same_remainder_managed Manifest.Kindred
  Manifest.seen Manifest.finalizers Manifest.resourceVersion?)
open Json (Same)
open PiHole (Record Store.list Store.create Store.delete)
open Rehearsal

/-! ## The object in hand -/

/-- The object an answer gives. -/
def given : Occurrence → Option Object
  | .called (.fetch _) _ (.ok found) => found
  | .called (.patch ..) _ (.ok found) => found
  | _ => none

/-- The object the reconcile under way was given last. -/
def inHand (events : List Occurrence) : Option Object :=
  (Occurrence.current events).findSome? given

theorem inHand_cons_of_none {event : Occurrence} (h : given event = none)
    (hs : ∀ subject, event ≠ .started subject) (events : List Occurrence) :
    inHand (event :: events) = inHand events := by
  cases event with
  | started subject => exact absurd rfl (hs subject)
  | _ => simp [inHand, Occurrence.current, h]

/-- Reconciles of one object, while others may do anything at any time. -/
def besieged (subject : Subject) : Rules where
  edit w w' := w.server.Becomes w'.server
  anytime := True
  start started _ := started = subject

/-! ## Patches are made from the object in hand -/

section

variable {subject : Subject} {s t : Moment} {manifest : Json} {object : Object}
  {P : Moment → Prop}

/-- The object in hand was read from a manifest that is pinned by its version. -/
structure Grasped (subject : Subject) (manifest : Json) (object : Object) (s : Moment) : Prop
    extends Known subject manifest s where
  given : inHand s.2 = some object

/-- A patch names the version of the object in hand, and of what others have written in it the
patch changes nothing. -/
def Faithful (subject : Subject) (body : Json) (s : Moment) : Prop :=
  ∃ manifest object members, Manifest.read? subject.kind manifest = some object ∧
    Grasped subject manifest object s ∧ body = metadataPatch object members ∧
    Same (Manifest.remainder (Manifest.amend manifest members)) (Manifest.remainder manifest)

/-- Every patch is faithful. -/
def PatchesFaithfully (subject : Subject) (q : Request) (s : Moment) : Prop :=
  ∀ place body, q = .patch place body → Faithful subject body s

abbrev faithfulness (subject : Subject) : Contract Surroundings Moment :=
  (besieged subject).contract subject.kind (PatchesFaithfully subject)
    (fun s => s.1.server.Versioned)

/-- What outlasts edits, and calls that neither change objects nor give one. -/
structure Steady (subject : Subject) (P : Moment → Prop) : Prop where
  lasting : (besieged subject).Lasting P
  call : ∀ w w' events q fate r, w'.server = w.server → given (.called q fate r) = none →
    P (w, events) → P (w', .called q fate r :: events)

theorem steady_grasped : Steady subject (Grasped subject manifest object) := by
  constructor
  · rintro s t ⟨-, hb, he⟩ ⟨⟨hv, hp⟩, hg⟩
    refine ⟨⟨hb.versioned hv, hb.pinned hv hp⟩, ?_⟩
    rw [he, inHand_cons_of_none rfl (fun _ => Occurrence.noConfusion), hg]
  · rintro w w' events q fate r hw hnone ⟨⟨hv, hp⟩, hg⟩
    refine ⟨⟨hw ▸ hv, ?_⟩, ?_⟩
    · rw [hw]
      exact hp
    · rw [inHand_cons_of_none hnone (fun _ => Occurrence.noConfusion), hg]

theorem steady_true : Steady subject fun _ => True :=
  ⟨fun _ _ _ _ => trivial, fun _ _ _ _ _ _ _ _ _ => trivial⟩

/-- A call that is no patch changes no object. -/
theorem faithful_call {q : Request} (hq : ∀ place body, q ≠ .patch place body)
    (hs : ∀ kind, (t.1.answer kind q).2.server = t.1.server) (hi : t.1.server.Versioned) :
    PatchesFaithfully subject q t ∧
      ∀ fate r w, t.1.Answers subject.kind q fate r w → w.server.Versioned := by
  refine ⟨fun place body he => absurd he (hq place body), fun fate r w hw => ?_⟩
  rw [server_of_answers (hs _) hw]
  exact hi

theorem faithful_list (hP : Steady subject P) (h : P s) :
    (faithfulness subject).Tries (onStore .list Store.list) (fun _ => P) s := by
  refine tries_list fun t hd hi => ?_
  obtain ⟨ha, hn⟩ := faithful_call (q := .dns .list) (by rintro _ _ ⟨⟩) (fun _ => rfl) hi
  exact ⟨ha, hn, hP.call t.1 _ t.2 _ _ _ rfl rfl (hP.lasting.drift hd h)⟩

theorem faithful_create (hP : Steady subject P) {step : StoreStep} {r : Record} (h : P s) :
    (faithfulness subject).Tries (onStore step (Store.create r)) (fun _ => P) s := by
  refine tries_create fun t hd hi => ?_
  obtain ⟨ha, hn⟩ := faithful_call (q := .dns (.create r)) (by rintro _ _ ⟨⟩) (fun _ => rfl) hi
  exact ⟨ha, hn, hP.call t.1 _ t.2 _ _ _ rfl rfl (hP.lasting.drift hd h)⟩

theorem faithful_delete (hP : Steady subject P) {step : StoreStep} {domain : String} (h : P s) :
    (faithfulness subject).Tries (onStore step (Store.delete domain)) (fun _ => P) s := by
  refine tries_delete fun t hd hi => ?_
  obtain ⟨ha, hn⟩ := faithful_call (q := .dns (.delete domain)) (by rintro _ _ ⟨⟩) (fun _ => rfl) hi
  exact ⟨ha, hn, hP.call t.1 _ t.2 _ _ _ rfl rfl (hP.lasting.drift hd h)⟩

theorem faithful_syncHosts {target : String} {hosts : List String} :
    (faithfulness subject).Tries (syncHosts subject target hosts) (fun _ _ => True) s := by
  have steady : Steady subject fun _ => True := steady_true
  refine Contract.Tries.bind (Contract.Tries.mono (faithful_list steady trivial) fun _ t _ => ?_)
  refine Contract.Tries.mono (tries_bindHosts (P := fun _ _ => True)
    (fun _ _ _ _ _ => trivial) ?_ trivial) fun _ _ _ => trivial
  intro host _ b u _ hb
  cases hg : b.get? host with
  | none => exact faithful_create steady trivial
  | some address =>
    rw [onStore_rebind fun he => hb (hg.trans (congrArg some he))]
    refine Contract.Tries.bind (Contract.Tries.mono (faithful_delete steady trivial) ?_)
    exact fun _ v _ => faithful_create steady trivial

theorem faithful_deleteHosts (hP : Steady subject P) {noted : Subject} {hosts : List String}
    (h : P s) : (faithfulness subject).Tries (deleteHosts noted hosts) (fun _ => P) s :=
  tries_deleteHosts (P := fun _ => P) (fun _ => hP.lasting)
    (fun _ _ _ _ _ ht => faithful_delete hP ht) h

theorem faithful_fetch {post : Option Object → Moment → Prop} (missing : ∀ t, post none t)
    (hp : ∀ t manifest found, Manifest.read? subject.kind manifest = some found →
      Grasped subject manifest found t → post (some found) t) :
    (faithfulness subject).Tries (fetch subject.ref) post s := by
  refine tries_fetch fun t hd hi => ?_
  obtain ⟨ha, hn⟩ := faithful_call (q := .fetch subject.ref) (by rintro _ _ ⟨⟩) (fun _ => rfl) hi
  refine ⟨ha, hn, fun found hf => ?_⟩
  cases found with
  | none => exact missing _
  | some object =>
    obtain ⟨stored, hstored, hr⟩ := World.fetch_eq_ok hf
    exact hp _ stored object hr ⟨⟨hi, hi.pinned _ _ hstored⟩, rfl⟩

theorem faithful_patch {place : ObjectRef} {members : Json.Members}
    {post : Option Object → Moment → Prop} (hg : Grasped subject manifest object s)
    (hr : Manifest.read? subject.kind manifest = some object)
    (hsame : Same (Manifest.remainder (Manifest.amend manifest members))
      (Manifest.remainder manifest)) (hp : ∀ found t, post found t) :
    (faithfulness subject).Tries (patch place (metadataPatch object members)) post s := by
  refine tries_patch fun t hd hi => ?_
  replace hg := steady_grasped.lasting.drift hd hg
  refine ⟨?_, fun fate r w hw => ?_, fun found _ => hp found _⟩
  · rintro _ _ ⟨⟩
    exact ⟨manifest, object, members, hr, hg, rfl, hsame⟩
  · refine hw.leaves (P := fun next => next.server.Versioned) hi ?_
    rcases World.patch_cases hg.pinned hr place members with ⟨hsame, -⟩ | ⟨-, -, he⟩
    · rw [show (t.1.answer subject.kind (.patch place (metadataPatch object members))).2 = t.1 from
        hsame]
      exact hi
    · rw [show (t.1.answer subject.kind (.patch place (metadataPatch object members))).2 = _ from
        congrArg Prod.snd he]
      exact (ApiServer.becomes_afterPatch ..).versioned hi

/-! ## What a reconcile patches -/

/-- What is known of an object that was read. -/
theorem Grasped.kindred (hg : Grasped subject manifest object s)
    (hr : Manifest.read? subject.kind manifest = some object) :
    object = Manifest.seen subject.kind manifest ∧
      Manifest.Kindred subject.kind manifest manifest := by
  obtain ⟨n, -, hv, -⟩ := hg.pinned
  exact Manifest.Kindred.itself hr hv

theorem faithful_cleanup (hg : Grasped subject manifest object s)
    (hr : Manifest.read? subject.kind manifest = some object) :
    (faithfulness subject).Tries (cleanup subject.kind object) (fun _ _ => True) s := by
  refine tries_cleanup (Contract.Tries.mono (faithful_deleteHosts steady_grasped hg) ?_)
  refine fun _ t ht => ⟨fun _ => trivial, fun _ u hu => ?_⟩
  replace ht := steady_grasped.lasting.drift hu ht
  refine faithful_patch ht hr ?_ fun _ _ => trivial
  -- other finalizers stay in their order, and only the one annotation goes
  obtain ⟨rfl, hk⟩ := ht.kindred hr
  have hothers : ((Manifest.seen subject.kind manifest).finalizers.filter
      (· ≠ cleanupFinalizer)).filter (· ≠ cleanupFinalizer) =
        (Manifest.finalizers manifest).filter (· ≠ cleanupFinalizer) := by
    rw [List.filter_filter]
    simp only [Bool.and_self]
    rfl
  rw [Cluster.Manifest.amend_cons]
  exact (Manifest.same_remainder_managed (hk.legible.amend_finalizers _) none).trans
    (Manifest.same_remainder_finalizers hk.legible hothers)

theorem faithful_release {reason : Event} (hg : Grasped subject manifest object s)
    (hr : Manifest.read? subject.kind manifest = some object) :
    (faithfulness subject).Tries (release subject reason object) (fun _ _ => True) s :=
  tries_release (fun _ => trivial)
    fun _ _ ht => faithful_cleanup (steady_grasped.lasting.drift ht hg) hr

theorem faithful_ensureFinalizer (hg : Grasped subject manifest object s)
    (hr : Manifest.read? subject.kind manifest = some object) :
    (faithfulness subject).Tries (ensureFinalizer subject.kind object cleanupFinalizer)
      (fun _ _ => True) s := by
  refine tries_ensureFinalizer (fun _ => trivial) fun _ t ht => ?_
  replace hg := steady_grasped.lasting.drift ht hg
  refine faithful_patch hg hr ?_ fun _ _ => trivial
  obtain ⟨rfl, hk⟩ := hg.kindred hr
  refine Manifest.same_remainder_finalizers hk.legible ?_
  rw [List.filter_append]
  simp [Object.finalizers]
  rfl

theorem faithful_writeManaged {hosts : List String} :
    (faithfulness subject).Tries (writeManaged subject hosts) (fun _ _ => True) s := by
  refine tries_writeManaged (faithful_fetch (fun t => ?_) fun t manifest latest hr hg => ?_)
  · exact fun _ _ => trivial
  · refine ⟨fun _ => trivial, fun _ => faithful_patch hg hr ?_ fun _ _ => trivial⟩
    obtain ⟨rfl, hk⟩ := hg.kindred hr
    exact Manifest.same_remainder_managed hk.legible _

theorem faithful_serve {defaultTarget : String} :
    (faithfulness subject).Tries (serve subject defaultTarget object) (fun _ _ => True) s := by
  refine tries_serve (fun _ _ _ => trivial) fun target _ _ => ?_
  refine Contract.Tries.mono faithful_syncHosts fun _ t _ => ?_
  refine Contract.Tries.mono (faithful_deleteHosts steady_true trivial) fun _ u _ => ?_
  exact Contract.Tries.mono faithful_writeManaged fun _ _ _ _ _ => trivial

theorem faithful_reconcile {defaultTarget : String} :
    (faithfulness subject).Tries (reconcile subject defaultTarget) (fun _ _ => True) s := by
  refine tries_reconcile (faithful_fetch (fun t => ?_) fun t manifest object hr hg => ?_)
  · exact fun _ _ => trivial
  · refine ⟨fun _ _ => faithful_release hg hr, fun _ _ => ?_⟩
    refine Contract.Tries.mono (faithful_ensureFinalizer hg hr) fun held u _ => ?_
    cases held with
    | none => trivial
    | some next => exact faithful_serve

end

/-! ## Edits beside a run -/

/-- Reconciles of one object. At any time others may change records. -/
def ownObject (subject : Subject) : Rules where
  edit w w' := w'.server = w.server
  anytime := True
  start started _ := started = subject

/-- A run in which others edit objects, whether a reconcile is under way or not. The edits so far
come with it, the last one first. -/
inductive EditedRun (subject : Subject) (first : Scene) :
    List Edit → List Occurrence → Scene → Prop
  | none : EditedRun subject first [] [] first
  | edited {edits : List Edit} {events : List Occurrence} {scene : Scene} (change : Edit) :
      EditedRun subject first edits events scene →
      EditedRun subject first (change :: edits) (.edited :: events)
        { scene with world := { scene.world with server := scene.world.server.edit change } }
  | step {edits : List Edit} {events observed : List Occurrence} {scene next : Scene} :
      EditedRun subject first edits events scene → Step (ownObject subject) scene observed next →
      EditedRun subject first edits (observed ++ events) next

theorem EditedRun.besieged {subject : Subject} {first scene : Scene} {edits : List Edit}
    {events : List Occurrence} (run : EditedRun subject first edits events scene) :
    Run (besieged subject) first events scene := by
  induction run with
  | none => exact .none
  | @edited _ _ scene change _ ih =>
    have hb : (Reconcile.besieged subject).edit scene.world
        { scene.world with server := scene.world.server.edit change } :=
      scene.world.server.becomes_edit change
    exact ih.step (.edited (.inl trivial) hb)
  | @step _ _ _ scene next _ hs ih =>
    refine ih.step ?_
    cases hs with
    | @edited _ world hwhen he =>
      have hserver : world.server = scene.world.server := he
      have hb : (Reconcile.besieged subject).edit scene.world world := by
        show scene.world.server.Becomes world.server
        rw [hserver]
        exact .itself
      exact .edited hwhen hb
    | started idle hr => exact .started idle hr
    | asked ha => exact .asked ha

theorem EditedRun.trans {subject : Subject} {first scene last : Scene} {edits : List Edit}
    {events more : List Occurrence} (run : EditedRun subject first edits events scene)
    (rest : Run (ownObject subject) scene more last) :
    EditedRun subject first edits (more ++ events) last := by
  induction rest with
  | none => exact run
  | step _ hs ih =>
    rw [List.append_assoc]
    exact ih.step hs

/-- The server as edits alone leave it. -/
def editedAlone (server : ApiServer) (edits : List Edit) : ApiServer :=
  edits.foldr (fun change next => next.edit change) server

/-- What others have written of each stored object is what they have written of it there. -/
def Mirrors (server other : ApiServer) : Prop :=
  ∀ ref stored, server.find? ref = some stored → ∃ alone, other.find? ref = some alone ∧
    Same (Manifest.remainder stored) (Manifest.remainder alone)

section

variable {server other : ApiServer} {subject : Subject}

theorem Mirrors.refl (server : ApiServer) : Mirrors server server :=
  fun _ stored hf => ⟨stored, hf, fun _ => rfl⟩

theorem Mirrors.write (h : Mirrors server other) (ref : ObjectRef) {manifest alone : Json}
    (hsame : Same (Manifest.remainder manifest) (Manifest.remainder alone)) :
    Mirrors (server.write ref manifest).2 (other.write ref alone).2 := by
  intro place stored hf
  rw [ApiServer.find?_write] at hf ⊢
  split at hf
  · rename_i hp
    cases hf
    refine ⟨_, if_pos hp, ?_⟩
    rw [Manifest.remainder_stamped, Manifest.remainder_stamped]
    exact hsame
  · rename_i hp
    rw [if_neg hp]
    exact h place stored hf

/-- An edit does the same in both places. -/
theorem Mirrors.edit (h : Mirrors server other) (change : Edit) :
    Mirrors (server.edit change) (other.edit change) := by
  cases change with
  | put manifest => exact h.write _ fun _ => rfl
  | remove ref =>
    intro place stored hf
    rw [ApiServer.edit, ApiServer.find?_remove] at hf ⊢
    split at hf
    · cases hf
    · rename_i hp
      rw [if_neg hp]
      exact h place stored hf
  | merge ref patch =>
    cases hf : server.find? ref with
    | some stored =>
      obtain ⟨alone, ha, hsame⟩ := h ref stored hf
      simp only [ApiServer.edit, hf, ha]
      exact h.write ref (Manifest.same_remainder_mergePatch hsame patch)
    | none =>
      intro place stored hp
      simp only [ApiServer.edit, hf] at hp
      obtain ⟨alone, ha, hsame⟩ := h place stored hp
      refine ⟨alone, ?_, hsame⟩
      -- where the object is gone an edit of it misses it, and no other object
      have hne : place ≠ ref := by
        rintro rfl
        rw [hf] at hp
        cases hp
      rw [ApiServer.edit]
      split
      · exact ha
      · rw [ApiServer.find?_write, if_neg hne]
        exact ha

theorem Mirrors.afterPatch (h : Mirrors server other) {ref : ObjectRef} {manifest : Json}
    (hf : server.find? ref = some manifest) {object : Object} {members : Json.Members}
    (hsame : Same (Manifest.remainder (Manifest.amend manifest members))
      (Manifest.remainder manifest)) :
    Mirrors (server.afterPatch ref manifest (metadataPatch object members)) other := by
  intro place stored hp
  rw [ApiServer.find?_afterPatch] at hp
  split at hp
  · rename_i he
    subst he
    split at hp
    · cases hp
    · cases hp
      obtain ⟨alone, ha, hmirror⟩ := h place manifest hf
      exact ⟨alone, ha, (Manifest.same_remainder_written hsame _ object).trans hmirror⟩
  · exact h place stored hp

/-- A call by the reconcile changes nothing of what others have written. -/
theorem Mirrors.call {w w' : World} (h : Mirrors w.server other) {q : Request}
    {events : List Occurrence} (hq : PatchesFaithfully subject q (w, events)) {kind : Kind}
    {fate : Fate} {r : q.Answer} (ha : w.Answers kind q fate r w') : Mirrors w'.server other := by
  refine ha.leaves (P := fun next => Mirrors next.server other) h ?_
  cases q with
  | patch place body =>
    obtain ⟨manifest, object, members, hr, hg, rfl, hsame⟩ := hq place body rfl
    have hkind : (w.answer kind (.patch place (metadataPatch object members))).2 =
        (w.patch subject.kind place (metadataPatch object members)).2 := rfl
    rw [hkind]
    rcases World.patch_cases hg.pinned hr place members with ⟨hsame, -⟩ | ⟨rfl, hf, he⟩
    · rw [show (w.patch subject.kind place (metadataPatch object members)).2 = w from hsame]
      exact h
    · rw [show w.patch subject.kind subject.ref (metadataPatch object members) = _ from he]
      exact h.afterPatch hf hsame
  | _ => exact h

theorem faithful_upheld {first scene : Scene} {events : List Occurrence} (idle : first.IsIdle)
    (versioned : first.world.server.Versioned)
    (run : Run (besieged subject) first events scene) :
    (besieged subject).Upholds (PatchesFaithfully subject) (fun s => s.1.server.Versioned)
      (fun _ _ => True) scene events := by
  have hstart : ∀ w events started target, w.server.Versioned →
      (besieged subject).start started target →
      (besieged subject).Upholds (PatchesFaithfully subject) (fun s => s.1.server.Versioned)
        (fun _ _ => True) (.beginning w started target) (.started started :: events) := by
    rintro w events started target h rfl
    exact ⟨h, Contract.Secures.mono faithful_reconcile fun _ _ _ => trivial⟩
  have hedit : ∀ (w w' : World) (_ : List Occurrence), w.server.Versioned →
      (besieged subject).edit w w' → w'.server.Versioned :=
    fun w w' _ h (he : w.server.Becomes w'.server) => he.versioned h
  have hu : (besieged subject).Upholds (PatchesFaithfully subject)
      (fun s => s.1.server.Versioned) (fun _ _ => True) scene (events ++ []) :=
    run.upheld idle versioned hedit hstart
  rwa [List.append_nil] at hu

theorem EditedRun.mirrors {first scene : Scene} {edits : List Edit} {events : List Occurrence}
    (idle : first.IsIdle) (versioned : first.world.server.Versioned)
    (run : EditedRun subject first edits events scene) :
    Mirrors scene.world.server (editedAlone first.world.server edits) := by
  induction run with
  | none => exact .refl _
  | edited change _ ih => exact ih.edit change
  | @step edits events _ scene _ before hs ih =>
    cases hs with
    | @edited _ world _ he =>
      have hserver : world.server = scene.world.server := he
      rw [hserver]
      exact ih
    | started _ _ => exact ih
    | @asked w _ _ q _ _ _ ha =>
      obtain ⟨hv, hp⟩ := faithful_upheld idle versioned before.besieged
      have hq : PatchesFaithfully subject q (w, events) := by
        rintro place body rfl
        exact (hp _ .refl hv).1 trivial place body rfl
      exact ih.call hq ha

end

/-- Others may edit objects between any two calls of the reconciles of one object, and calls may
fail. What they have written of an object is then, as long as it is stored, what their edits alone
would have made of it. And a patch that a reconcile is about to make comes of the object in hand
and names its version: if that is superseded, the answer is a conflict, and nothing changes. -/
theorem edits_survive {subject : Subject} {first scene : Scene} {edits : List Edit}
    {events : List Occurrence} (idle : first.IsIdle) (versioned : first.world.server.Versioned)
    (run : EditedRun subject first edits events scene) :
    (∀ ref stored, scene.world.server.find? ref = some stored →
      ∃ alone, (editedAlone first.world.server edits).find? ref = some alone ∧
        Same (Manifest.remainder stored) (Manifest.remainder alone)) ∧
    ∀ place body next, scene.rest = .ask (I := Surroundings) (.patch place body) next →
      ∃ object version, inHand events = some object ∧ object.resourceVersion? = some version ∧
        Manifest.resourceVersion? body = some version ∧
        ∀ stored, scene.world.server.find? place = some stored →
          Manifest.resourceVersion? stored ≠ some version →
          scene.world.patch scene.subject.kind place body =
            (.error (.conflict (ApiServer.staleMessage version)), scene.world) := by
  refine ⟨run.mirrors idle versioned, fun place body next hrest => ?_⟩
  obtain ⟨hv, hp⟩ := faithful_upheld idle versioned run.besieged
  rw [hrest] at hp
  obtain ⟨manifest, object, members, hr, hg, rfl, -⟩ := (hp _ .refl hv).1 trivial place body rfl
  obtain ⟨n, -, hversion, -⟩ := hg.pinned
  have hobject := (hg.pinned.version hr).trans hversion
  have hbody := (Cluster.Manifest.resourceVersion?_metadataPatch object members).trans hobject
  refine ⟨object, _, hg.given, hobject, hbody, fun stored hf hne => ?_⟩
  have hstale : ApiServer.staleVersion? stored (metadataPatch object members) =
      some (scene.world.server.version n) := by
    rw [ApiServer.staleVersion?, hbody]
    simpa using hne
  simp only [World.patch, ApiServer.applyPatch, hf, hstale]

/-- A route that takes part and is held by somebody else. -/
def sharedWorld : World :=
  .holding (routeManifest [(Key.register, "true"), (Key.hosts, "app.local")] ["other/guard"]) []

def labelled : Edit := .merge route.ref (.object [("metadata",
  .object [("labels", .object [("team", .string "edge")])])])

/-- Somebody labels the route when the reconcile has it in hand to write its host down. -/
theorem edits_survive_of_labelled : ∃ events scene,
    EditedRun route ⟨sharedWorld, route, .done (.ok ())⟩ [labelled] events scene ∧
    Held route.ref scene.world ∧
    (∃ body next, scene.rest = .ask (I := Surroundings) (.patch route.ref body) next) ∧
    (∀ ref stored, scene.world.server.find? ref = some stored →
      ∃ alone, (editedAlone sharedWorld.server [labelled]).find? ref = some alone ∧
        Same (Manifest.remainder stored) (Manifest.remainder alone)) ∧
    ∀ place body next, scene.rest = .ask (I := Surroundings) (.patch place body) next →
      ∃ object version, inHand events = some object ∧ object.resourceVersion? = some version ∧
        Manifest.resourceVersion? body = some version ∧
        ∀ stored, scene.world.server.find? place = some stored →
          Manifest.resourceVersion? stored ≠ some version →
          scene.world.patch scene.subject.kind place body =
            (.error (.conflict (ApiServer.staleMessage version)), scene.world) := by
  have idle : Scene.IsIdle ⟨sharedWorld, route, .done (.ok ())⟩ := ⟨_, rfl⟩
  have versioned : sharedWorld.server.Versioned := World.versioned_holding _ _
  have start : (ownObject route).start route "10.0.0.1" := rfl
  have before := Run.after (ownObject route) 8 (.beginning sharedWorld route "10.0.0.1")
  have run := ((EditedRun.none.step (.started idle start)).trans before).edited labelled
  exact ⟨_, _, run, by decide +kernel, ⟨_, _, rfl⟩, edits_survive idle versioned run⟩

end ClusterDns.Reconcile
