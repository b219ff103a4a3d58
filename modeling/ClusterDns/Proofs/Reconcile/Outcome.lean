import ClusterDns.Proofs.Rehearsal.Estate

/-! What a reconcile that nobody disturbs leaves behind, record for record. The object and its plan
tell the list of records at the end, also where names have more than one, and what the manifest
says of the object's finalizers and its hosts. -/

namespace ClusterDns.Reconcile

open Cluster (Kind Object Manifest.seen Manifest.finalizers Manifest.written Manifest.annotation?
  Manifest.Kindred Manifest.annotationMember Manifest.isBeingDeleted)
open PiHole (Record)
open Rehearsal

/-! ## Binding, name by name -/

/-- The records of a name after its turn: its first record makes way for a new one at the end,
unless it has the address already. -/
def turned (target domain : String) (records : List Record) : List Record :=
  if records.head?.map (·.address) = some target then records
  else records.tail ++ [⟨domain, target⟩]

section

variable {target domain host : String} {hosts : List String} {b : Bindings}
  {records : List Record}

theorem filter_rebound (chosen : String → Bool) {r : Record} (h : chosen r.domain = false)
    (bound : Option String) (records : List Record) :
    (rebound r bound records).filter (chosen ·.domain) = records.filter (chosen ·.domain) := by
  unfold rebound
  split <;> simp [filter_removeFirst, h]

/-- Records of other names stay as they are. -/
theorem filter_boundAll (chosen : String → Bool) (h : ∀ host ∈ hosts, chosen host = false)
    (b : Bindings) (records : List Record) :
    (boundAll target hosts b records).filter (chosen ·.domain) =
      records.filter (chosen ·.domain) := by
  induction hosts generalizing b records with
  | nil => rfl
  | cons host rest ih =>
    obtain ⟨hhost, hrest⟩ := List.forall_mem_cons.mp h
    rw [boundAll]
    split
    · exact ih hrest b records
    · rw [ih hrest, filter_rebound chosen (r := ⟨host, target⟩) hhost]

theorem recordsOf_boundAll_of_not_mem (h : domain ∉ hosts) (b : Bindings)
    (records : List Record) :
    recordsOf domain (boundAll target hosts b records) = recordsOf domain records := by
  refine filter_boundAll (· = domain) (fun host hh => ?_) b records
  simp only [decide_eq_false_iff_not]
  rintro rfl
  exact h hh

theorem recordsOf_rebound (hb : b.get? host = (recordsOf host records).head?.map (·.address)) :
    recordsOf host (rebound ⟨host, target⟩ (b.get? host) records) =
      (recordsOf host records).tail ++ [⟨host, target⟩] := by
  rw [hb, rebound]
  cases hr : recordsOf host records with
  | nil => simp [recordsOf_create, hr]
  | cons r rest => simp [recordsOf_create, recordsOf_removeFirst, hr]

theorem recordsOf_boundAll (nodup : hosts.Nodup)
    (hb : ∀ host ∈ hosts, b.get? host = (recordsOf host records).head?.map (·.address))
    (hh : host ∈ hosts) :
    recordsOf host (boundAll target hosts b records) =
      turned target host (recordsOf host records) := by
  induction hosts generalizing b records with
  | nil => cases hh
  | cons first rest ih =>
    obtain ⟨hnot, hrest⟩ := List.nodup_cons.mp nodup
    obtain ⟨hfirst, hlater⟩ := List.forall_mem_cons.mp hb
    rw [boundAll]
    split
    · rename_i hbound
      rcases List.mem_cons.mp hh with rfl | hh
      · rw [recordsOf_boundAll_of_not_mem hnot, turned, ← hfirst, if_pos hbound]
      · exact ih hrest hlater hh
    · rename_i hother
      rcases List.mem_cons.mp hh with rfl | hh
      · rw [recordsOf_boundAll_of_not_mem hnot, recordsOf_rebound hfirst, turned, ← hfirst,
          if_neg hother]
      · have hsame : ∀ other ∈ rest, recordsOf other
            (rebound ⟨first, target⟩ (b.get? first) records) = recordsOf other records := by
          intro other ho
          refine filter_rebound (· = other) ?_ _ records
          simp only [decide_eq_false_iff_not]
          rintro rfl
          exact hnot ho
        have hlater' : ∀ other ∈ rest, (b.set first target).get? other =
            (recordsOf other (rebound ⟨first, target⟩ (b.get? first) records)).head?.map
              (·.address) := by
          intro other ho
          have hne : other ≠ first := fun he => hnot (he ▸ ho)
          rw [get?_set, if_neg hne, hlater other ho, hsame other ho]
        rw [ih hrest hlater' hh, hsame host hh]

end

/-- Each host that is served has had its turn. -/
theorem recordsOf_servedRecords {kind : Kind} {origin : Json} (manifest : Json)
    {host : String} (hh : host ∈ desired kind origin) (target : String) (records : List Record) :
    recordsOf host (servedRecords kind origin manifest target records) =
      turned target host (recordsOf host records) := by
  have hkept : host ∉ outdated kind origin manifest := fun h => (mem_outdated.mp h).2 hh
  rw [servedRecords, recordsOf_removeAll_of_not_mem hkept]
  exact recordsOf_boundAll (nodup_distinct _) (fun other _ => accounts_ofRecords records other) hh

/-- A name that is bound once at the most has the one record of its turn. -/
theorem turned_eq {target host : String} {records : List Record} (single : OnePerName records) :
    turned target host (recordsOf host records) = [⟨host, target⟩] := by
  unfold turned
  split
  · rename_i haddress
    exact single.eq_singleton haddress
  · rw [single.tail_eq, List.nil_append]

/-! ## What a plan leaves -/

namespace Plan

/-- The list of records at the end. -/
def recordsLeft (kind : Kind) (origin : Json) (records : List Record) : Plan → List Record
  | nothing => records
  | release => removeAll (writtenDown origin) records
  | hold => records
  | serve target => servedRecords kind origin origin target records

/-- The hosts as they are written down at the end. -/
def textLeft? (kind : Kind) (origin : Json) : Plan → Option String
  | nothing => Manifest.annotation? origin Key.managedHosts
  | release => none
  | hold => Manifest.annotation? origin Key.managedHosts
  | serve _ => managedText? (desired kind origin)

/-- Whether the object is held at the end. -/
def IsHolding : Plan → Prop
  | nothing => False
  | release => False
  | hold => True
  | serve _ => True

end Plan

/-- With no name bound twice, a plan tells the records of each of its hosts. -/
theorem Plan.recordsOf_recordsLeft {kind : Kind} {origin : Json} {records : List Record}
    (single : OnePerName records) (todo : Plan) (host : String) :
    recordsOf host (todo.recordsLeft kind origin records) =
      todo.recordsAfter kind origin host (recordsOf host records) := by
  cases todo with
  | nothing => rfl
  | hold => rfl
  | release => exact single.recordsOf_removeAll _ _
  | serve target =>
    by_cases hd : host ∈ desired kind origin
    · rw [Plan.recordsLeft, Plan.recordsAfter, if_pos hd, recordsOf_servedRecords origin hd,
        turned_eq single]
    · rw [Plan.recordsLeft, Plan.recordsAfter, if_neg hd, servedRecords]
      by_cases hw : host ∈ writtenDown origin
      · have hsingle : ∀ other ∈ outdated kind origin origin,
            (recordsOf other (boundAll target (desired kind origin) (.ofRecords records)
              records)).length ≤ 1 := by
          intro other ho
          rw [recordsOf_boundAll_of_not_mem (mem_outdated.mp ho).2]
          exact single other
        have hout := mem_outdated.mpr ⟨hw, hd⟩
        rw [if_pos hw, removeAll_eq_filter hsingle, recordsOf, List.filter_filter,
          List.filter_eq_nil_iff]
        rintro r - hr
        simp only [Bool.and_eq_true, decide_eq_true_eq] at hr
        exact hr.2 (hr.1 ▸ hout)
      · have hkept : host ∉ outdated kind origin origin := fun h => hw (mem_outdated.mp h).1
        rw [if_neg hw, recordsOf_removeAll_of_not_mem hkept, recordsOf_boundAll_of_not_mem hd]

/-- What the manifest at the end has in common with the one at the beginning, and what the plan
says of it. -/
structure Left (kind : Kind) (origin : Json) (todo : Plan) (last : Json) : Prop where
  kindred : Manifest.Kindred kind origin last
  held : cleanupFinalizer ∈ Manifest.finalizers last ↔ todo.IsHolding
  others : remainingFinalizers last = remainingFinalizers origin
  recorded : Manifest.annotation? last Key.managedHosts = todo.textLeft? kind origin

/-- A reconcile that nobody disturbs ends without an error, and its plan tells what is left. The
object is gone only if it is released while it is being deleted, and nobody else holds it. -/
structure Outcome (kind : Kind) (origin : Json) (todo : Plan) (w w' : World) : Prop where
  records : w'.records = todo.recordsLeft kind origin w.records
  left : ∀ last, w'.server.find? (subjectOf kind origin).ref = some last →
    Left kind origin todo last
  gone : w'.server.find? (subjectOf kind origin).ref = none →
    todo = .release ∧ Manifest.isBeingDeleted origin = true ∧ remainingFinalizers origin = []

section

variable {kind : Kind} {origin manifest : Json} {defaultTarget : String} {w : World}

/-- The world after a reconcile. -/
def reconciled (subject : Subject) (defaultTarget : String) (w : World) : World :=
  ((reconcile subject defaultTarget).run.run (World.answer subject.kind) w).2

theorem Ends.reconciled_eq {subject : Subject} {w' : World}
    (h : Ends subject.kind (reconcile subject defaultTarget) w () w') :
    reconciled subject defaultTarget w = w' :=
  congrArg Prod.snd h

/-- What a reconcile does with the object it has found. -/
def attend (subject : Subject) (defaultTarget : String) (object : Object) : Action Unit := do
  if object.isBeingDeleted then release subject .objectDeleted object
  else if !Annotations.isRegistered object.annotations then
    release subject .registrationRemoved object
  else
    match ← ensureFinalizer subject.kind object cleanupFinalizer with
    | none => pure ()
    | some held => serve subject defaultTarget held

theorem ends_found {w' : World} (hf : w.server.find? (subjectOf kind origin).ref = some origin)
    (itself : Manifest.Kindred kind origin origin)
    (h : Ends kind (attend (subjectOf kind origin) defaultTarget (Manifest.seen kind origin))
      w () w') : Ends kind (reconcile (subjectOf kind origin) defaultTarget) w () w' :=
  (ends_fetch_seen hf itself).bind h

theorem attend_of_gone (subject : Subject) {object : Object} (defaultTarget : String)
    (gone : object.isBeingDeleted = true ∨
      Annotations.isRegistered object.annotations = false) :
    ∃ reason, attend subject defaultTarget object = release subject reason object := by
  unfold attend
  by_cases deleted : object.isBeingDeleted = true
  · exact ⟨.objectDeleted, if_pos deleted⟩
  · have unregistered := gone.resolve_left deleted
    refine ⟨.registrationRemoved, ?_⟩
    rw [if_neg deleted, if_pos (by simp [unregistered])]

theorem attend_of_stays {subject : Subject} {object : Object} {defaultTarget : String}
    (gone : ¬ (object.isBeingDeleted = true ∨
      Annotations.isRegistered object.annotations = false)) :
    attend subject defaultTarget object = (do
      match ← ensureFinalizer subject.kind object cleanupFinalizer with
      | none => pure ()
      | some held => serve subject defaultTarget held) := by
  obtain ⟨stays, registered⟩ := not_or.mp gone
  unfold attend
  rw [if_neg stays, if_neg (by simpa using registered)]

/-- A manifest that is of the same object and has the same finalizers and hosts written down. -/
theorem Left.of_kept {todo : Plan} (itself : Manifest.Kindred kind origin origin)
    (held : cleanupFinalizer ∈ Manifest.finalizers origin ↔ todo.IsHolding)
    (recorded : Manifest.annotation? origin Key.managedHosts = todo.textLeft? kind origin) :
    Left kind origin todo origin :=
  ⟨itself, held, rfl, recorded⟩

theorem Left.of_heldWith {todo : Plan} {last : Json}
    (h : HeldWith kind origin origin last (todo.textLeft? kind origin))
    (holding : todo.IsHolding) : Left kind origin todo last :=
  ⟨h.kindred, iff_of_true h.held holding, h.others, h.recorded⟩

/-- What is left when an object is still stored. -/
theorem Outcome.of_stored {todo : Plan} {w' : World} {last : Json}
    (records : w'.records = todo.recordsLeft kind origin w.records)
    (stored : w'.server.find? (subjectOf kind origin).ref = some last)
    (left : Left kind origin todo last) : Outcome kind origin todo w w' := by
  refine ⟨records, fun other ho => ?_, fun hnone => ?_⟩
  · rw [stored] at ho
    cases ho
    exact left
  · rw [stored] at hnone
    cases hnone

theorem left_releasing (itself : Manifest.Kindred kind origin origin) (version : String) :
    Left kind origin .release (Manifest.written version origin (Manifest.seen kind origin)
      (releasingMembers origin)) := by
  have hfinalizers : Manifest.finalizers (Manifest.written version origin
      (Manifest.seen kind origin) (releasingMembers origin)) = remainingFinalizers origin := by
    rw [Manifest.finalizers, Cluster.Manifest.finalizers?_written,
      Cluster.Manifest.finalizers?_amend _ _ (by simp [Manifest.annotationMember])]
    rfl
  refine ⟨itself.written (own_releasing origin) _ _, ?_, ?_, ?_⟩
  · rw [hfinalizers]
    simp [remainingFinalizers, Plan.IsHolding]
  · rw [remainingFinalizers, hfinalizers]
    simp [remainingFinalizers]
  · rw [Cluster.Manifest.annotation?_written, releasingMembers, Cluster.Manifest.amend_cons,
      Cluster.Manifest.annotation?_amend, if_pos rfl]
    rfl

/-- The last patch of a release, after the records are gone. -/
theorem outcome_releasing (itself : Manifest.Kindred kind origin origin) (cleared : World)
    (records : cleared.records = removeAll (writtenDown origin) w.records) :
    Outcome kind origin .release w (patched cleared (subjectOf kind origin).ref origin
      (Manifest.seen kind origin) (releasingMembers origin)) := by
  have hleft : ∃ version, (patched cleared (subjectOf kind origin).ref origin
      (Manifest.seen kind origin) (releasingMembers origin)).server.find?
        (subjectOf kind origin).ref =
      leftBy (Manifest.written version origin (Manifest.seen kind origin)
        (releasingMembers origin)) := by
    refine ⟨cleared.server.version (cleared.server.writes + 1), ?_⟩
    rw [ApiServer.find?_afterPatch, if_pos rfl]
    rfl
  obtain ⟨version, hleft⟩ := hleft
  refine ⟨records, fun last hlast => ?_, fun hnone => ?_⟩
  · rw [hleft, leftBy] at hlast
    split at hlast
    · cases hlast
    · cases hlast
      exact left_releasing itself version
  · have hform := leftBy_releasing itself version
    rw [← hleft, hnone, releasedForm] at hform
    split at hform
    · rename_i hgone
      exact ⟨rfl, by simpa using hgone⟩
    · cases hform

/-- An object that is held is let go of. -/
theorem ends_removeFinalizer (hf : w.server.find? (subjectOf kind origin).ref = some origin)
    (itself : Manifest.Kindred kind origin origin)
    (hin : cleanupFinalizer ∈ Manifest.finalizers origin) :
    Ends kind (removeFinalizer kind (Manifest.seen kind origin) cleanupFinalizer [Key.managedHosts])
      w () (patched w (subjectOf kind origin).ref origin (Manifest.seen kind origin)
        (releasingMembers origin)) := by
  have hpatch := ends_patch (patch_seen hf itself (own_releasing origin))
  rw [removeFinalizer, if_pos ((hasFinalizer_seen kind origin).mpr hin)]
  exact (ends_note _ _ _).bind (hpatch.bind (ends_pure () _))

theorem ends_release (hf : w.server.find? (subjectOf kind origin).ref = some origin)
    (itself : Manifest.Kindred kind origin origin)
    (hin : cleanupFinalizer ∈ Manifest.finalizers origin) (reason : Event) : ∃ w',
      Ends kind (release (subjectOf kind origin) reason (Manifest.seen kind origin)) w () w' ∧
      Outcome kind origin .release w w' := by
  have hclear : Ends kind (deleteHosts (subjectOf kind origin) (writtenDown origin)) w () _ :=
    ends_deleteHosts _ _ w
  have hremove := ends_removeFinalizer
    (w := { w with records := removeAll (writtenDown origin) w.records }) hf itself hin
  have outcome := outcome_releasing (w := w) itself
    { w with records := removeAll (writtenDown origin) w.records } rfl
  refine ⟨_, ?_, outcome⟩
  rw [release, if_pos ((hasFinalizer_seen kind origin).mpr hin)]
  exact (ends_note _ _ _).bind (hclear.bind hremove)

/-- An object with nothing to serve is passed over. -/
theorem serve_of_idle (hk : Manifest.Kindred kind origin manifest)
    (idle : desired kind origin = [] ∨
      Annotations.target? (Manifest.seen kind origin).annotations defaultTarget = none) :
    ∃ event, serve (subjectOf kind origin) defaultTarget (Manifest.seen kind manifest) =
      note (subjectOf kind origin) event := by
  have hdesired : desiredHosts (Manifest.seen kind manifest) = desired kind origin :=
    desired_kindred hk
  have htarget := target?_kindred hk defaultTarget
  unfold serve
  simp only [hdesired, htarget]
  split
  · exact ⟨.noHosts, rfl⟩
  · rename_i hasks
    rw [idle.resolve_left (by simpa using hasks)]
    exact ⟨_, rfl⟩

/-- The plan of a reconcile tells how it ends. -/
theorem ends_plan (defaultTarget : String)
    (hf : w.server.find? (subjectOf kind origin).ref = some origin)
    (itself : Manifest.Kindred kind origin origin)
    (plain : ∀ target, plan kind defaultTarget origin = .serve target →
      ∀ host ∈ desired kind origin, Text.CommaList.IsPlain host) : ∃ w',
      Ends kind (reconcile (subjectOf kind origin) defaultTarget) w () w' ∧
      Outcome kind origin (plan kind defaultTarget origin) w w' := by
  by_cases gone : (Manifest.seen kind origin).isBeingDeleted = true ∨
      Annotations.isRegistered (Manifest.seen kind origin).annotations = false
  · obtain ⟨reason, hattend⟩ := attend_of_gone (subjectOf kind origin) defaultTarget gone
    rw [plan_of_gone gone]
    split
    · rename_i hin
      obtain ⟨w', hrelease, outcome⟩ := ends_release hf itself hin reason
      exact ⟨w', ends_found hf itself (hattend ▸ hrelease), outcome⟩
    · rename_i hnot
      refine ⟨w, ends_found hf itself ?_,
        .of_stored rfl hf (.of_kept itself (iff_of_false hnot id) rfl)⟩
      rw [hattend, release, if_neg (mt (hasFinalizer_seen kind origin).mp hnot)]
      exact ends_pure () w
  obtain ⟨hdeleted, hregistered⟩ := not_or.mp gone
  have stays := Bool.eq_false_iff.mpr hdeleted
  have registered := Bool.not_eq_false _ ▸ hregistered
  by_cases idle : desired kind origin = [] ∨
      Annotations.target? (Manifest.seen kind origin).annotations defaultTarget = none
  · obtain ⟨next, w', hensure, hrecords, hnext, hheld⟩ := ends_ensureFinalizer hf itself
    obtain ⟨event, hserve⟩ := serve_of_idle hheld.kindred idle
    have hidle : Ends kind (serve (subjectOf kind origin) defaultTarget
        (Manifest.seen kind next)) w' () w' := hserve ▸ ends_note _ event w'
    rw [plan_of_idle stays registered idle]
    refine ⟨w', ends_found hf itself ?_,
      .of_stored hrecords hnext (.of_heldWith hheld trivial)⟩
    rw [attend_of_stays gone]
    exact hensure.bind hidle
  · obtain ⟨asks, htarget⟩ := not_or.mp idle
    obtain ⟨target, address⟩ := Option.ne_none_iff_exists'.mp htarget
    have hplan := plan_of_asks stays registered asks address
    have part : TakesPart kind origin defaultTarget target :=
      ⟨stays, registered, asks, plain target hplan, address⟩
    obtain ⟨last, w', hends, hrecords, hlast, hheld⟩ := ends_reconcile part hf itself
    rw [hplan]
    exact ⟨w', hends, .of_stored hrecords hlast (.of_heldWith hheld trivial)⟩

/-- Where there is no object, nothing is done. -/
theorem ends_absent (subject : Subject) (defaultTarget : String) {w : World}
    (hf : w.server.find? subject.ref = none) :
    Ends kind (reconcile subject defaultTarget) w () w := by
  have hfetch : w.fetch kind subject.ref = .ok none := by
    rw [World.fetch, hf]
  exact (ends_fetch hfetch).bind (ends_note _ _ w)

end

end ClusterDns.Reconcile
