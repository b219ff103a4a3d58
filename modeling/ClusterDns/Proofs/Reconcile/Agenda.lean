import ClusterDns.Proofs.PiHole.HostList
import ClusterDns.Proofs.Program.Dialogue
import ClusterDns.Proofs.Reconcile.Stages

/-! The calls to the keeper of records, as a list that is known before they are made. What a reconcile
finds settles which calls it is to make and in which order. It makes them one after another, and a
call that fails is its last: nothing else is asked after it, and the reconcile ends with that error,
under the name of the step it was in. -/

namespace ClusterDns.PiHole

deriving instance DecidableEq for StoreRequest

/-- The error a call fails with, if it does. -/
def StoreRequest.error? : (q : StoreRequest) → q.Answer → Option Error
  | .list, .error e => some e
  | .create _, .error e => some e
  | .delete _, .error e => some e
  | .list, .ok _ => none
  | .create _, .ok _ => none
  | .delete _, .ok _ => none

end ClusterDns.PiHole

namespace ClusterDns.Reconcile

open Cluster (Object)
open PiHole (Record Store.create Store.delete Store.list Store.rebind StoreRequest)
open Rehearsal (get?_set)

/-! ## Agendas -/

/-- Calls to come, each with the step it is counted as. -/
abbrev Agenda := List (StoreStep × StoreRequest)

namespace Agenda

/-- A name is bound, given the address it has now. There is no call that changes a record. -/
def toBind (record : Record) : Option String → Agenda
  | none => [(.create, .create record)]
  | some address =>
    if address = record.address then []
    else [(.create, .delete record.domain), (.create, .create record)]

/-- The address of the first record of a name. -/
def address? (records : List Record) (host : String) : Option String :=
  (records.find? (·.domain = host)).map (·.address)

def deletions (hosts : List String) : Agenda := hosts.map fun host => (.delete, .delete host)

/-- All hosts are bound to the target, then the hosts go that are not asked for any more. -/
def toServe (defaultTarget : String) (object : Object) (records : List Record) : Agenda :=
  if desiredHosts object = [] then []
  else
    match Annotations.target? object.annotations defaultTarget with
    | none => []
    | some target =>
      (.list, .list) ::
        ((desiredHosts object).flatMap fun host => toBind ⟨host, target⟩ (address? records host)) ++
          deletions (obsoleteHosts object)

/-- The object is being deleted or takes part no more. -/
def isLeaving (object : Object) : Bool :=
  object.isBeingDeleted || !Annotations.isRegistered object.annotations

/-- What a reconcile is to do for an object it has found, given the object as it is once it has the
finalizer and the records there are. -/
def ofFound (defaultTarget : String) (object : Object) (held? : Option Object)
    (records : List Record) : Agenda :=
  if isLeaving object then
    if object.hasFinalizer cleanupFinalizer then
      deletions (Annotations.managed object.annotations)
    else []
  else
    match held? with
    | none => []
    | some held => toServe defaultTarget held records

end Agenda

/-! ## Dialogues of a reconcile -/

abbrev Log := List (Exchange Surroundings)

namespace Log

/-- The calls to the keeper of records, each with its error if it failed. -/
def calls (log : Log) : List (StoreRequest × Option PiHole.Error) :=
  log.filterMap fun
    | ⟨.dns q, r⟩ => some (q, q.error? r)
    | _ => none

/-- The object that was fetched first. -/
def found? : Log → Option Object
  | ⟨.fetch _, .ok found⟩ :: _ => found
  | _ => none

/-- The object that the first patch was answered with. -/
def patched? (log : Log) : Option Object :=
  (log.findSome? fun
    | ⟨.patch .., .ok found⟩ => some found
    | ⟨.patch .., .error _⟩ => some none
    | _ => none).join

/-- The object once it has the finalizer. -/
def held? (object : Object) (log : Log) : Option Object :=
  if object.hasFinalizer cleanupFinalizer then some object else log.patched?

/-- The records that were listed. -/
def listed (log : Log) : List Record :=
  (log.findSome? fun
    | ⟨.dns .list, .ok records⟩ => some records
    | _ => none).getD []

@[simp] theorem calls_append (first rest : Log) :
    calls (first ++ rest) = calls first ++ calls rest := List.filterMap_append

end Log

/-- All calls of an agenda were made, in its order, and no other; none of them failed. -/
def Agenda.IsDone (agenda : Agenda) (log : Log) : Prop :=
  log.calls = agenda.map fun entry => (entry.2, none)

/-- The last thing that was asked is a call of the agenda, and it failed. -/
inductive Agenda.BreaksOff {α : Type} (agenda : Agenda) : Log → Except Error α → Prop
  | failing {done rest : Agenda} {step : StoreStep} {q : StoreRequest} {front : Log} {r : q.Answer}
    {e : PiHole.Error} (scheduled : agenda = done ++ (step, q) :: rest) (before : done.IsDone front)
    (fails : q.error? r = some e) :
    BreaksOff agenda (front ++ [⟨.dns q, r⟩]) (.error (.store step e))

/-! ## Parts of a reconcile -/

/-- A part of a reconcile makes the calls of an agenda. -/
def Follows {α : Type} (agenda : Agenda) (x : Action α) (fine : Except Error α → Prop) : Prop :=
  ∀ log outcome, Dialogue x.run log outcome →
    agenda.IsDone log ∧ fine outcome ∨ agenda.BreaksOff log outcome

/-- Only a failing call ends a part like this early. -/
def Succeeds {α : Type} (outcome : Except Error α) : Prop := ∃ a, outcome = .ok a

section

variable {α β : Type} {agenda further : Agenda} {log rest : Log}

theorem Agenda.IsDone.append (h : agenda.IsDone log) (hrest : further.IsDone rest) :
    (agenda ++ further).IsDone (log ++ rest) := by
  unfold Agenda.IsDone at *
  simp [h, hrest]

theorem Agenda.BreaksOff.early {outcome : Except Error α} (h : agenda.BreaksOff log outcome)
    (further : Agenda) :
    ∃ e, outcome = .error e ∧ (agenda ++ further).BreaksOff log (.error e : Except Error β) := by
  cases h with
  | @failing done rest step q _ _ _ scheduled before fails =>
    have hlonger : agenda ++ further = done ++ (step, q) :: (rest ++ further) := by
      rw [scheduled, List.append_assoc, List.cons_append]
    exact ⟨_, rfl, .failing hlonger before fails⟩

theorem Agenda.BreaksOff.late {outcome : Except Error α} (h : further.BreaksOff rest outcome)
    (hdone : agenda.IsDone log) : (agenda ++ further).BreaksOff (log ++ rest) outcome := by
  cases h with
  | @failing done rest step q _ _ _ scheduled before fails =>
    have hlonger : agenda ++ further = (agenda ++ done) ++ (step, q) :: rest := by
      rw [scheduled, List.append_assoc]
    rw [← List.append_assoc]
    exact .failing hlonger (hdone.append before) fails

theorem Follows.mono {x : Action α} {fine fine' : Except Error α → Prop}
    (h : Follows agenda x fine) (hfine : ∀ outcome, fine outcome → fine' outcome) :
    Follows agenda x fine' := by
  intro log outcome run
  exact (h log outcome run).imp_left fun hdone => ⟨hdone.1, hfine _ hdone.2⟩

/-- One part after another makes the calls of one agenda after another. -/
theorem Follows.bind {x : Action α} {f : α → Action β} {fine : Except Error β → Prop}
    (h : Follows agenda x Succeeds) (hf : ∀ a, Follows further (f a) fine) :
    Follows (agenda ++ further) (x >>= f) fine := by
  intro log outcome run
  rcases Dialogue.of_attempt run with ⟨e, hx, rfl⟩ | ⟨first, a, rest, rfl, hx, hrest⟩
  · rcases h _ _ hx with ⟨-, a, ha⟩ | hbroken
    · cases ha
    · obtain ⟨e', he, hearly⟩ := hbroken.early (β := β) further
      cases he
      exact .inr hearly
  · rcases h _ _ hx with ⟨hdone, -⟩ | hbroken
    · rcases hf a _ _ hrest with ⟨hdone', hfine⟩ | hbroken
      · exact .inl ⟨hdone.append hdone', hfine⟩
      · exact .inr (hbroken.late hdone)
    · obtain ⟨e, he, -⟩ := hbroken.early (β := β) further
      cases he

theorem follows_pure (a : α) : Follows [] (pure a : Action α) Succeeds := by
  intro log outcome run
  obtain ⟨rfl, rfl⟩ := Dialogue.of_pure run
  exact .inl ⟨rfl, a, rfl⟩

/-- A question that is no call, and that cannot fail. -/
theorem follows_lift {q : Request} (hq : ∀ r, Log.calls [⟨q, r⟩] = []) :
    Follows [] (ExceptT.lift (ask q)) Succeeds := by
  intro log outcome run
  obtain ⟨r, rfl, rfl⟩ := Dialogue.of_lift run
  exact .inl ⟨hq r, r, rfl⟩

theorem follows_note (subject : Subject) (event : Event) :
    Follows [] (note subject event) Succeeds := follows_lift fun _ => rfl

theorem follows_count (series : Metrics.Series) : Follows [] (count series) Succeeds :=
  follows_lift fun _ => rfl

/-- One call, whose error becomes that of the step. -/
theorem follows_call {step : StoreStep} {q : StoreRequest} {g : q.Answer → Except Error α}
    (hg : ∀ r, q.error? r = none ∧ Succeeds (g r) ∨
      ∃ e, q.error? r = some e ∧ g r = .error (.store step e)) :
    Follows [(step, q)] (ExceptT.mk (.ask (I := Surroundings) (.dns q) fun r => .done (g r)))
      Succeeds := by
  intro log outcome run
  obtain ⟨r, rest, rfl, hrest⟩ := Dialogue.of_ask run
  obtain ⟨rfl, rfl⟩ := Dialogue.of_done hrest
  rcases hg r with ⟨hnone, hok⟩ | ⟨e, hsome, herror⟩
  · refine .inl ⟨?_, hok⟩
    simp [Agenda.IsDone, Log.calls, hnone]
  · rw [herror]
    exact .inr (@Agenda.BreaksOff.failing α _ [] [] step q [] r e rfl rfl hsome)

theorem follows_list : Follows [(.list, .list)] (onStore .list Store.list) Succeeds := by
  rw [onStore_list]
  refine follows_call fun r => ?_
  cases r with
  | ok records => exact .inl ⟨rfl, records, rfl⟩
  | error e => exact .inr ⟨e, rfl, rfl⟩

theorem follows_create (step : StoreStep) (record : Record) :
    Follows [(step, .create record)] (onStore step (Store.create record)) Succeeds := by
  rw [onStore_create]
  refine follows_call fun r => ?_
  cases r with
  | ok _ => exact .inl ⟨rfl, (), rfl⟩
  | error e => exact .inr ⟨e, rfl, rfl⟩

theorem follows_delete (step : StoreStep) (host : String) :
    Follows [(step, .delete host)] (onStore step (Store.delete host)) Succeeds := by
  rw [onStore_delete]
  refine follows_call fun r => ?_
  cases r with
  | ok _ => exact .inl ⟨rfl, (), rfl⟩
  | error e => exact .inr ⟨e, rfl, rfl⟩

/-! ## Loops -/

theorem follows_rebind (record : Record) (current : Option String) :
    Follows (Agenda.toBind record current) (onStore .create (Store.rebind record current))
      Succeeds := by
  unfold Agenda.toBind
  cases current with
  | none => exact follows_create .create record
  | some address =>
    dsimp only
    split
    · rename_i hsame
      rw [Store.rebind, if_pos hsame]
      exact follows_pure ()
    · rename_i hother
      rw [onStore_rebind hother]
      exact (follows_delete .create record.domain).bind fun _ => follows_create .create record

theorem follows_noteBound (subject : Subject) (record : Record) (current : Option String) :
    Follows [] (noteBound subject record current) Succeeds := by
  unfold noteBound
  cases current with
  | none => exact (follows_note _ _).bind fun _ => follows_count _
  | some previous => exact (follows_note _ _).bind fun _ => follows_count _

theorem Agenda.toBind_bound (host target : String) : toBind ⟨host, target⟩ (some target) = [] :=
  if_pos rfl

/-- A host counts where it comes first: after that it is bound to the target. -/
theorem follows_bindHosts (subject : Subject) (target : String) (hosts : List String)
    (bindings : Bindings) :
    Follows ((distinct hosts).flatMap fun host => Agenda.toBind ⟨host, target⟩ (bindings.get? host))
      (bindHosts subject target hosts bindings) Succeeds := by
  induction hosts generalizing bindings with
  | nil => exact follows_pure ()
  | cons host rest ih =>
    -- with the host bound to the target, it adds nothing where it comes again
    have hlater : ∀ after : Bindings, after.get? host = some target →
        (∀ other, other ≠ host → after.get? other = bindings.get? other) →
        ((distinct rest).flatMap fun other => Agenda.toBind ⟨other, target⟩ (after.get? other)) =
          ((distinct rest).filter (· ≠ host)).flatMap fun other =>
            Agenda.toBind ⟨other, target⟩ (bindings.get? other) := by
      intro after hbound hothers
      induction distinct rest with
      | nil => rfl
      | cons other others ih =>
        by_cases he : other = host
        · rw [List.flatMap_cons, he, hbound, Agenda.toBind_bound, ih,
            List.filter_cons_of_neg (by simp), List.nil_append]
        · rw [List.flatMap_cons, hothers other he, ih, List.filter_cons_of_pos (by simpa using he),
            List.flatMap_cons]
    rw [distinct, List.flatMap_cons]
    unfold bindHosts
    dsimp only
    split
    · rename_i hbound
      rw [← hlater bindings hbound fun _ _ => rfl, hbound, Agenda.toBind_bound, List.nil_append]
      exact ih bindings
    · have hset := hlater (bindings.set host target) (by rw [get?_set, if_pos rfl])
        fun other he => by rw [get?_set, if_neg he]
      rw [← hset]
      exact (follows_rebind _ _).bind fun _ =>
        (follows_noteBound subject _ _).bind fun _ => ih _

theorem follows_deleteHosts (subject : Subject) (hosts : List String) :
    Follows (Agenda.deletions hosts) (deleteHosts subject hosts) Succeeds := by
  induction hosts with
  | nil => exact follows_pure ()
  | cons host rest ih =>
    have hhost : Follows [(.delete, .delete host)] (deleteHost subject host) Succeeds :=
      (follows_delete .delete host).bind fun _ =>
        (follows_note subject (.recordDeleted host)).bind fun _ => follows_count _
    exact hhost.bind fun _ => ih

theorem get?_ofRecords (records : List Record) (host : String) :
    (Bindings.ofRecords records).get? host = Agenda.address? records host := by
  induction records with
  | nil => rfl
  | cons first rest ih =>
    unfold Agenda.address? at *
    by_cases h : first.domain = host
    · simp [Bindings.ofRecords, Bindings.get?, h]
    · have hne : (host == first.domain) = false := by simp [Ne.symm h]
      simp only [Bindings.ofRecords, Bindings.get?] at ih
      simp [Bindings.ofRecords, Bindings.get?, List.lookup_cons, hne, h, ih]

/-! ## Parts without calls -/

theorem follows_question {q : Request} {g : q.Answer → Except Error α}
    (hq : ∀ r, Log.calls [⟨q, r⟩] = []) :
    Follows [] (ExceptT.mk (.ask (I := Surroundings) q fun r => .done (g r))) fun _ => True := by
  intro log outcome run
  obtain ⟨r, rest, rfl, hrest⟩ := Dialogue.of_ask run
  obtain ⟨rfl, rfl⟩ := Dialogue.of_done hrest
  exact .inl ⟨hq r, trivial⟩

theorem follows_fetch (ref : Cluster.ObjectRef) : Follows [] (fetch ref) fun _ => True := by
  rw [fetch_eq]
  exact follows_question fun _ => rfl

theorem follows_patch (ref : Cluster.ObjectRef) (body : Json) :
    Follows [] (patch ref body) fun _ => True := by
  rw [patch_eq]
  exact follows_question fun _ => rfl

/-- Where no call is to be made it does not count whether a part ends early. -/
theorem Follows.idle {x : Action α} {f : α → Action β} (h : Follows [] x fun _ => True)
    (hf : ∀ a, Follows [] (f a) fun _ => True) : Follows [] (x >>= f) fun _ => True := by
  intro log outcome run
  rcases Dialogue.of_attempt run with ⟨e, hx, rfl⟩ | ⟨first, a, rest, rfl, hx, hrest⟩
  · rcases h _ _ hx with ⟨hdone, -⟩ | hbroken
    · exact .inl ⟨hdone, trivial⟩
    · cases hbroken with
      | failing scheduled => simp at scheduled
  · rcases h _ _ hx with ⟨hdone, -⟩ | hbroken
    · exact (hf a _ _ hrest).imp (fun h => ⟨hdone.append h.1, trivial⟩) fun h => h.late hdone
    · cases hbroken

theorem Follows.rephrase {x : Action α} (h : Follows [] x fun _ => True) (f : Error → Error) :
    Follows [] (Attempt.rephrase f x) fun _ => True := by
  intro log outcome run
  obtain ⟨r, hx, rfl⟩ := Dialogue.of_rephrase run
  rcases h _ _ hx with hdone | hbroken
  · exact .inl ⟨hdone.1, trivial⟩
  · cases hbroken with
    | failing scheduled => simp at scheduled

theorem Follows.unsure {x : Action α} {fine : Except Error α → Prop} (h : Follows agenda x fine) :
    Follows agenda x fun _ => True := h.mono fun _ _ => trivial

theorem follows_removeFinalizer (kind : Cluster.Kind) (object : Object) (finalizer : String)
    (dropped : List String) :
    Follows [] (removeFinalizer kind object finalizer dropped) fun _ => True := by
  unfold removeFinalizer
  split
  · exact (follows_note _ _).unsure.idle fun _ =>
      (follows_patch _ _).idle fun _ => (follows_pure _).unsure
  · exact (follows_pure _).unsure

theorem follows_writeManaged (subject : Subject) (hosts : List String) :
    Follows [] (writeManaged subject hosts) fun _ => True := by
  unfold writeManaged
  refine (follows_fetch _).idle fun found => ?_
  cases found with
  | none => exact (follows_note _ _).unsure
  | some latest =>
    dsimp only
    split
    · exact (follows_patch _ _).idle fun _ => (follows_pure _).unsure
    · exact (follows_pure _).unsure

end

/-! ## The reconcile -/

/-- The calls that were made are those of the agenda, up to the first that failed. -/
def Agenda.IsKept {α : Type} (agenda : Agenda) (log : Log) (outcome : Except Error α) : Prop :=
  agenda.IsDone log ∨ agenda.BreaksOff log outcome

section

variable {subject : Subject} {defaultTarget : String} {object : Object} {agenda : Agenda}
  {log first rest : Log} {outcome : Except Error Unit}

theorem Agenda.IsKept.after (h : agenda.IsKept rest outcome) (hfirst : first.calls = []) :
    agenda.IsKept (first ++ rest) outcome := by
  have hnone : Agenda.IsDone [] first := hfirst
  exact h.imp hnone.append fun hbroken => hbroken.late hnone

theorem Follows.kept {x : Action Unit} {fine : Except Error Unit → Prop}
    (h : Follows agenda x fine) (run : Dialogue x.run log outcome) : agenda.IsKept log outcome :=
  (h log outcome run).imp_left And.left

theorem follows_cleanup (kind : Cluster.Kind) (object : Object) :
    Follows (Agenda.deletions (Annotations.managed object.annotations)) (cleanup kind object)
      fun _ => True := by
  unfold cleanup
  have h := (follows_deleteHosts ⟨kind, object.ref⟩ (Annotations.managed object.annotations)).bind
    fun _ => follows_removeFinalizer kind object cleanupFinalizer [Key.managedHosts]
  rwa [List.append_nil] at h

theorem follows_release (subject : Subject) (reason : Event) (object : Object) :
    Follows (if object.hasFinalizer cleanupFinalizer then
        Agenda.deletions (Annotations.managed object.annotations) else [])
      (release subject reason object) fun _ => True := by
  unfold release
  split
  · exact (follows_note _ _).bind fun _ => follows_cleanup _ _
  · exact (follows_pure _).unsure

/-- Once the records are listed, it is known which calls come. -/
theorem follows_serve_listed (subject : Subject) (target : String) (object : Object)
    (records : List Record) :
    Follows
      (((desiredHosts object).flatMap fun host =>
          Agenda.toBind ⟨host, target⟩ (Agenda.address? records host)) ++
        Agenda.deletions (obsoleteHosts object))
      (do
        bindHosts subject target (desiredHosts object) (.ofRecords records)
        deleteHosts subject (obsoleteHosts object)
        (writeManaged subject (desiredHosts object)).rephrase .managedHosts
        note subject (.reconciled (desiredHosts object).length)) fun _ => True := by
  have hbind := follows_bindHosts subject target (desiredHosts object) (.ofRecords records)
  have honce : distinct (desiredHosts object) = desiredHosts object :=
    distinct_of_nodup (nodup_distinct _)
  simp only [honce, get?_ofRecords] at hbind
  have hend : Follows [] (do
      (writeManaged subject (desiredHosts object)).rephrase .managedHosts
      note subject (.reconciled (desiredHosts object).length)) fun _ => True :=
    ((follows_writeManaged _ _).rephrase _).idle fun _ => (follows_note _ _).unsure
  refine hbind.bind fun _ => ?_
  have h := (follows_deleteHosts subject (obsoleteHosts object)).bind fun _ => hend
  rwa [List.append_nil] at h

/-- A part that begins with listing the records makes the calls that follow from those listed. -/
theorem kept_listed {f : List Record → Action Unit} {further : List Record → Agenda}
    {fine : Except Error Unit → Prop} (hf : ∀ records, Follows (further records) (f records) fine)
    (run : Dialogue (onStore .list Store.list >>= f).run log outcome) :
    Agenda.IsKept ((.list, .list) :: further log.listed) log outcome := by
  rcases Dialogue.of_attempt run with ⟨e, hlist, rfl⟩ | ⟨first, records, rest, rfl, hlist, hrest⟩
  · rcases follows_list _ _ hlist with ⟨-, a, ha⟩ | hbroken
    · cases ha
    · obtain ⟨e', he, hearly⟩ := hbroken.early (β := Unit) (further (Log.listed log))
      cases he
      exact .inr hearly
  · obtain ⟨hdone, -⟩ := (follows_list _ _ hlist).resolve_right fun hbroken => nomatch hbroken
    have hlisted : Log.listed (first ++ rest) = records := by
      rw [onStore_list] at hlist
      obtain ⟨r, _, rfl, hended⟩ := Dialogue.of_ask hlist
      obtain ⟨rfl, hr⟩ := Dialogue.of_done hended
      cases r with
      | ok _ => exact (Except.ok.inj hr).symm
      | error _ => cases hr
    rw [hlisted]
    exact ((hf records).kept hrest).imp hdone.append fun hbroken => hbroken.late hdone

theorem kept_serve (run : Dialogue (serve subject defaultTarget object).run log outcome) :
    (Agenda.toServe defaultTarget object log.listed).IsKept log outcome := by
  unfold serve at run
  unfold Agenda.toServe
  dsimp only at run
  split at run
  · rename_i hnone
    rw [if_pos (List.isEmpty_iff.mp hnone)]
    exact (follows_note _ _).kept run
  · rename_i hasks
    rw [if_neg (by simpa using hasks)]
    cases htarget : Annotations.target? object.annotations defaultTarget with
    | none =>
      simp only [htarget] at run
      exact (follows_note _ _).kept run
    | some target =>
      simp only [htarget] at run
      unfold syncHosts at run
      rw [bind_assoc] at run
      exact kept_listed (fun records => follows_serve_listed subject target object records) run

theorem log_fetch {ref : Cluster.ObjectRef} {found : Except Error (Option Object)}
    (run : Dialogue (fetch ref).run log found) : log = [⟨.fetch ref, found⟩] := by
  rw [fetch_eq] at run
  obtain ⟨r, rest, rfl, hended⟩ := Dialogue.of_ask run
  obtain ⟨rfl, rfl⟩ := Dialogue.of_done hended
  rfl

theorem log_patch {ref : Cluster.ObjectRef} {body : Json} {patched : Except Error (Option Object)}
    (run : Dialogue (patch ref body).run log patched) : log = [⟨.patch ref body, patched⟩] := by
  rw [patch_eq] at run
  obtain ⟨r, rest, rfl, hended⟩ := Dialogue.of_ask run
  obtain ⟨rfl, rfl⟩ := Dialogue.of_done hended
  rfl

/-- The finalizer is put on an object that does not have it. -/
theorem log_ensureFinalizer {kind : Cluster.Kind} {held : Except Error (Option Object)}
    (run : Dialogue (ensureFinalizer kind object cleanupFinalizer).run log held) :
    (object.hasFinalizer cleanupFinalizer = true ∧ log = [] ∧ held = .ok (some object)) ∨
      ∃ entry body, ¬ object.hasFinalizer cleanupFinalizer = true ∧
        log = [⟨.note entry, ()⟩, ⟨.patch object.ref body, held⟩] := by
  unfold ensureFinalizer at run
  split at run
  · rename_i hheld
    obtain ⟨rfl, rfl⟩ := Dialogue.of_pure run
    exact .inl ⟨hheld, rfl, rfl⟩
  · rename_i hbare
    rcases Dialogue.of_attempt run with ⟨e, hnote, rfl⟩ | ⟨first, _, rest, rfl, hnote, hpatch⟩
    · obtain ⟨_, -, hr⟩ := Dialogue.of_lift hnote
      cases hr
    · obtain ⟨_, rfl, -⟩ := Dialogue.of_lift hnote
      rw [log_patch hpatch]
      exact .inr ⟨_, _, hbare, rfl⟩

/-- An object that is served is held first. -/
theorem kept_hold {ref : Cluster.ObjectRef}
    (run : Dialogue (do
      match ← ensureFinalizer subject.kind object cleanupFinalizer with
      | none => pure ()
      | some held => serve subject defaultTarget held : Action Unit).run rest outcome) :
    (match Log.held? object (⟨.fetch ref, .ok (some object)⟩ :: rest) with
      | none => []
      | some held => Agenda.toServe defaultTarget held rest.listed : Agenda).IsKept rest outcome := by
  have hnothing : ∀ log : Log, log.calls = [] → Agenda.IsKept [] log outcome := fun _ h => .inl h
  rcases Dialogue.of_attempt run with ⟨e, hensure, rfl⟩ | ⟨first, held, last, rfl, hensure, hlast⟩
  · rcases log_ensureFinalizer hensure with ⟨-, -, hr⟩ | ⟨entry, body, hbare, rfl⟩
    · cases hr
    · simp only [Log.held?, if_neg hbare]
      exact hnothing _ rfl
  · rcases log_ensureFinalizer hensure with ⟨hheld, rfl, hr⟩ | ⟨entry, body, hbare, rfl⟩
    · cases hr
      simp only [Log.held?, if_pos hheld]
      exact kept_serve hlast
    · simp only [Log.held?, if_neg hbare]
      cases held with
      | none =>
        obtain ⟨rfl, -⟩ := Dialogue.of_pure hlast
        exact hnothing _ rfl
      | some held => exact (kept_serve hlast).after rfl

/-- The calls of a reconcile for an object it has found. -/
theorem kept_found (run : Dialogue (reconcile subject defaultTarget).run log outcome)
    (h : log.found? = some object) :
    (Agenda.ofFound defaultTarget object (log.held? object) log.listed).IsKept log outcome := by
  unfold reconcile at run
  rcases Dialogue.of_attempt run with ⟨e, hfetch, rfl⟩ | ⟨first, found, rest, rfl, hfetch, hrest⟩
  · rw [log_fetch hfetch] at h
    cases h
  · obtain rfl := log_fetch hfetch
    obtain rfl : found = some object := h
    unfold Agenda.ofFound Agenda.isLeaving
    dsimp only at hrest
    split at hrest
    · rename_i hdeleted
      simp only [hdeleted, Bool.true_or, if_true]
      exact ((follows_release _ _ _).kept hrest).after rfl
    · rename_i hstays
      split at hrest
      · rename_i hunregistered
        simp only [hunregistered, Bool.or_true, if_true]
        exact ((follows_release _ _ _).kept hrest).after rfl
      · rename_i hregistered
        have hserved : ¬ (object.isBeingDeleted ||
            !Annotations.isRegistered object.annotations) = true := by
          rw [Bool.or_eq_true]
          exact not_or.mpr ⟨hstays, hregistered⟩
        rw [if_neg hserved]
        exact (kept_hold hrest).after rfl

theorem calls_of_not_found (run : Dialogue (reconcile subject defaultTarget).run log outcome)
    (h : log.found? = none) : log.calls = [] := by
  unfold reconcile at run
  rcases Dialogue.of_attempt run with ⟨e, hfetch, rfl⟩ | ⟨first, found, rest, rfl, hfetch, hrest⟩
  · rw [log_fetch hfetch]
    rfl
  · obtain rfl := log_fetch hfetch
    obtain rfl : found = none := h
    obtain ⟨r, rfl, -⟩ := Dialogue.of_lift hrest
    rfl

/-- The agenda of an object depends on its annotations and its own hosts. -/
theorem Agenda.toServe_congr {held : Object} (annotations : held.annotations = object.annotations)
    (hosts : held.declaredHosts = object.declaredHosts) (records : List Record) :
    toServe defaultTarget held records = toServe defaultTarget object records := by
  have hdesired : desiredHosts held = desiredHosts object := by
    unfold desiredHosts
    rw [annotations, hosts]
  unfold toServe obsoleteHosts
  rw [hdesired, annotations]

/-- Whatever its surroundings answer, a reconcile makes the calls that follow from the object it has
found, the object once it has the finalizer, and the records that were listed, in this order and up
to the first that fails. That one is the last thing it asks, and its error is what the reconcile ends
with; another try is made only where that can help. Where no object is found, or it is not there any
more when it is given the finalizer, no call is made. -/
theorem calls_keep_agenda (run : Dialogue (reconcile subject defaultTarget).run log outcome) :
    (log.found? = none → log.calls = []) ∧
    ∀ object, log.found? = some object →
      (Agenda.ofFound defaultTarget object (log.held? object) log.listed).IsKept log outcome ∧
      (∀ held, log.held? object = some held → held.annotations = object.annotations →
        held.declaredHosts = object.declaredHosts →
          Agenda.ofFound defaultTarget object (some held) log.listed =
            Agenda.ofFound defaultTarget object (some object) log.listed) ∧
      ∀ step e, outcome = .error (.store step e) →
        ((Error.store step e).retrySecs? = none ↔ e.isRetryable = false) := by
  refine ⟨calls_of_not_found run, fun object hfound => ⟨kept_found run hfound, ?_, ?_⟩⟩
  · intro held _ hannotations hhosts
    unfold Agenda.ofFound
    dsimp only
    rw [Agenda.toServe_congr hannotations hhosts]
  · intro step e _
    simp [Error.retrySecs?]

end

/-- An object that asks for a name twice, and for one that it was given before. -/
def shop : Object where
  name? := some "shop"
  namespaceName? := some "default"
  annotations? := some [(Key.register, "true"), (Key.hosts, "a.lan,b.lan,a.lan"),
    (Key.managedHosts, "b.lan,c.lan")]
  finalizers? := some [cleanupFinalizer]
  resourceVersion? := some "7"
  isBeingDeleted := false
  hostnames? := none

def shopSubject : Subject := ⟨.ingress, ⟨"default", "shop"⟩⟩

/-- Surroundings in which a name is bound twice elsewhere, and a record of it cannot be made. -/
def reluctant : Program.Surroundings Surroundings Unit
  | .fetch _, _ => (.ok (some shop), ())
  | .patch .., _ => (.ok (some shop), ())
  | .dns .list, _ => (.ok [⟨"a.lan", "10.0.0.1"⟩, ⟨"a.lan", "10.0.0.9"⟩], ())
  | .dns (.create _), _ => (.error (.timeout "http://pihole.lan"), ())
  | .dns (.delete _), _ => (.ok (), ())
  | .note _, _ => ((), ())
  | .count _, _ => ((), ())

/-- The dialogue of the object with them. -/
def reluctantLog : Log :=
  Dialogue.transcript reluctant (reconcile shopSubject "10.0.0.9").run ()

theorem calls_keep_agenda_of_reluctant :
    let agenda := Agenda.ofFound "10.0.0.9" shop (some shop) reluctantLog.listed
    let outcome := ((reconcile shopSubject "10.0.0.9").run.run reluctant ()).1
    agenda.map (·.2) = [.list, .delete "a.lan", .create ⟨"a.lan", "10.0.0.9"⟩,
      .create ⟨"b.lan", "10.0.0.9"⟩, .delete "c.lan"] ∧
    reluctantLog.calls = [(.list, none), (.delete "a.lan", none),
      (.create ⟨"a.lan", "10.0.0.9"⟩, some (.timeout "http://pihole.lan"))] ∧
    agenda.IsKept reluctantLog outcome := by
  have hfound : reluctantLog.found? = some shop := rfl
  have kept := ((calls_keep_agenda (Dialogue.dialogue_transcript reluctant
    (reconcile shopSubject "10.0.0.9").run ())).2 shop hfound).1
  have hheld : Log.held? shop reluctantLog = some shop := by
    unfold Log.held?
    rw [if_pos (by decide)]
  rw [← hheld]
  refine ⟨?_, ?_, kept⟩
  · rw [hheld]
    decide +kernel
  · decide +kernel

end ClusterDns.Reconcile
