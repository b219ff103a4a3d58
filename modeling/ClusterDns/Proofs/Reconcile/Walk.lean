import ClusterDns.Proofs.Cluster.Manifest
import ClusterDns.Proofs.Rehearsal.Course
import ClusterDns.Proofs.Rehearsal.Records

/-! A reconcile call by call. Each call to the keeper of records is one question; a replacement is
two, and may end between them. The loops over hostnames are proved once, for any condition that
one turn carries on to the next, and so are the branches: what is secured along each of them is
secured by the whole. -/

namespace ClusterDns.Reconcile

open Cluster (Kind Object ObjectRef)
open PiHole (Record Store.list Store.create Store.delete Store.rebind)
open Rehearsal (Moment Rules get?_set removeFirst tries_call tries_count tries_note)

/-! ## Calls as single questions -/

theorem fetch_eq (ref : ObjectRef) : fetch ref =
    ExceptT.mk (.ask (I := Surroundings) (.fetch ref) fun r => .done r) := rfl

theorem patch_eq (ref : ObjectRef) (body : Json) : patch ref body =
    ExceptT.mk (.ask (I := Surroundings) (.patch ref body) fun r => .done r) := rfl

theorem onStore_list : onStore .list Store.list =
    ExceptT.mk (.ask (I := Surroundings) (.dns .list) fun r =>
      .done (Except.mapError (.store .list) r)) := rfl

theorem onStore_create (step : StoreStep) (r : Record) : onStore step (Store.create r) =
    ExceptT.mk (.ask (I := Surroundings) (.dns (.create r)) fun a =>
      .done (Except.mapError (.store step) a)) := rfl

theorem onStore_delete (step : StoreStep) (domain : String) : onStore step (Store.delete domain) =
    ExceptT.mk (.ask (I := Surroundings) (.dns (.delete domain)) fun a =>
      .done (Except.mapError (.store step) a)) := rfl

/-- A name bound to another address is freed before it is bound again. -/
theorem onStore_rebind {step : StoreStep} {r : Record} {address : String}
    (h : address ≠ r.address) : onStore step (Store.rebind r (some address)) =
      (do onStore step (Store.delete r.domain); onStore step (Store.create r)) := by
  rw [Store.rebind, if_neg h]
  show ExceptT.mk _ = ExceptT.mk _
  congr 1
  show Program.ask _ _ = Program.ask _ _
  congr 1
  funext a
  cases a <;> rfl

/-! ## Single calls under a contract -/

variable {rules : Rules} {kind : Kind} {allowed : Request → Moment → Prop}
  {invariant : Moment → Prop} {s : Moment}

theorem tries_fetch {ref : ObjectRef} {post : Option Object → Moment → Prop}
    (h : ∀ t, rules.Drift s t → invariant t → allowed (.fetch ref) t ∧
      (∀ fate r w, t.1.Answers kind (.fetch ref) fate r w →
        invariant (w, .called (.fetch ref) fate r :: t.2)) ∧
      ∀ found, t.1.fetch kind ref = .ok found →
        post found (t.1, .called (.fetch ref) .answered (.ok found) :: t.2)) :
    (rules.contract kind allowed invariant).Tries (fetch ref) post s := by
  rw [fetch_eq]
  apply tries_call
  · exact fun r hr => hr
  · intro t hd hi
    obtain ⟨ha, hinv, hpost⟩ := h t hd hi
    refine ⟨ha, hinv, ?_⟩
    intro found hf
    have hr : (t.1.answer kind (.fetch ref)).1 = .ok found := hf
    rw [hr]
    exact hpost found hf

theorem tries_patch {ref : ObjectRef} {body : Json} {post : Option Object → Moment → Prop}
    (h : ∀ t, rules.Drift s t → invariant t → allowed (.patch ref body) t ∧
      (∀ fate r w, t.1.Answers kind (.patch ref body) fate r w →
        invariant (w, .called (.patch ref body) fate r :: t.2)) ∧
      ∀ found, (t.1.patch kind ref body).1 = .ok found →
        post found ((t.1.patch kind ref body).2,
          .called (.patch ref body) .answered (.ok found) :: t.2)) :
    (rules.contract kind allowed invariant).Tries (patch ref body) post s := by
  rw [patch_eq]
  apply tries_call
  · exact fun r hr => hr
  · intro t hd hi
    obtain ⟨ha, hinv, hpost⟩ := h t hd hi
    refine ⟨ha, hinv, ?_⟩
    intro found hf
    have hr : (t.1.answer kind (.patch ref body)).1 = .ok found := hf
    rw [hr]
    exact hpost found hf

theorem tries_list {post : List Record → Moment → Prop}
    (h : ∀ t, rules.Drift s t → invariant t → allowed (.dns .list) t ∧
      (∀ fate r w, t.1.Answers kind (.dns .list) fate r w →
        invariant (w, .called (.dns .list) fate r :: t.2)) ∧
      post t.1.records (t.1, .called (.dns .list) .answered (.ok t.1.records) :: t.2)) :
    (rules.contract kind allowed invariant).Tries (onStore .list Store.list) post s := by
  rw [onStore_list]
  apply tries_call
  · rintro r ⟨e, rfl⟩
    exact ⟨_, rfl⟩
  · intro t hd hi
    obtain ⟨ha, hinv, hpost⟩ := h t hd hi
    refine ⟨ha, hinv, ?_⟩
    intro records hr
    cases hr
    exact hpost

theorem tries_create {step : StoreStep} {r : Record} {post : Unit → Moment → Prop}
    (h : ∀ t, rules.Drift s t → invariant t → allowed (.dns (.create r)) t ∧
      (∀ fate a w, t.1.Answers kind (.dns (.create r)) fate a w →
        invariant (w, .called (.dns (.create r)) fate a :: t.2)) ∧
      post () ({ t.1 with records := t.1.records ++ [r] },
        .called (.dns (.create r)) .answered (.ok ()) :: t.2)) :
    (rules.contract kind allowed invariant).Tries (onStore step (Store.create r)) post s := by
  rw [onStore_create]
  apply tries_call
  · rintro a ⟨e, rfl⟩
    exact ⟨_, rfl⟩
  · intro t hd hi
    obtain ⟨ha, hinv, hpost⟩ := h t hd hi
    exact ⟨ha, hinv, fun _ _ => hpost⟩

theorem tries_delete {step : StoreStep} {domain : String} {post : Unit → Moment → Prop}
    (h : ∀ t, rules.Drift s t → invariant t → allowed (.dns (.delete domain)) t ∧
      (∀ fate a w, t.1.Answers kind (.dns (.delete domain)) fate a w →
        invariant (w, .called (.dns (.delete domain)) fate a :: t.2)) ∧
      post () ({ t.1 with records := removeFirst domain t.1.records },
        .called (.dns (.delete domain)) .answered (.ok ()) :: t.2)) :
    (rules.contract kind allowed invariant).Tries (onStore step (Store.delete domain)) post s := by
  rw [onStore_delete]
  apply tries_call
  · rintro a ⟨e, rfl⟩
    exact ⟨_, rfl⟩
  · intro t hd hi
    obtain ⟨ha, hinv, hpost⟩ := h t hd hi
    exact ⟨ha, hinv, fun _ _ => hpost⟩

/-! ## Loops -/

/-- A turn is a host that is not bound to the target yet. At the end all are. -/
theorem tries_bindHosts {subject : Subject} {target : String} {hosts : List String}
    {P : Bindings → Moment → Prop} (lasting : ∀ b, rules.Lasting (P b))
    (turn : ∀ host ∈ hosts, ∀ b t, P b t → b.get? host ≠ some target →
      (rules.contract kind allowed invariant).Tries
        (onStore .create (Store.rebind ⟨host, target⟩ (b.get? host)))
        (fun _ => P (b.set host target)) t)
    {b : Bindings} (h : P b s) :
    (rules.contract kind allowed invariant).Tries (bindHosts subject target hosts b)
      (fun _ t => ∃ b', P b' t ∧ (∀ host ∈ hosts, b'.get? host = some target) ∧
        ∀ host, b.get? host = some target → b'.get? host = some target) s := by
  induction hosts generalizing b s with
  | nil => exact Contract.tries_pure ⟨b, h, by simp, fun _ hb => hb⟩
  | cons host rest ih =>
    obtain ⟨hturn, hrest⟩ := List.forall_mem_cons.mp turn
    rw [bindHosts]
    split
    · rename_i hb
      refine Contract.Tries.mono (ih hrest h) fun _ t ht => ?_
      obtain ⟨b', hP, hall, hold⟩ := ht
      exact ⟨b', hP, List.forall_mem_cons.mpr ⟨hold host hb, hall⟩, hold⟩
    · rename_i hb
      refine Contract.Tries.bind ?_
      refine Contract.Tries.mono (hturn b s h hb) ?_
      intro _ t ht
      refine Contract.Tries.bind ?_
      have hnoted : (rules.contract kind allowed invariant).Tries
          (noteBound subject ⟨host, target⟩ (b.get? host)) (fun _ => P (b.set host target)) t := by
        cases b.get? host <;>
        · refine Contract.Tries.bind ?_
          refine tries_note ?_
          intro u hu
          refine tries_count ?_
          intro v hv
          exact (lasting _).drift hv ((lasting _).drift hu ht)
      refine Contract.Tries.mono hnoted ?_
      intro _ u hu
      refine Contract.Tries.mono (ih hrest hu) fun _ v hv => ?_
      obtain ⟨b', hP, hall, hold⟩ := hv
      have hset : ∀ other, other = host ∨ b.get? other = some target →
          b'.get? other = some target := by
        intro other ho
        refine hold _ ?_
        rw [get?_set]
        split
        · rfl
        · exact ho.resolve_left (by assumption)
      refine ⟨b', hP, List.forall_mem_cons.mpr ⟨hset host (.inl rfl), hall⟩, ?_⟩
      exact fun other ho => hset other (.inr ho)

/-- The condition may speak of the hosts deleted so far. -/
theorem tries_deleteHosts {subject : Subject} {hosts : List String}
    {P : List String → Moment → Prop} (lasting : ∀ gone, rules.Lasting (P gone))
    (turn : ∀ gone host rest, hosts = gone ++ host :: rest → ∀ t, P gone t →
      (rules.contract kind allowed invariant).Tries (onStore .delete (Store.delete host))
        (fun _ => P (gone ++ [host])) t)
    (h : P [] s) :
    (rules.contract kind allowed invariant).Tries (deleteHosts subject hosts)
      (fun _ => P hosts) s := by
  suffices hall : ∀ rest gone s, hosts = gone ++ rest → P gone s →
      (rules.contract kind allowed invariant).Tries (deleteHosts subject rest)
        (fun _ => P hosts) s from hall hosts [] s rfl h
  intro rest
  induction rest with
  | nil =>
    intro gone s hg hs
    rw [List.append_nil] at hg
    subst hg
    exact Contract.tries_pure hs
  | cons host rest ih =>
    intro gone s hg hs
    rw [deleteHosts, deleteHost]
    refine Contract.Tries.bind ?_
    refine Contract.Tries.bind ?_
    refine Contract.Tries.mono (turn gone host rest hg s hs) ?_
    intro _ t ht
    refine Contract.Tries.bind ?_
    refine tries_note ?_
    intro u hu
    refine tries_count ?_
    intro v hv
    apply ih (gone ++ [host])
    · rw [hg, List.append_assoc]
      rfl
    · exact (lasting _).drift hv ((lasting _).drift hu ht)

/-! ## Branches -/

/-- The patch by which an object gets the finalizer. -/
abbrev holdingMembers (object : Object) : Json.Members :=
  [finalizersMember (object.finalizers ++ [cleanupFinalizer])]

/-- The patch by which hosts are written down. -/
abbrev writingMembers (hosts : List String) : Json.Members :=
  [Cluster.Manifest.annotationMember Key.managedHosts (managedText? hosts)]

/-- The patch by which an object is let go. -/
abbrev partingMembers (object : Object) : Json.Members :=
  [finalizersMember (object.finalizers.filter (· ≠ cleanupFinalizer)),
    Cluster.Manifest.annotationMember Key.managedHosts none]

section

variable {object : Object} {subject : Subject} {post : Unit → Moment → Prop}

theorem tries_ensureFinalizer {post : Option Object → Moment → Prop}
    (held : object.hasFinalizer cleanupFinalizer = true → post (some object) s)
    (bare : ¬ object.hasFinalizer cleanupFinalizer = true → ∀ t, rules.Drift s t →
      (rules.contract kind allowed invariant).Tries
        (patch object.ref (metadataPatch object (holdingMembers object))) post t) :
    (rules.contract kind allowed invariant).Tries
      (ensureFinalizer kind object cleanupFinalizer) post s := by
  rw [ensureFinalizer]
  split
  · rename_i h
    exact Contract.tries_pure (held h)
  · rename_i h
    exact Contract.Tries.bind (tries_note (bare h))

theorem tries_cleanup
    (h : (rules.contract kind allowed invariant).Tries
      (deleteHosts ⟨kind, object.ref⟩ (Annotations.managed object.annotations))
      (fun _ t => (¬ object.hasFinalizer cleanupFinalizer = true → post () t) ∧
        (object.hasFinalizer cleanupFinalizer = true → ∀ u, rules.Drift t u →
          (rules.contract kind allowed invariant).Tries
            (patch object.ref (metadataPatch object (partingMembers object)))
            (fun _ => post ()) u)) s) :
    (rules.contract kind allowed invariant).Tries (cleanup kind object) post s := by
  refine Contract.Tries.bind (Contract.Tries.mono h fun _ t ht => ?_)
  rw [removeFinalizer]
  split
  · rename_i hheld
    refine Contract.Tries.bind (tries_note fun u hu => ?_)
    refine Contract.Tries.bind (Contract.Tries.mono (ht.2 hheld u hu) fun _ v hv => ?_)
    exact Contract.tries_pure hv
  · rename_i hbare
    exact Contract.tries_pure (ht.1 hbare)

theorem tries_release {reason : Event}
    (bare : ¬ object.hasFinalizer cleanupFinalizer = true → post () s)
    (held : object.hasFinalizer cleanupFinalizer = true → ∀ t, rules.Drift s t →
      (rules.contract kind allowed invariant).Tries (cleanup subject.kind object) post t) :
    (rules.contract kind allowed invariant).Tries (release subject reason object) post s := by
  rw [release]
  split
  · rename_i h
    exact Contract.Tries.bind (tries_note (held h))
  · rename_i h
    exact Contract.tries_pure (bare h)

theorem tries_writeManaged {hosts : List String}
    (h : (rules.contract kind allowed invariant).Tries (fetch subject.ref)
      (fun found t => match found with
        | none => ∀ u, rules.Drift t u → post () u
        | some latest =>
          (Annotations.get? latest.annotations Key.managedHosts = managedText? hosts →
            post () t) ∧
          (Annotations.get? latest.annotations Key.managedHosts ≠ managedText? hosts →
            (rules.contract kind allowed invariant).Tries
              (patch subject.ref (metadataPatch latest (writingMembers hosts)))
              (fun _ => post ()) t)) s) :
    (rules.contract kind allowed invariant).Tries (writeManaged subject hosts) post s := by
  refine Contract.Tries.bind (Contract.Tries.mono h fun found t ht => ?_)
  cases found with
  | none => exact tries_note ht
  | some latest =>
    dsimp only
    split
    · rename_i hother
      refine Contract.Tries.bind (Contract.Tries.mono (ht.2 hother) fun _ u hu => ?_)
      exact Contract.tries_pure hu
    · rename_i hsame
      exact Contract.tries_pure (ht.1 (not_not.mp hsame))

/-- The hosts written down on an object that it does not ask for. -/
abbrev obsoleteHosts (object : Object) : List String :=
  (Annotations.managed object.annotations).filter (!(desiredHosts object).contains ·)

theorem tries_serve {defaultTarget : String}
    (idle : desiredHosts object = [] ∨ Annotations.target? object.annotations defaultTarget = none →
      ∀ t, rules.Drift s t → post () t)
    (busy : ∀ target, desiredHosts object ≠ [] →
      Annotations.target? object.annotations defaultTarget = some target →
      (rules.contract kind allowed invariant).Tries
        (syncHosts subject target (desiredHosts object))
        (fun _ t => (rules.contract kind allowed invariant).Tries
          (deleteHosts subject (obsoleteHosts object))
          (fun _ u => (rules.contract kind allowed invariant).Tries
            (writeManaged subject (desiredHosts object))
            (fun _ v => ∀ w, rules.Drift v w → post () w) u) t) s) :
    (rules.contract kind allowed invariant).Tries (serve subject defaultTarget object) post s := by
  unfold serve
  dsimp only
  split
  · rename_i hnone
    exact tries_note (idle (.inl (List.isEmpty_iff.mp hnone)))
  · rename_i hasks
    split
    · rename_i hinvalid
      exact tries_note (idle (.inr hinvalid))
    · rename_i target htarget
      have asks : desiredHosts object ≠ [] := fun he => hasks (List.isEmpty_iff.mpr he)
      refine Contract.Tries.bind (Contract.Tries.mono (busy target asks htarget) fun _ t ht => ?_)
      refine Contract.Tries.bind (Contract.Tries.mono ht fun _ u hu => ?_)
      refine Contract.Tries.bind (Contract.Tries.rephrase ?_)
      exact Contract.Tries.mono hu fun _ v hv => tries_note hv

theorem tries_reconcile {defaultTarget : String}
    (h : (rules.contract kind allowed invariant).Tries (fetch subject.ref)
      (fun found t => match found with
        | none => ∀ u, rules.Drift t u → post () u
        | some object =>
          (object.isBeingDeleted = true ∨ Annotations.isRegistered object.annotations = false →
            ∀ reason, (rules.contract kind allowed invariant).Tries
              (release subject reason object) post t) ∧
          (object.isBeingDeleted = false → Annotations.isRegistered object.annotations = true →
            (rules.contract kind allowed invariant).Tries
              (ensureFinalizer subject.kind object cleanupFinalizer)
              (fun held u => match held with
                | none => post () u
                | some next => (rules.contract kind allowed invariant).Tries
                    (serve subject defaultTarget next) post u) t)) s) :
    (rules.contract kind allowed invariant).Tries (reconcile subject defaultTarget) post s := by
  refine Contract.Tries.bind (Contract.Tries.mono h fun found t ht => ?_)
  cases found with
  | none => exact tries_note ht
  | some object =>
    dsimp only
    split
    · rename_i hdeleted
      exact ht.1 (.inl hdeleted) _
    · rename_i hstays
      split
      · rename_i hunregistered
        exact ht.1 (.inr (by simpa using hunregistered)) _
      · rename_i hregistered
        have stays : object.isBeingDeleted = false := by simpa using hstays
        refine Contract.Tries.bind (Contract.Tries.mono
          (ht.2 stays (by simpa using hregistered)) fun held u hu => ?_)
        cases held with
        | none => exact Contract.tries_pure hu
        | some next => exact hu

end

end ClusterDns.Reconcile
