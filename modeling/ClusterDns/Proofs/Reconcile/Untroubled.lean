import ClusterDns.Proofs.Reconcile.Walk

/-! A reconcile fails only with a call. As long as every call is answered with what it asks for, the
reconcile goes on to its end and has no error to report. So what it tries for in a smooth run it
brings about. -/

namespace ClusterDns.Reconcile

open Cluster (Kind Object ObjectRef)
open PiHole (Record Store.list Store.create Store.delete Store.rebind)
open Rehearsal (IsFailure Moment Occurrence Rules)

/-- The program ends without an error, if no answer is a failure. -/
def Untroubled {α : Type} : Program Surroundings (Except Error α) → Prop
  | .done r => ∃ a, r = .ok a
  | .ask q next => ∀ r : q.Answer, ¬ IsFailure q r → Untroubled (next r)

variable {α β : Type}

theorem untroubled_pure (a : α) : Untroubled (pure a : Action α).run := ⟨a, rfl⟩

theorem Untroubled.bind_program {p : Program Surroundings (Except Error α)}
    {f : Except Error α → Program Surroundings (Except Error β)} (hp : Untroubled p)
    (hf : ∀ a, Untroubled (f (.ok a))) : Untroubled (p >>= f) := by
  induction p with
  | done r =>
    obtain ⟨a, rfl⟩ := hp
    exact hf a
  | ask q next ih => exact fun r hr => ih r (hp r hr)

theorem Untroubled.bind {x : Action α} {f : α → Action β} (hx : Untroubled x.run)
    (hf : ∀ a, Untroubled (f a).run) : Untroubled (x >>= f).run :=
  Untroubled.bind_program hx hf

theorem Untroubled.rephrase {x : Action α} (h : Untroubled x.run) (f : Error → Error) :
    Untroubled (Attempt.rephrase f x).run :=
  Untroubled.bind_program h fun a => ⟨a, rfl⟩

/-! ## Calls -/

/-- An answer that is no failure has a value. -/
theorem exists_ok {ε : Type} {r : Except ε α} (h : ¬ ∃ e, r = .error e) : ∃ a, r = .ok a := by
  cases r with
  | ok a => exact ⟨a, rfl⟩
  | error e => exact absurd ⟨e, rfl⟩ h

theorem ok_not_error {ε : Type} (a : α) : ¬ ∃ e : ε, Except.ok a = .error e := by simp

theorem untroubled_fetch (ref : ObjectRef) : Untroubled (fetch ref).run :=
  fun _ hr => exists_ok hr

theorem untroubled_patch (ref : ObjectRef) (body : Json) : Untroubled (patch ref body).run :=
  fun _ hr => exists_ok hr

theorem untroubled_note (subject : Subject) (event : Event) :
    Untroubled (note subject event).run := fun _ _ => ⟨(), rfl⟩

theorem untroubled_count (series : Metrics.Series) : Untroubled (count series).run :=
  fun _ _ => ⟨(), rfl⟩

theorem untroubled_list : Untroubled (onStore .list Store.list).run := by
  intro r hr
  obtain ⟨records, rfl⟩ := exists_ok hr
  exact ⟨records, rfl⟩

theorem untroubled_create (step : StoreStep) (r : Record) :
    Untroubled (onStore step (Store.create r)).run := by
  intro a ha
  obtain ⟨u, rfl⟩ := exists_ok ha
  exact ⟨u, rfl⟩

theorem untroubled_delete (step : StoreStep) (domain : String) :
    Untroubled (onStore step (Store.delete domain)).run := by
  intro a ha
  obtain ⟨u, rfl⟩ := exists_ok ha
  exact ⟨u, rfl⟩

theorem untroubled_rebind (step : StoreStep) (r : Record) (bound : Option String) :
    Untroubled (onStore step (Store.rebind r bound)).run := by
  cases bound with
  | none => exact untroubled_create step r
  | some address =>
    by_cases he : address = r.address
    · rw [Store.rebind, if_pos he]
      exact ⟨(), rfl⟩
    · rw [onStore_rebind he]
      exact (untroubled_delete step r.domain).bind fun _ => untroubled_create step r

/-! ## Reconciles -/

theorem untroubled_noteBound (subject : Subject) (r : Record) (bound : Option String) :
    Untroubled (noteBound subject r bound).run := by
  cases bound <;> exact (untroubled_note _ _).bind fun _ => untroubled_count _

theorem untroubled_bindHosts (subject : Subject) (target : String) (hosts : List String)
    (b : Bindings) : Untroubled (bindHosts subject target hosts b).run := by
  induction hosts generalizing b with
  | nil => exact untroubled_pure ()
  | cons host rest ih =>
    rw [bindHosts]
    split
    · exact ih b
    · refine (untroubled_rebind _ _ _).bind fun _ => ?_
      exact (untroubled_noteBound _ _ _).bind fun _ => ih _

theorem untroubled_deleteHosts (subject : Subject) (hosts : List String) :
    Untroubled (deleteHosts subject hosts).run := by
  induction hosts with
  | nil => exact untroubled_pure ()
  | cons host rest ih =>
    refine Untroubled.bind ?_ fun _ => ih
    refine (untroubled_delete _ _).bind fun _ => ?_
    exact (untroubled_note _ _).bind fun _ => untroubled_count _

theorem untroubled_cleanup (kind : Kind) (object : Object) :
    Untroubled (cleanup kind object).run := by
  refine (untroubled_deleteHosts _ _).bind fun _ => ?_
  rw [removeFinalizer]
  split
  · refine (untroubled_note _ _).bind fun _ => ?_
    exact (untroubled_patch _ _).bind fun _ => untroubled_pure ()
  · exact untroubled_pure ()

theorem untroubled_release (subject : Subject) (reason : Event) (object : Object) :
    Untroubled (release subject reason object).run := by
  rw [release]
  split
  · exact (untroubled_note _ _).bind fun _ => untroubled_cleanup _ _
  · exact untroubled_pure ()

theorem untroubled_ensureFinalizer (kind : Kind) (object : Object) (finalizer : String) :
    Untroubled (ensureFinalizer kind object finalizer).run := by
  rw [ensureFinalizer]
  split
  · exact untroubled_pure _
  · exact (untroubled_note _ _).bind fun _ => untroubled_patch _ _

theorem untroubled_writeManaged (subject : Subject) (hosts : List String) :
    Untroubled (writeManaged subject hosts).run := by
  refine (untroubled_fetch _).bind fun found => ?_
  cases found with
  | none => exact untroubled_note _ _
  | some latest =>
    dsimp only
    split
    · exact (untroubled_patch _ _).bind fun _ => untroubled_pure ()
    · exact untroubled_pure ()

theorem untroubled_serve (subject : Subject) (defaultTarget : String) (object : Object) :
    Untroubled (serve subject defaultTarget object).run := by
  unfold serve
  dsimp only
  split
  · exact untroubled_note _ _
  · split
    · exact untroubled_note _ _
    · refine (untroubled_list.bind fun _ => untroubled_bindHosts _ _ _ _).bind fun _ => ?_
      refine (untroubled_deleteHosts _ _).bind fun _ => ?_
      exact ((untroubled_writeManaged _ _).rephrase _).bind fun _ => untroubled_note _ _

theorem untroubled_reconcile (subject : Subject) (defaultTarget : String) :
    Untroubled (reconcile subject defaultTarget).run := by
  refine (untroubled_fetch _).bind fun found => ?_
  cases found with
  | none => exact untroubled_note _ _
  | some object =>
    dsimp only
    split
    · exact untroubled_release _ _ _
    · split
      · exact untroubled_release _ _ _
      · refine (untroubled_ensureFinalizer _ _ _).bind fun held => ?_
        cases held with
        | none => exact untroubled_pure ()
        | some next => exact untroubled_serve _ _ _

/-! ## Contracts -/

/-- The same contract where no call fails. -/
abbrev sparing (c : Contract Surroundings Moment) : Contract Surroundings Moment :=
  { c with answers := fun q s r t => c.answers q s r t ∧ ¬ IsFailure q r }

/-- Where no call fails, an action ends with what it tries for. -/
theorem Untroubled.secures {c : Contract Surroundings Moment} {x : Action α}
    {post : α → Moment → Prop} {s : Moment} (hx : Untroubled x.run) (h : c.Tries x post s) :
    (sparing c).Secures x.run (fun r t => ∃ a, r = .ok a ∧ post a t) s := by
  have hall : ∀ (p : Program Surroundings (Except Error α)) (s : Moment), Untroubled p →
      c.Secures p (fun r t => ∀ a, r = .ok a → post a t) s →
      (sparing c).Secures p (fun r t => ∃ a, r = .ok a ∧ post a t) s := by
    intro p
    induction p with
    | done r =>
      intro s hp hpost
      obtain ⟨a, rfl⟩ := hp
      exact ⟨a, rfl, hpost a rfl⟩
    | ask q next ih =>
      intro s hp hpost t hd hi
      obtain ⟨ha, hn⟩ := hpost t hd hi
      refine ⟨ha, fun r u hu => ?_⟩
      obtain ⟨hinv, hnext⟩ := hn r u hu.1
      exact ⟨hinv, ih r u (hp r hu.2) hnext⟩
  exact hall x.run s hx h

/-! ## Smooth runs -/

/-- An event that is no call, or a call that was answered, and not with a failure. -/
def Succeeded : Occurrence → Prop
  | .called q fate r => fate = .answered ∧ ¬ IsFailure q r
  | _ => True

def Smooth (events : List Occurrence) : Prop := ∀ event ∈ events, Succeeded event

instance (q : Request) (r : q.Answer) : Decidable (IsFailure q r) := by
  have hanswer : ∀ {ε α : Type} (r : Except ε α), Decidable (∃ e, r = .error e) := by
    intro ε α r
    exact match r with
      | .error e => .isTrue ⟨e, rfl⟩
      | .ok a => .isFalse (fun ⟨_, he⟩ => nomatch he)
  exact match q, r with
    | .fetch _, r => hanswer r
    | .patch .., r => hanswer r
    | .dns .list, r => hanswer r
    | .dns (.create _), r => hanswer r
    | .dns (.delete _), r => hanswer r
    | .note _, _ => .isFalse id
    | .count _, _ => .isFalse id

instance : DecidablePred Succeeded
  | .called q fate r => inferInstanceAs (Decidable (fate = .answered ∧ ¬ IsFailure q r))
  | .edited => .isTrue trivial
  | .started _ => .isTrue trivial

instance (events : List Occurrence) : Decidable (Smooth events) :=
  inferInstanceAs (Decidable (∀ event ∈ events, Succeeded event))

theorem Smooth.suffix {events later : List Occurrence} (h : Smooth later) (hs : events <:+ later) :
    Smooth events := fun event hm => h event (hs.subset hm)

theorem Smooth.of_cons {event : Occurrence} {events : List Occurrence}
    (h : Smooth (event :: events)) : Smooth events := h.suffix (List.suffix_cons _ _)

theorem Smooth.edited {events : List Occurrence} (h : Smooth events) :
    Smooth (.edited :: events) := List.forall_mem_cons.mpr ⟨trivial, h⟩

theorem Smooth.started {events : List Occurrence} (h : Smooth events) (subject : Subject) :
    Smooth (.started subject :: events) := List.forall_mem_cons.mpr ⟨trivial, h⟩

theorem Smooth.called {events : List Occurrence} (h : Smooth events) {q : Request} {r : q.Answer}
    (hr : ¬ IsFailure q r) : Smooth (.called q .answered r :: events) :=
  List.forall_mem_cons.mpr ⟨⟨rfl, hr⟩, h⟩

section

variable {rules : Rules} {kind : Kind} {allowed : Request → Moment → Prop}
  {invariant : Moment → Prop} {Q : Moment → Prop} {s t : Moment}

theorem suffix_of_drift (hd : rules.Drift s t) : s.2 <:+ t.2 := by
  induction hd with
  | refl => exact List.suffix_refl _
  | tail _ hi ih =>
    rw [hi.2.2]
    exact ih.trans (List.suffix_cons _ _)

theorem Smooth.drift (h : Smooth s.2) (hd : rules.Drift s t) : Smooth t.2 := by
  induction hd with
  | refl => exact h
  | tail _ hi ih =>
    rw [hi.2.2]
    exact ih.edited

/-- A contract for smooth runs: once a call has failed there is no duty left. -/
abbrev smoothly (rules : Rules) (kind : Kind) (allowed : Request → Moment → Prop)
    (invariant : Moment → Prop) : Contract Surroundings Moment :=
  rules.contract kind (fun q s => Smooth s.2 → allowed q s) (fun s => Smooth s.2 → invariant s)

theorem secures_of_not_smooth (p : Program Surroundings (Except Error α)) (h : ¬ Smooth s.2) :
    (smoothly rules kind allowed invariant).Secures p (fun _ t => Smooth t.2 → Q t) s := by
  induction p generalizing s with
  | done r => exact fun hs => absurd hs h
  | ask q next ih =>
    intro t hd _
    have ht : ¬ Smooth t.2 := fun hs => h (hs.suffix (suffix_of_drift hd))
    refine ⟨fun _ hs => absurd hs ht, ?_⟩
    intro r u hu
    obtain ⟨fate, -, he⟩ := hu
    have hnot : ¬ Smooth u.2 := by
      intro hs
      rw [he] at hs
      exact ht (hs.suffix (List.suffix_append _ _))
    exact ⟨fun hs => absurd hs hnot, ih r hnot⟩

/-- A failure leaves a trace. -/
theorem not_smooth_of_failure {q : Request} {fate : Rehearsal.Fate} {r : q.Answer}
    {events : List Occurrence} (hr : IsFailure q r) :
    ¬ Smooth (Occurrence.ofQuestion q fate r ++ events) := by
  intro hs
  have hcalled : .called q fate r ∈ Occurrence.ofQuestion q fate r ++ events := by
    cases q with
    | note _ => cases hr
    | count _ => cases hr
    | _ => exact List.mem_cons_self
  have hcall : fate = .answered ∧ ¬ IsFailure q r := hs _ hcalled
  exact hcall.2 hr

/-- What a reconcile tries for holds at its end, whatever its result, if no call has failed. -/
theorem secures_of_tries {x : Action α} (hx : Untroubled x.run)
    (h : (smoothly rules kind allowed invariant).Tries x (fun _ => Q) s) :
    (smoothly rules kind allowed invariant).Secures x.run (fun _ t => Smooth t.2 → Q t) s := by
  have hall : ∀ (p : Program Surroundings (Except Error α)) (s : Moment), Untroubled p →
      (smoothly rules kind allowed invariant).Secures p
        (fun r t => ∀ a, r = .ok a → Q t) s →
      (smoothly rules kind allowed invariant).Secures p (fun _ t => Smooth t.2 → Q t) s := by
    intro p
    induction p with
    | done r =>
      intro s hp hpost _
      obtain ⟨a, rfl⟩ := hp
      exact hpost a rfl
    | ask q next ih =>
      intro s hp hpost t hd hi
      obtain ⟨ha, hn⟩ := hpost t hd hi
      refine ⟨ha, fun r u hu => ⟨(hn r u hu).1, ?_⟩⟩
      by_cases hr : IsFailure q r
      · obtain ⟨fate, -, he⟩ := hu
        refine secures_of_not_smooth _ ?_
        rw [he]
        exact not_smooth_of_failure hr
      · exact ih r u (hp r hr) (hn r u hu).2
  exact hall x.run s hx h

end

end ClusterDns.Reconcile
