import ClusterDns.Proofs.Reconcile.Walk

/-! Undisturbed work: every call is answered, and nobody else is about. The keeper of records never
refuses a call, so work on records always comes to its end, and it leaves the objects alone. -/

namespace ClusterDns.Reconcile

open Cluster (Kind Object ObjectRef)
open PiHole (Record Store.list Store.create Store.delete Store.rebind)
open Rehearsal (Moment Rules World removeAll removeFirst)

variable {kind : Kind} {α β : Type} {w w' w'' : World}

/-- Undisturbed, an action ends with a result and leaves a world. -/
def Ends (kind : Kind) (x : Action α) (w : World) (a : α) (w' : World) : Prop :=
  x.run.run (World.answer kind) w = (.ok a, w')

theorem ends_pure (a : α) (w : World) : Ends kind (pure a : Action α) w a w := rfl

theorem Ends.bind {x : Action α} {f : α → Action β} {a : α} {b : β} (hx : Ends kind x w a w')
    (hf : Ends kind (f a) w' b w'') : Ends kind (x >>= f) w b w'' := by
  show Program.run (World.answer kind) (x.run >>= _) w = _
  rw [Program.run_bind, hx]
  exact hf

theorem Ends.rephrase {x : Action α} {a : α} (h : Ends kind x w a w') (f : Error → Error) :
    Ends kind (Attempt.rephrase f x) w a w' := by
  show Program.run (World.answer kind) (x.run >>= _) w = _
  rw [Program.run_bind, h]
  rfl

theorem ends_fetch {ref : ObjectRef} {found : Option Object}
    (h : w.fetch kind ref = .ok found) : Ends kind (fetch ref) w found w := by
  rw [Ends, fetch_eq]
  exact congrArg (·, w) h

theorem ends_patch {ref : ObjectRef} {body : Json} {found : Option Object}
    (h : w.patch kind ref body = (.ok found, w')) : Ends kind (patch ref body) w found w' := by
  rw [Ends, patch_eq]
  exact h

theorem ends_note (subject : Subject) (event : Event) (w : World) :
    Ends kind (note subject event) w () w := rfl

theorem ends_count (series : Metrics.Series) (w : World) :
    Ends kind (count series) w () w := rfl

theorem ends_list (w : World) : Ends kind (onStore .list Store.list) w w.records w := rfl

theorem ends_create (step : StoreStep) (r : Record) (w : World) :
    Ends kind (onStore step (Store.create r)) w () { w with records := w.records ++ [r] } := rfl

theorem ends_delete (step : StoreStep) (domain : String) (w : World) :
    Ends kind (onStore step (Store.delete domain)) w ()
      { w with records := removeFirst domain w.records } := rfl

/-! ## Work on records -/

/-- The records after a name is bound again, given the address it had. -/
def rebound (r : Record) (bound : Option String) (records : List Record) : List Record :=
  if bound.isSome then removeFirst r.domain records ++ [r] else records ++ [r]

/-- The records after hosts are bound one after another. Bindings tell which of them are bound to
the target already. -/
def boundAll (target : String) : List String → Bindings → List Record → List Record
  | [], _, records => records
  | host :: rest, bindings, records =>
    if bindings.get? host = some target then boundAll target rest bindings records
    else boundAll target rest (bindings.set host target)
      (rebound ⟨host, target⟩ (bindings.get? host) records)

theorem ends_rebind {step : StoreStep} {r : Record} {bound : Option String}
    (h : bound ≠ some r.address) (w : World) :
    Ends kind (onStore step (Store.rebind r bound)) w ()
      { w with records := rebound r bound w.records } := by
  cases bound with
  | none => exact ends_create step r w
  | some address =>
    have hne : address ≠ r.address := fun he => h (congrArg some he)
    rw [onStore_rebind hne]
    exact (ends_delete step r.domain w).bind (ends_create step r _)

theorem ends_bindHosts (subject : Subject) (target : String) (hosts : List String) (b : Bindings)
    (w : World) : Ends kind (bindHosts subject target hosts b) w ()
      { w with records := boundAll target hosts b w.records } := by
  induction hosts generalizing b w with
  | nil => exact ends_pure () w
  | cons host rest ih =>
    rw [bindHosts, boundAll]
    split
    · exact ih b w
    · rename_i hb
      have hnoted : ∀ v : World,
          Ends kind (noteBound subject ⟨host, target⟩ (b.get? host)) v () v := by
        intro v
        cases b.get? host <;> exact (ends_note _ _ _).bind (ends_count _ _)
      exact (ends_rebind (r := ⟨host, target⟩) hb w).bind ((hnoted _).bind (ih _ _))

theorem ends_syncHosts (subject : Subject) (target : String) (hosts : List String) (w : World) :
    Ends kind (syncHosts subject target hosts) w ()
      { w with records := boundAll target hosts (.ofRecords w.records) w.records } :=
  (ends_list w).bind (ends_bindHosts subject target hosts _ w)

theorem ends_deleteHosts (subject : Subject) (hosts : List String) (w : World) :
    Ends kind (deleteHosts subject hosts) w ()
      { w with records := removeAll hosts w.records } := by
  induction hosts generalizing w with
  | nil => exact ends_pure () w
  | cons host rest ih =>
    have hhost : Ends kind (deleteHost subject host) w ()
        { w with records := removeFirst host w.records } :=
      (ends_delete .delete host w).bind ((ends_note _ _ _).bind (ends_count _ _))
    exact hhost.bind (ih _)

/-! ## Contracts -/

/-- What an action tries for under a contract is so where it ends undisturbed. -/
theorem Ends.keeps {rules : Rules} {allowed : Request → Moment → Prop} {invariant : Moment → Prop}
    {x : Action α} {a : α} {post : α → Moment → Prop} {events : List Rehearsal.Occurrence}
    (h : Ends kind x w a w') (hi : invariant (w, events))
    (ht : (rules.contract kind allowed invariant).Tries x post (w, events)) :
    ∃ more, post a (w', more) := by
  have hrun : ∀ (p : Program Surroundings (Except Error α)) w events, invariant (w, events) →
      (rules.contract kind allowed invariant).Secures p
        (fun r t => ∀ a, r = .ok a → post a t) (w, events) →
      ∃ more, ∀ a, (p.run (World.answer kind) w).1 = .ok a →
        post a ((p.run (World.answer kind) w).2, more) := by
    intro p
    induction p with
    | done r => exact fun w events _ hp => ⟨events, hp⟩
    | ask q next ih =>
      intro w events hi hp
      obtain ⟨-, hn⟩ := hp (w, events) .refl hi
      obtain ⟨hu, hnext⟩ := hn _ ((w.answer kind q).2, _) ⟨_, .answered, rfl⟩
      exact ih _ _ _ hu hnext
  obtain ⟨more, hmore⟩ := hrun x.run w events hi ht
  rw [show x.run.run (World.answer kind) w = (.ok a, w') from h] at hmore
  exact ⟨more, hmore a rfl⟩

end ClusterDns.Reconcile
