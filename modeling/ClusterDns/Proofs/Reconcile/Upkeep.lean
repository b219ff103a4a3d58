import ClusterDns.Proofs.Reconcile.Walk
import ClusterDns.Proofs.Rehearsal.Records

/-! Work on the records of some hosts while nobody else is about. The list of records that is taken
first stays a true account of the store to the end, so a record is made only of a name that has
none. Whatever outlasts single steps of this work outlasts all of it. -/

namespace ClusterDns.Reconcile

open Cluster (Kind)
open PiHole (Record Store.create Store.delete Store.rebind)
open Rehearsal

/-- What outlasts the making of records of some names and the deletion of those of others. Where
names are unique, a record is made only of a name that has none. -/
structure Outlasts (unique : Prop) (makes clears : List Occurrence → String → Prop)
    (invariant : Moment → Prop) : Prop where
  single : ∀ s, invariant s → unique → OnePerName s.1.records
  more : ∀ w events event, invariant (w, events) → invariant (w, event :: events)
  create : ∀ w events r, invariant (w, events) → makes events r.domain →
    (unique → recordsOf r.domain w.records = []) →
    invariant ({ w with records := w.records ++ [r] }, events)
  delete : ∀ w events domain, invariant (w, events) → clears events domain →
    invariant ({ w with records := removeFirst domain w.records }, events)

/-- What work on the records of some hosts leaves alone. -/
structure Worked (hosts : List String) (s t : Moment) : Prop where
  events : s.2 <:+ t.2
  server : t.1.server = s.1.server
  frame : ∀ domain, domain ∉ hosts → recordsOf domain t.1.records = recordsOf domain s.1.records

theorem Worked.refl (hosts : List String) (s : Moment) : Worked hosts s s :=
  ⟨List.suffix_refl _, rfl, fun _ _ => rfl⟩

theorem Worked.event {hosts : List String} {s t : Moment} (h : Worked hosts s t)
    (event : Occurrence) : Worked hosts s (t.1, event :: t.2) :=
  ⟨h.events.trans (List.suffix_cons _ _), h.server, h.frame⟩

theorem Worked.create {hosts : List String} {s t : Moment} (h : Worked hosts s t) {r : Record}
    (hr : r.domain ∈ hosts) :
    Worked hosts s ({ t.1 with records := t.1.records ++ [r] }, t.2) := by
  refine ⟨h.events, h.server, fun domain hd => ?_⟩
  have hne : r.domain ≠ domain := fun he => hd (he ▸ hr)
  rw [recordsOf_create, if_neg hne]
  exact h.frame domain hd

theorem Worked.delete {hosts : List String} {s t : Moment} (h : Worked hosts s t)
    {removed : String} (hr : removed ∈ hosts) :
    Worked hosts s ({ t.1 with records := removeFirst removed t.1.records }, t.2) := by
  refine ⟨h.events, h.server, fun domain hd => ?_⟩
  have hne : removed ≠ domain := fun he => hd (he ▸ hr)
  rw [recordsOf_removeFirst, if_neg hne]
  exact h.frame domain hd

section

variable {rules : Rules} {kind : Kind} {unique : Prop}
  {makes clears : List Occurrence → String → Prop} {invariant : Moment → Prop} {s t : Moment}
  {hosts : List String}

/-- All is allowed, as long as the invariant is kept. -/
abbrev keeping (rules : Rules) (kind : Kind) (invariant : Moment → Prop) :
    Contract Surroundings Moment :=
  rules.contract kind (fun _ _ => True) invariant

theorem keeps_note (never : ¬ rules.anytime) {subject : Subject} {event : Event}
    {post : Unit → Moment → Prop} (hp : post () s) :
    (keeping rules kind invariant).Tries (note subject event) post s := by
  refine tries_note fun t hd => ?_
  obtain rfl := hd.eq never
  exact hp

theorem keeps_create (never : ¬ rules.anytime) (lasts : Outlasts unique makes clears invariant)
    {step : StoreStep} {r : Record} {post : Unit → Moment → Prop} (hm : makes t.2 r.domain)
    (free : invariant t → unique → recordsOf r.domain t.1.records = [])
    (hp : invariant t → ∀ event,
      post () ({ t.1 with records := t.1.records ++ [r] }, event :: t.2)) :
    (keeping rules kind invariant).Tries (onStore step (Store.create r)) post t := by
  refine tries_create fun u hd hi => ?_
  obtain rfl := hd.eq never
  have after := lasts.create u.1 u.2 r hi hm (free hi)
  refine ⟨trivial, fun fate a w hw => lasts.more _ _ _ ?_, hp hi _⟩
  exact hw.leaves (P := fun next => invariant (next, u.2)) hi after

theorem keeps_delete (never : ¬ rules.anytime) (lasts : Outlasts unique makes clears invariant)
    {step : StoreStep} {domain : String} {post : Unit → Moment → Prop} (hc : clears t.2 domain)
    (hp : invariant t → ∀ event,
      post () ({ t.1 with records := removeFirst domain t.1.records }, event :: t.2)) :
    (keeping rules kind invariant).Tries (onStore step (Store.delete domain)) post t := by
  refine tries_delete fun u hd hi => ?_
  obtain rfl := hd.eq never
  have after := lasts.delete u.1 u.2 domain hi hc
  refine ⟨trivial, fun fate a w hw => lasts.more _ _ _ ?_, hp hi _⟩
  exact hw.leaves (P := fun next => invariant (next, u.2)) hi after

/-- What one turn of the loop over the hosts hands on to the next. -/
structure Accounted (unique : Prop) (hosts : List String) (s : Moment) (b : Bindings)
    (t : Moment) : Prop extends Worked hosts s t where
  accounts : unique → Accounts b t.1.records

theorem keeps_rebind (never : ¬ rules.anytime) (lasts : Outlasts unique makes clears invariant)
    {host target : String} {b : Bindings} (hh : host ∈ hosts)
    (hm : ∀ events, s.2 <:+ events → makes events host)
    (hc : ∀ events, s.2 <:+ events → clears events host) (h : Accounted unique hosts s b t)
    (hb : b.get? host ≠ some target) :
    (keeping rules kind invariant).Tries
      (onStore .create (Store.rebind ⟨host, target⟩ (b.get? host)))
      (fun _ => Accounted unique hosts s (b.set host target)) t := by
  cases hg : b.get? host with
  | none =>
    have free : unique → recordsOf host t.1.records = [] := fun hu => (h.accounts hu).free hg
    refine keeps_create never lasts (hm _ h.events) (fun _ => free) fun _ event => ?_
    refine ⟨(h.toWorked.create (r := ⟨host, target⟩) hh).event event, fun hu => ?_⟩
    exact (h.accounts hu).rebind (r := ⟨host, target⟩) (fun _ _ => rfl) (free hu)
  | some address =>
    have hne : address ≠ target := fun he => hb (he ▸ hg)
    rw [onStore_rebind hne]
    refine Contract.Tries.bind (keeps_delete never lasts (hc _ h.events) fun hi event => ?_)
    have free : unique → recordsOf host (removeFirst host t.1.records) = [] :=
      fun hu => (lasts.single t hi hu).recordsOf_delete host
    have hworked := (h.toWorked.delete hh).event event
    refine keeps_create never lasts (hm _ hworked.events) (fun _ => free) fun _ next => ?_
    refine ⟨(hworked.create (r := ⟨host, target⟩) hh).event next, fun hu => ?_⟩
    have same : ∀ domain, domain ≠ host →
        recordsOf domain (removeFirst host t.1.records) = recordsOf domain t.1.records := by
      intro domain hd
      rw [recordsOf_removeFirst, if_neg (Ne.symm hd)]
    exact (h.accounts hu).rebind (r := ⟨host, target⟩) same (free hu)

/-- At the end each host has one record, with the target for its address. -/
theorem keeps_syncHosts (never : ¬ rules.anytime) (lasts : Outlasts unique makes clears invariant)
    {subject : Subject} {target : String}
    (hm : ∀ host ∈ hosts, ∀ events, s.2 <:+ events → makes events host)
    (hc : ∀ host ∈ hosts, ∀ events, s.2 <:+ events → clears events host) :
    (keeping rules kind invariant).Tries (syncHosts subject target hosts)
      (fun _ t => Worked hosts s t ∧ (unique → OnePerName t.1.records →
        ∀ host ∈ hosts, recordsOf host t.1.records = [⟨host, target⟩])) s := by
  refine Contract.Tries.bind (tries_list fun t hd hi => ?_)
  obtain rfl := hd.eq never
  refine ⟨trivial, fun fate r w hw => lasts.more _ _ _
    (hw.leaves (P := fun next => invariant (next, t.2)) hi hi), ?_⟩
  have hturn : ∀ host ∈ hosts, ∀ b u, Accounted unique hosts t b u → b.get? host ≠ some target →
      (keeping rules kind invariant).Tries
        (onStore .create (Store.rebind ⟨host, target⟩ (b.get? host)))
        (fun _ => Accounted unique hosts t (b.set host target)) u :=
    fun host hh b u hu hb => keeps_rebind never lasts hh (hm host hh) (hc host hh) hu hb
  refine Contract.Tries.mono (tries_bindHosts
    (fun _ _ _ hi => absurd hi.1 never) hturn ?_) fun _ u hu => ?_
  · exact ⟨(Worked.refl hosts t).event _, fun _ => accounts_ofRecords _⟩
  · obtain ⟨b, hb, hbound, -⟩ := hu
    refine ⟨hb.toWorked, fun hu single host hh => ?_⟩
    exact (hb.accounts hu).eq_of_single single (hbound host hh)

theorem keeps_deleteHosts (never : ¬ rules.anytime) (lasts : Outlasts unique makes clears invariant)
    {subject : Subject} (hc : ∀ host ∈ hosts, ∀ events, s.2 <:+ events → clears events host) :
    (keeping rules kind invariant).Tries (deleteHosts subject hosts)
      (fun _ t => Worked hosts s t ∧
        (unique → ∀ host ∈ hosts, recordsOf host t.1.records = [])) s := by
  refine tries_deleteHosts (P := fun gone t => Worked hosts s t ∧
      (unique → ∀ host ∈ gone, recordsOf host t.1.records = []))
    (fun _ _ _ hi => absurd hi.1 never) ?_ ⟨.refl hosts s, fun _ _ hh => nomatch hh⟩
  intro gone host rest hg t ⟨hworked, hgone⟩
  have hh : host ∈ hosts := by simp [hg]
  refine keeps_delete never lasts (hc host hh _ hworked.events) fun hi event => ?_
  refine ⟨(hworked.delete hh).event event, fun hu other ho => ?_⟩
  have single := lasts.single t hi hu
  by_cases he : other = host
  · subst he
    exact single.recordsOf_delete other
  · rw [recordsOf_removeFirst, if_neg (Ne.symm he)]
    exact hgone hu other (by simpa [he] using ho)

end

end ClusterDns.Reconcile
