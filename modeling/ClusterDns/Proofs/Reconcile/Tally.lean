import ClusterDns.Proofs.Reconcile.Outcome
import Mathlib.Data.Finset.Card

/-! The counters of records against what happened to the records. Others may change the objects at
any time, but nobody else works on the records. A host that is bound is counted under what becomes
of its binding. A host that is deleted is counted as deleted whether it had a record or not: the
keeper is content with the deletion of a name that has none, and does not tell. So the first two
counters are exact, and the third is so just if the hosts to delete are all bound and none is named
twice. -/

namespace ClusterDns.Reconcile

open Cluster (Kind Object ObjectRef)
open Metrics (Series Registry)
open PiHole (Record Store.create Store.delete Store.list Store.rebind)
open Rehearsal (OnePerName World accounts_ofRecords get?_set mem_recordsOf recordsOf removeAll
  removeAll_eq_filter removeFirst recordsOf_removeAll_of_not_mem)

/-! ## Changes of bindings -/

/-- The address a name is bound to: that of its first record. -/
def boundTo? (name : String) (records : List Record) : Option String :=
  (recordsOf name records).head?.map (·.address)

inductive Change where
  | created
  | updated
  | deleted
  deriving DecidableEq

namespace Change

/-- What has become of a binding, if anything. -/
def of? : Option String → Option String → Option Change
  | none, none => none
  | none, some _ => some created
  | some _, none => some deleted
  | some before, some after => if before = after then none else some updated

def operation : Change → String
  | created => "created"
  | updated => "updated"
  | deleted => "deleted"

/-- The series a change is counted under. -/
def series (kind : Kind) (change : Change) : Series := .records kind.name change.operation

theorem series_injective (kind : Kind) : Function.Injective (series kind) := by
  intro change other h
  have hname : change.operation = other.operation := (Series.records.inj h).2
  cases change <;> cases other <;> first | rfl | exact absurd hname (by decide)

@[simp] theorem of?_self (bound : Option String) : of? bound bound = none := by
  cases bound <;> simp [of?]

theorem of?_eq_deleted {before after : Option String} :
    of? before after = some deleted ↔ before ≠ none ∧ after = none := by
  cases before <;> cases after <;> simp [of?]

theorem of?_some_ne_deleted (before : Option String) (address : String) :
    of? before (some address) ≠ some deleted := by simp [of?_eq_deleted]

/-- A binding that is not what it is to be is made or made anew. -/
theorem of?_some_of_ne {before : Option String} {address : String} (h : before ≠ some address) :
    of? before (some address) = some (if before.isSome then updated else created) := by
  cases before with
  | none => rfl
  | some bound =>
    have hne : bound ≠ address := fun he => h (congrArg some he)
    simp [of?, hne]

end Change

/-- The names that have met with a change. -/
def changedNames (change : Change) (before after : List Record) : Finset String :=
  ((before ++ after).map (·.domain)).toFinset.filter fun name =>
    Change.of? (boundTo? name before) (boundTo? name after) = some change

theorem mem_domains_of_boundTo? {name address : String} {records : List Record}
    (h : boundTo? name records = some address) : name ∈ records.map (·.domain) := by
  obtain ⟨r, hr, -⟩ := Option.map_eq_some_iff.mp h
  obtain ⟨hmem, hname⟩ := mem_recordsOf.mp (List.mem_of_mem_head? hr)
  exact List.mem_map.mpr ⟨r, hmem, hname⟩

theorem mem_changedNames {change : Change} {before after : List Record} {name : String} :
    name ∈ changedNames change before after ↔
      Change.of? (boundTo? name before) (boundTo? name after) = some change := by
  simp only [changedNames, Finset.mem_filter, List.mem_toFinset, and_iff_right_iff_imp,
    List.map_append, List.mem_append]
  intro h
  cases hb : boundTo? name before with
  | some _ => exact .inl (mem_domains_of_boundTo? hb)
  | none =>
    cases ha : boundTo? name after with
    | some _ => exact .inr (mem_domains_of_boundTo? ha)
    | none => simp [hb, ha] at h

/-! ## What is counted -/

/-- The series under which bindings are counted, host by host. -/
def boundSeries (kind : Kind) (target : String) (hosts : List String)
    (bound : String → Option String) : List Series :=
  hosts.filterMap fun host => (Change.of? (bound host) (some target)).map (Change.series kind)

/-- The series that are counted for all hosts that are bound or deleted. -/
def seriesOf (kind : Kind) (target : String) (hosts gone : List String)
    (bound : String → Option String) : List Series :=
  boundSeries kind target hosts bound ++ List.replicate gone.length (Change.deleted.series kind)

theorem count_boundSeries (kind : Kind) (target : String) (hosts : List String)
    (bound : String → Option String) (change : Change) :
    (boundSeries kind target hosts bound).count (change.series kind) =
      (hosts.filter fun host => Change.of? (bound host) (some target) = some change).length := by
  induction hosts with
  | nil => rfl
  | cons host rest ih =>
    unfold boundSeries at ih ⊢
    cases hc : Change.of? (bound host) (some target) with
    | none => simp [hc, ih]
    | some other =>
      by_cases he : other = change
      · simp [hc, ih, he]
      · simp [hc, ih, he, (Change.series_injective kind).ne he]

/-- How the bindings are after some hosts are bound and others deleted. -/
structure Reassigned (target : String) (hosts gone : List String) (before after : List Record) :
    Prop where
  once : hosts.Nodup
  apart : ∀ host ∈ gone, host ∉ hosts
  served : ∀ host ∈ hosts, boundTo? host after = some target
  cleared : ∀ host ∈ gone, boundTo? host after = none
  others : ∀ host, host ∉ hosts → host ∉ gone → boundTo? host after = boundTo? host before

namespace Reassigned

variable {target : String} {hosts gone : List String} {before after : List Record}

/-- Hosts are bound one after another, and then others are deleted. -/
theorem of_work (single : OnePerName before) (once : hosts.Nodup)
    (apart : ∀ host ∈ gone, host ∉ hosts) : Reassigned target hosts gone before
      (removeAll gone (boundAll target hosts (.ofRecords before) before)) := by
  have hsingle : ∀ host ∈ gone,
      (recordsOf host (boundAll target hosts (.ofRecords before) before)).length ≤ 1 := by
    intro host hh
    rw [recordsOf_boundAll_of_not_mem (apart host hh)]
    exact single host
  refine ⟨once, apart, fun host hh => ?_, fun host hh => ?_, fun host hnot hkept => ?_⟩
  · have hkept : host ∉ gone := fun hg => apart host hg hh
    rw [boundTo?, recordsOf_removeAll_of_not_mem hkept,
      recordsOf_boundAll once (fun other _ => accounts_ofRecords before other) hh,
      turned_eq single]
    rfl
  · have hnone : recordsOf host
        (removeAll gone (boundAll target hosts (.ofRecords before) before)) = [] := by
      rw [removeAll_eq_filter hsingle, recordsOf, List.filter_filter, List.filter_eq_nil_iff]
      rintro r - hr
      simp only [Bool.and_eq_true, decide_eq_true_eq] at hr
      exact hr.2 (hr.1 ▸ hh)
    rw [boundTo?, hnone]
    rfl
  · rw [boundTo?, recordsOf_removeAll_of_not_mem hkept, recordsOf_boundAll_of_not_mem hnot, boundTo?]

theorem changedNames_deleted (h : Reassigned target hosts gone before after) :
    changedNames .deleted before after =
      gone.toFinset.filter fun host => boundTo? host before ≠ none := by
  ext host
  rw [mem_changedNames, Change.of?_eq_deleted, Finset.mem_filter, List.mem_toFinset]
  refine ⟨fun ⟨hbefore, hafter⟩ => ⟨?_, hbefore⟩, fun ⟨hh, hbefore⟩ => ⟨hbefore, h.cleared host hh⟩⟩
  by_contra hkept
  by_cases hserved : host ∈ hosts
  · exact nomatch (h.served host hserved).symm.trans hafter
  · exact hbefore ((h.others host hserved hkept).symm.trans hafter)

/-- No name becomes bound, or bound to another address, but those of hosts that are served. -/
theorem changedNames_served (h : Reassigned target hosts gone before after) {change : Change}
    (hne : change ≠ .deleted) : changedNames change before after =
      (hosts.filter fun host =>
        Change.of? (boundTo? host before) (some target) = some change).toFinset := by
  ext host
  rw [mem_changedNames, List.mem_toFinset, List.mem_filter, decide_eq_true_eq]
  by_cases hserved : host ∈ hosts
  · rw [h.served host hserved, and_iff_right hserved]
  · refine iff_of_false (fun hchange => ?_) fun hin => hserved hin.1
    by_cases hgone : host ∈ gone
    · rw [h.cleared host hgone] at hchange
      cases hb : boundTo? host before with
      | none => simp [hb] at hchange
      | some address =>
        rw [hb] at hchange
        exact hne (Option.some.inj hchange).symm
    · rw [h.others host hserved hgone, Change.of?_self] at hchange
      cases hchange

theorem count_series (h : Reassigned target hosts gone before after) (kind : Kind)
    {change : Change} (hne : change ≠ .deleted) :
    (seriesOf kind target hosts gone (boundTo? · before)).count (change.series kind) =
      (changedNames change before after).card := by
  have hother : Change.deleted.series kind ≠ change.series kind :=
    (Change.series_injective kind).ne (Ne.symm hne)
  rw [h.changedNames_served hne, List.toFinset_card_of_nodup (h.once.filter _), seriesOf,
    List.count_append, count_boundSeries, List.count_replicate, if_neg (by simpa using hother),
    Nat.add_zero]

end Reassigned

theorem count_deleted (kind : Kind) (target : String) (hosts gone : List String)
    (bound : String → Option String) :
    (seriesOf kind target hosts gone bound).count (Change.deleted.series kind) = gone.length := by
  have hnone : (boundSeries kind target hosts bound).count (Change.deleted.series kind) = 0 := by
    rw [count_boundSeries, List.length_eq_zero_iff, List.filter_eq_nil_iff]
    simp [Change.of?_some_ne_deleted]
  rw [seriesOf, List.count_append, hnone, List.count_replicate_self, Nat.zero_add]

theorem count_foreign {kind : Kind} {series : Series}
    (foreign : ∀ change, series ≠ Change.series kind change) (target : String)
    (hosts gone : List String) (bound : String → Option String) :
    (seriesOf kind target hosts gone bound).count series = 0 := by
  rw [List.count_eq_zero, seriesOf, List.mem_append, not_or, boundSeries, List.mem_filterMap]
  refine ⟨?_, fun hin => foreign _ (List.eq_of_mem_replicate hin)⟩
  rintro ⟨host, -, hmap⟩
  obtain ⟨change, -, heq⟩ := Option.map_eq_some_iff.mp hmap
  exact foreign change heq.symm

/-- Hosts stand for as many names as there are hosts only if no name stands twice. -/
theorem card_chosen_eq_length {hosts : List String} {chosen : String → Prop}
    [DecidablePred chosen] : (hosts.toFinset.filter chosen).card = hosts.length ↔
      hosts.Nodup ∧ ∀ host ∈ hosts, chosen host := by
  have hle : (hosts.toFinset.filter chosen).card ≤ hosts.toFinset.card := Finset.card_filter_le _ _
  have hlen : hosts.toFinset.card ≤ hosts.length := List.toFinset_card_le hosts
  constructor
  · intro heq
    have hall : (hosts.toFinset.filter chosen).card = hosts.toFinset.card := by omega
    have hnodup : hosts.toFinset.card = hosts.length := by omega
    refine ⟨Multiset.toFinset_card_eq_card_iff_nodup.mp hnodup, fun host hh => ?_⟩
    exact Finset.filter_card_eq hall host (List.mem_toFinset.mpr hh)
  · rintro ⟨nodup, hall⟩
    rw [Finset.filter_true_of_mem fun host hh => hall host (List.mem_toFinset.mp hh),
      List.toFinset_card_of_nodup nodup]

/-! ## Keeping count -/

/-- The counters after a question. -/
def countedBy : Request → Registry → Registry
  | .count series, registry => registry.increment series
  | _, registry => registry

/-- A world with counters beside it, and the objects that were given out, in order. -/
structure Ledger where
  world : World
  registry : Registry := {}
  given : List Object := []

namespace Ledger

def givenBy : (q : Request) → q.Answer → List Object
  | .fetch _, r => r.toOption.join.toList
  | .patch .., r => r.toOption.join.toList
  | _, _ => []

def answer (kind : Kind) : Program.Surroundings Surroundings Ledger
  | q, s =>
    let (r, world) := s.world.answer kind q
    (r, ⟨world, countedBy q s.registry, s.given ++ givenBy q r⟩)

/-- What a ledger shows, but for the objects as they are stored. -/
structure Shows (records : List Record) (registry : Registry) (given : List Object) (s : Ledger) :
    Prop where
  records : s.world.records = records
  registry : s.registry = registry
  given : s.given = given

end Ledger

open Ledger (Shows)

/-- Between two calls others may do anything to the objects. -/
def tallying (kind : Kind) : Contract Surroundings Ledger where
  drift s t := ∃ server, t = { s with world := { s.world with server } }
  answers q s r t := s.answer kind q = (r, t)
  allowed _ _ := True
  invariant _ := True

section

variable {kind : Kind} {α : Type} {records : List Record} {registry : Registry}
  {given : List Object} {s : Ledger} {subject : Subject} {object : Object} {hosts : List String}
  {defaultTarget target : String}

/-- With nobody else about, there is a run. -/
theorem ends_ledger (kind : Kind) (p : Program Surroundings α) (s : Ledger) :
    (tallying kind).Ends p s (p.run (Ledger.answer kind) s).1 (p.run (Ledger.answer kind) s).2 := by
  have hstays : ∀ t, (tallying kind).drift t t := fun t => ⟨t.world.server, rfl⟩
  have hanswered : ∀ q t, (tallying kind).answers q t (Ledger.answer kind q t).1
      (Ledger.answer kind q t).2 := fun _ _ => rfl
  exact Contract.ends_run hstays hanswered p s

/-- One call. It is answered in a ledger that shows the same. -/
theorem tally_ask {q : Request} {g : q.Answer → Except Error α} {post : α → Ledger → Prop}
    (hs : Shows records registry given s)
    (h : ∀ t, Shows records registry given t → ∀ a, g (t.answer kind q).1 = .ok a →
      post a (t.answer kind q).2) :
    (tallying kind).Tries (ExceptT.mk (.ask (I := Surroundings) q fun r => .done (g r))) post
      s := by
  refine Contract.tries_ask ?_
  rintro t ⟨server, rfl⟩ -
  refine ⟨trivial, ?_⟩
  rintro r u hu
  obtain ⟨rfl, rfl⟩ := Prod.mk.inj hu
  exact ⟨trivial, h _ ⟨hs.records, hs.registry, hs.given⟩⟩

theorem tally_note (event : Event) (hs : Shows records registry given s) :
    (tallying kind).Tries (note subject event) (fun _ => Shows records registry given) s := by
  refine tally_ask (q := .note _) hs fun t ht _ _ => ⟨ht.records, ht.registry, ?_⟩
  exact (List.append_nil _).trans ht.given

theorem tally_count (series : Series) (hs : Shows records registry given s) :
    (tallying kind).Tries (count series)
      (fun _ => Shows records (registry.increment series) given) s := by
  refine tally_ask (q := .count _) hs fun t ht _ _ => ⟨ht.records, ?_, ?_⟩
  · exact congrArg (·.increment series) ht.registry
  · exact (List.append_nil _).trans ht.given

theorem tally_fetch (ref : ObjectRef) (hs : Shows records registry given s) :
    (tallying kind).Tries (fetch ref)
      (fun found => Shows records registry (given ++ found.toList)) s := by
  rw [fetch_eq]
  refine tally_ask hs fun t ht found hfound => ⟨ht.records, ht.registry, ?_⟩
  show t.given ++ Ledger.givenBy (.fetch ref) (t.answer kind (.fetch ref)).1 = _
  rw [ht.given, hfound]
  rfl

theorem tally_patch (ref : ObjectRef) (body : Json) (hs : Shows records registry given s) :
    (tallying kind).Tries (patch ref body)
      (fun found => Shows records registry (given ++ found.toList)) s := by
  rw [patch_eq]
  refine tally_ask hs fun t ht found hfound => ⟨ht.records, ht.registry, ?_⟩
  show t.given ++ Ledger.givenBy (.patch ref body) (t.answer kind (.patch ref body)).1 = _
  rw [ht.given, hfound]
  rfl

theorem tally_list (hs : Shows records registry given s) :
    (tallying kind).Tries (onStore .list Store.list)
      (fun found t => found = records ∧ Shows records registry given t) s := by
  rw [onStore_list]
  refine tally_ask hs fun t ht found hfound => ?_
  obtain rfl : t.world.records = found := Except.ok.inj hfound
  exact ⟨ht.records, ht.records, ht.registry, (List.append_nil _).trans ht.given⟩

theorem tally_create (step : StoreStep) (r : Record) (hs : Shows records registry given s) :
    (tallying kind).Tries (onStore step (Store.create r))
      (fun _ => Shows (records ++ [r]) registry given) s := by
  rw [onStore_create]
  refine tally_ask hs fun t ht _ _ => ⟨?_, ht.registry, (List.append_nil _).trans ht.given⟩
  exact congrArg (· ++ [r]) ht.records

theorem tally_delete (step : StoreStep) (domain : String) (hs : Shows records registry given s) :
    (tallying kind).Tries (onStore step (Store.delete domain))
      (fun _ => Shows (removeFirst domain records) registry given) s := by
  rw [onStore_delete]
  refine tally_ask hs fun t ht _ _ => ⟨?_, ht.registry, (List.append_nil _).trans ht.given⟩
  exact congrArg (removeFirst domain) ht.records

theorem tally_rebind {step : StoreStep} {r : Record} {bound : Option String}
    (h : bound ≠ some r.address) (hs : Shows records registry given s) :
    (tallying kind).Tries (onStore step (Store.rebind r bound))
      (fun _ => Shows (rebound r bound records) registry given) s := by
  cases bound with
  | none => exact tally_create step r hs
  | some address =>
    have hne : address ≠ r.address := fun he => h (congrArg some he)
    rw [onStore_rebind hne]
    exact Contract.Tries.bind (Contract.Tries.mono (tally_delete step r.domain hs)
      fun _ _ ht => tally_create step r ht)

/-! ## Records -/

theorem tally_noteBound (r : Record) (bound : Option String)
    (hs : Shows records registry given s) :
    (tallying kind).Tries (noteBound subject r bound)
      (fun _ => Shows records (registry.increment
        (Change.series subject.kind (if bound.isSome then .updated else .created))) given) s := by
  cases bound <;>
    exact Contract.Tries.bind (Contract.Tries.mono (tally_note _ hs) fun _ _ ht =>
      tally_count _ ht)

theorem tally_bindHosts (once : hosts.Nodup) (b : Bindings)
    (hs : Shows records registry given s) :
    (tallying kind).Tries (bindHosts subject target hosts b)
      (fun _ => Shows (boundAll target hosts b records)
        ((boundSeries subject.kind target hosts b.get?).foldl Registry.increment registry) given)
      s := by
  induction hosts generalizing b records registry s with
  | nil => exact Contract.tries_pure hs
  | cons host rest ih =>
    obtain ⟨hnot, honce⟩ := List.nodup_cons.mp once
    rw [bindHosts, boundAll, boundSeries, List.filterMap_cons]
    by_cases hbound : b.get? host = some target
    · rw [if_pos hbound, if_pos hbound, hbound, Change.of?_self]
      exact ih honce b hs
    · rw [if_neg hbound, if_neg hbound, Change.of?_some_of_ne hbound]
      -- the turn of one host leaves the bindings of the others alone
      have hsame : boundSeries subject.kind target rest b.get? =
          boundSeries subject.kind target rest (b.set host target).get? := by
        refine List.filterMap_congr fun other ho => ?_
        have hne : other ≠ host := fun he => hnot (he ▸ ho)
        rw [get?_set, if_neg hne]
      refine Contract.Tries.bind (Contract.Tries.mono (tally_rebind hbound hs) fun _ t ht => ?_)
      refine Contract.Tries.bind (Contract.Tries.mono (tally_noteBound _ _ ht) fun _ u hu => ?_)
      refine Contract.Tries.mono (ih honce _ hu) fun _ v hv => ?_
      rw [← hsame] at hv
      exact hv

theorem tally_syncHosts (once : hosts.Nodup) (hs : Shows records registry given s) :
    (tallying kind).Tries (syncHosts subject target hosts)
      (fun _ => Shows (boundAll target hosts (.ofRecords records) records)
        ((boundSeries subject.kind target hosts (boundTo? · records)).foldl Registry.increment
          registry) given) s := by
  refine Contract.Tries.bind (Contract.Tries.mono (tally_list hs) ?_)
  rintro found t ⟨hfound, ht⟩
  have haccount : (Bindings.ofRecords records).get? = (boundTo? · records) :=
    funext (accounts_ofRecords records)
  rw [hfound, ← haccount]
  exact tally_bindHosts once _ ht

theorem tally_deleteHosts (hosts : List String) (hs : Shows records registry given s) :
    (tallying kind).Tries (deleteHosts subject hosts)
      (fun _ => Shows (removeAll hosts records)
        ((List.replicate hosts.length (Change.deleted.series subject.kind)).foldl
          Registry.increment registry) given) s := by
  induction hosts generalizing records registry s with
  | nil => exact Contract.tries_pure hs
  | cons host rest ih =>
    have hhost : (tallying kind).Tries (deleteHost subject host)
        (fun _ => Shows (removeFirst host records)
          (registry.increment (Change.deleted.series subject.kind)) given) s := by
      refine Contract.Tries.bind (Contract.Tries.mono (tally_delete _ host hs) fun _ t ht => ?_)
      exact Contract.Tries.bind (Contract.Tries.mono (tally_note _ ht) fun _ u hu =>
        tally_count _ hu)
    exact Contract.Tries.bind (Contract.Tries.mono hhost fun _ t ht => ih ht)

/-- How records and counters are after some hosts are bound and others deleted. -/
def Tallied (kind : Kind) (gone : List String) (records : List Record) (registry : Registry)
    (t : Ledger) : Prop :=
  ∃ target hosts, Reassigned target hosts gone records t.world.records ∧
    t.registry = (seriesOf kind target hosts gone (boundTo? · records)).foldl Registry.increment
      registry

theorem tallied_of_shows {gone : List String} {t : Ledger} (target : String) (hosts : List String)
    (single : OnePerName records) (once : hosts.Nodup) (apart : ∀ host ∈ gone, host ∉ hosts)
    (h : Shows (removeAll gone (boundAll target hosts (.ofRecords records) records))
      ((seriesOf kind target hosts gone (boundTo? · records)).foldl Registry.increment registry)
      given t) : Tallied kind gone records registry t := by
  refine ⟨target, hosts, ?_, h.registry⟩
  rw [h.records]
  exact .of_work single once apart

/-- Where no host is bound, some may be deleted. -/
theorem tallied_of_deleted {t : Ledger} (gone : List String) (single : OnePerName records)
    (h : Shows (removeAll gone records)
      ((List.replicate gone.length (Change.deleted.series kind)).foldl Registry.increment registry)
      given t) : Tallied kind gone records registry t :=
  tallied_of_shows "" [] single List.nodup_nil (fun _ _ => List.not_mem_nil) h

theorem tallied_of_idle {t : Ledger} (single : OnePerName records)
    (h : Shows records registry given t) : Tallied kind [] records registry t :=
  tallied_of_deleted [] single h

/-! ## The reconcile -/

/-- The hosts that are deleted when an object is served. -/
def droppedHosts (defaultTarget : String) (object : Object) : List String :=
  if desiredHosts object = [] ∨ Annotations.target? object.annotations defaultTarget = none then []
  else obsoleteHosts object

/-- The hosts a reconcile deletes, by the objects it is given. The object that counts is the first
one, but for an object that has to be held first: that is served as it is then. -/
def clearedHosts (defaultTarget : String) : List Object → List String
  | [] => []
  | object :: more =>
    if object.isBeingDeleted || !Annotations.isRegistered object.annotations then
      if object.hasFinalizer cleanupFinalizer then Annotations.managed object.annotations else []
    else if object.hasFinalizer cleanupFinalizer then droppedHosts defaultTarget object
    else more.head?.elim [] (droppedHosts defaultTarget)

theorem tally_removeFinalizer (itsKind : Kind) (finalizer : String) (dropped : List String)
    (hs : Shows records registry given s) :
    (tallying kind).Tries (removeFinalizer itsKind object finalizer dropped)
      (fun _ t => ∃ more, Shows records registry (given ++ more) t) s := by
  rw [removeFinalizer]
  split
  · refine Contract.Tries.bind (Contract.Tries.mono (tally_note _ hs) fun _ t ht => ?_)
    refine Contract.Tries.bind (Contract.Tries.mono (tally_patch _ _ ht) fun _ u hu => ?_)
    exact Contract.tries_pure ⟨_, hu⟩
  · exact Contract.tries_pure ⟨[], (List.append_nil given).symm ▸ hs⟩

theorem tally_writeManaged (hosts : List String) (hs : Shows records registry given s) :
    (tallying kind).Tries (writeManaged subject hosts)
      (fun _ t => ∃ more, Shows records registry (given ++ more) t) s := by
  refine Contract.Tries.bind (Contract.Tries.mono (tally_fetch _ hs) fun found t ht => ?_)
  cases found with
  | none => exact Contract.Tries.mono (tally_note _ ht) fun _ u hu => ⟨_, hu⟩
  | some latest =>
    dsimp only
    split
    · refine Contract.Tries.bind (Contract.Tries.mono (tally_patch _ _ ht) fun _ u hu => ?_)
      exact Contract.tries_pure ⟨_, List.append_assoc .. ▸ hu⟩
    · exact Contract.tries_pure ⟨_, ht⟩

theorem tally_serve (single : OnePerName records) (hs : Shows records registry given s) :
    (tallying kind).Tries (serve subject defaultTarget object)
      (fun _ t => (∃ more, t.given = given ++ more) ∧
        Tallied subject.kind (droppedHosts defaultTarget object) records registry t) s := by
  have hidle : ∀ event, desiredHosts object = [] ∨
      Annotations.target? object.annotations defaultTarget = none →
      (tallying kind).Tries (note subject event)
        (fun _ t => (∃ more, t.given = given ++ more) ∧
          Tallied subject.kind (droppedHosts defaultTarget object) records registry t) s := by
    intro event idle
    rw [droppedHosts, if_pos idle]
    refine Contract.Tries.mono (tally_note event hs) fun _ t ht => ?_
    exact ⟨⟨[], ht.given.trans (List.append_nil given).symm⟩, tallied_of_idle single ht⟩
  unfold serve
  dsimp only
  split
  · rename_i hnone
    exact hidle _ (.inl (List.isEmpty_iff.mp hnone))
  · rename_i hasks
    split
    · rename_i hinvalid
      exact hidle _ (.inr hinvalid)
    · rename_i target htarget
      have busy : ¬ (desiredHosts object = [] ∨
          Annotations.target? object.annotations defaultTarget = none) :=
        not_or.mpr ⟨fun he => hasks (List.isEmpty_iff.mpr he), by simp [htarget]⟩
      have apart : ∀ host ∈ obsoleteHosts object, host ∉ desiredHosts object := by
        simp [obsoleteHosts]
      rw [droppedHosts, if_neg busy]
      refine Contract.Tries.bind (Contract.Tries.mono (tally_syncHosts (nodup_distinct _) hs)
        fun _ t ht => ?_)
      refine Contract.Tries.bind (Contract.Tries.mono (tally_deleteHosts _ ht) fun _ u hu => ?_)
      refine Contract.Tries.bind (Contract.Tries.rephrase
        (Contract.Tries.mono (tally_writeManaged _ hu) ?_))
      rintro _ v ⟨more, hv⟩
      refine Contract.Tries.mono (tally_note _ hv) fun _ w hw => ⟨⟨more, hw.given⟩, ?_⟩
      rw [← List.foldl_append] at hw
      exact tallied_of_shows target _ single (nodup_distinct _) apart hw

theorem tally_release (reason : Event) (single : OnePerName records)
    (hs : Shows records registry given s) :
    (tallying kind).Tries (release subject reason object)
      (fun _ t => (∃ more, t.given = given ++ more) ∧
        Tallied subject.kind (if object.hasFinalizer cleanupFinalizer then
          Annotations.managed object.annotations else []) records registry t) s := by
  rw [release]
  split
  · refine Contract.Tries.bind (Contract.Tries.mono (tally_note _ hs) fun _ t ht => ?_)
    refine Contract.Tries.bind (Contract.Tries.mono (tally_deleteHosts _ ht) fun _ u hu => ?_)
    refine Contract.Tries.mono (tally_removeFinalizer _ _ _ hu) ?_
    rintro _ v ⟨more, hv⟩
    exact ⟨⟨more, hv.given⟩, tallied_of_deleted _ single hv⟩
  · refine Contract.tries_pure ⟨⟨[], hs.given.trans (List.append_nil given).symm⟩, ?_⟩
    exact tallied_of_idle single hs

/-- An object that is held already is not given out again. -/
theorem tally_ensureFinalizer (itsKind : Kind) (finalizer : String)
    (hs : Shows records registry given s) :
    (tallying kind).Tries (ensureFinalizer itsKind object finalizer)
      (fun held t =>
        (object.hasFinalizer finalizer = true ∧ held = some object ∧
          Shows records registry given t) ∨
        (object.hasFinalizer finalizer = false ∧
          Shows records registry (given ++ held.toList) t)) s := by
  rw [ensureFinalizer]
  split
  · rename_i hheld
    exact Contract.tries_pure (.inl ⟨hheld, rfl, hs⟩)
  · rename_i hbare
    refine Contract.Tries.bind (Contract.Tries.mono (tally_note _ hs) fun _ t ht => ?_)
    exact Contract.Tries.mono (tally_patch _ _ ht) fun held u hu =>
      .inr ⟨Bool.eq_false_iff.mpr hbare, hu⟩

theorem tally_attend (single : OnePerName records) (hs : Shows records registry [object] s) :
    (tallying kind).Tries (attend subject defaultTarget object)
      (fun _ t => Tallied subject.kind (clearedHosts defaultTarget t.given) records registry t)
      s := by
  by_cases gone : object.isBeingDeleted = true ∨
      Annotations.isRegistered object.annotations = false
  · obtain ⟨reason, hattend⟩ := attend_of_gone subject defaultTarget gone
    rw [hattend]
    refine Contract.Tries.mono (tally_release reason single hs) ?_
    rintro _ t ⟨⟨more, hgiven⟩, ht⟩
    rwa [hgiven, List.singleton_append, clearedHosts, if_pos (by simpa using gone)]
  · rw [attend_of_stays gone]
    have hstays : ∀ more, clearedHosts defaultTarget (object :: more) =
        if object.hasFinalizer cleanupFinalizer then droppedHosts defaultTarget object
        else more.head?.elim [] (droppedHosts defaultTarget) :=
      fun more => if_neg (by simpa using gone)
    refine Contract.Tries.bind (Contract.Tries.mono (tally_ensureFinalizer _ _ hs) ?_)
    rintro held t (⟨hheld, rfl, ht⟩ | ⟨hbare, ht⟩)
    · refine Contract.Tries.mono (tally_serve single ht) ?_
      rintro _ u ⟨⟨more, hgiven⟩, hu⟩
      rwa [hgiven, List.singleton_append, hstays, if_pos hheld]
    · cases held with
      | none =>
        refine Contract.tries_pure ?_
        rw [ht.given, Option.toList_none, List.singleton_append, hstays,
          if_neg (Bool.eq_false_iff.mp hbare)]
        exact tallied_of_idle single ht
      | some next =>
        refine Contract.Tries.mono (tally_serve single ht) ?_
        rintro _ u ⟨⟨more, hgiven⟩, hu⟩
        rw [hgiven, List.append_assoc, List.singleton_append, hstays,
          if_neg (Bool.eq_false_iff.mp hbare)]
        exact hu

theorem tally_reconcile (single : OnePerName records) (hs : Shows records registry [] s) :
    (tallying kind).Tries (reconcile subject defaultTarget)
      (fun _ t => Tallied subject.kind (clearedHosts defaultTarget t.given) records registry t)
      s := by
  refine Contract.Tries.bind (Contract.Tries.mono (tally_fetch _ hs) fun found t ht => ?_)
  cases found with
  | none =>
    refine Contract.Tries.mono (tally_note _ ht) fun _ u hu => ?_
    rw [hu.given]
    exact tallied_of_idle single hu
  | some object => exact tally_attend single ht

/-- After every reconcile that ends without an error, with nobody else at work on the records: the
counters of the kind tell how many names have become bound, and how many are bound to another
address. As deleted are counted all the hosts that were to be deleted, of which only those that were
bound have lost a binding. So that counter is right just if each of them was bound, and none was
named twice. No other counter has moved. -/
theorem records_counted {t : Ledger} (single : OnePerName s.world.records) (fresh : s.given = [])
    (run : (tallying subject.kind).Ends (reconcile subject defaultTarget).run s (.ok ()) t) :
    (∀ change, change ≠ Change.deleted → t.registry.count (change.series subject.kind) =
      s.registry.count (change.series subject.kind) +
        (changedNames change s.world.records t.world.records).card) ∧
    t.registry.count (Change.deleted.series subject.kind) =
      s.registry.count (Change.deleted.series subject.kind) +
        (clearedHosts defaultTarget t.given).length ∧
    changedNames .deleted s.world.records t.world.records =
      (clearedHosts defaultTarget t.given).toFinset.filter
        (fun host => boundTo? host s.world.records ≠ none) ∧
    (t.registry.count (Change.deleted.series subject.kind) =
      s.registry.count (Change.deleted.series subject.kind) +
        (changedNames .deleted s.world.records t.world.records).card ↔
      (clearedHosts defaultTarget t.given).Nodup ∧
        ∀ host ∈ clearedHosts defaultTarget t.given, boundTo? host s.world.records ≠ none) ∧
    ∀ series, (∀ change, series ≠ Change.series subject.kind change) →
      t.registry.count series = s.registry.count series := by
  obtain ⟨target, hosts, reassigned, hregistry⟩ :=
    Contract.Secures.ends (tally_reconcile single ⟨rfl, rfl, fresh⟩) (fun _ => trivial) run () rfl
  have hcount : ∀ series, t.registry.count series = s.registry.count series +
      (seriesOf subject.kind target hosts (clearedHosts defaultTarget t.given)
        (boundTo? · s.world.records)).count series := by
    intro series
    rw [hregistry, Registry.count_foldl_increment]
  have hdeleted := (hcount (Change.deleted.series subject.kind)).trans
    (congrArg _ (count_deleted ..))
  refine ⟨fun change hne => ?_, hdeleted, reassigned.changedNames_deleted, ?_,
    fun series foreign => ?_⟩
  · rw [hcount, reassigned.count_series subject.kind hne]
  · rw [hdeleted, Nat.add_left_cancel_iff, eq_comm, reassigned.changedNames_deleted,
      card_chosen_eq_length]
  · rw [hcount, count_foreign foreign, Nat.add_zero]

end

/-- A route that asks for two hosts and has given up two others, one of which has lost its record. -/
def losingManifest : Json := Rehearsal.ApiServer.stamped "1" (Rehearsal.routeManifest
  [(Key.register, "true"), (Key.hosts, "a.local,b.local"),
    (Key.managedHosts, "old.local,lost.local")] [cleanupFinalizer])

def losingLedger : Ledger where
  world := .holding losingManifest [⟨"a.local", "10.0.0.9"⟩, ⟨"old.local", "10.0.0.9"⟩]

/-- The ledger after a reconcile of the route. -/
def losingLedgerAfter : Ledger :=
  ((reconcile Rehearsal.route "10.0.0.1").run.run (Ledger.answer .ingress) losingLedger).2

/-- One binding is lost, and two deletions are counted. -/
theorem records_counted_of_losing :
    (tallying Rehearsal.route.kind).Ends (reconcile Rehearsal.route "10.0.0.1").run losingLedger
      (.ok ()) losingLedgerAfter ∧
    clearedHosts "10.0.0.1" losingLedgerAfter.given = ["old.local", "lost.local"] ∧
    losingLedgerAfter.registry.count (Change.created.series .ingress) = 1 ∧
    losingLedgerAfter.registry.count (Change.updated.series .ingress) = 1 ∧
    losingLedgerAfter.registry.count (Change.deleted.series .ingress) = 2 ∧
    changedNames .deleted losingLedger.world.records losingLedgerAfter.world.records =
      {"old.local"} := by
  have single : OnePerName losingLedger.world.records :=
    Rehearsal.onePerName_of_nodup (by decide +kernel)
  have run : (tallying Rehearsal.route.kind).Ends (reconcile Rehearsal.route "10.0.0.1").run
      losingLedger (.ok ()) losingLedgerAfter := by
    have hrun := ends_ledger .ingress (reconcile Rehearsal.route "10.0.0.1").run losingLedger
    have hok : ((reconcile Rehearsal.route "10.0.0.1").run.run (Ledger.answer .ingress)
        losingLedger).1 = .ok () := by decide +kernel
    rwa [hok] at hrun
  obtain ⟨hserved, hdeleted, hlost, -, -⟩ := records_counted single rfl run
  refine ⟨run, by decide +kernel, (hserved .created (by decide)).trans ?_,
    (hserved .updated (by decide)).trans ?_, hdeleted.trans ?_, hlost.trans ?_⟩ <;>
  decide +kernel

end ClusterDns.Reconcile
