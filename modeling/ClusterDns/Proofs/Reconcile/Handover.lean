import ClusterDns.Proofs.Rehearsal.Estate

/-! Hostnames that pass from one object to another. Each object's reconcile binds what the object
asks for now and clears what was written down on it before, so an object that gives up a hostname
clears it even if another one has bound it meanwhile. Whether a hostname stays bound is therefore a
matter of the order of the reconciles. -/

namespace ClusterDns.Reconcile

open Cluster (Kind Manifest.seen)
open PiHole (Record)
open Rehearsal

/-! ## Rounds -/

/-- The records of a host after reconciles of some objects, one after another. -/
def recordsAfterRound {ι : Type} (kind : ι → Kind) (manifest : ι → Json) (defaultTarget : String)
    (host : String) (order : List ι) (before : List Record) : List Record :=
  order.foldl (fun records i =>
    (plan (kind i) defaultTarget (manifest i)).recordsAfter (kind i) (manifest i) host records)
    before

/-- A registered object that stays, asks for some hosts, and has an address for them. -/
structure AsksFor (kind : Kind) (manifest : Json) (defaultTarget target : String) : Prop where
  stays : (Manifest.seen kind manifest).isBeingDeleted = false
  registered : Annotations.isRegistered (Manifest.seen kind manifest).annotations = true
  asks : desired kind manifest ≠ []
  address :
    Annotations.target? (Manifest.seen kind manifest).annotations defaultTarget = some target

theorem AsksFor.plan_eq {kind : Kind} {manifest : Json} {defaultTarget target : String}
    (h : AsksFor kind manifest defaultTarget target) :
    plan kind defaultTarget manifest = .serve target :=
  plan_of_asks h.stays h.registered h.asks h.address

section

variable {ι : Type} {kind : ι → Kind} {manifest : ι → Json} {target : ι → String}
  {defaultTarget : String} {order : List ι} {estate : Estate}

/-- Each object is reconciled as it was before the round, for no other reconcile touches it. -/
theorem inTurn_round (defaultTarget : String)
    (distinct : Function.Injective fun i => subjectOf (kind i) (manifest i))
    (filed : ∀ i, Filed (kind i) (manifest i)) (once : order.Nodup)
    (stored : ∀ i ∈ order, estate.find? (subjectOf (kind i) (manifest i)) = some (manifest i))
    (single : OnePerName estate.records) : ∃ last,
      estate.inTurn defaultTarget (order.map fun i => subjectOf (kind i) (manifest i)) =
        .ok last ∧
      ∀ host, recordsOf host last.records = recordsAfterRound kind manifest defaultTarget host
        order (recordsOf host estate.records) := by
  induction order generalizing estate with
  | nil => exact ⟨estate, rfl, fun _ => rfl⟩
  | cons i rest ih =>
    obtain ⟨hnot, hrest⟩ := List.nodup_cons.mp once
    obtain ⟨hi, hstored⟩ := List.forall_mem_cons.mp stored
    obtain ⟨next, hnext, turned⟩ := Estate.turned (filed i) single hi defaultTarget
    have hlater : ∀ j ∈ rest,
        next.find? (subjectOf (kind j) (manifest j)) = some (manifest j) := by
      intro j hj
      have hne : subjectOf (kind j) (manifest j) ≠ subjectOf (kind i) (manifest i) := by
        intro he
        exact hnot (distinct he ▸ hj)
      rw [turned.others _ hne, hstored j hj]
    obtain ⟨last, hlast, hrecords⟩ := ih hrest hlater turned.single
    refine ⟨last, ?_, fun host => ?_⟩
    · rw [List.map_cons, Estate.inTurn, List.foldlM_cons, hnext]
      exact hlast
    · rw [hrecords host, turned.records host]
      rfl

theorem recordsAfterRound_append (host : String) (before later : List ι) (records : List Record) :
    recordsAfterRound kind manifest defaultTarget host (before ++ later) records =
      recordsAfterRound kind manifest defaultTarget host later
        (recordsAfterRound kind manifest defaultTarget host before records) :=
  List.foldl_append

/-- Objects that do not ask for a host clear it if it was written down on one of them. -/
theorem recordsAfterRound_of_given_up {host : String} {later : List ι}
    (asks : ∀ i, AsksFor (kind i) (manifest i) defaultTarget (target i))
    (foreign : ∀ i ∈ later, host ∉ desired (kind i) (manifest i)) (records : List Record) :
    recordsAfterRound kind manifest defaultTarget host later records =
      if ∃ i ∈ later, host ∈ writtenDown (manifest i) then [] else records := by
  induction later generalizing records with
  | nil => simp [recordsAfterRound]
  | cons i rest ih =>
    obtain ⟨hi, hrest⟩ := List.forall_mem_cons.mp foreign
    have hstep : recordsAfterRound kind manifest defaultTarget host (i :: rest) records =
        recordsAfterRound kind manifest defaultTarget host rest
          (if host ∈ writtenDown (manifest i) then [] else records) := by
      rw [recordsAfterRound, List.foldl_cons, (asks i).plan_eq, Plan.recordsAfter, if_neg hi]
      rfl
    rw [hstep, ih hrest]
    by_cases hw : host ∈ writtenDown (manifest i) <;> simp [hw]

/-- In a round of reconciles after which no two objects ask for one host, every reconcile ends
without an error. A host that an object asks for has the object's address as soon as the object is
reconciled. It keeps it for the rest of the round unless an object reconciled later has the host
written down on it still: then the host has no record at the end. -/
theorem bound_unless_given_up_later {start : Estate}
    (distinct : Function.Injective fun i => subjectOf (kind i) (manifest i))
    (filed : ∀ i, Filed (kind i) (manifest i))
    (stored : ∀ i, start.find? (subjectOf (kind i) (manifest i)) = some (manifest i))
    (asks : ∀ i, AsksFor (kind i) (manifest i) defaultTarget (target i))
    (disjoint : ∀ i j, i ≠ j → ∀ host ∈ desired (kind i) (manifest i),
      host ∉ desired (kind j) (manifest j))
    (single : OnePerName start.records) (once : order.Nodup)
    (settled : ∀ i, i ∉ order → ∀ host ∈ desired (kind i) (manifest i),
      recordsOf host start.records = [⟨host, target i⟩]) :
    ∃ last, start.inTurn defaultTarget (order.map fun i => subjectOf (kind i) (manifest i)) =
        .ok last ∧
      ∀ i, ∀ host ∈ desired (kind i) (manifest i), ∀ before later,
        order = before ++ i :: later ∨ i ∉ order ∧ later = order →
        recordsOf host last.records =
          if ∃ j ∈ later, host ∈ writtenDown (manifest j) then [] else [⟨host, target i⟩] := by
  obtain ⟨last, hlast, hrecords⟩ := inTurn_round defaultTarget distinct filed once
    (fun i _ => stored i) single
  refine ⟨last, hlast, fun i host hd before later hturn => ?_⟩
  rw [hrecords host]
  rcases hturn with horder | ⟨hnot, rfl⟩
  · subst horder
    have hforeign : ∀ j ∈ later, host ∉ desired (kind j) (manifest j) := by
      intro j hj
      have hrest : (i :: later).Nodup := once.sublist (List.sublist_append_right _ _)
      exact disjoint i j (fun he => (List.nodup_cons.mp hrest).1 (he ▸ hj)) host hd
    have hbound : ∀ records, recordsAfterRound kind manifest defaultTarget host [i] records =
        [⟨host, target i⟩] := by
      intro records
      rw [recordsAfterRound, List.foldl_cons, (asks i).plan_eq, Plan.recordsAfter, if_pos hd]
      rfl
    rw [List.append_cons, recordsAfterRound_append, recordsAfterRound_append, hbound,
      recordsAfterRound_of_given_up asks hforeign]
  · have hforeign : ∀ j ∈ later, host ∉ desired (kind j) (manifest j) := by
      intro j hj
      exact disjoint i j (fun he => hnot (he ▸ hj)) host hd
    rw [recordsAfterRound_of_given_up asks hforeign, settled i hnot host hd]

end

/-! ## Two objects and a host that passes from one to the other -/

/-- The rules of a specification, one for each host. -/
def rulesFor (hosts : List String) : Json :=
  .object [("rules", .array (hosts.map fun host => .object [("host", .string host)]))]

def ingressFor (subject : Subject) (hosts : List String) : Json :=
  .object [("metadata", .object [
      ("namespace", .string subject.ref.namespaceName), ("name", .string subject.ref.name),
      ("annotations", .object [(Key.register, .string "true")])]),
    ("spec", rulesFor hosts)]

/-- The one that gives the host up, and the one that takes it. -/
def party : Bool → Subject
  | true => route
  | false => ⟨.ingress, ⟨"default", "api"⟩⟩

def unservedEstate : Estate :=
  ((⟨fun _ => {}, []⟩ : Estate).edit .ingress
    (.put (ingressFor (party true) ["x.local", "a.local"]))).edit .ingress
    (.put (ingressFor (party false) ["b.local"]))

def handOver (estate : Estate) : Estate :=
  (estate.edit .ingress (.merge (party true).ref (.object [("spec", rulesFor ["a.local"])]))).edit
    .ingress (.merge (party false).ref (.object [("spec", rulesFor ["x.local", "b.local"])]))

/-- Both objects are reconciled, and then one of them is given a host of the other. -/
def handedOverEstate : Estate :=
  match unservedEstate.inTurn "10.0.0.1" [party true, party false] with
  | .ok served => handOver served
  | .error _ => unservedEstate

def handedOverManifest (who : Bool) : Json := (handedOverEstate.find? (party who)).getD .null

theorem asksFor_handedOver (who : Bool) :
    AsksFor .ingress (handedOverManifest who) "10.0.0.1" "10.0.0.1" := by
  constructor <;> cases who <;> decide +kernel

theorem disjoint_handedOver : ∀ i j, i ≠ j → ∀ host ∈ desired .ingress (handedOverManifest i),
    host ∉ desired .ingress (handedOverManifest j) := by
  decide +kernel

theorem exists_of_map_toOption {ε α β : Type} {r : Except ε α} {f : α → β} {b : β}
    (h : r.toOption.map f = some b) : ∃ a, r = .ok a ∧ f a = b := by
  cases r with
  | ok a => exact ⟨a, rfl, Option.some.inj h⟩
  | error e => cases h

/-- The object that gives the host up comes last and clears it. -/
theorem unbound_after_handover :
    (∃ served, unservedEstate.inTurn "10.0.0.1" [party true, party false] = .ok served ∧
      handedOverEstate = handOver served) ∧
    (∀ who, AsksFor .ingress (handedOverManifest who) "10.0.0.1" "10.0.0.1") ∧
    (∀ i j, i ≠ j → ∀ host ∈ desired .ingress (handedOverManifest i),
      host ∉ desired .ingress (handedOverManifest j)) ∧
    "x.local" ∈ desired .ingress (handedOverManifest false) ∧
    ∃ last, handedOverEstate.inTurn "10.0.0.1" [party false, party true] = .ok last ∧
      recordsOf "x.local" last.records = [] := by
  refine ⟨?_, asksFor_handedOver, disjoint_handedOver, by decide +kernel, ?_⟩
  · obtain ⟨served, hserved, -⟩ := exists_of_map_toOption (f := fun _ => ())
      (r := unservedEstate.inTurn "10.0.0.1" [party true, party false]) (b := ()) (by decide +kernel)
    refine ⟨served, hserved, ?_⟩
    rw [handedOverEstate, hserved]
  · exact exists_of_map_toOption (by decide +kernel)

/-- The object that gives the host up comes first, and all hosts are bound at the end. -/
theorem bound_unless_given_up_later_of_handedOver : ∃ last,
    handedOverEstate.inTurn "10.0.0.1" [party true, party false] = .ok last ∧
    ∀ who, ∀ host ∈ desired .ingress (handedOverManifest who),
      recordsOf host last.records = [⟨host, "10.0.0.1"⟩] := by
  have own : ∀ who, subjectOf .ingress (handedOverManifest who) = party who := by
    decide +kernel
  have distinct : Function.Injective fun who => subjectOf .ingress (handedOverManifest who) := by
    intro i j hij
    cases i <;> cases j <;> first | rfl | exact absurd hij (by decide +kernel)
  have filed : ∀ who, Filed .ingress (handedOverManifest who) := by
    intro who
    cases who <;> exact ⟨by decide +kernel, by decide +kernel⟩
  have stored : ∀ who, handedOverEstate.find? (subjectOf .ingress (handedOverManifest who)) =
      some (handedOverManifest who) := by
    intro who
    have hsome : (handedOverEstate.find? (party who)).isSome = true := by
      cases who <;> decide +kernel
    rw [own, handedOverManifest, Option.eq_some_of_isSome hsome, Option.getD_some]
  have single : OnePerName handedOverEstate.records := onePerName_of_nodup (by decide +kernel)
  have once : [true, false].Nodup := by decide
  have settled : ∀ who, who ∉ [true, false] → ∀ host ∈ desired .ingress (handedOverManifest who),
      recordsOf host handedOverEstate.records = [⟨host, "10.0.0.1"⟩] := by
    intro who hnot
    cases who <;> simp at hnot
  obtain ⟨last, hlast, hbound⟩ := bound_unless_given_up_later distinct filed stored
    asksFor_handedOver disjoint_handedOver single once settled
  rw [List.map_congr_left fun who _ => own who] at hlast
  refine ⟨last, hlast, fun who host hd => ?_⟩
  cases who with
  | true =>
    have kept : ∀ host ∈ desired .ingress (handedOverManifest true),
        host ∉ writtenDown (handedOverManifest false) := by decide +kernel
    simpa [kept host hd] using hbound true host hd [] [false] (.inl rfl)
  | false => simpa using hbound false host hd [true] [] (.inl rfl)

end ClusterDns.Reconcile
