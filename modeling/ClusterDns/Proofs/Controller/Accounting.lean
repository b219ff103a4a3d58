import ClusterDns.Proofs.Reconcile.Tally
import ClusterDns.Rehearsal.Running
import Mathlib.Algebra.BigOperators.Group.Finset.Piecewise

/-! The accounts of a controller. Reconciles of objects of all kinds are under way together, and
their questions may come in any order and have any answers. Each one that ends is counted with its
outcome, and a failure is judged once, at any later time. The books balance whenever no failure
waits for its judgement: they are kept by label, but the label tells all that the judgement depends
on. -/

namespace ClusterDns.Reconcile

open Cluster (Kind Object ObjectRef)
open Metrics (Series)
open PiHole (Record)

/-! ## What a reconcile counts -/

/-- A series that tells of records. -/
def IsOfRecords : Series → Prop
  | .records .. => True
  | _ => False

/-- A question that counts no reconciles, errors or requeues. -/
def CountsRecords : Request → Prop
  | .count series => IsOfRecords series
  | _ => True

section

variable {α : Type}

/-- All that is counted on the way are records. -/
abbrev RecordsOnly (x : Action α) : Prop := Contract.Only CountsRecords x.run

theorem recordsOnly_fetch (ref : ObjectRef) : RecordsOnly (fetch ref) :=
  ⟨trivial, fun _ => trivial⟩

theorem recordsOnly_patch (ref : ObjectRef) (body : Json) : RecordsOnly (patch ref body) :=
  ⟨trivial, fun _ => trivial⟩

theorem recordsOnly_note (subject : Subject) (event : Event) : RecordsOnly (note subject event) :=
  ⟨trivial, fun _ => trivial⟩

theorem recordsOnly_count (kind operation : String) :
    RecordsOnly (count (.records kind operation)) :=
  ⟨trivial, fun _ => trivial⟩

theorem recordsOnly_onStore (step : StoreStep) (work : Attempt PiHole.Store PiHole.Error α) :
    RecordsOnly (onStore step work) := by
  have hask : ∀ q, Contract.Only CountsRecords (ask (.dns q)) :=
    fun _ => ⟨trivial, fun _ => trivial⟩
  exact Contract.Only.rephrase (Contract.Only.substitute hask work.run) _

theorem recordsOnly_noteBound (subject : Subject) (r : Record) (bound : Option String) :
    RecordsOnly (noteBound subject r bound) := by
  cases bound <;> exact (recordsOnly_note ..).attempt fun _ => recordsOnly_count ..

theorem recordsOnly_bindHosts (subject : Subject) (target : String) (hosts : List String)
    (b : Bindings) : RecordsOnly (bindHosts subject target hosts b) := by
  induction hosts generalizing b with
  | nil => trivial
  | cons host rest ih =>
    rw [bindHosts]
    split
    · exact ih b
    · exact (recordsOnly_onStore ..).attempt fun _ =>
        (recordsOnly_noteBound ..).attempt fun _ => ih _

theorem recordsOnly_deleteHosts (subject : Subject) (hosts : List String) :
    RecordsOnly (deleteHosts subject hosts) := by
  induction hosts with
  | nil => trivial
  | cons host rest ih =>
    have hhost : RecordsOnly (deleteHost subject host) :=
      (recordsOnly_onStore ..).attempt fun _ =>
        (recordsOnly_note ..).attempt fun _ => recordsOnly_count ..
    exact hhost.attempt fun _ => ih

theorem recordsOnly_removeFinalizer (kind : Kind) (object : Object) (finalizer : String)
    (dropped : List String) : RecordsOnly (removeFinalizer kind object finalizer dropped) := by
  rw [removeFinalizer]
  split
  · exact (recordsOnly_note ..).attempt fun _ => (recordsOnly_patch ..).attempt fun _ => trivial
  · trivial

theorem recordsOnly_release (subject : Subject) (reason : Event) (object : Object) :
    RecordsOnly (release subject reason object) := by
  rw [release]
  split
  · exact (recordsOnly_note ..).attempt fun _ =>
      (recordsOnly_deleteHosts ..).attempt fun _ => recordsOnly_removeFinalizer ..
  · trivial

theorem recordsOnly_ensureFinalizer (kind : Kind) (object : Object) (finalizer : String) :
    RecordsOnly (ensureFinalizer kind object finalizer) := by
  rw [ensureFinalizer]
  split
  · trivial
  · exact (recordsOnly_note ..).attempt fun _ => recordsOnly_patch ..

theorem recordsOnly_writeManaged (subject : Subject) (hosts : List String) :
    RecordsOnly (writeManaged subject hosts) := by
  refine (recordsOnly_fetch _).attempt fun found => ?_
  cases found with
  | none => exact recordsOnly_note ..
  | some latest =>
    dsimp only
    split
    · exact (recordsOnly_patch ..).attempt fun _ => trivial
    · trivial

theorem recordsOnly_serve (subject : Subject) (defaultTarget : String) (object : Object) :
    RecordsOnly (serve subject defaultTarget object) := by
  unfold serve
  dsimp only
  split
  · exact recordsOnly_note ..
  · split
    · exact recordsOnly_note ..
    · have hsync : ∀ target, RecordsOnly (syncHosts subject target (desiredHosts object)) :=
        fun _ => (recordsOnly_onStore ..).attempt fun _ => recordsOnly_bindHosts ..
      exact (hsync _).attempt fun _ => (recordsOnly_deleteHosts ..).attempt fun _ =>
        ((recordsOnly_writeManaged ..).rephrase _).attempt fun _ => recordsOnly_note ..

/-- Reconciles, errors and requeues are for others to count. -/
theorem recordsOnly_reconcile (subject : Subject) (defaultTarget : String) :
    RecordsOnly (reconcile subject defaultTarget) := by
  refine (recordsOnly_fetch _).attempt fun found => ?_
  cases found with
  | none => exact recordsOnly_note ..
  | some object =>
    dsimp only
    split
    · exact recordsOnly_release ..
    · split
      · exact recordsOnly_release ..
      · refine (recordsOnly_ensureFinalizer ..).attempt fun held => ?_
        cases held with
        | none => trivial
        | some next => exact recordsOnly_serve ..

end

/-! ## Labels -/

namespace Error

/-- All labels of failures. -/
def labels : Finset String :=
  {"PiholeBadRequest", "PiholeUnauthorized", "PiholeNotFound", "PiholeServerError",
    "PiholeUnexpectedStatus", "PiholeAuthenticationRejected", "PiholeTimeout",
    "PiholeUnreachable", "PiholeInvalidResponse", "PiholeInvalidUrl", "KubernetesConflict",
    "ManagedHostsUpdateFailed", "KubernetesApiError"}

/-- The labels of failures that no other try can mend. -/
def permanentLabels : Finset String :=
  {"PiholeBadRequest", "PiholeAuthenticationRejected", "PiholeInvalidUrl"}

theorem label_mem_labels (e : Error) : e.label ∈ labels := by
  cases e with
  | store step source =>
    cases source with
    | api status message =>
      rw [label, PiHole.Error.label]
      repeat' split
      all_goals decide
    | _ => simp [label, PiHole.Error.label, labels]
  | _ => simp [label, labels]

/-- The label tells whether there is to be another try. -/
theorem isRetryable_iff (e : Error) : e.isRetryable = true ↔ e.label ∉ permanentLabels := by
  cases e with
  | store step source =>
    have hsource : (store step source).isRetryable = source.isRetryable := by
      rw [isRetryable, retrySecs?]
      cases source.isRetryable <;> rfl
    rw [hsource, label]
    cases source with
    | api status message =>
      rw [PiHole.Error.isRetryable, PiHole.Error.label]
      cases hrefuses : PiHole.Error.refusesRequest status with
      | true => simp [permanentLabels]
      | false =>
        simp only [Bool.not_false, true_iff, Bool.false_eq_true, if_false]
        repeat' split
        all_goals decide
    | _ => simp [PiHole.Error.isRetryable, PiHole.Error.label, permanentLabels]
  | _ => simp [isRetryable, retrySecs?, label, permanentLabels]

end Error

end ClusterDns.Reconcile

namespace ClusterDns.Controller

open Cluster (Kind)
open Metrics (Registry Series)
open Reconcile (CountsRecords Error IsOfRecords Request Subject Surroundings countedBy reconcile
  recordsOnly_reconcile)

/-! ## Workloads -/

/-- Reconciles that are under way, failures that wait to be judged, and the reconciles that have
ended so far, the last one first. The counters are kept for all of them. -/
structure Workload where
  registry : Registry := {}
  underway : List (Kind × Program Surroundings (Except Error Unit)) := []
  undecided : List (Kind × Error) := []
  ended : List (Kind × Except Error Unit) := []

def failure? : Except Error Unit → Option Error
  | .ok _ => none
  | .error e => some e

@[simp] theorem failure?_ok (done : Unit) : failure? (.ok done) = none := rfl

@[simp] theorem failure?_error (e : Error) : failure? (.error e) = some e := rfl

inductive Workload.Step : Workload → Workload → Prop
  | begun (load : Workload) (subject : Subject) (defaultTarget : String) : Step load
      { load with
        underway := (subject.kind, (reconcile subject defaultTarget).run) :: load.underway }
  | asked {load : Workload} {kind : Kind} {q : Request}
      {next : q.Answer → Program Surroundings (Except Error Unit)}
      {before after : List (Kind × Program Surroundings (Except Error Unit))}
      (here : load.underway = before ++ (kind, .ask (I := Surroundings) q next) :: after)
      (r : q.Answer) : Step load
        { load with
          registry := countedBy q load.registry
          underway := before ++ (kind, next r) :: after }
  | ended {load : Workload} {kind : Kind} {outcome : Except Error Unit}
      {before after : List (Kind × Program Surroundings (Except Error Unit))}
      (here : load.underway = before ++ (kind, .done outcome) :: after)
      (duration : Time.Duration) : Step load
        { registry := account kind outcome duration load.registry
          underway := before ++ after
          undecided := (failure? outcome).toList.map (kind, ·) ++ load.undecided
          ended := (kind, outcome) :: load.ended }
  | judged {load : Workload} {kind : Kind} {e : Error} {before after : List (Kind × Error)}
      (here : load.undecided = before ++ (kind, e) :: after) : Step load
        { load with
          registry := accountRetry kind e load.registry
          undecided := before ++ after }

/-- Any number of steps. -/
abbrev Workload.Steps : Workload → Workload → Prop := Relation.ReflTransGen Workload.Step

/-! ## What is counted -/

section

variable {kind other : Kind} {outcome : Except Error Unit} {e : Error} {reason : String}
  {registry : Registry} {series : Series} {load next : Workload}

/-- The series a reconcile is counted under when it ends. -/
def outcomeSeries (kind : Kind) : Except Error Unit → List Series
  | .ok _ => [.reconciliations kind.name .success]
  | .error e => [.reconciliations kind.name .error, .errors kind.name e.label]

/-- The series a failure is counted under when it is judged. -/
def retrySeries (kind : Kind) (e : Error) : List Series :=
  if e.isRetryable then [.requeues kind.name e.label] else []

/-- All that is counted for a reconcile. -/
def callSeries (kind : Kind) (outcome : Except Error Unit) : List Series :=
  outcomeSeries kind outcome ++ (failure? outcome).elim [] (retrySeries kind)

theorem count_account (kind : Kind) (outcome : Except Error Unit) (duration : Time.Duration)
    (registry : Registry) (series : Series) :
    (account kind outcome duration registry).count series =
      registry.count series + (outcomeSeries kind outcome).count series := by
  cases outcome with
  | ok _ =>
    rw [account, Registry.count_reconciled]
    simp [outcomeSeries, List.count_cons, @eq_comm _ series]
  | error e =>
    rw [account, Registry.count_increment, Registry.count_reconciled]
    simp [outcomeSeries, List.count_cons, @eq_comm _ series, Nat.add_assoc, Nat.add_comm]

theorem count_accountRetry (kind : Kind) (e : Error) (registry : Registry) (series : Series) :
    (accountRetry kind e registry).count series =
      registry.count series + (retrySeries kind e).count series := by
  rw [accountRetry, retrySeries]
  split
  · rw [Registry.count_increment]
    simp [List.count_cons, @eq_comm _ series]
  · rfl

theorem count_countedBy {q : Request} (records : CountsRecords q) (other : ¬ IsOfRecords series)
    (registry : Registry) : (countedBy q registry).count series = registry.count series := by
  cases q with
  | count counted =>
    have hne : series ≠ counted := by
      rintro rfl
      exact other records
    rw [countedBy, Registry.count_increment, if_neg hne]
    rfl
  | _ => rfl

/-! ## The books -/

/-- What is counted for reconciles that have ended and been judged. -/
def seriesOfCalls (calls : List (Kind × Except Error Unit)) : List Series :=
  calls.flatMap fun call => callSeries call.1 call.2

/-- What is still to be counted for failures that have not been judged. -/
def seriesToCome (undecided : List (Kind × Error)) : List Series :=
  undecided.flatMap fun failure => retrySeries failure.1 failure.2

/-- What is counted for a reconcile when it ends, and what is to come if it has failed. -/
theorem count_callSeries (kind : Kind) (outcome : Except Error Unit) (series : Series) :
    (callSeries kind outcome).count series = (outcomeSeries kind outcome).count series +
      (seriesToCome ((failure? outcome).toList.map (kind, ·))).count series := by
  rw [callSeries, List.count_append]
  cases outcome with
  | ok _ => rfl
  | error e => simp [seriesToCome]

/-- Together with what is still to come, the counters say all there is to say of the reconciles that
have ended. -/
structure Workload.Balanced (load : Workload) : Prop where
  underway : ∀ task ∈ load.underway, Contract.Only CountsRecords task.2
  counted : ∀ series, ¬ IsOfRecords series →
    load.registry.count series + (seriesToCome load.undecided).count series =
      (seriesOfCalls load.ended).count series

theorem Workload.balanced_empty : ({} : Workload).Balanced :=
  ⟨fun _ h => absurd h List.not_mem_nil, fun _ _ => rfl⟩

theorem Workload.Balanced.step (h : load.Balanced) (step : load.Step next) : next.Balanced := by
  cases step with
  | begun subject defaultTarget =>
    refine ⟨fun task ht => ?_, h.counted⟩
    rcases List.mem_cons.mp ht with rfl | ht
    · exact recordsOnly_reconcile subject defaultTarget
    · exact h.underway task ht
  | asked here r =>
    obtain ⟨hq, hnext⟩ := h.underway _ (here ▸ List.mem_append_right _ List.mem_cons_self)
    refine ⟨fun task ht => ?_, fun series other => ?_⟩
    · rcases List.mem_append.mp ht with ht | ht
      · exact h.underway task (here ▸ List.mem_append_left _ ht)
      · rcases List.mem_cons.mp ht with rfl | ht
        · exact hnext r
        · exact h.underway task (here ▸ List.mem_append_right _ (List.mem_cons_of_mem _ ht))
    · rw [count_countedBy hq other]
      exact h.counted series other
  | @ended kind outcome before after here duration =>
    refine ⟨fun task ht => ?_, fun series other => ?_⟩
    · rcases List.mem_append.mp ht with ht | ht
      · exact h.underway task (here ▸ List.mem_append_left _ ht)
      · exact h.underway task (here ▸ List.mem_append_right _ (List.mem_cons_of_mem _ ht))
    · -- what is counted now and what is to come make up what the call is counted for
      have hcounted := h.counted series other
      have hcall := count_callSeries kind outcome series
      simp only [count_account, seriesOfCalls, seriesToCome, List.flatMap_cons,
        List.flatMap_append, List.count_append] at hcounted hcall ⊢
      omega
  | judged here =>
    refine ⟨h.underway, fun series other => ?_⟩
    -- what was to come for the failure is counted, and the sum is the same
    have hcounted := h.counted series other
    rw [here] at hcounted
    simp only [count_accountRetry, seriesToCome, List.flatMap_append, List.flatMap_cons,
      List.count_append] at hcounted ⊢
    omega

theorem Workload.Balanced.steps (h : load.Balanced) (run : load.Steps next) : next.Balanced := by
  induction run with
  | refl => exact h
  | tail _ step ih => exact ih.step step

/-! ## Reading the books -/

theorem name_injective : Function.Injective Kind.name := by
  intro kind other h
  have hname := Kind.ofName?_name kind
  rw [h, Kind.ofName?_name] at hname
  exact (Option.some.inj hname).symm

theorem count_callSeries_success : (callSeries other outcome).count
    (.reconciliations kind.name .success) = if other = kind ∧ outcome = .ok () then 1 else 0 := by
  cases outcome with
  | ok _ => simp [callSeries, outcomeSeries, List.count_cons, name_injective.eq_iff]
  | error e =>
    rw [callSeries, failure?_error, Option.elim_some, retrySeries]
    split <;> simp [outcomeSeries]

theorem count_callSeries_error : (callSeries other outcome).count
    (.reconciliations kind.name .error) = if other = kind ∧ outcome ≠ .ok () then 1 else 0 := by
  cases outcome with
  | ok _ => simp [callSeries, outcomeSeries]
  | error e =>
    rw [callSeries, failure?_error, Option.elim_some, retrySeries]
    split <;> simp [outcomeSeries, List.count_cons, name_injective.eq_iff]

theorem count_callSeries_errors : (callSeries other outcome).count (.errors kind.name reason) =
    if other = kind ∧ (failure? outcome).map Error.label = some reason then 1 else 0 := by
  cases outcome with
  | ok _ => simp [callSeries, outcomeSeries]
  | error e =>
    rw [callSeries, failure?_error, Option.elim_some, retrySeries]
    split <;> simp [outcomeSeries, List.count_cons, name_injective.eq_iff]

/-- A failure is tried again under its own label, unless that is one that no other try can mend. -/
theorem count_callSeries_requeues : (callSeries other outcome).count (.requeues kind.name reason) =
    if reason ∈ Error.permanentLabels then 0
    else (callSeries other outcome).count (.errors kind.name reason) := by
  rw [count_callSeries_errors]
  cases outcome with
  | ok _ => simp [callSeries, outcomeSeries]
  | error e =>
    have hretries := e.isRetryable_iff
    by_cases hlabel : e.label = reason
    · subst hlabel
      by_cases hpermanent : e.label ∈ Error.permanentLabels
      · have hnever : e.isRetryable = false :=
          Bool.eq_false_iff.mpr fun h => hretries.mp h hpermanent
        simp [callSeries, outcomeSeries, retrySeries, hnever, hpermanent]
      · simp [callSeries, outcomeSeries, retrySeries, hretries.mpr hpermanent, hpermanent, failure?,
          List.count_cons, name_injective.eq_iff]
    · rw [callSeries, failure?_error, Option.elim_some, retrySeries]
      split <;> simp [outcomeSeries, hlabel]

/-- Every failure has one of the labels. -/
theorem sum_callSeries_errors :
    ∑ reason ∈ Error.labels, (callSeries other outcome).count (.errors kind.name reason) =
      (callSeries other outcome).count (.reconciliations kind.name .error) := by
  simp only [count_callSeries_errors, count_callSeries_error]
  cases outcome with
  | ok _ => simp
  | error e =>
    by_cases hkind : other = kind
    · simp [hkind, e.label_mem_labels]
    · simp [hkind]

section

variable {calls : List (Kind × Except Error Unit)}

theorem seriesOfCalls_cons (call : Kind × Except Error Unit)
    (calls : List (Kind × Except Error Unit)) :
    seriesOfCalls (call :: calls) = callSeries call.1 call.2 ++ seriesOfCalls calls :=
  List.flatMap_cons

theorem count_calls_success : (seriesOfCalls calls).count (.reconciliations kind.name .success) =
    calls.countP fun call => call.1 = kind ∧ call.2 = .ok () := by
  induction calls with
  | nil => rfl
  | cons call rest ih =>
    rw [seriesOfCalls_cons, List.count_append, count_callSeries_success, ih, List.countP_cons,
      Nat.add_comm]
    simp

theorem count_calls_error : (seriesOfCalls calls).count (.reconciliations kind.name .error) =
    calls.countP fun call => call.1 = kind ∧ call.2 ≠ .ok () := by
  induction calls with
  | nil => rfl
  | cons call rest ih =>
    rw [seriesOfCalls_cons, List.count_append, count_callSeries_error, ih, List.countP_cons,
      Nat.add_comm]
    simp

theorem count_calls_errors : (seriesOfCalls calls).count (.errors kind.name reason) =
    calls.countP fun call =>
      call.1 = kind ∧ (failure? call.2).map Error.label = some reason := by
  induction calls with
  | nil => rfl
  | cons call rest ih =>
    rw [seriesOfCalls_cons, List.count_append, count_callSeries_errors, ih, List.countP_cons,
      Nat.add_comm]
    simp

theorem count_calls_requeues : (seriesOfCalls calls).count (.requeues kind.name reason) =
    if reason ∈ Error.permanentLabels then 0
    else (seriesOfCalls calls).count (.errors kind.name reason) := by
  induction calls with
  | nil => simp [seriesOfCalls]
  | cons call rest ih =>
    rw [seriesOfCalls_cons, List.count_append, List.count_append, count_callSeries_requeues, ih]
    split <;> rfl

theorem sum_calls_errors :
    ∑ reason ∈ Error.labels, (seriesOfCalls calls).count (.errors kind.name reason) =
      (seriesOfCalls calls).count (.reconciliations kind.name .error) := by
  induction calls with
  | nil => simp [seriesOfCalls]
  | cons call rest ih =>
    simp only [seriesOfCalls_cons, List.count_append, Finset.sum_add_distrib,
      sum_callSeries_errors, ih]

/-- Each call ends with a success or with an error. -/
theorem countP_outcomes :
    (calls.countP fun call => call.1 = kind ∧ call.2 = .ok ()) +
      (calls.countP fun call => call.1 = kind ∧ call.2 ≠ .ok ()) =
    calls.countP fun call => call.1 = kind := by
  induction calls with
  | nil => rfl
  | cons call rest ih =>
    simp only [List.countP_cons, ← ih]
    by_cases hkind : call.1 = kind <;> by_cases hok : call.2 = .ok () <;> simp [hkind, hok] <;>
      omega

end

/-! ## Controllers at work -/

section

variable {δ : Type}

theorem registry_answer (kind : Kind) (keeper : Rehearsal.Keeper δ) (q : Request)
    (stage : Rehearsal.Stage δ) :
    (stage.answer kind keeper q).2.registry = countedBy q stage.registry := by
  cases q <;> rfl

/-- A reconcile is carried through, question by question. -/
theorem steps_perform (kind : Kind) (keeper : Rehearsal.Keeper δ)
    (p : Program Surroundings (Except Error Unit)) (stage : Rehearsal.Stage δ)
    (ended : List (Kind × Except Error Unit)) :
    Workload.Steps { registry := stage.registry, underway := [(kind, p)], ended }
      { registry := (p.run (Rehearsal.Stage.answer kind keeper) stage).2.registry
        underway := [(kind, .done (p.run (Rehearsal.Stage.answer kind keeper) stage).1)]
        ended } := by
  induction p generalizing stage with
  | done outcome => exact .refl
  | ask q next ih =>
    have asked : Workload.Step _ _ := @Workload.Step.asked
      { registry := stage.registry, underway := [(kind, .ask q next)], ended } kind q next [] [] rfl
      (stage.answer kind keeper q).1
    rw [← registry_answer kind keeper q stage] at asked
    exact .head asked (ih _ _)

/-- How a reconcile of an object ends. -/
def outcomeOf (c : Rehearsal.Controlled δ) (ref : Cluster.ObjectRef) : Except Error Unit :=
  (c.stage.perform c.kind c.keeper (reconcile ⟨c.kind, ref⟩ c.defaultTarget)).1

/-- The counters after a reconcile has ended and its failure, if it is one, has been judged. -/
def settledRegistry (kind : Kind) (outcome : Except Error Unit) (registry : Registry) : Registry :=
  (failure? outcome).elim id (accountRetry kind)
    (account kind outcome Rehearsal.Controlled.noTime registry)

theorem registry_attempt {c : Rehearsal.Controlled δ} {ref : Cluster.ObjectRef}
    (known : c.known.contains ref = true) : (c.attempt ref).stage.registry =
      settledRegistry c.kind (outcomeOf c ref) (c.stage.perform c.kind c.keeper
        (reconcile ⟨c.kind, ref⟩ c.defaultTarget)).2.registry := by
  rw [Rehearsal.Controlled.attempt, if_neg (by simpa using known), outcomeOf]
  generalize c.stage.perform c.kind c.keeper (reconcile ⟨c.kind, ref⟩ c.defaultTarget) = performed
  obtain ⟨outcome, stage⟩ := performed
  cases outcome with
  | ok _ => rfl
  | error e => dsimp only; cases e.retrySecs? <;> rfl

/-- Whatever comes of an attempt, the controller is for the same kind and knows the same objects. -/
theorem attempt_keeps (c : Rehearsal.Controlled δ) (ref : Cluster.ObjectRef) :
    (c.attempt ref).kind = c.kind ∧ (c.attempt ref).known = c.known := by
  rw [Rehearsal.Controlled.attempt]
  split
  · exact ⟨rfl, rfl⟩
  · generalize c.stage.perform c.kind c.keeper (reconcile ⟨c.kind, ref⟩ c.defaultTarget) = performed
    obtain ⟨outcome, stage⟩ := performed
    cases outcome with
    | ok _ => exact ⟨rfl, rfl⟩
    | error e => dsimp only; cases e.retrySecs? <;> exact ⟨rfl, rfl⟩

@[simp] theorem kind_attempt (c : Rehearsal.Controlled δ) (ref : Cluster.ObjectRef) :
    (c.attempt ref).kind = c.kind := (attempt_keeps c ref).1

@[simp] theorem known_attempt (c : Rehearsal.Controlled δ) (ref : Cluster.ObjectRef) :
    (c.attempt ref).known = c.known := (attempt_keeps c ref).2

/-- A reconcile that is over ends, and is judged at once. -/
theorem steps_settle (kind : Kind) (outcome : Except Error Unit) (registry : Registry)
    (ended : List (Kind × Except Error Unit)) :
    Workload.Steps { registry, underway := [(kind, .done outcome)], ended }
      { registry := settledRegistry kind outcome registry, ended := (kind, outcome) :: ended } := by
  have hended := @Workload.Step.ended { registry, underway := [(kind, .done outcome)], ended } kind
    outcome [] [] rfl Rehearsal.Controlled.noTime
  cases outcome with
  | ok _ => exact .single hended
  | error e =>
    exact (Relation.ReflTransGen.single hended).tail (@Workload.Step.judged _ kind e [] [] rfl)

/-- An attempt is a call, and its judgement follows at once. -/
theorem steps_attempt {c : Rehearsal.Controlled δ} {ref : Cluster.ObjectRef}
    (known : c.known.contains ref = true) (ended : List (Kind × Except Error Unit)) :
    Workload.Steps { registry := c.stage.registry, ended }
      { registry := (c.attempt ref).stage.registry
        ended := (c.kind, outcomeOf c ref) :: ended } := by
  have begun := Workload.Step.begun { registry := c.stage.registry, ended } ⟨c.kind, ref⟩
    c.defaultTarget
  have carried := steps_perform c.kind c.keeper (reconcile ⟨c.kind, ref⟩ c.defaultTarget).run
    c.stage ended
  rw [registry_attempt known]
  exact (Relation.ReflTransGen.head begun carried).trans (steps_settle _ _ _ _)

/-- Objects that are not known any more are passed over. -/
theorem exists_attempt (c : Rehearsal.Controlled δ) (ref : Cluster.ObjectRef)
    (ended : List (Kind × Except Error Unit)) : ∃ calls,
      Workload.Steps { registry := c.stage.registry, ended }
        { registry := (c.attempt ref).stage.registry, ended := calls ++ ended } := by
  by_cases known : c.known.contains ref = true
  · exact ⟨[_], steps_attempt known ended⟩
  · refine ⟨[], ?_⟩
    rw [Rehearsal.Controlled.attempt, if_pos (by simpa using known)]
    exact .refl

/-- The turns of a controller are such steps, and leave no failure to be judged. -/
theorem exists_work (latest turns : Nat) (c : Rehearsal.Controlled δ)
    (ended : List (Kind × Except Error Unit)) : ∃ calls,
      Workload.Steps { registry := c.stage.registry, ended }
        { registry := (c.work latest turns).stage.registry, ended := calls ++ ended } := by
  induction turns generalizing c ended with
  | zero => exact ⟨[], .refl⟩
  | succ turns ih =>
    rw [Rehearsal.Controlled.work]
    cases c.queue.take? latest with
    | none => exact ⟨[], .refl⟩
    | some taken =>
      obtain ⟨⟨ref, time⟩, queue⟩ := taken
      obtain ⟨calls, first⟩ := exists_attempt { c with queue, now := time } ref ended
      obtain ⟨more, rest⟩ := ih (({ c with queue, now := time } : Rehearsal.Controlled δ).attempt ref)
        (calls ++ ended)
      refine ⟨more ++ calls, first.trans ?_⟩
      rw [List.append_assoc]
      exact rest

end

/-- Whenever no failure waits to be judged, the books balance for each kind. Every reconcile that has
ended is counted once, as a success or as an error; the errors by label add up to the errors; and
for each label there are as many requeues as errors, but none for the labels that no other try can
mend. So the label tells whether there is another try. -/
theorem books_balance (run : Workload.Steps {} load) (judged : load.undecided = []) (kind : Kind) :
    load.registry.count (.reconciliations kind.name .success) =
      (load.ended.countP fun call => call.1 = kind ∧ call.2 = .ok ()) ∧
    load.registry.count (.reconciliations kind.name .error) =
      (load.ended.countP fun call => call.1 = kind ∧ call.2 ≠ .ok ()) ∧
    load.registry.count (.reconciliations kind.name .success) +
        load.registry.count (.reconciliations kind.name .error) =
      (load.ended.countP fun call => call.1 = kind) ∧
    ∑ reason ∈ Error.labels, load.registry.count (.errors kind.name reason) =
      load.registry.count (.reconciliations kind.name .error) ∧
    (∀ reason ∉ Error.labels, load.registry.count (.errors kind.name reason) = 0) ∧
    (∀ reason, load.registry.count (.requeues kind.name reason) =
      if reason ∈ Error.permanentLabels then 0
      else load.registry.count (.errors kind.name reason)) ∧
    ∀ e : Error, e.isRetryable = true ↔ e.label ∉ Error.permanentLabels := by
  have hcount : ∀ series, ¬ IsOfRecords series →
      load.registry.count series = (seriesOfCalls load.ended).count series := by
    intro series other
    have hcounted := (Workload.balanced_empty.steps run).counted series other
    rwa [judged] at hcounted
  have hsuccess := hcount (.reconciliations kind.name .success) id
  have herror := hcount (.reconciliations kind.name .error) id
  have herrors := fun reason => hcount (.errors kind.name reason) id
  refine ⟨hsuccess.trans count_calls_success, herror.trans count_calls_error, ?_, ?_,
    fun reason foreign => ?_, fun reason => ?_, Error.isRetryable_iff⟩
  · rw [hsuccess, herror, count_calls_success, count_calls_error, countP_outcomes]
  · simp only [herrors, herror, sum_calls_errors]
  · rw [herrors, count_calls_errors, List.countP_eq_zero]
    rintro ⟨_, outcome⟩ -
    cases outcome with
    | ok _ => simp
    | error e =>
      have hne : e.label ≠ reason := fun he => foreign (he ▸ e.label_mem_labels)
      simp [hne]
  · rw [hcount _ id, count_calls_requeues, herrors]

end

/-- A keeper of records that takes no new one: it refuses one name, and is too slow for others. -/
def troubledKeeper : Rehearsal.Keeper Unit
  | .list, s => (.ok [], s)
  | .create r, s =>
    (.error (if r.domain = "a.local" then .api 400 "refused" else .timeout "http://pi.hole"), s)
  | .delete _, s => (.ok (), s)

/-- A route of a name that takes part with one host, or takes no part at all. -/
def troubledManifest (name : String) (host? : Option String) : Json :=
  (Rehearsal.routeManifest
    (host?.elim [] fun host => [(Reconcile.Key.register, "true"), (Reconcile.Key.hosts, host)])
    [Reconcile.cleanupFinalizer]).mergePatch
      (.object [("metadata", .object [("name", .string name)])])

def troubledServer : Rehearsal.ApiServer :=
  [troubledManifest "one" (some "a.local"), troubledManifest "two" (some "b.local"),
    troubledManifest "three" none].foldl (fun server manifest => server.edit (.put manifest)) {}

def troubledController : Rehearsal.Controlled Unit :=
  Rehearsal.Controlled.start {
    kind := .ingress
    defaultTarget := "10.0.0.1"
    keeper := troubledKeeper
    stage := { api := { server := troubledServer }, dns := () } }

def troubledAfter : Rehearsal.Controlled Unit :=
  ((troubledController.attempt ⟨"default", "one"⟩).attempt ⟨"default", "two"⟩).attempt
    ⟨"default", "three"⟩

/-- Of three reconciles one succeeds, one fails for good, and one is to be tried again. -/
theorem books_balance_of_troubled :
    (∃ ended, Workload.Steps {} { registry := troubledAfter.stage.registry, ended }) ∧
    troubledAfter.stage.registry.count (.reconciliations Kind.ingress.name .success) +
      troubledAfter.stage.registry.count (.reconciliations Kind.ingress.name .error) = 3 ∧
    troubledAfter.stage.registry.count (.errors Kind.ingress.name "PiholeBadRequest") = 1 ∧
    troubledAfter.stage.registry.count (.requeues Kind.ingress.name "PiholeBadRequest") = 0 ∧
    troubledAfter.stage.registry.count (.errors Kind.ingress.name "PiholeTimeout") = 1 ∧
    troubledAfter.stage.registry.count (.requeues Kind.ingress.name "PiholeTimeout") = 1 := by
  have known : troubledController.known = [⟨"default", "one"⟩, ⟨"default", "two"⟩,
      ⟨"default", "three"⟩] := by decide +kernel
  have counted :
      troubledAfter.stage.registry.count (.errors Kind.ingress.name "PiholeBadRequest") = 1 ∧
      troubledAfter.stage.registry.count (.errors Kind.ingress.name "PiholeTimeout") = 1 := by
    decide +kernel
  have first : troubledController.known.contains ⟨"default", "one"⟩ = true := by simp [known]
  have second : (troubledController.attempt ⟨"default", "one"⟩).known.contains
      ⟨"default", "two"⟩ = true := by simp [known]
  have third : ((troubledController.attempt ⟨"default", "one"⟩).attempt
      ⟨"default", "two"⟩).known.contains ⟨"default", "three"⟩ = true := by simp [known]
  have run : Workload.Steps {} { registry := troubledAfter.stage.registry, ended := _ } :=
    ((steps_attempt first []).trans (steps_attempt second _)).trans (steps_attempt third _)
  obtain ⟨-, -, hcalls, -, -, hrequeues, -⟩ := books_balance run rfl .ingress
  dsimp only at hcalls hrequeues
  have hkind : troubledController.kind = .ingress := rfl
  simp only [List.countP_cons, List.countP_nil, kind_attempt, hkind] at hcalls
  have never := hrequeues "PiholeBadRequest"
  have again := hrequeues "PiholeTimeout"
  rw [if_pos (by decide)] at never
  rw [if_neg (by decide)] at again
  exact ⟨⟨_, run⟩, hcalls, counted.1, never, counted.2, again.trans counted.2⟩

end ClusterDns.Controller
