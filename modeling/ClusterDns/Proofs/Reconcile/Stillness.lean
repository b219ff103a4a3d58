import ClusterDns.Proofs.Reconcile.Outcome
import Mathlib.Logic.Function.Iterate

/-! Reconciles come to rest. The first one that is left in peace brings the object to a state in
which it needs no patch. Names with several records may take more: every reconcile removes the first
record of such a name until the one with the target address comes first. From then on nothing is
changed any more. -/

namespace ClusterDns.Program

variable {I : Interface} {α β σ : Type}

/-- The questions a program asks on its way. -/
def asked (answer : Surroundings I σ) : Program I α → σ → List I.Request
  | done _, _ => []
  | ask q next, s => q :: asked answer (next (answer q s).1) (answer q s).2

theorem asked_bind (answer : Surroundings I σ) (p : Program I α) (f : α → Program I β) (s : σ) :
    (p >>= f).asked answer s =
      p.asked answer s ++ (f (p.run answer s).1).asked answer (p.run answer s).2 := by
  induction p generalizing s with
  | done a => rfl
  | ask q next ih => simp only [ask_bind, asked, ih, run_ask, List.cons_append]

end ClusterDns.Program

namespace ClusterDns.Reconcile

open Cluster (Kind Object ObjectRef Manifest.seen Manifest.finalizers Manifest.annotation?
  Manifest.Kindred)
open PiHole (Record Store.list)
open Rehearsal

/-! ## Actions that change nothing -/

/-- A call that changes an object or a record. -/
def IsMutation : Request → Prop
  | .fetch _ => False
  | .patch .. => True
  | .dns q => IsChange q
  | .note _ => False
  | .count _ => False

/-- An action that ends where it began, with no call on its way that changes anything. -/
structure Still {α : Type} (kind : Kind) (x : Action α) (w : World) (a : α) : Prop where
  ends : Ends kind x w a w
  silent : ∀ q ∈ x.run.asked (World.answer kind) w, ¬ IsMutation q

section

variable {α β : Type} {kind : Kind} {w : World}

/-- Where the first action ends with a value, the questions of the second come after its own. -/
theorem Ends.asked_bind {x : Action α} {a : α} {w' : World} (h : Ends kind x w a w')
    (f : α → Action β) : (x >>= f).run.asked (World.answer kind) w =
      x.run.asked (World.answer kind) w ++ (f a).run.asked (World.answer kind) w' := by
  show Program.asked (World.answer kind) (x.run >>= _) w = _
  rw [Program.asked_bind, show x.run.run (World.answer kind) w = (.ok a, w') from h]
  rfl

theorem asked_rephrase (x : Action α) (f : Error → Error) :
    (Attempt.rephrase f x).run.asked (World.answer kind) w = x.run.asked (World.answer kind) w := by
  show Program.asked (World.answer kind) (x.run >>= _) w = _
  rw [Program.asked_bind]
  exact List.append_nil _

theorem still_pure (a : α) (w : World) : Still kind (pure a : Action α) w a :=
  ⟨ends_pure a w, fun _ hq => nomatch hq⟩

theorem Still.bind {x : Action α} {f : α → Action β} {a : α} {b : β} (hx : Still kind x w a)
    (hf : Still kind (f a) w b) : Still kind (x >>= f) w b := by
  refine ⟨hx.ends.bind hf.ends, fun q hq => ?_⟩
  rw [hx.ends.asked_bind, List.mem_append] at hq
  exact hq.elim (hx.silent q) (hf.silent q)

theorem Still.rephrase {x : Action α} {a : α} (h : Still kind x w a) (f : Error → Error) :
    Still kind (Attempt.rephrase f x) w a := by
  refine ⟨h.ends.rephrase f, fun q hq => ?_⟩
  rw [asked_rephrase] at hq
  exact h.silent q hq

/-- An action of one question. -/
theorem still_of_one {x : Action α} {a : α} {q : Surroundings.Request}
    (ends : Ends kind x w a w) (one : x.run.asked (World.answer kind) w = [q])
    (quiet : ¬ IsMutation q) : Still kind x w a := by
  refine ⟨ends, fun other ho => ?_⟩
  rw [one] at ho
  obtain rfl := List.mem_singleton.mp ho
  exact quiet

theorem still_fetch {ref : ObjectRef} {found : Option Object}
    (h : w.fetch kind ref = .ok found) : Still kind (fetch ref) w found :=
  still_of_one (q := .fetch ref) (ends_fetch h) rfl id

theorem still_note (subject : Subject) (event : Event) (w : World) :
    Still kind (note subject event) w () :=
  still_of_one (q := .note _) (ends_note subject event w) rfl id

theorem still_list (w : World) : Still kind (onStore .list Store.list) w w.records :=
  still_of_one (q := .dns .list) (ends_list w) rfl id

/-- Hosts that are bound already are passed over. -/
theorem still_bindHosts (subject : Subject) {target : String} {hosts : List String} {b : Bindings}
    (bound : ∀ host ∈ hosts, b.get? host = some target) (w : World) :
    Still kind (bindHosts subject target hosts b) w () := by
  induction hosts with
  | nil => exact still_pure () w
  | cons host rest ih =>
    obtain ⟨hhost, hrest⟩ := List.forall_mem_cons.mp bound
    rw [bindHosts, if_pos hhost]
    exact ih hrest

theorem still_syncHosts (subject : Subject) {target : String} {hosts : List String}
    (bound : ∀ host ∈ hosts,
      (recordsOf host w.records).head?.map (·.address) = some target) :
    Still kind (syncHosts subject target hosts) w () := by
  refine (still_list w).bind (still_bindHosts subject (fun host hh => ?_) w)
  rw [accounts_ofRecords, bound host hh]

end

/-! ## Objects at rest -/

/-- What is there to do once a plan has been carried out: a release is not done twice. -/
def Plan.again : Plan → Plan
  | nothing => nothing
  | release => nothing
  | hold => hold
  | serve target => serve target

section

variable {kind : Kind} {origin manifest : Json} {defaultTarget target : String} {w : World}

/-- An object that needs no patch: it is held if it should be, and the hosts it is served are
written down. -/
structure AtRest (kind : Kind) (defaultTarget : String) (manifest : Json) : Prop where
  held : cleanupFinalizer ∈ Manifest.finalizers manifest ↔
    (plan kind defaultTarget manifest).IsHolding
  recorded : ∀ target, plan kind defaultTarget manifest = .serve target →
    Manifest.annotation? manifest Key.managedHosts = managedText? (desired kind manifest)

theorem plan_of_left (h : Left kind origin (plan kind defaultTarget origin) manifest) :
    plan kind defaultTarget manifest = (plan kind defaultTarget origin).again := by
  have hdeleted : (Manifest.seen kind manifest).isBeingDeleted =
      (Manifest.seen kind origin).isBeingDeleted := h.kindred.deleted
  have hregistered := isRegistered_kindred h.kindred
  by_cases gone : (Manifest.seen kind origin).isBeingDeleted = true ∨
      Annotations.isRegistered (Manifest.seen kind origin).annotations = false
  · have hnot : cleanupFinalizer ∉ Manifest.finalizers manifest := by
      rw [h.held, plan_of_gone gone]
      split <;> exact id
    rw [← hdeleted, ← hregistered] at gone
    rw [plan_of_gone gone, if_neg hnot]
    rw [hdeleted, hregistered] at gone
    rw [plan_of_gone gone]
    split <;> rfl
  · obtain ⟨stays, registered⟩ := not_or.mp gone
    simp only [plan, hdeleted, hregistered, desired_kindred h.kindred,
      target?_kindred h.kindred defaultTarget, stays, registered]
    by_cases asks : desired kind origin = []
    · simp [asks, Plan.again]
    · cases Annotations.target? (Manifest.seen kind origin).annotations defaultTarget <;>
        simp [asks, Plan.again]

theorem Left.atRest (h : Left kind origin (plan kind defaultTarget origin) manifest) :
    AtRest kind defaultTarget manifest := by
  constructor
  · rw [h.held, plan_of_left h]
    cases plan kind defaultTarget origin <;> rfl
  · intro target hserve
    rw [h.recorded, desired_kindred h.kindred]
    rw [plan_of_left h] at hserve
    cases hplan : plan kind defaultTarget origin with
    | serve _ => rfl
    | _ => simp [hplan, Plan.again] at hserve

theorem still_found (hf : w.server.find? (subjectOf kind manifest).ref = some manifest)
    (itself : Manifest.Kindred kind manifest manifest)
    (h : Still kind (attend (subjectOf kind manifest) defaultTarget
      (Manifest.seen kind manifest)) w ()) :
    Still kind (reconcile (subjectOf kind manifest) defaultTarget) w () :=
  (still_fetch (World.fetch_of_read hf itself.readable)).bind h

/-- Hosts that are written down as they are read leave nothing outdated. -/
theorem outdated_of_recorded
    (plain : ∀ host ∈ desired kind manifest, Text.CommaList.IsPlain host)
    (recorded : Manifest.annotation? manifest Key.managedHosts =
      managedText? (desired kind manifest)) : outdated kind manifest manifest = [] := by
  have hwritten : writtenDown manifest = desired kind manifest := by
    rw [writtenDown, recorded]
    exact parse_managedText? plain (empty_not_mem_desired _)
  rw [outdated, hwritten]
  simp

theorem still_serve (part : TakesPart kind manifest defaultTarget target)
    (hf : w.server.find? (subjectOf kind manifest).ref = some manifest)
    (itself : Manifest.Kindred kind manifest manifest)
    (recorded : Manifest.annotation? manifest Key.managedHosts =
      managedText? (desired kind manifest))
    (bound : ∀ host ∈ desired kind manifest,
      (recordsOf host w.records).head?.map (·.address) = some target) :
    Still kind (serve (subjectOf kind manifest) defaultTarget (Manifest.seen kind manifest))
      w () := by
  have hwrite : Still kind (writeManaged (subjectOf kind manifest) (desired kind manifest))
      w () := by
    refine (still_fetch (World.fetch_of_read hf itself.readable)).bind ?_
    dsimp only
    rw [get?_seen, recorded, if_neg (not_not.mpr rfl)]
    exact still_pure () w
  rw [serve_eq part.asks part.address itself, outdated_of_recorded part.plain recorded]
  refine (still_syncHosts (subjectOf kind manifest) bound).bind ?_
  exact (still_pure () w).bind ((hwrite.rephrase _).bind (still_note _ _ w))

/-- An object at rest, whose hosts have a record with the target first, is passed over. -/
theorem still_reconcile (hf : w.server.find? (subjectOf kind manifest).ref = some manifest)
    (itself : Manifest.Kindred kind manifest manifest)
    (plain : ∀ host ∈ desired kind manifest, Text.CommaList.IsPlain host)
    (rest : AtRest kind defaultTarget manifest)
    (bound : ∀ target, plan kind defaultTarget manifest = .serve target →
      ∀ host ∈ desired kind manifest,
        (recordsOf host w.records).head?.map (·.address) = some target) :
    Still kind (reconcile (subjectOf kind manifest) defaultTarget) w () := by
  refine still_found hf itself ?_
  by_cases gone : (Manifest.seen kind manifest).isBeingDeleted = true ∨
      Annotations.isRegistered (Manifest.seen kind manifest).annotations = false
  · have hnot : cleanupFinalizer ∉ Manifest.finalizers manifest := by
      rw [rest.held, plan_of_gone gone]
      split <;> exact id
    obtain ⟨reason, hattend⟩ := attend_of_gone (subjectOf kind manifest) defaultTarget gone
    rw [hattend, release, if_neg (mt (hasFinalizer_seen kind manifest).mp hnot)]
    exact still_pure () w
  obtain ⟨hdeleted, hregistered⟩ := not_or.mp gone
  have stays := Bool.eq_false_iff.mpr hdeleted
  have registered := Bool.not_eq_false _ ▸ hregistered
  have hensure : cleanupFinalizer ∈ Manifest.finalizers manifest →
      Still kind (ensureFinalizer kind (Manifest.seen kind manifest) cleanupFinalizer) w
        (some (Manifest.seen kind manifest)) := by
    intro hin
    rw [ensureFinalizer, if_pos ((hasFinalizer_seen kind manifest).mpr hin)]
    exact still_pure _ w
  rw [attend_of_stays gone]
  by_cases idle : desired kind manifest = [] ∨
      Annotations.target? (Manifest.seen kind manifest).annotations defaultTarget = none
  · obtain ⟨event, hserve⟩ := serve_of_idle itself idle
    have hidle : Still kind (serve (subjectOf kind manifest) defaultTarget
        (Manifest.seen kind manifest)) w () := hserve ▸ still_note _ event w
    have hin := rest.held.mpr (plan_of_idle stays registered idle ▸ trivial)
    exact (hensure hin).bind hidle
  · obtain ⟨asks, htarget⟩ := not_or.mp idle
    obtain ⟨target, address⟩ := Option.ne_none_iff_exists'.mp htarget
    have hplan := plan_of_asks stays registered asks address
    have part : TakesPart kind manifest defaultTarget target :=
      ⟨stays, registered, asks, plain, address⟩
    have hin := rest.held.mpr (hplan ▸ trivial)
    exact (hensure hin).bind
      (still_serve part hf itself (rest.recorded target hplan) (bound target hplan))

/-! ## Turns a name has to wait -/

/-- The turns until the first record of a name has the target. -/
def awaiting (target : String) (records : List Record) : Nat :=
  if records = [] then 1 else (records.takeWhile (·.address ≠ target)).length

theorem awaiting_le (target : String) (records : List Record) :
    awaiting target records ≤ max 1 records.length := by
  unfold awaiting
  split
  · omega
  · have := (List.takeWhile_prefix (l := records) fun r => decide (r.address ≠ target)).length_le
    omega

theorem awaiting_turned (target domain : String) (records : List Record) :
    awaiting target (turned target domain records) = awaiting target records - 1 := by
  cases records with
  | nil => simp [awaiting, turned]
  | cons r rest =>
    by_cases hr : r.address = target
    · simp [awaiting, turned, hr]
    · have hlast : ((rest ++ [(⟨domain, target⟩ : Record)]).takeWhile
          (·.address ≠ target)).length = (rest.takeWhile (·.address ≠ target)).length := by
        rw [List.takeWhile_append]
        split
        · rename_i hall
          rw [List.length_append, hall]
          simp
        · rfl
      simpa [awaiting, turned, hr] using hlast

theorem head_of_awaiting {records : List Record} (h : awaiting target records = 0) :
    records.head?.map (·.address) = some target := by
  cases records with
  | nil => simp [awaiting] at h
  | cons r rest => simpa [awaiting, List.takeWhile_cons] using h

end

/-! ## Rounds -/

/-- If there is an object, it is stored under its own name, and its hosts can be written down. -/
def Sound (subject : Subject) (w : World) : Prop :=
  ∀ manifest, w.server.find? subject.ref = some manifest →
    Manifest.Kindred subject.kind manifest manifest ∧
      subjectOf subject.kind manifest = subject ∧
      ∀ host ∈ desired subject.kind manifest, Text.CommaList.IsPlain host

/-- No host that is served has to wait for more than some turns. -/
def Within (subject : Subject) (defaultTarget : String) (turns : Nat) (w : World) : Prop :=
  ∀ manifest, w.server.find? subject.ref = some manifest →
    ∀ target, plan subject.kind defaultTarget manifest = .serve target →
      ∀ host ∈ desired subject.kind manifest,
        awaiting target (recordsOf host w.records) ≤ turns

def Resting (subject : Subject) (defaultTarget : String) (w : World) : Prop :=
  ∀ manifest, w.server.find? subject.ref = some manifest →
    AtRest subject.kind defaultTarget manifest

section

variable {subject : Subject} {defaultTarget : String} {w : World} {turns : Nat}

/-- After one more reconcile the object is at rest, and each host has one turn less to wait. -/
theorem exists_round (sound : Sound subject w) : ∃ w',
    Ends subject.kind (reconcile subject defaultTarget) w () w' ∧ Sound subject w' ∧
    Resting subject defaultTarget w' ∧
    ∀ turns, Within subject defaultTarget turns w →
      Within subject defaultTarget (turns - 1) w' := by
  cases hf : w.server.find? subject.ref with
  | none =>
    have absent : ∀ manifest, w.server.find? subject.ref ≠ some manifest := by simp [hf]
    exact ⟨w, ends_absent subject defaultTarget hf, sound,
      fun manifest hm => absurd hm (absent manifest),
      fun _ _ manifest hm => absurd hm (absent manifest)⟩
  | some origin =>
    obtain ⟨itself, hsubject, plain⟩ := sound origin hf
    have hstored : w.server.find? (subjectOf subject.kind origin).ref = some origin := by
      rw [hsubject, hf]
    obtain ⟨w', hends, outcome⟩ := ends_plan defaultTarget hstored itself fun _ _ => plain
    have hleft := outcome.left
    rw [hsubject] at hends hleft
    refine ⟨w', hends, fun last hlast => ?_, fun last hlast => (hleft last hlast).atRest, ?_⟩
    · have hk := (hleft last hlast).kindred
      refine ⟨hk.self, (subjectOf_kindred hk).trans hsubject, ?_⟩
      rw [desired_kindred hk]
      exact plain
    · intro turns within last hlast target hplan host hh
      have left := hleft last hlast
      rw [plan_of_left left] at hplan
      rw [desired_kindred left.kindred] at hh
      have hserve : plan subject.kind defaultTarget origin = .serve target := by
        cases hp : plan subject.kind defaultTarget origin <;> simp [hp, Plan.again] at hplan ⊢
        exact hplan
      have hwait := within origin hf target hserve host hh
      have hrecords := outcome.records
      rw [hserve] at hrecords
      rw [hrecords, Plan.recordsLeft, recordsOf_servedRecords origin hh, awaiting_turned]
      omega

theorem still_of_within (sound : Sound subject w) (resting : Resting subject defaultTarget w)
    (within : Within subject defaultTarget 0 w) :
    Still subject.kind (reconcile subject defaultTarget) w () := by
  cases hf : w.server.find? subject.ref with
  | none =>
    have hfetch : w.fetch subject.kind subject.ref = .ok none := by
      rw [World.fetch, hf]
    exact (still_fetch hfetch).bind (still_note _ _ w)
  | some manifest =>
    obtain ⟨itself, hsubject, plain⟩ := sound manifest hf
    have hstored : w.server.find? (subjectOf subject.kind manifest).ref = some manifest := by
      rw [hsubject, hf]
    have hstill := still_reconcile hstored itself plain (resting manifest hf)
      fun target hplan host hh =>
        head_of_awaiting (Nat.le_zero.mp (within manifest hf target hplan host hh))
    rwa [hsubject] at hstill

/-- The world after one reconcile after another. -/
def afterRounds (subject : Subject) (defaultTarget : String) (start : World) (n : Nat) : World :=
  (reconciled subject defaultTarget)^[n] start

theorem afterRounds_succ {w' : World} {n : Nat}
    (h : Ends subject.kind (reconcile subject defaultTarget)
      (afterRounds subject defaultTarget w n) () w') :
    afterRounds subject defaultTarget w (n + 1) = w' := by
  rw [afterRounds, Function.iterate_succ_apply']
  exact h.reconciled_eq

/-- What has been achieved after some rounds. -/
theorem rounds_invariant (sound : Sound subject w) (within : Within subject defaultTarget turns w)
    (n : Nat) :
    Sound subject (afterRounds subject defaultTarget w n) ∧
      Within subject defaultTarget (turns - n) (afterRounds subject defaultTarget w n) ∧
      (n ≠ 0 → Resting subject defaultTarget (afterRounds subject defaultTarget w n)) := by
  induction n with
  | zero => exact ⟨sound, within, fun h => absurd rfl h⟩
  | succ n ih =>
    obtain ⟨hsound, hwithin, -⟩ := ih
    obtain ⟨w', hends, hsound', hrest, hless⟩ := exists_round hsound
    rw [afterRounds_succ hends]
    exact ⟨hsound', hless _ hwithin, fun _ => hrest⟩

/-- Whatever the state of an object is, and whether it is there or not: if no name has more than `k`
records, then after `k` reconciles with nobody else about, at least one, nothing is changed any more
by any further one. With at most one record for each name the second reconcile changes nothing. -/
theorem silent_after_rounds {start : World} {k : Nat} (enough : 1 ≤ k)
    (few : ∀ domain, (recordsOf domain start.records).length ≤ k)
    (filed : ∀ manifest, start.server.find? subject.ref = some manifest →
      Filed subject.kind manifest ∧ subjectOf subject.kind manifest = subject)
    (plain : ∀ manifest, start.server.find? subject.ref = some manifest →
      ∀ host ∈ (Manifest.seen subject.kind manifest).declaredHosts, Text.CommaList.IsPlain host)
    (defaultTarget : String) (n : Nat) :
    Ends subject.kind (reconcile subject defaultTarget)
      (afterRounds subject defaultTarget start n) ()
      (afterRounds subject defaultTarget start (n + 1)) ∧
    (k ≤ n → ∀ q ∈ (reconcile subject defaultTarget).run.asked (World.answer subject.kind)
      (afterRounds subject defaultTarget start n), ¬ IsMutation q) := by
  have sound : Sound subject start := by
    intro manifest hf
    obtain ⟨hfiled, hsubject⟩ := filed manifest hf
    exact ⟨hfiled.kindred, hsubject, plain_desired fun host hh _ => plain manifest hf host hh⟩
  have within : Within subject defaultTarget k start := by
    intro manifest hf target hplan host hh
    have hle := awaiting_le target (recordsOf host start.records)
    have hfew := few host
    omega
  obtain ⟨hsound, hwithin, hrest⟩ := rounds_invariant sound within n
  obtain ⟨w', hends, -⟩ := exists_round hsound
  rw [afterRounds_succ hends]
  refine ⟨hends, fun hn => ?_⟩
  rw [Nat.sub_eq_zero_of_le hn] at hwithin
  exact (still_of_within hsound (hrest (by omega)) hwithin).silent

end

/-- A host that was bound twice before its object took part. -/
def doubledWorld : World :=
  .holding movingManifest [⟨"a.local", "10.0.0.9"⟩, ⟨"a.local", "10.0.0.8"⟩]

/-- The second reconcile still has to remove a record that hid behind the first. -/
theorem silent_after_rounds_of_doubled :
    (afterRounds ⟨.ingress, movingRoute.ref⟩ "10.0.0.1" doubledWorld 1).records =
      [⟨"a.local", "10.0.0.8"⟩, ⟨"a.local", "10.0.0.1"⟩, ⟨"b.local", "10.0.0.1"⟩] ∧
    (afterRounds ⟨.ingress, movingRoute.ref⟩ "10.0.0.1" doubledWorld 2).records =
      [⟨"a.local", "10.0.0.1"⟩, ⟨"b.local", "10.0.0.1"⟩, ⟨"a.local", "10.0.0.1"⟩] ∧
    ∀ n, Ends .ingress (reconcile ⟨.ingress, movingRoute.ref⟩ "10.0.0.1")
        (afterRounds ⟨.ingress, movingRoute.ref⟩ "10.0.0.1" doubledWorld n) ()
        (afterRounds ⟨.ingress, movingRoute.ref⟩ "10.0.0.1" doubledWorld (n + 1)) ∧
      (2 ≤ n → ∀ q ∈ (reconcile ⟨.ingress, movingRoute.ref⟩ "10.0.0.1").run.asked
        (World.answer .ingress)
        (afterRounds ⟨.ingress, movingRoute.ref⟩ "10.0.0.1" doubledWorld n), ¬ IsMutation q) := by
  have stored : doubledWorld.server.find? movingRoute.ref = some movingManifest := rfl
  have few : ∀ domain, (recordsOf domain doubledWorld.records).length ≤ 2 :=
    fun _ => List.length_filter_le _ _
  have filed : ∀ manifest, doubledWorld.server.find? movingRoute.ref = some manifest →
      Filed .ingress manifest ∧ subjectOf .ingress manifest = ⟨.ingress, movingRoute.ref⟩ := by
    intro manifest hf
    cases stored.symm.trans hf
    exact ⟨⟨by decide +kernel, by decide +kernel⟩, rfl⟩
  have plain : ∀ manifest, doubledWorld.server.find? movingRoute.ref = some manifest →
      ∀ host ∈ (Manifest.seen .ingress manifest).declaredHosts, Text.CommaList.IsPlain host := by
    intro manifest hf host hh
    cases stored.symm.trans hf
    have none : movingRoute.declaredHosts = [] := by decide +kernel
    exact absurd hh (by simp [show (Manifest.seen .ingress movingManifest).declaredHosts = [] from
      none])
  exact ⟨by decide +kernel, by decide +kernel,
    silent_after_rounds (by decide) few filed plain "10.0.0.1"⟩

end ClusterDns.Reconcile
