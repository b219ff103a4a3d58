import ClusterDns.Proofs.Rehearsal.Site

/-! Reconciles of different objects at the same time. Whoever sends the next request, every object's
reconcile finds its object and the records of its hosts as it left them, and ends as if it had been
alone. So the order of the requests does not matter. -/

namespace ClusterDns.Reconcile

open Cluster (Kind Manifest.seen Manifest.unversioned)
open PiHole (Record IsTidy)
open Rehearsal
open Text (IsWord)

/-! ## One among others -/

/-- What a reconcile has achieved at its end, given the site at its beginning. -/
structure Achieved (kind : Kind) (origin : Json) (defaultTarget : String) (start : Site)
    (result : Except Error Unit) (site : Site) : Prop where
  ok : result = .ok ()
  stored : (site.estate.find? (subjectOf kind origin)).map Manifest.unversioned =
    (plan kind defaultTarget origin).objectAfter kind origin
  records : ∀ host ∈ ownHosts kind origin, recordsOf host site.records =
    (plan kind defaultTarget origin).recordsAfter kind origin host (recordsOf host start.records)

section

variable {kind : Kind} {origin : Json} {defaultTarget : String} {start site next : Site}

theorem Achieved.undisturbed {result : Except Error Unit}
    (h : Achieved kind origin defaultTarget start result site)
    (hd : Undisturbed kind origin site next) :
    Achieved kind origin defaultTarget start result next where
  ok := h.ok
  stored := (congrArg _ hd.stored).trans h.stored
  records host hh := (hd.records host hh).trans (h.records host hh)

theorem target_of_plan {target : String} (h : plan kind defaultTarget origin = .serve target) :
    Annotations.target? (Manifest.seen kind origin).annotations defaultTarget = some target := by
  rw [plan] at h
  split at h
  · split at h <;> cases h
  · split at h
    · cases h
    · split at h
      · cases h
      · rename_i found htarget
        cases h
        exact htarget

/-- An address that is written into a record is one in dotted form. -/
theorem word_of_plan (literal : Net.Ipv4.isLiteral defaultTarget = true) {target : String}
    (h : plan kind defaultTarget origin = .serve target) : IsWord target :=
  isWord_of_target? literal (target_of_plan h)

theorem empty_not_mem_ownHosts (kind : Kind) (manifest : Json) : "" ∉ ownHosts kind manifest := by
  intro h
  rcases mem_ownHosts.mp h with h | h
  · exact empty_not_mem_desired _ h
  · rw [writtenDown] at h
    cases htext : Cluster.Manifest.annotation? manifest Key.managedHosts with
    | none => simp [htext] at h
    | some text =>
      rw [htext] at h
      exact Text.CommaList.empty_not_mem_parse text h

/-- Each question of a reconcile is answered at one moment, so it ends as it would by itself. -/
theorem secures_requests (filed : Filed kind origin)
    (stored : start.estate.find? (subjectOf kind origin) = some origin)
    (words : ∀ host ∈ ownHosts kind origin, IsWord host)
    (literal : Net.Ipv4.isLiteral defaultTarget = true) :
    (amidOthers kind origin).Secures
      ((reconcile (subjectOf kind origin) defaultTarget).run.substitute errands)
      (Achieved kind origin defaultTarget start) start := by
  have hplace : Place kind origin (some origin) (fun host => recordsOf host start.records)
      (start.estate.world kind, []) := ⟨stored, fun _ _ => rfl⟩
  refine Contract.Secures.mono (Contract.Secures.substitute (R := Shows kind)
    (s := (start.estate.world kind, [])) (fun q site s shows sound => ?_) rfl
    (secures_fulfilled filed.kindred hplace)) ?_
  · exact secures_errands words (fun _ => word_of_plan literal) shows
      fun u hu single => sound_of_call (sound u hu single)
  · rintro result site ⟨v, shows, rfl, last, hlast, hform⟩
    have hworld : v.1 = site.estate.world kind := shows
    have hstored := hlast.stored
    have hrecords := hlast.records
    rw [hworld] at hstored hrecords
    exact ⟨rfl, (congrArg _ hstored).trans hform, hrecords⟩

end

/-! ## Many at once -/

/-- A site, and for each of some reconciles what it has still to do. -/
structure Crowd (ι : Type) where
  site : Site
  tasks : ι → Program Errands (Except Error Unit)

namespace Crowd

variable {ι : Type} [DecidableEq ι]

/-- One of them has its next request answered, if it has one. -/
def step (kind : ι → Kind) (crowd : Crowd ι) (i : ι) : Crowd ι :=
  match crowd.tasks i with
  | .done _ => crowd
  | .ask errand next =>
    let (reply, site) := Site.answer (kind i) errand crowd.site
    ⟨site, Function.update crowd.tasks i (next reply)⟩

/-- Requests in the order of a schedule, which tells whose turn it is. -/
def follow (kind : ι → Kind) (schedule : List ι) (crowd : Crowd ι) : Crowd ι :=
  schedule.foldl (step kind) crowd

/-- One of them has all its requests answered. -/
def finish (kind : ι → Kind) (crowd : Crowd ι) (i : ι) : Crowd ι :=
  let (result, site) := (crowd.tasks i).run (Site.answer (kind i)) crowd.site
  ⟨site, Function.update crowd.tasks i (.done result)⟩

/-- One after another. -/
def inTurn (kind : ι → Kind) (order : List ι) (crowd : Crowd ι) : Crowd ι :=
  order.foldl (finish kind) crowd

def IsDone (crowd : Crowd ι) (i : ι) : Prop := ∃ result, crowd.tasks i = .done result

instance (crowd : Crowd ι) (i : ι) : Decidable (crowd.IsDone i) :=
  match h : crowd.tasks i with
  | .done result => .isTrue ⟨result, h⟩
  | .ask .. => .isFalse fun ⟨_, hr⟩ => nomatch h.symm.trans hr

variable {kind : ι → Kind} {crowd : Crowd ι} {i : ι}

theorem follow_append (before later : List ι) (crowd : Crowd ι) :
    crowd.follow kind (before ++ later) = (crowd.follow kind before).follow kind later :=
  List.foldl_append

theorem step_of_done {result : Except Error Unit} (h : crowd.tasks i = .done result) :
    crowd.step kind i = crowd := by
  rw [step, h]

theorem step_of_ask {errand : Errand}
    {next : errand.Answer → Program Errands (Except Error Unit)}
    (h : crowd.tasks i = .ask (I := Errands) errand next) : crowd.step kind i =
      ⟨(Site.answer (kind i) errand crowd.site).2,
        Function.update crowd.tasks i (next (Site.answer (kind i) errand crowd.site).1)⟩ := by
  rw [step, h]

/-- One of them alone is one whose turn it is again and again. -/
theorem exists_finish_eq (crowd : Crowd ι) (i : ι) :
    ∃ n, crowd.finish kind i = crowd.follow kind (List.replicate n i) := by
  generalize htask : crowd.tasks i = task
  induction task generalizing crowd with
  | done result =>
    have hsame : Function.update crowd.tasks i (.done result) = crowd.tasks := by
      rw [← htask, Function.update_eq_self]
    refine ⟨0, ?_⟩
    rw [finish, htask, Program.run_done]
    exact congrArg (Crowd.mk crowd.site) hsame
  | ask errand next ih =>
    have hstep : crowd.step kind i = _ := step_of_ask htask
    have hnext : (crowd.step kind i).tasks i =
        next (Site.answer (kind i) errand crowd.site).1 := by
      rw [hstep]
      exact Function.update_self _ _ _
    obtain ⟨n, hn⟩ := ih _ (crowd.step kind i) hnext
    refine ⟨n + 1, ?_⟩
    rw [List.replicate_succ, follow, List.foldl_cons, ← follow, ← hn, finish, finish, hnext, htask,
      Program.run_ask, hstep]
    simp only [Function.update_idem]

theorem exists_inTurn_eq (order : List ι) (crowd : Crowd ι) :
    ∃ schedule, crowd.inTurn kind order = crowd.follow kind schedule := by
  induction order generalizing crowd with
  | nil => exact ⟨[], rfl⟩
  | cons i rest ih =>
    obtain ⟨n, hn⟩ : ∃ n, crowd.finish kind i = _ := exists_finish_eq crowd i
    obtain ⟨schedule, hs⟩ := ih (crowd.finish kind i)
    refine ⟨List.replicate n i ++ schedule, ?_⟩
    rw [follow_append, ← hn, ← hs]
    rfl

theorem IsDone.finish {j : ι} (h : crowd.IsDone j) (i : ι) : (crowd.finish kind i).IsDone j := by
  by_cases he : j = i
  · exact ⟨_, by rw [he]; exact Function.update_self _ _ _⟩
  · obtain ⟨result, hr⟩ := h
    exact ⟨result, (Function.update_of_ne he _ _).trans hr⟩

theorem IsDone.inTurn {j : ι} (h : crowd.IsDone j) (order : List ι) :
    (crowd.inTurn kind order).IsDone j := by
  induction order generalizing crowd with
  | nil => exact h
  | cons i rest ih => exact ih (h.finish i)

theorem isDone_inTurn {order : List ι} {j : ι} (hj : j ∈ order) (crowd : Crowd ι) :
    (crowd.inTurn kind order).IsDone j := by
  induction order generalizing crowd with
  | nil => cases hj
  | cons i rest ih =>
    rcases List.mem_cons.mp hj with rfl | hj
    · exact IsDone.inTurn ⟨_, Function.update_self _ _ _⟩ rest
    · exact ih hj _

end Crowd

/-! ## Different objects -/

/-- Different objects with no host in common. -/
structure Independent {ι : Type} (kind : ι → Kind) (manifest : ι → Json) : Prop where
  distinct : Function.Injective fun i => subjectOf (kind i) (manifest i)
  disjoint : ∀ i j, i ≠ j → ∀ host ∈ ownHosts (kind i) (manifest i),
    host ∉ ownHosts (kind j) (manifest j)

/-- The requests of a reconcile. -/
def requests (subject : Subject) (defaultTarget : String) :
    Program Errands (Except Error Unit) :=
  (reconcile subject defaultTarget).run.substitute errands

/-- A reconcile of each object is about to begin. -/
def assembled {ι : Type} (kind : ι → Kind) (manifest : ι → Json) (defaultTarget : String)
    (site : Site) : Crowd ι :=
  ⟨site, fun i => requests (subjectOf (kind i) (manifest i)) defaultTarget⟩

/-- What holds while the reconciles are under way: each one will have achieved at its end what it
would achieve alone, and what is nobody's is as it was. -/
structure Concord {ι : Type} (kind : ι → Kind) (manifest : ι → Json) (defaultTarget : String)
    (start : Site) (crowd : Crowd ι) : Prop where
  tidy : IsTidy crowd.site.piHole.hosts
  secured : ∀ i, (amidOthers (kind i) (manifest i)).Secures (crowd.tasks i)
    (Achieved (kind i) (manifest i) defaultTarget start) crowd.site
  objects : ∀ subject, (∀ i, subject ≠ subjectOf (kind i) (manifest i)) →
    crowd.site.estate.find? subject = start.estate.find? subject
  records : ∀ host, (∀ i, host ∉ ownHosts (kind i) (manifest i)) →
    recordsOf host crowd.site.records = recordsOf host start.records

section

variable {ι : Type} {kind : ι → Kind} {manifest : ι → Json}
  {defaultTarget : String} {start : Site} {crowd other : Crowd ι}

theorem undisturbed_of_beside (independent : Independent kind manifest) {i j : ι} {site next : Site}
    (h : Beside (kind i) (manifest i) site next) (hne : j ≠ i) :
    Undisturbed (kind j) (manifest j) site next :=
  ⟨h.objects _ fun he => hne (independent.distinct he),
    fun host hh => h.records host (independent.disjoint j i hne host hh)⟩

theorem concord_assembled (filed : ∀ i, Filed (kind i) (manifest i))
    (stored : ∀ i, start.estate.find? (subjectOf (kind i) (manifest i)) = some (manifest i))
    (words : ∀ i, ∀ host ∈ ownHosts (kind i) (manifest i), IsWord host)
    (tidy : IsTidy start.piHole.hosts) (literal : Net.Ipv4.isLiteral defaultTarget = true) :
    Concord kind manifest defaultTarget start (assembled kind manifest defaultTarget start) where
  tidy := tidy
  secured i := secures_requests (filed i) (stored i) (words i) literal
  objects _ _ := rfl
  records _ _ := rfl

theorem Concord.achieved (h : Concord kind manifest defaultTarget start crowd) {i : ι}
    (done : crowd.IsDone i) : ∃ result, crowd.tasks i = .done result ∧
      Achieved (kind i) (manifest i) defaultTarget start result crowd.site := by
  obtain ⟨result, hr⟩ := done
  have hi := h.secured i
  rw [hr] at hi
  exact ⟨result, hr, hi⟩

/-- At the end there is nothing left that could depend on the order. -/
theorem Concord.agree (h : Concord kind manifest defaultTarget start crowd)
    (h' : Concord kind manifest defaultTarget start other) (done : ∀ i, crowd.IsDone i)
    (done' : ∀ i, other.IsDone i) :
    (∀ host, recordsOf host crowd.site.records = recordsOf host other.site.records) ∧
    ∀ subject, (crowd.site.estate.find? subject).map Manifest.unversioned =
      (other.site.estate.find? subject).map Manifest.unversioned := by
  constructor
  · intro host
    by_cases hown : ∃ i, host ∈ ownHosts (kind i) (manifest i)
    · obtain ⟨i, hi⟩ := hown
      obtain ⟨_, -, hach⟩ := h.achieved (done i)
      obtain ⟨_, -, hach'⟩ := h'.achieved (done' i)
      rw [hach.records host hi, hach'.records host hi]
    · have hnone := not_exists.mp hown
      rw [h.records host hnone, h'.records host hnone]
  · intro subject
    by_cases hown : ∃ i, subject = subjectOf (kind i) (manifest i)
    · obtain ⟨i, rfl⟩ := hown
      obtain ⟨_, -, hach⟩ := h.achieved (done i)
      obtain ⟨_, -, hach'⟩ := h'.achieved (done' i)
      rw [hach.stored, hach'.stored]
    · have hnone := not_exists.mp hown
      rw [h.objects subject hnone, h'.objects subject hnone]

variable [DecidableEq ι]

/-- Whose turn it is keeps to its own, so the others do not notice. -/
theorem Concord.step (independent : Independent kind manifest)
    (h : Concord kind manifest defaultTarget start crowd) (i : ι) :
    Concord kind manifest defaultTarget start (crowd.step kind i) := by
  cases htask : crowd.tasks i with
  | done result =>
    rw [Crowd.step_of_done htask]
    exact h
  | ask errand next =>
    rw [Crowd.step_of_ask htask]
    have hi := h.secured i
    rw [htask] at hi
    obtain ⟨hown, hnext⟩ := hi crowd.site (.refl ..) h.tidy
    obtain ⟨htidy, hrest⟩ := hnext (Site.answer (kind i) errand crowd.site).1
      (Site.answer (kind i) errand crowd.site).2 rfl
    have hbeside := IsOwnErrand.beside hown h.tidy
    refine ⟨htidy, fun j => ?_, fun subject hs => ?_, fun host hh => ?_⟩
    · by_cases hj : j = i
      · subst hj
        dsimp only
        rwa [Function.update_self]
      · have hund := undisturbed_of_beside independent hbeside hj
        dsimp only
        rw [Function.update_of_ne hj]
        exact (h.secured j).drifted (fun _ hu => hund.trans hu) fun _ ha => ha.undisturbed hund
    · exact (hbeside.objects subject (hs i)).trans (h.objects subject hs)
    · exact (hbeside.records host (hh i)).trans (h.records host hh)

theorem Concord.follow (independent : Independent kind manifest)
    (h : Concord kind manifest defaultTarget start crowd) (schedule : List ι) :
    Concord kind manifest defaultTarget start (crowd.follow kind schedule) := by
  induction schedule generalizing crowd with
  | nil => exact h
  | cons i rest ih => exact ih (h.step independent i)

/-- Different objects with no host in common are reconciled at the same time, request by request in
any order, over a Pi-hole whose entries are an address, one space and a name, each name once. The
default target is an address in dotted form, as the settings have it. All their reconciles end
without an error, each name has the records it would have had if they had come one after another,
in whatever order, and each object is the same but for its version. -/
theorem interleaved_as_in_turn {schedule order : List ι} (independent : Independent kind manifest)
    (filed : ∀ i, Filed (kind i) (manifest i))
    (stored : ∀ i, start.estate.find? (subjectOf (kind i) (manifest i)) = some (manifest i))
    (solid : ∀ i, ∀ host ∈ ownHosts (kind i) (manifest i),
      ∀ c ∈ host.toList, Text.isBlank c = false)
    (tidy : IsTidy start.piHole.hosts) (literal : Net.Ipv4.isLiteral defaultTarget = true)
    (complete : ∀ i,
      ((assembled kind manifest defaultTarget start).follow kind schedule).IsDone i)
    (all : ∀ i, i ∈ order) :
    let last := (assembled kind manifest defaultTarget start).follow kind schedule
    let inTurn := (assembled kind manifest defaultTarget start).inTurn kind order
    (∀ i, last.tasks i = .done (.ok ()) ∧ inTurn.tasks i = .done (.ok ())) ∧
    (∀ host, recordsOf host last.site.records = recordsOf host inTurn.site.records) ∧
    ∀ subject, (last.site.estate.find? subject).map Manifest.unversioned =
      (inTurn.site.estate.find? subject).map Manifest.unversioned := by
  intro last inTurn
  have words : ∀ i, ∀ host ∈ ownHosts (kind i) (manifest i), IsWord host := by
    intro i host hh
    exact ⟨fun he => empty_not_mem_ownHosts _ _ (he ▸ hh), solid i host hh⟩
  have hstart := concord_assembled filed stored words tidy literal
  have hlast := hstart.follow independent schedule
  have hinTurn : Concord kind manifest defaultTarget start inTurn := by
    obtain ⟨alone, halone⟩ : ∃ alone, inTurn = _ := Crowd.exists_inTurn_eq order _
    rw [halone]
    exact hstart.follow independent alone
  have done : ∀ i, inTurn.IsDone i := fun i => Crowd.isDone_inTurn (all i) _
  refine ⟨fun i => ⟨?_, ?_⟩, hlast.agree hinTurn complete done⟩
  · obtain ⟨result, hr, hach⟩ := hlast.achieved (complete i)
    exact hach.ok ▸ hr
  · obtain ⟨result, hr, hach⟩ := hinTurn.achieved (done i)
    exact hach.ok ▸ hr

end

/-- One route asks for another host than the one written down on it, and another one takes part no
more. -/
def busyManifest : Bool → Json
  | true => ApiServer.stamped "1" (routeManifest [(Key.register, "true"), (Key.hosts, "a.local"),
      (Key.managedHosts, "old.local")] [cleanupFinalizer])
  | false => (ApiServer.stamped "2" (routeManifest [(Key.managedHosts, "b.local")]
      [cleanupFinalizer])).mergePatch (.object [("metadata", .object [("name", .string "api")])])

def busySubject (who : Bool) : Subject := subjectOf .ingress (busyManifest who)

def busySite : Site where
  servers _ := {
    writes := 2
    objects := [((busySubject true).ref, busyManifest true),
      ((busySubject false).ref, busyManifest false)] }
  piHole := { hosts := ["10.0.0.9 old.local", "10.0.0.9 b.local"] }

def busyCrowd : Crowd Bool := assembled (fun _ => .ingress) busyManifest "10.0.0.1" busySite

/-- They take turns, one request each. -/
def turns : List Bool := (List.replicate 16 [true, false]).flatten

theorem stored_busy (i : Bool) :
    busySite.estate.find? (busySubject i) = some (busyManifest i) := by
  have differ : ((busySubject false).ref == (busySubject true).ref) = false := by decide +kernel
  show List.lookup (busySubject i).ref [((busySubject true).ref, busyManifest true),
    ((busySubject false).ref, busyManifest false)] = _
  cases i with
  | true => exact List.lookup_cons_self
  | false =>
    rw [List.lookup_cons, differ]
    exact List.lookup_cons_self

theorem tidy_busy : IsTidy busySite.piHole.hosts := by
  have solid : ∀ r ∈ [(⟨"old.local", "10.0.0.9"⟩ : Record), ⟨"b.local", "10.0.0.9"⟩],
      r.IsSolid := by decide +kernel
  exact PiHole.isTidy_entriesOf solid (onePerName_of_nodup (by decide))

theorem interleaved_as_in_turn_of_busy :
    (busyCrowd.follow (fun _ => .ingress) turns).site.records = [⟨"a.local", "10.0.0.1"⟩] ∧
    (∀ i, (busyCrowd.follow (fun _ => .ingress) turns).tasks i = .done (.ok ()) ∧
      (busyCrowd.inTurn (fun _ => .ingress) [false, true]).tasks i = .done (.ok ())) ∧
    (∀ host, recordsOf host (busyCrowd.follow (fun _ => .ingress) turns).site.records =
      recordsOf host (busyCrowd.inTurn (fun _ => .ingress) [false, true]).site.records) ∧
    ∀ subject, ((busyCrowd.follow (fun _ => .ingress) turns).site.estate.find? subject).map
        Manifest.unversioned =
      ((busyCrowd.inTurn (fun _ => .ingress) [false, true]).site.estate.find? subject).map
        Manifest.unversioned := by
  have distinct : Function.Injective busySubject := by
    intro i j hij
    cases i <;> cases j <;> first | rfl | exact absurd hij (by decide +kernel)
  have disjoint : ∀ i j, i ≠ j → ∀ host ∈ ownHosts .ingress (busyManifest i),
      host ∉ ownHosts .ingress (busyManifest j) := by decide +kernel
  have filed : ∀ i, Filed .ingress (busyManifest i) := by
    intro i
    cases i <;> exact ⟨by decide +kernel, by decide +kernel⟩
  have words : ∀ i, ∀ host ∈ ownHosts .ingress (busyManifest i), IsWord host := by
    decide +kernel
  have complete : ∀ i, (busyCrowd.follow (fun _ => .ingress) turns).IsDone i := by
    decide +kernel
  have records : (busyCrowd.follow (fun _ => .ingress) turns).site.records =
      [⟨"a.local", "10.0.0.1"⟩] := by decide +kernel
  refine ⟨records, ?_⟩
  rw [busyCrowd] at complete ⊢
  exact interleaved_as_in_turn ⟨distinct, disjoint⟩ filed stored_busy
    (fun i host hh => (words i host hh).solid) tidy_busy (by decide +kernel) complete (by decide)

end ClusterDns.Reconcile
