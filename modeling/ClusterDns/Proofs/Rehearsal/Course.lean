import ClusterDns.Proofs.Program.Contract
import ClusterDns.Rehearsal.Scene
import Mathlib.Logic.Relation

/-! Runs of reconciles as programs under a contract. What every reconcile that may start secures,
and what changes by others keep, holds in every scene of every run. -/

namespace ClusterDns.Rehearsal

open Reconcile (Request Subject Surroundings)
open Cluster (Kind)

/-- A world and the events that led to it, the last one first. -/
abbrev Moment := World × List Occurrence

namespace Rules

/-- One change by others while a reconcile is under way. -/
def Intrusion (rules : Rules) (s t : Moment) : Prop :=
  rules.anytime ∧ rules.edit s.1 t.1 ∧ t.2 = .edited :: s.2

/-- The changes by others between two calls. -/
abbrev Drift (rules : Rules) : Moment → Moment → Prop := Relation.ReflTransGen rules.Intrusion

theorem Drift.eq {rules : Rules} (never : ¬ rules.anytime) {s t : Moment} (h : rules.Drift s t) :
    t = s := by
  induction h with
  | refl => rfl
  | tail _ hi _ => exact absurd hi.1 never

/-- What no change by others undoes. -/
def Lasting (rules : Rules) (P : Moment → Prop) : Prop :=
  ∀ s t, rules.Intrusion s t → P s → P t

theorem Lasting.drift {rules : Rules} {P : Moment → Prop} (h : rules.Lasting P) {s t : Moment}
    (hd : rules.Drift s t) (hs : P s) : P t := by
  induction hd with
  | refl => exact hs
  | tail _ hi ih => exact h _ _ hi ih

theorem Lasting.and {rules : Rules} {P Q : Moment → Prop} (hp : rules.Lasting P)
    (hq : rules.Lasting Q) : rules.Lasting fun s => P s ∧ Q s :=
  fun s t hi h => ⟨hp s t hi h.1, hq s t hi h.2⟩

def contract (rules : Rules) (kind : Kind) (allowed : Request → Moment → Prop)
    (invariant : Moment → Prop) : Contract Surroundings Moment where
  drift := rules.Drift
  answers q s r t := ∃ fate, s.1.Answers kind q fate r t.1 ∧
    t.2 = Occurrence.ofQuestion q fate r ++ s.2
  allowed q s := Occurrence.IsCall q → allowed q s
  invariant := invariant

variable {rules : Rules} {allowed : Request → Moment → Prop} {invariant : Moment → Prop}

/-- The invariant, and what is secured for the rest of the reconcile under way. -/
def Upholds (rules : Rules) (allowed : Request → Moment → Prop) (invariant : Moment → Prop)
    (post : Except Reconcile.Error Unit → Moment → Prop) (scene : Scene)
    (events : List Occurrence) : Prop :=
  invariant (scene.world, events) ∧
    (rules.contract scene.subject.kind allowed invariant).Secures scene.rest post
      (scene.world, events)

theorem Upholds.step {post : Except Reconcile.Error Unit → Moment → Prop}
    (hedit : ∀ w w' events, invariant (w, events) → rules.edit w w' →
      invariant (w', .edited :: events))
    (hend : ∀ r w w' events, post r (w, events) → rules.edit w w' → post r (w', .edited :: events))
    (hstart : ∀ r w events subject target, invariant (w, events) → post r (w, events) →
      rules.start subject target → rules.Upholds allowed invariant post
        (.beginning w subject target) (.started subject :: events))
    {scene next : Scene} {events observed : List Occurrence}
    (h : rules.Upholds allowed invariant post scene events) (hs : Step rules scene observed next) :
    rules.Upholds allowed invariant post next (observed ++ events) := by
  obtain ⟨hi, hp⟩ := h
  cases hs with
  | started idle hr =>
    obtain ⟨r, hd⟩ := idle
    rw [hd] at hp
    exact hstart r _ _ _ _ hi hp hr
  | asked ha =>
    obtain ⟨-, hn⟩ := hp _ .refl hi
    exact hn _ _ ⟨_, ha, rfl⟩
  | @edited scene w' hwhen he =>
    refine ⟨hedit _ _ _ hi he, ?_⟩
    cases hr : scene.rest with
    | done r =>
      rw [hr] at hp
      exact hend r _ _ _ hp he
    | ask q next =>
      have hany : rules.anytime := hwhen.resolve_right (by rintro ⟨r, hd⟩; simp [hr] at hd)
      rw [hr] at hp
      intro t ht
      exact hp t (.head ⟨hany, he, rfl⟩ ht)

end Rules

namespace Run

variable {rules : Rules} {allowed : Request → Moment → Prop} {invariant : Moment → Prop}
  {first scene : Scene} {past events : List Occurrence}

/-- A property of scenes and the events before them that no step breaks. -/
theorem induct {P : Scene → List Occurrence → Prop} (run : Run rules first events scene)
    (hfirst : P first past)
    (hstep : ∀ s t es observed, P s es → Step rules s observed t → P t (observed ++ es)) :
    P scene (events ++ past) := by
  induction run with
  | none => exact hfirst
  | step _ hs ih =>
    rw [List.append_assoc]
    exact hstep _ _ _ _ ih hs

/-- Reconciles one after another, each of which may rely on how the one before it has ended. -/
theorem relay {post : Except Reconcile.Error Unit → Moment → Prop}
    (run : Run rules first events scene)
    (hfirst : rules.Upholds allowed invariant post first past)
    (hedit : ∀ w w' events, invariant (w, events) → rules.edit w w' →
      invariant (w', .edited :: events))
    (hend : ∀ r w w' events, post r (w, events) → rules.edit w w' → post r (w', .edited :: events))
    (hstart : ∀ r w events subject target, invariant (w, events) → post r (w, events) →
      rules.start subject target → rules.Upholds allowed invariant post
        (.beginning w subject target) (.started subject :: events)) :
    rules.Upholds allowed invariant post scene (events ++ past) :=
  run.induct hfirst fun _ _ _ _ h hs => h.step hedit hend hstart hs

/-- Reconciles one after another. -/
theorem upheld (run : Run rules first events scene) (idle : first.IsIdle)
    (hfirst : invariant (first.world, past))
    (hedit : ∀ w w' events, invariant (w, events) → rules.edit w w' →
      invariant (w', .edited :: events))
    (hstart : ∀ w events subject target, invariant (w, events) → rules.start subject target →
      rules.Upholds allowed invariant (fun _ _ => True) (.beginning w subject target)
        (.started subject :: events)) :
    rules.Upholds allowed invariant (fun _ _ => True) scene (events ++ past) := by
  refine run.relay ⟨hfirst, ?_⟩ hedit (fun _ _ _ _ _ _ => trivial)
    fun _ w es subject target hi _ hr => hstart w es subject target hi hr
  obtain ⟨r, hr⟩ := idle
  rw [hr]
  trivial

/-- One reconcile and nothing else. -/
theorem alone {post : Except Reconcile.Error Unit → Moment → Prop}
    (run : Run .alone first events scene)
    (hfirst : Rules.alone.Upholds allowed invariant post first past) :
    Rules.alone.Upholds allowed invariant post scene (events ++ past) := by
  exact run.relay hfirst (fun _ _ _ _ he => False.elim he) (fun _ _ _ _ _ he => False.elim he)
    (fun _ _ _ _ _ _ _ hr => False.elim hr)

/-- Where more is allowed there are no fewer runs. -/
theorem within {others : Rules} (run : Run rules first events scene)
    (hedit : ∀ w w', rules.edit w w' → others.edit w w') (hany : rules.anytime → others.anytime)
    (hstart : ∀ subject target, rules.start subject target → others.start subject target) :
    Run others first events scene := by
  induction run with
  | none => exact .none
  | step _ hs ih =>
    refine .step ih ?_
    cases hs with
    | edited hwhen he => exact .edited (hwhen.imp_left hany) (hedit _ _ he)
    | started idle hr => exact .started idle (hstart _ _ hr)
    | asked ha => exact .asked ha

theorem trans {last : Scene} (run : Run rules first past scene)
    (more : Run rules scene events last) : Run rules first (events ++ past) last := by
  induction more with
  | none => exact run
  | step _ hs ih =>
    rw [List.append_assoc]
    exact .step ih hs

end Run

/-! ## Runs by a script -/

/-- The fate a script has for a question, and the rest of it. After its end all goes well. -/
def nextFate : Request → List Fate → Fate × List Fate
  | .note _, fates => (.answered, fates)
  | .count _, fates => (.answered, fates)
  | _, [] => (.answered, [])
  | _, fate :: fates => (fate, fates)

/-- An answer that reports a failure. -/
def failed : (q : Request) → q.Answer
  | .fetch _ => .error (.cluster .unanswered)
  | .patch .. => .error (.cluster .unanswered)
  | .dns .list => .error (.timeout "")
  | .dns (.create _) => .error (.timeout "")
  | .dns (.delete _) => .error (.timeout "")
  | .note _ => ()
  | .count _ => ()

def World.meet (kind : Kind) (w : World) (q : Request) : Fate → q.Answer × World
  | .answered => w.answer kind q
  | .refused => (failed q, w)
  | .lost => (failed q, (w.answer kind q).2)

theorem World.answers_meet (kind : Kind) (w : World) (q : Request) (fates : List Fate) :
    w.Answers kind q (nextFate q fates).1 (w.meet kind q (nextFate q fates).1).1
      (w.meet kind q (nextFate q fates).1).2 := by
  have hfail : ∀ fate, fate = .answered ∨ IsFailure q (failed q) →
      w.Answers kind q fate (w.meet kind q fate).1 (w.meet kind q fate).2 := by
    intro fate h
    cases fate with
    | answered => exact .answered
    | refused => exact .refused (h.resolve_left (by simp))
    | lost => exact .lost (h.resolve_left (by simp))
  apply hfail
  cases q with
  | note _ => exact .inl rfl
  | count _ => exact .inl rfl
  | dns change => cases change <;> exact .inr ⟨_, rfl⟩
  | _ => exact .inr ⟨_, rfl⟩

/-- Answers by a script, and keeps the events, the last one first. -/
def scripted (kind : Kind) : Program.Surroundings Surroundings (List Fate × Moment)
  | q, (fates, w, events) =>
    let (fate, fates) := nextFate q fates
    let (r, w) := w.meet kind q fate
    (r, fates, w, Occurrence.ofQuestion q fate r ++ events)

/-- Whatever a script says, it makes a run. -/
theorem Run.of_script (rules : Rules) (subject : Subject)
    (rest : Program Surroundings (Except Reconcile.Error Unit)) (fates : List Fate) (w : World)
    (past : List Occurrence) :
    ∃ events, (rest.run (scripted subject.kind) (fates, w, past)).2.2.2 = events ++ past ∧
      Run rules ⟨w, subject, rest⟩ events
        ⟨(rest.run (scripted subject.kind) (fates, w, past)).2.2.1, subject,
          .done (rest.run (scripted subject.kind) (fates, w, past)).1⟩ := by
  induction rest generalizing fates w past with
  | done r => exact ⟨[], rfl, .none⟩
  | ask q next ih =>
    have asked : Step rules ⟨w, subject, .ask (I := Surroundings) q next⟩ _ _ :=
      .asked (w.answers_meet subject.kind q fates)
    obtain ⟨events, he, run⟩ := ih (w.meet subject.kind q (nextFate q fates).1).1
      (nextFate q fates).2 (w.meet subject.kind q (nextFate q fates).1).2
      (Occurrence.ofQuestion q (nextFate q fates).1
        (w.meet subject.kind q (nextFate q fates).1).1 ++ past)
    refine ⟨_, ?_, (Run.step .none asked).trans run⟩
    rw [List.append_nil, List.append_assoc]
    exact he

/-- A reconcile by a script: how it ends, and the world and the events then. -/
def World.play (w : World) (subject : Subject) (defaultTarget : String) (fates : List Fate) :
    Except Reconcile.Error Unit × Moment :=
  let (r, _, s) := (Reconcile.reconcile subject defaultTarget).run.run (scripted subject.kind)
    (fates, w, [])
  (r, s)

theorem Run.played (rules : Rules) (w : World) (subject : Subject) (defaultTarget : String)
    (fates : List Fate) : Run rules (.beginning w subject defaultTarget)
      (w.play subject defaultTarget fates).2.2 ⟨(w.play subject defaultTarget fates).2.1, subject,
        .done (w.play subject defaultTarget fates).1⟩ := by
  obtain ⟨events, he, run⟩ := Run.of_script rules subject
    (Reconcile.reconcile subject defaultTarget).run fates w []
  rw [List.append_nil] at he
  have hplay : (w.play subject defaultTarget fates).2.2 = events := he
  rw [hplay]
  exact run

/-- The scene some questions later, if each of them is answered, and the events on the way. -/
def Scene.after : Nat → Scene → Scene × List Occurrence
  | 0, scene => (scene, [])
  | n + 1, scene =>
    match scene.rest with
    | .done _ => (scene, [])
    | .ask q next =>
      let (r, world) := scene.world.answer scene.subject.kind q
      let (last, events) := Scene.after n ⟨world, scene.subject, next r⟩
      (last, events ++ Occurrence.ofQuestion q .answered r)

theorem Run.after (rules : Rules) (n : Nat) (scene : Scene) :
    Run rules scene (scene.after n).2 (scene.after n).1 := by
  induction n generalizing scene with
  | zero => exact .none
  | succ n ih =>
    obtain ⟨w, subject, rest⟩ := scene
    cases rest with
    | done r => exact .none
    | ask q next =>
      have asked : Step rules ⟨w, subject, .ask (I := Surroundings) q next⟩
          (Occurrence.ofQuestion q .answered (w.answer subject.kind q).1) _ := .asked .answered
      have first := Run.step .none asked
      rw [List.append_nil] at first
      exact first.trans (ih ⟨(w.answer subject.kind q).2, subject,
        next (w.answer subject.kind q).1⟩)

/-! ## Single calls -/

/-- A call is answered by the world as it is, or ends with a failure, with or without its effect. -/
theorem World.Answers.cases {world w : World} {kind : Kind} {q : Request} {fate : Fate}
    {r : q.Answer} (h : world.Answers kind q fate r w) :
    (fate = .answered ∧ r = (world.answer kind q).1 ∧ w = (world.answer kind q).2) ∨
    (IsFailure q r ∧ (fate = .refused ∧ w = world ∨
      fate = .lost ∧ w = (world.answer kind q).2)) := by
  cases h with
  | answered => exact .inl ⟨rfl, rfl, rfl⟩
  | refused hf => exact .inr ⟨hf, .inl ⟨rfl, rfl⟩⟩
  | lost hf => exact .inr ⟨hf, .inr ⟨rfl, rfl⟩⟩

/-- Whatever becomes of a call, the world is as it was or as after the call. -/
theorem World.Answers.leaves {world w : World} {kind : Kind} {q : Request} {fate : Fate}
    {r : q.Answer} {P : World → Prop} (h : world.Answers kind q fate r w) (before : P world)
    (after : P (world.answer kind q).2) : P w := by
  rcases h.cases with ⟨-, -, rfl⟩ | ⟨-, ⟨-, rfl⟩ | ⟨-, rfl⟩⟩
  · exact after
  · exact before
  · exact after

section

variable {rules : Rules} {kind : Kind} {allowed : Request → Moment → Prop}
  {invariant : Moment → Prop} {α : Type}

/-- One call whose failures stop what it is part of, so that only after an undisturbed call the
rest of the program comes to its turn. -/
theorem tries_call {q : Request} {g : q.Answer → Except Reconcile.Error α}
    (hg : ∀ r, IsFailure q r → ∃ e, g r = .error e) {post : α → Moment → Prop} {s : Moment}
    (h : ∀ t, rules.Drift s t → invariant t → allowed q t ∧
      (∀ fate r w, t.1.Answers kind q fate r w →
        invariant (w, Occurrence.ofQuestion q fate r ++ t.2)) ∧
      ∀ a, g (t.1.answer kind q).1 = .ok a → post a ((t.1.answer kind q).2,
        Occurrence.ofQuestion q .answered (t.1.answer kind q).1 ++ t.2)) :
    (rules.contract kind allowed invariant).Tries
      (ExceptT.mk (.ask (I := Surroundings) q fun r => .done (g r))) post s := by
  refine Contract.tries_ask ?_
  intro t hd hi
  obtain ⟨ha, hinv, hpost⟩ := h t hd hi
  refine ⟨fun _ => ha, ?_⟩
  rintro r ⟨w, events⟩ ⟨fate, hw, he⟩
  dsimp only at hw he
  subst he
  refine ⟨hinv fate r w hw, ?_⟩
  intro a hr
  rcases hw.cases with ⟨rfl, rfl, rfl⟩ | ⟨hf, -⟩
  · exact hpost a hr
  · obtain ⟨e, he⟩ := hg r hf
    rw [he] at hr
    cases hr

/-- Taking note of something changes nothing. -/
theorem tries_note {subject : Subject} {event : Reconcile.Event} {post : Unit → Moment → Prop}
    {s : Moment} (h : ∀ t, rules.Drift s t → post () t) :
    (rules.contract kind allowed invariant).Tries (Reconcile.note subject event) post s := by
  refine Contract.tries_ask ?_
  intro t hd hi
  refine ⟨fun hc => False.elim hc, ?_⟩
  rintro r ⟨w, events⟩ ⟨fate, hw, he⟩
  obtain rfl : events = t.2 := he
  rcases hw.cases with ⟨-, -, rfl⟩ | ⟨hf, -⟩
  · exact ⟨hi, fun _ _ => h t hd⟩
  · exact False.elim hf

theorem tries_count {series : Metrics.Series} {post : Unit → Moment → Prop} {s : Moment}
    (h : ∀ t, rules.Drift s t → post () t) :
    (rules.contract kind allowed invariant).Tries (Reconcile.count series) post s := by
  refine Contract.tries_ask ?_
  intro t hd hi
  refine ⟨fun hc => False.elim hc, ?_⟩
  rintro r ⟨w, events⟩ ⟨fate, hw, he⟩
  obtain rfl : events = t.2 := he
  rcases hw.cases with ⟨-, -, rfl⟩ | ⟨hf, -⟩
  · exact ⟨hi, fun _ _ => h t hd⟩
  · exact False.elim hf

end

end ClusterDns.Rehearsal
