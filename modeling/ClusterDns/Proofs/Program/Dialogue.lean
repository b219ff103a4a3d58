import ClusterDns.Proofs.Program.Contract

/-! Programs and the answers they get, whatever these are. A dialogue is a run of a program as a list
of its questions, each with its answer. A run of one program after another is a run of the first and
then one of the second, so what a dialogue holds is told along the program's text. -/

namespace ClusterDns

/-- A question and the answer to it. -/
abbrev Exchange (I : Interface) := (q : I.Request) × I.Answer q

/-- A run of a program from its beginning to its end. -/
inductive Dialogue {I : Interface} {α : Type} : Program I α → List (Exchange I) → α → Prop
  | done (a : α) : Dialogue (.done a) [] a
  | ask {q : I.Request} {next : I.Answer q → Program I α} {r : I.Answer q}
    {log : List (Exchange I)} {a : α} (rest : Dialogue (next r) log a) :
    Dialogue (.ask q next) (⟨q, r⟩ :: log) a

namespace Dialogue

variable {I : Interface} {σ α β ε ε' : Type} {log : List (Exchange I)}

theorem of_done {a b : α} (h : Dialogue (.done a : Program I α) log b) : log = [] ∧ b = a := by
  cases h
  exact ⟨rfl, rfl⟩

theorem of_ask {q : I.Request} {next : I.Answer q → Program I α} {a : α}
    (h : Dialogue (.ask q next) log a) :
    ∃ r rest, log = ⟨q, r⟩ :: rest ∧ Dialogue (next r) rest a := by
  cases h with
  | ask rest => exact ⟨_, _, rfl, rest⟩

theorem of_bind {p : Program I α} {f : α → Program I β} {b : β}
    (h : Dialogue (p >>= f) log b) :
    ∃ first a rest, log = first ++ rest ∧ Dialogue p first a ∧ Dialogue (f a) rest b := by
  induction p generalizing log with
  | done a => exact ⟨[], a, log, rfl, .done a, h⟩
  | ask q next ih =>
    obtain ⟨r, rest, rfl, hrest⟩ := of_ask h
    obtain ⟨first, a, last, rfl, hfirst, hlast⟩ := ih r hrest
    exact ⟨_ :: first, a, last, rfl, .ask hfirst, hlast⟩

/-- A program that asks questions of one kind only has no others in its dialogues. -/
theorem forall_mem {kind : I.Request → Prop} {p : Program I α} {a : α} (h : Contract.Only kind p)
    (run : Dialogue p log a) : ∀ exchange ∈ log, kind exchange.1 := by
  induction run with
  | done a => simp
  | ask rest ih => simpa using ⟨h.1, ih (h.2 _)⟩

/-! ## Programs that may stop early -/

/-- A run of one attempt after another, unless the first one stops early. -/
theorem of_attempt {x : Attempt I ε α} {f : α → Attempt I ε β} {b : Except ε β}
    (h : Dialogue (x >>= f).run log b) :
    (∃ e, Dialogue x.run log (.error e) ∧ b = .error e) ∨
      ∃ first a rest, log = first ++ rest ∧ Dialogue x.run first (.ok a) ∧
        Dialogue (f a).run rest b := by
  obtain ⟨first, r, rest, rfl, hfirst, hrest⟩ := of_bind h
  cases r with
  | error e =>
    obtain ⟨rfl, rfl⟩ := of_done hrest
    rw [List.append_nil]
    exact .inl ⟨e, hfirst, rfl⟩
  | ok a => exact .inr ⟨first, a, rest, rfl, hfirst, hrest⟩

theorem of_pure {a : α} {b : Except ε α} (h : Dialogue (pure a : Attempt I ε α).run log b) :
    log = [] ∧ b = .ok a := of_done h

theorem of_throw {e : ε} {b : Except ε α} (h : Dialogue (throw e : Attempt I ε α).run log b) :
    log = [] ∧ b = .error e := of_done h

/-- One question whose answer is the value. -/
theorem of_lift {q : I.Request} {b : Except ε (I.Answer q)}
    (h : Dialogue (ExceptT.lift (.ask q .done) : Attempt I ε (I.Answer q)).run log b) :
    ∃ r, log = [⟨q, r⟩] ∧ b = .ok r := by
  obtain ⟨r, rest, rfl, hrest⟩ := of_ask h
  obtain ⟨rfl, rfl⟩ := of_done hrest
  exact ⟨r, rfl, rfl⟩

theorem of_rephrase {x : Attempt I ε α} {f : ε → ε'} {b : Except ε' α}
    (h : Dialogue (Attempt.rephrase f x).run log b) :
    ∃ r, Dialogue x.run log r ∧ b = r.mapError f := by
  obtain ⟨first, r, rest, rfl, hfirst, hrest⟩ := of_bind h
  obtain ⟨rfl, rfl⟩ := of_done hrest
  rw [List.append_nil]
  exact ⟨r, hfirst, rfl⟩

/-! ## Surroundings -/

/-- The dialogue of a program with surroundings that answer at once. -/
def transcript (answer : Program.Surroundings I σ) : Program I α → σ → List (Exchange I)
  | .done _, _ => []
  | .ask q next, s =>
    ⟨q, (answer q s).1⟩ :: transcript answer (next (answer q s).1) (answer q s).2

theorem dialogue_transcript (answer : Program.Surroundings I σ) (p : Program I α) (s : σ) :
    Dialogue p (transcript answer p s) (p.run answer s).1 := by
  induction p generalizing s with
  | done a => exact .done a
  | ask q next ih => exact .ask (ih _ _)

/-- Every answer is one the surroundings give. -/
theorem exists_answer_of_mem_transcript {answer : Program.Surroundings I σ} {p : Program I α}
    {s : σ} {exchange : Exchange I} (h : exchange ∈ transcript answer p s) :
    ∃ t, exchange.2 = (answer exchange.1 t).1 := by
  induction p generalizing s with
  | done a => cases h
  | ask q next ih =>
    rcases List.mem_cons.mp h with rfl | hrest
    · exact ⟨s, rfl⟩
    · exact ih _ hrest

end Dialogue

end ClusterDns
