import ClusterDns.Program

/-! What can be relied on and what has to be kept while a program runs. The surroundings may answer
a question in several ways and may change by themselves before each one. A program is secure if,
whatever they do, every question is allowed when it is asked and the invariant holds after every
answer. Security of a sequence is security of its parts, so it is proved along the program's
text. -/

namespace ClusterDns

structure Contract (I : Interface) (σ : Type) where
  /-- Changes that may come before a question. -/
  drift : σ → σ → Prop
  /-- The answers a question may have, and the state after each. -/
  answers : (q : I.Request) → σ → I.Answer q → σ → Prop
  /-- What has to hold of a question at the moment it is asked. -/
  allowed : I.Request → σ → Prop
  invariant : σ → Prop

namespace Contract

variable {I : Interface} {σ α β ε ε' : Type} {c : Contract I σ}

/-- The condition at the end may speak of the value the program ends with. -/
def Secures (c : Contract I σ) : Program I α → (α → σ → Prop) → σ → Prop
  | .done a, post, s => post a s
  | .ask q next, post, s => ∀ t, c.drift s t → c.invariant t → c.allowed q t ∧
      ∀ r u, c.answers q t r u → c.invariant u ∧ Secures c (next r) post u

theorem Secures.mono {p : Program I α} {post post' : α → σ → Prop} {s : σ}
    (h : c.Secures p post s) (hp : ∀ a t, post a t → post' a t) : c.Secures p post' s := by
  induction p generalizing s with
  | done a => exact hp a s h
  | ask q next ih =>
    intro t hd hi
    obtain ⟨ha, hn⟩ := h t hd hi
    exact ⟨ha, fun r u hr => ⟨(hn r u hr).1, ih r (hn r u hr).2⟩⟩

theorem Secures.bind {p : Program I α} {f : α → Program I β} {post : β → σ → Prop} {s : σ}
    (h : c.Secures p (fun a t => c.Secures (f a) post t) s) : c.Secures (p >>= f) post s := by
  induction p generalizing s with
  | done a => exact h
  | ask q next ih =>
    intro t hd hi
    obtain ⟨ha, hn⟩ := h t hd hi
    exact ⟨ha, fun r u hr => ⟨(hn r u hr).1, ih r (hn r u hr).2⟩⟩

/-- Where the invariant holds at the beginning it holds at the end. -/
theorem Secures.upheld {p : Program I α} {post : α → σ → Prop} {s : σ} (h : c.Secures p post s)
    (hi : c.invariant s) :
    c.Secures p (fun a t => post a t ∧ c.invariant t) s := by
  induction p generalizing s with
  | done a => exact ⟨h, hi⟩
  | ask q next ih =>
    intro t hd ht
    obtain ⟨ha, hn⟩ := h t hd ht
    exact ⟨ha, fun r u hr => ⟨(hn r u hr).1, ih r (hn r u hr).2 (hn r u hr).1⟩⟩

/-- What is secure where much may come in between is secure where less may. -/
theorem Secures.calmer {p : Program I α} {post : α → σ → Prop} {s : σ} {drift : σ → σ → Prop}
    (hd : ∀ s t, drift s t → c.drift s t) (h : c.Secures p post s) :
    { c with drift }.Secures p post s := by
  induction p generalizing s with
  | done a => exact h
  | ask q next ih =>
    intro t ht hi
    obtain ⟨ha, hn⟩ := h t (hd s t ht) hi
    exact ⟨ha, fun r u hr => ⟨(hn r u hr).1, ih r (hn r u hr).2⟩⟩

/-- Changes before a program begins can be told from changes before its first question only by a
program that asks none. -/
theorem Secures.drifted {p : Program I α} {post : α → σ → Prop} {s t : σ} (h : c.Secures p post s)
    (htrans : ∀ u, c.drift t u → c.drift s u) (hpost : ∀ a, post a s → post a t) :
    c.Secures p post t := by
  cases p with
  | done a => exact hpost a h
  | ask q next => exact fun u hu => h u (htrans u hu)

/-- Programs in place of questions. Each of them makes the answer its question has at one moment,
and before that moment there is nothing but what may come before a question. -/
theorem Secures.substitute {J : Interface} {τ : Type} {d : Contract J τ}
    {f : (q : I.Request) → Program J (I.Answer q)} {R : τ → σ → Prop}
    (hf : ∀ q t s, R t s → (∀ u, c.drift s u → c.invariant u → c.allowed q u) →
      d.Secures (f q) (fun r t' => ∃ u v, c.drift s u ∧ c.invariant u ∧ c.answers q u r v ∧
        R t' v) t)
    {p : Program I α} {post : α → σ → Prop} {t : τ} {s : σ} (hr : R t s)
    (h : c.Secures p post s) :
    d.Secures (p.substitute f) (fun a t' => ∃ v, R t' v ∧ post a v) t := by
  induction p generalizing t s with
  | done a => exact ⟨s, hr, h⟩
  | ask q next ih =>
    refine Secures.bind (Secures.mono (hf q t s hr fun u hu hi => (h u hu hi).1) ?_)
    rintro r t' ⟨u, v, hu, hi, ha, hv⟩
    exact ih r hv ((h u hu hi).2 r v ha).2

/-! ## Runs -/

/-- A run of a program, with the value and the state it ends with. -/
inductive Ends (c : Contract I σ) : Program I α → σ → α → σ → Prop
  | done (a : α) (s : σ) : Ends c (.done a) s a s
  | ask {q : I.Request} {next : I.Answer q → Program I α} {s t u v : σ} {r : I.Answer q} {a : α}
    (drifts : c.drift s t) (answers : c.answers q t r u) (rest : Ends c (next r) u a v) :
    Ends c (.ask q next) s a v

theorem Secures.ends {p : Program I α} {post : α → σ → Prop} {s t : σ} {a : α}
    (h : c.Secures p post s) (always : ∀ u, c.invariant u) (run : c.Ends p s a t) : post a t := by
  induction run with
  | done a s => exact h
  | ask hd ha _ ih => exact ih (((h _ hd (always _)).2 _ _ ha).2)

/-- Where nothing has to come in between and every question has an answer, there is a run. -/
theorem ends_run {answer : Program.Surroundings I σ} (hd : ∀ s, c.drift s s)
    (ha : ∀ q s, c.answers q s (answer q s).1 (answer q s).2) (p : Program I α) (s : σ) :
    c.Ends p s (p.run answer s).1 (p.run answer s).2 := by
  induction p generalizing s with
  | done a => exact .done a s
  | ask q next ih => exact .ask (hd s) (ha q s) (ih _ _)

/-- Every question that may come up is of one kind, whatever the answers. -/
def Only (kind : I.Request → Prop) : Program I α → Prop
  | .done _ => True
  | .ask q next => kind q ∧ ∀ r, Only kind (next r)

theorem only_of_forall {kind : I.Request → Prop} (h : ∀ q, kind q) (p : Program I α) :
    Only kind p := by
  induction p with
  | done a => trivial
  | ask q next ih => exact ⟨h q, ih⟩

theorem Only.bind {kind : I.Request → Prop} {p : Program I α} {f : α → Program I β}
    (hp : Only kind p) (hf : ∀ a, Only kind (f a)) : Only kind (p >>= f) := by
  induction p with
  | done a => exact hf a
  | ask q next ih => exact ⟨hp.1, fun r => ih r (hp.2 r)⟩

theorem Only.substitute {J : Interface} {kind : J.Request → Prop}
    {f : (q : I.Request) → Program J (I.Answer q)} (hf : ∀ q, Only kind (f q))
    (p : Program I α) : Only kind (p.substitute f) := by
  induction p with
  | done a => trivial
  | ask q next ih => exact (hf q).bind ih

/-- Programs in place of questions, each of which does what surroundings with a state of their own do
at once. The whole then does what it would do in those surroundings. -/
theorem secures_simulated {J : Interface} {τ : Type} {d : Contract J τ}
    {answer : Program.Surroundings I σ} {kind : I.Request → Prop}
    {f : (q : I.Request) → Program J (I.Answer q)} {R : τ → σ → Prop}
    (hf : ∀ q t s, kind q → R t s →
      d.Secures (f q) (fun r t' => r = (answer q s).1 ∧ R t' (answer q s).2) t)
    {p : Program I α} (hp : Only kind p) {t : τ} {s : σ} (hr : R t s) :
    d.Secures (p.substitute f) (fun a t' => a = (p.run answer s).1 ∧ R t' (p.run answer s).2) t := by
  induction p generalizing t s with
  | done a => exact ⟨rfl, hr⟩
  | ask q next ih =>
    refine Secures.bind (Secures.mono (hf q t s hp.1 hr) ?_)
    rintro r t' ⟨rfl, hr'⟩
    exact ih _ (hp.2 _) hr'

/-! ## Programs that may stop early -/

/-- Nothing is asked of the end of a program that stops early. -/
def Tries (c : Contract I σ) (x : Attempt I ε α) (post : α → σ → Prop) (s : σ) : Prop :=
  c.Secures x.run (fun r t => ∀ a, r = .ok a → post a t) s

theorem tries_pure {a : α} {post : α → σ → Prop} {s : σ} (h : post a s) :
    c.Tries (pure a : Attempt I ε α) post s := by
  intro b hb
  cases hb
  exact h

theorem Tries.mono {x : Attempt I ε α} {post post' : α → σ → Prop} {s : σ}
    (h : c.Tries x post s) (hp : ∀ a t, post a t → post' a t) : c.Tries x post' s :=
  Secures.mono h fun _ _ hr a ha => hp a _ (hr a ha)

theorem Tries.upheld {x : Attempt I ε α} {post : α → σ → Prop} {s : σ} (h : c.Tries x post s)
    (hi : c.invariant s) : c.Tries x (fun a t => post a t ∧ c.invariant t) s :=
  Secures.mono (Secures.upheld h hi) fun _ _ hr a ha => ⟨hr.1 a ha, hr.2⟩

theorem Tries.bind {x : Attempt I ε α} {f : α → Attempt I ε β} {post : β → σ → Prop} {s : σ}
    (h : c.Tries x (fun a t => c.Tries (f a) post t) s) : c.Tries (x >>= f) post s := by
  refine Secures.bind ?_
  refine Secures.mono h ?_
  intro r t hr
  cases r with
  | ok a => exact hr a rfl
  | error e => exact fun a ha => nomatch ha

theorem Tries.rephrase {x : Attempt I ε α} {f : ε → ε'} {post : α → σ → Prop} {s : σ}
    (h : c.Tries x post s) : c.Tries (Attempt.rephrase f x) post s := by
  refine Secures.bind ?_
  refine Secures.mono h ?_
  intro r t hr a ha
  cases r with
  | ok b => exact hr a (congrArg Except.ok (Except.ok.inj ha))
  | error e =>
    have hf : Except.error (f e) = Except.ok a := ha
    cases hf

theorem Only.attempt {kind : I.Request → Prop} {x : Attempt I ε α} {f : α → Attempt I ε β}
    (hx : Only kind x.run) (hf : ∀ a, Only kind (f a).run) : Only kind (x >>= f).run := by
  refine Only.bind hx fun r => ?_
  cases r with
  | ok a => exact hf a
  | error e => trivial

theorem Only.rephrase {kind : I.Request → Prop} {x : Attempt I ε α} (hx : Only kind x.run)
    (f : ε → ε') : Only kind (Attempt.rephrase f x).run :=
  Only.bind hx fun _ => trivial

/-- One question, of whose answer a result is made. -/
theorem tries_ask {q : I.Request} {g : I.Answer q → Except ε α} {post : α → σ → Prop} {s : σ}
    (h : ∀ t, c.drift s t → c.invariant t → c.allowed q t ∧ ∀ r u, c.answers q t r u →
      c.invariant u ∧ ∀ a, g r = .ok a → post a u) :
    c.Tries (ExceptT.mk (.ask q fun r => .done (g r)) : Attempt I ε α) post s := h

/-! ## Programs that do not stop early -/

/-- The program ends, and with a value. -/
def Delivers (c : Contract I σ) (x : Attempt I ε α) (post : α → σ → Prop) (s : σ) : Prop :=
  c.Secures x.run (fun r t => ∃ a, r = .ok a ∧ post a t) s

theorem delivers_pure {a : α} {post : α → σ → Prop} {s : σ} (h : post a s) :
    c.Delivers (pure a : Attempt I ε α) post s := ⟨a, rfl, h⟩

/-- One program after another, which may rely on how the first one has ended. -/
theorem Delivers.secures {x : Attempt I ε α} {f : α → Attempt I ε β} {mid : α → σ → Prop}
    {post : Except ε β → σ → Prop} {s : σ} (h : c.Delivers x mid s)
    (hf : ∀ a t, mid a t → c.Secures (f a).run post t) : c.Secures (x >>= f).run post s := by
  refine Secures.bind ?_
  refine Secures.mono h ?_
  rintro r t ⟨a, rfl, ha⟩
  exact hf a t ha

theorem Delivers.bind {x : Attempt I ε α} {f : α → Attempt I ε β} {mid : α → σ → Prop}
    {post : β → σ → Prop} {s : σ} (h : c.Delivers x mid s)
    (hf : ∀ a t, mid a t → c.Delivers (f a) post t) : c.Delivers (x >>= f) post s :=
  h.secures hf

theorem Delivers.rephrase {x : Attempt I ε α} {f : ε → ε'} {post : α → σ → Prop} {s : σ}
    (h : c.Delivers x post s) : c.Delivers (Attempt.rephrase f x) post s := by
  refine Secures.bind ?_
  refine Secures.mono h ?_
  rintro r t ⟨a, rfl, ha⟩
  exact ⟨a, rfl, ha⟩

end Contract

end ClusterDns
