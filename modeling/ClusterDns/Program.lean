/-! Programs that talk to their surroundings, as trees. A program is done with a value, or it asks
one question and goes on with the answer it is given. Whoever answers decides what a question
means, so one program runs over a real service, over a model of it, with lost answers, or one
question at a time between the questions of other programs. -/

namespace ClusterDns

/-- The questions a program may ask, and the type of the answer each one has. -/
structure Interface where
  Request : Type
  Answer : Request → Type

inductive Program (I : Interface) (α : Type) where
  | done (value : α)
  | ask (request : I.Request) (next : I.Answer request → Program I α)

namespace Program

variable {I J : Interface} {α β γ σ : Type}

def bind : Program I α → (α → Program I β) → Program I β
  | done a, f => f a
  | ask q next, f => ask q fun r => bind (next r) f

instance : Monad (Program I) where
  pure := done
  bind := bind

@[simp] theorem pure_eq (a : α) : (pure a : Program I α) = done a := rfl

@[simp] theorem done_bind (a : α) (f : α → Program I β) : (done a >>= f) = f a := rfl

@[simp] theorem ask_bind (q : I.Request) (next : I.Answer q → Program I α) (f : α → Program I β) :
    (ask q next >>= f) = ask q fun r => next r >>= f := rfl

theorem bind_done (p : Program I α) : p >>= done = p := by
  induction p with
  | done a => rfl
  | ask q next ih => simp only [ask_bind, ih]

theorem bind_assoc (p : Program I α) (f : α → Program I β) (g : β → Program I γ) :
    p >>= f >>= g = p >>= fun a => f a >>= g := by
  induction p with
  | done a => rfl
  | ask q next ih => simp only [ask_bind, ih]

/-- The program that asks one question and returns the answer. -/
def call (q : I.Request) : Program I (I.Answer q) := ask q done

/-- Puts a program of other questions in place of each question. -/
def substitute (f : (q : I.Request) → Program J (I.Answer q)) : Program I α → Program J α
  | done a => done a
  | ask q next => f q >>= fun r => substitute f (next r)

@[simp] theorem substitute_done (f : (q : I.Request) → Program J (I.Answer q)) (a : α) :
    (done a).substitute f = done a := rfl

theorem substitute_bind (f : (q : I.Request) → Program J (I.Answer q)) (p : Program I α)
    (g : α → Program I β) :
    (p >>= g).substitute f = p.substitute f >>= fun a => (g a).substitute f := by
  induction p with
  | done a => rfl
  | ask q next ih => simp only [ask_bind, substitute, ih, bind_assoc]

/-- Surroundings with a state, which answer every question at once. -/
abbrev Surroundings (I : Interface) (σ : Type) := (q : I.Request) → σ → I.Answer q × σ

def run (answer : Surroundings I σ) : Program I α → σ → α × σ
  | done a, s => (a, s)
  | ask q next, s =>
    let (r, s') := answer q s
    run answer (next r) s'

@[simp] theorem run_done (answer : Surroundings I σ) (a : α) (s : σ) :
    (done a).run answer s = (a, s) := rfl

@[simp] theorem run_ask (answer : Surroundings I σ) (q : I.Request)
    (next : I.Answer q → Program I α) (s : σ) :
    (ask q next).run answer s = (next (answer q s).1).run answer (answer q s).2 := rfl

theorem run_bind (answer : Surroundings I σ) (p : Program I α) (f : α → Program I β) (s : σ) :
    (p >>= f).run answer s = (f (p.run answer s).1).run answer (p.run answer s).2 := by
  induction p generalizing s with
  | done a => rfl
  | ask q next ih => simp only [ask_bind, run_ask, ih]

end Program

/-- A program that may stop early with an error. -/
abbrev Attempt (I : Interface) (ε α : Type) := ExceptT ε (Program I) α

namespace Attempt

variable {I : Interface} {ε ε' α : Type}

/-- Asks a question whose answer may be an error, and stops at the error. -/
def ofAnswer (p : Program I (Except ε α)) : Attempt I ε α := ExceptT.mk p

/-- Puts an error into the words of the caller. -/
def rephrase (f : ε → ε') (p : Attempt I ε α) : Attempt I ε' α :=
  ExceptT.mk (p.run >>= fun r => .done (r.mapError f))

end Attempt

end ClusterDns
