import ReceiveReactor.Kernel.Call

/-!
# Programs over the kernel

A `Program` is a computation that asks the kernel: it is done with a value, or
it makes one call and goes on with the answer.  Programs are pure data, so the
same socket code runs against a model of a host, against a script of answers,
and against every kernel that a theorem quantifies over.

* `Program.run` — a program against a kernel with a state;
* `Program.calls` — the calls that such a run makes, in order;
* `run_bind` — running a sequence is running its parts.
-/

namespace ReceiveReactor

/-- A computation that makes calls to the kernel. -/
inductive Program (α : Type) where
  | done (a : α)
  | call (c : Call) (next : c.Reply → Program α)

namespace Program

variable {α β σ : Type}

/-- Goes on with the value of a program. -/
def bind : Program α → (α → Program β) → Program β
  | done a, f => f a
  | call c next, f => call c fun r => bind (next r) f

instance : Monad Program where
  pure := done
  bind := bind

/-- A single call. -/
def ask (c : Call) : Program c.Reply := call c done

end Program

/-- A kernel: what it answers to a call in a state, and its next state. -/
structure Kernel (σ : Type) where
  answer : (c : Call) → σ → c.Reply × σ

namespace Program

variable {α β σ : Type}

/-- Runs a program against a kernel. -/
def run (k : Kernel σ) : Program α → σ → α × σ
  | done a, s => (a, s)
  | call c next, s => run k (next (k.answer c s).1) (k.answer c s).2

/-- The calls that a run makes, in order. -/
def calls (k : Kernel σ) : Program α → σ → List Call
  | done _, _ => []
  | call c next, s => c :: calls k (next (k.answer c s).1) (k.answer c s).2

@[simp] theorem run_pure (k : Kernel σ) (a : α) (s : σ) :
    run k (pure a : Program α) s = (a, s) := rfl

@[simp] theorem run_ask (k : Kernel σ) (c : Call) (s : σ) : run k (ask c) s = k.answer c s := rfl

/-- **Sequencing.**  A sequence runs its first part and then, from the state
left behind, its second. -/
@[simp] theorem run_bind (k : Kernel σ) (p : Program α) (f : α → Program β) (s : σ) :
    run k (p >>= f) s = run k (f (run k p s).1) (run k p s).2 := by
  induction p generalizing s with
  | done a => rfl
  | call c next ih => exact ih (k.answer c s).1 (k.answer c s).2

end Program

end ReceiveReactor
