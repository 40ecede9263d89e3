import ReceiveReactor.Proofs.Footprint

/-!
# What a program exchanges with the kernel

A run makes its calls and gets an answer to each.  What a program ends with, whatever the
kernel answers, is told together with **all that was exchanged until then**.

* `Program.exchanges` — the calls of a run, with their answers;
* `Program.Ends` — what a program ends with and what it exchanged, with one rule for each
  way to make a program;
* `Program.Ends.run` — what holds of the ends of a program **holds of its runs**.
-/

namespace ReceiveReactor

/-- A call and what the kernel answered. -/
structure Exchange where
  call : Call
  reply : call.Reply

namespace Program

variable {α β σ : Type} {A : Call → Prop} {p : Program α} {f : α → Program β}
  {post mid : α → List Exchange → Prop} {last : β → List Exchange → Prop}

/-- The calls that a run makes, in order, and what the kernel answers to each. -/
def exchanges (k : Kernel σ) : Program α → σ → List Exchange
  | done _, _ => []
  | call c next, s =>
    ⟨c, (k.answer c s).1⟩ :: exchanges k (next (k.answer c s).1) (k.answer c s).2

/-- A sequence exchanges what its parts do, one after the other. -/
theorem exchanges_bind (k : Kernel σ) (p : Program α) (f : α → Program β) (s : σ) :
    exchanges k (p >>= f) s = exchanges k p s ++ exchanges k (f (run k p s).1) (run k p s).2 := by
  induction p generalizing s with
  | done a => rfl
  | call c next ih => exact congrArg (_ :: ·) (ih (k.answer c s).1 (k.answer c s).2)

/-- Whatever the kernel answers, a program ends with a value and a log that `post`
relates. -/
def Ends : Program α → (α → List Exchange → Prop) → Prop
  | done a, post => post a []
  | call c next, post => ∀ r, (next r).Ends fun a log => post a (⟨c, r⟩ :: log)

/-- A program that is done ends with its value and has exchanged nothing. -/
theorem ends_pure {a : α} (h : post a []) : (pure a : Program α).Ends post := h

/-- A program that is done adds nothing to what was exchanged before. -/
theorem ends_done {a : α} {front : List Exchange} (h : post a front) :
    (pure a : Program α).Ends fun b back => post b (front ++ back) :=
  ends_pure (by rwa [List.append_nil])

/-- A single call ends with the kernel's answer. -/
theorem ends_ask (c : Call) : (ask c).Ends fun r log => log = [⟨c, r⟩] := fun _ => rfl

/-- **A sequence** goes on from every end of its first part, with its log before its own. -/
theorem ends_bind (hp : p.Ends mid)
    (hf : ∀ a front, mid a front → (f a).Ends fun b back => last b (front ++ back)) :
    (p >>= f).Ends last := by
  induction p generalizing mid last with
  | done a => exact hf a [] hp
  | call c next ih => exact fun r => ih r (hp r) fun a front hmid => hf a (⟨c, r⟩ :: front) hmid

/-- What holds of the ends holds of what follows from them. -/
theorem Ends.mono (hp : p.Ends mid) (h : ∀ a log, mid a log → post a log) : p.Ends post := by
  induction p generalizing mid post with
  | done a => exact h a [] hp
  | call c next ih => exact fun r => ih r (hp r) fun a log hmid => h a (⟨c, r⟩ :: log) hmid

/-- **What holds of all ends holds of every run**, whatever the kernel. -/
theorem Ends.run (hp : p.Ends post) (k : Kernel σ) (s : σ) :
    post (p.run k s).1 (p.exchanges k s) := by
  induction p generalizing post s with
  | done a => exact hp
  | call c next ih => exact ih _ (hp _) _

/-- What holds of the ends one by one holds together. -/
theorem Ends.and {post' : α → List Exchange → Prop} (hp : p.Ends post) (hp' : p.Ends post') :
    p.Ends fun a log => post a log ∧ post' a log := by
  induction p generalizing post post' with
  | done a => exact ⟨hp, hp'⟩
  | call c next ih => exact fun r => ih r (hp r) (hp' r)

/-- What all calls of a program are, the calls of its log are. -/
theorem Only.ends (hp : p.Only A) : p.Ends fun _ log => ∀ e ∈ log, A e.call := by
  induction p with
  | done a => exact fun e he => nomatch he
  | call c next ih =>
      exact fun r => (ih r (hp.2 r)).mono fun _ _ hrest => List.forall_mem_cons.mpr ⟨hp.1, hrest⟩

end Program

end ReceiveReactor
