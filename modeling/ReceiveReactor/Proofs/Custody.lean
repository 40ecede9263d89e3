import Mathlib.Data.List.Nodup
import Mathlib.Data.List.Perm.Basic
import ReceiveReactor.Proofs.Exchange
import ReceiveReactor.Socket.Handle

/-!
# The descriptors that a program answers for

The kernel hands descriptors out and takes them back when they are closed.  A program
**in custody** of some of them makes its calls on those only and on what it was handed
meanwhile, and says at its end which of them are left, and with whom.

* `Exchange.openAfter`, `openAfter` — which descriptors are open then, **each as often as
  it was handed out and not closed**;
* `Proper` — no call is made on a descriptor that is not open;
* `Genuine` — the kernel hands out no number that is open;
* `Program.Custody` — what a program answers for, from its start to its end, with one rule
  for each way to make a program;
* `Program.Custody.run` — a run of it keeps what is open in hands, **and all else as it is**;
* `Program.Custody.run_apart` — and makes no call on a descriptor that others hold.
-/

namespace ReceiveReactor

/-! ## Calls and descriptors -/

namespace Call

/-- The descriptors that a call is made on. -/
def fds : Call → List Fd
  | socket .. | pipe .. => []
  | bind fd _ | connect fd _ | listen fd _ | accept fd _ | getsockname fd | getsockopt fd ..
  | setsockopt fd .. | recvfrom fd .. | recvmsg fd .. | sendto fd .. | send fd .. | read fd _
  | write fd _ | descriptorFlags fd | statusFlags fd | setStatusFlags fd _ | close fd => [fd]
  | poll slots _ => slots.map PollSlot.fd

/-- The descriptors that a call closes. -/
def closed : Call → List Fd
  | close fd => [fd]
  | _ => []

/-- The descriptors that the kernel hands out with its answer. -/
def handedOut : (c : Call) → c.Reply → List Fd
  | socket .., .ok fd => [fd]
  | accept .., .ok (fd, _) => [fd]
  | pipe .., .ok (receiver, sender) => [receiver, sender]
  | _, _ => []

/-- Whether a call uses a descriptor: none is handed out and none is closed, whatever the
kernel answers. -/
def uses (fd : Fd) : Call → Bool
  | socket .. | accept .. | pipe .. | close .. | poll .. => false
  | c => c.fds == [fd]

end Call

namespace Exchange

/-- The descriptors that were handed out. -/
def handedOut (e : Exchange) : List Fd := e.call.handedOut e.reply

/-- The descriptors that are open after an exchange. -/
def openAfter (e : Exchange) (opened : List Fd) : List Fd :=
  e.handedOut ++ opened.diff e.call.closed

/-- A call that uses a descriptor opens none and closes none. -/
theorem openAfter_of_uses {c : Call} {fd : Fd} (hc : c.uses fd = true) (r : c.Reply)
    (opened : List Fd) : openAfter ⟨c, r⟩ opened = opened := by
  cases c with
  | socket | accept | pipe | close | poll => cases hc
  | _ => rfl

/-- A close takes its descriptor off what is open. -/
theorem openAfter_close (fd : Fd) (opened : List Fd) :
    openAfter ⟨.close fd, ()⟩ opened = opened.erase fd := by
  simp [openAfter, handedOut, Call.handedOut, Call.closed, List.diff_cons]

/-- What is closed comes from the descriptors that the call was on; the others stay. -/
theorem openAfter_perm {e : Exchange} {opened own others : List Fd}
    (hopened : opened.Perm (own ++ others)) (hown : ∀ fd ∈ e.call.fds, fd ∈ own) :
    (e.openAfter opened).Perm (e.openAfter own ++ others) := by
  have hdiff : (own ++ others).diff e.call.closed = own.diff e.call.closed ++ others := by
    cases hcall : e.call with
    | close fd =>
        have hfd : fd ∈ own := hown fd (by simp [hcall, Call.fds])
        simp only [Call.closed, List.diff_cons, List.diff_nil]
        exact List.erase_append_left _ hfd
    | _ => simp [Call.closed]
  rw [openAfter, openAfter, List.append_assoc, ← hdiff]
  exact (hopened.diff_right _).append_left _

/-- What was open and what is handed out is closed or open afterwards, each number as
often. -/
theorem balance {e : Exchange} {opened : List Fd} (hon : ∀ fd ∈ e.call.fds, fd ∈ opened)
    (fd : Fd) :
    e.handedOut.count fd + opened.count fd =
      e.call.closed.count fd + (e.openAfter opened).count fd := by
  have hopen : opened.count fd =
      e.call.closed.count fd + (opened.diff e.call.closed).count fd := by
    cases hcall : e.call with
    | close other =>
        have hmem : other ∈ opened := hon other (by simp [hcall, Call.fds])
        simp only [Call.closed, List.diff_cons, List.diff_nil]
        rw [(List.perm_cons_erase hmem).count_eq fd, ← List.singleton_append, List.count_append]
    | _ => simp [Call.closed]
  rw [openAfter, List.count_append]
  omega

end Exchange

/-- The descriptors that are open after some exchanges. -/
def openAfter (log : List Exchange) (opened : List Fd) : List Fd :=
  log.foldl (fun opened e => e.openAfter opened) opened

/-- The descriptors that were handed out in some exchanges. -/
def handedOut (log : List Exchange) : List Fd := log.flatMap Exchange.handedOut

/-- The descriptors that were closed in some exchanges. -/
def closed (log : List Exchange) : List Fd := log.flatMap fun e => e.call.closed

/-- Every call is made on descriptors that are open then. -/
def Proper (opened : List Fd) : List Exchange → Prop
  | [] => True
  | e :: log => (∀ fd ∈ e.call.fds, fd ∈ opened) ∧ Proper (e.openAfter opened) log

/-- The kernel hands out no number that is open then, and none twice. -/
def Genuine (opened : List Fd) : List Exchange → Prop
  | [] => True
  | e :: log =>
    (e.handedOut.Nodup ∧ ∀ fd ∈ e.handedOut, fd ∉ opened) ∧ Genuine (e.openAfter opened) log

namespace Genuine

/-- Whether a kernel hands out open numbers can be seen.  The numbers are looked up in the
list, for the type of descriptors is finite, and too large to be searched. -/
def decide : (opened : List Fd) → (log : List Exchange) → Decidable (Genuine opened log)
  | _, [] => .isTrue trivial
  | opened, e :: log =>
    have : Decidable (∀ fd ∈ e.handedOut, fd ∉ opened) := List.decidableBAll _ _
    have : Decidable (Genuine (e.openAfter opened) log) := decide _ log
    inferInstanceAs (Decidable (_ ∧ _))

instance (opened : List Fd) (log : List Exchange) : Decidable (Genuine opened log) :=
  decide opened log

end Genuine

/-! ## Logs -/

section Logs

variable {opened : List Fd} {log more : List Exchange}

/-- A kernel is genuine over two logs just if it is over the first, and over the second with
what is open then. -/
theorem genuine_append :
    Genuine opened (log ++ more) ↔ Genuine opened log ∧ Genuine (openAfter log opened) more := by
  induction log generalizing opened with
  | nil => exact (and_iff_right trivial).symm
  | cons e log ih => exact (and_congr_right fun _ => ih).trans and_assoc.symm

/-- **No number is open twice** while the kernel hands out no open one. -/
theorem Genuine.nodup (hgenuine : Genuine opened log) (hopened : opened.Nodup) :
    (openAfter log opened).Nodup := by
  induction log generalizing opened with
  | nil => exact hopened
  | cons e log ih =>
      obtain ⟨⟨hnodup, hfresh⟩, hrest⟩ := hgenuine
      refine ih hrest (List.nodup_append.mpr ⟨hnodup, hopened.diff, ?_⟩)
      rintro fd hout _ hold rfl
      exact hfresh fd hout ((List.diff_sublist _ _).subset hold)

/-- **The ledger.**  What was open before and what was handed out is closed or still open,
each number as often. -/
theorem Proper.balance (hproper : Proper opened log) (fd : Fd) :
    (handedOut log).count fd + opened.count fd =
      (closed log).count fd + (openAfter log opened).count fd := by
  induction log generalizing opened with
  | nil => rfl
  | cons e log ih =>
      have hone := Exchange.balance hproper.1 fd
      have hlater := ih hproper.2
      simp only [handedOut, closed, List.flatMap_cons, List.count_append] at hlater ⊢
      show _ = _ + List.count fd (openAfter log (e.openAfter opened))
      omega

end Logs

/-! ## Programs -/

namespace Program

variable {α β σ : Type}

/-- A program that answers for the descriptors `own`: whatever the kernel answers, it makes
its calls on those that it answers for then, and `post` relates its value to those that are
left. -/
def Custody (post : α → List Fd → Prop) : Program α → List Fd → Prop
  | done a, own => post a own
  | call c next, own =>
    (∀ fd ∈ c.fds, fd ∈ own) ∧
      ∀ r, Custody post (next r) (Exchange.openAfter ⟨c, r⟩ own)

variable {p : Program α} {f : α → Program β} {post mid : α → List Fd → Prop}
  {last : β → List Fd → Prop} {own others : List Fd}

/-- What is done has what it had. -/
theorem custody_pure {a : α} (h : post a own) : (pure a : Program α).Custody post own := h

/-- A single call must be on what is had; then it has what is open after it. -/
theorem custody_ask {c : Call} {post : c.Reply → List Fd → Prop}
    (hon : ∀ fd ∈ c.fds, fd ∈ own) (hpost : ∀ r, post r (Exchange.openAfter ⟨c, r⟩ own)) :
    (ask c).Custody post own :=
  ⟨hon, hpost⟩

/-- **A sequence** hands what its first part has on to its second. -/
theorem custody_bind (hp : p.Custody mid own)
    (hf : ∀ a own', mid a own' → (f a).Custody last own') : (p >>= f).Custody last own := by
  induction p generalizing own with
  | done a => exact hf a own hp
  | call c next ih => exact ⟨hp.1, fun r => ih r (hp.2 r)⟩

/-- Whoever answers for more answers for less. -/
theorem Custody.mono (hp : p.Custody mid own) (h : ∀ a own', mid a own' → post a own') :
    p.Custody post own := by
  induction p generalizing own with
  | done a => exact h a own hp
  | call c next ih => exact ⟨hp.1, fun r => ih r (hp.2 r)⟩

/-- A program that only uses a descriptor leaves it with who has it. -/
theorem Only.custody {fd : Fd} (hp : p.Only fun c => c.uses fd = true) :
    p.Custody (fun _ own => own = [fd]) [fd] := by
  induction p with
  | done a => rfl
  | call c next ih =>
      refine ⟨fun other hother => ?_, fun r => ?_⟩
      · have hfds : c.fds = [fd] := by
          cases c with
          | socket | accept | pipe | close | poll => cases hp.1
          | _ => exact eq_of_beq hp.1
        exact hfds ▸ hother
      · rw [Exchange.openAfter_of_uses hp.1]
        exact ih r (hp.2 r)

/-- Closing the descriptor that one answers for leaves none. -/
theorem custody_close (fd : Fd) : (ask (.close fd)).Custody (fun _ own => own = []) [fd] := by
  refine custody_ask (fun other h => h) fun r => ?_
  rw [Exchange.openAfter_close]
  simp

/-- **The frame.**  What others hold stays with them, and what is open stays in hands. -/
theorem Custody.frame {total : List Fd} (hp : p.Custody post own)
    (htotal : total.Perm (own ++ others)) :
    p.Custody (fun a total' => ∃ own', post a own' ∧ total'.Perm (own' ++ others)) total := by
  induction p generalizing own total with
  | done a => exact ⟨own, hp, htotal⟩
  | call c next ih =>
      refine ⟨fun fd hfd => ?_, fun r => ih r (hp.2 r) (Exchange.openAfter_perm htotal hp.1)⟩
      exact htotal.mem_iff.mpr (List.mem_append_left _ (hp.1 fd hfd))

/-- **A run** makes its calls on open descriptors only, and ends with what it promised. -/
theorem Custody.run (hp : p.Custody post own) (k : Kernel σ) (s : σ) :
    post (p.run k s).1 (openAfter (p.exchanges k s) own) ∧ Proper own (p.exchanges k s) := by
  induction p generalizing own s with
  | done a => exact ⟨hp, trivial⟩
  | call c next ih =>
      obtain ⟨hpost, hproper⟩ := ih _ (hp.2 (k.answer c s).1) (k.answer c s).2
      exact ⟨hpost, hp.1, hproper⟩

/-- **Nobody's calls are on a descriptor that another holds**, as long as the kernel hands
out no open one. -/
theorem Custody.run_apart (hp : p.Custody post own) (k : Kernel σ) (s : σ) {opened : List Fd}
    (hopened : opened.Perm (own ++ others)) (hnodup : opened.Nodup)
    (hgenuine : Genuine opened (p.exchanges k s)) :
    ∀ e ∈ p.exchanges k s, ∀ fd ∈ e.call.fds, fd ∉ others := by
  induction p generalizing own opened s with
  | done a => exact fun e he => nomatch he
  | call c next ih =>
      obtain ⟨hfresh, hrest⟩ := hgenuine
      have hapart : ∀ fd ∈ own, fd ∉ others := fun fd hown hothers =>
        (List.nodup_append.mp (hopened.nodup_iff.mp hnodup)).2.2 fd hown fd hothers rfl
      intro e he
      rcases List.mem_cons.mp he with rfl | hlater
      · exact fun fd hfd => hapart fd (hp.1 fd hfd)
      -- The rest starts with what is open then, of which no number is open twice either.
      · have hone : Genuine opened [⟨c, (k.answer c s).1⟩] := ⟨hfresh, trivial⟩
        exact ih _ (hp.2 _) _ (Exchange.openAfter_perm hopened hp.1) (hone.nodup hnodup) hrest
          e hlater

end Program

end ReceiveReactor
