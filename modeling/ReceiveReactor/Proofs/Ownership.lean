import ReceiveReactor.Kernel.Script
import ReceiveReactor.Proofs.Custody

/-!
# Every descriptor has one owner

Descriptors are held by handles, and loose by those who called for them.  Whatever is done
to them in whatever order, **what is open is what is held**: a descriptor stays with its
holder until that holder gives it away, and what is not held any more is closed.

* `Handle.custody_open` and its like — each operation answers for what its handle holds,
  before and after;
* `Ownership.Operation`, `Ownership.Action` — what can be done to one holder, and to any
  number of them;
* `Ownership.Operation.custody`, `Ownership.custody_play` — one operation, and **every
  sequence of them**;
* `Ownership.Accounted`, `Ownership.Settled`, `Ownership.Exclusive` — what holds after every
  sequence, and what one more action does;
* `Ownership.descriptors_owned` — all of that, whatever the kernel answers.
-/

namespace ReceiveReactor

open Program

/-! ## Programs that use one descriptor -/

namespace Call

/-- Whether a call reads or writes an option of a descriptor. -/
def tunes (fd : Fd) : Call → Bool
  | getsockopt other .. | setsockopt other .. => other == fd
  | _ => false

/-- Whether a call gives a descriptor its address, or asks for it. -/
def names (fd : Fd) : Call → Bool
  | bind other _ | getsockname other => other == fd
  | _ => false

/-- A call that tunes a descriptor is on it. -/
theorem uses_of_tunes {c : Call} {fd : Fd} (h : c.tunes fd = true) : c.uses fd = true := by
  cases c <;> simp_all [tunes, uses, fds]

/-- So is one that names it. -/
theorem uses_of_names {c : Call} {fd : Fd} (h : c.names fd = true) : c.uses fd = true := by
  cases c <;> simp_all [names, uses, fds]

end Call

section Uses

variable (fd : Fd)

/-- Setting an option tunes the descriptor and does nothing else. -/
theorem only_tunes_setOption (level option : Nat) (shown : String) (value : Bytes) :
    (Options.setOption fd level option shown value).Only fun c => c.tunes fd = true := by
  refine only_bind (only_ask (beq_self_eq_true _)) fun r => ?_
  cases r <;> exact only_pure _

/-- So does reading one. -/
theorem only_tunes_getOption (level option size : Nat) (shown : String) :
    (Options.getOption fd level option size shown).Only fun c => c.tunes fd = true := by
  refine only_bind (only_ask (beq_self_eq_true _)) fun r => ?_
  cases r <;> exact only_pure _

/-- **Preparing a socket for messages only tunes it**, however far it gets. -/
theorem only_tunes_prepare : (Sctp.prepare fd).Only fun c => c.tunes fd = true := by
  refine only_bind (only_tunes_setOption fd _ _ _ _) fun _ => ?_
  refine only_bind (only_bind (only_tunes_getOption fd _ _ _ _) fun _ => only_pure _) fun rto => ?_
  cases rto with
  | error cause => exact only_pure _
  | ok rto =>
      refine only_bind (only_tunes_setOption fd _ _ _ _) fun written => ?_
      cases written with
      | error cause => exact only_pure _
      | ok _ =>
          refine only_bind (only_bind (only_tunes_getOption fd _ _ _ _) fun _ => only_pure _)
            fun init => ?_
          cases init with
          | error cause => exact only_pure _
          | ok init => exact only_tunes_setOption fd _ _ _ _

/-- So it makes calls on that descriptor alone. -/
theorem only_uses_prepare : (Sctp.prepare fd).Only fun c => c.uses fd = true :=
  (only_tunes_prepare fd).mono fun _ => Call.uses_of_tunes

/-- Asking for the local address only names the descriptor. -/
theorem only_names_boundAddress : (boundAddress fd).Only fun c => c.names fd = true := by
  refine only_bind (only_ask (beq_self_eq_true _)) fun r => ?_
  cases r with
  | error errno => exact only_pure _
  | ok stored =>
      dsimp only
      split <;> exact only_pure _

/-- Binding names the descriptor and makes no other calls, whatever the text. -/
theorem only_names_bindAddress (ip : String) (port : UInt16) :
    (bindAddress fd ip port).Only fun c => c.names fd = true := by
  unfold bindAddress
  split
  · exact only_pure _
  · refine only_bind (only_ask (beq_self_eq_true _)) fun r => ?_
    cases r with
    | error errno => exact only_pure _
    | ok _ =>
        refine only_bind (only_names_boundAddress fd) fun bound => ?_
        cases bound <;> exact only_pure _

/-- So it makes calls on that descriptor alone. -/
theorem only_uses_bindAddress (ip : String) (port : UInt16) :
    (bindAddress fd ip port).Only fun c => c.uses fd = true :=
  (only_names_bindAddress fd ip port).mono fun _ => Call.uses_of_names

/-! The calls of what makes a single one. -/

variable {A : Call → Prop}

/-- Connecting makes one call, if the text is an address at all. -/
theorem only_connectTo (h : ∀ address, A (.connect fd address)) (ip : String) (port : UInt16) :
    (connectTo fd ip port).Only A := by
  unfold connectTo
  split
  · exact only_pure _
  · refine only_bind (only_ask (h _)) fun r => ?_
    cases r <;> exact only_pure _

/-- Listening makes its one call. -/
theorem only_listenOn (backlog : Int32) (h : A (.listen fd backlog)) :
    (listenOn fd backlog).Only A := by
  refine only_bind (only_ask h) fun r => ?_
  cases r <;> exact only_pure _

/-- Reading from a stream makes its one call. -/
theorem only_readStream (size : Nat) (h : A (.read fd size)) : (readStream fd size).Only A := by
  refine only_bind (only_ask h) fun r => ?_
  cases r <;> exact only_pure _

end Uses

/-! ## Where descriptors come from -/

/-- A socket that is opened is the caller's; **one that cannot be prepared is closed**. -/
theorem custody_openSocket (family : AddressFamily) (kind : SocketKind) (protocol : Protocol) :
    (openSocket family kind protocol).Custody (fun r own => own = r.toOption.toList) [] := by
  refine custody_bind (custody_ask (fun _ h => nomatch h) fun _ => rfl) fun r own hown => ?_
  subst hown
  cases r with
  | error errno => exact custody_pure rfl
  | ok fd =>
      show Program.Custody _ (if protocol = .sctp then _ else _) [fd]
      split
      · refine custody_bind (only_uses_prepare fd).custody fun prepared own hown => ?_
        subst hown
        cases prepared with
        | ok _ => exact custody_pure rfl
        | error cause => exact custody_bind (custody_close fd) fun _ _ h => custody_pure h
      · exact custody_pure rfl

/-- A connection that is accepted is the caller's; **one whose peer has no address is
closed**.  The listener stays with its holder. -/
theorem custody_acceptFrom (fd : Fd) :
    (acceptFrom fd).Custody (fun r own => own = (r.map Prod.fst).toOption.toList ++ [fd]) [fd] := by
  refine custody_bind (custody_ask (fun _ h => h) fun _ => rfl) fun r own hown => ?_
  subst hown
  cases r with
  | error errno => exact custody_pure rfl
  | ok accepted =>
      obtain ⟨accepted, peer⟩ := accepted
      dsimp only
      split
      · exact custody_pure rfl
      · have hclosed :
            (ask (.close accepted)).Custody (fun _ own => own = [fd]) [accepted, fd] := by
          refine custody_ask (fun other h => ?_) fun _ => ?_
          · exact List.mem_cons.mpr (Or.inl (List.mem_singleton.mp h))
          · rw [Exchange.openAfter_close]
            exact List.erase_cons_head accepted [fd]
        exact custody_bind hclosed fun _ _ h => custody_pure h

/-! ## Handles -/

namespace Handle

/-- The descriptor that a handle holds, if any. -/
def fds (h : Handle) : List Fd := h.fd.toList

/-- A handle that is open owns its one descriptor. -/
theorem fds_of_some {h : Handle} {fd : Fd} (hfd : h.fd = some fd) : h.fds = [fd] := by
  rw [fds, hfd]
  rfl

/-- A closed handle owns nothing. -/
theorem fds_of_none {h : Handle} (hfd : h.fd = none) : h.fds = [] := by
  rw [fds, hfd]
  rfl

/-- **Opening**: whatever comes of it, the handle that is left owns what is open. A socket
that cannot be tuned is closed again. -/
theorem custody_open (h : Handle) (family : AddressFamily) (kind : SocketKind)
    (protocol : Protocol) :
    (h.open family kind protocol).Custody (fun r own => own = r.2.fds) h.fds := by
  cases hfd : h.fd with
  | some fd =>
      rw [Handle.open, hfd]
      exact custody_pure rfl
  | none =>
      rw [Handle.open, hfd, fds_of_none hfd]
      refine custody_bind (custody_openSocket _ _ _) fun r own hown => ?_
      subst hown
      cases r with
      | error cause => exact custody_pure (fds_of_none hfd).symm
      | ok fd => exact custody_pure rfl

/-- **Closing** gives the descriptor back, and nothing is owned any more. -/
theorem custody_close (h : Handle) :
    h.close.Custody (fun after own => own = [] ∧ after = { h with fd := none }) h.fds := by
  cases hfd : h.fd with
  | none =>
      rw [close, hfd, fds_of_none hfd]
      refine custody_pure ⟨rfl, ?_⟩
      rw [← hfd]
  | some fd =>
      rw [close, hfd, fds_of_some hfd]
      exact custody_bind (Program.custody_close fd) fun _ _ hown => custody_pure ⟨hown, rfl⟩

/-- So does resetting, and the handle is empty. -/
theorem custody_reset (h : Handle) :
    h.reset.Custody (fun after own => own = [] ∧ after = empty) h.fds := by
  refine custody_bind h.custody_close fun after own hclosed => custody_pure ⟨hclosed.1, ?_⟩
  rw [hclosed.2]
  rfl

/-- **Binding** moves no descriptor, whether it succeeds or not. -/
theorem custody_bind (h : Handle) (ip : String) (port : UInt16) :
    (h.bind ip port).Custody (fun r own => own = r.2.fds) h.fds := by
  cases hfd : h.fd with
  | none =>
      rw [Handle.bind, hfd]
      exact custody_pure rfl
  | some fd =>
      rw [Handle.bind, hfd, fds_of_some hfd]
      refine Program.custody_bind (only_uses_bindAddress fd ip port).custody fun r own hown => ?_
      subst hown
      cases r with
      | error cause => exact custody_pure (fds_of_some hfd).symm
      | ok a => exact custody_pure rfl

/-- Nor does connecting. -/
theorem custody_connect (h : Handle) (ip : String) (port : UInt16) :
    (h.connect ip port).Custody (fun _ own => own = h.fds) h.fds := by
  cases hfd : h.fd with
  | none =>
      rw [connect, hfd]
      exact custody_pure rfl
  | some fd =>
      rw [connect, hfd, fds_of_some hfd]
      exact (only_connectTo fd (fun _ => beq_self_eq_true _) ip port).custody

/-- Nor does listening. -/
theorem custody_listen (h : Handle) (backlog : Int32) :
    (h.listen backlog).Custody (fun _ own => own = h.fds) h.fds := by
  cases hfd : h.fd with
  | none =>
      rw [listen, hfd]
      exact custody_pure rfl
  | some fd =>
      rw [listen, hfd, fds_of_some hfd]
      exact (only_listenOn fd backlog (beq_self_eq_true _)).custody

/-- **Accepting** owns one descriptor more, the accepted one, or just what it owned. -/
theorem custody_accept (h : Handle) :
    h.accept.Custody
      (fun r own => own = ((r.map Prod.fst).toOption.toList.flatMap fds) ++ h.fds) h.fds := by
  cases hfd : h.fd with
  | none =>
      rw [accept, hfd]
      exact custody_pure rfl
  | some fd =>
      rw [accept, hfd, fds_of_some hfd]
      refine Program.custody_bind (custody_acceptFrom fd) fun r own hown => ?_
      subst hown
      cases r <;> exact custody_pure rfl

/-- **Reading**: at the end of a stream the descriptor is closed, and the handle owns
nothing. -/
theorem custody_read (h : Handle) (size : Nat) :
    (h.read size).Custody (fun r own => own = r.2.fds) h.fds := by
  cases hfd : h.fd with
  | none =>
      rw [read, hfd]
      exact custody_pure rfl
  | some fd =>
      rw [read, hfd, fds_of_some hfd]
      refine Program.custody_bind (only_readStream fd size (beq_self_eq_true _)).custody
        fun r own hown => ?_
      subst hown
      match r with
      | .error cause => exact custody_pure (fds_of_some hfd).symm
      | .ok (0, stored) =>
          rw [← fds_of_some hfd]
          refine Program.custody_bind h.custody_close fun after own hclosed => custody_pure ?_
          rw [hclosed.1, hclosed.2]
          rfl
      | .ok (count + 1, stored) => exact custody_pure (fds_of_some hfd).symm

/-- Opening and binding at once owns what is left open, also when the binding fails. -/
theorem custody_openBound (h : Handle) (kind : SocketKind) (protocol : Protocol) (ip : String)
    (port : UInt16) :
    (h.openBound kind protocol ip port).Custody (fun r own => own = r.2.fds) h.fds := by
  refine Program.custody_bind (h.custody_open _ _ _) fun opened own hown => ?_
  subst hown
  obtain ⟨_ | _, opened⟩ := opened
  · exact custody_pure rfl
  · refine Program.custody_bind (opened.custody_bind ip port) fun bound own hown => ?_
    subst hown
    obtain ⟨_ | _, bound⟩ := bound
    · refine Program.custody_bind bound.custody_reset fun after own hreset => custody_pure ?_
      rw [hreset.1, hreset.2]
      rfl
    · exact custody_pure rfl

/-- So does a server's set-up, listening included. -/
theorem custody_serve (h : Handle) (kind : SocketKind) (protocol : Protocol) (ip : String)
    (port : UInt16) (backlog : Int32) :
    (h.serve kind protocol ip port backlog).Custody (fun r own => own = r.2.fds) h.fds := by
  refine Program.custody_bind (h.custody_openBound _ _ _ _) fun bound own hown => ?_
  subst hown
  obtain ⟨_ | _, bound⟩ := bound
  · exact custody_pure rfl
  · exact Program.custody_bind (bound.custody_listen backlog) fun _ _ hown => custody_pure hown

end Handle

/-! ## Holders -/

namespace Ownership

/-- What can hold a descriptor: a handle, or somebody who has it loose. -/
inductive Holder where
  | handle (h : Handle)
  | loose (fd : Fd)
  | gone
deriving DecidableEq, Repr

/-- The descriptors of a holder. -/
def Holder.fds : Holder → List Fd
  | handle h => h.fds
  | loose fd => [fd]
  | gone => []

/-- Who has a descriptor that was given up, if there was one. -/
def Holder.ofFd? : Option Fd → Holder
  | some fd => loose fd
  | none => gone

/-- The descriptors of some holders. -/
def held (holders : List Holder) : List Fd := holders.flatMap Holder.fds

/-- What can be done to a holder. -/
inductive Operation where
  | «open» (family : AddressFamily) (kind : SocketKind) (protocol : Protocol)
  | bind (ip : String) (port : UInt16)
  | connect (ip : String) (port : UInt16)
  | listen (backlog : Int32)
  /-- Accepts into a new handle. -/
  | accept
  /-- Accepts a connection that is handed over loose. -/
  | acceptLoose
  | read (size : Nat)
  | initSctp (kind : SocketKind) (ip : String) (port : UInt16)
  | initSctpClient (kind : SocketKind) (ip : String)
  | serveSctp (kind : SocketKind) (ip : String) (port : UInt16)
  | serveTcp (ip : String) (port : UInt16) (backlog : Int32)
  | close
  | reset
  /-- A handle gives its descriptor up and is gone. -/
  | release
  /-- A loose descriptor gets a handle. -/
  | adopt
  | drop
deriving DecidableEq, Repr

/-- What an operation comes to: whether it succeeded, what became of the holder, and the
holders that it made. -/
structure Turn where
  succeeded : Bool
  holder : Holder
  made : List Holder := []

/-- Nothing happens. -/
def Turn.refused (holder : Holder) : Turn := { succeeded := false, holder }

/-- A result, and the handle that is left. -/
def Turn.ofHandle {ε α : Type} (r : Except ε α × Handle) : Turn :=
  { succeeded := r.1.toBool, holder := .handle r.2 }

/-- The descriptors that are held after an operation, as far as it is concerned. -/
def Turn.fds (t : Turn) : List Fd := held t.made ++ t.holder.fds

/-- Accepts a connection on a descriptor of a holder. -/
def acceptOn (holder : Holder) (fd : Fd) : Program Turn := do
  match ← acceptFrom fd with
  | .ok (accepted, _) => return { succeeded := true, holder, made := [.loose accepted] }
  | .error _ => return .refused holder

namespace Operation

/-- An operation on a handle. -/
def onHandle (h : Handle) : Operation → Program Turn
  | .open family kind protocol => return .ofHandle (← h.open family kind protocol)
  | .bind ip port => return .ofHandle (← h.bind ip port)
  | .connect ip port => return .ofHandle (← h.connect ip port, h)
  | .listen backlog => return .ofHandle (← h.listen backlog, h)
  | .accept => do
    match ← h.accept with
    | .ok (accepted, _) =>
      return { succeeded := true, holder := .handle h, made := [.handle accepted] }
    | .error _ => return .refused (.handle h)
  | .acceptLoose =>
    match h.fd with
    | some fd => acceptOn (.handle h) fd
    | none => return .refused (.handle h)
  | .read size => return .ofHandle (← h.read size)
  | .initSctp kind ip port => return .ofHandle (← h.initSctp kind ip port)
  | .initSctpClient kind ip => return .ofHandle (← h.initSctpClient kind ip)
  | .serveSctp kind ip port => return .ofHandle (← h.serveSctp kind ip port)
  | .serveTcp ip port backlog => return .ofHandle (← h.serveTcp ip port backlog)
  | .close => return { succeeded := true, holder := .handle (← h.close) }
  | .reset => return { succeeded := true, holder := .handle (← h.reset) }
  | .release => return { succeeded := true, holder := .ofFd? h.release.1 }
  | .adopt => return .refused (.handle h)
  | .drop => do
    let _ ← h.close
    return { succeeded := true, holder := .gone }

/-- An operation on a loose descriptor. -/
def onLoose (fd : Fd) : Operation → Program Turn
  | .acceptLoose => acceptOn (.loose fd) fd
  | .adopt => return { succeeded := true, holder := .handle (.ofFd fd) }
  | .drop => do
    Program.ask (.close fd)
    return { succeeded := true, holder := .gone }
  | _ => return .refused (.loose fd)

/-- An operation on a holder. -/
def turn (o : Operation) : Holder → Program Turn
  | .handle h => o.onHandle h
  | .loose fd => o.onLoose fd
  | .gone => return .refused .gone

end Operation

/-- What can happen next.  A holder is named by its place among all that there ever were. -/
inductive Action where
  /-- A new handle, empty. -/
  | new
  /-- A socket that is handed over loose. -/
  | openSocket (family : AddressFamily) (kind : SocketKind) (protocol : Protocol)
  | operate (i : Nat) (o : Operation)
deriving DecidableEq, Repr

namespace Action

/-- The place of the holder that acts, if it is not an action that only makes one. -/
def actor? : Action → Option Nat
  | operate i _ => some i
  | _ => none

/-- One action among some holders, as far as it is concerned. -/
def turn (holders : List Holder) : Action → Program Turn
  | new => return { succeeded := true, holder := .gone, made := [.handle .empty] }
  | openSocket family kind protocol => do
    match ← ReceiveReactor.openSocket family kind protocol with
    | .ok fd => return { succeeded := true, holder := .gone, made := [.loose fd] }
    | .error _ => return .refused .gone
  | operate i o =>
    match holders[i]? with
    | some holder => o.turn holder
    | none => return .refused .gone

/-- All holders after a turn. -/
def settle (a : Action) (holders : List Holder) (t : Turn) : List Holder :=
  (a.actor?.elim holders fun i => holders.set i t.holder) ++ t.made

/-- One action among some holders: whether it succeeded, and the holders after it. -/
def program (a : Action) (holders : List Holder) : Program (Bool × List Holder) := do
  let t ← a.turn holders
  return (t.succeeded, a.settle holders t)

/-- What the holder that acts has. -/
def own (a : Action) (holders : List Holder) : List Fd :=
  (a.actor?.bind fun i => holders[i]?).elim [] Holder.fds

/-- The holders that do not act. -/
def bystanders (a : Action) (holders : List Holder) : List Holder :=
  a.actor?.elim holders holders.eraseIdx

end Action

/-- Some actions one after the other. -/
def play (holders : List Holder) : List Action → Program (List Holder)
  | [] => return holders
  | a :: as => do
    let (_, holders) ← a.program holders
    play holders as

/-! ## What each of them answers for -/

/-- An operation answers for what its holder has, and hands over nothing when it fails. -/
def Answers (t : Turn) (own : List Fd) : Prop :=
  own = t.fds ∧ (t.succeeded = false → t.made = [])

/-- What is done to a handle answers for what is left in the handle. -/
theorem custody_ofHandle {ε α : Type} {p : Program (Except ε α × Handle)} {own : List Fd}
    (hp : p.Custody (fun r own => own = r.2.fds) own) :
    (do return Turn.ofHandle (← p)).Custody Answers own :=
  custody_bind hp fun _ _ hown => custody_pure ⟨hown, fun _ => rfl⟩

/-- Accepting on a holder of one descriptor answers with what is owned afterwards. -/
theorem custody_acceptOn (holder : Holder) {fd : Fd} (hfd : holder.fds = [fd]) :
    (acceptOn holder fd).Custody Answers [fd] := by
  refine custody_bind (custody_acceptFrom fd) fun r own hown => ?_
  subst hown
  cases r with
  | error cause => exact custody_pure ⟨hfd.symm, fun _ => rfl⟩
  | ok accepted =>
      refine custody_pure ⟨?_, nofun⟩
      rw [Turn.fds, hfd]
      rfl

namespace Operation

/-- Every operation on a handle answers with what is owned afterwards. -/
theorem custody_onHandle (o : Operation) (h : Handle) :
    (o.onHandle h).Custody Answers h.fds := by
  cases o with
  | «open» family kind protocol => exact custody_ofHandle (h.custody_open family kind protocol)
  | bind ip port => exact custody_ofHandle (h.custody_bind ip port)
  | connect ip port =>
      exact custody_bind (h.custody_connect ip port) fun _ _ hown =>
        custody_pure ⟨hown, fun _ => rfl⟩
  | listen backlog =>
      exact custody_bind (h.custody_listen backlog) fun _ _ hown =>
        custody_pure ⟨hown, fun _ => rfl⟩
  | accept =>
      refine custody_bind h.custody_accept fun r own hown => ?_
      subst hown
      cases r with
      | error cause => exact custody_pure ⟨rfl, fun _ => rfl⟩
      | ok accepted => exact custody_pure ⟨rfl, nofun⟩
  | acceptLoose =>
      simp only [onHandle]
      cases hfd : h.fd with
      | none => exact custody_pure ⟨rfl, fun _ => rfl⟩
      | some fd =>
          rw [Handle.fds_of_some hfd]
          exact custody_acceptOn (.handle h) (Handle.fds_of_some hfd)
  | read size => exact custody_ofHandle (h.custody_read size)
  | initSctp kind ip port => exact custody_ofHandle (h.custody_openBound kind .sctp ip port)
  | initSctpClient kind ip => exact custody_ofHandle (h.custody_openBound kind .sctp ip 0)
  | serveSctp kind ip port =>
      exact custody_ofHandle (h.custody_serve kind .sctp ip port Handle.maxBacklog)
  | serveTcp ip port backlog =>
      exact custody_ofHandle (h.custody_serve .stream .tcp ip port backlog)
  | close =>
      refine custody_bind h.custody_close fun after own hclosed => custody_pure ⟨?_, nofun⟩
      rw [hclosed.1, hclosed.2]
      rfl
  | reset =>
      refine custody_bind h.custody_reset fun after own hreset => custody_pure ⟨?_, nofun⟩
      rw [hreset.1, hreset.2]
      rfl
  | release =>
      refine custody_pure ⟨?_, nofun⟩
      cases hfd : h.fd <;> simp [Handle.fds, Handle.release, Turn.fds, held, Holder.ofFd?,
        Holder.fds, hfd]
  | adopt => exact custody_pure ⟨rfl, fun _ => rfl⟩
  | drop =>
      exact custody_bind h.custody_close fun _ _ hclosed => custody_pure ⟨hclosed.1, nofun⟩

/-- So does every operation on a descriptor that has left its handle. -/
theorem custody_onLoose (o : Operation) (fd : Fd) : (o.onLoose fd).Custody Answers [fd] := by
  cases o with
  | acceptLoose => exact custody_acceptOn (.loose fd) rfl
  | adopt => exact custody_pure ⟨rfl, nofun⟩
  | drop => exact custody_bind (custody_close fd) fun _ _ hown => custody_pure ⟨hown, nofun⟩
  | _ => exact custody_pure ⟨rfl, fun _ => rfl⟩

/-- **Every operation answers for what its holder has.** -/
theorem custody (o : Operation) (holder : Holder) :
    (o.turn holder).Custody Answers holder.fds := by
  cases holder with
  | handle h => exact o.custody_onHandle h
  | loose fd => exact o.custody_onLoose fd
  | gone => exact custody_pure ⟨rfl, fun _ => rfl⟩

end Operation

/-! ## All holders -/

section Holders

variable {a : Action} {holders : List Holder} {t : Turn}

/-- What several holders hold is what each of them does, one after the other. -/
theorem held_append (holders more : List Holder) :
    held (holders ++ more) = held holders ++ held more :=
  List.flatMap_append

/-- Only a holder that is there has something left after its turn. -/
def Fits (a : Action) (holders : List Holder) (t : Turn) : Prop :=
  ∀ fd ∈ t.holder.fds, ∃ i, a.actor? = some i ∧ i < holders.length

/-- What is held is the actor's or the others'. -/
theorem held_perm (a : Action) (holders : List Holder) :
    (held holders).Perm (a.own holders ++ held (a.bystanders holders)) := by
  cases hactor : a.actor? with
  | none => simp [Action.own, Action.bystanders, hactor]
  | some i =>
      rcases Nat.lt_or_ge i holders.length with hlt | hge
      · have hperm : (holders[i] :: holders.eraseIdx i).Perm holders :=
          List.getElem_cons_eraseIdx_perm hlt
        simpa [Action.own, Action.bystanders, hactor, hlt, held] using
          (hperm.flatMap_right Holder.fds).symm
      · simp [Action.own, Action.bystanders, hactor, hge, List.eraseIdx_of_length_le]

/-- After a turn it is what the turn left or the others'. -/
theorem Fits.held_settle (h : Fits a holders t) :
    (held (a.settle holders t)).Perm (t.fds ++ held (a.bystanders holders)) := by
  have hactor : (held (a.actor?.elim holders fun i => holders.set i t.holder)).Perm
      (t.holder.fds ++ held (a.bystanders holders)) := by
    by_cases hthere : ∃ i, a.actor? = some i ∧ i < holders.length
    · obtain ⟨i, hi, hlt⟩ := hthere
      have hperm := (List.set_perm_cons_eraseIdx hlt t.holder).flatMap_right Holder.fds
      simpa [Action.bystanders, hi, held] using hperm
    · have hnone : t.holder.fds = [] := List.eq_nil_iff_forall_not_mem.mpr
        fun fd hfd => hthere (h fd hfd)
      cases hi : a.actor? with
      | none => simp [Action.bystanders, hi, hnone]
      | some i =>
          have hge : holders.length ≤ i := Nat.not_lt.mp fun hlt => hthere ⟨i, hi, hlt⟩
          simp [Action.bystanders, hi, hnone, List.set_eq_of_length_le hge,
            List.eraseIdx_of_length_le hge]
  rw [Action.settle, held_append, Turn.fds, List.append_assoc]
  exact (hactor.append_right _).trans List.perm_append_comm

/-- What a turn left is with the actor or with those that it made. -/
theorem Fits.mem_settle (h : Fits a holders t) {fd : Fd} (hfd : fd ∈ t.fds) :
    ∃ j holder, (a.settle holders t)[j]? = some holder ∧ fd ∈ holder.fds ∧
      (a.actor? = some j ∨ holders.length ≤ j) := by
  rcases List.mem_append.mp hfd with hmade | hholder
  · obtain ⟨holder, hholder, hfd⟩ := List.mem_flatMap.mp hmade
    obtain ⟨j, hj⟩ := List.getElem?_of_mem hholder
    refine ⟨holders.length + j, holder, ?_, hfd, Or.inr (Nat.le_add_right _ _)⟩
    cases hi : a.actor? <;> simp [Action.settle, hi, List.getElem?_append, hj]
  · obtain ⟨i, hi, hlt⟩ := h fd hholder
    refine ⟨i, t.holder, ?_, hholder, Or.inl hi⟩
    simp [Action.settle, hi, List.getElem?_append, hlt]

/-- Who does not act keeps its place, and is a bystander. -/
theorem settle_of_ne {j : Nat} {holder : Holder} (hne : a.actor? ≠ some j)
    (hj : holders[j]? = some holder) (t : Turn) :
    (a.settle holders t)[j]? = some holder ∧ holder ∈ a.bystanders holders := by
  have hlt : j < holders.length := (List.getElem?_eq_some_iff.mp hj).1
  cases hi : a.actor? with
  | none =>
      refine ⟨?_, ?_⟩
      · rw [Action.settle, hi, Option.elim_none, List.getElem?_append_left hlt, hj]
      · simpa [Action.bystanders, hi] using List.mem_of_getElem? hj
  | some i =>
      have hij : i ≠ j := fun heq => hne (heq ▸ hi)
      refine ⟨?_, ?_⟩
      · rw [Action.settle, hi, Option.elim_some, List.getElem?_append_left (by simpa using hlt),
          List.getElem?_set_ne hij, hj]
      · simpa [Action.bystanders, hi] using
          List.mem_eraseIdx_iff_getElem?.mpr ⟨j, hij.symm, hj⟩

end Holders

/-- **One action** answers for what its actor has. -/
theorem custody_turn (a : Action) (holders : List Holder) :
    (a.turn holders).Custody (fun t own => Answers t own ∧ Fits a holders t)
      (a.own holders) := by
  cases a with
  | new => exact custody_pure ⟨⟨rfl, nofun⟩, nofun⟩
  | openSocket family kind protocol =>
      refine custody_bind (custody_openSocket family kind protocol) fun r own hown => ?_
      subst hown
      cases r with
      | error cause => exact custody_pure ⟨⟨rfl, fun _ => rfl⟩, nofun⟩
      | ok fd => exact custody_pure ⟨⟨rfl, nofun⟩, nofun⟩
  | operate i o =>
      simp only [Action.turn, Action.own, Action.actor?, Option.bind_some]
      cases hi : holders[i]? with
      | none => exact custody_pure ⟨⟨rfl, fun _ => rfl⟩, nofun⟩
      | some holder =>
          have hlt : i < holders.length := (List.getElem?_eq_some_iff.mp hi).1
          exact (o.custody holder).mono fun t own hanswers =>
            ⟨hanswers, fun fd hfd => ⟨i, rfl, hlt⟩⟩

/-- **One action**: the holders that are left hold what is open, and nothing else. -/
theorem custody_program (a : Action) (holders : List Holder) :
    (a.program holders).Custody (fun r own => own.Perm (held r.2)) (held holders) := by
  refine custody_bind ((custody_turn a holders).frame (held_perm a holders)) fun t own hturn => ?_
  obtain ⟨mine, ⟨⟨rfl, -⟩, hfits⟩, hown⟩ := hturn
  exact custody_pure (hown.trans hfits.held_settle.symm)

/-- **Every sequence of actions** answers for all that is held. -/
theorem custody_play (as : List Action) {holders : List Holder} {own : List Fd}
    (hown : own.Perm (held holders)) :
    (play holders as).Custody (fun after own => own.Perm (held after)) own := by
  induction as generalizing holders own with
  | nil => exact custody_pure hown
  | cons a as ih =>
      have hall : own.Perm (held holders ++ []) := by rwa [List.append_nil]
      refine custody_bind ((custody_program a holders).frame hall) fun r own' hprogram => ?_
      obtain ⟨mine, hmine, hown'⟩ := hprogram
      rw [List.append_nil] at hown'
      exact ih (hown'.trans hmine)

/-! ## Runs -/

section Runs

variable {σ : Type} (k : Kernel σ) (s : σ)

/-- The holders after some actions, of which there were none before, and the host then. -/
def after (as : List Action) : List Holder × σ := (play [] as).run k s

/-- What was exchanged with the kernel meanwhile. -/
def log (as : List Action) : List Exchange := (play [] as).exchanges k s

/-- Whether one more action succeeds. -/
def succeeds (as : List Action) (a : Action) : Bool :=
  ((a.program (after k s as).1).run k (after k s as).2).1.1

/-- What is exchanged with the kernel for it. -/
def nextLog (as : List Action) (a : Action) : List Exchange :=
  (a.program (after k s as).1).exchanges k (after k s as).2

/-- One more action goes on where the others ended. -/
theorem play_concat (as : List Action) (a : Action) (holders : List Holder) (s : σ) :
    ((play holders (as ++ [a])).exchanges k s =
      (play holders as).exchanges k s ++
        (a.program ((play holders as).run k s).1).exchanges k ((play holders as).run k s).2) ∧
      ((play holders (as ++ [a])).run k s).1 =
        ((a.program ((play holders as).run k s).1).run k ((play holders as).run k s).2).1.2 := by
  induction as generalizing holders s with
  | nil =>
      simp only [List.nil_append, play, exchanges_bind, run_bind, run_pure]
      exact ⟨List.append_nil _, trivial⟩
  | cons b as ih =>
      simp only [List.cons_append, play, exchanges_bind, run_bind, List.append_assoc]
      exact ⟨congrArg _ (ih _ _).1, (ih _ _).2⟩

/-- The log of a longer run ends with what its last action exchanged. -/
theorem log_concat (as : List Action) (a : Action) :
    log k s (as ++ [a]) = log k s as ++ nextLog k s as a :=
  (play_concat k as a [] s).1

/-- The holders after a longer run are those that its last action leaves. -/
theorem after_concat (as : List Action) (a : Action) :
    (after k s (as ++ [a])).1 =
      ((a.program (after k s as).1).run k (after k s as).2).1.2 :=
  (play_concat k as a [] s).2

end Runs

/-- What holds after every run. -/
structure Accounted (log : List Exchange) (holders : List Holder) : Prop where
  /-- **What is open is what is held.** -/
  openHeld : (openAfter log []).Perm (held holders)
  /-- No call was made on a descriptor that was not open. -/
  proper : Proper [] log
  /-- Each number was handed out as often as it was closed, and once more if it is held. -/
  balanced : ∀ fd, (handedOut log).count fd = (closed log).count fd + (held holders).count fd

/-- What an action does, with what it exchanged. -/
structure Settled (a : Action) (before : List Holder) (log : List Exchange) (succeeded : Bool)
    (after : List Holder) : Prop where
  /-- What was handed out is **closed again, or handed over**: the actor has it, or a holder
  that was made. -/
  handedOver : ∀ fd ∈ handedOut log, fd ∈ closed log ∨
    ∃ j holder, after[j]? = some holder ∧ fd ∈ holder.fds ∧
      (a.actor? = some j ∨ before.length ≤ j)
  /-- An action that fails makes no holder. -/
  failed : succeeded = false → after.length = before.length
  /-- Who does not act keeps what it has. -/
  kept : ∀ j holder, a.actor? ≠ some j → before[j]? = some holder → after[j]? = some holder

/-- What holds besides while the kernel hands out no number that is open. -/
structure Exclusive (a : Action) (before : List Holder) (log : List Exchange)
    (after : List Holder) : Prop where
  /-- **No descriptor has two holders.** -/
  single : (held before).Nodup ∧ (held after).Nodup
  /-- No call is made on a descriptor of somebody who does not act. -/
  apart : ∀ j holder, a.actor? ≠ some j → before[j]? = some holder →
    ∀ e ∈ log, ∀ fd ∈ e.call.fds, fd ∉ holder.fds

/-- What an action exchanges is what its turn exchanges. -/
theorem exchanges_program {σ : Type} (k : Kernel σ) (a : Action) (holders : List Holder) (s : σ) :
    (a.program holders).exchanges k s = (a.turn holders).exchanges k s := by
  rw [Action.program, exchanges_bind]
  exact List.append_nil _

/-- **What is open is what is held**, after any actions under any kernel. -/
theorem accounted {σ : Type} (k : Kernel σ) (s : σ) (as : List Action) :
    Accounted (log k s as) (after k s as).1 := by
  obtain ⟨hperm, hproper⟩ := (custody_play as (List.Perm.refl _)).run k s
  exact ⟨hperm, hproper, fun fd => hperm.count_eq fd ▸ hproper.balance fd⟩

/-- What one action leaves of the holder that it is on. -/
theorem settled {σ : Type} (k : Kernel σ) (a : Action) (holders : List Holder) (s : σ) :
    Settled a holders ((a.program holders).exchanges k s) ((a.program holders).run k s).1.1
      ((a.program holders).run k s).1.2 := by
  obtain ⟨⟨⟨hown, hmade⟩, hfits⟩, hproper⟩ := (custody_turn a holders).run k s
  rw [exchanges_program]
  simp only [Action.program, run_bind, run_pure]
  refine ⟨fun fd hfd => ?_, fun hfails => ?_, fun j holder hne hj => (settle_of_ne hne hj _).1⟩
  -- What was handed out and not closed is open at the end of the turn, so the turn left it.
  · have hbalance := hproper.balance fd
    have hout := List.count_pos_iff.mpr hfd
    by_cases hclosed : fd ∈ closed ((a.turn holders).exchanges k s)
    · exact Or.inl hclosed
    · rw [List.count_eq_zero_of_not_mem hclosed, hown] at hbalance
      exact Or.inr (hfits.mem_settle (List.count_pos_iff.mp (by omega)))
  · rw [Action.settle, hmade hfails, List.append_nil]
    cases a.actor? <;> simp

/-- **No descriptor has two owners**, while the kernel opens only what is not open. -/
theorem exclusive {σ : Type} (k : Kernel σ) (a : Action) (holders : List Holder) (s : σ)
    {opened : List Fd} (hopened : opened.Perm (held holders)) (hnodup : opened.Nodup)
    (hgenuine : Genuine opened ((a.program holders).exchanges k s)) :
    Exclusive a holders ((a.program holders).exchanges k s) ((a.program holders).run k s).1.2 := by
  have hall : opened.Perm (held holders ++ []) := by rwa [List.append_nil]
  obtain ⟨⟨mine, hmine, hafter⟩, -⟩ := ((custody_program a holders).frame hall).run k s
  rw [List.append_nil] at hafter
  refine ⟨⟨hopened.nodup_iff.mp hnodup, ?_⟩, fun j holder hne hj e he fd hfd hother => ?_⟩
  · exact (hafter.trans hmine).nodup_iff.mp (hgenuine.nodup hnodup)
  · rw [exchanges_program] at he hgenuine
    have hapart := (custody_turn a holders).run_apart k s
      (hopened.trans (held_perm a holders)) hnodup hgenuine e he fd hfd
    have hbystander := (settle_of_ne hne hj (Turn.refused .gone)).2
    exact hapart (List.mem_flatMap.mpr ⟨holder, hbystander, hother⟩)

/-- **Every descriptor has one owner.**  Whatever is done to any number of handles and loose
descriptors, and whatever the kernel answers: what was handed out and not closed is what is
held, no call is made on what is not open, and what an action is handed it closes or hands
over.  While the kernel hands out no number that is open, no descriptor has two holders, and
nobody makes a call on the descriptor of another. -/
theorem descriptors_owned {σ : Type} (k : Kernel σ) (s : σ) (as : List Action) (a : Action) :
    Accounted (log k s as) (after k s as).1 ∧
      Settled a (after k s as).1 (nextLog k s as a) (succeeds k s as a)
        (after k s (as ++ [a])).1 ∧
      (Genuine [] (log k s (as ++ [a])) →
        Exclusive a (after k s as).1 (nextLog k s as a) (after k s (as ++ [a])).1) := by
  have haccounted := accounted k s as
  rw [after_concat]
  refine ⟨haccounted, settled k a _ _, fun hgenuine => ?_⟩
  rw [log_concat] at hgenuine
  obtain ⟨hbefore, hnext⟩ := genuine_append.mp hgenuine
  exact exclusive k a _ _ haccounted.openHeld (hbefore.nodup List.nodup_nil) hnext

/-- A kernel that makes a listener, a connection to a peer with an address, and one to a peer
without. -/
def listenerScript : Script :=
  { replies :=
      [ { opens := true },
        { opens := true, address := some ([2, 0, 31, 144, 127, 0, 0, 1] ++ Bytes.zeros 8, 16) },
        { opens := true } ] }

/-- A listener accepts one connection, which is given up loose. -/
def listenerActions : List Action :=
  [.new, .operate 0 (.open .ipv4 .stream .tcp), .operate 0 .accept, .operate 1 .release]

/-- The listener accepts a connection that is closed again, and nobody else is concerned. -/
theorem descriptors_owned_listener :
    Genuine [] (log Script.kernel listenerScript (listenerActions ++ [.operate 0 .accept])) ∧
      Exclusive (.operate 0 .accept) (after Script.kernel listenerScript listenerActions).1
        (nextLog Script.kernel listenerScript listenerActions (.operate 0 .accept))
        (after Script.kernel listenerScript (listenerActions ++ [.operate 0 .accept])).1 ∧
      closed (nextLog Script.kernel listenerScript listenerActions (.operate 0 .accept)) =
        [Script.descriptor 3] ∧
      held (after Script.kernel listenerScript (listenerActions ++ [.operate 0 .accept])).1 =
        [Script.descriptor 1, Script.descriptor 2] := by
  have hgenuine : Genuine []
      (log Script.kernel listenerScript (listenerActions ++ [.operate 0 .accept])) := by
    decide
  exact ⟨hgenuine, (descriptors_owned Script.kernel listenerScript listenerActions _).2.2 hgenuine,
    by decide, by decide⟩

end Ownership

end ReceiveReactor
