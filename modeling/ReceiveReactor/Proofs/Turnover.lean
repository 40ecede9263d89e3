import ReceiveReactor.Proofs.Naming

/-!
# What one operation does to a descriptor and its address

A handle has at most one descriptor, and remembers at most one address.  Of all that can be
done to it, closing and the end of a stream give up the descriptor alone, a reset gives up
both, a bind records an address, and opening takes a descriptor **next to the address that
is remembered**.  A set-up binds what it opens, or leaves nothing behind.

* `Exchange.opens`, `Exchange.binds` — the two kinds of exchanges that matter for that;
* `Ownership.Turnover` — what an operation can do to both, **four ways in all**;
* `Ownership.turnover_open` and its like — one operation of a handle;
* `Ownership.Operation.turnover` — that every operation goes one of these ways.
-/

namespace ReceiveReactor

open Program

/-! ## Sockets that are opened, and bound -/

/-- Whether a call neither opens a socket nor binds one. -/
def Call.plain : Call → Bool
  | socket .. | bind .. => false
  | _ => true

namespace Exchange

/-- Whether a socket was opened. -/
def opens : Exchange → Bool
  | ⟨.socket .., .ok _⟩ => true
  | _ => false

/-- Whether a socket was bound. -/
def binds : Exchange → Bool
  | ⟨.bind .., .ok _⟩ => true
  | _ => false

/-- Neither was. -/
def Still (e : Exchange) : Prop := e.opens = false ∧ e.binds = false

/-- A plain call opens nothing and binds nothing. -/
theorem still_of_plain {e : Exchange} (h : e.call.plain = true) : e.Still := by
  obtain ⟨c, r⟩ := e
  cases c <;> first | exact ⟨rfl, rfl⟩ | cases h

/-- Nor does one that tunes. -/
theorem still_of_tunes {e : Exchange} {fd : Fd} (h : e.call.tunes fd = true) : e.Still := by
  obtain ⟨c, r⟩ := e
  cases c <;> first | exact ⟨rfl, rfl⟩ | cases h

/-- Only a call of bind binds. -/
theorem binds_of_call {e : Exchange} (h : ∀ fd address, e.call ≠ .bind fd address) :
    e.binds = false := by
  obtain ⟨c, r⟩ := e
  cases c <;> first | rfl | exact absurd rfl (h _ _)

end Exchange

/-- A program of plain calls neither opens a socket nor binds one. -/
theorem ends_still {α : Type} {p : Program α} (hp : p.Only fun c => c.plain = true) :
    p.Ends fun _ log => ∀ e ∈ log, e.Still :=
  hp.ends.mono fun _ _ hplain e he => Exchange.still_of_plain (hplain e he)

/-- Accepting makes plain calls only. -/
theorem plain_acceptFrom (fd : Fd) : (acceptFrom fd).Only fun c => c.plain = true := by
  refine only_bind (only_ask rfl) fun r => ?_
  cases r with
  | error errno => exact only_pure _
  | ok accepted =>
      dsimp only
      split
      · exact only_pure _
      · exact only_bind (only_ask rfl) fun _ => only_pure _

/-- A bind that fails has bound nothing. -/
theorem BindAttempt.binds_of_error {fd : Fd} {ip : String} {port : UInt16} {cause : SocketError}
    {log : List Exchange} (h : BindAttempt fd ip port (.error cause) log) :
    ∀ e ∈ log, e.binds = false := by
  cases h with
  | unread => exact List.forall_mem_nil _
  | refused => exact List.forall_mem_singleton.mpr rfl

/-! ## What one operation does -/

namespace Ownership

/-- The address that a holder remembers. -/
def Holder.address? : Holder → Option Address
  | handle h => h.address
  | loose _ | gone => none

/-- Whether an operation opens a socket and does no more. -/
def Operation.isOpen : Operation → Bool
  | .open .. => true
  | _ => false

/-- What an operation does to the descriptor and the address of a holder. -/
inductive Turnover (o : Operation) (before : Holder) : Turn → List Exchange → Prop where
  /-- No bind succeeds.  What is held then was held before, and no address is new. -/
  | quiet {t : Turn} {log : List Exchange} (hopen : o.isOpen = false ∨ t.succeeded = false)
      (hbinds : ∀ e ∈ log, e.binds = false)
      (hfds : ∀ fd ∈ t.holder.fds, fd ∈ before.fds ∧ ∀ e ∈ log, e.opens = false)
      (haddress : t.holder.address? = none ∨ t.holder.address? = before.address?) :
      Turnover o before t log
  /-- A socket is opened, **next to the address that is remembered**. -/
  | opened {t : Turn} {fd : Fd} {opening : Exchange} {tuning : List Exchange}
      (hopen : o.isOpen = true) (hsucceeded : t.succeeded = true) (hfds : t.holder.fds = [fd])
      (haddress : t.holder.address? = before.address?) (hopening : opening.opens = true)
      (hbinds : opening.binds = false) (htuning : ∀ e ∈ tuning, e.Still) :
      Turnover o before t (opening :: tuning)
  /-- The socket that is held is bound. -/
  | bound {t : Turn} {fd : Fd} {wanted : Address} {named : Except Errno StoredAddress}
      (hopen : o.isOpen = false) (hbefore : before.fds = [fd]) (hfds : t.holder.fds = [fd])
      (haddress : t.holder.address? = some (recorded wanted named)) :
      Turnover o before t [⟨.bind fd wanted.toRaw, .ok ()⟩, ⟨.getsockname fd, named⟩]
  /-- A socket is opened, and bound. -/
  | setUp {t : Turn} {fd : Fd} {opening : Exchange} {tuning back : List Exchange}
      {wanted : Address} {named : Except Errno StoredAddress} (hopen : o.isOpen = false)
      (hfds : t.holder.fds = [fd])
      (haddress : t.holder.address? = some (recorded wanted named))
      (hopening : opening.opens = true) (htuning : ∀ e ∈ tuning, e.Still)
      (hback : ∀ e ∈ back, e.Still) :
      Turnover o before t (opening :: tuning ++
        ⟨.bind fd wanted.toRaw, .ok ()⟩ :: ⟨.getsockname fd, named⟩ :: back)

section Turns

variable {o : Operation} {before : Holder} {t : Turn} {log : List Exchange}

/-- Where nothing is opened or bound, all is as it was, or gone. -/
theorem Turnover.of_still (hopen : o.isOpen = false ∨ t.succeeded = false)
    (hstill : ∀ e ∈ log, e.Still) (hfds : ∀ fd ∈ t.holder.fds, fd ∈ before.fds)
    (haddress : t.holder.address? = none ∨ t.holder.address? = before.address?) :
    Turnover o before t log :=
  .quiet hopen (fun e he => (hstill e he).2)
    (fun fd hfd => ⟨hfds fd hfd, fun e he => (hstill e he).1⟩) haddress

/-- Nothing is held then, whatever was opened in between. -/
theorem Turnover.of_emptied (hopen : o.isOpen = false ∨ t.succeeded = false)
    (hbinds : ∀ e ∈ log, e.binds = false) (hfds : t.holder.fds = [])
    (haddress : t.holder.address? = none ∨ t.holder.address? = before.address?) :
    Turnover o before t log := by
  refine .quiet hopen hbinds (fun fd hfd => ?_) haddress
  rw [hfds] at hfd
  cases hfd

/-- What is refused changes nothing. -/
theorem Turnover.refused (hfailed : t.succeeded = false) (ht : t.holder = before) :
    Turnover o before t [] :=
  .of_still (Or.inr hfailed) (List.forall_mem_nil _) (fun _ hfd => ht ▸ hfd)
    (Or.inr (by rw [ht]))

/-- A program of plain calls that leaves its holder as it was. -/
theorem turnover_unchanged {α : Type} {p : Program α} (hp : p.Only fun c => c.plain = true)
    {f : α → Program Turn} (hopen : o.isOpen = false)
    (hf : ∀ a, ∃ t : Turn, f a = pure t ∧ t.holder = before) :
    (p >>= f).Ends (Turnover o before) := by
  refine Program.ends_bind (ends_still hp) fun a log hstill => ?_
  obtain ⟨t, ht, rfl⟩ := hf a
  rw [ht]
  exact ends_done (.of_still (Or.inl hopen) hstill (fun _ hfd => hfd) (Or.inr rfl))

/-- What is done to a handle is done to its holder. -/
theorem turnover_ofHandle {ε α : Type} {p : Program (Except ε α × Handle)}
    (hp : p.Ends fun r log => Turnover o before (.ofHandle r) log) :
    (do return Turn.ofHandle (← p)).Ends (Turnover o before) :=
  Program.ends_bind hp fun _ _ hturnover => ends_done hturnover

/-- A socket that was opened and bound as a set-up asks for, and what is done with it next. -/
theorem Turnover.of_bound {kind : SocketKind} {protocol : Protocol} {ip : String} {port : UInt16}
    {fd : Fd} {address : Address} {back : List Exchange} (hopen : o.isOpen = false)
    (ht : t.holder = .handle ⟨some fd, some address⟩)
    (hbound : Bound kind protocol ip port fd address log) (hback : ∀ e ∈ back, e.Still) :
    Turnover o before t (log ++ back) := by
  cases hbound with
  | @mk tuning wanted named htuning hwanted =>
      have htuned : ∀ e ∈ tuning, e.Still := fun e he => e.still_of_tunes (htuning e he)
      rw [List.append_assoc]
      exact .setUp hopen (by rw [ht]; rfl) (by rw [ht]; rfl) rfl htuned hback

/-- Accepting leaves the listener as it was. -/
theorem turnover_acceptOn (fd : Fd) (hopen : o.isOpen = false) :
    (acceptOn before fd).Ends (Turnover o before) := by
  refine turnover_unchanged (plain_acceptFrom fd) hopen fun r => ?_
  cases r <;> exact ⟨_, rfl, rfl⟩

end Turns

section Handles

variable (h : Handle)

/-- Opening makes no call to bind. -/
theorem bindless_open (family : AddressFamily) (kind : SocketKind) (protocol : Protocol) :
    (h.open family kind protocol).Ends fun _ log => ∀ e ∈ log, e.binds = false := by
  have honly : (h.open family kind protocol).Only fun c => ∀ fd address, c ≠ .bind fd address := by
    refine h.only_open (fun _ _ _ _ _ => nofun) (fun fd c htunes other address heq => ?_)
      (fun _ _ _ => nofun) _ _ _
    subst heq
    cases htunes
  exact honly.ends.mono fun _ _ hlog e he => e.binds_of_call (hlog e he)

/-- **Opening keeps the address that is remembered**, also that of another socket. -/
theorem turnover_open (family : AddressFamily) (kind : SocketKind) (protocol : Protocol) :
    (h.open family kind protocol).Ends fun r log =>
      Turnover (.open family kind protocol) (.handle h) (.ofHandle r) log := by
  cases hfd : h.fd with
  | some fd =>
      rw [Handle.open_of_some hfd]
      exact ends_pure (.refused rfl rfl)
  | none =>
      refine ((Handle.ends_open hfd family kind protocol).and
        (bindless_open h family kind protocol)).mono fun r log hopened => ?_
      obtain ⟨⟨cause, rfl⟩ | ⟨fd, tuning, rfl, rfl, htuning⟩, hbindless⟩ := hopened
      · exact .of_emptied (Or.inr rfl) hbindless (Handle.fds_of_none hfd) (Or.inr rfl)
      · exact .opened rfl rfl rfl rfl rfl rfl fun e he => e.still_of_tunes (htuning e he)

/-- **Binding** remembers the address that the kernel names, or changes nothing. -/
theorem turnover_bind (ip : String) (port : UInt16) :
    (h.bind ip port).Ends fun r log =>
      Turnover (.bind ip port) (.handle h) (.ofHandle r) log := by
  cases hfd : h.fd with
  | none =>
      rw [Handle.bind, hfd]
      exact ends_pure (.refused rfl rfl)
  | some fd =>
      refine (Handle.ends_bind hfd ip port).mono fun r log hbind => ?_
      obtain ⟨result, after⟩ := r
      obtain ⟨hattempt, hafter⟩ := hbind
      rw [show after = _ from hafter]
      cases hattempt with
      | unread hcause => exact .refused rfl rfl
      | refused hwanted errno =>
          exact .quiet (Or.inl rfl) (List.forall_mem_singleton.mpr rfl)
            (fun _ hmem => ⟨hmem, List.forall_mem_singleton.mpr rfl⟩) (Or.inr rfl)
      | bound hwanted named =>
          exact .bound rfl (Handle.fds_of_some hfd) (Handle.fds_of_some hfd) rfl

/-- A handle that is emptied first. -/
theorem turnover_emptied {o : Operation} {before : Holder} {p : Program Handle}
    {post : Handle → Prop} {t : Handle → Turn}
    (hp : p.Ends fun after log => post after ∧ ∀ e ∈ log, e.Still)
    (hopen : o.isOpen = false) (hfds : ∀ after, post after → (t after).holder.fds = [])
    (haddress : ∀ after, post after → (t after).holder.address? = none ∨
      (t after).holder.address? = before.address?) :
    (p >>= fun after => return t after).Ends (Turnover o before) := by
  refine Program.ends_bind hp fun after log hafter => ends_done ?_
  exact .of_emptied (Or.inl hopen) (fun e he => (hafter.2 e he).2) (hfds after hafter.1)
    (haddress after hafter.1)

/-- A read at the end of a stream closes, and remembers the address all the same. -/
theorem turnover_read (size : Nat) :
    (h.read size).Ends fun r log => Turnover (.read size) (.handle h) (.ofHandle r) log := by
  cases hfd : h.fd with
  | none =>
      rw [Handle.read, hfd]
      exact ends_pure (.refused rfl rfl)
  | some fd =>
      rw [Handle.read, hfd]
      refine Program.ends_bind (ends_still (only_readStream fd size rfl)) fun r front hread => ?_
      cases r with
      | error cause =>
          exact ends_done (.of_still (Or.inl rfl) hread (fun _ hmem => hmem) (Or.inr rfl))
      | ok received =>
          obtain ⟨count, stored⟩ := received
          cases count with
          | zero =>
              refine Program.ends_bind (h.ends_close.and (ends_still (h.only_close fun _ => rfl)))
                fun after back hclose => ends_pure ?_
              obtain ⟨rfl, hclosing⟩ := hclose
              rw [List.append_nil]
              refine .of_emptied (Or.inl rfl) (fun e he => ?_) rfl (Or.inr rfl)
              rcases List.mem_append.mp he with hfront | hback
              · exact (hread e hfront).2
              · exact (hclosing e hback).2
          | succ count =>
              exact ends_done (.of_still (Or.inl rfl) hread (fun _ hmem => hmem) (Or.inr rfl))

/-- What opening and binding comes to: a failure that leaves no socket behind that was not
there, or a socket that is bound. -/
theorem turnover_openBound (o : Operation) (kind : SocketKind) (protocol : Protocol) (ip : String)
    (port : UInt16) :
    (h.openBound kind protocol ip port).Ends fun r log =>
      (∃ cause, r.1 = .error cause ∧ Turnover o (.handle h) (.ofHandle r) log) ∨
        ∃ fd address, r = (.ok (), ⟨some fd, some address⟩) ∧
          Bound kind protocol ip port fd address log := by
  cases hfd : h.fd with
  | some fd =>
      rw [Handle.openBound, Handle.open_of_some hfd]
      exact ends_pure (Or.inl ⟨_, rfl, .refused rfl rfl⟩)
  | none =>
      refine Program.ends_bind ((Handle.ends_open hfd .ipv4 kind protocol).and
        (bindless_open h .ipv4 kind protocol)) fun opened front hopened => ?_
      obtain ⟨⟨cause, rfl⟩ | ⟨fd, tuning, rfl, rfl, htuning⟩, hbindless⟩ := hopened
      · refine ends_pure (Or.inl ⟨cause, rfl, ?_⟩)
        rw [List.append_nil]
        exact .of_emptied (Or.inr rfl) hbindless (Handle.fds_of_none hfd) (Or.inr rfl)
      · refine Program.ends_bind (Handle.ends_bind rfl ip port) fun bound middle hbound => ?_
        obtain ⟨result, bound⟩ := bound
        obtain ⟨hattempt, hafter⟩ := hbound
        cases result with
        | error cause =>
            -- The socket that was opened is closed again, and nothing was bound.
            have hattempted := BindAttempt.binds_of_error hattempt
            refine Program.ends_bind
              ((Handle.ends_reset _).and (ends_still (Handle.only_reset (fun _ => rfl) _)))
              fun after back hreset => ends_pure (Or.inl ⟨cause, rfl, ?_⟩)
            obtain ⟨rfl, hresetting⟩ := hreset
            rw [List.append_nil]
            refine .of_emptied (Or.inr rfl) (fun e he => ?_) rfl (Or.inl rfl)
            rcases List.mem_append.mp he with hfront | he
            · exact hbindless e hfront
            · rcases List.mem_append.mp he with hmiddle | hback
              · exact hattempted e hmiddle
              · exact (hresetting e hback).2
        | ok a =>
            cases hattempt with
            | bound hwanted named =>
                refine ends_pure (Or.inr ⟨fd, _, by rw [show bound = _ from hafter]; rfl, ?_⟩)
                rw [List.append_nil]
                exact .mk htuning hwanted

/-- Opening and binding at once remembers the new address, or leaves an empty handle. -/
theorem turnover_init {o : Operation} (hopen : o.isOpen = false) (kind : SocketKind)
    (protocol : Protocol) (ip : String) (port : UInt16) :
    (h.openBound kind protocol ip port).Ends fun r log =>
      Turnover o (.handle h) (.ofHandle r) log := by
  refine (turnover_openBound h o kind protocol ip port).mono fun r log hbound => ?_
  rcases hbound with ⟨cause, -, hturnover⟩ | ⟨fd, address, rfl, hbound⟩
  · exact hturnover
  · rw [← List.append_nil log]
    exact .of_bound hopen rfl hbound (List.forall_mem_nil _)

/-- So does a server's set-up, which may end with a socket that does not listen. -/
theorem turnover_serve {o : Operation} (hopen : o.isOpen = false) (kind : SocketKind)
    (protocol : Protocol) (ip : String) (port : UInt16) (backlog : Int32) :
    (h.serve kind protocol ip port backlog).Ends fun r log =>
      Turnover o (.handle h) (.ofHandle r) log := by
  refine Program.ends_bind (turnover_openBound h o kind protocol ip port)
    fun bound front hbound => ?_
  rcases hbound with ⟨cause, hcause, hturnover⟩ | ⟨fd, address, rfl, hbound⟩
  · obtain ⟨result, after⟩ := bound
    obtain rfl : result = .error cause := hcause
    exact ends_done hturnover
  · refine Program.ends_bind (ends_still (only_listenOn fd backlog rfl))
      fun listened back hback => ?_
    refine ends_pure ?_
    rw [List.append_nil]
    exact .of_bound hopen rfl hbound hback

end Handles

namespace Operation

/-- **Every operation on a handle** is one of the ways of a `Turnover`. -/
theorem turnover_onHandle (o : Operation) (h : Handle) :
    (o.onHandle h).Ends (Turnover o (.handle h)) := by
  cases o with
  | «open» family kind protocol => exact turnover_ofHandle (turnover_open h family kind protocol)
  | bind ip port => exact turnover_ofHandle (turnover_bind h ip port)
  | connect ip port =>
      refine turnover_unchanged ?_ rfl fun _ => ⟨_, rfl, rfl⟩
      unfold Handle.connect
      split
      · exact only_pure _
      · exact only_connectTo _ (fun _ => rfl) ip port
  | listen backlog =>
      refine turnover_unchanged ?_ rfl fun _ => ⟨_, rfl, rfl⟩
      unfold Handle.listen
      split
      · exact only_pure _
      · exact only_listenOn _ backlog rfl
  | accept =>
      refine turnover_unchanged ?_ rfl fun r => ?_
      · unfold Handle.accept
        split
        · exact only_pure _
        · refine only_bind (plain_acceptFrom _) fun r => ?_
          cases r <;> exact only_pure _
      · cases r <;> exact ⟨_, rfl, rfl⟩
  | acceptLoose =>
      simp only [onHandle]
      split
      · exact turnover_acceptOn _ rfl
      · exact ends_pure (.refused rfl rfl)
  | read size => exact turnover_ofHandle (turnover_read h size)
  | initSctp kind ip port => exact turnover_ofHandle (turnover_init h rfl kind .sctp ip port)
  | initSctpClient kind ip => exact turnover_ofHandle (turnover_init h rfl kind .sctp ip 0)
  | serveSctp kind ip port => exact turnover_ofHandle (turnover_serve h rfl kind .sctp ip port _)
  | serveTcp ip port backlog => exact turnover_ofHandle (turnover_serve h rfl .stream .tcp ip port backlog)
  | close =>
      exact turnover_emptied (h.ends_close.and (ends_still (h.only_close fun _ => rfl))) rfl
        (fun _ hclosed => hclosed ▸ rfl) fun _ hclosed => Or.inr (hclosed ▸ rfl)
  | reset =>
      exact turnover_emptied (h.ends_reset.and (ends_still (h.only_reset fun _ => rfl))) rfl
        (fun _ hreset => hreset ▸ rfl) fun _ hreset => Or.inl (hreset ▸ rfl)
  | release =>
      refine ends_pure
        (.of_still (Or.inl rfl) (List.forall_mem_nil _) (fun fd hmem => ?_) (Or.inl ?_))
      · cases hfd : h.fd <;> simp_all [Handle.release, Holder.ofFd?, Holder.fds, Handle.fds]
      · cases hfd : h.fd <;> simp [Handle.release, Holder.ofFd?, Holder.address?, hfd]
  | adopt => exact ends_pure (.refused rfl rfl)
  | drop =>
      exact turnover_emptied (h.ends_close.and (ends_still (h.only_close fun _ => rfl))) rfl
        (fun _ _ => rfl) fun _ _ => Or.inl rfl

/-- So is every operation on a loose descriptor. -/
theorem turnover_onLoose (o : Operation) (fd : Fd) : (o.onLoose fd).Ends (Turnover o (.loose fd)) := by
  cases o with
  | acceptLoose => exact turnover_acceptOn fd rfl
  | adopt =>
      exact ends_pure
        (.of_still (Or.inl rfl) (List.forall_mem_nil _) (fun _ hmem => hmem) (Or.inl rfl))
  | drop =>
      refine Program.ends_bind (ends_ask _) fun _ log hlog => ends_pure ?_
      subst hlog
      exact .of_emptied (Or.inl rfl) (List.forall_mem_singleton.mpr rfl) rfl (Or.inl rfl)
  | _ => exact ends_pure (.refused rfl rfl)

/-- **Every operation goes one of the four ways.** -/
theorem turnover (o : Operation) (holder : Holder) :
    (o.turn holder).Ends (Turnover o holder) := by
  cases holder with
  | handle h => exact o.turnover_onHandle h
  | loose fd => exact o.turnover_onLoose fd
  | gone => exact ends_pure (.refused rfl rfl)

end Operation

end Ownership

end ReceiveReactor
