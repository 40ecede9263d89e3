import ReceiveReactor.Kernel.Script
import ReceiveReactor.Proofs.Ownership

/-!
# Setting up: all of it or nothing, but for a failed listen

A set-up opens a socket, binds it and, for a server, makes it passive.  It either does all
of that or leaves an empty handle behind, **unless the last step fails**: then the handle
keeps a socket that is bound and does not listen, and nothing can be set up in it again.

* `Bound`, `Handle.Binding` — what opening and binding comes to;
* `SetUp.Outcome`, `SetUp.ends_run` — what each set-up comes to, **four ways in all**;
* `SetUp.AllOrNothing`, `SetUp.Stranded` — all or nothing, and what is neither;
* `SetUp.all_or_nothing_iff` — **which of the two**, for every set-up, handle and kernel.
-/

namespace ReceiveReactor

open Program

/-! ## Opening and binding -/

/-- Whether an exchange is a listen that the kernel refused. -/
def Exchange.refusesListen : Exchange → Bool
  | ⟨.listen .., .error _⟩ => true
  | _ => false

/-- Whether a call is a listen. -/
def Call.isListen : Call → Bool
  | listen .. => true
  | _ => false

/-- Only a call of listen can be refused listening. -/
theorem Exchange.refusesListen_of_call {e : Exchange} (h : e.call.isListen = false) :
    e.refusesListen = false := by
  obtain ⟨c, r⟩ := e
  cases c <;> first | rfl | cases h

/-- A call that tunes is none of listen. -/
theorem Call.isListen_of_tunes {c : Call} {fd : Fd} (h : c.tunes fd = true) :
    c.isListen = false := by
  cases c <;> first | rfl | cases h

/-- Nor is one that names. -/
theorem Call.isListen_of_names {c : Call} {fd : Fd} (h : c.names fd = true) :
    c.isListen = false := by
  cases c <;> first | rfl | cases h

/-- The address that is recorded after a bind to `wanted`, when `named` is the answer about
the address that the socket got. -/
def recorded (wanted : Address) : Except Errno StoredAddress → Address
  | .ok stored => stored.address?.getD wanted
  | .error _ => wanted

/-- A socket that was opened, tuned and bound: with its descriptor, the address recorded for
it, and all that was exchanged. -/
inductive Bound (kind : SocketKind) (protocol : Protocol) (ip : String) (port : UInt16) :
    Fd → Address → List Exchange → Prop where
  | mk {fd : Fd} {tuning : List Exchange} {wanted : Address} {named : Except Errno StoredAddress}
      (htuning : ∀ e ∈ tuning, e.call.tunes fd = true)
      (hwanted : Address.parse ip port = .ok wanted) :
      Bound kind protocol ip port fd (recorded wanted named)
        (⟨.socket AddressFamily.ipv4.number (kind.number ||| 0x80000) protocol.number, .ok fd⟩
          :: tuning ++ [⟨.bind fd wanted.toRaw, .ok ()⟩, ⟨.getsockname fd, named⟩])

/-- Asking for the local address is one call; what it names is recorded, else what was asked
for. -/
theorem ends_boundAddress (fd : Fd) :
    (boundAddress fd).Ends fun r log => ∃ named, log = [⟨.getsockname fd, named⟩] ∧
      ∀ wanted, recorded wanted named = r.toOption.getD wanted := by
  refine ends_bind (ends_ask _) fun named front hfront => ?_
  subst hfront
  cases named with
  | error errno => exact ends_pure ⟨_, rfl, fun _ => rfl⟩
  | ok stored =>
      dsimp only
      split
      · next a ha => exact ends_pure ⟨_, rfl, fun _ => by rw [recorded, ha]; rfl⟩
      · next ha => exact ends_pure ⟨_, rfl, fun _ => by rw [recorded, ha]; rfl⟩

/-- What an attempt to bind a descriptor comes to: its result, and what was exchanged. -/
inductive BindAttempt (fd : Fd) (ip : String) (port : UInt16) :
    Except SocketError Address → List Exchange → Prop where
  /-- The text is no address. -/
  | unread {cause : SocketError} (hcause : Address.parse ip port = .error cause) :
      BindAttempt fd ip port (.error cause) []
  | refused {wanted : Address} (hwanted : Address.parse ip port = .ok wanted) (errno : Errno) :
      BindAttempt fd ip port (.error (.bind errno wanted.display))
        [⟨.bind fd wanted.toRaw, .error errno⟩]
  | bound {wanted : Address} (hwanted : Address.parse ip port = .ok wanted)
      (named : Except Errno StoredAddress) :
      BindAttempt fd ip port (.ok (recorded wanted named))
        [⟨.bind fd wanted.toRaw, .ok ()⟩, ⟨.getsockname fd, named⟩]

/-- **Binding** ends as one of the ways of a `BindAttempt`. -/
theorem ends_bindAddress (fd : Fd) (ip : String) (port : UInt16) :
    (bindAddress fd ip port).Ends (BindAttempt fd ip port) := by
  unfold bindAddress
  split
  · next cause hcause => exact ends_pure (.unread hcause)
  · next wanted hwanted =>
      refine ends_bind (ends_ask _) fun bound front hfront => ?_
      subst hfront
      cases bound with
      | error errno => exact ends_pure (.refused hwanted errno)
      | ok _ =>
          refine ends_bind (ends_boundAddress fd) fun r log hbound => ?_
          obtain ⟨named, rfl, hrecorded⟩ := hbound
          have hanswer := hrecorded wanted
          have hattempt : BindAttempt fd ip port (.ok (recorded wanted named)) _ :=
            .bound hwanted named
          rw [hanswer] at hattempt
          cases r <;> exact ends_pure hattempt

/-- Listening succeeds with its call, or fails with the errno and the backlog. -/
theorem ends_listenOn (fd : Fd) (backlog : Int32) :
    (listenOn fd backlog).Ends fun r log =>
      (r = .ok () ∧ log = [⟨.listen fd backlog, .ok ()⟩]) ∨
        ∃ errno, r = .error (.listen errno backlog) ∧
          log = [⟨.listen fd backlog, .error errno⟩] := by
  refine ends_bind (ends_ask _) fun r front hfront => ?_
  subst hfront
  cases r with
  | error errno => exact ends_pure (Or.inr ⟨errno, rfl, rfl⟩)
  | ok _ => exact ends_pure (Or.inl ⟨rfl, rfl⟩)

/-- A socket that opens was created first, and was only tuned after that. -/
theorem ends_openSocket (family : AddressFamily) (kind : SocketKind) (protocol : Protocol) :
    (openSocket family kind protocol).Ends fun r log => ∀ fd, r = .ok fd → ∃ tuning,
      log = ⟨.socket family.number (kind.number ||| 0x80000) protocol.number, .ok fd⟩ :: tuning ∧
        ∀ e ∈ tuning, e.call.tunes fd = true := by
  refine ends_bind (ends_ask _) fun opened front hfront => ?_
  subst hfront
  cases opened with
  | error errno => exact ends_pure nofun
  | ok fd =>
      show Program.Ends (if protocol = .sctp then _ else _) _
      split
      · refine ends_bind (only_tunes_prepare fd).ends fun prepared tuning htuning => ?_
        cases prepared with
        | ok _ =>
            refine ends_pure fun fd' hfd => ?_
            obtain rfl := Except.ok.inj hfd
            exact ⟨tuning, by simp, htuning⟩
        | error cause => exact ends_bind (ends_ask _) fun _ _ _ => ends_pure nofun
      · refine ends_pure fun fd' hfd => ?_
        obtain rfl := Except.ok.inj hfd
        exact ⟨[], rfl, nofun⟩

/-- What all calls are that open a socket, tune it, or close it again. -/
theorem only_openSocket {A : Call → Prop} (hsocket : ∀ family kind protocol,
    A (.socket family kind protocol)) (htunes : ∀ fd c, c.tunes fd = true → A c)
    (hclose : ∀ fd, A (.close fd)) (family : AddressFamily) (kind : SocketKind)
    (protocol : Protocol) : (openSocket family kind protocol).Only A := by
  refine only_bind (only_ask (hsocket _ _ _)) fun opened => ?_
  cases opened with
  | error errno => exact only_pure _
  | ok fd =>
      show Program.Only _ (if protocol = .sctp then _ else _)
      split
      · refine only_bind ((only_tunes_prepare fd).mono (htunes fd)) fun prepared => ?_
        cases prepared with
        | ok _ => exact only_pure _
        | error cause => exact only_bind (only_ask (hclose fd)) fun _ => only_pure _
      · exact only_pure _

namespace Handle

/-- What opening a socket into a handle and binding it comes to. -/
inductive Binding (h : Handle) (kind : SocketKind) (protocol : Protocol) (ip : String)
    (port : UInt16) : Except SocketError Unit × Handle → List Exchange → Prop where
  /-- The handle has a descriptor already. -/
  | refused (hopen : h.fd ≠ none) : Binding h kind protocol ip port (.error .alreadyOpen, h) []
  /-- Some step fails, and the handle is as before, or empty. -/
  | failed (hempty : h.fd = none) (cause : SocketError) (log : List Exchange) {after : Handle}
      (hafter : after = h ∨ after = empty) :
      Binding h kind protocol ip port (.error cause, after) log
  | bound (hempty : h.fd = none) {fd : Fd} {address : Address} {log : List Exchange}
      (hbound : Bound kind protocol ip port fd address log) :
      Binding h kind protocol ip port (.ok (), ⟨some fd, some address⟩) log

/-- Opening what is open is refused before any call. -/
theorem open_of_some {h : Handle} {fd : Fd} (hfd : h.fd = some fd) (family : AddressFamily)
    (kind : SocketKind) (protocol : Protocol) :
    h.open family kind protocol = pure (.error .alreadyOpen, h) := by
  rw [Handle.open, hfd]

/-- **Opening** fails and leaves the handle alone, or fills in a descriptor after tuning it. -/
theorem ends_open {h : Handle} (hempty : h.fd = none) (family : AddressFamily)
    (kind : SocketKind) (protocol : Protocol) :
    (h.open family kind protocol).Ends fun r log => (∃ cause, r = (.error cause, h)) ∨
      ∃ fd tuning, r = (.ok (), { h with fd := some fd }) ∧
        log = ⟨.socket family.number (kind.number ||| 0x80000) protocol.number, .ok fd⟩ :: tuning ∧
        ∀ e ∈ tuning, e.call.tunes fd = true := by
  rw [Handle.open, hempty]
  refine ends_bind (ends_openSocket family kind protocol) fun r log hopened => ?_
  cases r with
  | error cause => exact ends_pure (Or.inl ⟨cause, rfl⟩)
  | ok fd =>
      obtain ⟨tuning, rfl, htuning⟩ := hopened fd rfl
      exact ends_pure (Or.inr ⟨fd, tuning, rfl, List.append_nil _, htuning⟩)

/-- Binding an open handle is an attempt, and a success records the address. -/
theorem ends_bind {h : Handle} {fd : Fd} (hfd : h.fd = some fd) (ip : String) (port : UInt16) :
    (h.bind ip port).Ends fun r log => BindAttempt fd ip port r.1 log ∧
      r.2 = r.1.toOption.elim h fun a => { h with address := some a } := by
  rw [Handle.bind, hfd]
  refine Program.ends_bind (ends_bindAddress fd ip port) fun r log hattempt => ?_
  cases r <;> exact ends_pure ⟨by rwa [List.append_nil], rfl⟩

/-- Closing empties the descriptor and keeps the rest of the handle. -/
theorem ends_close (h : Handle) : h.close.Ends fun after _ => after = { h with fd := none } := by
  cases hfd : h.fd with
  | none =>
      rw [close, hfd]
      refine ends_pure ?_
      rw [← hfd]
  | some fd =>
      rw [close, hfd]
      exact Program.ends_bind (ends_ask _) fun _ _ _ => ends_pure rfl

/-- Resetting leaves an empty handle. -/
theorem ends_reset (h : Handle) : h.reset.Ends fun after _ => after = empty :=
  Program.ends_bind h.ends_close fun _ _ hclosed => ends_pure (hclosed ▸ rfl)

/-- **Opening and binding at once** ends as one of the ways of a `Binding`. -/
theorem ends_openBound (h : Handle) (kind : SocketKind) (protocol : Protocol) (ip : String)
    (port : UInt16) :
    (h.openBound kind protocol ip port).Ends (h.Binding kind protocol ip port) := by
  cases hfd : h.fd with
  | some fd =>
      rw [openBound, open_of_some hfd]
      exact ends_pure (.refused (by simp [hfd]))
  | none =>
      refine Program.ends_bind (ends_open hfd _ _ _) fun opened front hopened => ?_
      rcases hopened with ⟨cause, rfl⟩ | ⟨fd, tuning, rfl, rfl, htuning⟩
      · exact ends_pure (.failed hfd cause _ (Or.inl rfl))
      · refine Program.ends_bind (ends_bind rfl ip port) fun bound back hbound => ?_
        obtain ⟨result, bound⟩ := bound
        obtain ⟨hattempt, hafter⟩ := hbound
        cases hattempt with
        | bound hwanted named =>
            refine ends_pure ?_
            rw [show bound = _ from hafter, List.append_nil]
            exact .bound hfd (.mk htuning hwanted)
        | unread | refused =>
            refine Program.ends_bind (ends_reset _) fun after log hreset => ends_pure ?_
            exact .failed hfd _ _ (Or.inr hreset)

/-- Opening makes the call that creates, calls that tune, and a close. -/
theorem only_open {A : Call → Prop} (hsocket : ∀ family kind protocol,
    A (.socket family kind protocol)) (htunes : ∀ fd c, c.tunes fd = true → A c)
    (hclose : ∀ fd, A (.close fd)) (h : Handle) (family : AddressFamily) (kind : SocketKind)
    (protocol : Protocol) : (h.open family kind protocol).Only A := by
  unfold Handle.open
  split
  · exact only_pure _
  · refine only_bind (only_openSocket hsocket htunes hclose family kind protocol) fun opened => ?_
    cases opened <;> exact only_pure _

/-- Closing makes no call but a close. -/
theorem only_close {A : Call → Prop} (hclose : ∀ fd, A (.close fd)) (h : Handle) :
    h.close.Only A := by
  unfold close
  split
  · exact only_pure _
  · exact only_bind (only_ask (hclose _)) fun _ => only_pure _

/-- Nor does resetting. -/
theorem only_reset {A : Call → Prop} (hclose : ∀ fd, A (.close fd)) (h : Handle) :
    h.reset.Only A :=
  only_bind (h.only_close hclose) fun _ => only_pure _

/-! No listen is among the calls of opening and binding. -/

/-- No opening listens. -/
theorem listenless_open (h : Handle) (family : AddressFamily) (kind : SocketKind)
    (protocol : Protocol) :
    (h.open family kind protocol).Only fun c => c.isListen = false :=
  h.only_open (fun _ _ _ => rfl) (fun _ _ => Call.isListen_of_tunes) (fun _ => rfl) _ _ _

/-- No binding listens. -/
theorem listenless_bind (h : Handle) (ip : String) (port : UInt16) :
    (h.bind ip port).Only fun c => c.isListen = false := by
  unfold Handle.bind
  split
  · exact only_pure _
  · next fd _ =>
      refine only_bind ((only_names_bindAddress fd ip port).mono fun _ => Call.isListen_of_names)
        fun bound => ?_
      cases bound <;> exact only_pure _

/-- Nor do both at once. -/
theorem listenless_openBound (h : Handle) (kind : SocketKind) (protocol : Protocol) (ip : String)
    (port : UInt16) :
    (h.openBound kind protocol ip port).Only fun c => c.isListen = false := by
  refine only_bind (h.listenless_open _ _ _) fun opened => ?_
  obtain ⟨_ | _, opened⟩ := opened
  · exact only_pure _
  · refine only_bind (opened.listenless_bind ip port) fun bound => ?_
    obtain ⟨_ | _, bound⟩ := bound
    · exact only_bind (bound.only_reset fun _ => rfl) fun _ => only_pure _
    · exact only_pure _

end Handle

/-! ## Set-ups -/

/-- What can be set up in a handle in one call. -/
inductive SetUp where
  | sctpSocket (kind : SocketKind) (ip : String) (port : UInt16)
  | sctpClient (kind : SocketKind) (ip : String)
  | sctpServer (kind : SocketKind) (ip : String) (port : UInt16)
  | tcpServer (ip : String) (port : UInt16) (backlog : Int32)
deriving DecidableEq, Repr

namespace SetUp

/-- The call. -/
def run (h : Handle) : SetUp → Program (Except SocketError Unit × Handle)
  | sctpSocket kind ip port => h.initSctp kind ip port
  | sctpClient kind ip => h.initSctpClient kind ip
  | sctpServer kind ip port => h.serveSctp kind ip port
  | tcpServer ip port backlog => h.serveTcp ip port backlog

def kind : SetUp → SocketKind
  | sctpSocket kind .. | sctpClient kind _ | sctpServer kind .. => kind
  | tcpServer .. => .stream

def protocol : SetUp → Protocol
  | sctpSocket .. | sctpClient .. | sctpServer .. => .sctp
  | tcpServer .. => .tcp

def ip : SetUp → String
  | sctpSocket _ ip _ | sctpClient _ ip | sctpServer _ ip _ | tcpServer ip .. => ip

/-- The port that is asked for; a client leaves the choice to the kernel. -/
def port : SetUp → UInt16
  | sctpSocket _ _ port | sctpServer _ _ port | tcpServer _ port _ => port
  | sctpClient .. => 0

/-- For a server, how many connections may be pending. -/
def backlog? : SetUp → Option Int32
  | sctpSocket .. | sctpClient .. => none
  | sctpServer .. => some Handle.maxBacklog
  | tcpServer _ _ backlog => some backlog

/-- A socket that is bound as a set-up asks for. -/
def Bound (u : SetUp) : Fd → Address → List Exchange → Prop :=
  ReceiveReactor.Bound u.kind u.protocol u.ip u.port

/-- What a server exchanges when it is bound and the kernel makes it passive. -/
def listening (u : SetUp) (fd : Fd) : List Exchange :=
  u.backlog?.toList.map fun backlog => ⟨.listen fd backlog, .ok ()⟩

/-- What a set-up comes to. -/
inductive Outcome (u : SetUp) (h : Handle) :
    Except SocketError Unit × Handle → List Exchange → Prop where
  | refused (hopen : h.fd ≠ none) : Outcome u h (.error .alreadyOpen, h) []
  | failed (hempty : h.fd = none) (cause : SocketError) {after : Handle} {log : List Exchange}
      (hafter : after = h ∨ after = .empty) (hlisten : ∀ e ∈ log, e.refusesListen = false) :
      Outcome u h (.error cause, after) log
  /-- The kernel refuses to make the socket passive. -/
  | stranded (hempty : h.fd = none) {fd : Fd} {address : Address} {log : List Exchange}
      (hbound : u.Bound fd address log) (errno : Errno) {backlog : Int32}
      (hserves : u.backlog? = some backlog) :
      Outcome u h (.error (.listen errno backlog), ⟨some fd, some address⟩)
        (log ++ [⟨.listen fd backlog, .error errno⟩])
  | established (hempty : h.fd = none) {fd : Fd} {address : Address} {log : List Exchange}
      (hbound : u.Bound fd address log) :
      Outcome u h (.ok (), ⟨some fd, some address⟩) (log ++ u.listening fd)

/-- Every set-up is opening and binding, with a listen after it for a server. -/
theorem run_eq (u : SetUp) (h : Handle) :
    u.run h = match u.backlog? with
      | none => h.openBound u.kind u.protocol u.ip u.port
      | some backlog => h.serve u.kind u.protocol u.ip u.port backlog := by
  cases u <;> rfl

/-- **Every set-up has one of the four outcomes.** -/
theorem ends_run (u : SetUp) (h : Handle) : (u.run h).Ends (u.Outcome h) := by
  have hbinding : (h.openBound u.kind u.protocol u.ip u.port).Ends fun r log =>
      h.Binding u.kind u.protocol u.ip u.port r log ∧ ∀ e ∈ log, e.refusesListen = false :=
    (h.ends_openBound _ _ _ _).and <| (h.listenless_openBound _ _ _ _).ends.mono
      fun _ _ hlog e he => e.refusesListen_of_call (hlog e he)
  rw [run_eq]
  cases hbacklog : u.backlog? with
  | none =>
      have hlistening : ∀ fd, u.listening fd = [] := fun fd => by rw [listening, hbacklog]; rfl
      refine hbinding.mono fun r log hbound => ?_
      obtain ⟨hbound, hlisten⟩ := hbound
      cases hbound with
      | refused hopen => exact .refused hopen
      | failed hempty cause _ hafter => exact .failed hempty cause hafter hlisten
      | @bound hempty fd address _ hbound =>
          have hall := Outcome.established hempty hbound
          rwa [hlistening fd, List.append_nil] at hall
  | some backlog =>
      have hlistening : ∀ fd, u.listening fd = [⟨.listen fd backlog, .ok ()⟩] := fun fd => by
        rw [listening, hbacklog]
        rfl
      refine ends_bind hbinding fun r front hbound => ?_
      obtain ⟨hbound, hlisten⟩ := hbound
      cases hbound with
      | refused hopen => exact ends_pure (.refused hopen)
      | failed hempty cause _ hafter =>
          exact ends_done (.failed hempty cause hafter hlisten)
      | @bound hempty fd address _ hbound =>
          refine ends_bind (ends_listenOn fd backlog) fun r back hback => ends_pure ?_
          rw [List.append_nil]
          rcases hback with ⟨rfl, rfl⟩ | ⟨errno, rfl, rfl⟩
          · exact hlistening fd ▸ .established hempty hbound
          · exact .stranded hempty hbound errno hbacklog

/-- What a set-up leaves of the descriptors that it was handed is what its handle has. -/
theorem custody_run (u : SetUp) (h : Handle) :
    (u.run h).Custody (fun r own => own = r.2.fds) h.fds := by
  cases u with
  | sctpSocket kind ip port => exact h.custody_openBound kind .sctp ip port
  | sctpClient kind ip => exact h.custody_openBound kind .sctp ip 0
  | sctpServer kind ip port => exact h.custody_serve kind .sctp ip port Handle.maxBacklog
  | tcpServer ip port backlog => exact h.custody_serve .stream .tcp ip port backlog

/-- **All of it or nothing.** -/
structure AllOrNothing (u : SetUp) (h : Handle) (r : Except SocketError Unit × Handle)
    (log : List Exchange) : Prop where
  /-- A set-up that succeeds found an empty handle, which has a socket now that was opened,
  bound and, for a server, made passive, and the address that was recorded for it. -/
  whole : r.1 = .ok () → h.fd = none ∧ ∃ fd address front, u.Bound fd address front ∧
    log = front ++ u.listening fd ∧ r.2 = ⟨some fd, some address⟩ ∧ openAfter log [] = [fd]
  /-- One that fails on an open handle makes no call and leaves the handle alone. -/
  untouched : h.fd ≠ none → r.1 ≠ .ok () → r.2 = h ∧ log = []
  /-- One that fails on an empty handle leaves it empty, records no address, and has closed
  all that it opened. -/
  nothing : h.fd = none → r.1 ≠ .ok () → r.2.fd = none ∧
    (r.2.address = none ∨ r.2.address = h.address) ∧ openAfter log [] = []

/-- Neither of the two: a server fails, and its handle has a socket that is bound and does
not listen.  Whatever is set up in it next fails at once. -/
def Stranded (u : SetUp) (h : Handle) (r : Except SocketError Unit × Handle)
    (log : List Exchange) : Prop :=
  h.fd = none ∧ ∃ fd address front errno backlog, u.backlog? = some backlog ∧
    u.Bound fd address front ∧ log = front ++ [⟨.listen fd backlog, .error errno⟩] ∧
    r = (.error (.listen errno backlog), ⟨some fd, some address⟩) ∧ openAfter log [] = [fd] ∧
    ∀ again : SetUp, again.run r.2 = pure (.error .alreadyOpen, r.2)

/-- A set-up on a handle that is open is refused before any call. -/
theorem run_of_some (u : SetUp) {h : Handle} {fd : Fd} (hfd : h.fd = some fd) :
    u.run h = pure (.error .alreadyOpen, h) := by
  have hbound : ∀ kind protocol ip port,
      h.openBound kind protocol ip port = pure (.error .alreadyOpen, h) := by
    intro kind protocol ip port
    rw [Handle.openBound, Handle.open_of_some hfd]
    rfl
  rw [run_eq]
  split
  · exact hbound _ _ _ _
  · rw [Handle.serve, hbound]
    rfl

/-- Before a set-up listens, nothing refuses it listening. -/
theorem Bound.refusesListen {u : SetUp} {fd : Fd} {address : Address} {log : List Exchange}
    (h : u.Bound fd address log) : ∀ e ∈ log, e.refusesListen = false := by
  cases h with
  | mk htuning hwanted =>
      intro e he
      rcases List.mem_append.mp he with hopening | hnaming
      · rcases List.mem_cons.mp hopening with rfl | htuned
        · rfl
        · exact e.refusesListen_of_call (Call.isListen_of_tunes (htuning e htuned))
      · simp only [List.mem_cons, List.not_mem_nil, or_false] at hnaming
        rcases hnaming with rfl | rfl <;> rfl

/-- Every outcome is one of the two, as long as the handle has all that is open after it. -/
theorem Outcome.allOrNothing_or_stranded {u : SetUp} {h : Handle}
    {r : Except SocketError Unit × Handle} {log : List Exchange} (houtcome : u.Outcome h r log)
    (howned : h.fd = none → openAfter log [] = r.2.fds) :
    (u.AllOrNothing h r log ∧ ∀ e ∈ log, e.refusesListen = false) ∨ u.Stranded h r log := by
  cases houtcome with
  | refused hopen =>
      exact Or.inl ⟨⟨nofun, fun _ _ => ⟨rfl, rfl⟩, fun hempty => absurd hempty hopen⟩, nofun⟩
  | failed hempty cause hafter hlisten =>
      refine Or.inl ⟨⟨nofun, fun hopen => absurd hempty hopen, fun _ _ => ?_⟩, hlisten⟩
      rcases hafter with rfl | rfl
      · exact ⟨hempty, Or.inr rfl, by rw [howned hempty, Handle.fds_of_none hempty]⟩
      · exact ⟨rfl, Or.inl rfl, howned hempty⟩
  | @stranded hempty fd address front hbound errno backlog hserves =>
      exact Or.inr ⟨hempty, fd, address, front, errno, backlog, hserves, hbound, rfl, rfl,
        howned hempty, fun again => again.run_of_some rfl⟩
  | @established hempty fd address front hbound =>
      refine Or.inl ⟨⟨fun _ => ?_, fun hopen => absurd hempty hopen, ?_⟩, fun e he => ?_⟩
      · exact ⟨hempty, fd, address, front, hbound, rfl, rfl, howned hempty⟩
      · exact fun _ hfails => absurd rfl hfails
      · rcases List.mem_append.mp he with hfront | hlistening
        · exact Bound.refusesListen hbound e hfront
        · obtain ⟨backlog, -, rfl⟩ := List.mem_map.mp hlistening
          rfl

section Stranded

variable {u : SetUp} {h : Handle} {r : Except SocketError Unit × Handle} {log : List Exchange}

/-- A handle with a socket that was bound is not empty. -/
theorem Stranded.not_allOrNothing (hstranded : u.Stranded h r log) :
    ¬ u.AllOrNothing h r log := by
  intro hall
  obtain ⟨hempty, fd, address, front, errno, backlog, -, -, -, rfl, -⟩ := hstranded
  cases (hall.nothing hempty nofun).1

/-- A handle is stranded by a refusal of listen. -/
theorem Stranded.refusesListen (hstranded : u.Stranded h r log) :
    ∃ e ∈ log, e.refusesListen = true := by
  obtain ⟨-, fd, address, front, errno, backlog, -, -, rfl, -⟩ := hstranded
  exact ⟨_, List.mem_append_right _ List.mem_cons_self, rfl⟩

end Stranded

/-- **Which of the two.**  For every set-up, handle and kernel it is all or nothing exactly
if the kernel refused no listen; if it did, the handle is left with a socket that is bound
and does not listen. -/
theorem all_or_nothing_iff {σ : Type} (u : SetUp) (h : Handle) (k : Kernel σ) (s : σ) :
    (u.AllOrNothing h ((u.run h).run k s).1 ((u.run h).exchanges k s) ↔
      ∀ e ∈ (u.run h).exchanges k s, e.refusesListen = false) ∧
    ((∃ e ∈ (u.run h).exchanges k s, e.refusesListen = true) →
      u.Stranded h ((u.run h).run k s).1 ((u.run h).exchanges k s)) := by
  have howned : h.fd = none →
      openAfter ((u.run h).exchanges k s) [] = ((u.run h).run k s).1.2.fds := by
    intro hempty
    have hown := ((u.custody_run h).run k s).1
    rwa [Handle.fds_of_none hempty] at hown
  rcases ((u.ends_run h).run k s).allOrNothing_or_stranded howned with ⟨hall, hnone⟩ | hstranded
  · refine ⟨iff_of_true hall hnone, ?_⟩
    rintro ⟨e, he, hrefuses⟩
    exact absurd ((hnone e he).symm.trans hrefuses) Bool.false_ne_true
  · obtain ⟨e, he, hrefuses⟩ := hstranded.refusesListen
    refine ⟨iff_of_false hstranded.not_allOrNothing fun hnone => ?_, fun _ => hstranded⟩
    exact absurd ((hnone e he).symm.trans hrefuses) Bool.false_ne_true

/-- A kernel that makes a socket and binds it, where another one listens already. -/
def takenScript : Script :=
  { replies :=
      [ { opens := true }, {},
        { address := some ([2, 0, 31, 144, 127, 0, 0, 1] ++ Bytes.zeros 8, 16) },
        { failure := some .addressInUse } ] }

/-- A TCP server whose listen fails keeps its socket, **half set up**. -/
theorem tcpServer_left_open :
    ¬ (tcpServer "127.0.0.1" 8080 16).AllOrNothing .empty
      (((tcpServer "127.0.0.1" 8080 16).run .empty).run Script.kernel takenScript).1
      (((tcpServer "127.0.0.1" 8080 16).run .empty).exchanges Script.kernel takenScript) := by
  intro hall
  have hfails : (((tcpServer "127.0.0.1" 8080 16).run .empty).run Script.kernel takenScript).1 =
      (.error (.listen .addressInUse 16),
        ⟨some (Script.descriptor 1), some (.v4 ⟨#v[127, 0, 0, 1], 8080⟩)⟩) := by
    decide
  rw [hfails] at hall
  exact nomatch (hall.nothing rfl nofun).1

end SetUp

end ReceiveReactor
