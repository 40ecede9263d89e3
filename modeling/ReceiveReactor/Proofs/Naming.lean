import ReceiveReactor.Proofs.AddressGrammar
import ReceiveReactor.Proofs.SetUp

/-!
# A bind or a connect that fails leaves no trace

Both read their address before they make a call, and then ask the kernel **once**.  What
the kernel refuses is told, and the handle is as it was.  A bind that the kernel grants
stands, whether or not the kernel tells afterwards which address the socket got.

* `BindAttempt`, `ConnectAttempt` — what can become of each on one descriptor;
* `Handle.Binds`, `Handle.Connects` — what each does, as the handle's owner sees it;
* `Handle.naming_without_trace` — that they do, **for every handle, text and kernel**.
-/

namespace ReceiveReactor

open Program

/-- What an attempt to connect a descriptor comes to: its result, and what was exchanged. -/
inductive ConnectAttempt (fd : Fd) (ip : String) (port : UInt16) :
    Except SocketError Address → List Exchange → Prop where
  | unread {cause : SocketError} (hcause : Address.parse ip port = .error cause) :
      ConnectAttempt fd ip port (.error cause) []
  | refused {wanted : Address} (hwanted : Address.parse ip port = .ok wanted) (errno : Errno) :
      ConnectAttempt fd ip port (.error (.connect errno wanted.display))
        [⟨.connect fd wanted.toRaw, .error errno⟩]
  | connected {wanted : Address} (hwanted : Address.parse ip port = .ok wanted) :
      ConnectAttempt fd ip port (.ok wanted) [⟨.connect fd wanted.toRaw, .ok ()⟩]

/-- **Connecting** ends as one of the ways of a `ConnectAttempt`. -/
theorem ends_connectTo (fd : Fd) (ip : String) (port : UInt16) :
    (connectTo fd ip port).Ends (ConnectAttempt fd ip port) := by
  unfold connectTo
  split
  · next cause hcause => exact ends_pure (.unread hcause)
  · next wanted hwanted =>
      refine ends_bind (ends_ask _) fun connected log hlog => ?_
      subst hlog
      cases connected with
      | error errno => exact ends_pure (.refused hwanted errno)
      | ok _ => exact ends_pure (.connected hwanted)

namespace Address

/-- A text that is read as an address is not malformed. -/
theorem not_malformed_of_parse {ip : String} {port : UInt16} {wanted : Address}
    (hwanted : parse ip port = .ok wanted) : ¬ Malformed ip.toList := by
  intro htext
  rw [parse_eq_error_iff.mpr ⟨htext, rfl⟩] at hwanted
  cases hwanted

end Address

namespace Handle

/-- What a bind does to a handle, and what it exchanges with the kernel. -/
structure Binds (h : Handle) (ip : String) (port : UInt16)
    (r : Except SocketError Address × Handle) (log : List Exchange) : Prop where
  notOpen : h.fd = none → r.1 = .error .notOpen ∧ log = []
  malformed : h.fd ≠ none → Address.Malformed ip.toList →
    r.1 = .error (.invalidAddress "not an IPv6 address") ∧ log = []
  /-- Otherwise the kernel is asked **once** to bind the socket to the address that the text
  denotes, and the bind succeeds exactly if the kernel does as asked. -/
  once : ∀ fd, h.fd = some fd → ¬ Address.Malformed ip.toList →
    ∃ wanted reply more, Address.parse ip port = .ok wanted ∧
      log = ⟨.bind fd wanted.toRaw, reply⟩ :: more ∧ (∀ e ∈ more, e.call = .getsockname fd) ∧
      (∀ errno, reply = .error errno ↔ r.1 = .error (.bind errno wanted.display)) ∧
      (reply = .ok () ↔ ∃ a, r.1 = .ok a)
  /-- The address that is answered is recorded.  It is **the one that the kernel names**, and
  the one asked for where the kernel names none. -/
  answered : ∀ a, r.1 = .ok a → r.2 = { h with address := some a } ∧
    ∃ fd wanted named, h.fd = some fd ∧ Address.parse ip port = .ok wanted ∧
      log = [⟨.bind fd wanted.toRaw, .ok ()⟩, ⟨.getsockname fd, named⟩] ∧
      (∀ stored, named = .ok stored → a = stored.address?.getD wanted) ∧
      (∀ errno, named = .error errno → a = wanted)
  /-- A bind that fails leaves the handle **as it was**. -/
  kept : ∀ cause, r.1 = .error cause → r.2 = h

/-- What a connect exchanges with the kernel, and what it answers. -/
structure Connects (h : Handle) (ip : String) (port : UInt16)
    (r : Except SocketError Address) (log : List Exchange) : Prop where
  notOpen : h.fd = none → r = .error .notOpen ∧ log = []
  malformed : h.fd ≠ none → Address.Malformed ip.toList →
    r = .error (.invalidAddress "not an IPv6 address") ∧ log = []
  once : ∀ fd, h.fd = some fd → ¬ Address.Malformed ip.toList →
    ∃ wanted reply, Address.parse ip port = .ok wanted ∧
      log = [⟨.connect fd wanted.toRaw, reply⟩] ∧
      (∀ errno, reply = .error errno ↔ r = .error (.connect errno wanted.display)) ∧
      (reply = .ok () ↔ r = .ok wanted)

/-- A handle without a descriptor is refused before any call. -/
theorem Binds.of_empty {h : Handle} (hempty : h.fd = none) (ip : String) (port : UInt16) :
    h.Binds ip port (.error .notOpen, h) [] where
  notOpen _ := ⟨rfl, rfl⟩
  malformed hopen _ := absurd hempty hopen
  once fd hfd _ := by rw [hempty] at hfd; cases hfd
  answered _ hanswer := nomatch hanswer
  kept _ _ := rfl

/-- What an attempt to bind comes to on a handle that is open. -/
theorem Binds.of_attempt {h : Handle} {fd : Fd} (hfd : h.fd = some fd) {ip : String}
    {port : UInt16} {result : Except SocketError Address} {log : List Exchange}
    (hattempt : BindAttempt fd ip port result log) :
    h.Binds ip port
      (result, result.toOption.elim h fun a => { h with address := some a }) log where
  notOpen hempty := by rw [hempty] at hfd; cases hfd
  malformed _ htext := by
    cases hattempt with
    | unread hcause => exact ⟨by rw [(Address.parse_eq_error_iff.mp hcause).2], rfl⟩
    | refused hwanted | bound hwanted => exact absurd htext (Address.not_malformed_of_parse hwanted)
  once other hother htext := by
    obtain rfl : fd = other := Option.some.inj (hfd.symm.trans hother)
    cases hattempt with
    | unread hcause => exact absurd (Address.parse_eq_error_iff.mp hcause).1 htext
    | @refused wanted hwanted errno =>
        refine ⟨wanted, .error errno, [], hwanted, rfl, List.forall_mem_nil _, fun other => ?_, ?_⟩
        · exact ⟨fun heq => by cases heq; rfl, fun heq => by cases heq; rfl⟩
        · exact iff_of_false nofun nofun
    | @bound wanted hwanted named =>
        refine ⟨wanted, .ok (), _, hwanted, rfl, ?_, fun errno => iff_of_false nofun nofun, ?_⟩
        · exact List.forall_mem_singleton.mpr rfl
        · exact iff_of_true rfl ⟨_, rfl⟩
  answered a hanswer := by
    cases hattempt with
    | unread | refused => cases hanswer
    | @bound wanted hwanted named =>
        obtain rfl := Except.ok.inj hanswer
        refine ⟨rfl, fd, wanted, named, hfd, hwanted, rfl, fun stored hnamed => ?_,
          fun errno hnamed => ?_⟩
        · rw [hnamed, recorded]
        · rw [hnamed, recorded]
  kept cause hcause := by
    cases hattempt with
    | unread | refused => rfl
    | bound => cases hcause

/-- A handle without a descriptor is refused before any call. -/
theorem Connects.of_empty {h : Handle} (hempty : h.fd = none) (ip : String) (port : UInt16) :
    h.Connects ip port (.error .notOpen) [] where
  notOpen _ := ⟨rfl, rfl⟩
  malformed hopen _ := absurd hempty hopen
  once fd hfd _ := by rw [hempty] at hfd; cases hfd

/-- What an attempt to connect comes to on a handle that is open. -/
theorem Connects.of_attempt {h : Handle} {fd : Fd} (hfd : h.fd = some fd) {ip : String}
    {port : UInt16} {r : Except SocketError Address} {log : List Exchange}
    (hattempt : ConnectAttempt fd ip port r log) : h.Connects ip port r log where
  notOpen hempty := by rw [hempty] at hfd; cases hfd
  malformed _ htext := by
    cases hattempt with
    | unread hcause => exact ⟨by rw [(Address.parse_eq_error_iff.mp hcause).2], rfl⟩
    | refused hwanted | connected hwanted =>
        exact absurd htext (Address.not_malformed_of_parse hwanted)
  once other hother htext := by
    obtain rfl : fd = other := Option.some.inj (hfd.symm.trans hother)
    cases hattempt with
    | unread hcause => exact absurd (Address.parse_eq_error_iff.mp hcause).1 htext
    | @refused wanted hwanted errno =>
        refine ⟨wanted, .error errno, hwanted, rfl, fun other => ?_, iff_of_false nofun nofun⟩
        exact ⟨fun heq => by cases heq; rfl, fun heq => by cases heq; rfl⟩
    | @connected wanted hwanted =>
        exact ⟨wanted, .ok (), hwanted, rfl, fun errno => iff_of_false nofun nofun,
          iff_of_true rfl rfl⟩

/-- **Every bind** does what its result says, and leaves no trace if it fails. -/
theorem ends_binds (h : Handle) (ip : String) (port : UInt16) :
    (h.bind ip port).Ends (h.Binds ip port) := by
  cases hfd : h.fd with
  | none =>
      rw [Handle.bind, hfd]
      exact ends_pure (.of_empty hfd ip port)
  | some fd =>
      refine (ends_bind hfd ip port).mono fun r log hbind => ?_
      obtain ⟨result, after⟩ := r
      obtain ⟨hattempt, hafter⟩ := hbind
      rw [show after = _ from hafter]
      exact .of_attempt hfd hattempt

/-- **So does every connect.**. -/
theorem ends_connects (h : Handle) (ip : String) (port : UInt16) :
    (h.connect ip port).Ends (h.Connects ip port) := by
  cases hfd : h.fd with
  | none =>
      rw [connect, hfd]
      exact ends_pure (.of_empty hfd ip port)
  | some fd =>
      rw [connect, hfd]
      exact (ends_connectTo fd ip port).mono fun _ _ => .of_attempt hfd

/-- **Binding and connecting fail without trace.**  Whatever a handle holds and whatever the
kernel answers: nothing is asked of the kernel before the handle and the text are found to be
good, then it is asked once; a bind that fails leaves the handle as it was, and a connect
leaves it so in any case. -/
theorem naming_without_trace {σ : Type} (k : Kernel σ) (s : σ) (h : Handle) (ip : String)
    (port : UInt16) :
    h.Binds ip port ((h.bind ip port).run k s).1 ((h.bind ip port).exchanges k s) ∧
      h.Connects ip port ((h.connect ip port).run k s).1 ((h.connect ip port).exchanges k s) ∧
      (((Ownership.Operation.connect ip port).turn (.handle h)).run k s).1.holder = .handle h := by
  refine ⟨(h.ends_binds ip port).run k s, (h.ends_connects ip port).run k s, ?_⟩
  rw [Ownership.Operation.turn, Ownership.Operation.onHandle, run_bind]
  rfl

end Handle

end ReceiveReactor
