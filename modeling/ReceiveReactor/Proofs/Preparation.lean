import ReceiveReactor.Proofs.Bytes
import ReceiveReactor.Proofs.Exchange
import ReceiveReactor.Socket.Open

/-!
# A fresh SCTP socket is tuned, or it is closed

Opening an SCTP socket is a chain of six calls in which one failure is tolerated and every
other ends the chain.  The two blocks of parameters are read, changed in two fields each and
written back; the **rest of a block is the kernel's**.

* `Bytes.stored` — some bytes stored within others;
* `Sctp.retimed`, `Sctp.retried` — the blocks that are written back;
* `Sctp.encode_retimed`, `Sctp.encode_retried` — they are what is written;
* `Sctp.Tuning`, `Sctp.Opening` — the ways in which the chain can go, with **all that is
  exchanged**;
* `Halts` — a chain that ends after the first failure that counts;
* `openSocket_tunes` — every open, whatever the kernel answers.
-/

namespace ReceiveReactor

open Program

namespace Bytes

/-! ## Fields of a block -/

/-- `data` stored over the bytes of a block that start at `offset`. -/
def stored (offset : Nat) (data block : Bytes) : Bytes :=
  block.take offset ++ data ++ block.drop (offset + data.length)

/-- Storing within a block keeps its size. -/
theorem length_stored {offset : Nat} {data block : Bytes}
    (h : offset + data.length ≤ block.length) :
    (stored offset data block).length = block.length := by
  simp only [stored, List.length_append, List.length_take, List.length_drop]
  omega

/-- **A store within a block leaves the bytes outside it as they are.** -/
theorem getElem?_stored {offset : Nat} {data block : Bytes}
    (h : offset + data.length ≤ block.length) {i : Nat}
    (hout : i < offset ∨ offset + data.length ≤ i) :
    (stored offset data block)[i]? = block[i]? := by
  have htake : (block.take offset).length = offset := List.length_take_of_le (by omega)
  rcases hout with hbefore | hafter
  · rw [stored, List.append_assoc, List.getElem?_append_left (by omega),
      List.getElem?_take_of_lt hbefore]
  · rw [stored, List.getElem?_append_right (by rw [List.length_append]; omega),
      List.length_append, htake, List.getElem?_drop]
    congr 1
    omega

/-- A stored field reads back. -/
theorem fieldLE_stored {offset width n : Nat} {block : Bytes}
    (h : offset + width ≤ block.length) :
    fieldLE (stored offset (ofNatLE width n) block) offset width = n % 256 ^ width := by
  rw [stored, List.append_assoc]
  exact fieldLE_append (List.length_take_of_le (by omega)) width n

/-- A field outside a store is as it was. -/
theorem fieldLE_stored_of_before {offset start width : Nat} {data block : Bytes}
    (hbefore : start + width ≤ offset) (h : offset ≤ block.length) :
    fieldLE (stored offset data block) start width = fieldLE block start width := by
  refine fieldLE_congr ?_ hbefore
  rw [stored, List.append_assoc, List.take_append_of_le_length (by rw [List.length_take]; omega),
    List.take_take, Nat.min_self]

/-- Two stores side by side are one. -/
theorem stored_append (data more : Bytes) {offset : Nat} {block : Bytes}
    (h : offset ≤ block.length) :
    stored offset (data ++ more) block =
      stored (offset + data.length) more (stored offset data block) := by
  have htake : (block.take offset).length = offset := List.length_take_of_le (by omega)
  have hfront : (stored offset data block).take (offset + data.length) =
      block.take offset ++ data := by
    rw [stored, List.take_append_of_le_length (by rw [List.length_append]; omega),
      List.take_of_length_le (by rw [List.length_append]; omega)]
  have hback : (stored offset data block).drop (offset + data.length + more.length) =
      block.drop (offset + data.length + more.length) := by
    rw [stored, List.drop_append, List.drop_of_length_le (by rw [List.length_append]; omega),
      List.nil_append, List.drop_drop, List.length_append, htake]
    congr 1
    omega
  rw [stored.eq_def (offset + data.length), hfront, hback, stored, List.length_append]
  simp only [List.append_assoc, Nat.add_assoc]

/-- A block of the right size needs no padding. -/
theorem padTo_of_length {n : Nat} {bs : Bytes} (h : bs.length = n) : padTo n bs = bs := by
  rw [padTo, List.take_of_length_le (by omega), h, Nat.sub_self]
  exact List.append_nil bs

end Bytes

namespace Sctp

open Bytes

/-! ## The blocks written back -/

/-- A block of retransmission timeouts for the endpoint itself, with the upper bound set. -/
def retimed (block : Bytes) : Bytes :=
  stored 8 (ofNatLE 4 maxRetransmissionTimeout.toNat) (stored 0 (ofNatLE 4 0) block)

/-- A block of handshake parameters with both bounds set. -/
def retried (block : Bytes) : Bytes :=
  stored 6 (ofNatLE 2 maxInitTimeout.toNat) (stored 4 (ofNatLE 2 maxInitAttempts.toNat) block)

/-- **Only the association and the upper bound change** between reading and writing. -/
theorem encode_retimed {block : Bytes} (h : block.length = RetransmissionInfo.size) :
    RetransmissionInfo.encode { RetransmissionInfo.decode block with
      association := 0, max := maxRetransmissionTimeout } = retimed block := by
  rw [RetransmissionInfo.size] at h
  simp only [RetransmissionInfo.encode, RetransmissionInfo.decode]
  rw [ofNatLE_word32 (by omega), ofNatLE_word32 (by omega)]
  have hlast : (block.drop 12).take 4 = block.drop 12 :=
    List.take_of_length_le (by rw [List.length_drop]; omega)
  have hzeros : (ofNatLE 4 0).take 8 = ofNatLE 4 0 := rfl
  have hnothing : (ofNatLE 4 0).drop 12 = [] := rfl
  have hself : (0 : Int32).toUInt32.toNat = 0 := rfl
  simp [retimed, stored, List.take_append, List.drop_append, hlast, hzeros, hnothing, hself]

/-- Writing back the handshake's parameters changes **two fields and no other byte**. -/
theorem encode_retried {block : Bytes} (h : block.length = InitInfo.size) :
    InitInfo.encode { InitInfo.decode block with
      attempts := maxInitAttempts, timeout := maxInitTimeout } = retried block := by
  rw [InitInfo.size] at h
  simp only [InitInfo.encode, InitInfo.decode]
  rw [ofNatLE_word16 (by omega), ofNatLE_word16 (by omega)]
  have hnothing : block.drop 8 = [] := List.drop_of_length_le (by omega)
  have hfront : block.take 4 = block.take 2 ++ (block.drop 2).take 2 :=
    List.take_add (i := 2) (j := 2)
  have hone := stored_append (ofNatLE 2 maxInitAttempts.toNat) (ofNatLE 2 maxInitTimeout.toNat)
    (show 4 ≤ block.length by omega)
  rw [length_ofNatLE] at hone
  rw [retried, ← hone]
  simp [stored, hnothing, hfront]

/-! ## The chain of calls -/

/-- Subscribes to events. -/
abbrev subscribing (fd : Fd) : Call := .setsockopt fd level eventsOption subscription

/-- Reads the retransmission timeouts. -/
abbrev readingTimeouts (fd : Fd) : Call :=
  .getsockopt fd level retransmissionOption RetransmissionInfo.size

/-- Writes the retransmission timeouts after the kernel gave `block` for them. -/
abbrev writingTimeouts (fd : Fd) (block : Bytes) : Call :=
  .setsockopt fd level retransmissionOption (retimed (padTo RetransmissionInfo.size block))

/-- Reads the parameters of the handshake. -/
abbrev readingHandshake (fd : Fd) : Call := .getsockopt fd level initOption InitInfo.size

/-- Writes the parameters of the handshake after the kernel gave `block` for them. -/
abbrev writingHandshake (fd : Fd) (block : Bytes) : Call :=
  .setsockopt fd level initOption (retried (padTo InitInfo.size block))

/-- Makes an SCTP socket. -/
abbrev creating (family : AddressFamily) (kind : SocketKind) : Call :=
  .socket family.number (kind.number ||| 0x80000) Protocol.sctp.number

/-- What tuning comes to: **the first failure ends it**, and its error names the option. -/
inductive Tuning (fd : Fd) : Except SocketError Unit → List Exchange → Prop
  | timeoutsUnread (errno : Errno) :
      Tuning fd (.error (.getOption errno "SCTP_RTOINFO")) [⟨readingTimeouts fd, .error errno⟩]
  | timeoutsUnwritten (rto : Bytes) (errno : Errno) :
      Tuning fd (.error (.setOption errno "SCTP_RTOINFO"))
        [⟨readingTimeouts fd, .ok rto⟩, ⟨writingTimeouts fd rto, .error errno⟩]
  | handshakeUnread (rto : Bytes) (errno : Errno) :
      Tuning fd (.error (.getOption errno "SCTP_INITMSG"))
        [⟨readingTimeouts fd, .ok rto⟩, ⟨writingTimeouts fd rto, .ok ()⟩,
          ⟨readingHandshake fd, .error errno⟩]
  | handshakeUnwritten (rto init : Bytes) (errno : Errno) :
      Tuning fd (.error (.setOption errno "SCTP_INITMSG"))
        [⟨readingTimeouts fd, .ok rto⟩, ⟨writingTimeouts fd rto, .ok ()⟩,
          ⟨readingHandshake fd, .ok init⟩, ⟨writingHandshake fd init, .error errno⟩]
  | tuned (rto init : Bytes) :
      Tuning fd (.ok ())
        [⟨readingTimeouts fd, .ok rto⟩, ⟨writingTimeouts fd rto, .ok ()⟩,
          ⟨readingHandshake fd, .ok init⟩, ⟨writingHandshake fd init, .ok ()⟩]

/-- What opening an SCTP socket comes to.  The answer to the subscription does not matter; a
socket that is not tuned is closed. -/
inductive Opening (family : AddressFamily) (kind : SocketKind) :
    Except SocketError Fd → List Exchange → Prop
  | refused (errno : Errno) :
      Opening family kind (.error (.create errno "SCTP")) [⟨creating family kind, .error errno⟩]
  | opened (fd : Fd) (subscribed : Except Errno Unit) {tuning : List Exchange}
      (tunes : Tuning fd (.ok ()) tuning) :
      Opening family kind (.ok fd)
        (⟨creating family kind, .ok fd⟩ :: ⟨subscribing fd, subscribed⟩ :: tuning)
  | abandoned (fd : Fd) (subscribed : Except Errno Unit) {cause : SocketError}
      {tuning : List Exchange} (fails : Tuning fd (.error cause) tuning) :
      Opening family kind (.error cause)
        (⟨creating family kind, .ok fd⟩ :: ⟨subscribing fd, subscribed⟩ :: tuning
          ++ [⟨.close fd, ()⟩])

/-- Reading an option is one call, and its error names the option. -/
theorem ends_getOption (fd : Fd) (level option size : Nat) (shown : String) :
    (Options.getOption fd level option size shown).Ends fun r log =>
      (∃ errno, r = .error (.getOption errno shown) ∧
        log = [⟨.getsockopt fd level option size, .error errno⟩]) ∨
      ∃ block, r = .ok (padTo size block) ∧
        log = [⟨.getsockopt fd level option size, .ok block⟩] := by
  refine ends_bind (ends_ask _) fun reply front hfront => ?_
  subst hfront
  cases reply with
  | error errno => exact ends_pure (Or.inl ⟨errno, rfl, rfl⟩)
  | ok block => exact ends_pure (Or.inr ⟨block, rfl, rfl⟩)

/-- Writing one is one call, and so does its error. -/
theorem ends_setOption (fd : Fd) (level option : Nat) (shown : String) (value : Bytes) :
    (Options.setOption fd level option shown value).Ends fun r log =>
      (∃ errno, r = .error (.setOption errno shown) ∧
        log = [⟨.setsockopt fd level option value, .error errno⟩]) ∨
      (r = .ok () ∧ log = [⟨.setsockopt fd level option value, .ok ()⟩]) := by
  refine ends_bind (ends_ask _) fun reply front hfront => ?_
  subst hfront
  cases reply with
  | error errno => exact ends_pure (Or.inl ⟨errno, rfl, rfl⟩)
  | ok _ => exact ends_pure (Or.inr ⟨rfl, rfl⟩)

/-- The timeouts are read from as many bytes as their block has, short replies padded. -/
theorem ends_retransmissionInfo (fd : Fd) :
    (retransmissionInfo fd).Ends fun r log =>
      (∃ errno, r = .error (.getOption errno "SCTP_RTOINFO") ∧
        log = [⟨readingTimeouts fd, .error errno⟩]) ∨
      ∃ rto, r = .ok (RetransmissionInfo.decode (padTo RetransmissionInfo.size rto)) ∧
        log = [⟨readingTimeouts fd, .ok rto⟩] := by
  refine ends_bind (ends_getOption _ _ _ _ _) fun r log hread => ?_
  rcases hread with ⟨errno, rfl, rfl⟩ | ⟨rto, rfl, rfl⟩
  · exact ends_pure (Or.inl ⟨errno, rfl, rfl⟩)
  · exact ends_pure (Or.inr ⟨rto, rfl, rfl⟩)

/-- So are the parameters of the handshake. -/
theorem ends_initInfo (fd : Fd) :
    (initInfo fd).Ends fun r log =>
      (∃ errno, r = .error (.getOption errno "SCTP_INITMSG") ∧
        log = [⟨readingHandshake fd, .error errno⟩]) ∨
      ∃ init, r = .ok (InitInfo.decode (padTo InitInfo.size init)) ∧
        log = [⟨readingHandshake fd, .ok init⟩] := by
  refine ends_bind (ends_getOption _ _ _ _ _) fun r log hread => ?_
  rcases hread with ⟨errno, rfl, rfl⟩ | ⟨init, rfl, rfl⟩
  · exact ends_pure (Or.inl ⟨errno, rfl, rfl⟩)
  · exact ends_pure (Or.inr ⟨init, rfl, rfl⟩)

/-- **Tuning goes in one of five ways.** -/
theorem ends_tuneFailureDetection (fd : Fd) : (tuneFailureDetection fd).Ends (Tuning fd) := by
  refine ends_bind (ends_retransmissionInfo fd) fun r log hread => ?_
  rcases hread with ⟨errno, rfl, rfl⟩ | ⟨rto, rfl, rfl⟩
  · exact ends_pure (.timeoutsUnread errno)
  have hrto := encode_retimed (length_padTo RetransmissionInfo.size rto)
  refine ends_bind (ends_setOption _ _ _ _ _) fun r log hwritten => ?_
  rw [hrto] at hwritten
  rcases hwritten with ⟨errno, rfl, rfl⟩ | ⟨rfl, rfl⟩
  · exact ends_pure (.timeoutsUnwritten rto errno)
  refine ends_bind (ends_initInfo fd) fun r log hread => ?_
  rcases hread with ⟨errno, rfl, rfl⟩ | ⟨init, rfl, rfl⟩
  · exact ends_pure (.handshakeUnread rto errno)
  have hinit := encode_retried (length_padTo InitInfo.size init)
  refine Ends.mono (ends_setOption _ _ _ _ _) fun r log hwritten => ?_
  rw [hinit] at hwritten
  rcases hwritten with ⟨errno, rfl, rfl⟩ | ⟨rfl, rfl⟩
  · exact .handshakeUnwritten rto init errno
  · exact .tuned rto init

/-- A subscription is one call, whatever comes of it. -/
theorem ends_subscribeEvents (fd : Fd) :
    (subscribeEvents fd).Ends fun _ log => ∃ subscribed, log = [⟨subscribing fd, subscribed⟩] := by
  refine Ends.mono (ends_setOption _ _ _ _ _) fun r log hset => ?_
  rcases hset with ⟨errno, -, hlog⟩ | ⟨-, hlog⟩
  · exact ⟨.error errno, hlog⟩
  · exact ⟨.ok (), hlog⟩

/-- **Opening an SCTP socket** ends as one of the ways of an `Opening`. -/
theorem ends_openSocket_sctp (family : AddressFamily) (kind : SocketKind) :
    (openSocket family kind .sctp).Ends (Opening family kind) := by
  refine ends_bind (ends_ask _) fun created front hfront => ?_
  subst hfront
  cases created with
  | error errno => exact ends_pure (.refused errno)
  | ok fd =>
      show Program.Ends (prepare fd >>= _) _
      have hprepare : (prepare fd).Ends fun r log => ∃ subscribed tuning,
          log = ⟨subscribing fd, subscribed⟩ :: tuning ∧ Tuning fd r tuning := by
        refine ends_bind (ends_subscribeEvents fd) fun _ front hfront => ?_
        obtain ⟨subscribed, rfl⟩ := hfront
        exact (ends_tuneFailureDetection fd).mono fun r tuning htuning =>
          ⟨subscribed, tuning, rfl, htuning⟩
      refine ends_bind hprepare fun prepared log hlog => ?_
      obtain ⟨subscribed, tuning, rfl, htuning⟩ := hlog
      cases prepared with
      | ok _ =>
          exact ends_done (Opening.opened fd subscribed htuning)
      | error cause =>
          refine ends_bind (ends_ask _) fun _ _ hclose => ends_pure ?_
          subst hclose
          exact .abandoned fd subscribed htuning

/-- A block of timeouts is written back with its first and its third word changed. -/
theorem retimed_keeps {rto : Bytes} (h : rto.length = 16) :
    let written := retimed (padTo RetransmissionInfo.size rto)
    written.length = 16 ∧ fieldLE written 0 4 = 0 ∧ fieldLE written 8 4 = 6000 ∧
      ∀ i, 4 ≤ i → i < 8 ∨ 12 ≤ i → written[i]? = rto[i]? := by
  have hpad : padTo RetransmissionInfo.size rto = rto := padTo_of_length h
  rw [hpad]
  have hself : (stored 0 (ofNatLE 4 0) rto).length = 16 := by
    rw [length_stored (by rw [length_ofNatLE]; omega), h]
  have hmax : 8 + (ofNatLE 4 maxRetransmissionTimeout.toNat).length ≤
      (stored 0 (ofNatLE 4 0) rto).length := by
    rw [length_ofNatLE]
    omega
  refine ⟨?length, ?association, ?max, ?rest⟩
  case length => rw [retimed, length_stored hmax, hself]
  case association =>
    rw [retimed, fieldLE_stored_of_before (by omega) (by omega), fieldLE_stored (by omega)]
    rfl
  case max =>
    rw [retimed, fieldLE_stored (by omega)]
    rfl
  case rest =>
    intro i hi hout
    rw [retimed, getElem?_stored hmax (by rw [length_ofNatLE]; omega),
      getElem?_stored (by rw [length_ofNatLE]; omega) (by rw [length_ofNatLE]; omega)]

/-- A block of handshake parameters is written back with its second half changed. -/
theorem retried_keeps {init : Bytes} (h : init.length = 8) :
    let written := retried (padTo InitInfo.size init)
    written.length = 8 ∧ fieldLE written 4 2 = 3 ∧ fieldLE written 6 2 = 5000 ∧
      ∀ i, i < 4 → written[i]? = init[i]? := by
  have hpad : padTo InitInfo.size init = init := padTo_of_length h
  rw [hpad]
  have hattempts : (stored 4 (ofNatLE 2 maxInitAttempts.toNat) init).length = 8 := by
    rw [length_stored (by rw [length_ofNatLE]; omega), h]
  have htimeout : 6 + (ofNatLE 2 maxInitTimeout.toNat).length ≤
      (stored 4 (ofNatLE 2 maxInitAttempts.toNat) init).length := by
    rw [length_ofNatLE]
    omega
  refine ⟨?length, ?attempts, ?timeout, ?rest⟩
  case length => rw [retried, length_stored htimeout, hattempts]
  case attempts =>
    rw [retried, fieldLE_stored_of_before (by omega) (by omega), fieldLE_stored (by omega)]
    rfl
  case timeout =>
    rw [retried, fieldLE_stored (by omega)]
    rfl
  case rest =>
    intro i hi
    rw [retried, getElem?_stored htimeout (by omega),
      getElem?_stored (by rw [length_ofNatLE]; omega) (by omega)]

end Sctp

/-! ## Where an open ends -/

namespace Exchange

/-- Whether an exchange is one of an open that failed. -/
def fails : Exchange → Bool
  | ⟨.socket .., .error _⟩ | ⟨.getsockopt .., .error _⟩ | ⟨.setsockopt .., .error _⟩ => true
  | _ => false

/-- Whether an exchange is a subscription to SCTP events. -/
def subscribes : Exchange → Bool
  | ⟨.setsockopt _ level option _, _⟩ => level == Sctp.level && option == Sctp.eventsOption
  | _ => false

/-- Whether an exchange closes a descriptor. -/
def closes : Exchange → Bool
  | ⟨.close _, _⟩ => true
  | _ => false

/-- The one failure that is ignored is that of a subscription. -/
def tolerated (e : Exchange) : Bool := e.subscribes || !e.fails

end Exchange

/-- A chain of calls ends with a value after no failure that counts, or with an error **after
the first one**, when only a close is left to do. -/
inductive Halts {α : Type} : Except SocketError α → List Exchange → Prop
  | whole (a : α) (log : List Exchange) (calm : log.all Exchange.tolerated = true) :
      Halts (.ok a) log
  | cut (cause : SocketError) (front : List Exchange) (last : Exchange) (back : List Exchange)
      (calm : front.all Exchange.tolerated = true) (counts : last.tolerated = false)
      (closes : back.all Exchange.closes = true) : Halts (.error cause) (front ++ last :: back)

namespace Halts

variable {α : Type} {r : Except SocketError α} {log : List Exchange}

/-- What halts succeeds just if every failure of it is tolerated. -/
theorem ok_iff (h : Halts r log) : (∃ a, r = .ok a) ↔ ∀ e ∈ log, e.tolerated = true := by
  cases h with
  | whole a log calm => exact ⟨fun _ => List.all_eq_true.mp calm, fun _ => ⟨a, rfl⟩⟩
  | cut cause front last back calm counts closes =>
      constructor
      · rintro ⟨a, ha⟩
        cases ha
      · intro hall
        have hlast := hall last (List.mem_append_right _ List.mem_cons_self)
        rw [counts] at hlast
        cases hlast

/-- **After a failure that counts nothing but a close is called.**. -/
theorem stops (h : Halts r log) :
    log.Pairwise fun e later => e.tolerated = true ∨ later.closes = true := by
  cases h with
  | whole a log calm =>
      refine List.pairwise_of_forall_mem_list fun e he later _ => ?_
      exact Or.inl (List.all_eq_true.mp calm e he)
  | cut cause front last back calm counts closes =>
      have hback := List.all_eq_true.mp closes
      refine List.pairwise_append.mpr ⟨?front, List.pairwise_cons.mpr ⟨?last, ?back⟩, ?apart⟩
      case front =>
        refine List.pairwise_of_forall_mem_list fun e he later _ => ?_
        exact Or.inl (List.all_eq_true.mp calm e he)
      case last =>
        intro later hlater
        exact Or.inr (hback later hlater)
      case back =>
        refine List.pairwise_of_forall_mem_list fun e _ later hlater => ?_
        exact Or.inr (hback later hlater)
      case apart =>
        intro e he later _
        exact Or.inl (List.all_eq_true.mp calm e he)

end Halts

namespace Sctp

variable {family : AddressFamily} {kind : SocketKind} {fd : Fd}

/-- Tuning halts at its first failure, and closes nothing itself. -/
theorem Tuning.halts {r : Except SocketError Unit} {tuning : List Exchange}
    (h : Tuning fd r tuning) : Halts r tuning ∧ tuning.all (fun e => !e.closes) = true := by
  cases h with
  | timeoutsUnread errno => exact ⟨.cut _ [] _ [] rfl rfl rfl, rfl⟩
  | timeoutsUnwritten rto errno => exact ⟨.cut _ [_] _ [] rfl rfl rfl, rfl⟩
  | handshakeUnread rto errno => exact ⟨.cut _ [_, _] _ [] rfl rfl rfl, rfl⟩
  | handshakeUnwritten rto init errno => exact ⟨.cut _ [_, _, _] _ [] rfl rfl rfl, rfl⟩
  | tuned rto init => exact ⟨.whole _ _ rfl, rfl⟩

variable {r : Except SocketError Fd} {log : List Exchange}

/-- **So does opening, and then it closes** what it opened. -/
theorem Opening.halts (h : Opening family kind r log) : Halts r log := by
  cases h with
  | refused errno => exact .cut _ [] _ [] rfl rfl rfl
  | opened fd subscribed tunes =>
      cases tunes.halts.1 with
      | whole _ _ calm => exact .whole fd _ calm
  | abandoned fd subscribed fails =>
      cases fails.halts.1 with
      | cut _ front last back calm counts closes =>
          have hclosed : (back ++ [(⟨.close fd, ()⟩ : Exchange)]).all Exchange.closes = true := by
            rw [List.all_append, closes]
            rfl
          simpa using Halts.cut _
            (⟨creating family kind, .ok fd⟩ :: ⟨subscribing fd, subscribed⟩ :: front) last _ calm
            counts hclosed

/-- Where nothing closes, there are no closes. -/
theorem filter_closes {log : List Exchange} (h : log.all (fun e => !e.closes) = true) :
    log.filter Exchange.closes = [] := by
  refine List.filter_eq_nil_iff.mpr fun e he => ?_
  simpa using List.all_eq_true.mp h e he

/-- A socket that is not answered is closed once. -/
theorem Opening.closed (h : Opening family kind r log)
    (hfd : log.head? = some ⟨creating family kind, .ok fd⟩) :
    log.filter Exchange.closes = if r.isOk then [] else [⟨.close fd, ()⟩] := by
  cases h with
  | refused errno => cases hfd
  | opened fd' subscribed tunes => exact filter_closes tunes.halts.2
  | @abandoned fd' subscribed cause tuning fails =>
      cases hfd
      show (tuning ++ [_]).filter Exchange.closes = _
      rw [List.filter_append, filter_closes fails.halts.2]
      rfl

end Sctp

/-! ## Every open -/

/-- What an open comes to, with all that it exchanges. -/
structure Opens (family : AddressFamily) (kind : SocketKind) (protocol : Protocol)
    (r : Except SocketError Fd) (log : List Exchange) : Prop where
  /-- SCTP goes through the chain of six calls. -/
  chain : protocol = .sctp → Sctp.Opening family kind r log
  /-- TCP and UDP make one call, and no option call. -/
  plain : protocol ≠ .sctp → ∃ created,
    log = [⟨.socket family.number (kind.number ||| 0x80000) protocol.number, created⟩] ∧
      r = created.mapError fun errno => .create errno protocol.name
  /-- A socket is answered exactly if nothing failed but the subscription. -/
  ok_iff : (∃ fd, r = .ok fd) ↔ ∀ e ∈ log, e.tolerated = true
  /-- After a failure of anything else nothing follows but a close. -/
  stops : log.Pairwise fun e later => e.tolerated = true ∨ later.closes = true
  /-- A socket that is answered stays open, and one that is not is closed once. -/
  closed : ∀ fd,
    log.head? = some ⟨.socket family.number (kind.number ||| 0x80000) protocol.number, .ok fd⟩ →
      log.filter Exchange.closes = if r.isOk then [] else [⟨.close fd, ()⟩]
  /-- Of a block of timeouts the association is cleared and the upper bound set. -/
  timeouts : ∀ rto : Bytes, rto.length = 16 →
    let written := Sctp.retimed (Bytes.padTo Sctp.RetransmissionInfo.size rto)
    written.length = 16 ∧ Bytes.fieldLE written 0 4 = 0 ∧ Bytes.fieldLE written 8 4 = 6000 ∧
      ∀ i, 4 ≤ i → i < 8 ∨ 12 ≤ i → written[i]? = rto[i]?
  /-- Of a block of handshake parameters the attempts and their timeout are set. -/
  handshake : ∀ init : Bytes, init.length = 8 →
    let written := Sctp.retried (Bytes.padTo Sctp.InitInfo.size init)
    written.length = 8 ∧ Bytes.fieldLE written 4 2 = 3 ∧ Bytes.fieldLE written 6 2 = 5000 ∧
      ∀ i, i < 4 → written[i]? = init[i]?

/-- A socket of another protocol is made by one call and not tuned. -/
theorem ends_openSocket_plain (family : AddressFamily) (kind : SocketKind) {protocol : Protocol}
    (h : protocol ≠ .sctp) :
    (openSocket family kind protocol).Ends fun r log => ∃ created,
      log = [⟨.socket family.number (kind.number ||| 0x80000) protocol.number, created⟩] ∧
        r = created.mapError fun errno => .create errno protocol.name := by
  refine ends_bind (ends_ask _) fun created front hfront => ?_
  subst hfront
  cases created with
  | error errno => exact ends_pure ⟨.error errno, rfl, rfl⟩
  | ok fd =>
      show Program.Ends (if protocol = .sctp then _ else _) _
      rw [if_neg h]
      exact ends_pure ⟨.ok fd, rfl, rfl⟩

/-- **Every open**, of whatever family, kind and protocol, and whatever the kernel answers. -/
theorem openSocket_tunes {σ : Type} (k : Kernel σ) (world : σ) (family : AddressFamily)
    (kind : SocketKind) (protocol : Protocol) :
    Opens family kind protocol ((openSocket family kind protocol).run k world).1
      ((openSocket family kind protocol).exchanges k world) := by
  by_cases hsctp : protocol = .sctp
  · subst hsctp
    have hchain := (Sctp.ends_openSocket_sctp family kind).run k world
    exact ⟨fun _ => hchain, fun hne => absurd rfl hne, hchain.halts.ok_iff, hchain.halts.stops,
      fun _ => hchain.closed, fun _ => Sctp.retimed_keeps, fun _ => Sctp.retried_keeps⟩
  · have hplain := (ends_openSocket_plain family kind hsctp).run k world
    obtain ⟨created, hlog, hr⟩ := hplain
    have hhalts : Halts ((openSocket family kind protocol).run k world).1
        ((openSocket family kind protocol).exchanges k world) := by
      rw [hlog, hr]
      cases created with
      | error errno => exact .cut _ [] _ [] rfl rfl rfl
      | ok fd => exact .whole fd _ rfl
    refine ⟨fun heq => absurd heq hsctp, fun _ => ⟨created, hlog, hr⟩, hhalts.ok_iff, hhalts.stops,
      ?closed, fun _ => Sctp.retimed_keeps, fun _ => Sctp.retried_keeps⟩
    intro fd hfd
    rw [hlog] at hfd
    cases hfd
    rw [hlog, hr]
    rfl

end ReceiveReactor
