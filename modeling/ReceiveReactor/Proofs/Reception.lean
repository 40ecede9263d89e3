import ReceiveReactor.Proofs.Attempt

/-!
# One receive and its reply

A receive task makes one call, and all that comes of it is a function of the kernel's
reply.  The three kinds differ in the call, in what the reply tells about the origin of the
data, and in the replies that end a registration.

* `ReceiveTask.call`, `ReceiveTask.arrival` — the call of each kind, and what its reply
  tells;
* `ReceiveTask.Retires` — **the replies that end a registration**;
* `ReceiveTask.reception`, `ReceiveTask.receive_eq` — a receive **is** its one call;
* `ReceiveTask.settlement`, `ReceiveTask.attempt_eq` — and so is an attempt that has a
  buffer.
-/

namespace ReceiveReactor

/-- What a successful reply to a receive tells, whatever the call was. -/
structure Arrival where
  /-- The count that the kernel returned, as a word. -/
  count : Nat
  /-- What it stored at the beginning of the buffer. -/
  data : Bytes
  origin : Origin
deriving DecidableEq, Repr

namespace Arrival

/-- A datagram tells its sender. -/
def ofDatagram (r : ReceivedFrom) : Arrival where
  count := wordOfCount r.count
  data := r.data
  origin := { sender := r.sender.address? }

/-- A message tells its sender, what the ancillary records say, and its flags. -/
def ofMessage (r : ReceivedMessage) : Arrival where
  count := wordOfCount r.count
  data := r.data
  origin :=
    { sender := r.sender.address?
      info := Sctp.sendInfoOf (Sctp.ancillaryArea r) r.control.length
      flags := r.flags }

/-- A stream tells nothing of the kind. -/
def ofStream (r : Received) : Arrival where
  count := wordOfCount r.count
  data := r.data
  origin := {}

end Arrival

/-- **A pool with room grants a buffer**, if there can be one of that size. -/
theorem BufferPool.exists_granted {p : BufferPool} (hp : p.Uniform)
    (hsize : p.capacity ≤ maxStorage) (hroom : p.outstanding < p.limit) :
    ∃ b next, p.allocate = (.granted b, next) ∧ b.capacity = p.capacity ∧
      p.Leads next (p.outstanding + 1) := by
  have hcases := allocate_allocates hp
  generalize p.allocate = answer at hcases ⊢
  obtain ⟨allocation, next⟩ := answer
  cases hcases with
  | exhausted hfull => exact absurd hroom (Nat.not_lt.mpr hfull)
  | granted b _ hroom hcapacity hnext => exact ⟨b, next, rfl, hcapacity, hnext⟩
  | panicked _ hlarge hnext => exact absurd hsize (Nat.not_le.mpr hlarge)

/-- An error number of a class of its own is in the table. -/
theorem Errno.mem_kinds {e : Errno} {κ : ErrorKind} (hκ : κ ≠ .other) (h : e.kind = κ) :
    (e, κ) ∈ Errno.kinds := by
  rw [Errno.kind] at h
  cases hlookup : Errno.kinds.lookup e with
  | none =>
      rw [hlookup] at h
      exact absurd h.symm hκ
  | some κ' =>
      rw [hlookup] at h
      obtain rfl : κ' = κ := h
      obtain ⟨front, back, hkinds, -⟩ := List.lookup_eq_some_iff.mp hlookup
      rw [hkinds]
      exact List.mem_append_right _ List.mem_cons_self

/-- **Just two error numbers** of a receive pass by themselves: *no data yet*, and
*interrupted*. -/
theorem IoError.isTransient_ofReceive_iff (errno : Errno) :
    (IoError.ofReceive errno).isTransient = true ↔
      errno = Errno.wouldBlock ∨ errno = Errno.interrupted := by
  have hwould : ∀ p ∈ Errno.kinds, p.2 = .wouldBlock → p.1 = Errno.wouldBlock := by decide
  have hinterrupted : ∀ p ∈ Errno.kinds, p.2 = .interrupted → p.1 = Errno.interrupted := by decide
  unfold ofReceive
  split
  · next h => exact iff_of_true rfl (Or.inl h)
  · next hother =>
      split
      · next h => exact iff_of_true rfl (Or.inr h)
      · next hlasting =>
          refine iff_of_false (fun h => ?_) (not_or_intro hother hlasting)
          rcases Bool.or_eq_true_iff.mp h with h | h
          · exact hother (hwould _ (Errno.mem_kinds (by decide) (of_decide_eq_true h)) rfl)
          · exact hlasting (hinterrupted _ (Errno.mem_kinds (by decide) (of_decide_eq_true h)) rfl)

namespace ReceiveTask

/-- The call of a receive into a buffer of `size` bytes. -/
def call : TaskKind → Fd → (size : Nat) → Call
  | .datagram, fd, size => .recvfrom fd size Transfer.truncateFlag
  | .message, fd, size => .recvmsg fd size Sctp.controlSize 0
  | .stream, fd, size => .read fd size

/-- What the kernel's reply to that call tells. -/
def arrival : {kind : TaskKind} → {fd : Fd} → {size : Nat} → (call kind fd size).Reply →
    Except Errno Arrival
  | .datagram, _, _, reply => Except.map Arrival.ofDatagram reply
  | .message, _, _, reply => Except.map Arrival.ofMessage reply
  | .stream, _, _, reply => Except.map Arrival.ofStream reply

/-- **The replies that end a registration.**  Every other reply keeps it. -/
inductive Retires : TaskKind → Except Errno Arrival → Prop where
  /-- A message of length 0 that is no notification. -/
  | emptyMessage (a : Arrival) (hzero : a.count = 0)
      (hdata : Sctp.isNotification a.origin.flags = false) : Retires .message (.ok a)
  /-- A stream from which nothing was read. -/
  | emptyRead (a : Arrival) (hzero : a.count = 0) : Retires .stream (.ok a)
  /-- An error on a stream, but *no data yet* and *interrupted*. -/
  | lasting (errno : Errno) (hwould : errno ≠ Errno.wouldBlock)
      (hinterrupted : errno ≠ Errno.interrupted) : Retires .stream (.error errno)

namespace Retires

variable {a : Arrival} {errno : Errno} {reply : Except Errno Arrival}

/-- No datagram ends a registration. -/
@[simp] theorem not_datagram : ¬ Retires .datagram reply := fun h => nomatch h

/-- No error on messages does. -/
@[simp] theorem not_message_error : ¬ Retires .message (.error errno) := fun h => nomatch h

/-- A message does just if it is empty and no notification. -/
@[simp] theorem message_ok_iff :
    Retires .message (.ok a) ↔ a.count = 0 ∧ Sctp.isNotification a.origin.flags = false := by
  refine ⟨fun h => ?_, fun h => .emptyMessage a h.1 h.2⟩
  cases h with
  | emptyMessage _ hzero hdata => exact ⟨hzero, hdata⟩

/-- A read from a stream does just if it read nothing. -/
@[simp] theorem stream_ok_iff : Retires .stream (.ok a) ↔ a.count = 0 := by
  refine ⟨fun h => ?_, .emptyRead a⟩
  cases h with
  | emptyRead _ hzero => exact hzero

/-- An error on a stream does unless it is one of the two that pass by themselves. -/
@[simp] theorem stream_error_iff :
    Retires .stream (.error errno) ↔ ¬ (errno = Errno.wouldBlock ∨ errno = Errno.interrupted) := by
  rw [not_or]
  refine ⟨fun h => ?_, fun h => .lasting errno h.1 h.2⟩
  cases h with
  | lasting _ hwould hinterrupted => exact ⟨hwould, hinterrupted⟩

end Retires

instance : (kind : TaskKind) → (reply : Except Errno Arrival) → Decidable (Retires kind reply)
  | .datagram, _ => .isFalse Retires.not_datagram
  | .message, .error _ => .isFalse Retires.not_message_error
  | .message, .ok _ => decidable_of_iff _ Retires.message_ok_iff.symm
  | .stream, .ok _ => decidable_of_iff _ Retires.stream_ok_iff.symm
  | .stream, .error _ => decidable_of_iff _ Retires.stream_error_iff.symm

/-- What comes of a reply. -/
def reception (kind : TaskKind) (b : Buffer) (reply : Except Errno Arrival) : Reception :=
  match reply with
  | .error _ => ⟨if Retires kind reply then .retire else .keep, b, none⟩
  | .ok a =>
    if Retires kind reply then ⟨.retire, b.receive a.data, none⟩
    else ⟨.keep, (b.receive a.data).setLen a.count, some a.origin⟩

variable {kind : TaskKind}

/-! ## The receive as its call -/

/-- Cutting a length twice at the capacity cuts it once. -/
theorem setLen_min (b : Buffer) (n : Nat) : b.setLen (min n b.capacity) = b.setLen n := by
  rw [Buffer.setLen, Buffer.setLen, Nat.min_assoc, Nat.min_self]

/-- A reply that ends the registration is not delivered. -/
theorem reception_of_retires {b : Buffer} {a : Arrival} (h : Retires kind (.ok a)) :
    reception kind b (.ok a) = ⟨.retire, b.receive a.data, none⟩ :=
  if_pos h

/-- Any other success is delivered, **as long as the kernel says**, with its origin. -/
theorem reception_of_not_retires {b : Buffer} {a : Arrival} (h : ¬ Retires kind (.ok a)) :
    reception kind b (.ok a) = ⟨.keep, (b.receive a.data).setLen a.count, some a.origin⟩ :=
  if_neg h

/-- A datagram's receive is its one call. -/
theorem receiveDatagram_eq (fd : Fd) (b : Buffer) :
    receiveDatagram fd b =
      .call (.recvfrom fd b.capacity Transfer.truncateFlag) fun reply =>
        .done (reception .datagram b (reply.map .ofDatagram)) := by
  refine congrArg (Program.call _) (funext fun reply => ?_)
  cases reply with
  | error errno => rfl
  | ok r =>
      have hcut := setLen_min (b.receive r.data) (wordOfCount r.count)
      rw [Buffer.capacity_receive] at hcut
      rw [Except.map, reception_of_not_retires Retires.not_datagram, Arrival.ofDatagram, ← hcut]
      rfl

/-- So is a message's. -/
theorem receiveMessage_eq (fd : Fd) (b : Buffer) :
    receiveMessage fd b =
      .call (.recvmsg fd b.capacity Sctp.controlSize 0) fun reply =>
        .done (reception .message b (reply.map .ofMessage)) := by
  refine congrArg (Program.call _) (funext fun reply => ?_)
  cases reply with
  | error errno => rfl
  | ok r =>
      by_cases hends : Retires .message (.ok (.ofMessage r))
      · obtain ⟨hzero, hdata⟩ := Retires.message_ok_iff.mp hends
        rw [Except.map, reception_of_retires hends]
        refine if_pos (Bool.and_eq_true_iff.mpr ⟨decide_eq_true hzero, ?_⟩)
        rw [Bool.not_eq_true']
        exact hdata
      · rw [Except.map, reception_of_not_retires hends]
        refine if_neg fun h => hends (Retires.message_ok_iff.mpr ?_)
        obtain ⟨hzero, hdata⟩ := Bool.and_eq_true_iff.mp h
        rw [Bool.not_eq_true'] at hdata
        exact ⟨of_decide_eq_true hzero, hdata⟩

/-- So is a stream's. -/
theorem receiveStream_eq (fd : Fd) (b : Buffer) :
    receiveStream fd b =
      .call (.read fd b.capacity) fun reply =>
        .done (reception .stream b (reply.map .ofStream)) := by
  refine congrArg (Program.call _) (funext fun reply => ?_)
  cases reply with
  | error errno =>
      have hpasses := IoError.isTransient_ofReceive_iff errno
      rw [Except.map, reception]
      simp only [Retires.stream_error_iff, ← hpasses, ite_not]
      rfl
  | ok r =>
      by_cases hends : Retires .stream (.ok (.ofStream r))
      · rw [Except.map, reception_of_retires hends]
        exact if_pos (Retires.stream_ok_iff.mp hends)
      · rw [Except.map, reception_of_not_retires hends]
        exact if_neg (mt Retires.stream_ok_iff.mpr hends)

/-- **A receive is its one call**, and then a function of the reply. -/
theorem receive_eq (kind : TaskKind) (fd : Fd) (b : Buffer) :
    receive kind fd b =
      .call (call kind fd b.capacity) fun reply => .done (reception kind b (arrival reply)) := by
  cases kind with
  | datagram => exact receiveDatagram_eq fd b
  | message => exact receiveMessage_eq fd b
  | stream => exact receiveStream_eq fd b

/-! ## The attempt as its call -/

/-- What an attempt comes to that took its buffer out of a pool, which left `next`. -/
def settlement (next : BufferPool) (r : Reception) : Attempt × BufferPool :=
  match r.origin with
  | some origin => (⟨r.verdict, some ⟨r.buffer, origin⟩⟩, next)
  | none => (⟨r.verdict, none⟩, next.release r.buffer)

/-- The buffer of a reply that ends the registration **goes back to the pool**. -/
theorem settlement_of_retires {b : Buffer} {next : BufferPool} {a : Arrival}
    (h : Retires kind (.ok a)) :
    settlement next (reception kind b (.ok a)) =
      (⟨.retire, none⟩, next.release (b.receive a.data)) := by
  rw [reception_of_retires h, settlement]

/-- The buffer of any other success goes to the consumer. -/
theorem settlement_of_not_retires {b : Buffer} {next : BufferPool} {a : Arrival}
    (h : ¬ Retires kind (.ok a)) :
    settlement next (reception kind b (.ok a)) =
      (⟨.keep, some ⟨(b.receive a.data).setLen a.count, a.origin⟩⟩, next) := by
  rw [reception_of_not_retires h, settlement]

/-- **An attempt that has a buffer is one call**, and then a function of the reply. -/
theorem attempt_eq {pool next : BufferPool} {b : Buffer}
    (hgranted : pool.allocate = (.granted b, next)) (kind : TaskKind) (fd : Fd) :
    attempt kind fd pool =
      .call (call kind fd b.capacity) fun reply =>
        .done (settlement next (reception kind b (arrival reply))) := by
  rw [attempt, hgranted]
  simp only [receive_eq]
  refine congrArg (Program.call _) (funext fun reply => ?_)
  show Program.bind (.done (reception kind b (arrival reply))) _ = _
  generalize reception kind b (arrival reply) = r
  obtain ⟨verdict, filled, origin⟩ := r
  cases origin <;> rfl

/-- Without room in the pool **there is no call**. -/
theorem attempt_eq_of_full {pool : BufferPool} (hfull : pool.limit ≤ pool.outstanding)
    (kind : TaskKind) (fd : Fd) : attempt kind fd pool = .done (⟨.keep, none⟩, pool) := by
  have hexhausted : pool.allocate = (.exhausted, pool) := if_pos hfull
  rw [attempt, hexhausted]
  rfl

end ReceiveTask

end ReceiveReactor
