import ReceiveReactor.Kernel.Program

/-!
# A kernel that follows a script

A script answers each call with the next prepared reply, whatever the call is,
and keeps the calls that were made.  A call without a reply fails as not
implemented; closing takes no reply.  Replies need not be plausible: a count
may be larger than the data beside it.

* `Script.answer` — the next reply, shaped for a call;
* `Script.kernel` — the script as a kernel.
-/

namespace ReceiveReactor

/-- One prepared reply.  With `failure` nothing else counts. -/
structure ScriptedReply where
  failure : Option Errno := none
  /-- What the call returns. -/
  returned : Int := 0
  /-- Returns a fresh descriptor instead; a pipe makes two. -/
  opens : Bool := false
  /-- Stored into the option buffer. -/
  option : Bytes := []
  /-- The address stored, with the length that is reported for it. -/
  address : Option (Bytes × Nat) := none
  /-- Stored into the receive buffer. -/
  data : Bytes := []
  /-- Stored into the ancillary area. -/
  control : Bytes := []
  flags : Int32 := 0
  /-- What a wait finds on each slot. -/
  results : List Events := []
deriving DecidableEq, Repr

/-- The replies that are left, how many descriptors were made, and the calls
made so far, in order. -/
structure Script where
  replies : List ScriptedReply := []
  made : Nat := 0
  calls : List Call := []
deriving DecidableEq, Repr

namespace Script

/-- The number below the first fresh descriptor. -/
def descriptorBase : Nat := 0x20000000

/-- The descriptor that is made as the `n`-th, counted from 1. -/
def descriptor (n : Nat) : Fd := Int32.ofNat (descriptorBase + n)

/-- As which one a fresh descriptor was made. -/
def ordinal? (s : Script) (fd : Fd) : Option Nat :=
  let n := fd.toInt - descriptorBase
  if 0 < n ∧ n ≤ s.made then some n.toNat else none

/-- The area for an address after a reply. -/
def stored (r : ScriptedReply) : StoredAddress :=
  match r.address with
  | some (bytes, length) => .ofBytes bytes length
  | none => .untouched

/-- The descriptor that a reply returns, and how many were made then. -/
def returnedFd (r : ScriptedReply) (made : Nat) : Fd × Nat :=
  if r.opens then (descriptor (made + 1), made + 1) else (Int32.ofInt r.returned, made)

/-- A successful reply as the answer to a call. -/
def shape (r : ScriptedReply) (made : Nat) : (c : Call) → c.Reply × Nat
  | .socket .. => let (fd, made) := returnedFd r made; (.ok fd, made)
  | .accept .. => let (fd, made) := returnedFd r made; (.ok (fd, stored r), made)
  | .pipe .. =>
    if r.opens then (.ok (descriptor (made + 1), descriptor (made + 2)), made + 2)
    else (.ok (0, 0), made)
  | .bind .. | .connect .. | .listen .. | .setsockopt .. | .descriptorFlags ..
  | .setStatusFlags .. => (.ok (), made)
  | .getsockname .. => (.ok (stored r), made)
  | .getsockopt _ _ _ size => (.ok (r.option.take size), made)
  | .recvfrom _ size _ =>
    (.ok { count := r.returned, data := r.data.take size, sender := stored r }, made)
  | .recvmsg _ size controlSize _ =>
    (.ok
      { count := r.returned
        data := r.data.take size
        sender := stored r
        control := r.control.take controlSize
        flags := r.flags }, made)
  | .sendto .. | .send .. | .write .. => (.ok r.returned, made)
  | .read _ size => (.ok { count := r.returned, data := r.data.take size }, made)
  | .statusFlags .. => (.ok (Int32.ofInt r.returned), made)
  | .poll .. => (.ok (r.returned, r.results), made)
  | .close _ => ((), made)

/-- A failure as the answer to a call; closing cannot fail. -/
def refuse (errno : Errno) : (c : Call) → c.Reply
  | .close _ => ()
  | .socket .. | .bind .. | .connect .. | .listen .. | .accept .. | .getsockname ..
  | .getsockopt .. | .setsockopt .. | .recvfrom .. | .recvmsg .. | .sendto .. | .send ..
  | .read .. | .write .. | .descriptorFlags .. | .statusFlags .. | .setStatusFlags ..
  | .poll .. | .pipe .. => .error errno

/-- Whether a call takes a reply. -/
def takesReply : Call → Bool
  | .close _ => false
  | _ => true

/-- Answers a call with the next reply. -/
def answer (c : Call) (s : Script) : c.Reply × Script :=
  let s := { s with calls := s.calls ++ [c] }
  if takesReply c then
    match s.replies with
    | [] => (refuse .notImplemented c, s)
    | r :: replies =>
      match r.failure with
      | some errno => (refuse errno c, { s with replies })
      | none =>
        let (reply, made) := shape r s.made c
        (reply, { s with replies, made })
  else (refuse .none c, s)

/-- A script as a kernel. -/
def kernel : Kernel Script := ⟨answer⟩

end Script

end ReceiveReactor
