import ReceiveReactor.Host.Answer

/-!
# One read of a connected stream

A read takes unread bytes from the front, as far as there is room, or finds that there are
none and will be none, or fails.  **A read of no bytes** moves nothing and answers 0,
whatever is there.

* `StreamRead` — what a read can come to;
* `StreamSocket` — a descriptor whose reads are such;
* `Host.Endpoint.takeChunks_append`, `Host.Endpoint.takeChunks_ne_nil` — a run of chunks
  loses bytes at its front only, and loses some;
* `Host.streamSocket` — **the streams of the host**.
-/

namespace ReceiveReactor

/-- What a read of `size` bytes comes to on a stream with `unread` bytes, and what is unread
then.  When the stream has `ended`, no bytes will follow those. -/
inductive StreamRead (ended : Bool) (size : Nat) :
    (unread : Bytes) → Except Errno Received → (rest : Bytes) → Prop where
  | nothing (unread : Bytes) (hzero : size = 0) :
      StreamRead ended size unread (.ok { count := 0 }) unread
  | takes (front rest : Bytes) (hsome : front ≠ []) (hfits : front.length ≤ size) :
      StreamRead ended size (front ++ rest) (.ok { count := front.length, data := front }) rest
  | ends (hended : ended = true) : StreamRead ended size [] (.ok { count := 0 }) []
  | fails (errno : Errno) (unread : Bytes) (hroom : size ≠ 0) :
      StreamRead ended size unread (.error errno) unread

/-- A descriptor of a stream, **with what the kernel promises** of its reads. -/
structure StreamSocket {σ : Type} (k : Kernel σ) (fd : Fd) where
  /-- The descriptor is open, and its stream was connected. -/
  live : σ → Prop
  unread : σ → Bytes
  /-- The far end will send nothing more. -/
  ended : σ → Bool
  reads : ∀ size s, live s → StreamRead (ended s) size (unread s)
    (k.answer (.read fd size) s).1 (unread (k.answer (.read fd size) s).2)

namespace StreamSocket

variable {σ : Type} {k : Kernel σ} {fd : Fd} {size : Nat} {s : σ}

/-- **The end of the stream**: every byte was read, and no more will come. -/
def AtEnd (P : StreamSocket k fd) (s : σ) : Prop := P.unread s = [] ∧ P.ended s = true

end StreamSocket

/-! ## The streams of the host -/

namespace Host

namespace Endpoint

/-- What is taken off a run of chunks stood in front. -/
theorem takeChunks_append (size : Nat) (chunks : List Bytes) :
    (takeChunks size chunks).1 ++ (takeChunks size chunks).2.flatten = chunks.flatten := by
  induction chunks generalizing size with
  | nil => rfl
  | cons chunk rest ih =>
      by_cases hwhole : chunk.length ≤ size
      · simp only [takeChunks, if_pos hwhole, List.flatten_cons, List.append_assoc, ih]
      · simp only [takeChunks, if_neg hwhole, List.flatten_cons, ← List.append_assoc,
          List.take_append_drop]

/-- No more is taken than there is room for. -/
theorem length_takeChunks_le (size : Nat) (chunks : List Bytes) :
    (takeChunks size chunks).1.length ≤ size := by
  induction chunks generalizing size with
  | nil => exact Nat.zero_le size
  | cons chunk rest ih =>
      by_cases hwhole : chunk.length ≤ size
      · have hrest := ih (size - chunk.length)
        simp only [takeChunks, if_pos hwhole, List.length_append]
        omega
      · simp only [takeChunks, if_neg hwhole]
        exact List.length_take_le _ _

/-- Where there is room and no chunk is empty, something is taken. -/
theorem takeChunks_ne_nil {size : Nat} {chunks : List Bytes} (hroom : size ≠ 0)
    (hsome : chunks ≠ []) (hfull : [] ∉ chunks) : (takeChunks size chunks).1 ≠ [] := by
  cases chunks with
  | nil => exact absurd rfl hsome
  | cons chunk rest =>
      have hchunk : chunk ≠ [] := fun hnil => hfull (hnil ▸ List.mem_cons_self)
      by_cases hwhole : chunk.length ≤ size
      · simp only [takeChunks, if_pos hwhole]
        exact List.append_ne_nil_of_left_ne_nil hchunk _
      · simp only [takeChunks, if_neg hwhole]
        exact mt List.take_eq_nil_iff.mp (not_or_intro hroom hchunk)

/-- A connected stream between sockets of this machine.  No chunk is empty: nothing is
queued for a write of no bytes. -/
structure IsLiveStream (e : Endpoint) : Prop where
  family : e.family = .unix
  kind : e.kind = .stream
  connected : e.connected = true
  chunks : [] ∉ e.inbox

/-- **A receive from a connected stream** is a read of its unread bytes. -/
theorem IsLiveStream.receive {e : Endpoint} (he : e.IsLiveStream) {size : Nat} (hroom : size ≠ 0) :
    StreamRead e.receiveShut size e.inbox.flatten
      ((e.receive size false).1.map fun t => { count := t.count, data := t.data })
      (e.receive size false).2.inbox.flatten := by
  have hstream : e.isStream = true := decide_eq_true he.kind
  simp only [Endpoint.receive, he.family, if_pos hstream, receiveBytes, he.connected,
    Bool.not_true, Bool.false_eq_true, if_false]
  by_cases hempty : e.inbox = []
  · have hnone : e.inbox.flatten = [] := by rw [hempty, List.flatten_nil]
    rw [if_neg (not_not_intro hempty), orPending]
    cases e.pending with
    | some errno => exact .fails errno _ hroom
    | none =>
        show StreamRead _ size e.inbox.flatten _ e.inbox.flatten
        rw [hnone]
        cases hended : e.receiveShut with
        | true => exact .ends rfl
        | false => exact .fails _ [] hroom
  · have hrun := takeChunks_append size e.inbox
    rw [if_pos hempty]
    generalize htaken : takeChunks size e.inbox = taken at hrun
    obtain ⟨data, inbox⟩ := taken
    rw [← hrun]
    refine .takes data inbox.flatten ?_ ?_
    · have hsome := takeChunks_ne_nil hroom hempty he.chunks
      rwa [htaken] at hsome
    · have hfits := length_takeChunks_le size e.inbox
      rwa [htaken] at hfits

end Endpoint

/-- A read of a socket does not change what descriptors refer to. -/
theorem socket?_modifyEndpoint {h : Host} {fd : Fd} {d : Descriptor} {id : Nat} {e : Endpoint}
    (hd : h.find? fd = some d) (htarget : d.target = .socket id) (he : h.endpoint? id = some e)
    (f : Endpoint → Endpoint) : (h.modifyEndpoint id f).socket? fd = some (f e) := by
  have hd' : (h.modifyEndpoint id f).find? fd = some d := hd
  have he' : (h.modifyEndpoint id f).endpoint? id = some (f e) := by
    rw [endpoint?] at he
    simp [endpoint?, modifyEndpoint, he]
  simp only [socket?, hd', Option.bind_some, htarget, he']

/-- **A descriptor of the host as a stream.** -/
def streamSocket (fd : Fd) : StreamSocket Host.kernel fd where
  live h := ∃ e, h.socket? fd = some e ∧ e.IsLiveStream
  unread h := ((h.socket? fd).map (·.inbox.flatten)).getD []
  ended h := ((h.socket? fd).map (·.receiveShut)).getD false
  reads := by
    rintro size h ⟨e, hsocket, he⟩
    obtain ⟨d, hd, hbehind⟩ := Option.bind_eq_some_iff.mp hsocket
    cases htarget : d.target with
    | pipeReader id => rw [htarget] at hbehind; cases hbehind
    | pipeWriter id => rw [htarget] at hbehind; cases hbehind
    | socket id =>
        rw [htarget] at hbehind
        replace hbehind : h.endpoint? id = some e := hbehind
        show StreamRead _ size _ (h.read fd size).1 ((((h.read fd size).2.socket? fd).map _).getD _)
        simp only [read, hd, htarget, hbehind, hsocket, Option.map_some, Option.getD_some]
        split
        · next hzero =>
            simp only [hsocket, Option.map_some, Option.getD_some]
            exact .nothing _ hzero
        · next hroom =>
            have hafter :=
              socket?_modifyEndpoint hd htarget hbehind fun _ => (e.receive size false).2
            simp only [receive, hafter, Option.map_some, Option.getD_some]
            exact he.receive hroom

end Host

end ReceiveReactor
