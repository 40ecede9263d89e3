import ReceiveReactor.Proofs.Exchange
import ReceiveReactor.Proofs.Reception
import ReceiveReactor.Proofs.StreamSocket
import ReceiveReactor.Socket.Handle

/-!
# The end of a stream

A count of 0 is taken for the end of the stream: a read then closes its handle, and a
receive task ends its registration.  But a read of no bytes counts 0 as well, on a stream
that goes on.

* `Handle.run_read_of_zero`, `Handle.run_read_of_ne_zero` — what a read does with a count;
* `StreamSocket.read_cases` — which counts a stream gives;
* `StreamSocket.Truthful`, `StreamSocket.TellsEnd` — the end is told only at the end, and
  the end is told;
* `StreamSocket.end_told_iff` — **the end is told of a live stream exactly when nothing
  was asked for**;
* `StreamSocket.live_stream_ended` — a stream with unread bytes that is told to be over.
-/

namespace ReceiveReactor

variable {σ : Type} {k : Kernel σ} {fd : Fd} {size : Nat} {s : σ}

namespace Handle

variable {h : Handle}

/-- What is left to do for a handle after the kernel's reply to its read. -/
def afterRead (h : Handle) : Except Errno Received →
    Program (Except Error (Nat × Bytes) × Handle)
  | .error errno => return (.error (IoError.ofReceive errno : Error), h)
  | .ok r =>
    if wordOfCount r.count = 0 then return (.ok (0, r.data), ← h.close)
    else return (.ok (wordOfCount r.count, r.data), h)

/-- **A read of an open handle is one call**, and then it closes the handle or not. -/
theorem read_eq (hfd : h.fd = some fd) (size : Nat) :
    h.read size = .call (.read fd size) h.afterRead := by
  rw [read, hfd]
  refine congrArg (Program.call _) (funext fun reply => ?_)
  cases reply with
  | error errno => rfl
  | ok r =>
      rw [afterRead]
      by_cases hzero : wordOfCount r.count = 0
      · rw [if_pos hzero]
        show Program.bind (.done (Except.ok (wordOfCount r.count, r.data))) _ = _
        rw [hzero]
        rfl
      · rw [if_neg hzero]
        show Program.bind (.done (Except.ok (wordOfCount r.count, r.data))) _ = _
        generalize wordOfCount r.count = count at hzero ⊢
        cases count with
        | zero => exact absurd rfl hzero
        | succ n => rfl

/-- **A count of 0 closes the handle.** -/
theorem run_read_of_zero {r : Received} (hfd : h.fd = some fd)
    (hreply : (k.answer (.read fd size) s).1 = .ok r) (hzero : wordOfCount r.count = 0) :
    ((h.read size).run k s).1 = (.ok (0, r.data), { h with fd := none }) ∧
      (h.read size).exchanges k s = [⟨.read fd size, .ok r⟩, ⟨.close fd, ()⟩] := by
  have hcloses : h.afterRead (.ok r) =
      .call (.close fd) fun _ => .done (.ok (0, r.data), { h with fd := none }) := by
    rw [afterRead, if_pos hzero, close, hfd]
    rfl
  rw [read_eq hfd, Program.run, Program.exchanges, hreply, hcloses]
  exact ⟨rfl, rfl⟩

/-- Without a count of 0 the handle stays as it is. -/
theorem run_read_of_ne_zero (hfd : h.fd = some fd)
    (hreply : ∀ r, (k.answer (.read fd size) s).1 = .ok r → wordOfCount r.count ≠ 0) :
    (∀ stored, ((h.read size).run k s).1.1 ≠ .ok (0, stored)) ∧
      ((h.read size).run k s).1.2 = h ∧
      (h.read size).exchanges k s = [⟨.read fd size, (k.answer (.read fd size) s).1⟩] := by
  rw [read_eq hfd, Program.run, Program.exchanges]
  generalize (k.answer (.read fd size) s).2 = s'
  generalize (k.answer (.read fd size) s).1 = reply at hreply ⊢
  cases reply with
  | error errno => exact ⟨nofun, rfl, rfl⟩
  | ok r =>
      have hcount := hreply r rfl
      rw [afterRead, if_neg hcount]
      refine ⟨fun stored hzero => hcount ?_, rfl, rfl⟩
      exact congrArg Prod.fst (Except.ok.inj hzero)

end Handle

namespace ReceiveTask

variable {kind : TaskKind} {pool : BufferPool}

/-- A reply that does not end the registration keeps it. -/
theorem keeps_of_not_retires {b : Buffer} {next : BufferPool} {reply : Except Errno Arrival}
    (h : ¬ Retires kind reply) :
    (settlement next (reception kind b reply)).1.verdict = .keep := by
  cases reply with
  | error errno => exact if_neg h
  | ok a => rw [settlement_of_not_retires h]

end ReceiveTask

namespace StreamSocket

/-- **What a read counts**: 0 if nothing was asked for, and 0 at the end. -/
theorem read_cases (P : StreamSocket k fd) (hlive : P.live s)
    (hsize : size ≤ BufferPool.maxStorage) :
    ((k.answer (.read fd size) s).1 = .ok { count := 0 } ∧ (size = 0 ∨ P.AtEnd s)) ∨
      (∃ r, (k.answer (.read fd size) s).1 = .ok r ∧ wordOfCount r.count ≠ 0 ∧
        size ≠ 0 ∧ ¬ P.AtEnd s) ∨
      ∃ errno, (k.answer (.read fd size) s).1 = .error errno ∧ size ≠ 0 := by
  have hread := P.reads size s hlive
  unfold AtEnd
  generalize (k.answer (.read fd size) s).1 = reply at hread ⊢
  generalize P.unread (k.answer (.read fd size) s).2 = rest at hread
  generalize P.unread s = unread at hread ⊢
  cases hread with
  | nothing _ hzero => exact Or.inl ⟨rfl, Or.inl hzero⟩
  | takes front _ hsome hfits =>
      have hword : front.length < UInt64.size := by
        have hlargest : BufferPool.maxStorage < UInt64.size := by decide
        omega
      have hcount : wordOfCount (front.length : Int) ≠ 0 := by
        rw [wordOfCount_natCast hword]
        exact mt List.length_eq_zero_iff.mp hsome
      have hroom : size ≠ 0 := by
        have hpositive := List.length_pos_iff.mpr hsome
        omega
      refine Or.inr (Or.inl ⟨_, rfl, hcount, hroom, ?_⟩)
      rintro ⟨hempty, -⟩
      exact hsome (List.append_eq_nil_iff.mp hempty).1
  | ends hended => exact Or.inl ⟨rfl, Or.inr ⟨rfl, hended⟩⟩
  | fails errno _ hroom => exact Or.inr (Or.inr ⟨errno, rfl, hroom⟩)

/-- **The end is told only at the end**: before it no read answers 0 or closes its handle,
and a receive task keeps its registration unless the read fails for good. -/
structure Truthful (P : StreamSocket k fd) (size : Nat) (s : σ) : Prop where
  read : ∀ h : Handle, h.fd = some fd → ¬ P.AtEnd s →
    (∀ stored, ((h.read size).run k s).1.1 ≠ .ok (0, stored)) ∧
      ((h.read size).run k s).1.2 = h ∧
      ∀ e ∈ (h.read size).exchanges k s, e.call ≠ .close fd
  attempt : ∀ pool : BufferPool, pool.Uniform → pool.capacity = size → ¬ P.AtEnd s →
    (∀ errno, (k.answer (.read fd size) s).1 = .error errno →
      errno = Errno.wouldBlock ∨ errno = Errno.interrupted) →
    ((ReceiveTask.attempt .stream fd pool).run k s).1.1.verdict = .keep

/-- **The end is told**: a read answers 0 and closes its handle, and a receive task that has
a buffer ends its registration and delivers nothing. -/
structure TellsEnd (k : Kernel σ) (fd : Fd) (size : Nat) (s : σ) : Prop where
  read : ∀ h : Handle, h.fd = some fd →
    ((h.read size).run k s).1 = (.ok (0, []), { h with fd := none }) ∧
      (h.read size).exchanges k s = [⟨.read fd size, .ok { count := 0 }⟩, ⟨.close fd, ()⟩]
  attempt : ∀ pool : BufferPool, pool.Uniform → pool.capacity = size →
    pool.outstanding < pool.limit →
    ((ReceiveTask.attempt .stream fd pool).run k s).1.1 = ⟨.retire, none⟩

/-- A count of 0 tells the end. -/
theorem tellsEnd_of_zero (hsize : size ≤ BufferPool.maxStorage)
    (hreply : (k.answer (.read fd size) s).1 = .ok { count := 0 }) : TellsEnd k fd size s where
  read _ hfd := Handle.run_read_of_zero hfd hreply rfl
  attempt pool hpool hcapacity hroom := by
    subst hcapacity
    obtain ⟨b, next, hgranted, hcapacity, -⟩ := BufferPool.exists_granted hpool hsize hroom
    have hends : ReceiveTask.Retires .stream (.ok (.ofStream { count := 0 })) := .emptyRead _ rfl
    rw [ReceiveTask.attempt_eq hgranted, hcapacity, Program.run]
    show (ReceiveTask.settlement next (ReceiveTask.reception .stream b
      (Except.map Arrival.ofStream (k.answer (.read fd pool.capacity) s).1))).1 = _
    rw [hreply]
    exact congrArg Prod.fst (ReceiveTask.settlement_of_retires hends)

/-- Nothing else tells it. -/
theorem truthful_of_ne_zero {P : StreamSocket k fd} (hsize : size ≤ BufferPool.maxStorage)
    (hreply : ∀ r, (k.answer (.read fd size) s).1 = .ok r → wordOfCount r.count ≠ 0) :
    P.Truthful size s where
  read h hfd _ := by
    obtain ⟨hcount, hstays, hlog⟩ := Handle.run_read_of_ne_zero hfd hreply
    refine ⟨hcount, hstays, ?_⟩
    rw [hlog]
    exact List.forall_mem_singleton.mpr Call.noConfusion
  attempt pool hpool hcapacity _ hpasses := by
    subst hcapacity
    rcases Nat.lt_or_ge pool.outstanding pool.limit with hroom | hfull
    · obtain ⟨b, next, hgranted, hcapacity, -⟩ := BufferPool.exists_granted hpool hsize hroom
      rw [ReceiveTask.attempt_eq hgranted, hcapacity, Program.run]
      refine ReceiveTask.keeps_of_not_retires ?_
      show ¬ ReceiveTask.Retires .stream
        (Except.map Arrival.ofStream (k.answer (.read fd pool.capacity) s).1)
      cases hread : (k.answer (.read fd pool.capacity) s).1 with
      | error errno =>
          exact mt ReceiveTask.Retires.stream_error_iff.mp (not_not_intro (hpasses errno hread))
      | ok r => exact mt ReceiveTask.Retires.stream_ok_iff.mp (hreply r hread)
    · rw [ReceiveTask.attempt_eq_of_full hfull]
      rfl

/-- The end is not told truthfully where there is none. -/
theorem TellsEnd.not_truthful {P : StreamSocket k fd} (htold : TellsEnd k fd size s)
    (hgoes : ¬ P.AtEnd s) : ¬ P.Truthful size s := by
  intro htruthful
  obtain ⟨hcount, -⟩ := htruthful.read (.ofFd fd) rfl hgoes
  exact hcount [] (congrArg Prod.fst (htold.read (.ofFd fd) rfl).1)

/-- **The end of a live stream is told exactly when nothing was asked for.**  A read of no
bytes tells the end in every state; any other read that does not fail tells it at the end
and only there. -/
theorem end_told_iff (P : StreamSocket k fd) (hlive : P.live s)
    (hsize : size ≤ BufferPool.maxStorage) :
    (P.Truthful size s ↔ (size = 0 → P.AtEnd s)) ∧
      (TellsEnd k fd size s ↔
        size = 0 ∨ P.AtEnd s ∧ ∃ r, (k.answer (.read fd size) s).1 = .ok r) := by
  rcases P.read_cases hlive hsize with
    ⟨hreply, hwhy⟩ | ⟨r, hreply, hcount, hroom, hgoes⟩ | ⟨errno, hreply, hroom⟩
  · have htold : TellsEnd k fd size s := tellsEnd_of_zero hsize hreply
    refine ⟨⟨fun htruthful _ => ?_, fun hend => ?_⟩, iff_of_true htold ?_⟩
    · exact not_not.mp fun hgoes => htold.not_truthful hgoes htruthful
    · have hatEnd : P.AtEnd s := hwhy.elim hend id
      exact ⟨fun _ _ hgoes => absurd hatEnd hgoes, fun _ _ _ hgoes => absurd hatEnd hgoes⟩
    · exact hwhy.imp_right fun hatEnd => ⟨hatEnd, _, hreply⟩
  · have hcounts : ∀ r', (k.answer (.read fd size) s).1 = .ok r' → wordOfCount r'.count ≠ 0 := by
      intro r' hr'
      obtain rfl : r = r' := Except.ok.inj (hreply.symm.trans hr')
      exact hcount
    have htruthful : P.Truthful size s := truthful_of_ne_zero hsize hcounts
    refine ⟨iff_of_true htruthful fun hzero => absurd hzero hroom, iff_of_false ?_ ?_⟩
    · exact fun htold => htold.not_truthful hgoes htruthful
    · rintro (hzero | ⟨hatEnd, -⟩)
      · exact hroom hzero
      · exact hgoes hatEnd
  · have hcounts : ∀ r, (k.answer (.read fd size) s).1 = .ok r → wordOfCount r.count ≠ 0 := by
      intro r hr
      cases hreply.symm.trans hr
    refine ⟨iff_of_true (truthful_of_ne_zero hsize hcounts) fun hzero => absurd hzero hroom,
      iff_of_false ?_ ?_⟩
    · intro htold
      obtain ⟨hcount, -⟩ := Handle.run_read_of_ne_zero (h := .ofFd fd) rfl hcounts
      exact hcount [] (congrArg Prod.fst (htold.read (.ofFd fd) rfl).1)
    · rintro (hzero | ⟨-, r, hr⟩)
      · exact hroom hzero
      · cases hreply.symm.trans hr

/-! ## A live stream of the host -/

/-- Two linked sockets, of which the far one has sent *hi*. -/
def greeted : Host :=
  (Host.newPair {} .stream).2.modifyEndpoint 0 fun e => { e with inbox := [[0x68, 0x69]] }

/-- The near one, which has everything still to read. -/
theorem live_greeted :
    (Host.streamSocket 3).live greeted ∧ ¬ (Host.streamSocket 3).AtEnd greeted := by
  have hsocket : greeted.socket? 3 = some
      { family := .unix, kind := .stream, connected := true, peer := some 1,
        inbox := [[0x68, 0x69]] } := by
    decide
  refine ⟨⟨_, hsocket, rfl, rfl, rfl, by decide⟩, ?_⟩
  rintro ⟨hempty, -⟩
  revert hempty
  decide

/-- With room for eight bytes the end is told truthfully. -/
theorem end_told_iff_greeted :
    (Host.streamSocket 3).live greeted ∧ 8 ≤ BufferPool.maxStorage ∧
      (Host.streamSocket 3).Truthful 8 greeted := by
  have hlive := live_greeted.1
  have hsize : 8 ≤ BufferPool.maxStorage := by decide
  exact ⟨hlive, hsize, ((Host.streamSocket 3).end_told_iff hlive hsize).1.mpr nofun⟩

/-- **A live stream is told to be over.**  A read of no bytes finds *hi* unread, answers that
the far end has closed, and closes the handle. -/
theorem live_stream_ended :
    (Host.streamSocket 3).live greeted ∧ ¬ (Host.streamSocket 3).AtEnd greeted ∧
      (((Handle.ofFd 3).read 0).run Host.kernel greeted).1 = (.ok (0, []), .empty) ∧
      ¬ (Host.streamSocket 3).Truthful 0 greeted := by
  have htold : TellsEnd Host.kernel 3 0 greeted := tellsEnd_of_zero (by decide) (by decide)
  obtain ⟨hlive, hgoes⟩ := live_greeted
  exact ⟨hlive, hgoes, (htold.read (.ofFd 3) rfl).1, htold.not_truthful hgoes⟩

end StreamSocket

end ReceiveReactor
