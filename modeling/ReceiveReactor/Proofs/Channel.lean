import ReceiveReactor.Proofs.HostPipe

/-!
# The control channel as a queue of records

Senders write whole records into a pipe and the receiver reads a record's bytes at a
time.  While the pipe holds whole records, that is a bounded queue, first in, first out.
Bytes of anybody else shift the records against the reads; once the pipe has been
drained, what is sent from then on is whole again.

* `Intruder` — somebody else who writes into the pipe;
* `ControlPipe.Limits` — what the kernel promises of a pipe without waiting;
* `Channel.step`, `Channel.runFrom` — sends, receives and intrusions in any order;
* `Channel.queueStep`, `Channel.step_eq_queueStep` — one step **is one of a queue**;
* `Channel.runFrom_empties` — a channel from which more is received than sent runs
  empty;
* `Channel.is_queue` — all of that, in every run.
-/

namespace ReceiveReactor

variable {σ ω φ : Type}

/-- Somebody who writes what he likes into the pipe of a channel. -/
structure Intruder (K : ControlPipe σ ω) (φ : Type) where
  act : φ → σ → σ
  bytes : φ → σ → Bytes
  contents_act : ∀ f h, K.contents (act f h) = K.contents h ++ bytes f h

/-- A pipe that never waits and, while both its ends are open, fails for no reason but
being full or empty.  It may be full before all of its capacity is in use.  Where nobody can
close an end, `isOpen` holds of every host. -/
structure ControlPipe.Limits (K : ControlPipe σ ω) where
  capacity : Nat
  /-- Both ends are open.  Nothing but their closing changes that. -/
  isOpen : σ → Prop
  isFull : σ → Bool
  isOpen_outside : ∀ o h, isOpen h → isOpen (K.outside o h)
  isOpen_write : ∀ (r : ControlRecord) h, isOpen h →
    isOpen (K.kernel.answer (.write K.sender.fd r.encode) h).2
  isOpen_read : ∀ h, isOpen h →
    isOpen (K.kernel.answer (.read K.receiver.fd ControlRecord.size) h).2
  isFull_of_lt : ∀ h, isOpen h →
    capacity < (K.contents h).length + ControlRecord.size → isFull h = true
  write_full : ∀ (r : ControlRecord) h, isOpen h → isFull h = true →
    (K.kernel.answer (.write K.sender.fd r.encode) h).1 = .error Errno.wouldBlock
  write_room : ∀ (r : ControlRecord) h, isOpen h → isFull h = false →
    ∃ count, (K.kernel.answer (.write K.sender.fd r.encode) h).1 = .ok count
  read_empty : ∀ h, isOpen h → K.contents h = [] →
    (K.kernel.answer (.read K.receiver.fd ControlRecord.size) h).1 = .error Errno.wouldBlock
  read_some : ∀ h, isOpen h → K.contents h ≠ [] →
    ∃ received, (K.kernel.answer (.read K.receiver.fd ControlRecord.size) h).1 = .ok received

/-- An intruder who closes neither end. -/
def Intruder.Keeps {K : ControlPipe σ ω} (I : Intruder K φ) (L : K.Limits) : Prop :=
  ∀ f h, L.isOpen h → L.isOpen (I.act f h)

namespace ControlPipe

variable {K : ControlPipe σ ω}

/-- A send leaves the host as its one call does. -/
theorem host_send (K : ControlPipe σ ω) (r : ControlRecord) (h : σ) :
    ((K.sender.send r).run K.kernel h).2 =
      (K.kernel.answer (.write K.sender.fd r.encode) h).2 := by
  simp only [ControlSender.send, Program.run_bind]
  rw [Program.run_ask]
  generalize K.kernel.answer (.write K.sender.fd r.encode) h = answer
  obtain ⟨errno | count, host⟩ := answer
  · rfl
  · dsimp only
    split <;> rfl

/-- A receive leaves the host as its one call does. -/
theorem host_receive (K : ControlPipe σ ω) (h : σ) :
    (K.receiver.receive.run K.kernel h).2 =
      (K.kernel.answer (.read K.receiver.fd ControlRecord.size) h).2 := by
  simp only [ControlReceiver.receive, Program.run_bind]
  rw [Program.run_ask]
  generalize K.kernel.answer (.read K.receiver.fd ControlRecord.size) h = answer
  obtain ⟨errno | received, host⟩ := answer
  · rfl
  · dsimp only
    split <;> rfl

end ControlPipe

namespace Channel

/-- What can happen to a channel next. -/
inductive Action (ω φ : Type) where
  | send (r : ControlRecord)
  | receive
  | outside (o : ω)
  | intrude (f : φ)

namespace Action

/-- Whether an action is none of an intruder's. -/
def isOwn : Action ω φ → Bool
  | intrude _ => false
  | _ => true

def isSend : Action ω φ → Bool
  | send _ => true
  | _ => false

def isReceive : Action ω φ → Bool
  | receive => true
  | _ => false

end Action

/-- What an action comes to. -/
inductive Event where
  | sent (r : ControlRecord)
  | refused (r : ControlRecord) (cause : ReactorError)
  | received (r : ControlRecord)
  | failed (cause : ReactorError)
deriving DecidableEq, Repr

/-- The records that were sent. -/
def sentIn (events : List Event) : List ControlRecord :=
  events.filterMap fun
    | .sent r => some r
    | _ => none

/-- The records that were received. -/
def receivedIn (events : List Event) : List ControlRecord :=
  events.filterMap fun
    | .received r => some r
    | _ => none

/-- One action, with what it comes to. -/
def step {K : ControlPipe σ ω} (I : Intruder K φ) (h : σ) : Action ω φ → List Event × σ
  | .send r =>
    match (K.sender.send r).run K.kernel h with
    | (.ok (), host) => ([.sent r], host)
    | (.error cause, host) => ([.refused r cause], host)
  | .receive =>
    match K.receiver.receive.run K.kernel h with
    | (.ok r, host) => ([.received r], host)
    | (.error cause, host) => ([.failed cause], host)
  | .outside o => ([], K.outside o h)
  | .intrude f => ([], I.act f h)

/-- Some actions one after the other, with all that they come to. -/
def runFrom {K : ControlPipe σ ω} (I : Intruder K φ) (h : σ) :
    List (Action ω φ) → List Event × σ
  | [] => ([], h)
  | a :: as =>
    ((step I h a).1 ++ (runFrom I (step I h a).2 as).1, (runFrom I (step I h a).2 as).2)

/-- What a pipe answers that has no room, and one that is empty. -/
def again : ReactorError := ControlChannel.shortTransfer 0 Errno.wouldBlock

/-- A step of a queue of records that may be full. -/
def queueStep (full : Bool) (queue : List ControlRecord) :
    Action ω φ → List Event × List ControlRecord
  | .send r => if full then ([.refused r again], queue) else ([.sent r], queue ++ [r])
  | .receive =>
    match queue with
    | [] => ([.failed again], [])
    | r :: rest => ([.received r], rest)
  | .outside _ | .intrude _ => ([], queue)

section

variable {K : ControlPipe σ ω} {I : Intruder K φ} {h : σ}

/-! ## Sends and receives -/

/-- A send leaves the host as its one call does. -/
theorem step_send_host (I : Intruder K φ) (r : ControlRecord) (h : σ) :
    (step I h (.send r)).2 = (K.kernel.answer (.write K.sender.fd r.encode) h).2 := by
  rw [← K.host_send r h, step]
  split <;> rename_i heq <;> rw [heq]

/-- So does a receive. -/
theorem step_receive_host (I : Intruder K φ) (h : σ) :
    (step I h .receive).2 = (K.kernel.answer (.read K.receiver.fd ControlRecord.size) h).2 := by
  rw [← K.host_receive h, step]
  split <;> rename_i heq <;> rw [heq]

/-- **A channel's own actions close no end.** -/
theorem isOpen_own {L : K.Limits} (I : Intruder K φ) (hopen : L.isOpen h) {a : Action ω φ}
    (ha : a.isOwn = true) : L.isOpen (step I h a).2 := by
  cases a with
  | send r =>
      rw [step_send_host]
      exact L.isOpen_write r h hopen
  | receive =>
      rw [step_receive_host]
      exact L.isOpen_read h hopen
  | outside o => exact L.isOpen_outside o h hopen
  | intrude f => cases ha

/-- **Nothing closes an end** in a whole run, as long as no intruder does. -/
theorem isOpen_runFrom {L : K.Limits} (hkeeps : I.Keeps L) (hopen : L.isOpen h)
    (as : List (Action ω φ)) : L.isOpen (runFrom I h as).2 := by
  induction as generalizing h with
  | nil => exact hopen
  | cons a as ih =>
      refine ih ?_
      cases a with
      | intrude f => exact hkeeps f h hopen
      | _ => exact isOpen_own I hopen rfl

/-- **A send on a full pipe** fails and leaves the pipe as it was. -/
theorem step_send_full (I : Intruder K φ) (L : K.Limits) (r : ControlRecord)
    (hopen : L.isOpen h) (hfull : L.isFull h = true) :
    (step I h (.send r)).1 = [.refused r again] ∧
      K.contents (step I h (.send r)).2 = K.contents h := by
  have hanswer := L.write_full r h hopen hfull
  rcases K.send_answers r h with ⟨host, hok, -⟩ | ⟨errno, host, herror, hrun, hcontents⟩
  · rw [hanswer] at hok
    cases hok
  · rw [hanswer] at herror
    cases herror
    simp only [step, hrun]
    exact ⟨rfl, hcontents⟩

/-- **A send with room** puts the record behind everything else. -/
theorem step_send_room (I : Intruder K φ) (L : K.Limits) (r : ControlRecord)
    (hopen : L.isOpen h) (hroom : L.isFull h = false) :
    (step I h (.send r)).1 = [.sent r] ∧
      K.contents (step I h (.send r)).2 = K.contents h ++ r.encode := by
  obtain ⟨count, hanswer⟩ := L.write_room r h hopen hroom
  rcases K.send_answers r h with ⟨host, -, hrun, hcontents⟩ | ⟨errno, host, herror, -⟩
  · simp only [step, hrun, true_and]
    exact hcontents
  · rw [hanswer] at herror
    cases herror

/-- **A receive from an empty pipe** fails and leaves it empty. -/
theorem step_receive_empty (I : Intruder K φ) (L : K.Limits) (hopen : L.isOpen h)
    (hempty : K.contents h = []) :
    (step I h .receive).1 = [.failed again] ∧ K.contents (step I h .receive).2 = [] := by
  have hanswer := L.read_empty h hopen hempty
  rcases K.receive_answers h with ⟨received, host, hok, -⟩ | ⟨errno, host, herror, hrun, hcontents⟩
  · rw [hanswer] at hok
    cases hok
  · rw [hanswer] at herror
    cases herror
    simp only [step, hrun]
    exact ⟨rfl, hcontents.trans hempty⟩

/-- **A receive from any other pipe** takes a record's bytes off its front, or as many as
there are, and makes of them what it can. -/
theorem step_receive_some (I : Intruder K φ) (L : K.Limits) (hopen : L.isOpen h)
    (hsome : K.contents h ≠ []) :
    (step I h .receive).1 =
        [match ControlPipe.interpret ((K.contents h).take ControlRecord.size) with
          | .ok r => .received r
          | .error cause => .failed cause] ∧
      K.contents (step I h .receive).2 = (K.contents h).drop ControlRecord.size := by
  obtain ⟨received, hanswer⟩ := L.read_some h hopen hsome
  rcases K.receive_answers h with ⟨received', host, -, hrun, hcontents⟩ | ⟨errno, host, herror, -⟩
  · simp only [step, hrun]
    cases ControlPipe.interpret ((K.contents h).take ControlRecord.size) <;> exact ⟨rfl, hcontents⟩
  · rw [hanswer] at herror
    cases herror

/-- Every receive shortens the pipe by a record's bytes, as far as there are any. -/
theorem contents_receive (I : Intruder K φ) (L : K.Limits) (hopen : L.isOpen h) :
    K.contents (step I h .receive).2 = (K.contents h).drop ControlRecord.size := by
  by_cases hempty : K.contents h = []
  · rw [(step_receive_empty I L hopen hempty).2, hempty, List.drop_nil]
  · exact (step_receive_some I L hopen hempty).2

/-! ## A queue -/

/-- Where a channel stands as a queue: both ends are open, and the pipe holds the records
that are queued, and no more than it can. -/
structure Holds (L : K.Limits) (queue : List ControlRecord) (h : σ) : Prop where
  isOpen : L.isOpen h
  contents : K.contents h = queue.flatMap ControlRecord.encode
  bounded : queue.length * ControlRecord.size ≤ L.capacity

variable {L : K.Limits} {queue : List ControlRecord}

/-- Queued records take sixteen bytes each. -/
theorem length_flatMap_encode (queue : List ControlRecord) :
    (queue.flatMap ControlRecord.encode).length = queue.length * ControlRecord.size := by
  simp [List.length_flatMap, ControlRecord.length_encode]

/-- A queue that has no room for one more is full. -/
theorem Holds.isFull (hq : Holds L queue h)
    (hlong : L.capacity < (queue.length + 1) * ControlRecord.size) : L.isFull h = true := by
  refine L.isFull_of_lt h hq.isOpen ?_
  rw [hq.contents, length_flatMap_encode, ← Nat.succ_mul]
  exact hlong

/-- **One step of the channel is one of the queue**, unless it is an intrusion. -/
theorem step_eq_queueStep (hq : Holds L queue h) {a : Action ω φ} (ha : a.isOwn = true) :
    (step I h a).1 = (queueStep (L.isFull h) queue a).1 ∧
      Holds L (queueStep (L.isFull h) queue a).2 (step I h a).2 := by
  have hopen := isOpen_own I hq.isOpen ha
  cases a with
  | send r =>
      cases hfull : L.isFull h with
      | true =>
          obtain ⟨hevents, hcontents⟩ := step_send_full I L r hq.isOpen hfull
          exact ⟨hevents, hopen, hcontents.trans hq.contents, hq.bounded⟩
      | false =>
          obtain ⟨hevents, hcontents⟩ := step_send_room I L r hq.isOpen hfull
          refine ⟨hevents, hopen, ?_, ?_⟩
          · rw [hcontents, hq.contents]
            simp [queueStep]
          · by_contra hlong
            have hlong : L.capacity < (queue.length + 1) * ControlRecord.size := by
              simpa [queueStep] using hlong
            rw [hq.isFull hlong] at hfull
            cases hfull
  | receive =>
      cases queue with
      | nil =>
          obtain ⟨hevents, hcontents⟩ := step_receive_empty I L hq.isOpen hq.contents
          exact ⟨hevents, hopen, hcontents, hq.bounded⟩
      | cons r rest =>
          obtain ⟨htake, hdrop⟩ := ControlRecord.cut_flatMap_encode r rest
          have hsome : K.contents h ≠ [] := by
            rw [hq.contents, Ne, ← List.length_eq_zero_iff, length_flatMap_encode]
            simp [ControlRecord.size]
          obtain ⟨hevents, hcontents⟩ := step_receive_some I L hq.isOpen hsome
          rw [hq.contents, htake, ControlPipe.interpret_encode] at hevents
          rw [hq.contents, hdrop] at hcontents
          refine ⟨hevents, hopen, hcontents, Nat.le_trans (Nat.mul_le_mul_right _ ?_) hq.bounded⟩
          exact Nat.le_succ rest.length
  | outside o => exact ⟨rfl, hopen, (K.contents_outside o h).trans hq.contents, hq.bounded⟩
  | intrude f => cases ha

/-- What was sent in some events and in others was sent in both, in order. -/
@[simp] theorem sentIn_append (events more : List Event) :
    sentIn (events ++ more) = sentIn events ++ sentIn more :=
  List.filterMap_append

/-- And so was what was received. -/
@[simp] theorem receivedIn_append (events more : List Event) :
    receivedIn (events ++ more) = receivedIn events ++ receivedIn more :=
  List.filterMap_append

/-- A queue lets out what came in, in order. -/
theorem queueStep_conserves (full : Bool) (queue : List ControlRecord) (a : Action ω φ) :
    queue ++ sentIn (queueStep full queue a).1 =
      receivedIn (queueStep full queue a).1 ++ (queueStep full queue a).2 := by
  cases a with
  | send r => cases full <;> simp [queueStep, sentIn, receivedIn]
  | receive => cases queue <;> simp [queueStep, sentIn, receivedIn]
  | outside o | intrude f => simp [queueStep, sentIn, receivedIn]

/-- **First in, first out**: over some steps without an intrusion, what was queued with what
was sent is what was received with what is queued. -/
theorem runFrom_conserves (hq : Holds L queue h) {as : List (Action ω φ)}
    (has : ∀ a ∈ as, a.isOwn = true) :
    ∃ queue', queue ++ sentIn (runFrom I h as).1 = receivedIn (runFrom I h as).1 ++ queue' ∧
      Holds L queue' (runFrom I h as).2 := by
  induction as generalizing h queue with
  | nil => exact ⟨queue, List.append_nil _, hq⟩
  | cons a as ih =>
      obtain ⟨ha, has⟩ := List.forall_mem_cons.mp has
      obtain ⟨hevents, hholds⟩ := step_eq_queueStep (I := I) hq ha
      obtain ⟨queue', hlater, hholds'⟩ := ih hholds has
      refine ⟨queue', ?_, hholds'⟩
      rw [runFrom, sentIn_append, receivedIn_append, hevents, ← List.append_assoc,
        queueStep_conserves, List.append_assoc, hlater, List.append_assoc]

/-! ## Running empty -/

/-- So many receives take so many records' bytes. -/
theorem contents_receives (I : Intruder K φ) (L : K.Limits) (hopen : L.isOpen h) (n : Nat) :
    K.contents (runFrom I h (List.replicate n .receive)).2 =
      (K.contents h).drop (n * ControlRecord.size) := by
  induction n generalizing h with
  | zero => simp [runFrom]
  | succ n ih =>
      rw [List.replicate_succ, runFrom, ih (isOpen_own I hopen rfl), contents_receive I L hopen,
        List.drop_drop, Nat.succ_mul, Nat.add_comm]

/-- A send makes a pipe longer by a record at most. -/
theorem length_send_le (I : Intruder K φ) (r : ControlRecord) (h : σ) :
    (K.contents (step I h (.send r)).2).length ≤ (K.contents h).length + ControlRecord.size := by
  rcases K.send_cases r h with ⟨host, hrun, hcontents⟩ | ⟨errno, host, hrun, hcontents⟩
  · simp only [step, hrun]
    exact Nat.le_of_eq (by rw [hcontents, List.length_append, ControlRecord.length_encode])
  · simp only [step, hrun]
    rw [hcontents]
    exact Nat.le_add_right _ _

/-- **A channel from which more is received than sent runs empty** at some moment, whatever
was in it. -/
theorem runFrom_empties (I : Intruder K φ) (L : K.Limits) (hopen : L.isOpen h)
    {as : List (Action ω φ)} (has : ∀ a ∈ as, a.isOwn = true)
    (hmore : (K.contents h).length + as.countP (·.isSend) * ControlRecord.size ≤
      as.countP (·.isReceive) * ControlRecord.size) :
    ∃ front back, as = front ++ back ∧ K.contents (runFrom I h front).2 = [] := by
  induction as generalizing h with
  | nil =>
      have hempty : (K.contents h).length ≤ 0 := by simpa using hmore
      exact ⟨[], [], rfl, List.length_eq_zero_iff.mp (Nat.le_zero.mp hempty)⟩
  | cons a as ih =>
      by_cases hempty : K.contents h = []
      · exact ⟨[], a :: as, rfl, hempty⟩
      obtain ⟨ha, has⟩ := List.forall_mem_cons.mp has
      have hpositive : 0 < (K.contents h).length := List.length_pos_iff.mpr hempty
      -- After the first action the bytes that are left still fall short of the receives.
      have hrest : (K.contents (step I h a).2).length +
          as.countP (·.isSend) * ControlRecord.size ≤
            as.countP (·.isReceive) * ControlRecord.size := by
        cases a with
        | send r =>
            have hlength := length_send_le I r h
            rw [List.countP_cons_of_pos rfl, List.countP_cons_of_neg Bool.false_ne_true] at hmore
            simp only [ControlRecord.size] at hmore hlength ⊢
            omega
        | receive =>
            rw [List.countP_cons_of_neg Bool.false_ne_true, List.countP_cons_of_pos rfl] at hmore
            rw [contents_receive I L hopen, List.length_drop]
            simp only [ControlRecord.size] at hmore ⊢
            omega
        | outside o =>
            have hsame : K.contents (step I h (.outside o)).2 = K.contents h :=
              K.contents_outside o h
            rw [List.countP_cons_of_neg Bool.false_ne_true,
              List.countP_cons_of_neg Bool.false_ne_true] at hmore
            rw [hsame]
            exact hmore
        | intrude f => cases ha
      obtain ⟨front, back, rfl, hfront⟩ := ih (isOpen_own I hopen ha) has hrest
      exact ⟨a :: front, back, rfl, hfront⟩

/-! ## Every run -/

/-- A channel stands as a queue, and **its next step is one of that queue**. -/
structure Stands (I : Intruder K φ) (L : K.Limits) (queue : List ControlRecord) (h : σ) :
    Prop where
  holds : Holds L queue h
  /-- It is full once no record fits any more. -/
  full : L.capacity < (queue.length + 1) * ControlRecord.size → L.isFull h = true
  steps : ∀ a : Action ω φ, a.isOwn = true →
    (step I h a).1 = (queueStep (L.isFull h) queue a).1 ∧
      Holds L (queueStep (L.isFull h) queue a).2 (step I h a).2

/-- What a run of a channel comes to, whatever its pipe held at the start. -/
structure IsQueue (I : Intruder K φ) (L : K.Limits) (h : σ) (as : List (Action ω φ)) : Prop where
  /-- **First in, first out.**  From any moment on at which the pipe is empty, and as long as
  nobody intrudes, the records received are the first of those sent, in order, and the
  others are queued.  So a receive fails exactly if none is queued, and a send if there is
  no room. -/
  inOrder : ∀ before after s t, as = before ++ after → (runFrom I h before).2 = s →
    K.contents s = [] → (∀ a ∈ after, a.isOwn = true) → (runFrom I s after).2 = t →
    ∃ queue, sentIn (runFrom I s after).1 = receivedIn (runFrom I s after).1 ++ queue ∧
      Stands I L queue t
  /-- **A send on a full pipe leaves it as it was**, whatever is in it. -/
  refuses : ∀ t, (runFrom I h as).2 = t → L.isFull t = true → ∀ r,
    (step I t (.send r)).1 = [.refused r again] ∧
      K.contents (step I t (.send r)).2 = K.contents t
  /-- **Draining takes so many receives** as records would fit into the pipe's bytes. -/
  drains : ∀ t, (runFrom I h as).2 = t → ∀ n,
    K.contents (runFrom I t (List.replicate n .receive)).2 =
      (K.contents t).drop (n * ControlRecord.size)
  /-- **Sends do not keep it from running empty** at some moment, if there are so many
  receives more. -/
  empties : ∀ before after s, as = before ++ after → (runFrom I h before).2 = s →
    (∀ a ∈ after, a.isOwn = true) →
    (K.contents s).length + after.countP (·.isSend) * ControlRecord.size ≤
      after.countP (·.isReceive) * ControlRecord.size →
    ∃ front back, after = front ++ back ∧ K.contents (runFrom I s front).2 = []

/-- **The control channel is a bounded queue of records, first in, first out**, while both
its ends are open; and what anybody else writes into its pipe is gone once the pipe has been
drained. -/
theorem is_queue {I : Intruder K φ} {L : K.Limits} (hkeeps : I.Keeps L) (hopen : L.isOpen h)
    (as : List (Action ω φ)) : IsQueue I L h as := by
  refine ⟨?_, ?_, ?_, ?_⟩
  · rintro before after s t rfl rfl hempty hown rfl
    have hholds : Holds L [] (runFrom I h before).2 :=
      ⟨isOpen_runFrom hkeeps hopen before, hempty, by simp⟩
    obtain ⟨queue, hsent, hholds'⟩ := runFrom_conserves (I := I) hholds hown
    exact ⟨queue, hsent, hholds', hholds'.isFull, fun a ha => step_eq_queueStep hholds' ha⟩
  · rintro t rfl hfull r
    exact step_send_full I L r (isOpen_runFrom hkeeps hopen as) hfull
  · rintro t rfl n
    exact contents_receives I L (isOpen_runFrom hkeeps hopen as) n
  · rintro before after s rfl rfl hown hmore
    exact runFrom_empties I L (isOpen_runFrom hkeeps hopen before) hown hmore

end

/-! ## A channel of a host with one pipe -/

/-- The pipe of such a host never waits. -/
def localLimits (capacity : Nat) : (localPipe capacity).Limits where
  capacity := capacity
  isOpen := PipeHost.BothOpen
  isFull h := decide (capacity < h.bytes.length + ControlRecord.size)
  isOpen_outside := fun _ _ hopen => hopen
  isOpen_write := fun r _ hopen => hopen.write capacity r.encode
  isOpen_read := fun _ hopen => hopen.read ControlRecord.size
  isFull_of_lt := fun _ _ hlong => decide_eq_true hlong
  write_full := by
    intro r h hopen hfull
    have hlong : capacity < h.bytes.length + ControlRecord.size := of_decide_eq_true hfull
    show (h.write capacity r.encode).1 = .error Errno.wouldBlock
    rw [PipeHost.write_of_bothOpen hopen, ControlRecord.length_encode,
      if_neg (Nat.not_le.mpr hlong)]
  write_room := by
    intro r h hopen hroom
    have hfits : h.bytes.length + ControlRecord.size ≤ capacity :=
      Nat.not_lt.mp (of_decide_eq_false hroom)
    show ∃ count, (h.write capacity r.encode).1 = .ok count
    rw [PipeHost.write_of_bothOpen hopen, ControlRecord.length_encode, if_pos hfits]
    exact ⟨_, rfl⟩
  read_empty := by
    intro h hopen (hempty : h.bytes = [])
    show (h.read ControlRecord.size).1 = .error Errno.wouldBlock
    rw [PipeHost.read_of_bothOpen hopen, if_pos hempty]
  read_some := by
    intro h hopen (hsome : h.bytes ≠ [])
    show ∃ received, (h.read ControlRecord.size).1 = .ok received
    rw [PipeHost.read_of_bothOpen hopen, if_neg hsome]
    exact ⟨_, rfl⟩

/-- Somebody who writes into that pipe, as far as there is room for all of it. -/
def localIntruder (capacity : Nat) : Intruder (localPipe capacity) Bytes where
  act bs h := (h.write capacity bs).2
  bytes bs h := (h.write capacity bs).2.bytes.drop h.bytes.length
  contents_act := by
    intro bs h
    show (h.write capacity bs).2.bytes = h.bytes ++ _
    unfold PipeHost.write
    split_ifs <;> simp

/-- He closes neither end. -/
theorem keeps_localIntruder (capacity : Nat) :
    (localIntruder capacity).Keeps (localLimits capacity) :=
  fun bs _ hopen => hopen.write capacity bs

/-! ## A channel of a host whose pipe is in pages -/

/-- Such a pipe has no room for a record once all pages are taken and the last one is
written to its end, however little of them is unread. -/
def hostLimits : hostPipe.Limits where
  capacity := Host.Pipe.capacity
  isOpen := PipedHost.InUse
  isFull h := !h.hasRoom
  isOpen_outside := fun o _ hopen => hopen.elsewhere o
  isOpen_write := fun r _ hopen => hopen.write r.encode
  isOpen_read := fun _ hopen => hopen.read ControlRecord.size
  isFull_of_lt := fun h hopen hlong => by simpa using hopen.hasRoom_eq_false hlong
  write_full := by
    intro r h hopen hfull
    refine (hopen.write_record r).trans (if_neg ?_)
    simpa using hfull
  write_room := by
    intro r h hopen hroom
    refine ⟨ControlRecord.size, (hopen.write_record r).trans (if_pos ?_)⟩
    simpa using hroom
  read_empty := fun _ hopen hempty => hopen.read_record.1 hempty
  read_some := fun _ hopen hsome => hopen.read_record.2 hsome

/-- Somebody who writes into that pipe, as much as finds room. -/
def hostIntruder : Intruder hostPipe Bytes where
  act bs h := (PipedHost.answer (.write PipeHost.writeEnd bs) h).2
  bytes bs h :=
    (PipedHost.answer (.write PipeHost.writeEnd bs) h).2.contents.drop h.contents.length
  contents_act := by
    intro bs h
    obtain ⟨more, hmore⟩ := PipedHost.contents_write bs h
    show (PipedHost.answer (.write PipeHost.writeEnd bs) h).2.contents = h.contents ++ _
    rw [hmore, List.drop_left]

/-- He closes neither end. -/
theorem keeps_hostIntruder : hostIntruder.Keeps hostLimits :=
  fun bs _ hopen => hopen.write bs

/-! ## A shifted channel -/

/-- Three records are sent and received.  After three bytes of an intruder one record is
shifted, and once the pipe has been drained they arrive again. -/
def intruded {ω : Type} : List (Action ω Bytes) :=
  [.send (.register 5 1), .send (.deregister 5 1), .send .exit, .receive, .receive, .receive,
    .intrude [1, 2, 3], .send (.register 5 2), .receive, .receive, .receive,
    .send (.register 6 3), .receive]

/-- A pipe with room for two records refuses the third; the host's pipe takes it. -/
theorem is_queue_intruded :
    (IsQueue (localIntruder 32) (localLimits 32) {} intruded ∧
      (runFrom (localIntruder 32) {} intruded).1 =
        [.sent (.register 5 1), .sent (.deregister 5 1), .refused .exit again,
          .received (.register 5 1), .received (.deregister 5 1), .failed again,
          .sent (.register 5 2), .failed (.unknownCommand 0x01030201),
          .failed (ControlChannel.shortTransfer 3 Errno.none), .failed again,
          .sent (.register 6 3), .received (.register 6 3)]) ∧
    IsQueue hostIntruder hostLimits PipedHost.start intruded ∧
      (runFrom hostIntruder PipedHost.start intruded).1 =
        [.sent (.register 5 1), .sent (.deregister 5 1), .sent .exit,
          .received (.register 5 1), .received (.deregister 5 1), .received .exit,
          .sent (.register 5 2), .failed (.unknownCommand 0x01030201),
          .failed (ControlChannel.shortTransfer 3 Errno.none), .failed again,
          .sent (.register 6 3), .received (.register 6 3)] :=
  ⟨⟨is_queue (keeps_localIntruder 32) ⟨rfl, rfl⟩ intruded, by decide +kernel⟩,
    is_queue keeps_hostIntruder PipedHost.inUse_start intruded, by decide +kernel⟩

end Channel

end ReceiveReactor
