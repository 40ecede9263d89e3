import ReceiveReactor.Kernel.Script
import ReceiveReactor.Proofs.Exchange
import ReceiveReactor.Socket.Transfer

/-!
# A whole buffer into a stream

The kernel takes as much of what it is offered as it likes, or refuses.  The loop offers
the rest again after each part that was taken, and **the first refusal ends it**.

* `Exchange.taken`, `taken` — what the kernel took in one call, and in all of them;
* `Transfer.Sends`, `Transfer.ends_sendRest` — **the loop, call by call**, whatever the
  kernel answers;
* `Transfer.Sends.taken_cases`, `Transfer.Sends.offers` — what was taken in the end, and
  what each call offers;
* `Transfer.bytes_sent_once` — no byte is skipped and none is sent twice.
-/

namespace ReceiveReactor

namespace Exchange

/-- What the kernel took of the bytes that a send offered. -/
def taken : Exchange → Bytes
  | ⟨.send _ data _, .ok count⟩ => data.take count.toNat
  | _ => []

/-- A send fails, or takes no more than it was offered; the count is never below zero. -/
def Bounded : Exchange → Prop
  | ⟨.send _ data _, .ok count⟩ => 0 ≤ count ∧ count ≤ data.length
  | _ => True

instance (e : Exchange) : Decidable e.Bounded := by
  unfold Bounded
  split <;> infer_instance

end Exchange

/-- What the kernel took in some calls, one after the other. -/
def taken (log : List Exchange) : Bytes := log.flatMap Exchange.taken

namespace Transfer

/-- A send that moves nothing, with the error number that is reported for it. -/
inductive Refuses (fd : Fd) (rest : Bytes) : Exchange → Errno → Prop where
  | fails (errno : Errno) : Refuses fd rest ⟨.send fd rest noSignalFlag, .error errno⟩ errno
  /-- Nothing is moved, and **no error is reported**. -/
  | nothing : Refuses fd rest ⟨.send fd rest noSignalFlag, .ok 0⟩ Errno.none

theorem Refuses.taken_eq {fd : Fd} {rest : Bytes} {e : Exchange} {errno : Errno}
    (h : Refuses fd rest e errno) : e.taken = [] := by
  cases h with
  | fails errno => rfl
  | nothing => simp [Exchange.taken]

/-- The loop from the moment on at which `sent` bytes are out and `rest` is left: what it
ends with, and its calls. -/
inductive Sends (fd : Fd) : (sent : Nat) → (rest : Bytes) → Except IoError Nat →
    List Exchange → Prop where
  | done (sent : Nat) : Sends fd sent [] (.ok sent) []
  | stops {sent : Nat} {rest : Bytes} {e : Exchange} {errno : Errno} (hrest : rest ≠ [])
      (hrefuses : Refuses fd rest e errno) :
      Sends fd sent rest (.error (.partialSend sent rest.length errno)) [e]
  | moves {sent count : Nat} {rest : Bytes} {result : Except IoError Nat} {log : List Exchange}
      (hsome : 0 < count) (hfits : count ≤ rest.length)
      (hlater : Sends fd (sent + count) (rest.drop count) result log) :
      Sends fd sent rest result (⟨.send fd rest noSignalFlag, .ok count⟩ :: log)

/-- **The loop ends so**, whatever the kernel answers to its calls. -/
theorem ends_sendRest (fd : Fd) (sent : Nat) (rest : Bytes) :
    (sendRest fd sent rest).Ends fun result log =>
      (∀ e ∈ log, e.Bounded) → Sends fd sent rest result log := by
  induction sent, rest using sendRest.induct with
  | case1 sent =>
      rw [sendRest, if_pos rfl]
      intro _
      exact .done sent
  | case2 sent rest hrest ih =>
      rw [sendRest, if_neg hrest]
      intro reply
      match reply with
      | .error errno =>
          intro _
          exact .stops hrest (.fails errno)
      | .ok count =>
          show Program.Ends (if count < 1 then _ else _) _
          by_cases hcount : count < 1
          · rw [if_pos hcount]
            intro hbounded
            obtain ⟨hnonneg, -⟩ : 0 ≤ count ∧ count ≤ rest.length :=
              hbounded _ (List.mem_singleton_self _)
            obtain rfl : count = 0 := by omega
            exact .stops hrest .nothing
          · rw [if_neg hcount]
            refine (ih count hcount).mono fun result log hsends hbounded => ?_
            obtain ⟨⟨hnonneg, hfits⟩, hlater⟩ := List.forall_mem_cons.mp hbounded
            obtain ⟨n, rfl⟩ := Int.eq_ofNat_of_zero_le hnonneg
            rw [Int.toNat_natCast] at hsends
            exact .moves (by omega) (by omega) (hsends hlater)

namespace Sends

variable {fd : Fd} {sent : Nat} {data rest : Bytes} {result : Except IoError Nat}
variable {log : List Exchange}

/-- A call that moved something took the front of what was left. -/
theorem taken_moves (fd : Fd) (rest : Bytes) (count : Nat) (log : List Exchange) :
    taken (⟨.send fd rest noSignalFlag, .ok (count : Int)⟩ :: log) =
      rest.take count ++ taken log := by
  simp [taken, Exchange.taken]

/-- **One byte at least with each call** but the last one. -/
theorem length_le (h : Sends fd sent rest result log) : log.length ≤ rest.length := by
  induction h with
  | done sent => exact Nat.le_refl _
  | stops hrest hrefuses => exact List.length_pos_iff.mpr hrest
  | moves hsome hfits hlater ih =>
      rw [List.length_drop] at ih
      rw [List.length_cons]
      omega

/-- What all calls took is the beginning of what was left.  It is **the whole of it**, or the
last call refused the rest. -/
theorem taken_cases (h : Sends fd sent rest result log) :
    (result = .ok (sent + rest.length) ∧ taken log = rest) ∨
    ∃ front e errno left, log = front ++ [e] ∧ rest = taken log ++ left ∧ left ≠ [] ∧
      Refuses fd left e errno ∧
      result = .error (.partialSend (sent + (taken log).length) left.length errno) := by
  induction h with
  | done sent => exact Or.inl ⟨rfl, rfl⟩
  | @stops sent rest e errno hrest hrefuses =>
      have hnone : taken [e] = [] := by simp [taken, hrefuses.taken_eq]
      refine Or.inr ⟨[], e, errno, rest, rfl, ?_, hrest, hrefuses, ?_⟩
      · rw [hnone, List.nil_append]
      · rw [hnone, List.length_nil, Nat.add_zero]
  | @moves sent count rest result log hsome hfits hlater ih =>
      have hfront : (rest.take count).length = count := List.length_take_of_le hfits
      rw [taken_moves]
      rcases ih with ⟨hresult, hall⟩ | ⟨front, e, errno, left, rfl, hrest, hleft, hrefuses, hresult⟩
      · left
        rw [hall, List.take_append_drop, hresult, List.length_drop]
        exact ⟨congrArg Except.ok (by omega), rfl⟩
      · right
        refine ⟨_ :: front, e, errno, left, rfl, ?_, hleft, hrefuses, ?_⟩
        · rw [List.append_assoc, ← hrest, List.take_append_drop]
        · rw [hresult, List.length_append, hfront, Nat.add_assoc]

/-- Each call offers **what was not taken before it**, and only the last one takes nothing. -/
theorem offers (h : Sends fd sent rest result log) {front back : List Exchange} {e : Exchange}
    (hlog : log = front ++ e :: back) :
    ∃ left, rest = taken front ++ left ∧ left ≠ [] ∧ e.call = .send fd left noSignalFlag ∧
      (back ≠ [] → e.taken ≠ []) := by
  induction h generalizing front with
  | done sent => simp at hlog
  | @stops sent rest e' errno hrest hrefuses =>
      obtain ⟨rfl, rfl, rfl⟩ : front = [] ∧ e' = e ∧ back = [] := by
        cases front <;> simp_all
      refine ⟨rest, rfl, hrest, ?_, fun h => absurd rfl h⟩
      cases hrefuses <;> rfl
  | @moves sent count rest result log hsome hfits hlater ih =>
      have hrest : rest ≠ [] := by
        rintro rfl
        exact absurd hfits (Nat.not_le.mpr hsome)
      cases front with
      | nil =>
          obtain ⟨rfl, rfl⟩ := List.cons.inj hlog
          refine ⟨rest, rfl, hrest, rfl, fun _ => ?_⟩
          simp [Exchange.taken, hrest]
          omega
      | cons first front =>
          obtain ⟨rfl, rfl⟩ := List.cons.inj hlog
          obtain ⟨left, hleft, hne, hcall, hmoves⟩ := ih rfl
          refine ⟨left, ?_, hne, hcall, hmoves⟩
          rw [taken_moves, List.append_assoc, ← hleft, List.take_append_drop]

end Sends

/-- What a whole send comes to: its result, after some calls. -/
structure SentOnce (fd : Fd) (data : Bytes) (result : Except IoError Nat)
    (log : List Exchange) : Prop where
  /-- **The loop ends**, after one call for each byte at most. -/
  ends : log.length ≤ data.length
  /-- Each call offers what the kernel has not taken yet, and that is never nothing; no call
  follows one that took nothing. -/
  offers : ∀ front e back, log = front ++ e :: back →
    e.call = .send fd (data.drop (taken front).length) noSignalFlag ∧
      (taken front).length < data.length ∧ (back ≠ [] → e.taken ≠ [])
  /-- **No byte is skipped and none is sent twice**: at every moment the kernel has taken the
  beginning of the buffer. -/
  ordered : ∀ front back, log = front ++ back → taken front <+: data
  /-- The send succeeds exactly if that is the whole buffer. -/
  ok_iff : (∃ n, result = .ok n) ↔ taken log = data
  ok : ∀ n, result = .ok n → n = data.length
  /-- A send that fails tells how far it got, how much is left, and why the last call moved
  nothing. -/
  stopped : ∀ cause, result = .error cause → ∃ front e sent remaining errno,
    log = front ++ [e] ∧ cause = .partialSend sent remaining errno ∧
      sent = (taken log).length ∧ sent + remaining = data.length ∧ 0 < remaining ∧
      Refuses fd (data.drop sent) e errno ∧
      cause.kind = if errno = Errno.none then .writeZero else errno.kind
  /-- Of nothing, **no call is made**. -/
  silent : data = [] → log = []

/-- What a loop sends it sends once, and its result tells how much. -/
theorem Sends.sentOnce {fd : Fd} {data : Bytes} {result : Except IoError Nat}
    {log : List Exchange} (h : Sends fd 0 data result log) : SentOnce fd data result log := by
  have hordered : ∀ front back, log = front ++ back → taken front <+: data := by
    intro front back hlog
    cases back with
    | cons e back =>
        obtain ⟨left, hdata, -⟩ := h.offers hlog
        exact ⟨left, hdata.symm⟩
    | nil =>
        rw [List.append_nil] at hlog
        subst hlog
        rcases h.taken_cases with ⟨-, hall⟩ | ⟨_, _, _, left, -, hdata, -⟩
        · exact hall ▸ List.prefix_rfl
        · exact ⟨left, hdata.symm⟩
  refine ⟨h.length_le, ?_, hordered, ?_, ?_, ?_, ?_⟩
  · intro front e back hlog
    obtain ⟨left, rfl, hleft, hcall, hmoves⟩ := h.offers hlog
    rw [List.drop_left, List.length_append]
    have := List.length_pos_iff.mpr hleft
    exact ⟨hcall, by omega, hmoves⟩
  · rcases h.taken_cases with ⟨hresult, hall⟩ | ⟨_, _, _, left, -, hdata, hleft, -, hresult⟩
    · exact iff_of_true ⟨_, hresult⟩ hall
    · refine iff_of_false ?_ ?_
      · rintro ⟨n, hn⟩
        cases hresult.symm.trans hn
      · intro hall
        rw [hall] at hdata
        exact hleft (List.self_eq_append_right.mp hdata)
  · intro n hn
    rcases h.taken_cases with ⟨hresult, -⟩ | ⟨_, _, _, _, -, -, -, -, hresult⟩
    · rw [Except.ok.inj (hn.symm.trans hresult), Nat.zero_add]
    · cases hresult.symm.trans hn
  · intro cause hcause
    rcases h.taken_cases with ⟨hresult, -⟩ |
      ⟨front, e, errno, left, hlog, hdata, hleft, hrefuses, hresult⟩
    · cases hresult.symm.trans hcause
    · obtain rfl := Except.error.inj (hcause.symm.trans hresult)
      have hlength := congrArg List.length hdata
      rw [List.length_append] at hlength
      have hrest : data.drop (taken log).length = left := by
        rw [hdata]
        exact List.drop_left
      refine ⟨front, e, _, _, errno, hlog, rfl, Nat.zero_add _, ?_, List.length_pos_iff.mpr hleft,
        ?_, rfl⟩
      · omega
      · rw [Nat.zero_add, hrest]
        exact hrefuses
  · rintro rfl
    exact List.length_eq_zero_iff.mp (Nat.le_zero.mp h.length_le)

/-- **Bytes go out once each and in order**, however the kernel cuts a buffer and wherever it
refuses to go on. -/
theorem bytes_sent_once {σ : Type} (k : Kernel σ) (s : σ) (fd : Fd) (data : Bytes)
    (hbounded : ∀ e ∈ (sendStream fd data).exchanges k s, e.Bounded) :
    SentOnce fd data ((sendStream fd data).run k s).1 ((sendStream fd data).exchanges k s) :=
  ((ends_sendRest fd 0 data).run k s hbounded).sentOnce

/-- A kernel that takes two bytes, then two more, and then nothing. -/
def haltingScript : Script := { replies := [{ returned := 2 }, { returned := 2 }, {}] }

/-- Four bytes of five are taken and then none, which is told as a partial send. -/
theorem bytes_sent_once_halting :
    (∀ e ∈ (sendStream 77 [1, 2, 3, 4, 5]).exchanges Script.kernel haltingScript, e.Bounded) ∧
      SentOnce 77 [1, 2, 3, 4, 5]
        ((sendStream 77 [1, 2, 3, 4, 5]).run Script.kernel haltingScript).1
        ((sendStream 77 [1, 2, 3, 4, 5]).exchanges Script.kernel haltingScript) ∧
      ((sendStream 77 [1, 2, 3, 4, 5]).run Script.kernel haltingScript).1 =
        .error (.partialSend 4 1 Errno.none) := by
  have hbounded : ∀ e ∈ (sendStream 77 [1, 2, 3, 4, 5]).exchanges Script.kernel haltingScript,
      e.Bounded := by
    decide +kernel
  exact ⟨hbounded, bytes_sent_once Script.kernel haltingScript 77 _ hbounded, by decide +kernel⟩

end Transfer

end ReceiveReactor
