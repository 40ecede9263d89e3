import ReceiveReactor.Kernel.Script
import ReceiveReactor.Proofs.Preparation

/-!
# Numbers that an option hands over

The value of an option is made of signed words.  The size of a buffer goes into one of 32
bits, the seconds of a receive timeout go into one of 64, and a number that does not fit is
**cut to the word, not refused**.  A timeout is cut once more: to whole microseconds, of
which none at all means no timeout.

* `Bytes.toIntLE`, `Bytes.toIntLE_ofNatLE` — the signed number that a word holds, and what a
  number becomes in it;
* `Options.Answered`, `Options.handed` — one option call and the result that its answer
  makes; the values that a run hands over;
* `SizedBuffer.Undistorted`, `SizedBuffer.size_undistorted_iff` — larger requests ask for
  more, **exactly below 2^31**;
* `Timeval`, `Duration.Meant`, `Duration.timeout_meant_iff` — a timeout keeps its meaning
  **exactly if** it is none or a microsecond at least, and its seconds are below 2^63.
-/

namespace ReceiveReactor

/-! ## Signed words -/

namespace Bytes

/-- The signed number that some bytes hold, lowest byte first. -/
def toIntLE (bs : Bytes) : Int :=
  (toNatLE bs : Int).bmod (256 ^ bs.length)

/-- A number in a word too small for it comes back as the number in signed range that
differs from it by **whole turns of the word**. -/
theorem toIntLE_ofNatLE (width n : Nat) :
    toIntLE (ofNatLE width n) = (n : Int).bmod (256 ^ width) := by
  rw [toIntLE, toNatLE_ofNatLE, length_ofNatLE, Int.natCast_emod, Int.emod_bmod]

end Bytes

/-- The upper half of a word counts as negative. -/
theorem bmod_two_mul (n half : Nat) :
    (n % (2 * half) < half ∧ (n : Int).bmod (2 * half) = (n % (2 * half) : Nat)) ∨
      (half ≤ n % (2 * half) ∧
        (n : Int).bmod (2 * half) = (n % (2 * half) : Nat) - ((2 * half : Nat) : Int)) := by
  have hmiddle : (((2 * half : Nat) : Int) + 1) / 2 = half := by omega
  rw [Int.bmod_def, hmiddle, ← Int.natCast_emod]
  split
  · next hlow => exact Or.inl ⟨Int.ofNat_lt.mp hlow, rfl⟩
  · next hhigh => exact Or.inr ⟨Nat.not_lt.mp fun hlow => hhigh (Int.ofNat_lt.mpr hlow), rfl⟩

/-! ## One option call -/

namespace Options

variable {α σ : Type}

/-- One option call was made, and the result is what its answer makes of it. -/
def Answered (fd : Fd) (level option : Nat) (shown : String) (value : Bytes)
    (r : Except SocketError Unit) (log : List Exchange) : Prop :=
  (∃ errno, r = .error (.setOption errno shown) ∧
    log = [⟨.setsockopt fd level option value, .error errno⟩]) ∨
  (r = .ok () ∧ log = [⟨.setsockopt fd level option value, .ok ()⟩])

/-- The value that an exchange hands over, if it sets an option. -/
def handed? : Exchange → Option Bytes
  | ⟨.setsockopt _ _ _ value, _⟩ => some value
  | _ => none

/-- The values that a run hands over in the options that it sets. -/
def handed (K : Kernel σ) (s : σ) (p : Program α) : List Bytes :=
  (p.exchanges K s).filterMap handed?

variable {fd : Fd} {level option : Nat} {shown : String} {value : Bytes}

/-- **Setting an option** tells the kernel one value, and answers as the kernel does. -/
theorem answered_setOption (K : Kernel σ) (s : σ) :
    Answered fd level option shown value ((setOption fd level option shown value).run K s).1
      ((setOption fd level option shown value).exchanges K s) :=
  (Sctp.ends_setOption fd level option shown value).run K s

/-- An option call hands over its value, **whatever its answer is**. -/
theorem handed_setOption (K : Kernel σ) (s : σ) :
    handed K s (setOption fd level option shown value) = [value] := by
  rcases answered_setOption K s with ⟨errno, -, hlog⟩ | ⟨-, hlog⟩
  · rw [handed, hlog]
    rfl
  · rw [handed, hlog]
    rfl

end Options

/-! ## Buffer sizes -/

/-- The two buffers that the kernel keeps for a socket. -/
inductive SizedBuffer where
  | receive
  | send
deriving DecidableEq, Repr

namespace SizedBuffer

/-- The option that sets the size. -/
def option : SizedBuffer → Nat
  | receive => Options.receiveBuffer
  | send => Options.sendBuffer

/-- The name of the option in an error. -/
def shown : SizedBuffer → String
  | receive => "SO_RCVBUF"
  | send => "SO_SNDBUF"

/-- Asks for a size. -/
def resize (b : SizedBuffer) (fd : Fd) (size : Nat) : Program (Except SocketError Unit) :=
  match b with
  | receive => setReceiveBufferSize fd size
  | send => setSendBufferSize fd size

/-- A size is set through the option of its buffer, cut to a word of 32 bits. -/
theorem resize_eq (b : SizedBuffer) (fd : Fd) (size : Nat) :
    b.resize fd size =
      Options.setOption fd Options.socketLevel b.option b.shown (Options.narrow size) := by
  cases b <;> rfl

variable {σ : Type}

/-- The integers that a request hands over. -/
def wanted (b : SizedBuffer) (K : Kernel σ) (s : σ) (fd : Fd) (size : Nat) : List Int :=
  (Options.handed K s (b.resize fd size)).map Bytes.toIntLE

/-- Sizes up to a bound reach the kernel undistorted. -/
structure Undistorted (b : SizedBuffer) (K : Kernel σ) (s : σ) (fd : Fd) (bound : Nat) :
    Prop where
  /-- A request fails, or asks for no negative size. -/
  nonneg : ∀ size ≤ bound, (∃ cause, ((b.resize fd size).run K s).1 = .error cause) ∨
    ∀ n ∈ b.wanted K s fd size, 0 ≤ n
  /-- A larger request never asks for less. -/
  mono : ∀ size size', size ≤ size' → size' ≤ bound →
    ∀ n ∈ b.wanted K s fd size, ∀ n' ∈ b.wanted K s fd size', n ≤ n'

/-- What requests for the size of a buffer hand over. -/
structure HandsOver (b : SizedBuffer) (K : Kernel σ) (s : σ) (fd : Fd) : Prop where
  /-- **Every size reaches the kernel**: none is refused before the call. -/
  answered : ∀ size, Options.Answered fd Options.socketLevel b.option b.shown
    (Options.narrow size) ((b.resize fd size).run K s).1 ((b.resize fd size).exchanges K s)
  /-- It is cut to a signed word of 32 bits. -/
  wanted : ∀ size, b.wanted K s fd size = [(size : Int).bmod (2 ^ 32)]
  /-- So the upper half of every 4 GiB asks for a negative size, -/
  nonneg_iff : ∀ size, (∀ n ∈ b.wanted K s fd size, 0 ≤ n) ↔ size % 2 ^ 32 < 2 ^ 31
  /-- and only below 2 GiB is the size itself asked for. -/
  exact_iff : ∀ size, b.wanted K s fd size = [(size : Int)] ↔ size < 2 ^ 31
  /-- **Up to 2 GiB less one**, and no further, sizes are undistorted. -/
  undistorted_iff : ∀ bound, b.Undistorted K s fd bound ↔ bound < 2 ^ 31

/-- **What the kernel is told of a size** is its lowest 32 bits, as a signed number. -/
theorem wanted_eq (b : SizedBuffer) (K : Kernel σ) (s : σ) (fd : Fd) (size : Nat) :
    b.wanted K s fd size = [(size : Int).bmod (2 ^ 32)] := by
  rw [wanted, resize_eq, Options.handed_setOption, List.map_singleton, Options.narrow,
    Bytes.toIntLE_ofNatLE]
  rfl

/-- A size in 32 bits, in the two halves of the word. -/
theorem bmod_cases (size : Nat) :
    (size % 2 ^ 32 < 2 ^ 31 ∧ (size : Int).bmod (2 ^ 32) = (size % 2 ^ 32 : Nat)) ∨
      (2 ^ 31 ≤ size % 2 ^ 32 ∧
        (size : Int).bmod (2 ^ 32) = (size % 2 ^ 32 : Nat) - ((2 ^ 32 : Nat) : Int)) :=
  bmod_two_mul size (2 ^ 31)

/-- A size below half of the range is told as it is. -/
theorem bmod_of_lt {size : Nat} (h : size < 2 ^ 31) : (size : Int).bmod (2 ^ 32) = size := by
  rcases bmod_cases size with ⟨-, heq⟩ | ⟨hhigh, -⟩ <;> omega

/-- The largest size of a signed word is larger than what the next one becomes. -/
theorem not_undistorted_of_le {b : SizedBuffer} {K : Kernel σ} {s : σ} {fd : Fd} {bound : Nat}
    (h : 2 ^ 31 ≤ bound) : ¬ b.Undistorted K s fd bound := by
  intro hall
  have hmono := hall.mono (2 ^ 31 - 1) (2 ^ 31) (by decide) h
  rw [wanted_eq, wanted_eq] at hmono
  exact absurd (hmono _ (List.mem_singleton_self _) _ (List.mem_singleton_self _)) (by decide)

/-- **Buffer sizes reach the kernel undistorted exactly below 2^31**, for either buffer and
whatever the kernel answers. -/
theorem size_undistorted_iff (b : SizedBuffer) (K : Kernel σ) (s : σ) (fd : Fd) :
    b.HandsOver K s fd where
  answered := by
    intro size
    rw [resize_eq]
    exact Options.answered_setOption K s
  wanted := b.wanted_eq K s fd
  nonneg_iff := by
    intro size
    rw [wanted_eq, List.forall_mem_singleton]
    rcases bmod_cases size with ⟨hlow, heq⟩ | ⟨hhigh, heq⟩ <;> omega
  exact_iff := by
    intro size
    rw [wanted_eq, List.singleton_inj]
    rcases bmod_cases size with ⟨hlow, heq⟩ | ⟨hhigh, heq⟩ <;> omega
  undistorted_iff := by
    intro bound
    refine ⟨fun hall => Nat.not_le.mp fun hle => not_undistorted_of_le hle hall, fun hlt => ?_⟩
    refine ⟨fun size hsize => Or.inr ?_, fun size size' hle hsize' => ?_⟩
    · rw [wanted_eq, List.forall_mem_singleton, bmod_of_lt (by omega)]
      exact Int.natCast_nonneg size
    · rw [wanted_eq, wanted_eq, List.forall_mem_singleton, List.forall_mem_singleton,
        bmod_of_lt (by omega), bmod_of_lt (by omega)]
      exact Int.ofNat_le.mpr hle

/-- The kernel takes whatever size it is handed: for 2 GiB less one it is handed that many
bytes, and **for one byte more it is handed less than none**. -/
theorem larger_size_asks_for_less :
    ((receive.resize 3 (2 ^ 31 - 1)).run Script.kernel { replies := [{}] }).1 = .ok () ∧
      ((receive.resize 3 (2 ^ 31)).run Script.kernel { replies := [{}] }).1 = .ok () ∧
      receive.wanted Script.kernel { replies := [{}] } 3 (2 ^ 31 - 1) = [2147483647] ∧
      receive.wanted Script.kernel { replies := [{}] } 3 (2 ^ 31) = [-2147483648] ∧
      ¬ receive.Undistorted Script.kernel { replies := [{}] } 3 (2 ^ 31) :=
  ⟨rfl, rfl, by decide, by decide, not_undistorted_of_le (Nat.le_refl _)⟩

end SizedBuffer

/-! ## Receive timeouts -/

/-- A length of time: seconds, and what is left of one in nanoseconds. -/
structure Duration where
  seconds : UInt64
  nanoseconds : Nat
  nanoseconds_lt : nanoseconds < 10 ^ 9
deriving DecidableEq, Repr

/-- The signed seconds and microseconds that a timeout consists of. -/
structure Timeval where
  seconds : Int
  micros : Int
deriving DecidableEq, Repr

namespace Timeval

/-- The timeout that the value of the option holds. -/
def ofBytes (bs : Bytes) : Timeval := ⟨Bytes.toIntLE (bs.take 8), Bytes.toIntLE (bs.drop 8)⟩

/-- No timeout: a receive waits for ever. -/
def forever : Timeval := ⟨0, 0⟩

/-- All of it in microseconds. -/
def total (t : Timeval) : Int := t.seconds * 1000000 + t.micros

end Timeval

namespace Duration

variable {σ : Type} {K : Kernel σ} {s : σ} {fd : Fd} {d d' : Duration}

/-- All of it in nanoseconds. -/
def total (d : Duration) : Nat := d.seconds.toNat * 10 ^ 9 + d.nanoseconds

/-- Sets it as the receive timeout of a socket. -/
def limit (d : Duration) (fd : Fd) : Program (Except SocketError Unit) :=
  setReceiveTimeout fd d.seconds d.nanoseconds

/-- The timeouts that this hands over. -/
def told (d : Duration) (K : Kernel σ) (s : σ) (fd : Fd) : List Timeval :=
  (Options.handed K s (d.limit fd)).map Timeval.ofBytes

/-- The durations of a class keep their meaning. -/
structure Meant (K : Kernel σ) (s : σ) (fd : Fd) (D : Duration → Prop) : Prop where
  /-- To wait for ever is what no time at all means, and nothing else. -/
  forever_iff : ∀ d, D d → ∀ t ∈ d.told K s fd, t = .forever ↔ d.total = 0
  seconds_nonneg : ∀ d, D d → ∀ t ∈ d.told K s fd, 0 ≤ t.seconds
  micros_within : ∀ d, D d → ∀ t ∈ d.told K s fd, 0 ≤ t.micros ∧ t.micros ≤ 999999
  /-- A longer time never becomes a shorter one. -/
  mono : ∀ d d', D d → D d' → d.total ≠ 0 → d.total ≤ d'.total →
    ∀ t ∈ d.told K s fd, ∀ t' ∈ d'.told K s fd, t.total ≤ t'.total

/-- What receive timeouts hand over. -/
structure HandsOver (K : Kernel σ) (s : σ) (fd : Fd) : Prop where
  /-- **Every duration reaches the kernel**: none is refused before the call. -/
  answered : ∀ d : Duration, Options.Answered fd Options.socketLevel Options.receiveTimeout
    "SO_RCVTIMEO" (Options.timeval d.seconds d.nanoseconds) ((d.limit fd).run K s).1
    ((d.limit fd).exchanges K s)
  /-- Its seconds are cut to a signed word, its nanoseconds to whole microseconds. -/
  told : ∀ d : Duration, d.told K s fd =
    [⟨(d.seconds.toNat : Int).bmod (2 ^ 64), (d.nanoseconds / 1000 : Nat)⟩]
  /-- So whatever is shorter than a microsecond **waits for ever**, -/
  forever_iff : ∀ d : Duration, d.told K s fd = [.forever] ↔ d.total < 1000
  micros_within : ∀ d : Duration, ∀ t ∈ d.told K s fd, 0 ≤ t.micros ∧ t.micros ≤ 999999
  /-- and from 2^63 seconds on the time is a negative one, -/
  nonneg_iff : ∀ d : Duration,
    (∀ t ∈ d.told K s fd, 0 ≤ t.seconds) ↔ d.seconds.toNat < 2 ^ 63
  /-- shorter than all that stay below. -/
  mono_iff : ∀ d d' : Duration, d.total ≤ d'.total →
    ((∀ t ∈ d.told K s fd, ∀ t' ∈ d'.told K s fd, t.total ≤ t'.total) ↔
      (d'.seconds.toNat < 2 ^ 63 ∨ 2 ^ 63 ≤ d.seconds.toNat))
  /-- **Which durations keep their meaning.** -/
  meant_iff : ∀ D : Duration → Prop, Meant K s fd D ↔
    ∀ d, D d → d.seconds.toNat < 2 ^ 63 ∧ (d.total = 0 ∨ 1000 ≤ d.total)

/-- **What the kernel is told of a timeout** is its seconds as a signed word, and its whole
microseconds. -/
theorem told_eq (d : Duration) (K : Kernel σ) (s : σ) (fd : Fd) :
    d.told K s fd =
      [⟨(d.seconds.toNat : Int).bmod (2 ^ 64), (d.nanoseconds / 1000 : Nat)⟩] := by
  have hmicros : ((d.nanoseconds / 1000 : Nat) : Int).bmod (2 ^ 64) =
      (d.nanoseconds / 1000 : Nat) := by
    have hlt := d.nanoseconds_lt
    exact Int.bmod_eq_of_le (by omega) (by omega)
  rw [told, limit, setReceiveTimeout, Options.handed_setOption, List.map_singleton,
    Timeval.ofBytes, Options.timeval, List.take_left' (Bytes.length_ofNatLE _ _),
    List.drop_left' (Bytes.length_ofNatLE _ _), Bytes.toIntLE_ofNatLE, Bytes.toIntLE_ofNatLE]
  exact congrArg (fun micros => [Timeval.mk _ micros]) hmicros

/-- The seconds in 64 bits, in the two halves of the word. -/
theorem seconds_cases (d : Duration) :
    (d.seconds.toNat < 2 ^ 63 ∧ (d.seconds.toNat : Int).bmod (2 ^ 64) = d.seconds.toNat) ∨
      (2 ^ 63 ≤ d.seconds.toNat ∧
        (d.seconds.toNat : Int).bmod (2 ^ 64) = d.seconds.toNat - ((2 ^ 64 : Nat) : Int)) := by
  have hmod : d.seconds.toNat % (2 * 2 ^ 63) = d.seconds.toNat :=
    Nat.mod_eq_of_lt d.seconds.toNat_lt
  have hcases := bmod_two_mul d.seconds.toNat (2 ^ 63)
  rw [hmod] at hcases
  exact hcases

/-- Every timeout below a microsecond is told as **none at all**. -/
theorem told_forever_iff : d.told K s fd = [.forever] ↔ d.total < 1000 := by
  rw [told_eq, List.singleton_inj, Timeval.forever, Timeval.mk.injEq, total]
  have hlt := d.seconds.toNat_lt
  rcases d.seconds_cases with ⟨hlow, heq⟩ | ⟨hhigh, heq⟩ <;> omega

/-- The microseconds that are told are never a whole second. -/
theorem told_micros : ∀ t ∈ d.told K s fd, 0 ≤ t.micros ∧ t.micros ≤ 999999 := by
  rw [told_eq, List.forall_mem_singleton]
  have hlt := d.nanoseconds_lt
  dsimp only
  omega

/-- The seconds are told as they are just if they fit into a signed word. -/
theorem told_nonneg_iff :
    (∀ t ∈ d.told K s fd, 0 ≤ t.seconds) ↔ d.seconds.toNat < 2 ^ 63 := by
  rw [told_eq, List.forall_mem_singleton]
  have hlt := d.seconds.toNat_lt
  dsimp only
  rcases d.seconds_cases with ⟨hlow, heq⟩ | ⟨hhigh, heq⟩ <;> omega

/-- Order is lost only between the halves of the word. -/
theorem told_mono_iff (hle : d.total ≤ d'.total) :
    (∀ t ∈ d.told K s fd, ∀ t' ∈ d'.told K s fd, t.total ≤ t'.total) ↔
      (d'.seconds.toNat < 2 ^ 63 ∨ 2 ^ 63 ≤ d.seconds.toNat) := by
  rw [told_eq, told_eq, List.forall_mem_singleton, List.forall_mem_singleton]
  simp only [Timeval.total]
  rw [total, total] at hle
  have hlt := d.nanoseconds_lt
  have hlt' := d'.nanoseconds_lt
  have hword := d.seconds.toNat_lt
  have hword' := d'.seconds.toNat_lt
  rcases d.seconds_cases with ⟨hlow, heq⟩ | ⟨hhigh, heq⟩ <;>
    rcases d'.seconds_cases with ⟨hlow', heq'⟩ | ⟨hhigh', heq'⟩ <;>
    rw [heq, heq'] <;> omega

/-- Whatever means to wait for ever is no time at all, or too short to be told. -/
theorem forever_meant_iff :
    (∀ t ∈ d.told K s fd, t = .forever ↔ d.total = 0) ↔ (d.total = 0 ∨ 1000 ≤ d.total) := by
  have htold : d.told K s fd = [.forever] ↔ d.total < 1000 := told_forever_iff
  rw [told_eq, List.singleton_inj] at htold
  rw [told_eq, List.forall_mem_singleton, htold]
  omega

/-- **Timeouts are meant as they are told** just if none is too long, and none but zero too
short. -/
theorem meant_iff {D : Duration → Prop} :
    Meant K s fd D ↔ ∀ d, D d → d.seconds.toNat < 2 ^ 63 ∧ (d.total = 0 ∨ 1000 ≤ d.total) := by
  constructor
  · intro hall d hd
    exact ⟨told_nonneg_iff.mp (hall.seconds_nonneg d hd),
      forever_meant_iff.mp (hall.forever_iff d hd)⟩
  · intro hall
    exact
      { forever_iff := fun d hd => forever_meant_iff.mpr (hall d hd).2
        seconds_nonneg := fun d hd => told_nonneg_iff.mpr (hall d hd).1
        micros_within := fun d _ => told_micros
        mono := fun d d' _ hd' _ hle => (told_mono_iff hle).mpr (Or.inl (hall d' hd').1) }

/-- **A receive timeout keeps its meaning exactly if** it is none or a microsecond at least,
and its seconds fit, whatever the kernel answers. -/
theorem timeout_meant_iff (K : Kernel σ) (s : σ) (fd : Fd) : HandsOver K s fd where
  answered := fun _ => Options.answered_setOption K s
  told := fun d => d.told_eq K s fd
  forever_iff := fun _ => told_forever_iff
  micros_within := fun _ => told_micros
  nonneg_iff := fun _ => told_nonneg_iff
  mono_iff := fun _ _ => told_mono_iff
  meant_iff := fun _ => meant_iff

/-- **The shortest times wait for ever**: 999 nanoseconds are told as no timeout, a
microsecond is told as one.  The longest are told as less than nothing. -/
theorem short_timeout_waits_forever :
    ((limit ⟨0, 999, by decide⟩ 3).run Script.kernel { replies := [{}] }).1 = .ok () ∧
      told ⟨0, 999, by decide⟩ Script.kernel { replies := [{}] } 3 = [.forever] ∧
      told ⟨0, 1000, by decide⟩ Script.kernel { replies := [{}] } 3 = [⟨0, 1⟩] ∧
      told ⟨0x8000000000000000, 0, by decide⟩ Script.kernel { replies := [{}] } 3 =
        [⟨-0x8000000000000000, 0⟩] ∧
      ¬ Meant Script.kernel { replies := [{}] } 3 fun d => d = ⟨0, 999, by decide⟩ := by
  refine ⟨rfl, by decide, by decide, by decide, fun hall => ?_⟩
  have htotal : total ⟨0, 999, by decide⟩ = 999 := rfl
  have hmeant := (meant_iff.mp hall _ rfl).2
  omega

end Duration

end ReceiveReactor
