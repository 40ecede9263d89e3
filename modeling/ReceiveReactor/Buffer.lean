import ReceiveReactor.Bytes

/-!
# Receive buffers drawn from a bounded pool

A receive attempt takes one buffer out of the pool and hands it, filled, to the
consumer; when the consumer drops it, its storage goes back to the pool.  The
pool caps how many buffers are out at once.  Released storage is reused **last
released first** and keeps its old bytes; only new storage is zero.

* `BufferPool.allocate` — a buffer, nothing once the limit is reached, or a
  panic when new storage would be too large to exist;
* `BufferPool.release` — the way back;
* `Buffer.filled` — what a consumer sees.
-/

namespace ReceiveReactor

/-- Storage of which the first `len` bytes count as filled. -/
structure Buffer where
  storage : Bytes
  len : Nat := 0
deriving DecidableEq, Repr

namespace Buffer

/-- The size of the storage. -/
def capacity (b : Buffer) : Nat := b.storage.length

/-- The filled part. -/
def filled (b : Buffer) : Bytes := b.storage.take b.len

/-- Sets the filled length, cut off at the capacity. -/
def setLen (b : Buffer) (n : Nat) : Buffer := { b with len := min n b.capacity }

/-- Stores received data over the beginning of the storage. -/
def receive (b : Buffer) (data : Bytes) : Buffer :=
  { b with storage := Bytes.overlay data b.storage }

/-- Writes into the storage at an offset, whatever is filled; answers how many
bytes found room. -/
def writeSpare (b : Buffer) (offset : Nat) (data : Bytes) : Buffer × Nat :=
  ({ b with storage := b.storage.take offset ++ Bytes.overlay data (b.storage.drop offset) },
   min data.length (b.capacity - offset))

/-- Writes over the filled part; answers how many bytes found room. -/
def writeFilled (b : Buffer) (data : Bytes) : Buffer × Nat :=
  ({ b with storage := Bytes.overlay data b.filled ++ b.storage.drop b.len },
   min data.length b.filled.length)

/-- How a buffer describes itself. -/
def describe (b : Buffer) : String :=
  "PooledBuffer \x7b len: " ++ toString b.len ++ ", capacity: " ++ toString b.capacity ++ " \x7d"

/-! Nothing that is done to a buffer changes the size of its storage. -/

@[simp] theorem capacity_setLen (b : Buffer) (n : Nat) : (b.setLen n).capacity = b.capacity := rfl

@[simp] theorem capacity_receive (b : Buffer) (data : Bytes) :
    (b.receive data).capacity = b.capacity := by
  simp [receive, capacity]

@[simp] theorem capacity_writeSpare (b : Buffer) (offset : Nat) (data : Bytes) :
    (b.writeSpare offset data).1.capacity = b.capacity := by
  simp [writeSpare, capacity]
  omega

@[simp] theorem capacity_writeFilled (b : Buffer) (data : Bytes) :
    (b.writeFilled data).1.capacity = b.capacity := by
  simp [writeFilled, capacity, filled]
  omega

/-- The filled length is cut off at the capacity. -/
theorem len_setLen_le (b : Buffer) (n : Nat) : (b.setLen n).len ≤ (b.setLen n).capacity :=
  Nat.min_le_right n b.capacity

end Buffer

/-- A pool of equal buffers: storages waiting for reuse, last released first,
and how many buffers are out. -/
structure BufferPool where
  capacity : Nat
  limit : Nat
  free : List Bytes := []
  outstanding : Nat := 0
deriving DecidableEq, Repr

/-- What an allocation comes to. -/
inductive Allocation where
  | granted (buffer : Buffer)
  | exhausted
  /-- New storage of this size cannot exist. -/
  | panicked
deriving DecidableEq, Repr

namespace BufferPool

/-- Bytes of a buffer unless configured otherwise. -/
def defaultCapacity : Nat := 12756

/-- Buffers in flight at once unless configured otherwise. -/
def defaultLimit : Nat := 4096

/-- The largest storage that can exist. -/
def maxStorage : Nat := UInt64.size / 2 - 1

/-- A pool that has handed out nothing yet. -/
def ofLimits (capacity limit : Nat) : BufferPool := { capacity, limit }

/-- Takes a buffer out of the pool.  The slot is **counted before** storage is
found or made, and stays counted when making it fails. -/
def allocate (p : BufferPool) : Allocation × BufferPool :=
  if p.limit ≤ p.outstanding then (.exhausted, p)
  else
    let counted := { p with outstanding := p.outstanding + 1 }
    match p.free with
    | storage :: rest => (.granted { storage }, { counted with free := rest })
    | [] =>
      if maxStorage < p.capacity then (.panicked, counted)
      else (.granted { storage := Bytes.zeros p.capacity }, counted)

/-- Puts a buffer's storage back. -/
def release (p : BufferPool) (b : Buffer) : BufferPool :=
  { p with outstanding := p.outstanding - 1, free := b.storage :: p.free }

end BufferPool

end ReceiveReactor
