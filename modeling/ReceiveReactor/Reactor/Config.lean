import ReceiveReactor.Buffer

/-!
# Construction parameters of a reactor
-/

namespace ReceiveReactor

/-- A reactor's name and the size of its buffer pool. -/
structure ReactorConfig where
  name : String := "socket-reactor"
  /-- Bytes of a receive buffer. -/
  bufferCapacity : Nat := BufferPool.defaultCapacity
  /-- Receive buffers in flight at once. -/
  poolSize : Nat := BufferPool.defaultLimit
deriving DecidableEq, Repr

/-- The pool that a configuration asks for. -/
def ReactorConfig.pool (c : ReactorConfig) : BufferPool :=
  BufferPool.ofLimits c.bufferCapacity c.poolSize

end ReceiveReactor
