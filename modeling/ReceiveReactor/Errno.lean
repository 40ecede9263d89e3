/-!
# Error numbers of the kernel and kinds of errors

An `Errno` is the number with which the kernel explains a failed call.  The
library has its own wording for the numbers that socket code meets and falls
back to the bare number.  An `ErrorKind` is the coarse class under which a
caller matches an error.
-/

namespace ReceiveReactor

/-- The number with which the kernel explains a failed call. -/
structure Errno where
  number : Int32
deriving DecidableEq, Repr

namespace Errno

/-- No error was reported. -/
def none : Errno := ⟨0⟩
def notPermitted : Errno := ⟨1⟩
def interrupted : Errno := ⟨4⟩
def badDescriptor : Errno := ⟨9⟩
def wouldBlock : Errno := ⟨11⟩
def accessDenied : Errno := ⟨13⟩
def invalidArgument : Errno := ⟨22⟩
def tooManyFiles : Errno := ⟨24⟩
def brokenPipe : Errno := ⟨32⟩
def outOfDomain : Errno := ⟨33⟩
def notImplemented : Errno := ⟨38⟩
def notSocket : Errno := ⟨88⟩
def destinationRequired : Errno := ⟨89⟩
def messageTooLong : Errno := ⟨90⟩
def optionNotAvailable : Errno := ⟨92⟩
def protocolNotSupported : Errno := ⟨93⟩
def kindNotSupported : Errno := ⟨94⟩
def operationNotSupported : Errno := ⟨95⟩
def familyNotSupported : Errno := ⟨97⟩
def addressInUse : Errno := ⟨98⟩
def addressNotAvailable : Errno := ⟨99⟩
def networkUnreachable : Errno := ⟨101⟩
def connectionReset : Errno := ⟨104⟩
def noBufferSpace : Errno := ⟨105⟩
def alreadyConnected : Errno := ⟨106⟩
def notConnected : Errno := ⟨107⟩
def timedOut : Errno := ⟨110⟩
def connectionRefused : Errno := ⟨111⟩
def inProgress : Errno := ⟨115⟩

/-- The numbers that have a wording of their own. -/
def wordings : List (Errno × String) :=
  [(none, "no error reported"),
   (accessDenied, "permission denied"),
   (addressInUse, "address already in use"),
   (addressNotAvailable, "address not available"),
   (familyNotSupported, "address family not supported"),
   (wouldBlock, "resource temporarily unavailable"),
   (badDescriptor, "bad file descriptor"),
   (connectionRefused, "connection refused"),
   (connectionReset, "connection reset by peer"),
   (inProgress, "operation in progress"),
   (interrupted, "interrupted by signal"),
   (invalidArgument, "invalid argument"),
   (tooManyFiles, "too many open files"),
   (networkUnreachable, "network unreachable"),
   (noBufferSpace, "no buffer space available"),
   (optionNotAvailable, "protocol option not available"),
   (notConnected, "not connected"),
   (brokenPipe, "broken pipe"),
   (protocolNotSupported, "protocol not supported"),
   (timedOut, "connection timed out")]

/-- The wording of an error number; a number without one is written out. -/
def text (e : Errno) : String :=
  match wordings.lookup e with
  | some wording => wording
  | Option.none => s!"errno {e.number.toInt}"

end Errno

/-- The coarse class of an error. -/
inductive ErrorKind where
  | permissionDenied | addrInUse | addrNotAvailable | wouldBlock | connectionRefused
  | connectionReset | interrupted | invalidInput | notConnected | brokenPipe | timedOut
  | unsupported | writeZero | alreadyExists | notFound | resourceBusy | invalidData | other
deriving DecidableEq, Repr

/-- The name under which a kind is shown. -/
def ErrorKind.name : ErrorKind → String
  | permissionDenied => "PermissionDenied"
  | addrInUse => "AddrInUse"
  | addrNotAvailable => "AddrNotAvailable"
  | wouldBlock => "WouldBlock"
  | connectionRefused => "ConnectionRefused"
  | connectionReset => "ConnectionReset"
  | interrupted => "Interrupted"
  | invalidInput => "InvalidInput"
  | notConnected => "NotConnected"
  | brokenPipe => "BrokenPipe"
  | timedOut => "TimedOut"
  | unsupported => "Unsupported"
  | writeZero => "WriteZero"
  | alreadyExists => "AlreadyExists"
  | notFound => "NotFound"
  | resourceBusy => "ResourceBusy"
  | invalidData => "InvalidData"
  | other => "Other"

/-- The error numbers that have a class of their own. -/
def Errno.kinds : List (Errno × ErrorKind) :=
  [(accessDenied, .permissionDenied),
   (notPermitted, .permissionDenied),
   (addressInUse, .addrInUse),
   (addressNotAvailable, .addrNotAvailable),
   (wouldBlock, .wouldBlock),
   (connectionRefused, .connectionRefused),
   (connectionReset, .connectionReset),
   (interrupted, .interrupted),
   (invalidArgument, .invalidInput),
   (notConnected, .notConnected),
   (brokenPipe, .brokenPipe),
   (timedOut, .timedOut),
   (protocolNotSupported, .unsupported),
   (optionNotAvailable, .unsupported)]

/-- The class of an error number. -/
def Errno.kind (e : Errno) : ErrorKind :=
  (Errno.kinds.lookup e).getD .other

end ReceiveReactor
