import ReceiveReactor.Errno

/-!
# Errors as causes

Three families of causes: setting up a socket, moving data through one, and
registering with a reactor.  Each cause has one wording (`message`) and one
class (`kind`); `Error` is any of them, or a bare failure of the kernel.
-/

namespace ReceiveReactor

/-- Why creating or configuring a socket failed. -/
inductive SocketError where
  | create (errno : Errno) (protocol : String)
  | alreadyOpen
  | notOpen
  | bind (errno : Errno) (address : String)
  | listen (errno : Errno) (backlog : Int32)
  | connect (errno : Errno) (address : String)
  | accept (errno : Errno)
  | setOption (errno : Errno) (option : String)
  | getOption (errno : Errno) (option : String)
  | invalidAddress (reason : String)
deriving DecidableEq, Repr

/-- Why moving data through a socket failed. -/
inductive IoError where
  | read (errno : Errno)
  | write (errno : Errno)
  | connectionClosed
  | wouldBlock
  | interrupted
  /-- A stream send stopped part-way: `sent` bytes went out before. -/
  | partialSend (sent remaining : Nat) (errno : Errno)
deriving DecidableEq, Repr

/-- Why a reactor refused or failed to do something. -/
inductive ReactorError where
  | invalidDescriptor (fd : Int32)
  | alreadyRegistered (fd : Int32)
  | notRegistered (fd : Int32)
  | stopped
  | reentrantCall
  /-- The control channel moved fewer bytes than one whole record. -/
  | controlChannel (transferred expected : Nat) (errno : Errno)
  | unknownCommand (tag : UInt32)
deriving DecidableEq, Repr

namespace SocketError

/-- The wording of a cause. -/
def message : SocketError → String
  | create errno protocol => s!"socket({protocol}) failed: {errno.text}"
  | alreadyOpen => "socket is already open"
  | notOpen => "socket is not open"
  | bind errno address => s!"bind({address}) failed: {errno.text}"
  | listen errno backlog => s!"listen(backlog={backlog.toInt}) failed: {errno.text}"
  | connect errno address => s!"connect({address}) failed: {errno.text}"
  | accept errno => s!"accept() failed: {errno.text}"
  | setOption errno option => s!"setsockopt({option}) failed: {errno.text}"
  | getOption errno option => s!"getsockopt({option}) failed: {errno.text}"
  | invalidAddress reason => s!"invalid address: {reason}"

/-- The class of a cause. -/
def kind : SocketError → ErrorKind
  | create errno _ | bind errno _ | listen errno _ | connect errno _ | accept errno
  | setOption errno _ | getOption errno _ => errno.kind
  | alreadyOpen => .alreadyExists
  | notOpen => .notConnected
  | invalidAddress _ => .invalidInput

/-- The name of a cause. -/
def name : SocketError → String
  | create .. => "Create"
  | alreadyOpen => "AlreadyOpen"
  | notOpen => "NotOpen"
  | bind .. => "Bind"
  | listen .. => "Listen"
  | connect .. => "Connect"
  | accept .. => "Accept"
  | setOption .. => "SetOption"
  | getOption .. => "GetOption"
  | invalidAddress .. => "InvalidAddress"

end SocketError

namespace IoError

/-- The wording of a cause. -/
def message : IoError → String
  | read errno => s!"read() failed: {errno.text}"
  | write errno => s!"write() failed: {errno.text}"
  | connectionClosed => "connection closed by peer"
  | wouldBlock => "operation would block"
  | interrupted => "interrupted by signal"
  | partialSend sent remaining errno =>
    s!"send() stopped after {sent} bytes ({remaining} remaining): {errno.text}"

/-- The class of a cause.  A send that moved nothing without an error number
counts as a write of zero bytes. -/
def kind : IoError → ErrorKind
  | read errno | write errno => errno.kind
  | connectionClosed => .connectionReset
  | wouldBlock => .wouldBlock
  | interrupted => .interrupted
  | partialSend _ _ errno => if errno = Errno.none then .writeZero else errno.kind

/-- The name of a cause. -/
def name : IoError → String
  | read .. => "Read"
  | write .. => "Write"
  | connectionClosed => "ConnectionClosed"
  | wouldBlock => "WouldBlock"
  | interrupted => "Interrupted"
  | partialSend .. => "PartialSend"

/-- The cause of a failed receive: no data yet and an interruption are causes
of their own, everything else is a failed read. -/
def ofReceive (errno : Errno) : IoError :=
  if errno = Errno.wouldBlock then .wouldBlock
  else if errno = Errno.interrupted then .interrupted
  else .read errno

/-- Whether a failed receive may simply be tried again later. -/
def isTransient (e : IoError) : Bool :=
  e.kind = .wouldBlock || e.kind = .interrupted

end IoError

namespace ReactorError

/-- The wording of a cause. -/
def message : ReactorError → String
  | invalidDescriptor fd => s!"descriptor {fd.toInt} is not a valid open descriptor"
  | alreadyRegistered fd => s!"descriptor {fd.toInt} is already registered"
  | notRegistered fd => s!"descriptor {fd.toInt} is not registered"
  | stopped => "reactor is stopped"
  | reentrantCall => "registry cannot be modified from inside a receive callback"
  | controlChannel transferred expected errno =>
    s!"control channel moved {transferred} of {expected} bytes: {errno.text}"
  | unknownCommand tag => s!"control message carries unknown command tag {tag.toNat}"

/-- The class of a cause. -/
def kind : ReactorError → ErrorKind
  | invalidDescriptor _ => .invalidInput
  | alreadyRegistered _ => .alreadyExists
  | notRegistered _ => .notFound
  | stopped => .notConnected
  | reentrantCall => .resourceBusy
  | controlChannel _ _ errno => errno.kind
  | unknownCommand _ => .invalidData

/-- The name of a cause. -/
def name : ReactorError → String
  | invalidDescriptor .. => "InvalidDescriptor"
  | alreadyRegistered .. => "AlreadyRegistered"
  | notRegistered .. => "NotRegistered"
  | stopped => "Stopped"
  | reentrantCall => "ReentrantCall"
  | controlChannel .. => "ControlChannel"
  | unknownCommand .. => "UnknownCommand"

/-- A **full control channel** only means that the reactor has not caught up
yet; every other failure is final. -/
def isChannelFull : ReactorError → Bool
  | controlChannel _ _ errno => errno = Errno.wouldBlock
  | _ => false

end ReactorError

/-- Any cause, or a bare failure of the kernel. -/
inductive Error where
  | socket (cause : SocketError)
  | io (cause : IoError)
  | reactor (cause : ReactorError)
  | system (errno : Errno)
deriving DecidableEq, Repr

namespace Error

/-- The wording of an error. -/
def message : Error → String
  | socket cause => cause.message
  | io cause => cause.message
  | reactor cause => cause.message
  | system errno => errno.text

/-- The class of an error. -/
def kind : Error → ErrorKind
  | socket cause => cause.kind
  | io cause => cause.kind
  | reactor cause => cause.kind
  | system errno => errno.kind

/-- The name of an error's cause. -/
def name : Error → String
  | socket cause => cause.name
  | io cause => cause.name
  | reactor cause => cause.name
  | system _ => "Io"

instance : Coe SocketError Error := ⟨.socket⟩
instance : Coe IoError Error := ⟨.io⟩
instance : Coe ReactorError Error := ⟨.reactor⟩

end Error

end ReceiveReactor
