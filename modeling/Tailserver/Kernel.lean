import Mathlib.Tactic.TypeStar

/-! What the kernel answers to the system calls of both programs. -/

set_option autoImplicit false

namespace Tailserver

/-- The values of `errno` the programs tell apart. -/
inductive Errno where
  | eintr
  | eagain
  | ewouldblock
  | epipe
  | econnreset
  | econnaborted
  | enfile
  | emfile
  | eafnosupport
  | ealready
  | ebadf
  | eisconn
  | enotsock
  | eprototype
  | enametoolong
  | einval
  | eopnotsupp
  | other (code : Nat)
  deriving DecidableEq, Repr

/-- What `read` answers. -/
inductive ReadAnswer where
  | data (bytes : List UInt8)
  | eof
  | failed (errno : Errno)
  deriving DecidableEq

namespace ReadAnswer

/-- What `read` returns. -/
def result : ReadAnswer → Int
  | .data bytes => bytes.length
  | .eof => 0
  | .failed _ => -1

/-- The bytes `read` puts into the buffer. -/
def bytes : ReadAnswer → List UInt8
  | .data bytes => bytes
  | .eof => []
  | .failed _ => []

end ReadAnswer

/-- What the kernel does with a write: it takes this many bytes, or all there are
when there are fewer, or it fails. -/
inductive WriteAnswer where
  | accepted (count : Nat)
  | failed (errno : Errno)
  deriving DecidableEq, Repr

/-- What they answer while a process ends: to `close` of standard input and, after `exit`, to
`close_stdout`. -/
structure Closing where
  stdinCloses : Bool
  streamsClose : Bool
  deriving DecidableEq

end Tailserver
