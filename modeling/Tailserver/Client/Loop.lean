import Tailserver.Client.Connection

/-!
# The client

`clientloop.c` and `clientpipes.c`. `clientloop_run` waits at three places, in
`clientconn_connect`, in `clientconn_write` and in the event loop, and is cut into steps
there. The answers of the kernel and the allocator are arguments of the steps.
-/

set_option autoImplicit false

namespace Tailserver.Client

open CMemory Buffer

structure Options where
  buffer : Buffer.Config
  follow : Bool
  reopenFile : Bool
  deriving DecidableEq

/-- Where `clientloop_run` waits. -/
inductive Phase where
  | connecting
  | writing
  | looping
  | finished
  deriving DecidableEq

structure State (bufsiz : Nat) where
  buffer : Buffer.State bufsiz
  conn : ClientConn := {}
  phase : Phase := .connecting
  tailOutput : Bool := false
  /-- A write to standard output has failed. -/
  broken : Bool := false
  /-- What the kernel will answer to the next writes. -/
  answers : List WriteAnswer := []
  /-- The bytes written to standard output, and to the server of this connection. -/
  stdout : List UInt8 := []
  sent : List UInt8 := []

variable {bufsiz : Nat}

/-! ## Standard output -/

def clientpipesWriteBlocking (s : State bufsiz) (buf : List UInt8) :
    Except Fault (Bool × State bufsiz) := do
  let (ok, written) ← stdoutWriteBlocking buf s.answers
  let s := { s with
    answers := written.answers
    stdout := s.stdout ++ written.delivered }
  return if ok then (true, s) else (false, { s with broken := true })

def clientpipesBroken (s : State bufsiz) : Bool := s.broken

/-- The loop of `output_buffered_tail`. -/
def outputTailChunks :
    Nat → State bufsiz → Pointer → UInt64 → Except Fault (Bool × State bufsiz)
  | 0, _, _, _ => .error .diverged
  | fuel + 1, s, pos, offset => do
      let chunkSize ← bufferChunkSize s.buffer pos
      if chunkSize > 0 then
        let chunk ← chunkBytes s.buffer pos offset (chunkSize - offset)
        let (ok, s) ← clientpipesWriteBlocking s chunk
        if !ok then return (false, s)
        let pos ← bufferAdvanceChunk s.buffer pos
        outputTailChunks fuel s pos 0
      else return (true, s)

def outputBufferedTail (s : State bufsiz) : Except Fault (Bool × State bufsiz) :=
  outputTailChunks (blockCount s.buffer.heap + 1) s (bufferGetTailChunk s.buffer)
    (bufferGetTailOffset s.buffer)

/-! ## When the server sends something -/

/-- The branch of `unix_sock_readable_cb` that reads into the tail buffer: `res`,
`error` and the state. Bytes are stored at `buffer_end()` when there are any. -/
def receiveTail (options : Options) (s : State bufsiz) (answer : ReadAnswer) (unset : Int)
    (fresh : Allocation (LineBuffer bufsiz)) :
    Except Fault (Int × Bool × State bufsiz) := do
  let destination := bufferEnd s.buffer
  let (received, conn) ← clientconnReadServerBuffer bufsiz s.conn
    (bufferAvailableForAppend s.buffer) answer unset
  let buffer ← (if received.stored ≠ [] then placeBytes s.buffer destination received.stored
    else .ok s.buffer)
  let s := { s with conn, buffer }
  if received.res > 0 then
    let (appended, buffer) ←
      bufferSetAppended options.buffer s.buffer (UInt64.ofNat received.res.toNat) fresh
    return (received.res, !appended, { s with buffer })
  else return (received.res, false, s)

/-- The branch that passes on what follows the tail. -/
def receiveFollow (s : State bufsiz) (answer : ReadAnswer) :
    Except Fault (Int × Bool × State bufsiz) := do
  let (received, conn) ← clientconnReadServerFollow s.conn bufsiz answer
  let s := { s with conn }
  if received.res > 0 then
    let (ok, s) ← clientpipesWriteBlocking s (received.stored.take received.res.toNat)
    return (received.res, !ok, s)
  else return (received.res, false, s)

/-- Is the result of the read an error? -/
def connectionError (res : Int) : ReadAnswer → Bool
  | .failed errno => res < 0 && !isErrnoRetryFriendly errno
  | _ => false

/-- What is done when all of the server's buffer is read: whether there was no error,
and the state. -/
def outputWhenAllRead (options : Options) (s : State bufsiz) :
    Except Fault (Bool × State bufsiz) := do
  if clientconnIsAllServerBufferRead s.conn then
    let (ok, s) ← (if !s.tailOutput then do
        let (ok, s) ← outputBufferedTail s
        return (ok, { s with tailOutput := true })
      else .ok (true, s))
    return (ok, if !options.follow then { s with conn := clientconnDisconnect s.conn } else s)
  else return (true, s)

/-- `unix_sock_readable_cb`: whether it breaks the event loop, and the state. -/
def unixSockReadableCb (options : Options) (s : State bufsiz) (answer : ReadAnswer)
    (unset : Int) (fresh : Allocation (LineBuffer bufsiz)) :
    Except Fault (Bool × State bufsiz) := do
  let (res, error, s) ← (if !clientconnIsAllServerBufferRead s.conn then
      receiveTail options s answer unset fresh
    else receiveFollow s answer)
  let error := error || connectionError res answer
  let (ok, s) ← outputWhenAllRead options s
  let error := error || !ok
  return (clientconnEof s.conn || error, s)

/-! ## The loop -/

/-- `clientloop_run` up to the event loop, or to the write that comes before it. -/
def connect (options : Options) (s : State bufsiz) (opened : Int) : State bufsiz :=
  let (connected, conn) := clientconnConnect s.conn opened
  let s := { s with conn, sent := [] }
  if !connected then { s with phase := .finished }
  else if !options.follow then { s with phase := .writing }
  else { s with phase := .looping }

/-- The byte that tells the server that its buffer is enough. -/
def writeToServer (s : State bufsiz) : Except Fault (State bufsiz) := do
  let written ← clientconnWrite [newline] s.answers
  let s := { s with answers := written.answers, sent := written.delivered }
  if written.result ≤ 0 then
    return { s with conn := clientconnDisconnect s.conn, phase := .finished }
  return { s with phase := .looping }

/-- `clientloop_run` behind the event loop. -/
def prepareForRetry (options : Options) (s : State bufsiz) : State bufsiz :=
  let s := { s with conn := clientconnDisconnect s.conn }
  if options.reopenFile && options.follow && !clientpipesBroken s then
    { s with phase := .connecting }
  else { s with phase := .finished }

/-- `init_all`, and `clientloop_run` up to its loop. When it returns false the
program exits. -/
def initAll (fresh₁ fresh₂ : Allocation (LineBuffer bufsiz)) :
    Except Fault (Bool × State bufsiz) := do
  let (ok, buffer) ← bufferInit fresh₁ fresh₂
  return (ok, { buffer })

/-! ## Runs -/

/-- One step, with everything the environment decides. -/
inductive Event (bufsiz : Nat) where
  | connect (opened : Int)
  | write (answers : List WriteAnswer)
  | readable (answer : ReadAnswer) (unset : Int) (fresh : Allocation (LineBuffer bufsiz))
      (answers : List WriteAnswer)

def handle (options : Options) (s : State bufsiz) : Event bufsiz → Except Fault (State bufsiz)
  | .connect opened => .ok (connect options s opened)
  | .write answers => writeToServer { s with answers }
  | .readable answer unset fresh answers => do
      let (ended, s) ← unixSockReadableCb options { s with answers } answer unset fresh
      return if ended then prepareForRetry options s else s

/-- How many bytes the next callback asks `read` for. -/
def readLength (s : State bufsiz) : Nat :=
  if !clientconnIsAllServerBufferRead s.conn then
    Word.unsigned (requested bufsiz s.conn (bufferAvailableForAppend s.buffer))
  else bufsiz

/-- When a step is taken, and what the kernel and the allocator may answer. -/
def Possible (s : State bufsiz) : Event bufsiz → Prop
  | .connect _ => s.phase = .connecting
  | .write _ => s.phase = .writing
  | .readable answer _ fresh _ =>
      s.phase = .looping ∧ Allocates s.buffer fresh ∧
        ∀ bytes, answer = .data bytes → bytes ≠ [] ∧ bytes.length ≤ readLength s

instance (s : State bufsiz) : (event : Event bufsiz) → Decidable (Possible s event)
  | .connect _ => inferInstanceAs (Decidable (s.phase = .connecting))
  | .write _ => inferInstanceAs (Decidable (s.phase = .writing))
  | .readable (.data bytes) _ fresh _ =>
      decidable_of_iff (s.phase = .looping ∧ Allocates s.buffer fresh ∧
        bytes ≠ [] ∧ bytes.length ≤ readLength s) (by simp [Possible])
  | .readable .eof _ fresh _ =>
      decidable_of_iff (s.phase = .looping ∧ Allocates s.buffer fresh) (by simp [Possible])
  | .readable (.failed _) _ fresh _ =>
      decidable_of_iff (s.phase = .looping ∧ Allocates s.buffer fresh) (by simp [Possible])

end Tailserver.Client
