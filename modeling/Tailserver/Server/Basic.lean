import Tailserver.Buffer.Basic
import Tailserver.Library.Decimal
import Tailserver.SafeWrite
import Mathlib.Logic.Function.Basic

/-!
# The server

The callbacks of `sockets.c` and `pipes.c` on the state they share. The kernel's
and the allocator's answers are arguments of the callbacks. What each client has
received is recorded with its connection, in the order of `accept`.
-/

set_option autoImplicit false

namespace Tailserver.Server

open CMemory Buffer

/-- `tailer_t`. -/
structure Tailer where
  socket : Nat
  /-- The watcher of the socket is started. -/
  readableWatcher : Bool
  prev : Pointer
  next : Pointer
  deriving DecidableEq

/-- One accepted connection, for the record: nothing here is read by the code. -/
structure Connection where
  /-- The bytes of standard input that were appended before it was accepted. -/
  before : List UInt8 := []
  received : List UInt8 := []
  /-- `tailer_init` put it on the list. -/
  registered : Bool := false
  /-- A write to it was short or failed. -/
  cut : Bool := false
  /-- It sent data, ended or failed. -/
  hungUp : Bool := false
  /-- How often its socket was closed. -/
  closes : Nat := 0
  deriving DecidableEq

structure Options where
  buffer : Buffer.Config
  waitForClient : Bool
  blockForever : Bool
  /-- A socket file path was given. -/
  filePath : Bool
  deriving DecidableEq

structure State (bufsiz : Nat) where
  buffer : Buffer.State bufsiz
  tailers : Heap Tailer := ∅
  firstTailer : Pointer := none
  waitingForClient : Bool
  /-- The watcher of standard input is started. -/
  stdinWatcher : Bool := false
  /-- The watcher of the listening socket is started. -/
  unixSockWatcher : Bool := false
  /-- `stdin_cb` has ended the loop. -/
  broken : Bool := false
  /-- What the kernel will answer to the next writes. -/
  answers : List WriteAnswer := []
  /-- The bytes read from standard input, and the chunks handed on. -/
  stdinRead : List UInt8 := []
  stdoutChunks : List (List UInt8) := []
  socketsChunks : List (List UInt8) := []
  /-- How many connections were accepted. -/
  accepted : Nat := 0
  connections : Nat → Connection := fun _ => {}

variable {bufsiz : Nat}

/-- Add to the record of a connection. -/
def State.note (s : State bufsiz) (socket : Nat) (update : Connection → Connection) :
    State bufsiz :=
  { s with
    connections := Function.update s.connections socket (update (s.connections socket)) }

@[simp] theorem State.note_self (s : State bufsiz) (socket : Nat)
    (update : Connection → Connection) :
    (s.note socket update).connections socket = update (s.connections socket) :=
  Function.update_self ..

theorem State.note_of_ne (s : State bufsiz) {socket other : Nat} (different : other ≠ socket)
    (update : Connection → Connection) :
    (s.note socket update).connections other = s.connections other :=
  Function.update_of_ne different ..

def State.modifyTailer (s : State bufsiz) (pointer : Pointer) (assign : Tailer → Tailer) :
    Except Fault (State bufsiz) := do
  let tailer ← load s.tailers pointer
  let tailers ← store s.tailers (assign tailer) pointer
  return { s with tailers }

def State.close (s : State bufsiz) (socket : Nat) : State bufsiz :=
  s.note socket fun connection => { connection with closes := connection.closes + 1 }

/-! ## Tailers -/

def tailerWriteBlocking (options : Options) (s : State bufsiz) (tailer : Pointer)
    (buf : List UInt8) : Except Fault (Written × State bufsiz) := do
  let node ← load s.tailers tailer
  let written ← (if options.blockForever then safeWriteForever buf s.answers
    else safeWrite buf s.answers)
  let s := { s with answers := written.answers }
  return (written, s.note node.socket fun connection => { connection with
    received := connection.received ++ written.delivered
    cut := connection.cut || writtenTooLittle written buf })

/-- `tailer_final`. Fields of the tailer are read again at each use, as the
source reads them. -/
def tailerFinal (s : State bufsiz) (tailer : Pointer) : Except Fault (State bufsiz) := do
  let s ← s.modifyTailer tailer fun node => { node with readableWatcher := false }
  let node ← load s.tailers tailer
  let s := s.close node.socket
  let s ← (if node.prev ≠ none then
      s.modifyTailer node.prev fun before => { before with next := node.next }
    else .ok { s with firstTailer := node.next })
  let node ← load s.tailers tailer
  let s ← (if node.next ≠ none then
      s.modifyTailer node.next fun after => { after with prev := node.prev }
    else .ok s)
  let tailers ← release s.tailers tailer
  return { s with tailers }

/-- `tailer_init`. The last argument is what `malloc` returns. -/
def tailerInit (s : State bufsiz) (socket : Nat) (fresh : Allocation Tailer) :
    Except Fault (Pointer × State bufsiz) := do
  let (tailers, tailer) := allocate s.tailers fresh
  let s := { s with tailers }
  if tailer = none then return (none, s)
  let s ← s.modifyTailer tailer fun node => { node with prev := none }
  let s ← s.modifyTailer tailer fun node => { node with next := s.firstTailer }
  let s ← (if s.firstTailer ≠ none then
      s.modifyTailer s.firstTailer fun first => { first with prev := tailer }
    else .ok s)
  let s := { s with firstTailer := tailer }
  let s ← s.modifyTailer tailer fun node => { node with socket }
  let s ← s.modifyTailer tailer fun node => { node with readableWatcher := true }
  return (tailer, s.note socket fun connection => { connection with registered := true })

/-- The loop of `tailer_send_buffered_tail`. -/
def sendTailChunks (options : Options) (tailer : Pointer) :
    Nat → State bufsiz → Pointer → UInt64 → Except Fault (State bufsiz)
  | 0, _, _, _ => .error .diverged
  | fuel + 1, s, pos, offset => do
      let chunkSize ← bufferChunkSize s.buffer pos
      if chunkSize > 0 then
        let chunk ← chunkBytes s.buffer pos offset (chunkSize - offset)
        let (written, s) ← tailerWriteBlocking options s tailer chunk
        if writtenTooLittle written chunk then tailerFinal s tailer
        else
          let pos ← bufferAdvanceChunk s.buffer pos
          sendTailChunks options tailer fuel s pos 0
      else return s

def sizeHeader (size : UInt64) : List UInt8 := Decimal.decimal size.toNat ++ [newline]

def tailerSendBufferedTail (options : Options) (s : State bufsiz) (tailer : Pointer) :
    Except Fault (State bufsiz) := do
  let header := sizeHeader (bufferTailSize s.buffer)
  let (written, s) ← tailerWriteBlocking options s tailer header
  if writtenTooLittle written header then tailerFinal s tailer
  else
    sendTailChunks options tailer (blockCount s.buffer.heap + 1) s
      (bufferGetTailChunk s.buffer) (bufferGetTailOffset s.buffer)

/-- The loop of `sockets_write_blocking`. -/
def writeToTailers (options : Options) (buf : List UInt8) :
    Nat → State bufsiz → Pointer → Except Fault (State bufsiz)
  | 0, _, _ => .error .diverged
  | fuel + 1, s, tailer =>
      if tailer = none then .ok s
      else do
        let (written, s) ← tailerWriteBlocking options s tailer buf
        let node ← load s.tailers tailer
        if writtenTooLittle written buf then
          let s ← tailerFinal s tailer
          writeToTailers options buf fuel s node.next
        else writeToTailers options buf fuel s node.next

def socketsWriteBlocking (options : Options) (s : State bufsiz) (buf : List UInt8) :
    Except Fault (State bufsiz) :=
  writeToTailers options buf (blockCount s.tailers + 1)
    { s with socketsChunks := s.socketsChunks ++ [buf] } s.firstTailer

def tailerReadableCb (s : State bufsiz) (tailer : Pointer) (res : ReadAnswer) :
    Except Fault (State bufsiz) := do
  let node ← load s.tailers tailer
  let ended := s.note node.socket fun connection => { connection with hungUp := true }
  match res with
  | .data _ => tailerFinal ended tailer
  | .eof => tailerFinal ended tailer
  | .failed errno =>
      if isErrnoRetryFriendly errno then return s else tailerFinal ended tailer

/-! ## New connections -/

/-- What `accept` answers. -/
inductive AcceptAnswer where
  | connected
  | failed (errno : Errno)
  deriving DecidableEq

def maxAcceptRetry : Nat := 10

/-- The loop around `accept`: is there a new socket? -/
def acceptRetrying : Nat → List AcceptAnswer → Except Fault Bool
  | 0, _ => .ok false
  | _ + 1, [] => .error .blocked
  | _ + 1, .connected :: _ => .ok true
  | retries + 1, .failed errno :: answers =>
      if isErrnoRetryFriendly errno then acceptRetrying retries answers else .ok false

def pipesOnNewClient (s : State bufsiz) : State bufsiz :=
  if s.waitingForClient then { s with waitingForClient := false, stdinWatcher := true }
  else s

/-- `unix_sock_cb`. The last two arguments are whether `getsockname` succeeds and
what `malloc` returns. -/
def unixSockCb (options : Options) (s : State bufsiz) (attempts : List AcceptAnswer)
    (named : Bool) (fresh : Allocation Tailer) : Except Fault (State bufsiz) := do
  let connected ← acceptRetrying maxAcceptRetry attempts
  if !connected then return s
  let newSock := s.accepted
  let s := { s with accepted := newSock + 1 }
  let s := s.note newSock fun _ => { before := s.stdinRead }
  if !named then return s.close newSock
  let (tailer, s) ← tailerInit s newSock fresh
  if tailer = none then return s.close newSock
  let s ← tailerSendBufferedTail options s tailer
  return pipesOnNewClient s

/-! ## Standard input and output -/

def stdoutWriteBlockingOrBreak (s : State bufsiz) (buf : List UInt8) :
    Except Fault (State bufsiz) := do
  let (ok, written) ← stdoutWriteBlocking buf s.answers
  let s := { s with
    answers := written.answers
    stdoutChunks := s.stdoutChunks ++ [buf] }
  return if ok then s else { s with broken := true }

/-- `stdin_cb`. Both writes read the bytes at the address `buffer_end` gave
before the append. The last argument is what `malloc` would return. -/
def stdinCb (options : Options) (s : State bufsiz) (res : ReadAnswer)
    (fresh : Allocation (LineBuffer bufsiz)) : Except Fault (State bufsiz) := do
  let newDataStart := bufferEnd s.buffer
  match res with
  | .data bytes =>
      let buffer ← placeBytes s.buffer newDataStart bytes
      let s := { s with buffer, stdinRead := s.stdinRead ++ bytes }
      let (appended, buffer) ←
        bufferSetAppended options.buffer s.buffer (UInt64.ofNat bytes.length) fresh
      let s := { s with buffer }
      if !appended then return { s with broken := true }
      let node ← load s.buffer.heap newDataStart
      let chunk ← node.buffer.read 0 bytes.length
      let s ← stdoutWriteBlockingOrBreak s chunk
      socketsWriteBlocking options s chunk
  | .eof => return { s with broken := true }
  | .failed errno =>
      if isErrnoRetryFriendly errno then return s else return { s with broken := true }

/-! ## Start -/

def pipesInit (s : State bufsiz) : State bufsiz :=
  if s.waitingForClient then s else { s with stdinWatcher := true }

/-- `sockets_init`. The last argument is whether the socket could be opened. -/
def socketsInit (options : Options) (s : State bufsiz) (opened : Bool) :
    Bool × State bufsiz :=
  if !options.filePath then (true, s)
  else if opened then (true, { s with unixSockWatcher := true })
  else (false, s)

/-- `init_all`. When it returns false the program exits. -/
def initAll (options : Options) (fresh₁ fresh₂ : Allocation (LineBuffer bufsiz))
    (opened : Bool) : Except Fault (Bool × State bufsiz) := do
  let (ok, buffer) ← bufferInit fresh₁ fresh₂
  let s : State bufsiz := { buffer, waitingForClient := options.waitForClient }
  if !ok then return (false, s)
  return socketsInit options (pipesInit s) opened

/-! ## End -/

/-- The loop of `sockets_final`. -/
def finalTailers : Nat → State bufsiz → Except Fault (State bufsiz)
  | 0, _ => .error .diverged
  | fuel + 1, s =>
      if s.firstTailer = none then .ok s
      else do
        let s ← tailerFinal s s.firstTailer
        finalTailers fuel s

/-- `sockets_final`, after the listening socket is closed. -/
def socketsFinal (s : State bufsiz) : Except Fault (State bufsiz) :=
  finalTailers (blockCount s.tailers + 1) s

/-! ## Runs -/

/-- One callback, with everything the environment decides. -/
inductive Event (bufsiz : Nat) where
  | stdin (res : ReadAnswer) (fresh : Allocation (LineBuffer bufsiz))
      (answers : List WriteAnswer)
  | unixSock (attempts : List AcceptAnswer) (named : Bool) (fresh : Allocation Tailer)
      (answers : List WriteAnswer)
  | tailerReadable (tailer : Nat) (res : ReadAnswer)

def handle (options : Options) (s : State bufsiz) : Event bufsiz → Except Fault (State bufsiz)
  | .stdin res fresh answers => stdinCb options { s with answers } res fresh
  | .unixSock attempts named fresh answers =>
      unixSockCb options { s with answers } attempts named fresh
  | .tailerReadable tailer res => tailerReadableCb s (some tailer) res

/-- When libev runs a callback, and what the kernel and the allocator may answer.
Once `stdin_cb` has ended the loop it is not run again; other callbacks of the same
round still may be. -/
def Possible (s : State bufsiz) : Event bufsiz → Prop
  | .stdin res fresh _ =>
      s.stdinWatcher = true ∧ s.broken = false ∧ Allocates s.buffer fresh ∧
        ∀ bytes, res = .data bytes →
          bytes ≠ [] ∧ bytes.length ≤ bufferAvailableForAppend s.buffer
  | .unixSock _ _ fresh _ =>
      s.unixSockWatcher = true ∧ ∀ block node, fresh = some (block, node) → block ∉ s.tailers
  | .tailerReadable tailer res =>
      (∃ node, s.tailers.lookup tailer = some node ∧ node.readableWatcher = true) ∧
        ∀ bytes, res = .data bytes → bytes ≠ []

/-- The allocations of the event succeed. -/
def Granted : Event bufsiz → Prop
  | .stdin _ fresh _ => fresh.isSome
  | .unixSock _ _ fresh _ => fresh.isSome
  | .tailerReadable _ _ => True

/-- The allocations of `stdin_cb` succeed. -/
def Provided : Event bufsiz → Prop
  | .stdin _ fresh _ => fresh.isSome
  | _ => True

theorem Granted.provided {event : Event bufsiz} (granted : Granted event) : Provided event := by
  cases event with
  | stdin => exact granted
  | unixSock => trivial
  | tailerReadable => trivial

end Tailserver.Server
