import Tailserver.Library.LinkedList
import Tailserver.Library.Units
import Mathlib.Algebra.GroupWithZero.Nat

/-!
# The tail buffer

The list of line buffers of `buffer.c` that holds the end of a byte stream, the
spare buffer new bytes are read into, and the position where the tail starts.
Counters are `size_t` and wrap. What `malloc` returns, and what the returned
memory holds, is an argument of the function that calls it.
-/

set_option autoImplicit false

namespace Tailserver.Buffer

open CMemory

def newline : UInt8 := 10

/-- `linebuffer_t`. The bytes come first, so the address of a buffer's bytes is
the address of its block. -/
structure LineBuffer (bufsiz : Nat) where
  buffer : Area bufsiz
  nbytes : UInt64
  nlines : UInt64
  next : Pointer
  deriving DecidableEq

/-- The bytes a line buffer holds. -/
def LineBuffer.data {bufsiz : Nat} (node : LineBuffer bufsiz) : List UInt8 :=
  node.buffer.val.take node.nbytes.toNat

/-- `count_lines` and `n_units`, as both programs configure them. -/
structure Config where
  countLines : Bool
  nUnits : UInt64
  deriving DecidableEq

/-- `sizeof(linebuffer_t)` with 64-bit words. -/
def sizeofLineBuffer (bufsiz : Nat) : Nat := bufsiz + 24

/-- The bytes a process can address; the upper half is the kernel's. -/
def addressSpace : Nat := 2 ^ 63

structure State (bufsiz : Nat) where
  heap : Heap (LineBuffer bufsiz) := ∅
  first : Pointer := none
  last : Pointer := none
  append : Pointer := none
  totalLines : UInt64 := 0
  totalBytes : UInt64 := 0
  tailBuffer : Pointer := none
  tailOffset : UInt64 := 0
  linesUpToTailBuffer : UInt64 := 0
  bytesUpToTailBuffer : UInt64 := 0

variable {bufsiz : Nat}

/-- Assign to fields of the line buffer a pointer points to. -/
def State.modify (s : State bufsiz) (pointer : Pointer)
    (assign : LineBuffer bufsiz → LineBuffer bufsiz) :
    Except Fault (State bufsiz) := do
  let node ← load s.heap pointer
  let heap ← store s.heap (assign node) pointer
  return { s with heap }

/-- What is known of a block that `malloc` returns. -/
def FreshBuffer (s : State bufsiz) (block : Nat) : Prop :=
  Fresh (sizeofLineBuffer bufsiz) addressSpace s.heap block

instance (s : State bufsiz) (block : Nat) : Decidable (FreshBuffer s block) :=
  inferInstanceAs (Decidable (Fresh _ _ _ _))

/-- `malloc` returns the null pointer or a fresh block. -/
def Allocates (s : State bufsiz) (fresh : Allocation (LineBuffer bufsiz)) : Prop :=
  ∀ block node, fresh = some (block, node) → FreshBuffer s block

instance (s : State bufsiz) (fresh : Allocation (LineBuffer bufsiz)) :
    Decidable (Allocates s fresh) :=
  match fresh with
  | none => isTrue (by simp [Allocates])
  | some (block, _) => decidable_of_iff (FreshBuffer s block) (by simp [Allocates])

/-! ## Keeping track of the tail -/

/-- The loop that moves the tail over unneeded buffers. The two callers differ in
the test and in the counters they keep. -/
def skipUnneeded (unneeded : State bufsiz → LineBuffer bufsiz → Bool)
    (pass : State bufsiz → LineBuffer bufsiz → State bufsiz) :
    Nat → State bufsiz → Except Fault (State bufsiz)
  | 0, _ => .error .diverged
  | fuel + 1, s => do
      let tail ← load s.heap s.tailBuffer
      if unneeded s tail then
        skipUnneeded unneeded pass fuel { pass s tail with tailBuffer := tail.next }
      else return s

/-- The test and the counters of the first loop of `keep_track_of_tail_lines`. -/
def linesUnneeded (nLines : UInt64) (s : State bufsiz) (tail : LineBuffer bufsiz) :
    Bool :=
  s.totalLines - s.linesUpToTailBuffer - tail.nlines > nLines

def passLines (s : State bufsiz) (tail : LineBuffer bufsiz) : State bufsiz :=
  { s with
    bytesUpToTailBuffer := s.bytesUpToTailBuffer + tail.nbytes
    linesUpToTailBuffer := s.linesUpToTailBuffer + tail.nlines }

/-- The second loop of `keep_track_of_tail_lines`: how far `beg` moves when it
skips `count` newlines of what lies between it and `buffer_end`. -/
def skipNewlines : Nat → List UInt8 → Except Fault Nat
  | 0, _ => .ok 0
  | count + 1, region =>
      match memchr region newline with
      | none => .error .assertionFailed
      | some found => do
          let further ← skipNewlines count (region.drop (found + 1))
          return found + 1 + further

def keepTrackOfTailLines (nLines : UInt64) (s : State bufsiz) :
    Except Fault (State bufsiz) := do
  let s ← skipUnneeded (linesUnneeded nLines) passLines (blockCount s.heap) s
  let tail ← load s.heap s.tailBuffer
  if s.totalLines - s.linesUpToTailBuffer > nLines then
    let region ← tail.buffer.read 0 tail.nbytes.toNat
    let beg ← skipNewlines
      (s.totalLines - s.linesUpToTailBuffer - nLines).toNat region
    return { s with tailOffset := UInt64.ofNat beg }
  else return { s with tailOffset := 0 }

/-- The test and the counter of the loop of `keep_track_of_tail_bytes`. -/
def bytesUnneeded (nBytes : UInt64) (s : State bufsiz) (tail : LineBuffer bufsiz) :
    Bool :=
  s.totalBytes - s.bytesUpToTailBuffer - tail.nbytes > nBytes

def passBytes (s : State bufsiz) (tail : LineBuffer bufsiz) : State bufsiz :=
  { s with bytesUpToTailBuffer := s.bytesUpToTailBuffer + tail.nbytes }

def keepTrackOfTailBytes (nBytes : UInt64) (s : State bufsiz) :
    Except Fault (State bufsiz) := do
  let s ← skipUnneeded (bytesUnneeded nBytes) passBytes (blockCount s.heap) s
  if s.totalBytes - s.bytesUpToTailBuffer > nBytes then
    return { s with tailOffset := s.totalBytes - s.bytesUpToTailBuffer - nBytes }
  else return { s with tailOffset := 0 }

/-- The end of `keep_track_of_tail`: a chunk of size zero marks the end of the
tail, so the tail does not start at the end of a buffer that has a successor. -/
def shiftTail (s : State bufsiz) : Except Fault (State bufsiz) := do
  let tail ← load s.heap s.tailBuffer
  if s.tailOffset = tail.nbytes ∧ tail.next ≠ none then
    return { s with
      bytesUpToTailBuffer := s.bytesUpToTailBuffer + tail.nbytes
      linesUpToTailBuffer := s.linesUpToTailBuffer + tail.nlines
      tailBuffer := tail.next
      tailOffset := 0 }
  else return s

def keepTrackOfTail (config : Config) (s : State bufsiz) :
    Except Fault (State bufsiz) := do
  let s ← (if config.countLines then keepTrackOfTailLines config.nUnits s
    else keepTrackOfTailBytes config.nUnits s)
  shiftTail s

/-! ## Appending -/

def bufferEnd (s : State bufsiz) : Pointer := s.append

def bufferAvailableForAppend (_ : State bufsiz) : Nat := bufsiz

/-- What `read` or `memcpy` does with the address `buffer_end` returned. -/
def placeBytes (s : State bufsiz) (destination : Pointer) (bytes : List UInt8) :
    Except Fault (State bufsiz) := do
  let node ← load s.heap destination
  let buffer ← node.buffer.write 0 bytes
  s.modify destination fun node => { node with buffer }

/-- The counting loop of `buffer_set_appended`, from `p` to `buffer_end`. Each
round moves `p` past a newline, so the bytes left bound the rounds. -/
def countNewlines : Nat → List UInt8 → UInt64 → UInt64
  | 0, _, nlines => nlines
  | rounds + 1, region, nlines =>
      match memchr region newline with
      | none => nlines
      | some found => countNewlines rounds (region.drop (found + 1)) (nlines + 1)

def countAppendedLines (s : State bufsiz) : Except Fault (State bufsiz) := do
  let node ← load s.heap s.append
  let region ← node.buffer.read 0 node.nbytes.toNat
  let nlines := countNewlines region.length region node.nlines
  let s ← s.modify s.append fun node => { node with nlines }
  return { s with totalLines := s.totalLines + nlines }

/-- The branch of `buffer_set_appended` that copies into the last buffer. -/
def mergeAppended (s : State bufsiz) : Except Fault (State bufsiz) := do
  let node ← load s.heap s.append
  let last ← load s.heap s.last
  let bytes ← node.buffer.read 0 node.nbytes.toNat
  let buffer ← last.buffer.write last.nbytes.toNat bytes
  s.modify s.last fun last => { last with
    buffer
    nbytes := last.nbytes + node.nbytes
    nlines := last.nlines + node.nlines }

/-- `last = last->next = append`. -/
def linkAppended (s : State bufsiz) : Except Fault (State bufsiz) := do
  let s ← s.modify s.last fun last => { last with next := s.append }
  return { s with last := s.append }

def firstBufferDroppable (config : Config) (s : State bufsiz)
    (first : LineBuffer bufsiz) : Bool :=
  if config.countLines then s.totalLines - first.nlines > config.nUnits
  else s.totalBytes - first.nbytes > config.nUnits

/-- The dropping of the first buffer, with the assertion that it is not where
the tail starts. -/
def dropFirst (s : State bufsiz) : Except Fault (State bufsiz) :=
  if s.first = s.tailBuffer then .error .assertionFailed
  else do
    let first ← load s.heap s.first
    return { s with
      append := s.first
      totalBytes := s.totalBytes - first.nbytes
      totalLines := s.totalLines - first.nlines
      bytesUpToTailBuffer := s.bytesUpToTailBuffer - first.nbytes
      linesUpToTailBuffer := s.linesUpToTailBuffer - first.nlines
      first := first.next }

/-- `append->nbytes = append->nlines = 0`. -/
def resetAppend (s : State bufsiz) : Except Fault (State bufsiz) :=
  s.modify s.append fun node => { node with nbytes := 0, nlines := 0 }

/-- `append->next = NULL`, then the reset both branches end with. -/
def renewAppend (s : State bufsiz) : Except Fault (State bufsiz) := do
  let s ← s.modify s.append fun node => { node with next := none }
  resetAppend s

/-- The part of `buffer_set_appended` before it chooses between its branches. -/
def commitAppended (config : Config) (s : State bufsiz) (size : UInt64) :
    Except Fault (State bufsiz) := do
  let s ← s.modify s.append fun node => { node with nbytes := size }
  let s := { s with totalBytes := s.totalBytes + size }
  if config.countLines then countAppendedLines s else return s

/-- `append->nbytes + last->nbytes < BUFSIZ`. -/
def fitsLast (s : State bufsiz) : Except Fault Bool := do
  let node ← load s.heap s.append
  let last ← load s.heap s.last
  return node.nbytes + last.nbytes < UInt64.ofNat bufsiz

/-- After linking: free up the oldest buffer for the next read, or else `malloc`
a new one. -/
def replaceAppend (config : Config) (s : State bufsiz)
    (fresh : Allocation (LineBuffer bufsiz)) :
    Except Fault (Bool × State bufsiz) := do
  let first ← load s.heap s.first
  if firstBufferDroppable config s first then
    let s ← dropFirst s
    let s ← renewAppend s
    return (true, s)
  else
    let (heap, append) := allocate s.heap fresh
    if append = none then return (false, { s with heap, append })
    let s ← renewAppend { s with heap, append }
    return (true, s)

/-- `buffer_set_appended`. The last argument is what `malloc` would return. -/
def bufferSetAppended (config : Config) (s : State bufsiz) (size : UInt64)
    (fresh : Allocation (LineBuffer bufsiz)) :
    Except Fault (Bool × State bufsiz) := do
  if size = 0 then return (true, s)
  let s ← commitAppended config s size
  if ← fitsLast s then
    let s ← mergeAppended s
    let s ← keepTrackOfTail config s
    let s ← resetAppend s
    return (true, s)
  else
    let s ← linkAppended s
    let s ← keepTrackOfTail config s
    replaceAppend config s fresh

/-- What every caller does with new bytes: they are placed at `buffer_end()` and
then reported to `buffer_set_appended`. -/
def bufferAppend (config : Config) (s : State bufsiz) (bytes : List UInt8)
    (fresh : Allocation (LineBuffer bufsiz)) :
    Except Fault (Bool × State bufsiz) := do
  let s ← placeBytes s (bufferEnd s) bytes
  bufferSetAppended config s (UInt64.ofNat bytes.length) fresh

/-! ## Reading the tail -/

def bufferTailSize (s : State bufsiz) : UInt64 :=
  s.totalBytes - s.bytesUpToTailBuffer - s.tailOffset

def bufferGetTailChunk (s : State bufsiz) : Pointer := s.tailBuffer

def bufferGetTailOffset (s : State bufsiz) : UInt64 := s.tailOffset

def bufferChunkSize (s : State bufsiz) : Pointer → Except Fault UInt64
  | none => .ok 0
  | some chunk => do
      let node ← load s.heap (some chunk)
      return node.nbytes

def bufferAdvanceChunk (s : State bufsiz) : Pointer → Except Fault Pointer
  | none => .ok none
  | some chunk => do
      let node ← load s.heap (some chunk)
      return node.next

/-- The bytes a caller finds at `pos + offset`. -/
def chunkBytes (s : State bufsiz) (pos : Pointer) (offset length : UInt64) :
    Except Fault (List UInt8) := do
  let node ← load s.heap pos
  node.buffer.read offset.toNat length.toNat

/-- The loop by which `tailer_send_buffered_tail` and `output_buffered_tail`
walk the tail, with the bytes of each round. -/
def walkTail (s : State bufsiz) :
    Nat → Pointer → UInt64 → Except Fault (List (List UInt8))
  | 0, _, _ => .error .diverged
  | fuel + 1, pos, offset => do
      let chunkSize ← bufferChunkSize s pos
      if chunkSize > 0 then
        let bytes ← chunkBytes s pos offset (chunkSize - offset)
        let pos ← bufferAdvanceChunk s pos
        let rest ← walkTail s fuel pos 0
        return bytes :: rest
      else return []

def bufferTail (s : State bufsiz) : Except Fault (List UInt8) := do
  let chunks ← walkTail s (blockCount s.heap + 1) (bufferGetTailChunk s)
    (bufferGetTailOffset s)
  return chunks.flatten

/-! ## Initialization and finalization -/

/-- `buffer_init`. The last two arguments are what its two `malloc` calls return;
the field the source leaves unset keeps what the memory held. -/
def bufferInit (fresh₁ fresh₂ : Allocation (LineBuffer bufsiz)) :
    Except Fault (Bool × State bufsiz) := do
  let (heap, first) := allocate ∅ fresh₁
  let s : State bufsiz := { heap, first, last := first, tailBuffer := first }
  if first = none then return (false, s)
  let s ← s.modify s.first fun node => { node with nbytes := 0, nlines := 0 }
  let s ← s.modify s.first fun node => { node with next := none }
  let (heap, append) := allocate s.heap fresh₂
  let s := { s with heap, append }
  if append = none then return (false, s)
  let s ← s.modify s.append fun node => { node with nbytes := 0 }
  let s ← s.modify s.first fun node => { node with nlines := 0 }
  let s ← s.modify s.append fun node => { node with next := none }
  return (true, s)

/-- The loop of `buffer_final`. -/
def freeList : Nat → State bufsiz → Except Fault (State bufsiz)
  | 0, _ => .error .diverged
  | fuel + 1, s =>
      if s.first = none then .ok s
      else do
        let first ← load s.heap s.first
        let heap ← release s.heap s.first
        freeList fuel { s with heap, first := first.next }

/-- `buffer_final`. Freeing a block twice is a fault. -/
def bufferFinal (s : State bufsiz) : Except Fault (State bufsiz) := do
  let s ← freeList (blockCount s.heap + 1) s
  let heap ← release s.heap s.append
  return { s with heap }

end Tailserver.Buffer
