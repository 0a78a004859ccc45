import Tailserver.Buffer.Basic
import Tailserver.Library.Decimal
import Tailserver.Library.Word
import Tailserver.SafeWrite

/-!
# The connection of the client

`clientconn.c`: the decoder of what a server sends. The size of the tail comes
first, in decimal and ended by a newline. The bytes that `read` answers are an
argument, and so is the value that a variable holds before it is set.
-/

set_option autoImplicit false

namespace Tailserver.Client

open CMemory Buffer

def invalidSocket : Int := -1

/-- The static variables of `clientconn.c`. -/
structure ClientConn where
  clientUnixSock : Int := invalidSocket
  serverBufferSizeKnown : Bool := false
  serverBufferSize : Int := 0
  serverBufferSizeRemain : Int := 0
  /-- For the record: what `clientconn_disconnect` has closed. -/
  closes : List Int := []
  deriving DecidableEq

/-- What a call of `clientconn_read_server_...` returns and has put into `buf`. -/
structure Received where
  res : Int
  stored : List UInt8
  deriving DecidableEq

/-- `clientconn_connect`. The last argument is what `open_unix_socket` returns. -/
def clientconnConnect (conn : ClientConn) (opened : Int) : Bool × ClientConn :=
  if conn.clientUnixSock ≠ invalidSocket then (true, conn)
  else (opened ≠ invalidSocket, { conn with
    clientUnixSock := opened
    serverBufferSizeKnown := false
    serverBufferSize := 0
    serverBufferSizeRemain := 0 })

def clientconnDisconnect (conn : ClientConn) : ClientConn :=
  if conn.clientUnixSock ≠ invalidSocket then
    { conn with
      clientUnixSock := invalidSocket
      closes := conn.closes ++ [conn.clientUnixSock] }
  else conn

def clientconnIsAllServerBufferRead (conn : ClientConn) : Bool :=
  conn.serverBufferSizeKnown && conn.serverBufferSizeRemain = 0

def clientconnEof (conn : ClientConn) : Bool := conn.clientUnixSock = invalidSocket

/-- `on_parse_error`: all data is junk, so none is left. -/
def onParseError (conn : ClientConn) : List UInt8 × ClientConn :=
  ([], clientconnDisconnect conn)

/-- The assignment to `server_buffer_size` for one digit, before it wraps. -/
def nextSize (conn : ClientConn) (byte : UInt8) : Int :=
  conn.serverBufferSize * 10 + Decimal.digitValue byte

/-- The loop of `parse_server_buffer_size`, from `p` on. The bytes from the
returned pointer on are the tail data. -/
def parseServerBufferSize (conn : ClientConn) : List UInt8 → List UInt8 × ClientConn
  | [] => ([], conn)
  | byte :: rest =>
      if conn.serverBufferSizeKnown then (byte :: rest, conn)
      else if Decimal.isDigit byte then
        let conn := { conn with serverBufferSize := Word.signed (nextSize conn byte) }
        if conn.serverBufferSize < 0 then onParseError conn
        else parseServerBufferSize conn rest
      else if byte = newline then
        parseServerBufferSize { conn with
          serverBufferSizeKnown := true
          serverBufferSizeRemain := conn.serverBufferSize } rest
      else onParseError conn

/-- Put bytes into an array of `size` bytes. -/
def intoArray (size : Int) (bytes : List UInt8) : Except Fault (List UInt8) :=
  if bytes.length ≤ size then .ok bytes else .error .outOfBounds

def tmpsize (bufsiz : Nat) (conn : ClientConn) (size : Int) : Int :=
  min (Word.signed (conn.serverBufferSize + 1)) (min bufsiz size)

/-- The length of the `read` in `clientconn_read_server_buffer`, before the
conversion to `size_t`. -/
def requested (bufsiz : Nat) (conn : ClientConn) (size : Int) : Int :=
  if !conn.serverBufferSizeKnown then tmpsize bufsiz conn size
  else min size conn.serverBufferSizeRemain

/-- The branch that reads into `tmpbuf` until the size is known: `tail_data_res`,
which is not set when nothing was read, and the bytes copied to `buf`. -/
def readHeader (bufsiz : Nat) (conn : ClientConn) (size : Int) (unset : Int) :
    ReadAnswer → Except Fault (Int × List UInt8 × ClientConn)
  | .data bytes => do
      let tmpbuf ← intoArray bufsiz bytes
      let (tailData, conn) := parseServerBufferSize conn tmpbuf
      let stored ← intoArray size tailData
      return (stored.length, stored, conn)
  | .eof => .ok (unset, [], conn)
  | .failed _ => .ok (unset, [], conn)

/-- The branch that reads directly into `buf`. -/
def readTail (conn : ClientConn) (size : Int) (answer : ReadAnswer) :
    Except Fault (Int × List UInt8 × ClientConn) := do
  let stored ← intoArray size answer.bytes
  return (max 0 answer.result, stored, conn)

def trackServerBufferSize (conn : ClientConn) (tailDataRes : Int) : ClientConn :=
  if conn.serverBufferSizeRemain ≥ tailDataRes then
    { conn with
      serverBufferSizeRemain := Word.signed (conn.serverBufferSizeRemain - tailDataRes) }
  else { conn with serverBufferSizeRemain := 0 }

/-- `clientconn_read_server_buffer`. The last argument is the value
`tail_data_res` has before it is set. -/
def clientconnReadServerBuffer (bufsiz : Nat) (conn : ClientConn) (size : Int)
    (answer : ReadAnswer) (unset : Int) : Except Fault (Received × ClientConn) := do
  if size = 0 || clientconnIsAllServerBufferRead conn then
    return ({ res := 0, stored := [] }, conn)
  let (tailDataRes, stored, conn) ←
    (if !conn.serverBufferSizeKnown then readHeader bufsiz conn size unset answer
    else readTail conn size answer)
  let conn := if answer.result = 0 then clientconnDisconnect conn else conn
  let conn := trackServerBufferSize conn tailDataRes
  return ({ res := if answer.result > 0 then tailDataRes else answer.result, stored }, conn)

def clientconnReadServerFollow (conn : ClientConn) (size : Int) (answer : ReadAnswer) :
    Except Fault (Received × ClientConn) := do
  if size = 0 || !clientconnIsAllServerBufferRead conn then
    return ({ res := 0, stored := [] }, conn)
  let stored ← intoArray size answer.bytes
  let conn := if answer.result = 0 then clientconnDisconnect conn else conn
  return ({ res := answer.result, stored }, conn)

def clientconnWrite (buf : List UInt8) (answers : List WriteAnswer) :
    Except Fault Written :=
  safeWrite buf answers

end Tailserver.Client
