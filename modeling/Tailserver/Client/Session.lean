import Tailserver.Client.Decoder

/-! A session: any calls of the decoder in any order on one connection, with reads
that bring any number of the bytes the server sends. The decoder undoes the
framing however they are cut. -/

set_option autoImplicit false

namespace Tailserver.Client

open CMemory Buffer

/-- One call, with what `read` answers if the call comes to it. -/
inductive Call where
  | serverBuffer (size : Int) (answer : ReadAnswer) (unset : Int)
  | serverFollow (size : Int) (answer : ReadAnswer)

/-- A connection in use. Apart from `conn` it is for the record: what the server has
sent that was not read yet, and per kind of call what was read off the socket and
what the caller was given. -/
structure Session where
  conn : ClientConn
  pending : List UInt8
  bufferRead : List UInt8 := []
  bufferDelivered : List UInt8 := []
  followRead : List UInt8 := []
  followDelivered : List UInt8 := []
  deriving DecidableEq

namespace Session

/-- The connection right after `clientconn_connect`. -/
def connected (conn : ClientConn) (opened : Int) (sent : List UInt8) : Session where
  conn := (clientconnConnect conn opened).2
  pending := sent

/-- What a call reads off the socket. -/
def bytesRead (session : Session) : Call → List UInt8
  | .serverBuffer size answer _ =>
      if size = 0 || clientconnIsAllServerBufferRead session.conn then [] else answer.bytes
  | .serverFollow size answer =>
      if size = 0 || !clientconnIsAllServerBufferRead session.conn then [] else answer.bytes

/-- The bytes the caller was told about. -/
def delivered (received : Received) : List UInt8 := received.stored.take received.res.toNat

def call (bufsiz : Nat) (session : Session) (request : Call) : Except Fault Session :=
  let read := session.bytesRead request
  let pending := session.pending.drop read.length
  match request with
  | .serverBuffer size answer unset => do
      let (received, conn) ←
        clientconnReadServerBuffer bufsiz session.conn size answer unset
      return { session with
        conn
        pending
        bufferRead := session.bufferRead ++ read
        bufferDelivered := session.bufferDelivered ++ delivered received }
  | .serverFollow size answer => do
      let (received, conn) ← clientconnReadServerFollow session.conn size answer
      return { session with
        conn
        pending
        followRead := session.followRead ++ read
        followDelivered := session.followDelivered ++ delivered received }

/-- A read of `count` bytes returns some of the pending ones, or fails for now. -/
def Arrives (session : Session) (count : Nat) : ReadAnswer → Prop
  | .data bytes => bytes ≠ [] ∧ bytes <+: session.pending ∧ bytes.length ≤ count
  | .eof => False
  | .failed errno => isErrnoRetryFriendly errno = true

def Allows (bufsiz : Nat) (session : Session) : Call → Prop
  | .serverBuffer size answer _ => 1 ≤ size ∧ size ≤ Word.signedMax ∧
      session.Arrives (Word.unsigned (requested bufsiz session.conn size)) answer
  | .serverFollow size answer => 1 ≤ size ∧ size ≤ Word.signedMax ∧
      session.Arrives (Word.unsigned size) answer

instance (session : Session) (count : Nat) (answer : ReadAnswer) :
    Decidable (session.Arrives count answer) :=
  match answer with
  | .data bytes =>
      inferInstanceAs (Decidable (bytes ≠ [] ∧ bytes <+: session.pending ∧ bytes.length ≤ count))
  | .eof => inferInstanceAs (Decidable False)
  | .failed errno => inferInstanceAs (Decidable (isErrnoRetryFriendly errno = true))

instance (bufsiz : Nat) (session : Session) (request : Call) :
    Decidable (session.Allows bufsiz request) :=
  match request with
  | .serverBuffer _ _ _ => inferInstanceAs (Decidable (_ ∧ _ ∧ Arrives _ _ _))
  | .serverFollow _ _ => inferInstanceAs (Decidable (_ ∧ _ ∧ Arrives _ _ _))

/-- The sessions any sequence of calls leads to. -/
inductive Reaches (bufsiz : Nat) (start : Session) : Session → Prop where
  | start : Reaches bufsiz start start
  | call {session session' : Session} (request : Call) :
      Reaches bufsiz start session → session.Allows bufsiz request →
      session.call bufsiz request = .ok session' → Reaches bufsiz start session'

/-- What holds between calls. -/
structure Undoes (tail follow : List UInt8) (session : Session) : Prop where
  decoding : Decoding tail session.conn (session.bufferRead ++ session.followRead)
  pending : session.bufferRead ++ session.followRead ++ session.pending =
    header tail ++ tail ++ follow
  bufferRead : session.bufferRead <+: header tail ++ tail
  followRead : session.followRead ≠ [] → session.bufferRead = header tail ++ tail
  bufferDelivered : session.bufferDelivered = tailPart tail session.bufferRead
  followDelivered : session.followDelivered = session.followRead

variable {tail follow : List UInt8} {session : Session}

theorem Undoes.of_connected {conn : ClientConn} (closed : conn.clientUnixSock = invalidSocket)
    (opened : Int) (tail follow : List UInt8) :
    Undoes tail follow (connected conn opened (header tail ++ tail ++ follow)) := by
  have reset := clientconnConnect_of_eof (decide_eq_true closed) opened
  refine ⟨?_, rfl, List.nil_prefix, fun more => absurd rfl more, ?_, rfl⟩
  · simp only [connected, reset, List.append_nil]
    exact .inHeader List.nil_prefix rfl rfl
  · exact (tailPart_of_digits List.nil_prefix).symm

theorem Undoes.unfollowed (undoes : Undoes tail follow session)
    (unread : clientconnIsAllServerBufferRead session.conn = false) :
    session.followRead = [] := by
  by_contra more
  have whole := undoes.followRead more
  have all := undoes.decoding.all_read_iff.mpr
    (by rw [whole]; exact List.prefix_append _ _)
  rw [unread] at all
  cases all

theorem Undoes.whole (undoes : Undoes tail follow session)
    (all : clientconnIsAllServerBufferRead session.conn = true) :
    session.bufferRead = header tail ++ tail := by
  by_cases more : session.followRead = []
  · have whole := undoes.decoding.all_read_iff.mp all
    rw [more, List.append_nil] at whole
    exact undoes.bufferRead.eq_of_length_le whole.length_le
  · exact undoes.followRead more

/-- A call that neither reads nor delivers. -/
theorem Undoes.idle {conn : ClientConn} (undoes : Undoes tail follow session)
    (decoding : Decoding tail conn (session.bufferRead ++ session.followRead)) :
    Undoes tail follow { session with conn } :=
  ⟨decoding, undoes.pending, undoes.bufferRead, undoes.followRead, undoes.bufferDelivered,
    undoes.followDelivered⟩

theorem Undoes.serverBuffer_data {bufsiz : Nat} {size : Int} {bytes : List UInt8}
    (undoes : Undoes tail follow session)
    (unread : clientconnIsAllServerBufferRead session.conn = false)
    (small : tail.length < Word.signedMax) (asked : 1 ≤ size) (nonempty : bytes ≠ [])
    (arrived : bytes <+: session.pending)
    (fits : bytes.length ≤ requested bufsiz session.conn size) (unset : Int) :
    ∃ session', session.call bufsiz (.serverBuffer size (.data bytes) unset) = .ok session' ∧
      Undoes tail follow session' := by
  have unfollowed := undoes.unfollowed unread
  have decoding := undoes.decoding
  have pending := undoes.pending
  rw [unfollowed, List.append_nil] at decoding pending
  obtain ⟨later, split⟩ := arrived
  have isPrefix : session.bufferRead ++ bytes <+: header tail ++ tail ++ follow := by
    rw [← pending, ← split, ← List.append_assoc]
    exact List.prefix_append _ _
  obtain ⟨stored, conn', ran, decoding', part, inside, _, _⟩ :=
    decoding.readServerBuffer_data unread small asked nonempty isPrefix fits unset
  have reads : session.bytesRead (.serverBuffer size (.data bytes) unset) = bytes := by
    have positive : ¬ size = 0 := by omega
    simp [bytesRead, positive, unread, ReadAnswer.bytes]
  have told : delivered { res := stored.length, stored } = stored := by
    simp [delivered]
  refine ⟨{ session with
    conn := conn'
    pending := later
    bufferRead := session.bufferRead ++ bytes
    bufferDelivered := session.bufferDelivered ++ stored }, ?_, ?_⟩
  · simp only [Session.call, ran, except_ok_bind, except_pure, reads, told, ← split,
      List.drop_left]
  · refine ⟨?_, ?_, inside, fun more => absurd unfollowed more, ?_, undoes.followDelivered⟩
    · simpa only [unfollowed, List.append_nil] using decoding'
    · simpa [unfollowed, ← split] using pending
    · rw [undoes.bufferDelivered, part]

theorem Undoes.serverBuffer_failed {bufsiz : Nat} {size : Int} {errno : Errno}
    (undoes : Undoes tail follow session)
    (unread : clientconnIsAllServerBufferRead session.conn = false)
    (small : tail.length < Word.signedMax) (asked : 1 ≤ size) (unset : Int) :
    ∃ session', session.call bufsiz (.serverBuffer size (.failed errno) unset) = .ok session' ∧
      Undoes tail follow session' := by
  obtain ⟨conn', ran, decoding', _⟩ :=
    undoes.decoding.readServerBuffer_empty bufsiz (.failed errno) unread small asked
      (fun bytes same => by cases same) unset
  have reads : session.bytesRead (.serverBuffer size (.failed errno) unset) = [] := by
    simp [bytesRead, ReadAnswer.bytes]
  refine ⟨{ session with conn := conn' }, ?_, undoes.idle decoding'⟩
  simp only [Session.call, ran, except_ok_bind, except_pure, reads, delivered, List.take_nil,
    List.append_nil, List.length_nil, List.drop_zero]

theorem Undoes.serverFollow_data {bufsiz : Nat} {size : Int} {bytes : List UInt8}
    (undoes : Undoes tail follow session)
    (all : clientconnIsAllServerBufferRead session.conn = true)
    (nonempty : bytes ≠ []) (arrived : bytes <+: session.pending)
    (fits : bytes.length ≤ size) :
    ∃ session', session.call bufsiz (.serverFollow size (.data bytes)) = .ok session' ∧
      Undoes tail follow session' := by
  have pending := undoes.pending
  obtain ⟨later, split⟩ := arrived
  have isPrefix : session.bufferRead ++ session.followRead ++ bytes <+:
      header tail ++ tail ++ follow := by
    rw [← pending, ← split, ← List.append_assoc]
    exact List.prefix_append _ _
  obtain ⟨ran, decoding', _⟩ :=
    undoes.decoding.readServerFollow_data all nonempty fits isPrefix
  have reads : session.bytesRead (.serverFollow size (.data bytes)) = bytes := by
    have positive := List.length_pos_iff.mpr nonempty
    have asked : ¬ size = 0 := by omega
    simp [bytesRead, asked, all, ReadAnswer.bytes]
  have told : delivered { res := bytes.length, stored := bytes } = bytes := by
    simp [delivered]
  refine ⟨{ session with
    pending := later
    followRead := session.followRead ++ bytes
    followDelivered := session.followDelivered ++ bytes }, ?_, ?_⟩
  · simp only [Session.call, ran, except_ok_bind, except_pure, reads, told, ← split,
      List.drop_left]
  · refine ⟨?_, ?_, undoes.bufferRead, fun _ => undoes.whole all, undoes.bufferDelivered, ?_⟩
    · rw [← List.append_assoc]
      exact decoding'
    · rw [← pending, ← split]
      simp
    · rw [undoes.followDelivered]

theorem Undoes.serverFollow_failed {bufsiz : Nat} {size : Int} {errno : Errno}
    (undoes : Undoes tail follow session)
    (all : clientconnIsAllServerBufferRead session.conn = true) (asked : 1 ≤ size) :
    ∃ session', session.call bufsiz (.serverFollow size (.failed errno)) = .ok session' ∧
      Undoes tail follow session' := by
  have ran := @readServerFollow_empty session.conn size (.failed errno) all asked
    (fun bytes same => by cases same)
  have reads : session.bytesRead (.serverFollow size (.failed errno)) = [] := by
    simp [bytesRead, ReadAnswer.bytes]
  have stays : ¬ (ReadAnswer.failed errno).result = 0 := by simp [ReadAnswer.result]
  refine ⟨session, ?_, undoes⟩
  simp only [Session.call, ran, if_neg stays, except_ok_bind, except_pure, reads, delivered,
    List.take_nil, List.append_nil, List.length_nil, List.drop_zero]

/-- Every call keeps the framing undone. -/
theorem Undoes.call {bufsiz : Nat} (undoes : Undoes tail follow session) (room : 0 < bufsiz)
    (small : tail.length < Word.signedMax) {request : Call}
    (allowed : session.Allows bufsiz request) :
    ∃ session', session.call bufsiz request = .ok session' ∧ Undoes tail follow session' := by
  cases all : clientconnIsAllServerBufferRead session.conn with
  | false =>
      cases request with
      | serverBuffer size answer unset =>
          obtain ⟨asked, bounded, arrives⟩ := allowed
          cases answer with
          | data bytes =>
              obtain ⟨nonempty, arrived, fits⟩ := arrives
              obtain ⟨least, most⟩ := undoes.decoding.requested_bounds all small room asked
              rw [Word.unsigned_of_le (by omega) (by omega)] at fits
              exact undoes.serverBuffer_data all small asked nonempty arrived (by omega) unset
          | eof => cases arrives
          | failed errno => exact undoes.serverBuffer_failed all small asked unset
      | serverFollow size answer =>
          refine ⟨session, ?_, undoes⟩
          simp [Session.call, bytesRead, readServerFollow_unread all, all, delivered]
  | true =>
      cases request with
      | serverBuffer size answer unset =>
          refine ⟨session, ?_, undoes⟩
          simp [Session.call, bytesRead, readServerBuffer_all all, all, delivered]
      | serverFollow size answer =>
          obtain ⟨asked, bounded, arrives⟩ := allowed
          cases answer with
          | data bytes =>
              obtain ⟨nonempty, arrived, fits⟩ := arrives
              rw [Word.unsigned_of_le (by omega) bounded] at fits
              exact undoes.serverFollow_data all nonempty arrived (by omega)
          | eof => cases arrives
          | failed errno => exact undoes.serverFollow_failed all asked

theorem Undoes.bufferDelivered_prefix (undoes : Undoes tail follow session) :
    session.bufferDelivered <+: tail := by
  have behind := undoes.bufferRead.drop (header tail).length
  rw [List.drop_left] at behind
  rw [undoes.bufferDelivered, tailPart]
  exact (List.take_prefix _ _).trans behind

theorem Undoes.followRead_prefix (undoes : Undoes tail follow session) :
    session.followRead <+: follow := by
  by_cases more : session.followRead = []
  · rw [more]
    exact List.nil_prefix
  · have pending := undoes.pending
    rw [undoes.followRead more, List.append_assoc, List.append_cancel_left_eq] at pending
    exact ⟨_, pending⟩

theorem Undoes.all_read_iff (undoes : Undoes tail follow session) :
    clientconnIsAllServerBufferRead session.conn = true ↔
      session.bufferDelivered = tail ∧ header tail <+: session.bufferRead := by
  constructor
  · intro all
    have whole := undoes.whole all
    have part := tailPart_whole tail []
    rw [List.append_nil] at part
    rw [undoes.bufferDelivered, whole]
    exact ⟨part, List.prefix_append _ _⟩
  · rintro ⟨delivered, received, split⟩
    have inside := undoes.bufferRead
    rw [← split, List.prefix_append_right_inj] at inside
    obtain ⟨rest, joined⟩ := inside
    rw [undoes.bufferDelivered, ← split, tailPart_header_append joined.symm] at delivered
    rw [undoes.decoding.all_read_iff, ← split, delivered]
    exact List.prefix_append _ _

theorem Undoes.of_reaches {bufsiz : Nat} {start session : Session}
    (starts : Undoes tail follow start) (room : 0 < bufsiz)
    (small : tail.length < Word.signedMax) (reaches : Reaches bufsiz start session) :
    Undoes tail follow session := by
  induction reaches with
  | start => exact starts
  | call request _ allowed ran ih =>
      obtain ⟨session', ran', undoes⟩ := ih.call room small allowed
      rw [ran', Except.ok.injEq] at ran
      exact ran ▸ undoes

end Session

/-- Whatever calls were made and however the stream was cut: the calls for the tail
deliver a beginning of the tail and the others a beginning of what follows; all is
read exactly when the header is and the whole tail was delivered; no call reads in
the other's part; and the next call returns. -/
theorem decoded_of_reaches (bufsiz : Nat) (room : 0 < bufsiz) (tail follow : List UInt8)
    (small : tail.length < Word.signedMax) (conn : ClientConn)
    (closed : conn.clientUnixSock = invalidSocket) (opened : Int) (session : Session)
    (reaches : Session.Reaches bufsiz
      (.connected conn opened (Decimal.decimal tail.length ++ [newline] ++ tail ++ follow))
      session) :
    session.bufferDelivered <+: tail ∧ session.followDelivered <+: follow ∧
      (clientconnIsAllServerBufferRead session.conn = true ↔
        session.bufferDelivered = tail ∧
          Decimal.decimal tail.length ++ [newline] <+: session.bufferRead) ∧
      session.bufferRead <+: Decimal.decimal tail.length ++ [newline] ++ tail ∧
      session.followRead <+: follow ∧
      (session.followRead ≠ [] →
        session.bufferRead = Decimal.decimal tail.length ++ [newline] ++ tail) ∧
      ∀ request, session.Allows bufsiz request →
        ∃ session', session.call bufsiz request = .ok session' := by
  have undoes := (Session.Undoes.of_connected closed opened tail follow).of_reaches room small
    reaches
  refine ⟨undoes.bufferDelivered_prefix, ?_, undoes.all_read_iff, undoes.bufferRead,
    undoes.followRead_prefix, undoes.followRead, ?_⟩
  · rw [undoes.followDelivered]
    exact undoes.followRead_prefix
  · intro request allowed
    obtain ⟨session', ran, _⟩ := undoes.call room small allowed
    exact ⟨session', ran⟩

/-- The stream of a tail of two bytes and one byte behind it. -/
def sampleSession : Session := .connected {} 3 [50, 10, 97, 98, 99]

/-- After a failed read, one byte of the header arrives, then the rest of it with one
byte of the tail. -/
def sampleSession' : Session where
  conn := {
    clientUnixSock := 3
    serverBufferSizeKnown := true
    serverBufferSize := 2
    serverBufferSizeRemain := 1 }
  pending := [98, 99]
  bufferRead := [50, 10, 97]
  bufferDelivered := [97]

theorem sampleSession_reaches : Session.Reaches 8 sampleSession sampleSession' := by
  have failed : Session.Reaches 8 sampleSession
      { sampleSession with conn := { clientUnixSock := 3, serverBufferSizeRemain := 7 } } :=
    .call (.serverBuffer 8 (.failed .eagain) (-7)) .start (by decide) rfl
  have digit : Session.Reaches 8 sampleSession {
      conn := { clientUnixSock := 3, serverBufferSize := 2, serverBufferSizeRemain := 7 }
      pending := [10, 97, 98, 99]
      bufferRead := [50] } :=
    .call (.serverBuffer 8 (.data [50]) 0) failed (by decide) (by decide)
  exact .call (.serverBuffer 8 (.data [10, 97]) 0) digit (by decide) (by decide)

theorem decoded_of_sampleSession :
    sampleSession'.bufferDelivered <+: [97, 98] ∧ sampleSession'.followDelivered <+: [99] ∧
      (clientconnIsAllServerBufferRead sampleSession'.conn = true ↔
        sampleSession'.bufferDelivered = [97, 98] ∧
          Decimal.decimal [97, 98].length ++ [newline] <+: sampleSession'.bufferRead) ∧
      sampleSession'.bufferRead <+: Decimal.decimal [97, 98].length ++ [newline] ++ [97, 98] ∧
      sampleSession'.followRead <+: [99] ∧
      (sampleSession'.followRead ≠ [] →
        sampleSession'.bufferRead = Decimal.decimal [97, 98].length ++ [newline] ++ [97, 98]) ∧
      ∀ request, sampleSession'.Allows 8 request →
        ∃ session', sampleSession'.call 8 request = .ok session' :=
  decoded_of_reaches 8 (by decide) [97, 98] [99] (by decide) {} rfl 3 sampleSession'
    sampleSession_reaches

end Tailserver.Client
