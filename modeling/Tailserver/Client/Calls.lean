import Tailserver.Client.Connection

/-! What each call of the decoder does, one equation for each way it can go. -/

set_option autoImplicit false

namespace Tailserver.Client

open CMemory Buffer

/-! ## The parser -/

theorem not_isDigit_newline : Decimal.isDigit newline = false := by decide

theorem parseServerBufferSize_known {conn : ClientConn}
    (known : conn.serverBufferSizeKnown = true) (bytes : List UInt8) :
    parseServerBufferSize conn bytes = (bytes, conn) := by
  cases bytes with
  | nil => rfl
  | cons byte rest => simp [parseServerBufferSize, known]

theorem nextSize_eq {conn : ClientConn} {digits : List UInt8}
    (size : conn.serverBufferSize = Decimal.value digits) (byte : UInt8) :
    nextSize conn byte = Decimal.value (digits ++ [byte]) := by
  rw [nextSize, size, Decimal.value_append_singleton]
  omega

theorem parseServerBufferSize_digit {conn : ClientConn} {byte : UInt8}
    (unknown : conn.serverBufferSizeKnown = false)
    (numeric : Decimal.isDigit byte = true) (nonneg : 0 ≤ Word.signed (nextSize conn byte))
    (rest : List UInt8) :
    parseServerBufferSize conn (byte :: rest) =
      parseServerBufferSize { conn with
        serverBufferSize := Word.signed (nextSize conn byte) } rest := by
  conv_lhs => unfold parseServerBufferSize
  rw [if_neg (by simp [unknown]), if_pos numeric]
  exact if_neg (Int.not_lt.mpr nonneg)

/-- Digits are added up as long as their value is a `ssize_t`. -/
theorem parseServerBufferSize_digits {conn : ClientConn} {digits more : List UInt8}
    (unknown : conn.serverBufferSizeKnown = false)
    (size : conn.serverBufferSize = Decimal.value digits)
    (numeric : ∀ byte ∈ more, Decimal.isDigit byte = true)
    (small : (Decimal.value (digits ++ more) : Int) ≤ Word.signedMax) (rest : List UInt8) :
    parseServerBufferSize conn (more ++ rest) =
      parseServerBufferSize { conn with
        serverBufferSize := Decimal.value (digits ++ more) } rest := by
  induction more generalizing conn digits with
  | nil =>
      rw [List.append_nil, ← size]
      rfl
  | cons byte more ih =>
      have regrouped : digits ++ byte :: more = digits ++ [byte] ++ more := by simp
      rw [regrouped] at small ⊢
      have grows := Decimal.value_le_append (digits ++ [byte]) more
      have next : Word.signed (nextSize conn byte) = Decimal.value (digits ++ [byte]) := by
        rw [nextSize_eq size]
        exact Word.signed_of_le (by omega) (by omega)
      rw [List.cons_append,
        parseServerBufferSize_digit unknown (numeric byte (.head _)) (by omega), next]
      exact ih unknown rfl (fun other member => numeric other (.tail _ member)) small

theorem parseServerBufferSize_newline {conn : ClientConn}
    (unknown : conn.serverBufferSizeKnown = false) (rest : List UInt8) :
    parseServerBufferSize conn (newline :: rest) =
      (rest, { conn with
        serverBufferSizeKnown := true
        serverBufferSizeRemain := conn.serverBufferSize }) := by
  simp only [parseServerBufferSize, unknown, not_isDigit_newline, Bool.false_eq_true,
    if_false, if_true]
  exact parseServerBufferSize_known rfl rest

/-! ## Tracking what remains -/

@[simp] theorem trackServerBufferSize_known (conn : ClientConn) (tailDataRes : Int) :
    (trackServerBufferSize conn tailDataRes).serverBufferSizeKnown =
      conn.serverBufferSizeKnown := by
  unfold trackServerBufferSize
  split <;> rfl

@[simp] theorem trackServerBufferSize_size (conn : ClientConn) (tailDataRes : Int) :
    (trackServerBufferSize conn tailDataRes).serverBufferSize = conn.serverBufferSize := by
  unfold trackServerBufferSize
  split <;> rfl

@[simp] theorem trackServerBufferSize_socket (conn : ClientConn) (tailDataRes : Int) :
    (trackServerBufferSize conn tailDataRes).clientUnixSock = conn.clientUnixSock := by
  unfold trackServerBufferSize
  split <;> rfl

theorem trackServerBufferSize_remain {conn : ClientConn} {count : Int} (nonneg : 0 ≤ count)
    (enough : count ≤ conn.serverBufferSizeRemain)
    (small : conn.serverBufferSizeRemain ≤ Word.signedMax) :
    (trackServerBufferSize conn count).serverBufferSizeRemain =
      conn.serverBufferSizeRemain - count := by
  unfold trackServerBufferSize
  rw [if_pos enough]
  exact Word.signed_of_le (by omega) (by omega)

/-! ## The calls -/

section Calls

variable {conn : ClientConn} {bufsiz : Nat} {size : Int} {bytes : List UInt8}
  {answer : ReadAnswer}

@[simp] theorem clientconnDisconnect_socket (conn : ClientConn) :
    (clientconnDisconnect conn).clientUnixSock = invalidSocket := by
  unfold clientconnDisconnect
  split
  · rfl
  · next closed => exact not_not.mp closed

@[simp] theorem clientconnDisconnect_known (conn : ClientConn) :
    (clientconnDisconnect conn).serverBufferSizeKnown = conn.serverBufferSizeKnown := by
  unfold clientconnDisconnect
  split <;> rfl

@[simp] theorem clientconnDisconnect_size (conn : ClientConn) :
    (clientconnDisconnect conn).serverBufferSize = conn.serverBufferSize := by
  unfold clientconnDisconnect
  split <;> rfl

@[simp] theorem clientconnDisconnect_remain (conn : ClientConn) :
    (clientconnDisconnect conn).serverBufferSizeRemain = conn.serverBufferSizeRemain := by
  unfold clientconnDisconnect
  split <;> rfl

@[simp] theorem clientconnEof_disconnect (conn : ClientConn) :
    clientconnEof (clientconnDisconnect conn) = true := by
  simp [clientconnEof]

@[simp] theorem isAll_disconnect (conn : ClientConn) :
    clientconnIsAllServerBufferRead (clientconnDisconnect conn) =
      clientconnIsAllServerBufferRead conn := by
  simp [clientconnIsAllServerBufferRead]

/-! A read that ends the connection leaves the decoder where it is. -/

@[simp] theorem ended_known (conn : ClientConn) (ended : Prop) [Decidable ended] :
    (if ended then clientconnDisconnect conn else conn).serverBufferSizeKnown =
      conn.serverBufferSizeKnown := by
  split <;> simp

@[simp] theorem ended_size (conn : ClientConn) (ended : Prop) [Decidable ended] :
    (if ended then clientconnDisconnect conn else conn).serverBufferSize =
      conn.serverBufferSize := by
  split <;> simp

@[simp] theorem ended_remain (conn : ClientConn) (ended : Prop) [Decidable ended] :
    (if ended then clientconnDisconnect conn else conn).serverBufferSizeRemain =
      conn.serverBufferSizeRemain := by
  split <;> simp

@[simp] theorem ended_socket (conn : ClientConn) (ended : Prop) [Decidable ended] :
    (if ended then clientconnDisconnect conn else conn).clientUnixSock =
      if ended then invalidSocket else conn.clientUnixSock := by
  split <;> simp

/-- Connecting starts the decoder anew. -/
theorem clientconnConnect_of_eof (closed : clientconnEof conn = true) (opened : Int) :
    clientconnConnect conn opened =
      (decide (opened ≠ invalidSocket),
        ({ clientUnixSock := opened, closes := conn.closes } : ClientConn)) := by
  rw [clientconnEof, decide_eq_true_iff] at closed
  simp [clientconnConnect, closed]

theorem intoArray_of_le {size : Int} {bytes : List UInt8} (fits : bytes.length ≤ size) :
    intoArray size bytes = .ok bytes :=
  if_pos fits

theorem allServerBufferRead_iff : clientconnIsAllServerBufferRead conn = true ↔
    conn.serverBufferSizeKnown = true ∧ conn.serverBufferSizeRemain = 0 := by
  simp [clientconnIsAllServerBufferRead]

theorem requested_unknown (unknown : conn.serverBufferSizeKnown = false)
    (nonneg : 0 ≤ conn.serverBufferSize) (small : conn.serverBufferSize < Word.signedMax) :
    requested bufsiz conn size = min (conn.serverBufferSize + 1) (min bufsiz size) := by
  have next : Word.signed (conn.serverBufferSize + 1) = conn.serverBufferSize + 1 :=
    Word.signed_of_le (by omega) (by omega)
  rw [requested, if_pos (by simp [unknown]), tmpsize, next]

theorem requested_known (known : conn.serverBufferSizeKnown = true) :
    requested bufsiz conn size = min size conn.serverBufferSizeRemain :=
  if_neg (by simp [known])

theorem readServerBuffer_header {stored : List UInt8} {conn' : ClientConn}
    (unknown : conn.serverBufferSizeKnown = false) (nonempty : bytes ≠ [])
    (inTmpbuf : bytes.length ≤ (bufsiz : Int))
    (parsed : parseServerBufferSize conn bytes = (stored, conn'))
    (fits : stored.length ≤ size) (asked : 1 ≤ size) (unset : Int) :
    clientconnReadServerBuffer bufsiz conn size (.data bytes) unset =
      .ok ({ res := stored.length, stored }, trackServerBufferSize conn' stored.length) := by
  have positive := List.length_pos_iff.mpr nonempty
  have reads : (decide (size = 0) || clientconnIsAllServerBufferRead conn) = false := by
    simp only [clientconnIsAllServerBufferRead, unknown, Bool.false_and, Bool.or_false,
      decide_eq_false_iff_not]
    omega
  have some : (ReadAnswer.data bytes).result > 0 := Int.natCast_pos.mpr positive
  have header : readHeader bufsiz conn size unset (.data bytes) =
      .ok (stored.length, stored, conn') := by
    simp only [readHeader, intoArray_of_le inTmpbuf, except_ok_bind, parsed,
      intoArray_of_le fits, except_pure]
  simp only [clientconnReadServerBuffer, reads, unknown, header, if_neg some.ne', if_pos some,
    Bool.false_eq_true, Bool.not_false, if_false, if_true, except_ok_bind, except_pure]

theorem readServerBuffer_direct (known : conn.serverBufferSizeKnown = true)
    (unread : clientconnIsAllServerBufferRead conn = false) (nonempty : bytes ≠ [])
    (fits : bytes.length ≤ size) (unset : Int) :
    clientconnReadServerBuffer bufsiz conn size (.data bytes) unset =
      .ok ({ res := bytes.length, stored := bytes },
        trackServerBufferSize conn bytes.length) := by
  have positive := List.length_pos_iff.mpr nonempty
  have reads : (decide (size = 0) || clientconnIsAllServerBufferRead conn) = false := by
    simp only [unread, Bool.or_false, decide_eq_false_iff_not]
    omega
  have some : (ReadAnswer.data bytes).result > 0 := Int.natCast_pos.mpr positive
  have most : max 0 (ReadAnswer.data bytes).result = bytes.length := Int.max_eq_right some.le
  have direct : readTail conn size (.data bytes) =
      .ok ((bytes.length : Int), bytes, conn) := by
    simp only [readTail, ReadAnswer.bytes, intoArray_of_le fits, except_ok_bind, most,
      except_pure]
  simp only [clientconnReadServerBuffer, reads, known, direct, if_neg some.ne', if_pos some,
    Bool.false_eq_true, Bool.not_true, if_false, except_ok_bind, except_pure]

theorem data_or_empty (answer : ReadAnswer) :
    (∃ bytes, answer = .data bytes) ∨ ∀ bytes, answer ≠ .data bytes := by
  cases answer with
  | data bytes => exact .inl ⟨bytes, rfl⟩
  | eof => exact .inr (fun bytes same => by cases same)
  | failed errno => exact .inr (fun bytes same => by cases same)

theorem bytes_of_empty (empty : ∀ bytes, answer ≠ .data bytes) :
    answer.bytes = [] ∧ ¬ answer.result > 0 ∧ max 0 answer.result = 0 := by
  cases answer with
  | data bytes => exact absurd rfl (empty bytes)
  | eof => exact ⟨rfl, by decide, rfl⟩
  | failed errno => exact ⟨rfl, by simp [ReadAnswer.result], rfl⟩

/-- A read that ends or fails. Before the size is known, what remains is then
tracked with the unset variable. -/
theorem readServerBuffer_empty (bufsiz : Nat)
    (unread : clientconnIsAllServerBufferRead conn = false) (asked : 1 ≤ size)
    (empty : ∀ bytes, answer ≠ .data bytes) (unset : Int) :
    clientconnReadServerBuffer bufsiz conn size answer unset =
      .ok ({ res := answer.result, stored := [] }, trackServerBufferSize
        (if answer.result = 0 then clientconnDisconnect conn else conn)
        (if conn.serverBufferSizeKnown = true then 0 else unset)) := by
  have reads : (decide (size = 0) || clientconnIsAllServerBufferRead conn) = false := by
    simp only [unread, Bool.or_false, decide_eq_false_iff_not]
    omega
  obtain ⟨stored, none, most⟩ := bytes_of_empty empty
  cases known : conn.serverBufferSizeKnown with
  | false =>
      have header : readHeader bufsiz conn size unset answer = .ok (unset, [], conn) := by
        cases answer with
        | data bytes => exact absurd rfl (empty bytes)
        | eof => rfl
        | failed errno => rfl
      simp only [clientconnReadServerBuffer, reads, known, header, if_neg none,
        Bool.false_eq_true, Bool.not_false, if_false, if_true, except_ok_bind, except_pure]
  | true =>
      have direct : readTail conn size answer = .ok (0, [], conn) := by
        simp only [readTail, stored, most, except_ok_bind, except_pure,
          intoArray_of_le (show (([] : List UInt8).length : Int) ≤ size by simp; omega)]
      simp only [clientconnReadServerBuffer, reads, known, direct, if_neg none,
        Bool.false_eq_true, Bool.not_true, if_false, if_true, except_ok_bind, except_pure]

theorem readServerFollow_data (all : clientconnIsAllServerBufferRead conn = true)
    (nonempty : bytes ≠ []) (fits : bytes.length ≤ size) :
    clientconnReadServerFollow conn size (.data bytes) =
      .ok ({ res := bytes.length, stored := bytes }, conn) := by
  have positive := List.length_pos_iff.mpr nonempty
  have reads : (decide (size = 0) || !clientconnIsAllServerBufferRead conn) = false := by
    simp only [all, Bool.not_true, Bool.or_false, decide_eq_false_iff_not]
    omega
  have some : ¬ (ReadAnswer.data bytes).result = 0 := by
    simpa [ReadAnswer.result] using nonempty
  simp only [clientconnReadServerFollow, reads, ReadAnswer.bytes, intoArray_of_le fits,
    if_neg some, Bool.false_eq_true, if_false, except_ok_bind, except_pure]
  rfl

theorem readServerFollow_empty (all : clientconnIsAllServerBufferRead conn = true) (asked : 1 ≤ size)
    (empty : ∀ bytes, answer ≠ .data bytes) :
    clientconnReadServerFollow conn size answer =
      .ok ({ res := answer.result, stored := [] },
        if answer.result = 0 then clientconnDisconnect conn else conn) := by
  have reads : (decide (size = 0) || !clientconnIsAllServerBufferRead conn) = false := by
    simp only [all, Bool.not_true, Bool.or_false, decide_eq_false_iff_not]
    omega
  simp only [clientconnReadServerFollow, reads, (bytes_of_empty empty).1, Bool.false_eq_true, if_false,
    intoArray_of_le (show (([] : List UInt8).length : Int) ≤ size by simp; omega),
    except_ok_bind, except_pure]

/-- Each kind of call does nothing in the other's part of the stream. -/
theorem readServerBuffer_all (all : clientconnIsAllServerBufferRead conn = true)
    (bufsiz : Nat) (size : Int) (answer : ReadAnswer) (unset : Int) :
    clientconnReadServerBuffer bufsiz conn size answer unset =
      .ok ({ res := 0, stored := [] }, conn) := by
  simp only [clientconnReadServerBuffer, all, Bool.or_true, if_true, except_pure]

theorem readServerFollow_unread (unread : clientconnIsAllServerBufferRead conn = false)
    (size : Int) (answer : ReadAnswer) :
    clientconnReadServerFollow conn size answer =
      .ok ({ res := 0, stored := [] }, conn) := by
  simp only [clientconnReadServerFollow, unread, Bool.not_false, Bool.or_true, if_true,
    except_pure]

end Calls

end Tailserver.Client
