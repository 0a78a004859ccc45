import Tailserver.Client.Calls
import Mathlib.Data.List.TakeWhile

/-! A peer that sends anything. The header is added up in a `ssize_t` without a
bound, and the number received so far plus one is the length of the next read into
an array on the stack. So the reads stay inside their arrays exactly as long as the
digits received denote a number small enough. -/

set_option autoImplicit false

namespace Tailserver.Client

open CMemory Buffer

/-- A number a `ssize_t` can hold. -/
def Representable (number : Int) : Prop := -2 ^ 63 ≤ number ∧ number ≤ Word.signedMax

/-- No computation of the next header value overflows while these bytes are parsed. -/
def ComputesHeader (conn : ClientConn) : List UInt8 → Prop
  | [] => True
  | byte :: rest =>
      conn.serverBufferSizeKnown = false → Decimal.isDigit byte = true →
        Representable (conn.serverBufferSize * 10) ∧ Representable (nextSize conn byte) ∧
          (0 ≤ Word.signed (nextSize conn byte) →
            ComputesHeader { conn with
              serverBufferSize := Word.signed (nextSize conn byte) } rest)

/-- A call of `clientconn_read_server_buffer`. -/
structure BufferCall where
  size : Int
  answer : ReadAnswer
  /-- The value `tail_data_res` has before it is set. -/
  unset : Int
  deriving DecidableEq

def BufferCall.run (bufsiz : Nat) (conn : ClientConn) (call : BufferCall) :
    Except Fault (Received × ClientConn) :=
  clientconnReadServerBuffer bufsiz conn call.size call.answer call.unset

/-- The length a call passes to `read`. -/
def BufferCall.length (bufsiz : Nat) (conn : ClientConn) (call : BufferCall) : Nat :=
  Word.unsigned (requested bufsiz conn call.size)

/-- A call that computes nothing beyond a `ssize_t`, asks for at least one byte and
at most what fits, and copies at most what fits. -/
structure SafeCall (bufsiz : Nat) (conn : ClientConn) (call : BufferCall) : Prop where
  next : conn.serverBufferSizeKnown = false → Representable (conn.serverBufferSize + 1)
  header : ∀ bytes, call.answer = .data bytes → ComputesHeader conn bytes
  asks : clientconnIsAllServerBufferRead conn = false →
    1 ≤ call.length bufsiz conn ∧ call.length bufsiz conn ≤ call.size
  asksHeader : conn.serverBufferSizeKnown = false → call.length bufsiz conn ≤ bufsiz
  copies : ∀ bytes, conn.serverBufferSizeKnown = false → call.answer = .data bytes →
    (parseServerBufferSize conn bytes).1.length ≤ call.size
  returns : ∃ result, call.run bufsiz conn = .ok result

/-- The calls the client makes on one connection, and what the kernel may answer. -/
def Connected (bufsiz : Nat) : ClientConn → List BufferCall → Prop
  | _, [] => True
  | conn, call :: calls =>
      clientconnEof conn = false ∧ 1 ≤ call.size ∧ call.size ≤ bufsiz ∧
        (∀ bytes, call.answer = .data bytes →
          bytes ≠ [] ∧ bytes.length ≤ call.length bufsiz conn) ∧
        ∀ result, call.run bufsiz conn = .ok result → Connected bufsiz result.2 calls

def SafeCalls (bufsiz : Nat) : ClientConn → List BufferCall → Prop
  | _, [] => True
  | conn, call :: calls =>
      SafeCall bufsiz conn call ∧
        ∀ result, call.run bufsiz conn = .ok result → SafeCalls bufsiz result.2 calls

/-- The digits a stream begins with. -/
def leadingDigits (stream : List UInt8) : List UInt8 := stream.takeWhile Decimal.isDigit

/-- As long as no newline was received, the digits denote less than the largest
`ssize_t` before a read and at most that after it. -/
def Small (received : List UInt8) (answer : ReadAnswer) : Prop :=
  newline ∉ received →
    Decimal.value (leadingDigits received) < Word.signedMax ∧
    Decimal.value (leadingDigits (received ++ answer.bytes)) ≤ Word.signedMax

/-- What the client has to be sent. -/
def SmallHeader : List UInt8 → List BufferCall → Prop
  | _, [] => True
  | received, call :: calls =>
      Small received call.answer ∧ SmallHeader (received ++ call.answer.bytes) calls

/-! ## One call -/

/-- What the decoder knows of a stream that was received so far. -/
inductive Receiving (conn : ClientConn) (received : List UInt8) : Prop where
  | header :
      conn.serverBufferSizeKnown = false →
      (∀ byte ∈ received, Decimal.isDigit byte = true) →
      conn.serverBufferSize = Decimal.value received →
      Decimal.value received ≤ Word.signedMax → Receiving conn received
  | tail :
      conn.serverBufferSizeKnown = true → newline ∈ received →
      0 ≤ conn.serverBufferSizeRemain →
      conn.serverBufferSizeRemain ≤ Word.signedMax → Receiving conn received

theorem newline_notMem {received : List UInt8}
    (numeric : ∀ byte ∈ received, Decimal.isDigit byte = true) : newline ∉ received := by
  intro member
  have digit := numeric newline member
  rw [not_isDigit_newline] at digit
  cases digit

theorem leadingDigits_append {received : List UInt8}
    (numeric : ∀ byte ∈ received, Decimal.isDigit byte = true) (bytes : List UInt8) :
    leadingDigits (received ++ bytes) = received ++ leadingDigits bytes :=
  List.takeWhile_append_of_pos numeric

theorem leadingDigits_self {received : List UInt8}
    (numeric : ∀ byte ∈ received, Decimal.isDigit byte = true) :
    leadingDigits received = received :=
  List.takeWhile_eq_self_iff.mpr numeric

/-- The header value overflows exactly when the digits denote too large a number. -/
theorem computesHeader_iff {conn : ClientConn} {digits : List UInt8} (bytes : List UInt8)
    (unknown : conn.serverBufferSizeKnown = false)
    (size : conn.serverBufferSize = Decimal.value digits)
    (small : Decimal.value digits ≤ Word.signedMax) :
    ComputesHeader conn bytes ↔
      Decimal.value (digits ++ leadingDigits bytes) ≤ Word.signedMax := by
  induction bytes generalizing conn digits with
  | nil => simpa [ComputesHeader, leadingDigits] using small
  | cons byte rest ih =>
      cases numeric : Decimal.isDigit byte with
      | false => simpa [ComputesHeader, leadingDigits, numeric] using small
      | true =>
          have next := nextSize_eq size byte
          have split : digits ++ leadingDigits (byte :: rest) =
              digits ++ [byte] ++ leadingDigits rest := by
            simp [leadingDigits, numeric]
          have grows := Decimal.value_le_append (digits ++ [byte]) (leadingDigits rest)
          have product : conn.serverBufferSize * 10 ≤ nextSize conn byte := by
            unfold nextSize
            omega
          rw [split]
          constructor
          · intro computes
            obtain ⟨_, representable, computes⟩ := computes unknown numeric
            rw [next] at representable computes
            have fits := Word.signed_of_le (Int.natCast_nonneg _) representable.2
            rw [fits] at computes
            have later := @ih { conn with serverBufferSize := Decimal.value (digits ++ [byte]) }
              (digits ++ [byte]) unknown rfl representable.2
            exact later.mp (computes (Int.natCast_nonneg _))
          · intro bounded _ _
            have fits : (Decimal.value (digits ++ [byte]) : Int) ≤ Word.signedMax := by omega
            refine ⟨⟨by omega, by omega⟩, ⟨by omega, by omega⟩, fun _ => ?_⟩
            rw [next, Word.signed_of_le (Int.natCast_nonneg _) fits]
            exact (@ih { conn with serverBufferSize := Decimal.value (digits ++ [byte]) }
              (digits ++ [byte]) unknown rfl fits).mpr bounded

theorem trackServerBufferSize_bounds {conn : ClientConn}
    (nonneg : 0 ≤ conn.serverBufferSizeRemain)
    (small : conn.serverBufferSizeRemain ≤ Word.signedMax) (count : Nat) :
    0 ≤ (trackServerBufferSize conn count).serverBufferSizeRemain ∧
      (trackServerBufferSize conn count).serverBufferSizeRemain ≤ Word.signedMax := by
  by_cases enough : count ≤ conn.serverBufferSizeRemain
  · rw [trackServerBufferSize_remain (Int.natCast_nonneg _) enough small]
    omega
  · rw [trackServerBufferSize, if_neg enough]
    exact ⟨le_refl 0, le_trans nonneg small⟩

theorem Receiving.tracked {conn : ClientConn} {received : List UInt8}
    (receiving : Receiving conn received) (count : Nat) :
    Receiving (trackServerBufferSize conn count) received := by
  cases receiving with
  | header unknown numeric size small =>
      exact .header (by simpa using unknown) numeric (by simpa using size) small
  | tail known member nonneg small =>
      have bounds := trackServerBufferSize_bounds nonneg small count
      exact .tail (by simpa using known) member bounds.1 bounds.2

/-- Parsing ends in the digits, behind the newline or in an error. -/
theorem parseServerBufferSize_cases {conn : ClientConn} {received : List UInt8}
    (bytes : List UInt8) (unknown : conn.serverBufferSizeKnown = false)
    (numeric : ∀ byte ∈ received, Decimal.isDigit byte = true)
    (size : conn.serverBufferSize = Decimal.value received)
    (small : Decimal.value (received ++ leadingDigits bytes) ≤ Word.signedMax) :
    ∃ stored conn', parseServerBufferSize conn bytes = (stored, conn') ∧
      stored.length ≤ bytes.length ∧
      (clientconnEof conn' = true ∨ Receiving conn' (received ++ bytes)) := by
  have grows := Decimal.value_le_append received (leadingDigits bytes)
  induction bytes generalizing conn received with
  | nil =>
      refine ⟨[], conn, rfl, le_refl _, .inr ?_⟩
      rw [List.append_nil]
      exact .header unknown numeric size (by omega)
  | cons byte rest ih =>
      cases digit : Decimal.isDigit byte with
      | true =>
          have next := nextSize_eq size byte
          have joined : received ++ byte :: rest = received ++ [byte] ++ rest := by simp
          have split : received ++ leadingDigits (byte :: rest) =
              received ++ [byte] ++ leadingDigits rest := by
            simp [leadingDigits, digit]
          have more := Decimal.value_le_append (received ++ [byte]) (leadingDigits rest)
          rw [split] at small
          have fits : Word.signed (nextSize conn byte) = Decimal.value (received ++ [byte]) := by
            rw [next]
            exact Word.signed_of_le (Int.natCast_nonneg _) (by omega)
          have numeric' : ∀ other ∈ received ++ [byte], Decimal.isDigit other = true := by
            intro other member
            rcases List.mem_append.mp member with old | new
            · exact numeric other old
            · rw [List.mem_singleton.mp new]
              exact digit
          obtain ⟨stored, conn', parsed, shorter, ended⟩ :=
            @ih { conn with serverBufferSize := Decimal.value (received ++ [byte]) }
              (received ++ [byte]) unknown numeric' rfl small more
          refine ⟨stored, conn', ?_, Nat.le_succ_of_le shorter, ?_⟩
          · rw [parseServerBufferSize_digit unknown digit (by omega), fits]
            exact parsed
          · rw [joined]
            exact ended
      | false =>
          by_cases ends : byte = newline
          · subst ends
            refine ⟨rest, _, parseServerBufferSize_newline unknown rest, Nat.le_succ _, .inr ?_⟩
            exact .tail rfl (by simp) (by simp only; omega) (by simp only; omega)
          · refine ⟨[], clientconnDisconnect conn, ?_, Nat.zero_le _, .inl (by simp)⟩
            simp [parseServerBufferSize, unknown, digit, ends, onParseError]

section Call

variable {bufsiz : Nat} {conn : ClientConn} {received : List UInt8} {call : BufferCall}

theorem length_header_call (unknown : conn.serverBufferSizeKnown = false)
    (size : conn.serverBufferSize = Decimal.value received)
    (small : Decimal.value received < Word.signedMax) (asked : 1 ≤ call.size) :
    call.length bufsiz conn =
      (min (Decimal.value received + 1 : Int) (min bufsiz call.size)).toNat := by
  have nonneg : 0 ≤ conn.serverBufferSize := by omega
  rw [BufferCall.length, requested_unknown unknown nonneg (by omega), size,
    Word.unsigned_of_le (by omega) (by omega)]

theorem length_tail_call (known : conn.serverBufferSizeKnown = true)
    (nonneg : 0 ≤ conn.serverBufferSizeRemain)
    (small : conn.serverBufferSizeRemain ≤ Word.signedMax) (asked : 1 ≤ call.size) :
    call.length bufsiz conn = (min call.size conn.serverBufferSizeRemain).toNat := by
  rw [BufferCall.length, requested_known known, Word.unsigned_of_le (by omega) (by omega)]

theorem Receiving.run_empty (receiving : Receiving conn received) (asked : 1 ≤ call.size)
    (empty : ∀ bytes, call.answer ≠ .data bytes) :
    ∃ result, call.run bufsiz conn = .ok result ∧
      Receiving result.2 (received ++ call.answer.bytes) := by
  obtain ⟨size, answer, unset⟩ := call
  rw [(bytes_of_empty empty).1, List.append_nil]
  cases all : clientconnIsAllServerBufferRead conn with
  | true => exact ⟨_, readServerBuffer_all all bufsiz size answer unset, receiving⟩
  | false =>
      refine ⟨_, readServerBuffer_empty bufsiz all asked empty unset, ?_⟩
      cases receiving with
      | header unknown numeric value fits =>
          exact .header (by simpa using unknown) numeric (by simpa using value) fits
      | tail known member nonneg remain =>
          have receiving : Receiving
              (if answer.result = 0 then clientconnDisconnect conn else conn) received :=
            .tail (by simpa using known) member (by simpa using nonneg) (by simpa using remain)
          rw [if_pos known]
          exact receiving.tracked 0

/-- What a call does with bytes when the header is small enough. -/
theorem Receiving.run_data {bytes : List UInt8} {size : Int}
    (receiving : Receiving conn received) (asked : 1 ≤ size)
    (bounded : size ≤ bufsiz) (unset : Int) (nonempty : bytes ≠ [])
    (fits : bytes.length ≤ (BufferCall.mk size (.data bytes) unset).length bufsiz conn)
    (small : Small received (.data bytes)) :
    ∃ result, (BufferCall.mk size (.data bytes) unset).run bufsiz conn = .ok result ∧
      (clientconnEof result.2 = true ∨ Receiving result.2 (received ++ bytes)) ∧
      (conn.serverBufferSizeKnown = false →
        (parseServerBufferSize conn bytes).1.length ≤ size) := by
  cases receiving with
  | header unknown numeric value most =>
      obtain ⟨before, after⟩ := small (newline_notMem numeric)
      rw [leadingDigits_self numeric] at before
      rw [leadingDigits_append numeric] at after
      rw [length_header_call unknown value before asked] at fits
      simp only at fits
      obtain ⟨stored, conn', parsed, inside, ended⟩ :=
        parseServerBufferSize_cases bytes unknown numeric value after
      refine ⟨_, readServerBuffer_header unknown nonempty (by omega) parsed (by omega) asked
        unset, ?_, fun _ => ?_⟩
      · rcases ended with closed | receiving
        · left
          simpa [clientconnEof] using closed
        · exact .inr (receiving.tracked _)
      · rw [parsed]
        simp only
        omega
  | tail known member nonneg remain =>
      have positive := List.length_pos_iff.mpr nonempty
      rw [length_tail_call known nonneg remain asked] at fits
      simp only at fits
      have unread : clientconnIsAllServerBufferRead conn = false := by
        simp only [clientconnIsAllServerBufferRead, known, Bool.true_and,
          decide_eq_false_iff_not]
        omega
      refine ⟨_, readServerBuffer_direct known unread nonempty (by simp only; omega) unset,
        .inr ?_, ?_⟩
      · have receiving : Receiving conn (received ++ bytes) :=
          .tail known (List.mem_append_left _ member) nonneg remain
        exact receiving.tracked _
      · intro unknown
        rw [known] at unknown
        cases unknown

theorem Receiving.asks (receiving : Receiving conn received) (positive : 0 < bufsiz)
    (asked : 1 ≤ call.size) (small : Small received call.answer) :
    (clientconnIsAllServerBufferRead conn = false →
      1 ≤ call.length bufsiz conn ∧ call.length bufsiz conn ≤ call.size) ∧
    (conn.serverBufferSizeKnown = false → call.length bufsiz conn ≤ bufsiz) := by
  cases receiving with
  | header unknown numeric value most =>
      have before := (small (newline_notMem numeric)).1
      rw [leadingDigits_self numeric] at before
      rw [length_header_call unknown value before asked]
      omega
  | tail known member nonneg remain =>
      rw [length_tail_call known nonneg remain asked]
      constructor
      · intro unread
        have more : conn.serverBufferSizeRemain ≠ 0 := by
          intro none
          simp [clientconnIsAllServerBufferRead, known, none] at unread
        omega
      · intro unknown
        rw [known] at unknown
        cases unknown

theorem computesHeader_known (known : conn.serverBufferSizeKnown = true)
    (bytes : List UInt8) : ComputesHeader conn bytes := by
  cases bytes with
  | nil => trivial
  | cons byte rest =>
      intro unknown
      rw [known] at unknown
      cases unknown

theorem Receiving.computes {bytes : List UInt8} (receiving : Receiving conn received)
    (small : Small received (.data bytes)) :
    (conn.serverBufferSizeKnown = false → Representable (conn.serverBufferSize + 1)) ∧
      ComputesHeader conn bytes := by
  cases receiving with
  | header unknown numeric value most =>
      obtain ⟨before, after⟩ := small (newline_notMem numeric)
      rw [leadingDigits_self numeric] at before
      rw [leadingDigits_append numeric] at after
      refine ⟨fun _ => ⟨by omega, by omega⟩, ?_⟩
      exact (computesHeader_iff bytes unknown value most).mpr after
  | tail known => exact ⟨by simp [known], computesHeader_known known bytes⟩

/-- One call is safe exactly when the digits received before and with it denote
numbers that are small enough. -/
theorem Receiving.safeCall_iff (receiving : Receiving conn received)
    (positive : 0 < bufsiz) (asked : 1 ≤ call.size) (bounded : call.size ≤ bufsiz)
    (answered : ∀ bytes, call.answer = .data bytes →
      bytes ≠ [] ∧ bytes.length ≤ call.length bufsiz conn) :
    SafeCall bufsiz conn call ↔ Small received call.answer := by
  constructor
  · intro safe fresh
    cases receiving with
    | header unknown numeric value most =>
        have next := (safe.next unknown).2
        rw [leadingDigits_self numeric, leadingDigits_append numeric]
        refine ⟨by omega, ?_⟩
        rcases data_or_empty call.answer with ⟨bytes, data⟩ | empty
        · rw [data]
          exact (computesHeader_iff bytes unknown value most).mp (safe.header bytes data)
        · simpa [(bytes_of_empty empty).1, leadingDigits] using most
    | tail known member => exact absurd member fresh
  · intro small
    obtain ⟨asks, asksHeader⟩ := receiving.asks positive asked small
    obtain ⟨size, answer, unset⟩ := call
    have next := (@Receiving.computes conn received answer.bytes receiving small).1
    rcases data_or_empty answer with ⟨bytes, rfl⟩ | empty
    · obtain ⟨nonempty, fits⟩ := answered bytes rfl
      obtain ⟨result, ran, _, copies⟩ :=
        receiving.run_data asked bounded unset nonempty fits small
      refine ⟨next, ?_, asks, asksHeader, ?_, ⟨result, ran⟩⟩
      · rintro _ ⟨⟩
        exact (receiving.computes small).2
      · rintro _ unknown ⟨⟩
        exact copies unknown
    · obtain ⟨result, ran, _⟩ := @Receiving.run_empty bufsiz _ _ _ receiving asked empty
      exact ⟨next, fun bytes same => absurd same (empty bytes), asks, asksHeader,
        fun bytes _ same => absurd same (empty bytes), ⟨result, ran⟩⟩

theorem Receiving.next {result : Received × ClientConn} (receiving : Receiving conn received)
    (asked : 1 ≤ call.size) (bounded : call.size ≤ bufsiz)
    (answered : ∀ bytes, call.answer = .data bytes →
      bytes ≠ [] ∧ bytes.length ≤ call.length bufsiz conn)
    (small : Small received call.answer) (ran : call.run bufsiz conn = .ok result) :
    clientconnEof result.2 = true ∨ Receiving result.2 (received ++ call.answer.bytes) := by
  obtain ⟨size, answer, unset⟩ := call
  rcases data_or_empty answer with ⟨bytes, rfl⟩ | empty
  · obtain ⟨nonempty, fits⟩ := answered bytes rfl
    obtain ⟨result', ran', ended, _⟩ :=
      receiving.run_data asked bounded unset nonempty fits small
    rw [ran, Except.ok.injEq] at ran'
    exact ran' ▸ ended
  · obtain ⟨result', ran', receiving'⟩ := @Receiving.run_empty bufsiz _ _ _ receiving asked empty
    rw [ran, Except.ok.injEq] at ran'
    exact .inr (ran' ▸ receiving')

end Call

/-! ## All calls on a connection -/

theorem Receiving.safeCalls {bufsiz : Nat} {conn : ClientConn} {received : List UInt8}
    {calls : List BufferCall} (receiving : Receiving conn received) (positive : 0 < bufsiz)
    (connected : Connected bufsiz conn calls) :
    SafeCalls bufsiz conn calls ↔ SmallHeader received calls := by
  induction calls generalizing conn received with
  | nil => exact Iff.rfl
  | cons call calls ih =>
      obtain ⟨_, asked, bounded, answered, connected⟩ := connected
      have first := receiving.safeCall_iff positive asked bounded answered
      have later : Small received call.answer →
          ((∀ result, call.run bufsiz conn = .ok result → SafeCalls bufsiz result.2 calls) ↔
            SmallHeader (received ++ call.answer.bytes) calls) := by
        intro small
        obtain ⟨result, ran⟩ := (first.mpr small).returns
        have remaining : (∀ result, call.run bufsiz conn = .ok result →
            SafeCalls bufsiz result.2 calls) ↔ SafeCalls bufsiz result.2 calls := by
          simp [ran]
        rw [remaining]
        rcases receiving.next asked bounded answered small ran with closed | receiving'
        · -- Nothing is called on a connection that was closed.
          cases calls with
          | nil => exact Iff.rfl
          | cons call calls =>
              have opened := (connected result ran).1
              rw [closed] at opened
              cases opened
        · exact ih receiving' (connected result ran)
      constructor
      · rintro ⟨safe, rest⟩
        have small := first.mp safe
        exact ⟨small, (later small).mp rest⟩
      · rintro ⟨small, rest⟩
        exact ⟨first.mpr small, (later small).mpr rest⟩

/-- Whatever a peer sends and however it is cut: all calls on the connection are safe
exactly when the header it sends stays small enough. -/
theorem safeCalls_iff (bufsiz : Nat) (positive : 0 < bufsiz) (conn : ClientConn)
    (closed : conn.clientUnixSock = invalidSocket) (opened : Int) (calls : List BufferCall)
    (connected : Connected bufsiz (clientconnConnect conn opened).2 calls) :
    SafeCalls bufsiz (clientconnConnect conn opened).2 calls ↔ SmallHeader [] calls := by
  have reset := clientconnConnect_of_eof (decide_eq_true closed) opened
  rw [reset] at connected ⊢
  have receiving : Receiving { clientUnixSock := opened, closes := conn.closes } [] :=
    .header rfl (fun byte member => by cases member) rfl (by decide)
  exact receiving.safeCalls positive connected

instance decidableConnected (bufsiz : Nat) : (conn : ClientConn) → (calls : List BufferCall) →
    Decidable (Connected bufsiz conn calls)
  | _, [] => isTrue trivial
  | conn, call :: calls =>
      have : Decidable (∀ bytes, call.answer = .data bytes →
          bytes ≠ [] ∧ bytes.length ≤ call.length bufsiz conn) :=
        match call.answer with
        | .data bytes => decidable_of_iff
            (bytes ≠ [] ∧ bytes.length ≤ call.length bufsiz conn) (by simp)
        | .eof => isTrue (by simp)
        | .failed _ => isTrue (by simp)
      have : Decidable (∀ result, call.run bufsiz conn = .ok result →
          Connected bufsiz result.2 calls) :=
        match call.run bufsiz conn with
        | .ok result =>
            have := decidableConnected bufsiz result.2 calls
            decidable_of_iff (Connected bufsiz result.2 calls) (by simp)
        | .error _ => isTrue (by simp)
      inferInstanceAs (Decidable (_ ∧ _ ∧ _ ∧ _ ∧ _))

/-- The digits of the largest `ssize_t`, and then another read. -/
def largestHeader : List BufferCall :=
  [⟨32, .data [57], 0⟩, ⟨32, .data [50, 50, 51, 51, 55, 50, 48, 51, 54, 56], 0⟩,
    ⟨32, .data [53, 52, 55, 55, 53, 56, 48, 55], 0⟩, ⟨32, .data [10], 0⟩]

theorem safeCalls_iff_of_largestHeader :
    SafeCalls 32 (clientconnConnect {} 3).2 largestHeader ↔ SmallHeader [] largestHeader :=
  safeCalls_iff 32 (by decide) {} rfl 3 largestHeader (by decide)

/-- The length of the last read has wrapped. -/
theorem not_safeCalls_of_largestHeader :
    ¬ ∀ (bufsiz : Nat) (opened : Int) (calls : List BufferCall), 0 < bufsiz →
      Connected bufsiz (clientconnConnect {} opened).2 calls →
      SafeCalls bufsiz (clientconnConnect {} opened).2 calls := by
  intro promise
  have safe := promise 32 3 largestHeader (by decide) (by decide)
  obtain ⟨_, later⟩ := safe
  obtain ⟨_, later⟩ := later _ rfl
  obtain ⟨_, later⟩ := later _ rfl
  obtain ⟨last, _⟩ := later _ rfl
  have representable := (last.next rfl).2
  revert representable
  decide

end Tailserver.Client
