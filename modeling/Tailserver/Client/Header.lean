import Tailserver.Client.HostilePeer

/-! The header in front of the tail. It is parsed digit by digit over any number of
reads, and the only guard against too large a number is a test of the sign of what
the number has wrapped to. -/

set_option autoImplicit false

namespace Tailserver.Client

open CMemory Buffer

/-- The pieces of a stream go to `parse_server_buffer_size` one after another. An error
stops all further communication. -/
def parsePieces (conn : ClientConn) : List (List UInt8) → List UInt8 × ClientConn
  | [] => ([], conn)
  | piece :: pieces =>
      if clientconnEof conn then ([], conn)
      else
        let (tailData, conn) := parseServerBufferSize conn piece
        let (more, conn) := parsePieces conn pieces
        (tailData ++ more, conn)

/-- What is to come of a stream that was fed to the parser. No digits denote 0. -/
structure Outcome (stream : List UInt8) (result : List UInt8 × ClientConn) : Prop where
  accepts : ∀ rest, Decimal.value (leadingDigits stream) ≤ Word.signedMax →
    stream = leadingDigits stream ++ newline :: rest →
    result.2.serverBufferSizeKnown = true ∧ clientconnEof result.2 = false ∧ result.1 = rest
  rejects : (Word.signedMax < Decimal.value (leadingDigits stream) ∨
      ∃ byte rest, byte ≠ newline ∧ stream = leadingDigits stream ++ byte :: rest) →
    result.2.serverBufferSizeKnown = false ∧ clientconnEof result.2 = true ∧ result.1 = []
  waits : Decimal.value (leadingDigits stream) ≤ Word.signedMax →
    stream = leadingDigits stream →
    result.2.serverBufferSizeKnown = false ∧ clientconnEof result.2 = false ∧ result.1 = []
  exact : result.2.serverBufferSizeKnown = true →
    result.2.serverBufferSize = Decimal.value (leadingDigits stream) ∧
    result.2.serverBufferSizeRemain = Decimal.value (leadingDigits stream)

/-- The parser treats a stream as it should, however it is cut and however many of the
pieces have arrived. -/
structure ParsesHeader (conn : ClientConn) (stream : List UInt8) : Prop where
  outcome : ∀ pieces : List (List UInt8), (∀ piece ∈ pieces, piece ≠ []) →
    pieces.flatten = stream → ∀ count,
    Outcome (pieces.take count).flatten (parsePieces conn (pieces.take count))
  independent : ∀ pieces others : List (List UInt8), pieces.flatten = stream → others.flatten = stream →
    parsePieces conn pieces = parsePieces conn others

/-- The first number beyond the largest `ssize_t` that the digits come to wraps to a
negative one. -/
def WrapsNegative (digits : List UInt8) : Prop :=
  ∀ before digit, before ++ [digit] <+: digits →
    Decimal.value before ≤ Word.signedMax →
    Word.signedMax < Decimal.value (before ++ [digit]) →
    2 ^ 63 ≤ Decimal.value (before ++ [digit]) % 2 ^ 64

/-! ## Pieces -/

theorem parseServerBufferSize_error {conn : ClientConn} {byte : UInt8}
    (unknown : conn.serverBufferSizeKnown = false) (bad : Decimal.isDigit byte = false)
    (different : byte ≠ newline) (rest : List UInt8) :
    parseServerBufferSize conn (byte :: rest) = onParseError conn := by
  simp [parseServerBufferSize, unknown, bad, different]

theorem parseServerBufferSize_negative {conn : ClientConn} {byte : UInt8}
    (unknown : conn.serverBufferSizeKnown = false) (numeric : Decimal.isDigit byte = true)
    (negative : Word.signed (nextSize conn byte) < 0) (rest : List UInt8) :
    parseServerBufferSize conn (byte :: rest) = onParseError { conn with
      serverBufferSize := Word.signed (nextSize conn byte) } := by
  simp [parseServerBufferSize, unknown, numeric, negative]

/-- Parsing goes on where it stopped, unless the connection was dropped. -/
theorem parseServerBufferSize_append {conn : ClientConn}
    (opened : clientconnEof conn = false) (piece rest : List UInt8) :
    parseServerBufferSize conn (piece ++ rest) =
      if clientconnEof (parseServerBufferSize conn piece).2 then
        parseServerBufferSize conn piece
      else
        ((parseServerBufferSize conn piece).1 ++
          (parseServerBufferSize (parseServerBufferSize conn piece).2 rest).1,
        (parseServerBufferSize (parseServerBufferSize conn piece).2 rest).2) := by
  induction piece generalizing conn with
  | nil => simp [parseServerBufferSize, opened]
  | cons byte piece ih =>
      rw [List.cons_append]
      cases known : conn.serverBufferSizeKnown with
      | true => simp [parseServerBufferSize_known known, opened]
      | false =>
          cases numeric : Decimal.isDigit byte with
          | true =>
              by_cases negative : Word.signed (nextSize conn byte) < 0
              · simp [parseServerBufferSize_negative known numeric negative, onParseError]
              · rw [parseServerBufferSize_digit known numeric (by omega),
                  parseServerBufferSize_digit known numeric (by omega)]
                exact ih opened
          | false =>
              by_cases ends : byte = newline
              · rw [ends, parseServerBufferSize_newline known, parseServerBufferSize_newline known]
                simp [parseServerBufferSize_known, clientconnEof] at opened ⊢
                simp [opened]
              · simp [parseServerBufferSize_error known numeric ends, onParseError]

/-- The cuts make no difference. -/
theorem parsePieces_eq {conn : ClientConn} (opened : clientconnEof conn = false)
    (pieces : List (List UInt8)) :
    parsePieces conn pieces = parseServerBufferSize conn pieces.flatten := by
  induction pieces generalizing conn with
  | nil => rfl
  | cons piece pieces ih =>
      rw [List.flatten_cons, parseServerBufferSize_append opened]
      cases dropped : clientconnEof (parseServerBufferSize conn piece).2 with
      | false => simp [parsePieces, opened, ih dropped]
      | true =>
          have stopped : parsePieces (parseServerBufferSize conn piece).2 pieces =
              ([], (parseServerBufferSize conn piece).2) := by
            cases pieces <;> simp [parsePieces, dropped]
          simp [parsePieces, opened, stopped]

/-! ## The outcome -/

section Outcome

variable {stream : List UInt8} {result : List UInt8 × ClientConn}

theorem leadingDigits_append_cons {digits : List UInt8} {byte : UInt8}
    (numeric : ∀ byte ∈ digits, Decimal.isDigit byte = true)
    (bad : Decimal.isDigit byte = false) (rest : List UInt8) :
    leadingDigits (digits ++ byte :: rest) = digits := by
  rw [leadingDigits_append numeric]
  simp [leadingDigits, bad]

theorem Outcome.waiting (small : Decimal.value (leadingDigits stream) ≤ Word.signedMax)
    (whole : stream = leadingDigits stream) (unknown : result.2.serverBufferSizeKnown = false)
    (opened : clientconnEof result.2 = false) (nothing : result.1 = []) :
    Outcome stream result := by
  refine ⟨fun rest _ same => ?_, ?_, fun _ _ => ⟨unknown, opened, nothing⟩, fun known => ?_⟩
  · rw [← whole] at same
    simp at same
  · rintro (large | ⟨byte, rest, _, same⟩)
    · omega
    · rw [← whole] at same
      simp at same
  · rw [unknown] at known
    cases known

theorem Outcome.rejected
    (wrong : Word.signedMax < Decimal.value (leadingDigits stream) ∨
      ∃ byte rest, byte ≠ newline ∧ stream = leadingDigits stream ++ byte :: rest)
    (unknown : result.2.serverBufferSizeKnown = false)
    (dropped : clientconnEof result.2 = true) (junk : result.1 = []) :
    Outcome stream result := by
  refine ⟨fun rest small same => ?_, fun _ => ⟨unknown, dropped, junk⟩, fun small whole => ?_,
    fun known => ?_⟩
  · rcases wrong with large | ⟨byte, rest', different, same'⟩
    · omega
    · have behind := List.append_cancel_left (same.symm.trans same')
      exact absurd (List.cons.inj behind).1.symm different
  · rcases wrong with large | ⟨byte, rest, _, same⟩
    · omega
    · rw [← whole] at same
      simp at same
  · rw [unknown] at known
    cases known

theorem Outcome.accepted {rest : List UInt8}
    (small : Decimal.value (leadingDigits stream) ≤ Word.signedMax)
    (split : stream = leadingDigits stream ++ newline :: rest)
    (known : result.2.serverBufferSizeKnown = true) (opened : clientconnEof result.2 = false)
    (behind : result.1 = rest)
    (size : result.2.serverBufferSize = Decimal.value (leadingDigits stream))
    (remain : result.2.serverBufferSizeRemain = Decimal.value (leadingDigits stream)) :
    Outcome stream result := by
  refine ⟨fun rest' _ same => ?_, ?_, fun _ whole => ?_, fun _ => ⟨size, remain⟩⟩
  · have same' := List.append_cancel_left (split.symm.trans same)
    exact ⟨known, opened, behind.trans (List.cons.inj same').2⟩
  · rintro (large | ⟨byte, rest', different, same⟩)
    · omega
    · have same' := List.append_cancel_left (split.symm.trans same)
      exact absurd (List.cons.inj same').1.symm different
  · rw [← whole] at split
    simp at split

/-- As long as every overflow shows in the sign, the parser does as it should. -/
theorem parseServerBufferSize_outcome {conn : ClientConn} {digits : List UInt8}
    (bytes : List UInt8) (unknown : conn.serverBufferSizeKnown = false)
    (opened : clientconnEof conn = false)
    (numeric : ∀ byte ∈ digits, Decimal.isDigit byte = true)
    (size : conn.serverBufferSize = Decimal.value digits)
    (small : Decimal.value digits ≤ Word.signedMax)
    (wraps : WrapsNegative (digits ++ leadingDigits bytes)) :
    Outcome (digits ++ bytes) (parseServerBufferSize conn bytes) := by
  induction bytes generalizing conn digits with
  | nil =>
      have whole := leadingDigits_self numeric
      rw [List.append_nil]
      exact .waiting (by rw [whole]; exact small) whole.symm unknown opened rfl
  | cons byte rest ih =>
      cases digit : Decimal.isDigit byte with
      | true =>
          have next := nextSize_eq size byte
          have joined : digits ++ byte :: rest = digits ++ [byte] ++ rest := by simp
          have split : digits ++ leadingDigits (byte :: rest) =
              digits ++ [byte] ++ leadingDigits rest := by
            simp [leadingDigits, digit]
          have numeric' : ∀ other ∈ digits ++ [byte], Decimal.isDigit other = true := by
            intro other member
            rcases List.mem_append.mp member with old | new
            · exact numeric other old
            · rw [List.mem_singleton.mp new]
              exact digit
          rw [split] at wraps
          rw [joined]
          by_cases fits : Decimal.value (digits ++ [byte]) ≤ Word.signedMax
          · have same : Word.signed (nextSize conn byte) = Decimal.value (digits ++ [byte]) := by
              rw [next]
              exact Word.signed_of_le (Int.natCast_nonneg _) fits
            rw [parseServerBufferSize_digit unknown digit (by omega), same]
            exact @ih { conn with serverBufferSize := Decimal.value (digits ++ [byte]) }
              (digits ++ [byte]) unknown opened numeric' rfl fits wraps
          · have negative : Word.signed (nextSize conn byte) < 0 := by
              rw [next, Word.signed_neg_iff]
              exact wraps digits byte (List.prefix_append _ _) small (by omega)
            have grows := Decimal.value_le_append (digits ++ [byte]) (leadingDigits rest)
            have large : Word.signedMax <
                Decimal.value (leadingDigits (digits ++ [byte] ++ rest)) := by
              rw [leadingDigits_append numeric']
              omega
            rw [parseServerBufferSize_negative unknown digit negative]
            exact .rejected (.inl large) (by simpa [onParseError] using unknown)
              (by simp [onParseError]) rfl
      | false =>
          have leading := leadingDigits_append_cons numeric digit rest
          by_cases ends : byte = newline
          · subst ends
            rw [parseServerBufferSize_newline unknown]
            exact .accepted (by rw [leading]; exact small) (by rw [leading]) rfl opened rfl
              (by rw [leading]; exact size) (by rw [leading]; exact size)
          · rw [parseServerBufferSize_error unknown digit ends]
            exact .rejected (.inr ⟨byte, rest, ends, by rw [leading]⟩)
              (by simpa [onParseError] using unknown) (by simp [onParseError]) rfl

end Outcome

/-! ## When it parses -/

theorem WrapsNegative.mono {digits more : List UInt8} (wraps : WrapsNegative more)
    (isPrefix : digits <+: more) : WrapsNegative digits :=
  fun before digit within => wraps before digit (within.trans isPrefix)

theorem leadingDigits_mono {bytes stream : List UInt8} (isPrefix : bytes <+: stream) :
    leadingDigits bytes <+: leadingDigits stream := by
  obtain ⟨rest, rfl⟩ := isPrefix
  unfold leadingDigits
  rw [List.takeWhile_append]
  split
  · next all =>
      have whole := (List.takeWhile_prefix Decimal.isDigit).eq_of_length all
      rw [whole]
      exact List.prefix_append _ _
  · exact List.prefix_rfl

theorem isDigit_of_mem_leadingDigits {stream : List UInt8} {byte : UInt8}
    (member : byte ∈ leadingDigits stream) : Decimal.isDigit byte = true :=
  List.mem_takeWhile_imp member

/-- What has arrived after the first cut. -/
theorem ParsesHeader.beginning {conn : ClientConn} {stream bytes : List UInt8}
    (parses : ParsesHeader conn stream) (opened : clientconnEof conn = false)
    (nonempty : bytes ≠ []) (isPrefix : bytes <+: stream) :
    Outcome bytes (parseServerBufferSize conn bytes) := by
  obtain ⟨rest, rfl⟩ := isPrefix
  have cut : ∀ others : List (List UInt8), (∀ piece ∈ others, piece ≠ []) →
      others.flatten = rest → Outcome bytes (parseServerBufferSize conn bytes) := by
    intro others filled same
    have outcome := parses.outcome (bytes :: others)
      (fun piece member => by
        rcases List.mem_cons.mp member with rfl | later
        · exact nonempty
        · exact filled piece later)
      (by rw [List.flatten_cons, same]) 1
    rw [parsePieces_eq opened] at outcome
    simpa using outcome
  cases rest with
  | nil => exact cut [] (by simp) rfl
  | cons byte rest => exact cut [byte :: rest] (by simp) (by simp)

/-- The parser does as it should on a stream exactly when the number sent, if it is too
large, shows so in the sign as soon as it is. -/
theorem parsesHeader_iff (conn : ClientConn) (closed : conn.clientUnixSock = invalidSocket)
    (opened : Int) (valid : opened ≠ invalidSocket) (stream : List UInt8) :
    ParsesHeader (clientconnConnect conn opened).2 stream ↔
      WrapsNegative (leadingDigits stream) := by
  rw [clientconnConnect_of_eof (decide_eq_true closed) opened]
  have connected : clientconnEof
      ({ clientUnixSock := opened, closes := conn.closes } : ClientConn) = false :=
    decide_eq_false valid
  constructor
  · intro parses before digit within small large
    have isPrefix := within.trans (List.takeWhile_prefix Decimal.isDigit)
    have outcome := parses.beginning connected (by simp) isPrefix
    have numeric : ∀ byte ∈ before ++ [digit], Decimal.isDigit byte = true :=
      fun byte member => isDigit_of_mem_leadingDigits (within.subset member)
    rw [← Word.signed_neg_iff]
    by_contra nonneg
    -- The parser has added up the digits and stays connected.
    rw [@parseServerBufferSize_digits _ [] before rfl rfl
      (fun byte member => numeric byte (List.mem_append_left _ member)) small [digit]] at outcome
    have next : nextSize ⟨opened, false, Decimal.value before, 0, conn.closes⟩ digit =
        Decimal.value (before ++ [digit]) := nextSize_eq rfl digit
    rw [List.nil_append, parseServerBufferSize_digit rfl (numeric digit (by simp))
      (by rw [next]; omega)] at outcome
    have dropped := (outcome.rejects (.inl (by rw [leadingDigits_self numeric]; exact large))).2.1
    rw [parseServerBufferSize, clientconnEof] at dropped
    exact valid (of_decide_eq_true dropped)
  · intro wraps
    refine ⟨fun pieces _ same count => ?_, fun pieces others same same' => ?_⟩
    · rw [parsePieces_eq connected]
      have isPrefix : (pieces.take count).flatten <+: stream := by
        rw [← same]
        exact (List.take_prefix count pieces).flatten
      exact @parseServerBufferSize_outcome _ [] _ rfl connected (by simp) rfl (by decide)
        (wraps.mono (leadingDigits_mono isPrefix))
    · rw [parsePieces_eq connected, parsePieces_eq connected, same, same']

/-- The digits of 2^64. -/
def wrappedHeader : List UInt8 :=
  [49, 56, 52, 52, 54, 55, 52, 52, 48, 55, 51, 55, 48, 57, 53, 53, 49, 54, 49, 54]

theorem parsesHeader_iff_of_wrappedHeader :
    ParsesHeader (clientconnConnect {} 3).2 wrappedHeader ↔
      WrapsNegative (leadingDigits wrappedHeader) :=
  parsesHeader_iff {} rfl 3 (by decide) wrappedHeader

/-- They are taken for an empty tail. -/
theorem not_parsesHeader_of_wrappedHeader :
    ¬ ∀ stream, ParsesHeader (clientconnConnect {} 3).2 stream := by
  intro promise
  have outcome := (promise (wrappedHeader ++ [newline])).beginning rfl (by decide) List.prefix_rfl
  have size := (outcome.exact (by decide)).1
  revert size
  decide

end Tailserver.Client
