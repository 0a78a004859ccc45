import Tailserver.Client.Calls

/-! The decoder against what a server sends: the size of the tail, the tail, and
what follows. However the bytes arrive, the digits seen so far are a lower bound of
what is still to come, so no read of the tail goes past its end. -/

set_option autoImplicit false

namespace Tailserver.Client

open CMemory Buffer

/-- What a server sends ahead of its tail. -/
def header (tail : List UInt8) : List UInt8 := Decimal.decimal tail.length ++ [newline]

/-- The part of the tail among the bytes taken off a connection. -/
def tailPart (tail taken : List UInt8) : List UInt8 :=
  (taken.drop (header tail).length).take tail.length

/-- The part behind the tail. -/
def followPart (tail taken : List UInt8) : List UInt8 :=
  taken.drop (header tail ++ tail).length

/-- The header and the whole tail are among the bytes taken off a connection. -/
def whole (tail taken : List UInt8) : Bool := header tail ++ tail <+: taken

/-- Where the decoder is after the bytes `taken`. -/
inductive Decoding (tail : List UInt8) (conn : ClientConn) : List UInt8 → Prop where
  | inHeader {digits : List UInt8} :
      digits <+: Decimal.decimal tail.length →
      conn.serverBufferSizeKnown = false →
      conn.serverBufferSize = Decimal.value digits →
      Decoding tail conn digits
  | inTail {received rest : List UInt8} :
      tail = received ++ rest → rest ≠ [] →
      conn.serverBufferSizeKnown = true →
      conn.serverBufferSizeRemain = rest.length →
      Decoding tail conn (header tail ++ received)
  | inFollow {followed : List UInt8} :
      conn.serverBufferSizeKnown = true →
      conn.serverBufferSizeRemain = 0 →
      Decoding tail conn (header tail ++ tail ++ followed)

/-! ## Parts of what a server sends -/

theorem length_header (tail : List UInt8) :
    (header tail).length = (Decimal.decimal tail.length).length + 1 := by
  simp [header]

theorem tailPart_of_digits {tail digits : List UInt8}
    (isPrefix : digits <+: Decimal.decimal tail.length) : tailPart tail digits = [] := by
  have shorter := isPrefix.length_le
  rw [tailPart, List.drop_of_length_le (by rw [length_header]; omega), List.take_nil]

theorem tailPart_header_append {tail received rest : List UInt8}
    (split : tail = received ++ rest) : tailPart tail (header tail ++ received) = received := by
  rw [tailPart, List.drop_left]
  apply List.take_of_length_le
  simp [split]

theorem tailPart_whole (tail followed : List UInt8) :
    tailPart tail (header tail ++ tail ++ followed) = tail := by
  rw [tailPart, List.append_assoc, List.drop_left, List.take_left]

theorem followPart_whole (tail followed : List UInt8) :
    followPart tail (header tail ++ tail ++ followed) = followed :=
  List.drop_left

theorem followPart_of_le {tail taken : List UInt8}
    (shorter : taken.length ≤ (header tail ++ tail).length) : followPart tail taken = [] :=
  List.drop_of_length_le shorter

theorem whole_append {tail taken : List UInt8} (finished : whole tail taken = true)
    (bytes : List UInt8) : whole tail (taken ++ bytes) = true := by
  rw [whole, decide_eq_true_iff] at finished ⊢
  exact finished.trans (List.prefix_append _ _)

theorem tailPart_of_whole {tail taken : List UInt8} (finished : whole tail taken = true) :
    tailPart tail taken = tail := by
  rw [whole, decide_eq_true_iff] at finished
  obtain ⟨followed, rfl⟩ := finished
  exact tailPart_whole tail followed

theorem tailPart_append_of_whole {tail taken : List UInt8}
    (finished : whole tail taken = true) (bytes : List UInt8) :
    tailPart tail (taken ++ bytes) = tailPart tail taken := by
  rw [tailPart_of_whole finished, tailPart_of_whole (whole_append finished bytes)]

theorem value_le_of_prefix {tail digits : List UInt8}
    (isPrefix : digits <+: Decimal.decimal tail.length) :
    Decimal.value digits ≤ tail.length := by
  obtain ⟨more, whole⟩ := isPrefix
  calc Decimal.value digits
      ≤ Decimal.value (digits ++ more) := Decimal.value_le_append digits more
    _ = tail.length := by rw [whole, Decimal.value_decimal]

/-- A beginning of the header and what comes after it either stops in the digits or
goes past the newline. -/
theorem prefix_header_cases {tail digits bytes behind : List UInt8}
    (before : digits <+: Decimal.decimal tail.length)
    (isPrefix : digits ++ bytes <+: header tail ++ behind) :
    digits ++ bytes <+: Decimal.decimal tail.length ∨
      ∃ more rest, digits ++ more = Decimal.decimal tail.length ∧
        bytes = more ++ newline :: rest ∧ rest <+: behind := by
  obtain ⟨more, whole⟩ := before
  have arranged : header tail ++ behind = digits ++ (more ++ newline :: behind) := by
    rw [header, ← whole]
    simp
  rw [arranged, List.prefix_append_right_inj] at isPrefix
  rcases List.prefix_or_prefix_of_prefix isPrefix (List.prefix_append more _) with
    inside | ⟨past, rfl⟩
  · left
    rw [← whole]
    exact (List.prefix_append_right_inj digits).mpr inside
  · rw [List.prefix_append_right_inj] at isPrefix
    cases past with
    | nil =>
        left
        rw [List.append_nil, whole]
    | cons byte rest =>
        obtain ⟨rfl, behindPrefix⟩ := List.cons_prefix_cons.mp isPrefix
        exact .inr ⟨more, rest, whole, rfl, behindPrefix⟩

/-! ## Reading the tail -/

section Decoding

variable {tail taken : List UInt8} {conn : ClientConn}

/-- All is read exactly when the header and the tail are. -/
theorem Decoding.all_read_iff (decoding : Decoding tail conn taken) :
    clientconnIsAllServerBufferRead conn = true ↔ header tail ++ tail <+: taken := by
  cases decoding with
  | inHeader isPrefix unknown =>
      have shorter := isPrefix.length_le
      constructor
      · intro all
        simp [clientconnIsAllServerBufferRead, unknown] at all
      · intro whole
        have longer := whole.length_le
        rw [List.length_append, length_header] at longer
        omega
  | @inTail received rest split more known remain =>
      constructor
      · intro all
        simp [clientconnIsAllServerBufferRead, known, remain, more] at all
      · intro whole
        have longer := whole.length_le
        have positive := List.length_pos_iff.mpr more
        have length := congrArg List.length split
        rw [List.length_append] at length
        simp only [List.length_append] at longer
        omega
  | inFollow known remain =>
      constructor
      · intro _
        exact List.prefix_append _ _
      · intro _
        simp [clientconnIsAllServerBufferRead, known, remain]

theorem Decoding.all_read_eq (decoding : Decoding tail conn taken) :
    clientconnIsAllServerBufferRead conn = whole tail taken := by
  rw [Bool.eq_iff_iff, decoding.all_read_iff]
  simp [whole]

/-- The decoder is at the end of the header. -/
theorem Decoding.of_remain {received rest : List UInt8} (split : tail = received ++ rest)
    (known : conn.serverBufferSizeKnown = true)
    (remain : conn.serverBufferSizeRemain = rest.length) :
    Decoding tail conn (header tail ++ received) := by
  cases rest with
  | nil =>
      rw [List.append_nil] at split
      subst split
      have whole : header tail ++ tail = header tail ++ tail ++ [] := by simp
      rw [whole]
      exact .inFollow known remain
  | cons byte rest => exact .inTail split (by simp) known remain

theorem Decoding.congr {conn' : ClientConn} (decoding : Decoding tail conn taken)
    (known : conn'.serverBufferSizeKnown = conn.serverBufferSizeKnown)
    (size : conn'.serverBufferSize = conn.serverBufferSize)
    (remain : conn'.serverBufferSizeKnown = true →
      conn'.serverBufferSizeRemain = conn.serverBufferSizeRemain) :
    Decoding tail conn' taken := by
  cases decoding with
  | inHeader isPrefix unknown value =>
      exact .inHeader isPrefix (known.trans unknown) (size.trans value)
  | inTail split more known' left =>
      have holds := known.trans known'
      exact .inTail split more holds ((remain holds).trans left)
  | inFollow known' left =>
      have holds := known.trans known'
      exact .inFollow holds ((remain holds).trans left)

theorem Decoding.remain_bounds (decoding : Decoding tail conn taken)
    (known : conn.serverBufferSizeKnown = true) (small : tail.length < Word.signedMax) :
    0 ≤ conn.serverBufferSizeRemain ∧ conn.serverBufferSizeRemain ≤ Word.signedMax := by
  cases decoding with
  | inHeader isPrefix unknown =>
      rw [known] at unknown
      cases unknown
  | inTail split more known remain =>
      have length := congrArg List.length split
      rw [List.length_append] at length
      omega
  | inFollow known remain =>
      omega

/-- What the decoder asks of `read` while it has not read all. -/
theorem Decoding.requested_bounds (decoding : Decoding tail conn taken)
    (unread : clientconnIsAllServerBufferRead conn = false)
    (small : tail.length < Word.signedMax) {bufsiz : Nat} (room : 0 < bufsiz) {size : Int}
    (asked : 1 ≤ size) :
    1 ≤ requested bufsiz conn size ∧ requested bufsiz conn size ≤ size := by
  cases decoding with
  | inHeader isPrefix unknown value =>
      have bound := value_le_of_prefix isPrefix
      rw [requested_unknown unknown (by omega) (by omega)]
      omega
  | inTail split more known remain =>
      have positive := List.length_pos_iff.mpr more
      rw [requested_known known]
      omega
  | inFollow known remain =>
      simp [clientconnIsAllServerBufferRead, known, remain] at unread

/-- Bytes in the header: digits only, or the end of the header and a beginning of
the tail. -/
theorem Decoding.parseServerBufferSize {follow digits bytes : List UInt8}
    (before : digits <+: Decimal.decimal tail.length)
    (unknown : conn.serverBufferSizeKnown = false)
    (value : conn.serverBufferSize = Decimal.value digits)
    (small : tail.length < Word.signedMax)
    (isPrefix : digits ++ bytes <+: header tail ++ tail ++ follow)
    (bounded : bytes.length ≤ Decimal.value digits + 1) :
    ∃ stored conn', Client.parseServerBufferSize conn bytes = (stored, conn') ∧
      Decoding tail (trackServerBufferSize conn' stored.length) (digits ++ bytes) ∧
      tailPart tail (digits ++ bytes) = stored ∧
      digits ++ bytes <+: header tail ++ tail ∧
      stored.length ≤ bytes.length ∧ conn'.clientUnixSock = conn.clientUnixSock := by
  have bound := value_le_of_prefix before
  rw [List.append_assoc] at isPrefix
  rcases prefix_header_cases before isPrefix with inside | ⟨more, rest, whole, rfl, behind⟩
  · have value_le := value_le_of_prefix inside
    have numeric : ∀ byte ∈ bytes, Decimal.isDigit byte = true := fun byte member =>
      Decimal.isDigit_of_mem_decimal (inside.subset (List.mem_append_right _ member))
    have parsed := parseServerBufferSize_digits unknown value numeric (by omega) []
    rw [List.append_nil] at parsed
    refine ⟨[], _, parsed, ?_, tailPart_of_digits inside, ?_, Nat.zero_le _, rfl⟩
    · exact .inHeader inside (by simpa using unknown) (by simp)
    · exact inside.trans ((List.prefix_append _ _).trans (List.prefix_append _ _))
  · have numeric : ∀ byte ∈ more, Decimal.isDigit byte = true := fun byte member =>
      Decimal.isDigit_of_mem_decimal (whole ▸ List.mem_append_right _ member)
    have total : Decimal.value (digits ++ more) = tail.length := by
      rw [whole, Decimal.value_decimal]
    have parsed := parseServerBufferSize_digits unknown value numeric (by omega)
      (newline :: rest)
    have ended := @parseServerBufferSize_newline
      { conn with serverBufferSize := Decimal.value (digits ++ more) } unknown rest
    rw [ended, total] at parsed
    -- The newline was asked for, so at most the known size came after it.
    have short : rest.length ≤ tail.length := by
      simp only [List.length_append, List.length_cons] at bounded
      omega
    have inTail : rest <+: tail :=
      List.prefix_of_prefix_length_le behind (List.prefix_append _ _) short
    obtain ⟨later, split⟩ := inTail
    have length := congrArg List.length split
    rw [List.length_append] at length
    have joined : digits ++ (more ++ newline :: rest) = header tail ++ rest := by
      rw [header, ← whole]
      simp
    rw [joined]
    refine ⟨rest, _, parsed, ?_, tailPart_header_append split.symm, ?_, ?_, rfl⟩
    · refine Decoding.of_remain split.symm (by simp) ?_
      rw [trackServerBufferSize_remain (by omega) (by simp only; omega) (by simp only; omega)]
      simp only
      omega
    · rw [List.prefix_append_right_inj]
      exact ⟨later, split⟩
    · simp only [List.length_append, List.length_cons]
      omega

/-- Bytes that arrive bring the decoder on in what the server sends. -/
theorem Decoding.readServerBuffer_data {follow bytes : List UInt8} {bufsiz : Nat} {size : Int}
    (decoding : Decoding tail conn taken)
    (unread : clientconnIsAllServerBufferRead conn = false)
    (small : tail.length < Word.signedMax) (asked : 1 ≤ size) (nonempty : bytes ≠ [])
    (isPrefix : taken ++ bytes <+: header tail ++ tail ++ follow)
    (fits : bytes.length ≤ requested bufsiz conn size) (unset : Int) :
    ∃ stored conn',
      clientconnReadServerBuffer bufsiz conn size (.data bytes) unset =
        .ok ({ res := stored.length, stored }, conn') ∧
      Decoding tail conn' (taken ++ bytes) ∧
      tailPart tail (taken ++ bytes) = tailPart tail taken ++ stored ∧
      taken ++ bytes <+: header tail ++ tail ∧
      stored.length ≤ size ∧ conn'.clientUnixSock = conn.clientUnixSock := by
  cases decoding with
  | inHeader before unknown value =>
      have bound := value_le_of_prefix before
      rw [requested_unknown unknown (by omega) (by omega)] at fits
      obtain ⟨stored, conn', parsed, decoding', part, inside, shorter, socket⟩ :=
        Decoding.parseServerBufferSize before unknown value small isPrefix (by omega)
      refine ⟨stored, trackServerBufferSize conn' stored.length, ?_, decoding', ?_, inside,
        by omega, by simpa using socket⟩
      · exact Client.readServerBuffer_header unknown nonempty (by omega) parsed (by omega) asked unset
      · rw [part, tailPart_of_digits before, List.nil_append]
  | @inTail received rest split more known remain =>
      rw [requested_known known, remain] at fits
      have beginning : bytes <+: rest := by
        have ahead : header tail ++ tail ++ follow =
            header tail ++ received ++ (rest ++ follow) := by
          calc header tail ++ tail ++ follow
              = header tail ++ (received ++ rest) ++ follow := by rw [← split]
            _ = header tail ++ received ++ (rest ++ follow) := by simp
        rw [ahead, List.prefix_append_right_inj] at isPrefix
        exact List.prefix_of_prefix_length_le isPrefix (List.prefix_append _ _) (by omega)
      obtain ⟨later, rfl⟩ := beginning
      have regrouped : header tail ++ received ++ bytes =
          header tail ++ (received ++ bytes) := List.append_assoc _ _ _
      have split' : tail = received ++ bytes ++ later := by rw [split, List.append_assoc]
      have length := congrArg List.length split'
      simp only [List.length_append] at length remain
      refine ⟨bytes, trackServerBufferSize conn bytes.length, ?_, ?_, ?_, ?_, by omega, by simp⟩
      · exact Client.readServerBuffer_direct known unread nonempty (by omega) unset
      · rw [regrouped]
        refine Decoding.of_remain split' (by simpa using known) ?_
        rw [trackServerBufferSize_remain (by omega) (by omega) (by omega)]
        omega
      · rw [regrouped, tailPart_header_append split', tailPart_header_append split]
      · rw [regrouped, List.prefix_append_right_inj]
        exact ⟨later, split'.symm⟩
  | inFollow known remain =>
      simp [clientconnIsAllServerBufferRead, known, remain] at unread

/-- A read that ends or fails leaves the decoder where it is, whatever value the
unset variable holds. -/
theorem Decoding.readServerBuffer_empty {size : Int} (decoding : Decoding tail conn taken)
    (bufsiz : Nat) (answer : ReadAnswer)
    (unread : clientconnIsAllServerBufferRead conn = false)
    (small : tail.length < Word.signedMax) (asked : 1 ≤ size)
    (empty : ∀ bytes, answer ≠ .data bytes) (unset : Int) :
    ∃ conn', clientconnReadServerBuffer bufsiz conn size answer unset =
        .ok ({ res := answer.result, stored := [] }, conn') ∧
      Decoding tail conn' taken ∧
      conn'.clientUnixSock =
        if answer.result = 0 then invalidSocket else conn.clientUnixSock := by
  refine ⟨_, Client.readServerBuffer_empty bufsiz unread asked empty unset, ?_, by simp⟩
  refine decoding.congr (by simp) (by simp) fun known => ?_
  rw [trackServerBufferSize_known] at known
  rw [ended_known] at known
  have bounds := decoding.remain_bounds known small
  rw [if_pos known, trackServerBufferSize_remain (le_refl 0) (by simpa using bounds.1)
    (by simpa using bounds.2), ended_remain]
  exact Int.sub_zero _

/-- Behind the tail, bytes are passed on as they arrive. -/
theorem Decoding.readServerFollow_data {follow bytes : List UInt8} {size : Int}
    (decoding : Decoding tail conn taken)
    (all : clientconnIsAllServerBufferRead conn = true)
    (nonempty : bytes ≠ []) (fits : bytes.length ≤ size)
    (isPrefix : taken ++ bytes <+: header tail ++ tail ++ follow) :
    clientconnReadServerFollow conn size (.data bytes) =
        .ok ({ res := bytes.length, stored := bytes }, conn) ∧
      Decoding tail conn (taken ++ bytes) ∧
      followPart tail (taken ++ bytes) = followPart tail taken ++ bytes := by
  refine ⟨Client.readServerFollow_data all nonempty fits, ?_, ?_⟩
  · obtain ⟨known, remain⟩ := allServerBufferRead_iff.mp all
    obtain ⟨followed, rfl⟩ := decoding.all_read_iff.mp all
    rw [List.append_assoc]
    exact .inFollow known remain
  · obtain ⟨followed, rfl⟩ := decoding.all_read_iff.mp all
    rw [List.append_assoc, followPart_whole, followPart_whole]

end Decoding

end Tailserver.Client
