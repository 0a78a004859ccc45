import Tailserver.Client.Decoder
import Tailserver.Client.Output

/-! One run of `unix_sock_readable_cb` on what a server sends: the new bytes of the
tail go into the buffer, the tail is printed when it is complete, and what follows it
is passed on. -/

set_option autoImplicit false

namespace Tailserver.Client

open CMemory Buffer

variable {bufsiz : Nat}

/-! ## Reading into the tail buffer -/

/-- What happened to the buffer when `stored` was to be appended. -/
inductive Stores (config : Config) (buffer' : Buffer.State bufsiz)
    (fresh : Allocation (LineBuffer bufsiz)) (text : List UInt8) : Bool → Prop where
  | ready : Ready config buffer' text → Stores config buffer' fresh text false
  | exhausted : fresh = none → Exhausted config buffer' text →
      Stores config buffer' fresh text true

theorem Stores.bufferTail {config : Config} {buffer' : Buffer.State bufsiz}
    {fresh : Allocation (LineBuffer bufsiz)} {text : List UInt8} {error : Bool}
    (stores : Stores config buffer' fresh text error) :
    bufferTail buffer' = .ok (requiredTail config text) := by
  cases stores with
  | ready ready => exact ready.bufferTail
  | exhausted _ exhausted => exact exhausted.bufferTail

/-- With new bytes of the tail the branch is one append. -/
theorem receiveTail_append {options : Options} {s : State bufsiz} {answer : ReadAnswer}
    {unset : Int} {stored : List UInt8} {conn' : ClientConn}
    (fresh : Allocation (LineBuffer bufsiz)) (nonempty : stored ≠ [])
    (ran : clientconnReadServerBuffer bufsiz s.conn (bufferAvailableForAppend s.buffer) answer
      unset = .ok ({ res := stored.length, stored }, conn')) :
    receiveTail options s answer unset fresh =
      bufferAppend options.buffer s.buffer stored fresh >>= fun result =>
        .ok ((stored.length : Int), !result.1, { s with conn := conn', buffer := result.2 }) := by
  have positive : (stored.length : Int) > 0 :=
    Int.natCast_pos.mpr (List.length_pos_iff.mpr nonempty)
  simp only [receiveTail, ran, except_ok_bind, if_pos nonempty, if_pos positive, bufferAppend]
  cases placeBytes s.buffer (bufferEnd s.buffer) stored with
  | error fault => rfl
  | ok buffer => rfl

theorem receiveTail_idle (options : Options) {s : State bufsiz} {answer : ReadAnswer}
    {unset res : Int} {conn' : ClientConn} (fresh : Allocation (LineBuffer bufsiz))
    (nothing : ¬ res > 0)
    (ran : clientconnReadServerBuffer bufsiz s.conn (bufferAvailableForAppend s.buffer) answer
      unset = .ok ({ res, stored := [] }, conn')) :
    receiveTail options s answer unset fresh = .ok (res, false, { s with conn := conn' }) := by
  simp [receiveTail, ran, nothing, except_ok_bind, except_pure]

/-! ## Printing the tail -/

/-- The tail is printed once, when all is read, and without follow mode that ends the
connection. -/
theorem outputWhenAllRead_returns (options : Options) {s : State bufsiz}
    {shown : List UInt8} (offered : bufferTail s.buffer = .ok shown)
    (complete : Completes bufsiz s.answers) :
    Returns (outputWhenAllRead options s) fun result => result.1 = true ∧ ∃ answers,
      result.2 = { s with
        answers
        stdout := s.stdout ++
          if clientconnIsAllServerBufferRead s.conn && !s.tailOutput then shown else []
        tailOutput := s.tailOutput || clientconnIsAllServerBufferRead s.conn
        conn := if clientconnIsAllServerBufferRead s.conn && !options.follow then
            clientconnDisconnect s.conn
          else s.conn } := by
  cases all : clientconnIsAllServerBufferRead s.conn with
  | false =>
      simp only [outputWhenAllRead, all, Bool.false_eq_true, if_false, except_pure]
      exact ⟨rfl, s.answers, by simp⟩
  | true =>
      cases printed : s.tailOutput with
      | true =>
          simp only [outputWhenAllRead, all, printed, Bool.not_true, Bool.false_eq_true,
            if_false, if_true, except_ok_bind, except_pure]
          have same : s = { s with tailOutput := true } := by
            rw [← printed]
          refine ⟨rfl, s.answers, ?_⟩
          rw [same]
          cases options.follow <;> simp
      | false =>
          simp only [outputWhenAllRead, all, printed, Bool.not_false, if_true]
          have prints := outputBufferedTail_returns offered
          cases ran : outputBufferedTail s with
          | error fault =>
              rw [ran] at prints
              exact prints
          | ok result =>
              rw [ran] at prints
              obtain ⟨ok, s'⟩ := result
              obtain ⟨⟨part, answers, _, whole, same⟩, completes⟩ := prints
              have success := (completes complete).1
              simp only at success same whole
              subst success
              have all := whole rfl
              subst all
              subst same
              simp only [except_ok_bind, except_pure]
              refine ⟨rfl, answers, ?_⟩
              cases options.follow <;> simp

section Streaming

variable {options : Options} {s : State bufsiz} {tail follow taken text : List UInt8}

/-- The client is connected, has read `taken` off the connection and appended `text`
to its buffer. -/
structure Streaming (options : Options) (s : State bufsiz) (tail taken text : List UInt8) :
    Prop where
  decoding : Decoding tail s.conn taken
  opened : clientconnEof s.conn = false
  ready : Ready options.buffer s.buffer text
  output : clientconnIsAllServerBufferRead s.conn = true → s.tailOutput = true

/-- What a callback does that was answered `answer` and printed `printed`. -/
structure Reads (options : Options) (s : State bufsiz) (answer : ReadAnswer)
    (tail taken text printed : List UInt8) (result : Bool × State bufsiz) : Prop where
  decoding : Decoding tail result.2.conn taken
  ready : Ready options.buffer result.2.buffer text
  phase : result.2.phase = s.phase
  broken : result.2.broken = s.broken
  sent : result.2.sent = s.sent
  stdout : result.2.stdout = s.stdout ++ printed
  tailOutput : result.2.tailOutput =
    (s.tailOutput || whole tail taken)
  eof : clientconnEof result.2.conn =
    (answer.result = 0 || (whole tail taken && !options.follow))
  ended : result.1 = (clientconnEof result.2.conn || connectionError answer.result answer)

theorem Streaming.receiveTail_data {bytes : List UInt8}
    {fresh : Allocation (LineBuffer bufsiz)} (streaming : Streaming options s tail taken text)
    (room : 0 < bufsiz) (unread : clientconnIsAllServerBufferRead s.conn = false)
    (small : tail.length < Word.signedMax) (nonempty : bytes ≠ [])
    (isPrefix : taken ++ bytes <+: header tail ++ tail ++ follow)
    (fits : bytes.length ≤ readLength s) (sound : Allocates s.buffer fresh) (unset : Int) :
    ∃ stored conn' buffer' error,
      receiveTail options s (.data bytes) unset fresh =
        .ok (stored.length, error, { s with conn := conn', buffer := buffer' }) ∧
      Decoding tail conn' (taken ++ bytes) ∧
      clientconnEof conn' = false ∧
      tailPart tail (taken ++ bytes) = tailPart tail taken ++ stored ∧
      taken ++ bytes <+: header tail ++ tail ∧
      Stores options.buffer buffer' fresh (text ++ stored) error := by
  have limit : (bufsiz : Int) ≤ Word.signedMax :=
    Int.le_sub_one_of_lt (by exact_mod_cast streaming.ready.bufsiz_lt)
  have asked : (1 : Int) ≤ bufferAvailableForAppend s.buffer := by
    simp only [bufferAvailableForAppend]
    omega
  obtain ⟨least, most⟩ := streaming.decoding.requested_bounds unread small room asked
  have available : (bufferAvailableForAppend s.buffer : Int) = bufsiz := rfl
  rw [readLength, if_pos (by simp [unread]), Word.unsigned_of_le (by omega) (by omega)] at fits
  have asks : bytes.length ≤ requested bufsiz s.conn (bufferAvailableForAppend s.buffer) := by
    omega
  obtain ⟨stored, conn', ran, decoding', part, inside, shorter, socket⟩ :=
    streaming.decoding.readServerBuffer_data unread small asked nonempty isPrefix asks unset
  have opened : clientconnEof conn' = false := by
    have before := streaming.opened
    rw [clientconnEof] at before ⊢
    rw [socket]
    exact before
  by_cases none : stored = []
  · subst none
    refine ⟨[], conn', s.buffer, false, receiveTail_idle options fresh (by decide) ran, decoding',
      opened, part, inside, .ready ?_⟩
    rw [List.append_nil]
    exact streaming.ready
  · have appends := streaming.ready.append none (by omega) sound
    rw [receiveTail_append fresh none ran]
    generalize bufferAppend options.buffer s.buffer stored fresh = result at appends ⊢
    cases appends with
    | @ready buffer' ready =>
        exact ⟨stored, conn', buffer', false, rfl, decoding', opened, part, inside,
          .ready ready⟩
    | @exhausted buffer' missing exhausted =>
        exact ⟨stored, conn', buffer', true, rfl, decoding', opened, part, inside,
          .exhausted missing exhausted⟩

theorem Decoding.disconnect {conn : ClientConn} (decoding : Decoding tail conn taken) :
    Decoding tail (clientconnDisconnect conn) taken :=
  decoding.congr (by simp) (by simp) fun _ => by simp

/-- The end of a callback, after the read. -/
theorem Reads.of_received (options : Options) (s s₁ : State bufsiz) (answer : ReadAnswer)
    (res : Int) (passed : List UInt8) {taken' text' : List UInt8}
    (decoding : Decoding tail s₁.conn taken') (ready : Ready options.buffer s₁.buffer text')
    (eof : clientconnEof s₁.conn = decide (answer.result = 0))
    (phase : s₁.phase = s.phase) (broken : s₁.broken = s.broken) (sent : s₁.sent = s.sent)
    (stdout : s₁.stdout = s.stdout ++ passed) (tailOutput : s₁.tailOutput = s.tailOutput)
    (same : connectionError res answer = connectionError answer.result answer)
    (complete : Completes bufsiz s₁.answers) :
    Returns (do
        let (ok, s) ← outputWhenAllRead options s₁
        return (clientconnEof s.conn || (connectionError res answer || !ok), s))
      (Reads options s answer tail taken' text' (passed ++
        if whole tail taken' && !s.tailOutput then
          requiredTail options.buffer text' else [])) := by
  rw [← decoding.all_read_eq]
  apply (outputWhenAllRead_returns options ready.bufferTail complete).bind
  rintro ⟨ok, s₂⟩ ⟨success, answers, result⟩
  simp only at success result
  subst success
  subst result
  cases all : clientconnIsAllServerBufferRead s₁.conn with
  | false =>
      simp only [Bool.false_and, Bool.false_eq_true, if_false, List.append_nil, Bool.or_false,
        Bool.not_true, except_pure, Returns.ok_iff]
      refine ⟨decoding, ready, phase, broken, sent, stdout, ?_, ?_, ?_⟩
      · simp [← decoding.all_read_eq, all, tailOutput]
      · simpa [← decoding.all_read_eq, all] using eof
      · simp [same]
  | true =>
      simp only [Bool.true_and, Bool.or_true, Bool.not_true, Bool.or_false, except_pure,
        Returns.ok_iff]
      refine ⟨?_, ready, phase, broken, sent, ?_, ?_, ?_, ?_⟩
      · cases options.follow with
        | false => exact decoding.disconnect
        | true => exact decoding
      · simp [stdout, tailOutput]
      · simp [← decoding.all_read_eq, all]
      · cases options.follow <;> simp [← decoding.all_read_eq, all, eof]
      · simp [same]

variable {fresh : Allocation (LineBuffer bufsiz)}

theorem Streaming.readable_tail {bytes : List UInt8}
    (streaming : Streaming options s tail taken text)
    (room : 0 < bufsiz) (unread : clientconnIsAllServerBufferRead s.conn = false)
    (small : tail.length < Word.signedMax) (nonempty : bytes ≠ [])
    (isPrefix : taken ++ bytes <+: header tail ++ tail ++ follow)
    (fits : bytes.length ≤ readLength s) (sound : Allocates s.buffer fresh)
    (granted : fresh.isSome) (complete : Completes bufsiz s.answers) (unset : Int) :
    ∃ stored, tailPart tail (taken ++ bytes) = tailPart tail taken ++ stored ∧
      taken ++ bytes <+: header tail ++ tail ∧
      Returns (unixSockReadableCb options s (.data bytes) unset fresh) fun result =>
        Reads options s (.data bytes) tail (taken ++ bytes) (text ++ stored)
          (if whole tail (taken ++ bytes) && !s.tailOutput then
            requiredTail options.buffer (text ++ stored) else []) result := by
  obtain ⟨stored, conn', buffer', error, ran, decoding', opened, part, inside, stores⟩ :=
    streaming.receiveTail_data room unread small nonempty isPrefix fits sound unset
  refine ⟨stored, part, inside, ?_⟩
  cases stores with
  | exhausted missing => simp [missing] at granted
  | ready ready =>
      have eof : clientconnEof conn' = decide ((ReadAnswer.data bytes).result = 0) := by
        simp [opened, ReadAnswer.result, nonempty]
      simp only [unixSockReadableCb, unread, Bool.not_false, if_true, ran, except_ok_bind,
        Bool.false_or, Bool.or_assoc]
      exact Reads.of_received options s { s with conn := conn', buffer := buffer' } (.data bytes)
        stored.length [] decoding' ready eof rfl rfl rfl (List.append_nil _).symm rfl rfl
        complete

theorem Streaming.silent (streaming : Streaming options s tail taken text)
    (all : clientconnIsAllServerBufferRead s.conn = true) (taken' text' : List UInt8) :
    (if whole tail taken' && !s.tailOutput then requiredTail options.buffer text' else []) =
      [] := by
  simp [streaming.output all]

theorem Streaming.readable_follow {bytes : List UInt8}
    (streaming : Streaming options s tail taken text)
    (all : clientconnIsAllServerBufferRead s.conn = true) (nonempty : bytes ≠ [])
    (isPrefix : taken ++ bytes <+: header tail ++ tail ++ follow)
    (fits : bytes.length ≤ readLength s) (complete : Completes bufsiz s.answers) (unset : Int) :
    followPart tail (taken ++ bytes) = followPart tail taken ++ bytes ∧
      Returns (unixSockReadableCb options s (.data bytes) unset fresh)
        (Reads options s (.data bytes) tail (taken ++ bytes) text bytes) := by
  rw [readLength, if_neg (by simp [all])] at fits
  have fits' : (bytes.length : Int) ≤ bufsiz := by omega
  obtain ⟨ran, decoding', part⟩ :=
    streaming.decoding.readServerFollow_data all nonempty fits' isPrefix
  have positive : (bytes.length : Int) > 0 :=
    Int.natCast_pos.mpr (List.length_pos_iff.mpr nonempty)
  refine ⟨part, ?_⟩
  have eof : clientconnEof s.conn = decide ((ReadAnswer.data bytes).result = 0) := by
    simp [streaming.opened, ReadAnswer.result, nonempty]
  simp only [unixSockReadableCb, all, Bool.not_true, Bool.false_eq_true, if_false,
    receiveFollow, ran, except_ok_bind, if_pos positive, Int.toNat_natCast, List.take_length]
  have wrote := clientpipesWriteBlocking_returns { s with conn := s.conn }
    (show bytes.length ≤ bufsiz from fits)
  cases prints : clientpipesWriteBlocking { s with conn := s.conn } bytes with
  | error fault =>
      rw [prints] at wrote
      exact wrote
  | ok result =>
      rw [prints] at wrote
      obtain ⟨ok, s₁⟩ := result
      obtain ⟨⟨part', answers, _, whole, same⟩, completes⟩ := wrote
      obtain ⟨success, complete'⟩ := completes complete
      simp only at success same whole complete'
      subst success
      have every := (whole rfl).symm
      subst every
      subst same
      simp only [except_ok_bind, Bool.not_true, Bool.or_false, Bool.or_assoc]
      have finished := Reads.of_received options s
        { s with answers, stdout := s.stdout ++ bytes } (.data bytes) bytes.length bytes decoding'
        streaming.ready eof rfl rfl rfl rfl rfl rfl complete'
      rw [streaming.silent all, List.append_nil] at finished
      simpa using finished

theorem Streaming.eof_of_empty {answer : ReadAnswer} {conn' : ClientConn}
    (streaming : Streaming options s tail taken text)
    (socket : conn'.clientUnixSock =
      if answer.result = 0 then invalidSocket else s.conn.clientUnixSock) :
    clientconnEof conn' = decide (answer.result = 0) := by
  have opened := streaming.opened
  rw [clientconnEof] at opened ⊢
  rw [socket]
  split <;> simp_all

theorem Streaming.readable_empty {answer : ReadAnswer}
    (streaming : Streaming options s tail taken text)
    (room : 0 < bufsiz) (small : tail.length < Word.signedMax)
    (empty : ∀ bytes, answer ≠ .data bytes) (complete : Completes bufsiz s.answers)
    (unset : Int) :
    Returns (unixSockReadableCb options s answer unset fresh)
      (Reads options s answer tail taken text []) := by
  cases all : clientconnIsAllServerBufferRead s.conn with
  | false =>
      have asked : (1 : Int) ≤ bufferAvailableForAppend s.buffer := by
        simp only [bufferAvailableForAppend]
        omega
      obtain ⟨conn', ran, decoding', socket⟩ :=
        streaming.decoding.readServerBuffer_empty bufsiz answer all small asked empty unset
      have received := receiveTail_idle options fresh (bytes_of_empty empty).2.1 ran
      have eof := streaming.eof_of_empty socket
      simp only [unixSockReadableCb, all, Bool.not_false, if_true, received, except_ok_bind,
        Bool.false_or, Bool.or_assoc]
      have finished := Reads.of_received options s { s with conn := conn' } answer
        answer.result [] decoding' streaming.ready eof rfl rfl rfl (List.append_nil _).symm rfl
        rfl complete
      rw [← streaming.decoding.all_read_eq, all] at finished
      simpa using finished
  | true =>
      have asked : (1 : Int) ≤ bufsiz := by omega
      have ran := readServerFollow_empty all asked empty
      simp only [unixSockReadableCb, all, Bool.not_true, Bool.false_eq_true, if_false,
        receiveFollow, ran, except_ok_bind, if_neg (bytes_of_empty empty).2.1, except_pure,
        Bool.false_or, Bool.or_assoc]
      have decoding' : Decoding tail
          (if answer.result = 0 then clientconnDisconnect s.conn else s.conn) taken :=
        streaming.decoding.congr (by simp) (by simp) fun _ => by simp
      have finished := Reads.of_received options s { s with
          conn := if answer.result = 0 then clientconnDisconnect s.conn else s.conn }
        answer answer.result [] decoding' streaming.ready (streaming.eof_of_empty (by simp)) rfl
        rfl rfl (List.append_nil _).symm rfl rfl complete
      rw [streaming.silent all, List.append_nil] at finished
      simpa using finished

theorem Decoding.followPart_of_unread {conn : ClientConn} (decoding : Decoding tail conn taken)
    (unread : clientconnIsAllServerBufferRead conn = false) : followPart tail taken = [] := by
  cases decoding with
  | inHeader isPrefix unknown size =>
      apply followPart_of_le
      exact ((isPrefix.trans (List.prefix_append _ _)).trans (List.prefix_append _ _)).length_le
  | @inTail received rest split more known remain =>
      apply followPart_of_le
      have length := congrArg List.length split
      rw [List.length_append] at length
      simp only [List.length_append]
      omega
  | inFollow known remain => simp [clientconnIsAllServerBufferRead, known, remain] at unread

/-- Whatever `read` answers of what the server sends: the new part of the tail is
stored, what is behind the tail is passed on, and the tail is printed when it is
complete. -/
theorem Streaming.readable {answer : ReadAnswer} (streaming : Streaming options s tail taken text)
    (room : 0 < bufsiz) (small : tail.length < Word.signedMax)
    (arrives : ∀ bytes, answer = .data bytes → bytes ≠ [] ∧ bytes.length ≤ readLength s ∧
      taken ++ bytes <+: header tail ++ tail ++ follow)
    (sound : Allocates s.buffer fresh) (granted : fresh.isSome)
    (complete : Completes bufsiz s.answers) (unset : Int) :
    ∃ stored passed, tailPart tail (taken ++ answer.bytes) = tailPart tail taken ++ stored ∧
      followPart tail (taken ++ answer.bytes) = followPart tail taken ++ passed ∧
      (whole tail taken = false → followPart tail (taken ++ answer.bytes) = []) ∧
      Returns (unixSockReadableCb options s answer unset fresh)
        (Reads options s answer tail (taken ++ answer.bytes) (text ++ stored) (passed ++
          if whole tail (taken ++ answer.bytes) && !s.tailOutput then
            requiredTail options.buffer (text ++ stored) else [])) := by
  rw [← streaming.decoding.all_read_eq]
  rcases data_or_empty answer with ⟨bytes, rfl⟩ | empty
  · obtain ⟨nonempty, fits, isPrefix⟩ := arrives bytes rfl
    rw [ReadAnswer.bytes]
    cases all : clientconnIsAllServerBufferRead s.conn with
    | false =>
        obtain ⟨stored, part, inside, returns⟩ := streaming.readable_tail room all small nonempty
          isPrefix fits sound granted complete unset
        have before := streaming.decoding.followPart_of_unread all
        have after := followPart_of_le inside.length_le
        exact ⟨stored, [], part, by rw [before, after, List.append_nil], fun _ => after, returns⟩
    | true =>
        obtain ⟨part, returns⟩ :=
          streaming.readable_follow all nonempty isPrefix fits complete unset
        have finished : whole tail taken = true := by
          rw [← all, streaming.decoding.all_read_eq]
        refine ⟨[], bytes, ?_, part, by simp, ?_⟩
        · rw [tailPart_append_of_whole finished, List.append_nil]
        · rw [streaming.silent all, List.append_nil, List.append_nil]
          exact returns
  · have returns : Returns (unixSockReadableCb options s answer unset fresh) _ :=
      streaming.readable_empty room small empty complete unset
    rw [(bytes_of_empty empty).1, List.append_nil]
    refine ⟨[], [], (List.append_nil _).symm, (List.append_nil _).symm,
      streaming.decoding.followPart_of_unread, ?_⟩
    have silent : (if whole tail taken && !s.tailOutput then
        requiredTail options.buffer (text ++ []) else []) = [] := by
      cases all : clientconnIsAllServerBufferRead s.conn with
      | false => simp [← streaming.decoding.all_read_eq, all]
      | true => exact streaming.silent all taken _
    rw [silent, List.append_nil, List.append_nil]
    exact returns

end Streaming

/-! ## The start -/

theorem started_of_initAll (config : Config) {first append : Nat × LineBuffer bufsiz}
    {s : State bufsiz} (fresh : FreshBuffer ({} : Buffer.State bufsiz) first.1)
    (fresh' : FreshBuffer ({ heap := single first } : Buffer.State bufsiz) append.1)
    (ran : initAll (some first) (some append) = .ok (true, s)) :
    (Execution.mk first append []).Supplied config ∧
      s = { buffer := (Execution.mk first append []).initial } := by
  have supplied : (Execution.mk first append []).Supplied config :=
    ⟨fresh, fresh', fun _ _ => trivial⟩
  have inits : bufferInit (some first) (some append) =
      .ok (true, (Execution.mk first append []).initial) := supplied.init
  simp only [initAll, inits, except_ok_bind, except_pure, Except.ok.injEq, Prod.mk.injEq,
    true_and] at ran
  exact ⟨supplied, ran.symm⟩

end Tailserver.Client
