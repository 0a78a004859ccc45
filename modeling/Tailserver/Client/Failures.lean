import Tailserver.Client.Conversation

/-! One run of `unix_sock_readable_cb` whatever `malloc` and standard output answer. What
fails breaks the event loop, and what was printed by then is a beginning of what should
have been. -/

set_option autoImplicit false

namespace Tailserver.Client

open CMemory Buffer

variable {bufsiz : Nat} {options : Options} {s : State bufsiz}
  {tail follow taken text : List UInt8}

/-- The tail is printed once, if standard output takes it. -/
theorem outputWhenAllRead_attempts (options : Options) {s : State bufsiz} {shown : List UInt8}
    (offered : bufferTail s.buffer = .ok shown) :
    Returns (outputWhenAllRead options s) fun result => ∃ part answers,
      part <+: (if clientconnIsAllServerBufferRead s.conn && !s.tailOutput then shown else []) ∧
      (result.1 = true → part =
        if clientconnIsAllServerBufferRead s.conn && !s.tailOutput then shown else []) ∧
      result.2 = { s with
        answers
        stdout := s.stdout ++ part
        broken := s.broken || !result.1
        tailOutput := s.tailOutput || clientconnIsAllServerBufferRead s.conn
        conn := if clientconnIsAllServerBufferRead s.conn && !options.follow then
            clientconnDisconnect s.conn
          else s.conn } := by
  cases all : clientconnIsAllServerBufferRead s.conn with
  | false =>
      simp only [outputWhenAllRead, all, Bool.false_eq_true, if_false, except_pure]
      exact ⟨[], s.answers, List.prefix_refl _, fun _ => rfl, by simp⟩
  | true =>
      cases printed : s.tailOutput with
      | true =>
          simp only [outputWhenAllRead, all, printed, Bool.not_true, Bool.false_eq_true,
            if_false, if_true, except_ok_bind, except_pure]
          have same : s = { s with tailOutput := true } := by
            rw [← printed]
          refine ⟨[], s.answers, List.prefix_refl _, fun _ => rfl, ?_⟩
          rw [same]
          cases options.follow <;> simp
      | false =>
          simp only [outputWhenAllRead, all, printed, Bool.not_false, if_true]
          have prints := outputBufferedTail_returns offered
          cases ran : outputBufferedTail s with
          | error fault =>
              rw [ran] at prints
              exact prints
          | ok result =>
              rw [ran] at prints
              obtain ⟨ok, s'⟩ := result
              obtain ⟨⟨part, answers, isPrefix, whole, same⟩, _⟩ := prints
              simp only at whole same
              subst same
              simp only [except_ok_bind, except_pure]
              refine ⟨part, answers, isPrefix, whole, ?_⟩
              cases options.follow <;> simp

/-- What a callback does that gets as far as standard output and memory let it. -/
structure Attempts (options : Options) (s : State bufsiz) (answer : ReadAnswer)
    (tail taken text printed : List UInt8) (result : Bool × State bufsiz) : Prop where
  stdout : ∃ part, part <+: printed ∧ result.2.stdout = s.stdout ++ part
  goesOn : result.1 = false → Reads options s answer tail taken text printed result

section Streaming

/-- The end of a callback that has passed nothing on: `error` tells whether the append
failed. -/
theorem Attempts.of_received {s₁ : State bufsiz} {answer : ReadAnswer} {res : Int}
    {error : Bool} {taken' text' : List UInt8}
    (decoding : Decoding tail s₁.conn taken')
    (offered : bufferTail s₁.buffer = .ok (requiredTail options.buffer text'))
    (ready : error = false → Ready options.buffer s₁.buffer text')
    (eof : clientconnEof s₁.conn = decide (answer.result = 0))
    (phase : s₁.phase = s.phase) (broken : s₁.broken = s.broken) (sent : s₁.sent = s.sent)
    (stdout : s₁.stdout = s.stdout) (tailOutput : s₁.tailOutput = s.tailOutput)
    (same : connectionError res answer = connectionError answer.result answer) :
    Returns (do
        let (ok, s) ← outputWhenAllRead options s₁
        return (clientconnEof s.conn || (error || connectionError res answer || !ok), s))
      (Attempts options s answer tail taken' text'
        (if whole tail taken' && !s.tailOutput then requiredTail options.buffer text' else [])) := by
  rw [← decoding.all_read_eq, ← tailOutput]
  apply (outputWhenAllRead_attempts options offered).bind
  rintro ⟨ok, s₂⟩ ⟨part, answers, isPrefix, every, result⟩
  simp only at every result
  subst result
  refine ⟨⟨part, isPrefix, by rw [stdout]⟩, fun goesOn => ?_⟩
  simp only [Bool.or_eq_false_iff, Bool.not_eq_false'] at goesOn
  obtain ⟨_, ⟨unfailed, connected⟩, success⟩ := goesOn
  subst unfailed success
  have printed := every rfl
  subst printed
  simp only [Bool.not_true, Bool.or_false, Bool.false_or, same]
  refine ⟨?_, ready rfl, phase, broken, sent, by rw [stdout], ?_, ?_, rfl⟩
  · split
    · exact decoding.disconnect
    · exact decoding
  · rw [← decoding.all_read_eq, tailOutput]
  · rw [← decoding.all_read_eq]
    cases leaves : clientconnIsAllServerBufferRead s₁.conn && !options.follow with
    | false => simpa using eof
    | true => simp

variable {fresh : Allocation (LineBuffer bufsiz)}

theorem Streaming.attempt_tail {bytes : List UInt8}
    (streaming : Streaming options s tail taken text)
    (room : 0 < bufsiz) (unread : clientconnIsAllServerBufferRead s.conn = false)
    (small : tail.length < Word.signedMax) (nonempty : bytes ≠ [])
    (isPrefix : taken ++ bytes <+: header tail ++ tail ++ follow)
    (fits : bytes.length ≤ readLength s) (sound : Allocates s.buffer fresh) (unset : Int) :
    ∃ stored, tailPart tail (taken ++ bytes) = tailPart tail taken ++ stored ∧
      taken ++ bytes <+: header tail ++ tail ∧
      Returns (unixSockReadableCb options s (.data bytes) unset fresh)
        (Attempts options s (.data bytes) tail (taken ++ bytes) (text ++ stored)
          (if whole tail (taken ++ bytes) && !s.tailOutput then
            requiredTail options.buffer (text ++ stored) else [])) := by
  obtain ⟨stored, conn', buffer', error, ran, decoding', opened, part, inside, stores⟩ :=
    streaming.receiveTail_data room unread small nonempty isPrefix fits sound unset
  refine ⟨stored, part, inside, ?_⟩
  have eof : clientconnEof conn' = decide ((ReadAnswer.data bytes).result = 0) := by
    simp [opened, ReadAnswer.result, nonempty]
  have ready : error = false → Ready options.buffer buffer' (text ++ stored) := by
    rintro rfl
    cases stores with
    | ready ready => exact ready
  simp only [unixSockReadableCb, unread, Bool.not_false, if_true, ran, except_ok_bind]
  exact @Attempts.of_received _ _ s _ { s with conn := conn', buffer := buffer' } (.data bytes)
    stored.length error _ _ decoding' stores.bufferTail ready eof rfl rfl rfl rfl rfl rfl

theorem outputWhenAllRead_of_printed (options : Options) {s : State bufsiz}
    (all : clientconnIsAllServerBufferRead s.conn = true) (printed : s.tailOutput = true) :
    outputWhenAllRead options s = .ok (true,
      if options.follow then s else { s with conn := clientconnDisconnect s.conn }) := by
  simp only [outputWhenAllRead, all, printed, if_true, Bool.not_true, Bool.false_eq_true, if_false,
    except_ok_bind, except_pure]
  cases options.follow <;> rfl

theorem Streaming.attempt_follow {bytes : List UInt8}
    (streaming : Streaming options s tail taken text)
    (all : clientconnIsAllServerBufferRead s.conn = true) (nonempty : bytes ≠ [])
    (isPrefix : taken ++ bytes <+: header tail ++ tail ++ follow)
    (fits : bytes.length ≤ readLength s) (unset : Int) :
    followPart tail (taken ++ bytes) = followPart tail taken ++ bytes ∧
      Returns (unixSockReadableCb options s (.data bytes) unset fresh)
        (Attempts options s (.data bytes) tail (taken ++ bytes) text bytes) := by
  rw [readLength, if_neg (by simp [all])] at fits
  have fits' : (bytes.length : Int) ≤ bufsiz := by omega
  obtain ⟨ran, decoding', part⟩ :=
    streaming.decoding.readServerFollow_data all nonempty fits' isPrefix
  have positive : (bytes.length : Int) > 0 :=
    Int.natCast_pos.mpr (List.length_pos_iff.mpr nonempty)
  refine ⟨part, ?_⟩
  have finished : whole tail (taken ++ bytes) = true := by
    rw [← decoding'.all_read_eq, all]
  have printed := streaming.output all
  simp only [unixSockReadableCb, all, Bool.not_true, Bool.false_eq_true, if_false,
    receiveFollow, ran, except_ok_bind, if_pos positive, Int.toNat_natCast, List.take_length]
  have wrote := clientpipesWriteBlocking_returns { s with conn := s.conn }
    (show bytes.length ≤ bufsiz from fits)
  cases prints : clientpipesWriteBlocking { s with conn := s.conn } bytes with
  | error fault =>
      rw [prints] at wrote
      exact wrote
  | ok result =>
      rw [prints] at wrote
      obtain ⟨ok, s₁⟩ := result
      obtain ⟨⟨part', answers, begins, every, same⟩, _⟩ := wrote
      simp only at every same
      subst same
      simp only [except_ok_bind, except_pure,
        @outputWhenAllRead_of_printed _ options { s with
          answers, stdout := s.stdout ++ part', broken := s.broken || !ok } all printed]
      refine ⟨⟨part', begins, ?_⟩, fun goesOn => ?_⟩
      · cases options.follow <;> rfl
      · simp only [Bool.or_eq_false_iff, Bool.not_eq_false'] at goesOn
        obtain ⟨opened, ⟨success, _⟩, _⟩ := goesOn
        subst success
        have passed := every rfl
        subst passed
        cases following : options.follow with
        | false => simp [following] at opened
        | true =>
            refine ⟨decoding', streaming.ready, rfl, by simp, rfl, rfl, ?_, ?_, ?_⟩
            · simp [printed]
            · simp [streaming.opened, ReadAnswer.result, nonempty, following]
            · simp [connectionError]

theorem Streaming.attempt_empty {answer : ReadAnswer}
    (streaming : Streaming options s tail taken text) (room : 0 < bufsiz)
    (small : tail.length < Word.signedMax) (empty : ∀ bytes, answer ≠ .data bytes)
    (unset : Int) :
    Returns (unixSockReadableCb options s answer unset fresh)
      (Attempts options s answer tail taken text []) := by
  have silent : (if whole tail taken && !s.tailOutput then
      requiredTail options.buffer text else []) = [] := by
    cases all : clientconnIsAllServerBufferRead s.conn with
    | false => simp [← streaming.decoding.all_read_eq, all]
    | true => exact streaming.silent all taken _
  have asked : (1 : Int) ≤ bufsiz := by omega
  cases all : clientconnIsAllServerBufferRead s.conn with
  | false =>
      obtain ⟨conn', ran, decoding', socket⟩ :=
        streaming.decoding.readServerBuffer_empty bufsiz answer all small
          (show (1 : Int) ≤ bufferAvailableForAppend s.buffer from asked) empty unset
      have received := receiveTail_idle options fresh (bytes_of_empty empty).2.1 ran
      have finished := @Attempts.of_received _ options s _ { s with conn := conn' } answer
        answer.result false taken text decoding' streaming.ready.bufferTail
        (fun _ => streaming.ready) (streaming.eof_of_empty socket) rfl rfl rfl rfl rfl rfl
      rw [silent] at finished
      simpa only [unixSockReadableCb, all, Bool.not_false, if_true, received, except_ok_bind] using
        finished
  | true =>
      have ran := readServerFollow_empty all asked empty
      have decoding' : Decoding tail
          (if answer.result = 0 then clientconnDisconnect s.conn else s.conn) taken :=
        streaming.decoding.congr (by simp) (by simp) fun _ => by simp
      have finished := @Attempts.of_received _ options s _ { s with
          conn := if answer.result = 0 then clientconnDisconnect s.conn else s.conn } answer
        answer.result false taken text decoding' streaming.ready.bufferTail
        (fun _ => streaming.ready) (streaming.eof_of_empty (by simp)) rfl rfl rfl rfl rfl rfl
      rw [silent] at finished
      simpa only [unixSockReadableCb, all, Bool.not_true, Bool.false_eq_true, if_false,
        receiveFollow, ran, except_ok_bind, if_neg (bytes_of_empty empty).2.1, except_pure] using
        finished

/-- One run of the callback, whatever happens to what it is to store and to print. -/
theorem Streaming.attempt {answer : ReadAnswer} (streaming : Streaming options s tail taken text)
    (room : 0 < bufsiz) (small : tail.length < Word.signedMax)
    (arrives : ∀ bytes, answer = .data bytes → bytes ≠ [] ∧ bytes.length ≤ readLength s ∧
      taken ++ bytes <+: header tail ++ tail ++ follow)
    (sound : Allocates s.buffer fresh) (unset : Int) :
    ∃ stored passed, tailPart tail (taken ++ answer.bytes) = tailPart tail taken ++ stored ∧
      followPart tail (taken ++ answer.bytes) = followPart tail taken ++ passed ∧
      (whole tail taken = false → followPart tail (taken ++ answer.bytes) = []) ∧
      Returns (unixSockReadableCb options s answer unset fresh)
        (Attempts options s answer tail (taken ++ answer.bytes) (text ++ stored) (passed ++
          if whole tail (taken ++ answer.bytes) && !s.tailOutput then
            requiredTail options.buffer (text ++ stored) else [])) := by
  rw [← streaming.decoding.all_read_eq]
  rcases data_or_empty answer with ⟨bytes, rfl⟩ | empty
  · obtain ⟨nonempty, fits, isPrefix⟩ := arrives bytes rfl
    rw [ReadAnswer.bytes]
    cases all : clientconnIsAllServerBufferRead s.conn with
    | false =>
        obtain ⟨stored, part, inside, returns⟩ := streaming.attempt_tail room all small nonempty
          isPrefix fits sound unset
        have before := streaming.decoding.followPart_of_unread all
        have after := followPart_of_le inside.length_le
        exact ⟨stored, [], part, by rw [before, after, List.append_nil], fun _ => after, returns⟩
    | true =>
        obtain ⟨part, returns⟩ := streaming.attempt_follow all nonempty isPrefix fits unset
        have finished : whole tail taken = true := by
          rw [← all, streaming.decoding.all_read_eq]
        refine ⟨[], bytes, ?_, part, by simp, ?_⟩
        · rw [tailPart_append_of_whole finished, List.append_nil]
        · rw [streaming.silent all, List.append_nil, List.append_nil]
          exact returns
  · have returns : Returns (unixSockReadableCb options s answer unset fresh) _ :=
      streaming.attempt_empty room small empty unset
    rw [(bytes_of_empty empty).1, List.append_nil]
    refine ⟨[], [], (List.append_nil _).symm, (List.append_nil _).symm,
      streaming.decoding.followPart_of_unread, ?_⟩
    have silent : (if whole tail taken && !s.tailOutput then
        requiredTail options.buffer (text ++ []) else []) = [] := by
      cases all : clientconnIsAllServerBufferRead s.conn with
      | false => simp [← streaming.decoding.all_read_eq, all]
      | true => exact streaming.silent all taken _
    rw [silent, List.append_nil, List.append_nil]
    exact returns

end Streaming

/-! ## One connection -/

/-- The client has printed a beginning of what it should have; as long as it has not
left, all of it. -/
structure Weathers (options : Options) (s : State bufsiz) (tail taken : List UInt8) : Prop where
  stdout : s.stdout <+: printed options tail taken
  unfollowed : options.follow = false → followPart tail taken = []
  converses : s.phase.attached = true → Converses options s tail taken

theorem Weathers.of_detached {s' : State bufsiz} (weathers : Weathers options s tail taken)
    (stdout : s'.stdout = s.stdout) (detached : s'.phase.attached = false) :
    Weathers options s' tail taken := by
  refine ⟨stdout ▸ weathers.stdout, weathers.unfollowed, fun attached => ?_⟩
  rw [detached] at attached
  cases attached

theorem Converses.weathers (converses : Converses options s tail taken) :
    Weathers options s tail taken :=
  ⟨by rw [converses.stdout], converses.unfollowed, fun _ => converses⟩

/-- Before anything is read the tail does not matter. -/
theorem Weathers.of_nil (weathers : Weathers options s tail []) (tail' : List UInt8) :
    Weathers options s tail' [] := by
  refine ⟨?_, fun _ => followPart_nil tail',
    fun attached => (weathers.converses attached).of_nil tail'⟩
  have stdout := weathers.stdout
  rw [printed_nil] at stdout ⊢
  exact stdout

theorem Converses.tryWrite {s' : State bufsiz} (converses : Converses options s tail taken)
    (writing : s.phase = .writing) (ran : writeToServer s = .ok s') :
    Weathers options s' tail taken := by
  obtain ⟨written, wrote, returned⟩ := except_bind_ok ran
  dsimp only at returned
  split at returned
  · cases returned
    exact converses.weathers.of_detached rfl rfl
  · cases returned
    have unfollowed : options.follow = false := by
      cases following : options.follow with
      | false => rfl
      | true => exact absurd writing (converses.silent following).2
    have attached : s.phase.attached = true := by
      rw [writing]
      rfl
    apply weathers
    refine ⟨converses.decoding, converses.ready, converses.stdout, converses.tailOutput, ?_,
      fun _ _ => converses.unfinished unfollowed attached, converses.unfollowed, ?_⟩
    · exact converses.eof.trans (by rw [attached]; rfl)
    · simp [unfollowed]

theorem prepareForRetry_detached (options : Options) (s : State bufsiz) :
    (prepareForRetry options s).phase.attached = false ∧
      (prepareForRetry options s).stdout = s.stdout := by
  simp only [prepareForRetry]
  split
  · exact ⟨rfl, rfl⟩
  · exact ⟨rfl, rfl⟩

/-- One read off the connection, and what `clientloop_run` does when it was the last one. -/
theorem Converses.tryRead {answer : ReadAnswer} {unset : Int}
    {fresh : Allocation (LineBuffer bufsiz)} {answers : List WriteAnswer}
    (converses : Converses options s tail taken) (room : 0 < bufsiz)
    (possible : Possible s (.readable answer unset fresh answers))
    (small : tail.length < Word.signedMax)
    (arrives : ∀ bytes, answer = .data bytes → taken ++ bytes <+: header tail ++ tail ++ follow) :
    Returns (handle options s (.readable answer unset fresh answers)) fun s' =>
      Weathers options s' tail (taken ++ answer.bytes) := by
  obtain ⟨looping, sound, sized⟩ := possible
  have arrives' : ∀ bytes, answer = .data bytes → bytes ≠ [] ∧
      bytes.length ≤ readLength { s with answers } ∧
        taken ++ bytes <+: header tail ++ tail ++ follow :=
    fun bytes data => ⟨(sized bytes data).1, (sized bytes data).2, arrives bytes data⟩
  have prepared := converses.answers answers
  obtain ⟨stored, passed, part, follows, unfollowed, returns⟩ :=
    (prepared.streaming looping).attempt room small arrives' sound unset
  rw [← part] at returns
  have followed : options.follow = false → followPart tail (taken ++ answer.bytes) = [] :=
    fun following => unfollowed (converses.unfinished following (by rw [looping]; rfl))
  have shows : printed options tail (taken ++ answer.bytes) = printed options tail taken ++
      (passed ++ if whole tail (taken ++ answer.bytes) && !s.tailOutput then
        requiredTail options.buffer (tailPart tail (taken ++ answer.bytes)) else []) := by
    rw [converses.tailOutput, printed, printed, follows]
    cases finished : whole tail taken with
    | true => simp [whole_append finished]
    | false =>
        obtain ⟨before, passes⟩ : followPart tail taken = [] ∧ passed = [] := by
          simpa [follows] using unfollowed finished
        cases completed : whole tail (taken ++ answer.bytes) with
        | false => simp [before, passes]
        | true => simp [before, passes, tailPart_of_whole completed]
  apply returns.bind
  rintro ⟨ended, s'⟩ ⟨⟨begun, begins, stdout⟩, goesOn⟩
  cases ended with
  | true =>
      obtain ⟨detached, same⟩ := prepareForRetry_detached options s'
      refine ⟨?_, followed, fun attached => ?_⟩
      · rw [if_pos rfl, same, stdout, converses.stdout, shows, List.prefix_append_right_inj]
        exact begins
      · rw [if_pos rfl, detached] at attached
        cases attached
  | false =>
      have heard := prepared.heard looping (fun bytes data => (arrives' bytes data).1) (goesOn rfl)
        shows followed
      exact heard.converses.weathers

end Tailserver.Client
