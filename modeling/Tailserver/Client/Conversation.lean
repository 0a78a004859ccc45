import Tailserver.Client.Callback

/-! The client on one connection, in follow mode and without. What it has printed is
determined by the bytes it has read, however they came in. -/

set_option autoImplicit false

namespace Tailserver.Client

open CMemory Buffer

variable {bufsiz : Nat}

/-- Does `clientloop_run` wait for the connection, to write to it or to read from it? -/
def Phase.attached : Phase → Bool
  | .connecting => false
  | .writing => true
  | .looping => true
  | .finished => false

/-- Is there nothing more to read after this answer? -/
def ends : ReadAnswer → Bool
  | .data _ => false
  | .eof => true
  | .failed errno => !isErrnoRetryFriendly errno

/-- What is printed when `taken` is read of a connection with this tail. -/
def printed (options : Options) (tail taken : List UInt8) : List UInt8 :=
  (if whole tail taken then requiredTail options.buffer tail else []) ++ followPart tail taken

/-- The client has read `taken` off the connection. -/
structure Converses (options : Options) (s : State bufsiz) (tail taken : List UInt8) :
    Prop where
  decoding : Decoding tail s.conn taken
  ready : Ready options.buffer s.buffer (tailPart tail taken)
  stdout : s.stdout = printed options tail taken
  tailOutput : s.tailOutput = whole tail taken
  eof : clientconnEof s.conn = !s.phase.attached
  unfinished : options.follow = false → s.phase.attached = true → whole tail taken = false
  unfollowed : options.follow = false → followPart tail taken = []
  silent : options.follow = true → s.sent = [] ∧ s.phase ≠ .writing

section Converses

variable {options : Options} {s : State bufsiz} {tail taken : List UInt8}

theorem whole_nil (tail : List UInt8) : whole tail [] = false := by
  simp [whole, header]

theorem tailPart_nil (tail : List UInt8) : tailPart tail [] = [] := by
  simp [tailPart]

theorem followPart_nil (tail : List UInt8) : followPart tail [] = [] := by
  simp [followPart]

theorem printed_nil (options : Options) (tail : List UInt8) : printed options tail [] = [] := by
  simp [printed, whole_nil, followPart_nil]

/-- Before anything is read the tail does not matter. -/
theorem Converses.of_nil (converses : Converses options s tail []) (tail' : List UInt8) :
    Converses options s tail' [] := by
  obtain ⟨decoding, ready, stdout, tailOutput, eof, unfinished, _, silent⟩ := converses
  rw [tailPart_nil] at ready
  rw [printed_nil] at stdout
  rw [whole_nil] at tailOutput unfinished
  refine ⟨?_, ?_, ?_, ?_, eof, ?_, fun _ => followPart_nil tail', silent⟩
  · generalize nothing : ([] : List UInt8) = taken at decoding
    cases decoding with
    | inHeader isPrefix unknown size =>
        subst nothing
        exact .inHeader List.nil_prefix unknown size
    | inTail => simp [header] at nothing
    | inFollow => simp [header] at nothing
  · rw [tailPart_nil]
    exact ready
  · rw [printed_nil]
    exact stdout
  · rw [whole_nil]
    exact tailOutput
  · rw [whole_nil]
    exact unfinished

theorem Converses.answers (converses : Converses options s tail taken)
    (answers : List WriteAnswer) : Converses options { s with answers } tail taken :=
  ⟨converses.decoding, converses.ready, converses.stdout, converses.tailOutput, converses.eof,
    converses.unfinished, converses.unfollowed, converses.silent⟩

/-! ## Connecting and writing -/

theorem Converses.start {first append : Nat × LineBuffer bufsiz} {s : State bufsiz}
    (options : Options) (tail : List UInt8)
    (fresh : FreshBuffer ({} : Buffer.State bufsiz) first.1)
    (fresh' : FreshBuffer ({ heap := single first } : Buffer.State bufsiz) append.1)
    (zeroed : options.buffer.countLines = true → append.2.nlines = 0)
    (ran : initAll (some first) (some append) = .ok (true, s)) :
    Converses options s tail [] ∧ s.phase = .connecting := by
  obtain ⟨supplied, rfl⟩ := started_of_initAll options.buffer fresh fresh' ran
  refine ⟨⟨.inHeader List.nil_prefix rfl rfl, ?_, ?_, ?_, rfl, ?_, fun _ => followPart_nil tail,
    ?_⟩, rfl⟩
  · rw [tailPart_nil]
    exact supplied.ready zeroed
  · exact (printed_nil options tail).symm
  · exact (whole_nil tail).symm
  · intro _ attached
    cases attached
  · exact fun _ => ⟨rfl, by simp⟩

theorem Converses.connect (converses : Converses options s tail [])
    (connecting : s.phase = .connecting) (opened : Int) :
    Converses options (connect options s opened) tail [] ∧
      (Client.connect options s opened).phase.attached = decide (opened ≠ invalidSocket) := by
  have closed : clientconnEof s.conn = true := by
    rw [converses.eof, connecting]
    rfl
  have reset := clientconnConnect_of_eof closed opened
  have nothing : Decoding tail
      ({ clientUnixSock := opened, closes := s.conn.closes } : ClientConn) [] :=
    .inHeader List.nil_prefix rfl rfl
  by_cases success : opened = invalidSocket
  · subst success
    have refused : Client.connect options s invalidSocket =
        { s with conn := { closes := s.conn.closes }, sent := [], phase := .finished } := by
      simp [Client.connect, reset]
    rw [refused]
    refine ⟨⟨nothing, converses.ready, converses.stdout, converses.tailOutput, rfl, ?_,
      converses.unfollowed, ?_⟩, rfl⟩
    · intro _ attached
      cases attached
    · exact fun _ => ⟨rfl, by simp⟩
  · have opens : Client.connect options s opened =
        { s with
          conn := { clientUnixSock := opened, closes := s.conn.closes }
          sent := []
          phase := if options.follow then .looping else .writing } := by
      cases following : options.follow <;> simp [Client.connect, reset, success, following]
    have attached : (if options.follow then Phase.looping else .writing).attached = true := by
      cases options.follow <;> rfl
    rw [opens]
    refine ⟨⟨nothing, converses.ready, converses.stdout, converses.tailOutput, ?_, ?_,
      converses.unfollowed, ?_⟩, ?_⟩
    · simp [clientconnEof, success, attached]
    · exact fun _ _ => whole_nil tail
    · intro following
      simp [following]
    · simp [success, attached]

theorem writeToServer_returns (s : State bufsiz) :
    Returns (writeToServer s) fun _ => True := by
  unfold writeToServer clientconnWrite safeWrite
  cases ran : safeWriteLoop [newline] panicLoopIterations s.answers with
  | error fault => exact safeWriteLoop_fault ran
  | ok written =>
      simp only [except_ok_bind]
      split <;> trivial

/-- When the byte for the server is written, the client goes on to read. -/
theorem Converses.write {s' : State bufsiz} (converses : Converses options s tail taken)
    (writing : s.phase = .writing) (ran : writeToServer s = .ok s') (delivered : s'.sent ≠ []) :
    Converses options s' tail taken ∧ s'.phase = .looping := by
  obtain ⟨written, wrote, ran⟩ := except_bind_ok ran
  have delivers := safeWriteLoop_delivers wrote
  have unfollowed : options.follow = false := by
    cases following : options.follow with
    | false => rfl
    | true => exact absurd writing (converses.silent following).2
  have attached : s.phase.attached = true := by
    rw [writing]
    rfl
  dsimp only at ran
  split at ran
  · next failed =>
    cases ran
    have positive := List.length_pos_iff.mpr delivered
    have counted := delivers.counted delivered
    simp only at positive counted
    omega
  · cases ran
    refine ⟨⟨converses.decoding, converses.ready, converses.stdout, converses.tailOutput, ?_,
      fun _ _ => converses.unfinished unfollowed attached, converses.unfollowed, ?_⟩, rfl⟩
    · rw [converses.eof, attached]
      rfl
    · simp [unfollowed]

/-! ## Reading -/

theorem Converses.streaming (converses : Converses options s tail taken)
    (looping : s.phase = .looping) : Streaming options s tail taken (tailPart tail taken) where
  decoding := converses.decoding
  opened := by
    rw [converses.eof, looping]
    rfl
  ready := converses.ready
  output := by
    intro all
    rw [converses.tailOutput, ← converses.decoding.all_read_eq]
    exact all

theorem ends_eq {answer : ReadAnswer} (nonempty : ∀ bytes, answer = .data bytes → bytes ≠ []) :
    (decide (answer.result = 0) || connectionError answer.result answer) = ends answer := by
  cases answer with
  | data bytes => simpa [ReadAnswer.result, connectionError, ends] using nonempty bytes rfl
  | eof => rfl
  | failed errno => simp [ReadAnswer.result, connectionError, ends]

/-- What has become of the client after a read that was answered `answer`. -/
structure Heard (options : Options) (answer : ReadAnswer) (tail taken : List UInt8)
    (s : State bufsiz) : Prop where
  converses : Converses options s tail taken
  attached : s.phase.attached = !(ends answer || (whole tail taken && !options.follow))
  notWriting : s.phase ≠ .writing
  finished : s.phase.attached = false → (options.reopenFile && options.follow) = false →
    s.phase = .finished

/-- The callback and what `clientloop_run` does when it breaks the event loop. -/
theorem Converses.heard {answer : ReadAnswer} {bytes more : List UInt8}
    {result : Bool × State bufsiz} (converses : Converses options s tail taken)
    (looping : s.phase = .looping)
    (nonempty : ∀ bytes, answer = .data bytes → bytes ≠ [])
    (reads : Reads options s answer tail (taken ++ bytes) (tailPart tail (taken ++ bytes)) more
      result)
    (shows : printed options tail (taken ++ bytes) = printed options tail taken ++ more)
    (unfollowed : options.follow = false → followPart tail (taken ++ bytes) = []) :
    Heard options answer tail (taken ++ bytes)
      (if result.1 then prepareForRetry options result.2 else result.2) := by
  have stdout : result.2.stdout = printed options tail (taken ++ bytes) := by
    rw [reads.stdout, converses.stdout, shows]
  have tailOutput : result.2.tailOutput = whole tail (taken ++ bytes) := by
    rw [reads.tailOutput, converses.tailOutput]
    cases before : whole tail taken with
    | false => rfl
    | true => exact (whole_append before bytes).symm
  have silent : options.follow = true → result.2.sent = [] := fun following =>
    reads.sent.trans (converses.silent following).1
  have ended : result.1 = (ends answer || (whole tail (taken ++ bytes) && !options.follow)) := by
    rw [reads.ended, reads.eof, ← ends_eq nonempty]
    cases decide (answer.result = 0) <;>
      cases (whole tail (taken ++ bytes) && !options.follow) <;> simp
  cases breaks : result.1 with
  | true =>
      rw [breaks] at ended
      have leaves : ∀ phase : Phase, phase.attached = false →
          ((options.reopenFile && options.follow) = false → phase = .finished) →
          Heard options answer tail (taken ++ bytes)
            { result.2 with conn := clientconnDisconnect result.2.conn, phase } := by
        intro phase detached finishes
        refine ⟨⟨reads.decoding.disconnect, reads.ready, stdout, tailOutput, ?_, ?_, unfollowed,
          ?_⟩, ?_, ?_, fun _ => finishes⟩
        · simp [detached]
        · simp [detached]
        · refine fun following => ⟨silent following, ?_⟩
          rintro rfl
          cases detached
        · rw [← ended]
          exact detached
        · rintro rfl
          cases detached
      simp only [if_true, prepareForRetry]
      split
      · next reopens =>
        refine leaves .connecting rfl fun forbids => ?_
        rw [forbids] at reopens
        cases reopens
      · exact leaves .finished rfl fun _ => rfl
  | false =>
      have stays := reads.phase.trans looping
      have goesOn := reads.ended
      rw [breaks] at goesOn ended
      have opened : clientconnEof result.2.conn = false := by
        cases eof : clientconnEof result.2.conn with
        | false => rfl
        | true => simp [eof] at goesOn
      simp only [Bool.false_eq_true, if_false]
      refine ⟨⟨reads.decoding, reads.ready, stdout, tailOutput, ?_, ?_, unfollowed, ?_⟩, ?_, ?_, ?_⟩
      · rw [opened, stays]
        rfl
      · intro following _
        simpa [following] using (Bool.or_eq_false_iff.mp ended.symm).2
      · exact fun following => ⟨silent following, by simp [stays]⟩
      · rw [stays, ← ended]
        rfl
      · simp [stays]
      · intro detached
        rw [stays] at detached
        cases detached

variable {fresh : Allocation (LineBuffer bufsiz)}

/-- One run of the callback, whatever `read` answers of what the server sent. -/
theorem Converses.read {answer : ReadAnswer} {follow : List UInt8}
    (converses : Converses options s tail taken) (room : 0 < bufsiz)
    (looping : s.phase = .looping) (small : tail.length < Word.signedMax)
    (arrives : ∀ bytes, answer = .data bytes → bytes ≠ [] ∧ bytes.length ≤ readLength s ∧
      taken ++ bytes <+: header tail ++ tail ++ follow)
    (sound : Allocates s.buffer fresh) (granted : fresh.isSome)
    (complete : Completes bufsiz s.answers) (unset : Int) :
    Returns (unixSockReadableCb options s answer unset fresh) fun result =>
      Heard options answer tail (taken ++ answer.bytes)
        (if result.1 then prepareForRetry options result.2 else result.2) := by
  obtain ⟨stored, passed, part, follows, unfollowed, returns⟩ :=
    (converses.streaming looping).readable room small arrives sound granted complete unset
  rw [← part] at returns
  apply returns.mono
  intro result reads
  apply converses.heard looping (fun bytes same => (arrives bytes same).1) reads
  · rw [converses.tailOutput, printed, printed, follows]
    cases finished : whole tail taken with
    | true => simp [whole_append finished]
    | false =>
        obtain ⟨before, passes⟩ : followPart tail taken = [] ∧ passed = [] := by
          simpa [follows] using unfollowed finished
        cases completed : whole tail (taken ++ answer.bytes) with
        | false => simp [before, passes]
        | true => simp [before, passes, tailPart_of_whole completed]
  · intro following
    apply unfollowed
    exact converses.unfinished following (by rw [looping]; rfl)

end Converses

end Tailserver.Client
