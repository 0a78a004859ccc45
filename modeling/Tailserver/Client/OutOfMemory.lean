import Tailserver.Server.OutOfMemory
import Tailserver.Client.Callback

/-! The client when an append finds no memory. `unix_sock_readable_cb` breaks the event
loop, but the error is local to it: `clientloop_run` only asks whether standard output
is broken before it connects again. -/

set_option autoImplicit false

namespace Tailserver.Client

open CMemory Buffer

variable {bufsiz : Nat}

/-- Some step takes the client from one state to another. -/
def Steps (options : Options) (s s' : State bufsiz) : Prop :=
  ∃ event, Possible s event ∧ handle options s event = .ok s'

/-- The states a client reaches with any server and any memory. -/
inductive Reachable (options : Options) : State bufsiz → Prop where
  | start (first append : Nat × LineBuffer bufsiz) {s : State bufsiz} :
      FreshBuffer ({} : Buffer.State bufsiz) first.1 →
      FreshBuffer ({ heap := single first } : Buffer.State bufsiz) append.1 →
      initAll (some first) (some append) = .ok (true, s) → Reachable options s
  | step {s s' : State bufsiz} : Reachable options s → Steps options s s' →
      Reachable options s'

/-- `unix_sock_readable_cb` calls `buffer_end` and `buffer_set_appended` in one of its
branches. -/
def Appends (s : State bufsiz) : Event bufsiz → Prop
  | .connect _ => False
  | .write _ => False
  | .readable _ _ _ _ => clientconnIsAllServerBufferRead s.conn = false

/-- The append of the callback that gets `answer` comes to its `malloc`. -/
structure CallsMalloc (options : Options) (s : State bufsiz) (answer : ReadAnswer)
    (unset : Int) : Prop where
  unread : clientconnIsAllServerBufferRead s.conn = false
  calls : ∃ received conn', clientconnReadServerBuffer bufsiz s.conn
      (bufferAvailableForAppend s.buffer) answer unset = .ok (received, conn') ∧
    received.res > 0 ∧ callsMalloc options.buffer s.buffer received.stored = .ok true

/-! ## What writes leave alone -/

structure Writes (s : State bufsiz) (result : Bool × State bufsiz) : Prop where
  buffer : result.2.buffer = s.buffer
  conn : result.2.conn = s.conn
  phase : result.2.phase = s.phase
  broken : result.2.broken = (s.broken || !result.1)

theorem Writes.trans {s s' : State bufsiz} {result : Bool × State bufsiz}
    (first : Writes s (true, s')) (next : Writes s' result) : Writes s result where
  buffer := next.buffer.trans first.buffer
  conn := next.conn.trans first.conn
  phase := next.phase.trans first.phase
  broken := by
    have unbroken := first.broken
    simp only [Bool.not_true, Bool.or_false] at unbroken
    rw [next.broken, unbroken]

theorem clientpipesWriteBlocking_writes {s : State bufsiz} {buf : List UInt8}
    {result : Bool × State bufsiz} (ran : clientpipesWriteBlocking s buf = .ok result) :
    Writes s result := by
  obtain ⟨⟨ok, written⟩, _, returned⟩ := except_bind_ok ran
  cases ok with
  | true =>
      cases returned
      exact ⟨rfl, rfl, rfl, by simp⟩
  | false =>
      cases returned
      exact ⟨rfl, rfl, rfl, by simp⟩

theorem outputTailChunks_writes {fuel : Nat} {s : State bufsiz} {pos : Pointer}
    {offset : UInt64} {result : Bool × State bufsiz}
    (ran : outputTailChunks fuel s pos offset = .ok result) : Writes s result := by
  induction fuel generalizing s pos offset with
  | zero => cases ran
  | succ fuel ih =>
      obtain ⟨chunkSize, _, ran⟩ := except_bind_ok ran
      split at ran
      · obtain ⟨chunk, _, ran⟩ := except_bind_ok ran
        obtain ⟨⟨ok, s₁⟩, writes, ran⟩ := except_bind_ok ran
        have wrote := clientpipesWriteBlocking_writes writes
        cases ok with
        | false =>
            cases ran
            exact wrote
        | true =>
            obtain ⟨pos', _, ran⟩ := except_bind_ok ran
            exact wrote.trans (ih ran)
      · cases ran
        exact ⟨rfl, rfl, rfl, by simp⟩

/-- What `unix_sock_readable_cb` does after its read. -/
structure Outputs (s : State bufsiz) (result : Bool × State bufsiz) : Prop where
  buffer : result.2.buffer = s.buffer
  phase : result.2.phase = s.phase
  broken : result.2.broken = (s.broken || !result.1)

theorem outputWhenAllRead_outputs {options : Options} {s : State bufsiz}
    {result : Bool × State bufsiz} (ran : outputWhenAllRead options s = .ok result) :
    Outputs s result := by
  unfold outputWhenAllRead at ran
  split at ran
  · obtain ⟨⟨ok, s₁⟩, outputs, returned⟩ := except_bind_ok ran
    have printed : Outputs s (ok, s₁) := by
      split at outputs
      · obtain ⟨⟨ok', s₂⟩, prints, returned⟩ := except_bind_ok outputs
        have writes := outputTailChunks_writes prints
        cases returned
        exact ⟨writes.buffer, writes.phase, writes.broken⟩
      · cases outputs
        exact ⟨rfl, rfl, by simp⟩
    cases returned
    split
    · exact ⟨printed.buffer, printed.phase, printed.broken⟩
    · exact printed
  · cases ran
    exact ⟨rfl, rfl, by simp⟩

/-! ## What a callback does to the buffer -/

/-- A read that gives tail data gives it all to the append. -/
theorem received_cases {conn conn' : ClientConn} {size unset : Int} {answer : ReadAnswer}
    {received : Received} (answered : ∀ bytes, answer = .data bytes → bytes ≠ [])
    (ran : clientconnReadServerBuffer bufsiz conn size answer unset = .ok (received, conn')) :
    (received.stored = [] ∧ ¬ received.res > 0) ∨
      (received.stored ≠ [] ∧ received.res = received.stored.length) := by
  unfold clientconnReadServerBuffer at ran
  split at ran
  · cases ran
    exact .inl ⟨rfl, by simp⟩
  · obtain ⟨⟨tailDataRes, stored, conn₁⟩, reads, returned⟩ := except_bind_ok ran
    cases returned
    rcases data_or_empty answer with ⟨bytes, rfl⟩ | empty
    · have more := List.length_pos_iff.mpr (answered bytes rfl)
      have counted : tailDataRes = stored.length := by
        split at reads
        · obtain ⟨tmpbuf, _, reads⟩ := except_bind_ok reads
          obtain ⟨stored', _, returned⟩ := except_bind_ok reads
          cases returned
          rfl
        · obtain ⟨stored', fits, returned⟩ := except_bind_ok reads
          cases returned
          unfold intoArray at fits
          split at fits
          · cases fits
            simp [ReadAnswer.result, ReadAnswer.bytes]
          · cases fits
      have positive : (ReadAnswer.data bytes).result > 0 := by
        simpa [ReadAnswer.result] using more
      simp only [if_pos positive, counted]
      by_cases none : stored = []
      · exact .inl ⟨none, by simp [none]⟩
      · exact .inr ⟨none, trivial⟩
    · have nothing := bytes_of_empty empty
      have unread : stored = [] := by
        split at reads
        · cases answer with
          | data bytes => exact absurd rfl (empty bytes)
          | eof =>
              cases reads
              rfl
          | failed errno =>
              cases reads
              rfl
        · obtain ⟨stored', fits, returned⟩ := except_bind_ok reads
          cases returned
          rw [nothing.1] at fits
          unfold intoArray at fits
          split at fits
          · cases fits
            rfl
          · cases fits
      exact .inl ⟨unread, by rw [if_neg nothing.2.1]; exact nothing.2.1⟩

/-- What the branch that reads the tail does. -/
inductive Receives (options : Options) (s : State bufsiz)
    (fresh : Allocation (LineBuffer bufsiz)) : Int × Bool × State bufsiz → Prop where
  | idle {res : Int} {conn' : ClientConn} :
      Receives options s fresh (res, false, { s with conn := conn' })
  | appended {stored : List UInt8} {conn' : ClientConn} {continues : Bool}
      {buffer' : Buffer.State bufsiz} : stored ≠ [] →
      bufferAppend options.buffer s.buffer stored fresh = .ok (continues, buffer') →
      Receives options s fresh
        (stored.length, !continues, { s with conn := conn', buffer := buffer' })

theorem receiveTail_receives {options : Options} {s : State bufsiz} {answer : ReadAnswer}
    {unset : Int} {fresh : Allocation (LineBuffer bufsiz)} {result : Int × Bool × State bufsiz}
    (answered : ∀ bytes, answer = .data bytes → bytes ≠ [])
    (ran : receiveTail options s answer unset fresh = .ok result) :
    Receives options s fresh result := by
  obtain ⟨⟨⟨res, stored⟩, conn'⟩, reads, _⟩ := except_bind_ok ran
  rcases received_cases answered reads with ⟨nothing, idle⟩ | ⟨nonempty, counted⟩
  · simp only at nothing idle
    subst nothing
    rw [receiveTail_idle options fresh idle reads] at ran
    cases ran
    exact .idle
  · simp only at nonempty counted
    subst counted
    rw [receiveTail_append fresh nonempty reads] at ran
    obtain ⟨⟨continues, buffer'⟩, appends, returned⟩ := except_bind_ok ran
    cases returned
    exact .appended nonempty appends

/-- Nothing is placed through a null pointer or behind the end of the spare block. -/
theorem placed_of_placeBytes {s placed : Buffer.State bufsiz} {bytes : List UInt8}
    (places : placeBytes s (bufferEnd s) bytes = .ok placed) :
    s.append ≠ none ∧ bytes.length ≤ bufsiz := by
  obtain ⟨node, loads, writes⟩ := except_bind_ok places
  obtain ⟨buffer, written, _⟩ := except_bind_ok writes
  constructor
  · intro missing
    rw [bufferEnd, missing] at loads
    cases loads
  · unfold Area.write at written
    split at written
    · next fits => simpa using fits
    · cases written

/-- While there is a spare block there is a list in front of it. -/
def Spared (buffer : Buffer.State bufsiz) : Prop :=
  buffer.append ≠ none → ∃ spare front rest, Linked buffer spare front rest

theorem Spared.append {config : Config} {s s' : Buffer.State bufsiz} {bytes : List UInt8}
    {fresh : Allocation (LineBuffer bufsiz)} {continues : Bool} (spared : Spared s)
    (nonempty : bytes ≠ []) (sound : Allocates s fresh)
    (ran : bufferAppend config s bytes fresh = .ok (continues, s')) : Spared s' := by
  obtain ⟨placed, places, _⟩ := except_bind_ok ran
  obtain ⟨present, fits⟩ := placed_of_placeBytes places
  obtain ⟨spare, front, rest, linked⟩ := spared present
  obtain ⟨_, _, _, _, shaped, _⟩ := linked.append_returns nonempty fits sound ran
  cases shaped with
  | spare linked' => exact fun _ => ⟨_, _, _, linked'⟩
  | spareless missing => exact fun present' => absurd missing present'

/-- What a callback, or a part of it, leaves as it was. Only with an error does it find
standard output broken. -/
structure Leaves (s : State bufsiz) (error : Bool) (s' : State bufsiz) : Prop where
  phase : s'.phase = s.phase
  broken : s'.broken = true → s.broken = true ∨ error = true
  spared : Spared s.buffer → Spared s'.buffer
  null : s.buffer.append = none → s'.buffer.append = none

theorem Leaves.outputs {s s' s'' : State bufsiz} {error ok : Bool} (leaves : Leaves s error s')
    (outputs : Outputs s' (ok, s'')) : Leaves s (error || !ok) s'' where
  phase := outputs.phase.trans leaves.phase
  broken := by
    intro ended
    rw [outputs.broken, Bool.or_eq_true] at ended
    rcases ended with before | failed
    · exact (leaves.broken before).imp_right fun error => by simp [error]
    · exact .inr (by simp [show (!ok) = true from failed])
  spared := by rw [outputs.buffer]; exact leaves.spared
  null := by rw [outputs.buffer]; exact leaves.null

theorem Receives.leaves {options : Options} {s s' : State bufsiz} {res : Int} {error : Bool}
    {fresh : Allocation (LineBuffer bufsiz)} (sound : Allocates s.buffer fresh)
    (receives : Receives options s fresh (res, error, s')) : Leaves s error s' := by
  cases receives with
  | idle => exact ⟨rfl, .inl, id, id⟩
  | appended nonempty appends =>
      refine ⟨rfl, .inl, fun spared => spared.append nonempty sound appends, fun missing => ?_⟩
      obtain ⟨placed, places, _⟩ := except_bind_ok appends
      exact absurd missing (placed_of_placeBytes places).1

theorem receiveFollow_leaves {s s' : State bufsiz} {answer : ReadAnswer} {res : Int}
    {error : Bool} (ran : receiveFollow s answer = .ok (res, error, s')) :
    Leaves s error s' := by
  obtain ⟨⟨received, conn'⟩, _, ran⟩ := except_bind_ok ran
  dsimp only at ran
  split at ran
  · obtain ⟨⟨ok, s₁⟩, prints, returned⟩ := except_bind_ok ran
    have writes := clientpipesWriteBlocking_writes prints
    cases returned
    refine ⟨writes.phase, ?_, ?_, ?_⟩
    · intro ended
      have same : s₁.broken = (s.broken || !ok) := writes.broken
      simpa [same] using ended
    · rw [writes.buffer]
      exact id
    · rw [writes.buffer]
      exact id
  · cases ran
    exact ⟨rfl, .inl, id, id⟩

theorem unixSockReadableCb_leaves {options : Options} {s s' : State bufsiz}
    {answer : ReadAnswer} {unset : Int} {fresh : Allocation (LineBuffer bufsiz)} {ended : Bool}
    (answered : ∀ bytes, answer = .data bytes → bytes ≠ []) (sound : Allocates s.buffer fresh)
    (ran : unixSockReadableCb options s answer unset fresh = .ok (ended, s')) :
    Leaves s ended s' := by
  obtain ⟨⟨res, error, s₁⟩, reads, ran⟩ := except_bind_ok ran
  obtain ⟨⟨ok, s₂⟩, outputs, returned⟩ := except_bind_ok ran
  cases returned
  have received : Leaves s error s₁ := by
    split at reads
    · exact (receiveTail_receives answered reads).leaves sound
    · exact receiveFollow_leaves reads
  have after := received.outputs (outputWhenAllRead_outputs outputs)
  refine ⟨after.phase, ?_, after.spared, after.null⟩
  intro broken
  rcases after.broken broken with before | failed
  · exact .inl before
  · rw [Bool.or_eq_true] at failed
    rcases failed with error | short
    · exact .inr (by simp [error])
    · exact .inr (by simp [short])

/-! ## Runs -/

/-- What holds between steps. -/
structure Waits (s : State bufsiz) : Prop where
  spared : Spared s.buffer
  unbroken : s.phase ≠ .finished → s.broken = false

theorem connect_waits (options : Options) {s : State bufsiz} (opened : Int)
    (waits : Waits s) (connecting : s.phase = .connecting) :
    Waits (connect options s opened) ∧ (connect options s opened).buffer = s.buffer := by
  have unbroken := waits.unbroken (by simp [connecting])
  unfold connect
  dsimp only
  split
  · exact ⟨⟨waits.spared, fun _ => unbroken⟩, rfl⟩
  · split
    · exact ⟨⟨waits.spared, fun _ => unbroken⟩, rfl⟩
    · exact ⟨⟨waits.spared, fun _ => unbroken⟩, rfl⟩

theorem writeToServer_waits {s s' : State bufsiz} (waits : Waits s)
    (writing : s.phase = .writing) (ran : writeToServer s = .ok s') :
    Waits s' ∧ s'.buffer = s.buffer := by
  have unbroken := waits.unbroken (by simp [writing])
  obtain ⟨written, _, ran⟩ := except_bind_ok ran
  dsimp only at ran
  split at ran
  · cases ran
    exact ⟨⟨waits.spared, fun _ => unbroken⟩, rfl⟩
  · cases ran
    exact ⟨⟨waits.spared, fun _ => unbroken⟩, rfl⟩

theorem prepareForRetry_waits {options : Options} {s : State bufsiz} (spared : Spared s.buffer) :
    Waits (prepareForRetry options s) := by
  cases broken : s.broken with
  | false =>
      unfold prepareForRetry
      dsimp only
      split
      · exact ⟨spared, fun _ => broken⟩
      · exact ⟨spared, fun _ => broken⟩
  | true =>
      have stops : (options.reopenFile && options.follow && !clientpipesBroken
          { s with conn := clientconnDisconnect s.conn }) = false := by
        simp [clientpipesBroken, broken]
      simp only [prepareForRetry, stops, Bool.false_eq_true, if_false]
      exact ⟨spared, fun running => absurd rfl running⟩

@[simp] theorem prepareForRetry_buffer (options : Options) (s : State bufsiz) :
    (prepareForRetry options s).buffer = s.buffer := by
  simp only [prepareForRetry]
  split <;> rfl

theorem prepareForRetry_finished {options : Options}
    (stops : ¬ (options.follow = true ∧ options.reopenFile = true)) (s : State bufsiz) :
    (prepareForRetry options s).phase = .finished := by
  simp only [prepareForRetry]
  split
  · next retries =>
    simp only [Bool.and_eq_true] at retries
    exact absurd ⟨retries.1.2, retries.1.1⟩ stops
  · rfl

theorem Waits.steps {options : Options} {s s' : State bufsiz} (waits : Waits s)
    (steps : Steps options s s') :
    Waits s' ∧ (s.buffer.append = none → s'.buffer.append = none) := by
  obtain ⟨event, possible, ran⟩ := steps
  cases event with
  | connect opened =>
      obtain ⟨after, same⟩ := connect_waits options opened waits possible
      cases ran
      refine ⟨after, fun missing => ?_⟩
      rw [same]
      exact missing
  | write answers =>
      have prepared : Waits { s with answers } := ⟨waits.spared, waits.unbroken⟩
      obtain ⟨after, same⟩ := writeToServer_waits prepared possible ran
      refine ⟨after, fun missing => ?_⟩
      rw [same]
      exact missing
  | readable answer unset fresh answers =>
      obtain ⟨looping, sound, answered⟩ := possible
      obtain ⟨⟨ended, s₁⟩, calls, returned⟩ := except_bind_ok ran
      have leaves := @unixSockReadableCb_leaves bufsiz options { s with answers } s₁ answer unset
        fresh ended (fun bytes same => (answered bytes same).1) sound calls
      cases returned
      cases ended with
      | true =>
          refine ⟨prepareForRetry_waits (leaves.spared waits.spared), fun missing => ?_⟩
          simpa using leaves.null missing
      | false =>
          refine ⟨⟨leaves.spared waits.spared, fun running => ?_⟩, leaves.null⟩
          have unbroken := waits.unbroken (by simp [looping])
          cases broken : s₁.broken with
          | false => exact broken
          | true =>
              rcases leaves.broken broken with before | failed
              · rw [show s.broken = true from before] at unbroken
                cases unbroken
              · cases failed

theorem Waits.continues {options : Options} {s s' : State bufsiz} (waits : Waits s)
    (continues : Relation.ReflTransGen (Steps options) s s') :
    Waits s' ∧ (s.buffer.append = none → s'.buffer.append = none) := by
  induction continues with
  | refl => exact ⟨waits, id⟩
  | tail _ steps ih =>
      obtain ⟨after, null⟩ := ih.1.steps steps
      exact ⟨after, null ∘ ih.2⟩

theorem Reachable.waits {options : Options} {s : State bufsiz} (reachable : Reachable options s) :
    Waits s := by
  induction reachable with
  | start first append fresh fresh' ran =>
      obtain ⟨supplied, rfl⟩ := started_of_initAll options.buffer fresh fresh' ran
      exact ⟨fun _ => ⟨_, _, _, supplied.linked⟩, fun _ => rfl⟩
  | step _ steps ih => exact (ih.steps steps).1

/-! ## After the failure -/

theorem clientpipesWriteBlocking_accepted {s : State bufsiz} {buf : List UInt8}
    {count : Nat} {more : List WriteAnswer} (answers : s.answers = .accepted count :: more)
    (fits : buf.length ≤ count) :
    clientpipesWriteBlocking s buf =
      .ok (true, { s with answers := more, stdout := s.stdout ++ buf }) := by
  simp [clientpipesWriteBlocking, stdoutWriteBlocking, answers, safeWriteForever, write,
    writtenTooLittle, List.take_of_length_le fits, except_ok_bind, except_pure]

/-- Every write finds its answer, and is complete. -/
theorem outputTailChunks_answered {s : State bufsiz} {fuel : Nat} {pos : Pointer}
    {offset : UInt64} {chunks : List (List UInt8)}
    (walked : walkTail s.buffer fuel pos offset = .ok chunks)
    (answered : s.answers = List.replicate fuel (.accepted bufsiz)) :
    ∃ s', outputTailChunks fuel s pos offset = .ok (true, s') := by
  induction fuel generalizing s pos offset chunks with
  | zero => cases walked
  | succ fuel ih =>
      obtain ⟨chunkSize, sized, walked⟩ := except_bind_ok walked
      simp only [outputTailChunks, sized, except_ok_bind]
      split
      · next positive =>
        rw [if_pos positive] at walked
        obtain ⟨chunk, held, walked⟩ := except_bind_ok walked
        obtain ⟨pos', advances, walked⟩ := except_bind_ok walked
        obtain ⟨rest, walkedRest, _⟩ := except_bind_ok walked
        have wrote := clientpipesWriteBlocking_accepted answered (length_chunkBytes_le held)
        simp only [held, except_ok_bind, wrote, Bool.not_true, Bool.false_eq_true, if_false,
          advances]
        exact @ih { s with
            answers := List.replicate fuel (.accepted bufsiz)
            stdout := s.stdout ++ chunk } pos' 0 rest walkedRest rfl
      · exact ⟨s, rfl⟩

/-- With such answers the end of a callback finds no error. -/
theorem outputWhenAllRead_answered {options : Options} {s : State bufsiz} {tail : List UInt8}
    (offered : bufferTail s.buffer = .ok tail)
    (answered : s.answers =
      List.replicate (blockCount s.buffer.heap + 1) (.accepted bufsiz)) :
    ∃ s', outputWhenAllRead options s = .ok (true, s') := by
  obtain ⟨chunks, walked, _⟩ := except_bind_ok offered
  obtain ⟨s₁, prints⟩ := outputTailChunks_answered walked answered
  unfold outputWhenAllRead outputBufferedTail
  split
  · split
    · simp only [prints, except_ok_bind, except_pure]
      exact ⟨_, rfl⟩
    · exact ⟨_, rfl⟩
  · exact ⟨s, rfl⟩

/-- The read of a callback whose append comes to its `malloc`, and gets nothing. -/
theorem CallsMalloc.receiveTail {options : Options} {s : State bufsiz} {answer : ReadAnswer}
    {unset : Int} (calls : CallsMalloc options s answer unset) (spared : Spared s.buffer)
    (answered : ∀ bytes, answer = .data bytes → bytes ≠ []) :
    ∃ res conn' buffer' tail, buffer'.append = none ∧ bufferTail buffer' = .ok tail ∧
      ∀ answers, Client.receiveTail options { s with answers } answer unset none =
        .ok (res, true, { s with answers, conn := conn', buffer := buffer' }) := by
  obtain ⟨⟨res, stored⟩, conn', reads, positive, calls⟩ := calls.calls
  rcases received_cases answered reads with ⟨_, idle⟩ | ⟨nonempty, counted⟩
  · exact absurd positive idle
  · simp only at nonempty counted calls
    subst counted
    obtain ⟨placed, places, _⟩ := except_bind_ok calls
    obtain ⟨present, fits⟩ := placed_of_placeBytes places
    obtain ⟨spare, front, rest, linked⟩ := spared present
    obtain ⟨buffer', appends, outOfMemory⟩ := linked.outOfMemory fits calls
    obtain ⟨tail, offered, _⟩ := outOfMemory.tail
    refine ⟨stored.length, conn', buffer', tail, outOfMemory.append, offered, ?_⟩
    intro answers
    have received := @receiveTail_append bufsiz options { s with answers } answer unset stored
      conn' none nonempty reads
    rw [received, appends, except_ok_bind]
    rfl

theorem CallsMalloc.handle_eq {options : Options} {s s₁ : State bufsiz} {answer : ReadAnswer}
    {unset res : Int} {answers : List WriteAnswer} (calls : CallsMalloc options s answer unset)
    (reads : Client.receiveTail options { s with answers } answer unset none =
      .ok (res, true, s₁)) :
    handle options s (.readable answer unset none answers) =
      outputWhenAllRead options s₁ >>= fun result => .ok (prepareForRetry options result.2) := by
  have unread : clientconnIsAllServerBufferRead
      ({ s with answers } : State bufsiz).conn = false := calls.unread
  simp only [handle, unixSockReadableCb, unread, Bool.not_false, if_true, reads, except_ok_bind]
  cases outputWhenAllRead options s₁ with
  | error fault => rfl
  | ok result => simp [except_ok_bind, except_pure]

theorem continues_of_finished {options : Options} {s s' : State bufsiz}
    (finished : s.phase = .finished) (continues : Relation.ReflTransGen (Steps options) s s') :
    s' = s := by
  induction continues with
  | refl => rfl
  | tail _ steps ih =>
      subst ih
      obtain ⟨event, possible, _⟩ := steps
      cases event with
      | connect opened =>
          rw [show _ = _ from possible] at finished
          cases finished
      | write answers =>
          rw [show _ = _ from possible] at finished
          cases finished
      | readable answer unset fresh answers =>
          rw [possible.1] at finished
          cases finished

/-- Nothing the environment does after the failure brings the client back to the
buffer, exactly if it does not connect again. -/
theorem Waits.appends_iff {options : Options} {s : State bufsiz} {answer : ReadAnswer}
    {unset : Int} (waits : Waits s) (possible : Possible s (.readable answer unset none []))
    (calls : CallsMalloc options s answer unset) :
    (∀ answers s', handle options s (.readable answer unset none answers) = .ok s' →
      ∀ s'', Relation.ReflTransGen (Steps options) s' s'' →
        s''.buffer.append = none ∧ ∀ event, Possible s'' event → ¬ Appends s'' event) ↔
      ¬ (options.follow = true ∧ options.reopenFile = true) := by
  obtain ⟨looping, sound, answered⟩ := possible
  obtain ⟨res, conn', buffer', tail, missing, offered, reads⟩ :=
    calls.receiveTail waits.spared fun bytes same => (answered bytes same).1
  constructor
  · rintro never ⟨following, reopening⟩
    obtain ⟨answers, enough⟩ : ∃ answers,
        answers = List.replicate (blockCount buffer'.heap + 1) (WriteAnswer.accepted bufsiz) :=
      ⟨_, rfl⟩
    obtain ⟨s₂, prints⟩ := @outputWhenAllRead_answered bufsiz options
      { s with answers, conn := conn', buffer := buffer' } tail offered enough
    have handled := calls.handle_eq (reads answers)
    rw [prints, except_ok_bind] at handled
    have unbroken : s₂.broken = false := by
      have outputs := (outputWhenAllRead_outputs prints).broken
      simp only [Bool.not_true, Bool.or_false] at outputs
      rw [outputs]
      exact waits.unbroken (by simp [looping])
    have retries : prepareForRetry options s₂ =
        { s₂ with conn := clientconnDisconnect s₂.conn, phase := .connecting } := by
      simp [prepareForRetry, following, reopening, clientpipesBroken, unbroken]
    rw [retries] at handled
    have reset := @clientconnConnect_of_eof (clientconnDisconnect s₂.conn) (by simp) 3
    have reconnects : Steps options
        { s₂ with conn := clientconnDisconnect s₂.conn, phase := .connecting }
        { s₂ with
          conn := { clientUnixSock := 3, closes := (clientconnDisconnect s₂.conn).closes }
          sent := []
          phase := .looping } := by
      refine ⟨.connect 3, rfl, ?_⟩
      simp [handle, connect, reset, following, invalidSocket]
    have after := never _ _ handled _ (.single reconnects)
    exact after.2 (.readable .eof 0 none []) ⟨rfl, by simp [Allocates], by simp⟩ rfl
  · intro stops answers s' ran s'' continues
    rw [calls.handle_eq (reads answers)] at ran
    obtain ⟨⟨ok, s₂⟩, prints, returned⟩ := except_bind_ok ran
    have outputs := outputWhenAllRead_outputs prints
    have finished : s'.phase = .finished := by
      cases returned
      exact prepareForRetry_finished stops s₂
    have same := continues_of_finished finished continues
    subst same
    constructor
    · cases returned
      rw [prepareForRetry_buffer, show s₂.buffer = buffer' from outputs.buffer]
      exact missing
    · intro event possible
      cases event with
      | connect opened => exact id
      | write answers => exact id
      | readable answer unset fresh answers =>
          rw [possible.1] at finished
          cases finished

/-- An append for which `malloc` fails returns false and leaves a buffer that can be
read and freed; the server does not append again; and the client does not exactly if it
was not told to follow over reconnections. -/
theorem outOfMemory_iff (bufsiz : Nat) :
    (∀ (config : Config) (execution : Execution bufsiz) (s : Buffer.State bufsiz)
      (bytes : List UInt8), execution.Supplied config → execution.Proper →
      execution.run config = .ok (true, s) → bytes.length ≤ bufsiz →
      callsMalloc config s bytes = .ok true →
      ∃ s', bufferAppend config s bytes none = .ok (false, s') ∧
        OutOfMemory config s s' bytes) ∧
    (∀ (options : Server.Options) (append : Nat × LineBuffer bufsiz)
      (s s' s'' : Server.State bufsiz) (bytes : List UInt8) (answers : List WriteAnswer),
      Server.Reachable options append (fun _ => True) s →
      Server.Possible s (.stdin (.data bytes) none answers) →
      callsMalloc options.buffer s.buffer bytes = .ok true →
      Server.handle options s (.stdin (.data bytes) none answers) = .ok s' →
      Relation.ReflTransGen (Server.Steps options) s' s'' →
      s''.buffer.append = none ∧
        ∀ res fresh answers, ¬ Server.Possible s'' (.stdin res fresh answers)) ∧
    ∀ (options : Options) (s : State bufsiz) (answer : ReadAnswer) (unset : Int),
      Reachable options s → Possible s (.readable answer unset none []) →
      CallsMalloc options s answer unset →
      ((∀ answers s', handle options s (.readable answer unset none answers) = .ok s' →
        ∀ s'', Relation.ReflTransGen (Steps options) s' s'' →
          s''.buffer.append = none ∧ ∀ event, Possible s'' event → ¬ Appends s'' event) ↔
        ¬ (options.follow = true ∧ options.reopenFile = true)) := by
  refine ⟨?_, ?_, ?_⟩
  · intro config execution s bytes supplied proper ran fits calls
    obtain ⟨spare, front, rest, linked⟩ := supplied.run_linked proper ran
    exact linked.outOfMemory fits calls
  · intro options append s s' s'' bytes answers reachable possible calls ran continues
    have ended := (reachable.appendable.exhausted possible calls ran).continues continues
    exact ⟨ended.append, ended.not_stdin⟩
  · intro options s answer unset reachable possible calls
    exact reachable.waits.appends_iff possible calls

/-! A client that has read three bytes of a tail of six, with no memory left. -/

def sampleFollowing : Options where
  buffer := ⟨false, 10⟩
  follow := true
  reopenFile := true

def sampleAnswered (answer : ReadAnswer) : Event 4 := .readable answer 0 none []

def sampleAfter (s : State 4) (event : Event 4) : State 4 :=
  (handle sampleFollowing s event).toOption.getD s

def sampleConnected : State 4 :=
  sampleAfter { buffer := sampleExecution.initial } (.connect 3)

def sampleDigit : State 4 := sampleAfter sampleConnected (sampleAnswered (.data [54]))

def sampleFull : State 4 :=
  sampleAfter sampleDigit (sampleAnswered (.data [10, 97, 98, 99]))

def sampleDropped : State 4 := sampleAfter sampleFull (sampleAnswered (.data [100, 101]))

theorem sampleFull_reachable : Reachable sampleFollowing sampleFull := by
  have started : Reachable sampleFollowing
      ({ buffer := sampleExecution.initial } : State 4) :=
    .start sampleExecution.first sampleExecution.append (by decide) (by decide) rfl
  have connected : Reachable sampleFollowing sampleConnected :=
    .step started ⟨.connect 3, by decide, rfl⟩
  have digit : Reachable sampleFollowing sampleDigit :=
    .step connected ⟨sampleAnswered (.data [54]), by decide, rfl⟩
  exact .step digit ⟨sampleAnswered (.data [10, 97, 98, 99]), by decide, rfl⟩

theorem sampleFull_callsMalloc : CallsMalloc sampleFollowing sampleFull (.data [100, 101]) 0 where
  unread := by decide
  calls := ⟨⟨2, [100, 101]⟩, ⟨3, true, 6, 1, []⟩, by decide, by decide, by decide⟩

theorem outOfMemory_iff_of_sampleFull :
    (∀ answers s',
      handle sampleFollowing sampleFull (.readable (.data [100, 101]) 0 none answers) = .ok s' →
        ∀ s'', Relation.ReflTransGen (Steps sampleFollowing) s' s'' →
          s''.buffer.append = none ∧ ∀ event, Possible s'' event → ¬ Appends s'' event) ↔
      ¬ (sampleFollowing.follow = true ∧ sampleFollowing.reopenFile = true) :=
  (outOfMemory_iff 4).2.2 sampleFollowing sampleFull (.data [100, 101]) 0 sampleFull_reachable
    (by decide) sampleFull_callsMalloc

/-- It connects again and calls `buffer_end`. -/
theorem appends_of_sampleFull :
    ¬ ∀ (options : Options) (s : State 4) (answer : ReadAnswer) (unset : Int),
      Reachable options s → Possible s (.readable answer unset none []) →
      CallsMalloc options s answer unset →
      ∀ answers s', handle options s (.readable answer unset none answers) = .ok s' →
        ∀ s'', Relation.ReflTransGen (Steps options) s' s'' →
          ∀ event, Possible s'' event → ¬ Appends s'' event := by
  intro never
  have reconnects : Steps sampleFollowing sampleDropped
      (sampleAfter sampleDropped (.connect 3)) := ⟨.connect 3, by decide, rfl⟩
  exact never sampleFollowing sampleFull (.data [100, 101]) 0 sampleFull_reachable (by decide)
    sampleFull_callsMalloc [] sampleDropped rfl _ (.single reconnects) (sampleAnswered .eof)
    (by decide) rfl

end Tailserver.Client
