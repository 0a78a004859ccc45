import Tailserver.Client.Callback

/-! The client over many connections. `clientconn_connect` starts the decoder anew, but
the tail buffer is never emptied, so what was received of a tail that broke off stands
in front of the first tail that comes in full. -/

set_option autoImplicit false

namespace Tailserver.Client

open CMemory Buffer

variable {bufsiz : Nat}

/-- What a server sends on one connection. -/
structure Stream where
  tail : List UInt8
  follow : List UInt8
  /-- A tail is held in memory. -/
  small : tail.length < Word.signedMax

def Stream.bytes (stream : Stream) : List UInt8 :=
  header stream.tail ++ stream.tail ++ stream.follow

/-- A connection, and the bytes of it that the client has read. -/
structure Taken where
  stream : Stream
  bytes : List UInt8

namespace Taken

def read (taken : Taken) (bytes : List UInt8) : Taken :=
  { taken with bytes := taken.bytes ++ bytes }

def tailPart (taken : Taken) : List UInt8 := Client.tailPart taken.stream.tail taken.bytes

def followPart (taken : Taken) : List UInt8 := Client.followPart taken.stream.tail taken.bytes

/-- The announced tail was delivered completely. -/
def whole (taken : Taken) : Bool := Client.whole taken.stream.tail taken.bytes

end Taken

/-- How a step changes the record of all connections so far, the last one being the
one in use. -/
inductive Serves : List Taken → Event bufsiz → List Taken → Prop where
  | opened {history : List Taken} {opened : Int} (stream : Stream) :
      opened ≠ invalidSocket →
      Serves history (.connect opened) (history ++ [⟨stream, []⟩])
  | refused {history : List Taken} : Serves history (.connect invalidSocket) history
  | data {earlier : List Taken} {taken : Taken} {bytes : List UInt8} {unset : Int}
      {fresh : Allocation (LineBuffer bufsiz)} {answers : List WriteAnswer} :
      taken.bytes ++ bytes <+: taken.stream.bytes →
      Serves (earlier ++ [taken]) (.readable (.data bytes) unset fresh answers)
        (earlier ++ [taken.read bytes])
  | nothing {history : List Taken} {answer : ReadAnswer} {unset : Int}
      {fresh : Allocation (LineBuffer bufsiz)} {answers : List WriteAnswer} :
      (∀ bytes, answer ≠ .data bytes) →
      Serves history (.readable answer unset fresh answers) history

/-- Allocations succeed and writes to standard output are complete. -/
def Supplied : Event bufsiz → Prop
  | .connect _ => True
  | .write answers => Completes 1 answers
  | .readable _ _ fresh answers => fresh.isSome ∧ Completes bufsiz answers

/-- The states a client reaches, with the record of its connections. The block `append`
is the one `buffer_init` allocates for the first bytes. -/
inductive Reaches (options : Options) (append : Nat × LineBuffer bufsiz) :
    State bufsiz → List Taken → Prop where
  | start (first : Nat × LineBuffer bufsiz) {s : State bufsiz} :
      FreshBuffer ({} : Buffer.State bufsiz) first.1 →
      FreshBuffer ({ heap := single first } : Buffer.State bufsiz) append.1 →
      initAll (some first) (some append) = .ok (true, s) → Reaches options append s []
  | step {s s' : State bufsiz} {history history' : List Taken} (event : Event bufsiz) :
      Reaches options append s history → Possible s event → Supplied event →
      Serves history event history' → handle options s event = .ok s' →
      Reaches options append s' history'

/-! ## What is printed -/

/-- What the client prints when `kept` is in its buffer already. -/
def shown (config : Config) : List UInt8 → List Taken → List UInt8
  | _, [] => []
  | kept, taken :: later =>
      if taken.whole then
        requiredTail config (kept ++ taken.tailPart) ++
          (taken :: later).flatMap Taken.followPart
      else shown config (kept ++ taken.tailPart) later

theorem shown_of_any {config : Config} {kept : List UInt8} {earlier : List Taken}
    (printed : earlier.any Taken.whole = true) (taken : Taken) :
    shown config kept (earlier ++ [taken]) = shown config kept earlier ++ taken.followPart := by
  induction earlier generalizing kept with
  | nil => cases printed
  | cons head rest ih =>
      cases first : head.whole with
      | true => simp [shown, first]
      | false =>
          have later : rest.any Taken.whole = true := by simpa [first] using printed
          simp only [List.cons_append, shown, first, Bool.false_eq_true, if_false]
          exact ih later

theorem shown_of_none {config : Config} {kept : List UInt8} {earlier : List Taken}
    (unprinted : earlier.any Taken.whole = false) (later : List Taken) :
    shown config kept (earlier ++ later) =
      shown config (kept ++ earlier.flatMap Taken.tailPart) later := by
  induction earlier generalizing kept with
  | nil => simp
  | cons head rest ih =>
      rw [List.any_cons, Bool.or_eq_false_iff] at unprinted
      simp only [List.cons_append, shown, unprinted.1, Bool.false_eq_true, if_false,
        ih unprinted.2, List.flatMap_cons, List.append_assoc]

/-! ## One step -/

/-- The connection in use is the last of the record. -/
structure Current (s : State bufsiz) (taken : Taken) : Prop where
  decoding : Decoding taken.stream.tail s.conn taken.bytes
  opened : clientconnEof s.conn = false

/-- What holds between steps. -/
structure Reconnecting (options : Options) (s : State bufsiz) (history : List Taken) :
    Prop where
  ready : Ready options.buffer s.buffer (history.flatMap Taken.tailPart)
  stdout : s.stdout = shown options.buffer [] history
  tailOutput : s.tailOutput = history.any Taken.whole
  broken : s.broken = false
  closed : s.phase ≠ .looping → clientconnEof s.conn = true
  current : s.phase = .looping → ∃ earlier taken, history = earlier ++ [taken] ∧
    Current s taken

theorem Reconnecting.answers {options : Options} {s : State bufsiz} {history : List Taken}
    (reconnecting : Reconnecting options s history) (answers : List WriteAnswer) :
    Reconnecting options { s with answers } history where
  ready := reconnecting.ready
  stdout := reconnecting.stdout
  tailOutput := reconnecting.tailOutput
  broken := reconnecting.broken
  closed := reconnecting.closed
  current := fun looping =>
    have ⟨earlier, taken, split, current⟩ := reconnecting.current looping
    ⟨earlier, taken, split, current.decoding, current.opened⟩

theorem shown_append_nil (config : Config) (history : List Taken) (stream : Stream) :
    shown config [] (history ++ [⟨stream, []⟩]) = shown config [] history := by
  have unread : (Taken.mk stream []).whole = false := by
    simp [Taken.whole, Client.whole, header]
  cases printed : history.any Taken.whole with
  | true =>
      rw [shown_of_any printed]
      simp [Taken.followPart, Client.followPart]
  | false =>
      have before : shown config [] (history ++ []) = _ := shown_of_none printed []
      rw [List.append_nil] at before
      rw [shown_of_none printed, before]
      simp [shown, unread]

theorem Reconnecting.connect {options : Options} {s : State bufsiz} {history : List Taken}
    (reconnecting : Reconnecting options s history) (following : options.follow = true)
    (connecting : s.phase = .connecting) {opened : Int} (success : opened ≠ invalidSocket)
    (stream : Stream) :
    Reconnecting options (connect options s opened) (history ++ [⟨stream, []⟩]) := by
  have reset := clientconnConnect_of_eof (reconnecting.closed (by simp [connecting])) opened
  have opens : Client.connect options s opened =
      { s with
        conn := { clientUnixSock := opened, closes := s.conn.closes }
        sent := []
        phase := .looping } := by
    simp [Client.connect, reset, success, following]
  rw [opens]
  refine ⟨?_, ?_, ?_, reconnecting.broken, fun idle => absurd rfl idle, fun _ => ?_⟩
  · simpa [Taken.tailPart, Client.tailPart] using reconnecting.ready
  · rw [shown_append_nil]
    exact reconnecting.stdout
  · simpa [Taken.whole, Client.whole, header] using reconnecting.tailOutput
  · exact ⟨history, _, rfl, .inHeader List.nil_prefix rfl rfl, by simp [clientconnEof, success]⟩

theorem Reconnecting.refused {options : Options} {s : State bufsiz} {history : List Taken}
    (reconnecting : Reconnecting options s history) (connecting : s.phase = .connecting) :
    Reconnecting options (Client.connect options s invalidSocket) history := by
  have reset := clientconnConnect_of_eof (reconnecting.closed (by simp [connecting]))
    invalidSocket
  have ends : Client.connect options s invalidSocket =
      { s with conn := { closes := s.conn.closes }, sent := [], phase := .finished } := by
    simp [Client.connect, reset]
  rw [ends]
  exact ⟨reconnecting.ready, reconnecting.stdout, reconnecting.tailOutput,
    reconnecting.broken, fun _ => rfl, fun looping => by cases looping⟩

/-- The callback and what `clientloop_run` does when it breaks the event loop. -/
theorem Reconnecting.of_reads {options : Options} {s : State bufsiz} {earlier : List Taken}
    {taken taken' : Taken} {answer : ReadAnswer} {text printed : List UInt8}
    {result : Bool × State bufsiz}
    (reconnecting : Reconnecting options s (earlier ++ [taken])) (looping : s.phase = .looping)
    (reads : Reads options s answer taken'.stream.tail taken'.bytes text printed result)
    (grown : (earlier ++ [taken']).flatMap Taken.tailPart = text)
    (shows : shown options.buffer [] (earlier ++ [taken']) =
      shown options.buffer [] (earlier ++ [taken]) ++ printed)
    (printed : (earlier ++ [taken']).any Taken.whole =
      ((earlier ++ [taken]).any Taken.whole || taken'.whole)) :
    Reconnecting options
      (if result.1 then prepareForRetry options result.2 else result.2) (earlier ++ [taken']) := by
  have ready := reads.ready
  have stdout := reads.stdout
  have tailOutput := reads.tailOutput
  have broken := reads.broken.trans reconnecting.broken
  rw [← grown] at ready
  rw [reconnecting.stdout, ← shows] at stdout
  have every : result.2.tailOutput = (earlier ++ [taken']).any Taken.whole := by
    rw [tailOutput, reconnecting.tailOutput, printed]
    rfl
  cases ended : result.1 with
  | true =>
      have closes : clientconnEof (clientconnDisconnect result.2.conn) = true := by simp
      simp only [if_true, prepareForRetry]
      split
      · exact ⟨ready, stdout, every, broken, fun _ => closes, fun looping => by cases looping⟩
      · exact ⟨ready, stdout, every, broken, fun _ => closes, fun looping => by cases looping⟩
  | false =>
      have goesOn := reads.ended
      rw [ended] at goesOn
      have opened : clientconnEof result.2.conn = false := by
        cases eof : clientconnEof result.2.conn with
        | false => rfl
        | true => simp [eof] at goesOn
      simp only [Bool.false_eq_true, if_false]
      refine ⟨ready, stdout, every, broken, ?_, fun _ => ⟨earlier, taken', rfl, reads.decoding, opened⟩⟩
      intro idle
      rw [reads.phase, looping] at idle
      exact absurd rfl idle

theorem Reconnecting.streaming {options : Options} {s : State bufsiz} {earlier : List Taken}
    {taken : Taken} (reconnecting : Reconnecting options s (earlier ++ [taken]))
    (looping : s.phase = .looping) :
    Streaming options s taken.stream.tail taken.bytes
      ((earlier ++ [taken]).flatMap Taken.tailPart) := by
  obtain ⟨earlier', taken', split, current⟩ := reconnecting.current looping
  obtain ⟨rfl, same⟩ := List.append_inj' split rfl
  cases same
  refine ⟨current.decoding, current.opened, reconnecting.ready, fun all => ?_⟩
  rw [current.decoding.all_read_eq] at all
  rw [reconnecting.tailOutput]
  simp [Taken.whole, all]

/-- One run of the callback, whatever `read` answers of what the server in use sent. -/
theorem Reconnecting.read {options : Options} {s : State bufsiz} {earlier : List Taken}
    {taken : Taken} {answer : ReadAnswer} {fresh : Allocation (LineBuffer bufsiz)}
    (reconnecting : Reconnecting options s (earlier ++ [taken])) (room : 0 < bufsiz)
    (looping : s.phase = .looping)
    (arrives : ∀ bytes, answer = .data bytes → bytes ≠ [] ∧ bytes.length ≤ readLength s ∧
      taken.bytes ++ bytes <+: taken.stream.bytes)
    (sound : Allocates s.buffer fresh) (granted : fresh.isSome)
    (complete : Completes bufsiz s.answers) (unset : Int) :
    Returns (unixSockReadableCb options s answer unset fresh) fun result =>
      Reconnecting options (if result.1 then prepareForRetry options result.2 else result.2)
        (earlier ++ [taken.read answer.bytes]) := by
  have streaming := reconnecting.streaming looping
  obtain ⟨stored, passed, part, follows, unfollowed, returns⟩ :=
    streaming.readable room taken.stream.small arrives sound granted complete unset
  have grown : (earlier ++ [taken.read answer.bytes]).flatMap Taken.tailPart =
      (earlier ++ [taken]).flatMap Taken.tailPart ++ stored := by
    simp [Taken.tailPart, Taken.read, part]
  have follows' : (taken.read answer.bytes).followPart = taken.followPart ++ passed := follows
  have kept : taken.whole = true → (taken.read answer.bytes).whole = true :=
    fun finished => whole_append finished answer.bytes
  rw [← grown] at returns
  apply returns.mono
  intro result reads
  apply reconnecting.of_reads looping reads rfl
  · cases printed : earlier.any Taken.whole with
    | true =>
        rw [shown_of_any printed, shown_of_any printed, follows', reconnecting.tailOutput]
        simp [printed]
    | false =>
        have completed : whole taken.stream.tail (taken.bytes ++ answer.bytes) =
            (taken.read answer.bytes).whole := rfl
        rw [shown_of_none printed, shown_of_none printed, reconnecting.tailOutput, completed]
        cases finished : taken.whole with
        | true =>
            have same : (taken.read answer.bytes).tailPart = taken.tailPart :=
              tailPart_append_of_whole finished answer.bytes
            simp [shown, finished, kept finished, follows', same]
        | false =>
            obtain ⟨before, passes⟩ : taken.followPart = [] ∧ passed = [] := by
              simpa [follows'] using show (taken.read answer.bytes).followPart = [] from
                unfollowed finished
            simp [printed, finished, shown, follows', before, passes]
  · cases finished : taken.whole with
    | true => simp [finished, kept finished]
    | false => simp [finished]

theorem Reconnecting.handle {options : Options} {s : State bufsiz}
    {history history' : List Taken} {event : Event bufsiz}
    (reconnecting : Reconnecting options s history) (following : options.follow = true)
    (room : 0 < bufsiz) (possible : Possible s event) (supplied : Supplied event)
    (serves : Serves history event history') :
    Returns (handle options s event) (Reconnecting options · history') := by
  cases serves with
  | opened stream success => exact reconnecting.connect following possible success stream
  | refused => exact reconnecting.refused possible
  | @data earlier taken bytes unset fresh answers isPrefix =>
      obtain ⟨looping, sound, reads⟩ := possible
      obtain ⟨granted, complete⟩ := supplied
      rw [Client.handle]
      have arrives : ∀ bytes', ReadAnswer.data bytes = .data bytes' → bytes' ≠ [] ∧
          bytes'.length ≤ readLength s ∧ taken.bytes ++ bytes' <+: taken.stream.bytes := by
        rintro _ ⟨⟩
        exact ⟨(reads bytes rfl).1, (reads bytes rfl).2, isPrefix⟩
      apply ((reconnecting.answers answers).read room looping arrives sound granted complete
        unset).bind
      rintro ⟨ended, s'⟩ done
      exact done
  | @nothing _ answer unset fresh answers empty =>
      obtain ⟨looping, sound, reads⟩ := possible
      obtain ⟨granted, complete⟩ := supplied
      obtain ⟨earlier, taken, rfl, _⟩ := reconnecting.current looping
      have same : taken.read answer.bytes = taken := by
        simp [Taken.read, (bytes_of_empty empty).1]
      rw [Client.handle]
      apply ((reconnecting.answers answers).read room looping
        (fun bytes data => absurd data (empty bytes)) sound granted complete unset).bind
      rintro ⟨ended, s'⟩ done
      rw [same] at done
      exact done

/-! ## Runs -/

theorem Reconnecting.start {options : Options} {first append : Nat × LineBuffer bufsiz}
    {s : State bufsiz} (fresh : FreshBuffer ({} : Buffer.State bufsiz) first.1)
    (fresh' : FreshBuffer ({ heap := single first } : Buffer.State bufsiz) append.1)
    (zeroed : options.buffer.countLines = true → append.2.nlines = 0)
    (ran : initAll (some first) (some append) = .ok (true, s)) : Reconnecting options s [] := by
  obtain ⟨supplied, rfl⟩ := started_of_initAll options.buffer fresh fresh' ran
  exact ⟨supplied.ready zeroed, rfl, rfl, rfl, fun _ => rfl, fun looping => by cases looping⟩

theorem Reaches.reconnecting {options : Options} {append : Nat × LineBuffer bufsiz}
    {s : State bufsiz} {history : List Taken} (reaches : Reaches options append s history)
    (following : options.follow = true) (room : 0 < bufsiz)
    (zeroed : options.buffer.countLines = true → append.2.nlines = 0) :
    Reconnecting options s history := by
  induction reaches with
  | start first fresh fresh' ran => exact .start fresh fresh' zeroed ran
  | step event _ possible supplied serves ran ih =>
      exact (ih.handle following room possible supplied serves).of_ok ran

/-! ## What should be printed -/

/-- The tail of the first connection that delivered it completely, and what follows
on this connection and the later ones. -/
def required (config : Config) : List Taken → List UInt8
  | [] => []
  | taken :: later =>
      if taken.whole then
        requiredTail config taken.stream.tail ++ (taken :: later).flatMap Taken.followPart
      else required config later

/-- The bytes `before` stay out of what is offered of `tail`: the tail has enough
units, and at the limit the bytes before it end with a whole one. -/
def Hidden (config : Config) (before tail : List UInt8) : Prop :=
  before = [] ∨ config.nUnits.toNat < tail.countP (unitEnds config) ∨
    (tail.countP (unitEnds config) = config.nUnits.toNat ∧
      ∃ init last, before = init ++ [last] ∧ unitEnds config last = true)

/-- No part of a tail that broke off shows in the first tail that is delivered
completely. -/
def Unmixed (config : Config) (history : List Taken) : Prop :=
  ∀ earlier taken later, history = earlier ++ taken :: later →
    earlier.any Taken.whole = false → taken.whole = true →
      Hidden config (earlier.flatMap Taken.tailPart) taken.stream.tail

theorem hidden_iff (config : Config) (before tail : List UInt8) :
    requiredTail config (before ++ tail) = requiredTail config tail ↔
      Hidden config before tail := by
  rw [requiredTail_eq_lastUnits, requiredTail_eq_lastUnits, Units.lastUnits_append_iff]
  rfl

theorem Taken.tailPart_of_whole {taken : Taken} (finished : taken.whole = true) :
    taken.tailPart = taken.stream.tail :=
  Client.tailPart_of_whole finished

theorem shown_eq_required_iff (config : Config) (kept : List UInt8) (history : List Taken) :
    shown config kept history = required config history ↔
      ∀ earlier taken later, history = earlier ++ taken :: later →
        earlier.any Taken.whole = false → taken.whole = true →
          Hidden config (kept ++ earlier.flatMap Taken.tailPart) taken.stream.tail := by
  induction history generalizing kept with
  | nil => simp [shown, required]
  | cons head rest ih =>
      cases first : head.whole with
      | true =>
          simp only [shown, required, first, if_true, List.append_cancel_right_eq,
            Taken.tailPart_of_whole first, hidden_iff]
          constructor
          · intro hidden earlier taken later split unprinted finished
            cases earlier with
            | nil =>
                cases split
                simpa using hidden
            | cons _ earlier =>
                cases split
                simp [first] at unprinted
          · intro every
            simpa using every [] head rest rfl rfl first
      | false =>
          simp only [shown, required, first, Bool.false_eq_true, if_false, ih]
          constructor
          · intro every earlier taken later split unprinted finished
            cases earlier with
            | nil =>
                cases split
                rw [first] at finished
                cases finished
            | cons _ earlier =>
                cases split
                rw [List.any_cons, first, Bool.false_or] at unprinted
                simpa using every earlier taken later rfl unprinted finished
          · intro every earlier taken later split unprinted finished
            have whole := every (head :: earlier) taken later (by rw [split]; rfl)
              (by simp [first, unprinted]) finished
            simpa using whole

/-- With any breaks of any number of connections: no step fails, and what is printed
is the tail of the first connection that delivers it completely and the follow data
from there on, exactly if no part of an earlier tail reaches into it. -/
theorem unmixed_iff (options : Options) (append : Nat × LineBuffer bufsiz)
    (following : options.follow = true) (room : 0 < bufsiz) (zeroed : append.2.nlines = 0)
    (s : State bufsiz) (history : List Taken) (reaches : Reaches options append s history) :
    (∀ event history', Possible s event → Supplied event → Serves history event history' →
        Returns (handle options s event) fun _ => True) ∧
      (s.stdout = required options.buffer history ↔ Unmixed options.buffer history) := by
  have reconnecting := reaches.reconnecting following room (fun _ => zeroed)
  constructor
  · intro event history' possible supplied serves
    exact (reconnecting.handle following room possible supplied serves).mono
      fun _ _ => trivial
  · rw [reconnecting.stdout, shown_eq_required_iff]
    rfl

/-! A connection that breaks off after one byte of its tail of two bytes, and one with
a tail of one byte. -/

def sampleRetryOptions : Options where
  buffer := ⟨false, 10⟩
  follow := true
  reopenFile := true

def sampleBroken : Stream := ⟨[97, 98], [], by decide⟩

def sampleWhole : Stream := ⟨[99], [], by decide⟩

def sampleReadable (answer : ReadAnswer) : Event 4 :=
  .readable answer 0 (some (3, ⟨sampleArea, 9, 9, none⟩)) [.accepted 9]

def sampleRetry (events : List (Event 4)) : State 4 :=
  (events.foldlM (handle sampleRetryOptions) { buffer := sampleExecution.initial }).toOption.getD
    { buffer := {} }

def sampleRetryEvents : List (Event 4) :=
  [.connect 3, sampleReadable (.data [50]), sampleReadable (.data [10, 97]),
    sampleReadable .eof, .connect 3, sampleReadable (.data [49]),
    sampleReadable (.data [10, 99])]

theorem sampleReadable_supplied (answer : ReadAnswer) : Supplied (sampleReadable answer) := by
  refine ⟨rfl, ?_⟩
  intro write member
  cases List.mem_singleton.mp member
  exact Nat.le_of_ble_eq_true rfl

theorem sampleRetry_reaches :
    Reaches sampleRetryOptions sampleExecution.append (sampleRetry sampleRetryEvents)
      [⟨sampleBroken, [50, 10, 97]⟩, ⟨sampleWhole, [49, 10, 99]⟩] := by
  have started : Reaches sampleRetryOptions sampleExecution.append (sampleRetry []) [] :=
    .start sampleExecution.first (by decide) (by decide) rfl
  have opened : Reaches sampleRetryOptions sampleExecution.append
      (sampleRetry (sampleRetryEvents.take 1)) [⟨sampleBroken, []⟩] :=
    .step (.connect 3) started (by decide) trivial (.opened sampleBroken (by decide)) rfl
  have digit : Reaches sampleRetryOptions sampleExecution.append
      (sampleRetry (sampleRetryEvents.take 2)) [⟨sampleBroken, [50]⟩] :=
    .step (sampleReadable (.data [50])) opened (by decide) (sampleReadable_supplied _)
      (@Serves.data 4 [] ⟨sampleBroken, []⟩ [50] _ _ _ (by decide)) rfl
  have part : Reaches sampleRetryOptions sampleExecution.append
      (sampleRetry (sampleRetryEvents.take 3)) [⟨sampleBroken, [50, 10, 97]⟩] :=
    .step (sampleReadable (.data [10, 97])) digit (by decide) (sampleReadable_supplied _)
      (@Serves.data 4 [] ⟨sampleBroken, [50]⟩ [10, 97] _ _ _ (by decide)) rfl
  have broken : Reaches sampleRetryOptions sampleExecution.append
      (sampleRetry (sampleRetryEvents.take 4)) [⟨sampleBroken, [50, 10, 97]⟩] :=
    .step (sampleReadable .eof) part (by decide) (sampleReadable_supplied _)
      (.nothing (by simp)) rfl
  have reopened : Reaches sampleRetryOptions sampleExecution.append
      (sampleRetry (sampleRetryEvents.take 5))
      [⟨sampleBroken, [50, 10, 97]⟩, ⟨sampleWhole, []⟩] :=
    .step (.connect 3) broken (by decide) trivial (.opened sampleWhole (by decide)) rfl
  have digit' : Reaches sampleRetryOptions sampleExecution.append
      (sampleRetry (sampleRetryEvents.take 6))
      [⟨sampleBroken, [50, 10, 97]⟩, ⟨sampleWhole, [49]⟩] :=
    .step (sampleReadable (.data [49])) reopened (by decide) (sampleReadable_supplied _)
      (@Serves.data 4 [⟨sampleBroken, [50, 10, 97]⟩] ⟨sampleWhole, []⟩ [49] _ _ _
        (by decide)) rfl
  exact .step (sampleReadable (.data [10, 99])) digit' (by decide) (sampleReadable_supplied _)
    (@Serves.data 4 [⟨sampleBroken, [50, 10, 97]⟩] ⟨sampleWhole, [49]⟩ [10, 99] _ _ _
      (by decide)) rfl

theorem unmixed_iff_of_sampleRetry :
    (∀ event history', Possible (sampleRetry sampleRetryEvents) event → Supplied event →
        Serves [⟨sampleBroken, [50, 10, 97]⟩, ⟨sampleWhole, [49, 10, 99]⟩] event history' →
        Returns (handle sampleRetryOptions (sampleRetry sampleRetryEvents) event)
          fun _ => True) ∧
      ((sampleRetry sampleRetryEvents).stdout = required sampleRetryOptions.buffer
          [⟨sampleBroken, [50, 10, 97]⟩, ⟨sampleWhole, [49, 10, 99]⟩] ↔
        Unmixed sampleRetryOptions.buffer
          [⟨sampleBroken, [50, 10, 97]⟩, ⟨sampleWhole, [49, 10, 99]⟩]) :=
  unmixed_iff sampleRetryOptions sampleExecution.append rfl (by decide) rfl
    (sampleRetry sampleRetryEvents) _ sampleRetry_reaches

/-- The client prints `ac`, and `a` came on the connection that broke off. -/
theorem mixes_of_sampleRetry :
    ¬ ∀ (options : Options) (append : Nat × LineBuffer 4), options.follow = true →
      options.reopenFile = true → append.2.nlines = 0 →
      ∀ (s : State 4) (history : List Taken), Reaches options append s history →
        s.stdout = required options.buffer history := by
  intro unmixed
  have claimed := unmixed sampleRetryOptions sampleExecution.append rfl rfl rfl
    (sampleRetry sampleRetryEvents) _ sampleRetry_reaches
  have printed : (sampleRetry sampleRetryEvents).stdout = [97, 99] := by decide
  rw [printed] at claimed
  revert claimed
  decide

end Tailserver.Client
