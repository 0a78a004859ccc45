import Tailserver.Server.Runs

/-! The server hands on what it reads. Both writes of `stdin_cb` use an address
taken before the append, and the append leaves the bytes there alone. -/

set_option autoImplicit false

namespace Tailserver.Server

open CMemory Buffer

variable {bufsiz : Nat}

/-- What `stdin_cb` does with a chunk once it is appended. -/
def forwardAppended (options : Options) (s : State bufsiz) (newDataStart : Pointer)
    (size : Nat) (appended : Bool) : Except Fault (State bufsiz) :=
  if !appended then .ok { s with broken := true }
  else do
    let node ← load s.buffer.heap newDataStart
    let chunk ← node.buffer.read 0 size
    let s ← stdoutWriteBlockingOrBreak s chunk
    socketsWriteBlocking options s chunk

theorem stdinCb_data (options : Options) (s : State bufsiz) (bytes : List UInt8)
    (fresh : Allocation (LineBuffer bufsiz)) :
    stdinCb options s (.data bytes) fresh =
      bufferAppend options.buffer s.buffer bytes fresh >>= fun result =>
        forwardAppended options
          { s with buffer := result.2, stdinRead := s.stdinRead ++ bytes }
          (bufferEnd s.buffer) bytes.length result.1 := by
  unfold stdinCb bufferAppend
  dsimp only
  cases placeBytes s.buffer (bufferEnd s.buffer) bytes with
  | error fault => rfl
  | ok buffer =>
      dsimp only [except_ok_bind]
      cases bufferSetAppended options.buffer buffer (UInt64.ofNat bytes.length) fresh <;> rfl

theorem stdoutWriteBlockingOrBreak_returns (s : State bufsiz) (buf : List UInt8) :
    Returns (stdoutWriteBlockingOrBreak s buf) fun s' => ∃ answers broken,
      s' = { s with answers, broken, stdoutChunks := s.stdoutChunks ++ [buf] } := by
  unfold stdoutWriteBlockingOrBreak stdoutWriteBlocking
  cases wrote : safeWriteForever buf s.answers with
  | error fault => exact safeWriteForever_fault wrote
  | ok written =>
      simp only [except_ok_bind, except_pure, Returns.ok_iff]
      split
      · exact ⟨_, _, rfl⟩
      · exact ⟨_, _, rfl⟩

/-- The appended bytes are still where they were placed. -/
theorem read_appended {config : Config} {s s' : Buffer.State bufsiz}
    {spare : Nat × LineBuffer bufsiz} {front rest : Nodes bufsiz} {bytes : List UInt8}
    {fresh : Allocation (LineBuffer bufsiz)} {continues : Bool}
    (linked : Linked s spare front rest) (nonempty : bytes ≠ [])
    (fits : bytes.length ≤ bufsiz) (sound : Allocates s fresh)
    (ran : bufferAppend config s bytes fresh = .ok (continues, s')) :
    ∃ node, load s'.heap (bufferEnd s) = .ok node ∧
      node.buffer.read 0 bytes.length = .ok bytes := by
  obtain ⟨_, _, _, node, _, _, _, _, found, holds⟩ :=
    linked.append_returns nonempty fits sound ran
  refine ⟨node, ?_, ?_⟩
  · rw [bufferEnd, linked.append]
    exact load_of_lookup found
  · rw [Area.read_of_le _ (by omega), List.drop_zero, holds]

/-- What a reachable server has handed on, and the buffer it can append to. -/
structure Teeing (options : Options) (append : Nat × LineBuffer bufsiz) (s : State bufsiz) :
    Prop where
  stdout : s.stdoutChunks.flatten = s.stdinRead
  sockets : s.socketsChunks = s.stdoutChunks
  linked : ∃ spare front rest, Linked s.buffer spare front rest
  ready : Clean options.buffer append.2 → Ready options.buffer s.buffer s.stdinRead

theorem Teeing.idle {options : Options} {append : Nat × LineBuffer bufsiz}
    {s s' : State bufsiz} (teeing : Teeing options append s) (idle : Idle s s') :
    Teeing options append s' where
  stdout := by rw [idle.stdoutChunks, idle.stdinRead]; exact teeing.stdout
  sockets := by rw [idle.socketsChunks, idle.stdoutChunks]; exact teeing.sockets
  linked := by rw [idle.buffer]; exact teeing.linked
  ready := by rw [idle.buffer, idle.stdinRead]; exact teeing.ready

/-- One chunk is handed on once, whole. -/
theorem Teeing.stdin {options : Options} {append : Nat × LineBuffer bufsiz}
    {s s' : State bufsiz} {bytes : List UInt8} {fresh : Allocation (LineBuffer bufsiz)}
    (teeing : Teeing options append s) (nonempty : bytes ≠ [])
    (fits : bytes.length ≤ bufsiz) (sound : Allocates s.buffer fresh)
    (granted : fresh.isSome) (ran : stdinCb options s (.data bytes) fresh = .ok s') :
    Teeing options append s' := by
  rw [stdinCb_data] at ran
  obtain ⟨⟨continues, buffer⟩, appends, ran⟩ := except_bind_ok ran
  obtain ⟨spare, front, rest, linked⟩ := teeing.linked
  obtain ⟨node, loads, reads⟩ := read_appended linked nonempty fits sound appends
  have ready : Clean options.buffer append.2 →
      Ready options.buffer buffer (s.stdinRead ++ bytes) := by
    intro clean
    have appended := (teeing.ready clean).append nonempty fits sound
    rw [appends] at appended
    cases appended with
    | ready ready => exact ready
    | exhausted missing => simp [missing] at granted
  obtain ⟨_, _, _, _, shaped, _⟩ := linked.append_returns nonempty fits sound appends
  cases shaped with
  | spareless _ missing => simp [missing] at granted
  | spare linked' =>
      simp only [forwardAppended, Bool.not_true, Bool.false_eq_true, if_false] at ran
      rw [loads, except_ok_bind, reads, except_ok_bind] at ran
      obtain ⟨s₁, writes, ran⟩ := except_bind_ok ran
      obtain ⟨answers, broken, rfl⟩ :=
        (stdoutWriteBlockingOrBreak_returns _ bytes).of_ok writes
      have frame := Frame.tolerates.writeToTailers ran
      refine ⟨?_, ?_, ?_, ?_⟩
      · rw [frame.stdoutChunks, frame.stdinRead]
        simp [teeing.stdout]
      · rw [frame.socketsChunks, frame.stdoutChunks]
        simp [teeing.sockets]
      · rw [frame.buffer]
        exact ⟨_, _, _, linked'⟩
      · rw [frame.buffer, frame.stdinRead]
        exact ready

theorem Teeing.handle {options : Options} {append : Nat × LineBuffer bufsiz}
    {s s' : State bufsiz} {event : Event bufsiz} (teeing : Teeing options append s)
    (possible : Possible s event) (provided : Provided event)
    (ran : handle options s event = .ok s') : Teeing options append s' := by
  cases event with
  | stdin res fresh answers =>
      have prepared : Teeing options append { s with answers } :=
        ⟨teeing.stdout, teeing.sockets, teeing.linked, teeing.ready⟩
      obtain ⟨_, _, sound, sized⟩ := possible
      cases res with
      | data bytes =>
          obtain ⟨nonempty, fits⟩ := sized bytes rfl
          exact prepared.stdin nonempty fits sound provided ran
      | eof =>
          cases ran
          exact ⟨teeing.stdout, teeing.sockets, teeing.linked, teeing.ready⟩
      | failed errno =>
          simp only [Server.handle, stdinCb] at ran
          split at ran
          · cases ran
            exact prepared
          · cases ran
            exact ⟨teeing.stdout, teeing.sockets, teeing.linked, teeing.ready⟩
  | unixSock attempts named fresh answers =>
      have prepared : Teeing options append { s with answers } :=
        ⟨teeing.stdout, teeing.sockets, teeing.linked, teeing.ready⟩
      exact prepared.idle (unixSockCb_idle ran)
  | tailerReadable tailer res => exact teeing.idle (tailerReadableCb_idle ran)

theorem Reachable.teeing {options : Options} {append : Nat × LineBuffer bufsiz}
    {allowed : Event bufsiz → Prop} {s : State bufsiz}
    (reachable : Reachable options append allowed s)
    (provided : ∀ event, allowed event → Provided event) : Teeing options append s := by
  induction reachable with
  | start first opened fresh fresh' ran =>
      have started := started_of_initAll fresh fresh' ran
      refine ⟨?_, ?_, ?_, ?_⟩
      · rw [started.stdoutChunks, started.stdinRead]
        rfl
      · rw [started.socketsChunks, started.stdoutChunks]
      · rw [started.buffer]
        exact ⟨_, _, _, started.supplied.linked⟩
      · intro clean
        rw [started.buffer, started.stdinRead]
        exact started.supplied.ready clean
  | step event _ possible allows ran teeing =>
      exact teeing.handle possible (provided event allows) ran

/-- At every moment what went to standard output, and to the sockets, is what was
read from standard input. Every append that returns leaves the bytes at the old
`buffer_end`, and it returns unless fresh memory spoiled the line counts. -/
theorem tee_of_reachable (options : Options) (append : Nat × LineBuffer bufsiz)
    (s : State bufsiz) (reachable : Reachable options append Granted s) :
    s.stdoutChunks.flatten = s.stdinRead ∧ s.socketsChunks = s.stdoutChunks ∧
      ∀ bytes fresh, bytes ≠ [] → bytes.length ≤ bufferAvailableForAppend s.buffer →
        Allocates s.buffer fresh → fresh.isSome →
        (∀ continues buffer,
          bufferAppend options.buffer s.buffer bytes fresh = .ok (continues, buffer) →
          ∃ node, load buffer.heap (bufferEnd s.buffer) = .ok node ∧
            node.buffer.read 0 bytes.length = .ok bytes) ∧
        ((options.buffer.countLines = true → append.2.nlines = 0) →
          ∃ buffer, bufferAppend options.buffer s.buffer bytes fresh = .ok (true, buffer)) := by
  have teeing := reachable.teeing fun _ => Granted.provided
  refine ⟨teeing.stdout, teeing.sockets, ?_⟩
  intro bytes fresh nonempty fits sound granted
  constructor
  · intro continues buffer ran
    obtain ⟨spare, front, rest, linked⟩ := teeing.linked
    exact read_appended linked nonempty fits sound ran
  · intro clean
    have appends := (teeing.ready clean).append nonempty fits sound
    cases ran : bufferAppend options.buffer s.buffer bytes fresh with
    | error fault =>
        rw [ran] at appends
        cases appends
    | ok result =>
        rw [ran] at appends
        cases appends with
        | ready => exact ⟨_, rfl⟩
        | exhausted missing => simp [missing] at granted

/-- A server that keeps its last line, with one client and one chunk read. -/
def sampleOptions : Options where
  buffer := ⟨true, 1⟩
  waitForClient := false
  blockForever := true
  filePath := true

def sampleStart : State 4 where
  buffer := sampleExecution.initial
  waitingForClient := false
  stdinWatcher := true
  unixSockWatcher := true

def sampleAccept : Event 4 :=
  .unixSock [.failed .eintr, .connected] true (some (1, ⟨9, false, some 4, none⟩))
    [.failed .eagain, .accepted 9]

def sampleRead : Event 4 :=
  .stdin (.data [97, 10]) (some (3, ⟨sampleArea, 9, 9, none⟩))
    [.accepted 9, .accepted 9]

def sampleAccepted : State 4 :=
  (handle sampleOptions sampleStart sampleAccept).toOption.getD sampleStart

def sampleServer : State 4 :=
  (handle sampleOptions sampleAccepted sampleRead).toOption.getD sampleStart

theorem sampleServer_reachable :
    Reachable sampleOptions sampleExecution.append Granted sampleServer := by
  have started : Reachable sampleOptions sampleExecution.append Granted sampleStart :=
    .start sampleExecution.first true (by decide) (by decide) rfl
  have accepted : Reachable sampleOptions sampleExecution.append Granted sampleAccepted := by
    refine .step sampleAccept started ⟨rfl, ?_⟩ rfl rfl
    intro block node same
    cases same
    decide
  refine .step sampleRead accepted ⟨rfl, rfl, by decide, ?_⟩ rfl rfl
  intro bytes same
  cases same
  decide

theorem tee_of_sampleServer :
    sampleServer.stdoutChunks.flatten = sampleServer.stdinRead ∧
      sampleServer.socketsChunks = sampleServer.stdoutChunks ∧
      ∀ bytes fresh, bytes ≠ [] →
        bytes.length ≤ bufferAvailableForAppend sampleServer.buffer →
        Allocates sampleServer.buffer fresh → fresh.isSome →
        (∀ continues buffer,
          bufferAppend sampleOptions.buffer sampleServer.buffer bytes fresh =
            .ok (continues, buffer) →
          ∃ node, load buffer.heap (bufferEnd sampleServer.buffer) = .ok node ∧
            node.buffer.read 0 bytes.length = .ok bytes) ∧
        ((sampleOptions.buffer.countLines = true → sampleExecution.append.2.nlines = 0) →
          ∃ buffer, bufferAppend sampleOptions.buffer sampleServer.buffer bytes fresh =
            .ok (true, buffer)) :=
  tee_of_reachable sampleOptions sampleExecution.append sampleServer sampleServer_reachable

/-! Two clients are sent the line that was read before them. The older one takes a byte of the
next line and is taken off the list, and a third is sent that line. -/

def sampleWelcome (block : Nat) : Event 4 :=
  .unixSock [.connected] true (some (block, ⟨9, false, some 4, none⟩))
    [.accepted 9, .accepted 9]

def sampleEvents : List (Event 4) :=
  [sampleRead, sampleWelcome 1, sampleWelcome 2,
    .stdin (.data [98, 10]) (some (4, ⟨sampleArea, 9, 9, none⟩))
      [.accepted 9, .accepted 9, .accepted 1],
    sampleWelcome 1]

def sampleRun (events : List (Event 4)) : State 4 :=
  (events.foldlM (handle sampleOptions) sampleStart).toOption.getD sampleStart

theorem sampleRun_reachable :
    Reachable sampleOptions sampleExecution.append Granted (sampleRun sampleEvents) := by
  have started : Reachable sampleOptions sampleExecution.append Granted
      (sampleRun (sampleEvents.take 0)) :=
    .start sampleExecution.first true (by decide) (by decide) rfl
  have filled : Reachable sampleOptions sampleExecution.append Granted
      (sampleRun (sampleEvents.take 1)) := by
    refine .step sampleRead started ⟨rfl, rfl, by decide, ?_⟩ rfl rfl
    intro bytes same
    cases same
    decide
  have first : Reachable sampleOptions sampleExecution.append Granted
      (sampleRun (sampleEvents.take 2)) := by
    refine .step (sampleWelcome 1) filled ⟨rfl, ?_⟩ rfl rfl
    intro block node same
    cases same
    decide
  have second : Reachable sampleOptions sampleExecution.append Granted
      (sampleRun (sampleEvents.take 3)) := by
    refine .step (sampleWelcome 2) first ⟨rfl, ?_⟩ rfl rfl
    intro block node same
    cases same
    decide
  have parted : Reachable sampleOptions sampleExecution.append Granted
      (sampleRun (sampleEvents.take 4)) := by
    refine .step (.stdin (.data [98, 10]) (some (4, ⟨sampleArea, 9, 9, none⟩))
      [.accepted 9, .accepted 9, .accepted 1]) second ⟨rfl, rfl, by decide, ?_⟩ rfl rfl
    intro bytes same
    cases same
    decide
  refine .step (sampleWelcome 1) parted ⟨rfl, ?_⟩ rfl rfl
  intro block node same
  cases same
  decide

end Tailserver.Server
