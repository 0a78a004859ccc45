import Tailserver.Client.Connect
import Tailserver.Client.Conversation
import Tailserver.Client.OutOfMemory
import Tailserver.CommandLine.Arguments
import Tailserver.Library.Exclusive

/-! The process of the client, from `init_all` to `exit`. The loop of `open_unix_socket` is
cut into its rounds, with the sleeps between them, and the calls that open and close
descriptors are recorded beside the state of the program. -/

set_option autoImplicit false

namespace Tailserver.Client

open CMemory Buffer
open CommandLine (ClientLaunch)

variable {bufsiz : Nat} {Seconds : Type}

/-! ## The source -/

structure Process (bufsiz : Nat) where
  client : State bufsiz
  /-- `evsleep` waits for its timer. -/
  sleeping : Bool := false
  /-- The descriptor whose watcher is started. -/
  watcher : Option Int := none
  calls : List SystemCall := []
  /-- How often `evsleep` has returned. -/
  sleeps : Nat := 0
  /-- How often standard input was closed, and whether that failed. -/
  stdinClosed : Nat := 0
  stdinFailed : Bool := false
  /-- The status the process has exited with. -/
  exited : Option Bool := none

/-- `exit`, with `close_stdout` run at the end. -/
def Process.exit (p : Process bufsiz) (success : Bool) (closing : Closing) : Process bufsiz :=
  { p with exited := some (success && closing.streamsClose) }

/-- Go on with another state of the client, and with what `clientconn_disconnect` has closed on
the way. -/
def Process.goOn (p : Process bufsiz) (client : State bufsiz) : Process bufsiz :=
  { p with
    client
    calls := p.calls ++
      (client.conn.closes.drop p.client.conn.closes.length).map SystemCall.close }

/-- `ev_io_start`, on the watcher of this connection. -/
def Process.startWatcher (p : Process bufsiz) : Process bufsiz :=
  { p with watcher := some p.client.conn.clientUnixSock }

/-- `clientloop_run` behind `open_unix_socket`, up to where it waits. -/
def Process.connect (launch : ClientLaunch Seconds) (p : Process bufsiz) (opened : Int) :
    Process bufsiz :=
  let p := { p with client := Client.connect launch.options p.client opened }
  if p.client.phase = .looping then p.startWatcher else p

/-- A round of the loop of `open_unix_socket`. The last argument is the `errno` before it. -/
def Process.attempt (launch : ClientLaunch Seconds) (p : Process bufsiz) (attempt : Attempt)
    (errno : Errno) : Except Fault (Process bufsiz) := do
  if p.client.conn.clientUnixSock ≠ invalidSocket then return p.connect launch invalidSocket
  let (unixSock, s) ← tryOpenUnixSocket launch.filePath.bytes
    { attempts := [attempt], errno, calls := p.calls }
  let p := { p with calls := s.calls }
  if unixSock ≠ invalidSocket then return p.connect launch unixSock
  let waitForFile := launch.settings.waitFileAtStartup || launch.settings.reopenFile
  if !waitForFile || stopsRetrying s.errno then return p.connect launch invalidSocket
  return { p with sleeping := true }

/-- The write of the byte that tells the server that its buffer is enough. -/
def Process.write (p : Process bufsiz) (answers : List WriteAnswer) :
    Except Fault (Process bufsiz) := do
  let client ← writeToServer { p.client with answers }
  let p := p.goOn client
  return if p.client.phase = .looping then p.startWatcher else p

/-- `unix_sock_readable_cb`, and `clientloop_run` behind the event loop when that is
broken. -/
def Process.readable (launch : ClientLaunch Seconds) (p : Process bufsiz) (answer : ReadAnswer)
    (unset : Int) (fresh : Allocation (LineBuffer bufsiz)) (answers : List WriteAnswer) :
    Except Fault (Process bufsiz) := do
  let (ended, client) ←
    unixSockReadableCb launch.options { p.client with answers } answer unset fresh
  let p := p.goOn client
  if !ended then return p
  let p := { p with watcher := none }
  let p := p.goOn (prepareForRetry launch.options p.client)
  return { p with sleeping := p.client.phase = .connecting }

/-- `final_all` and `exit`. When standard input cannot be closed `error` exits before the
buffer is freed. -/
def Process.finalAll (p : Process bufsiz) (success : Bool) (closing : Closing) :
    Except Fault (Process bufsiz) := do
  let p := p.goOn { p.client with conn := clientconnDisconnect p.client.conn }
  let p := { p with
    stdinClosed := p.stdinClosed + 1
    stdinFailed := !closing.stdinCloses }
  if !closing.stdinCloses then return p.exit false closing
  let buffer ← bufferFinal p.client.buffer
  return { p with client := { p.client with buffer } }.exit success closing

/-- `init_all`. -/
def Process.initAll (fresh₁ fresh₂ : Allocation (LineBuffer bufsiz)) (closing : Closing) :
    Except Fault (Process bufsiz) := do
  let (ok, client) ← Client.initAll fresh₁ fresh₂
  let p : Process bufsiz := { client }
  return if ok then p else p.exit false closing

/-- What can happen to a running process. -/
inductive Process.Event (bufsiz : Nat) where
  | attempt (attempt : Attempt) (errno : Errno)
  /-- `sleeper_timeout_cb`. -/
  | timeout
  | write (answers : List WriteAnswer)
  | readable (answer : ReadAnswer) (unset : Int) (fresh : Allocation (LineBuffer bufsiz))
      (answers : List WriteAnswer)
  | interrupt (closing : Closing)
  /-- libev reports an error to `libev_error_handler`. -/
  | libevError (closing : Closing)
  /-- `clientloop_run` returns, and `main` ends. -/
  | ended (closing : Closing)

def Process.handle (launch : ClientLaunch Seconds) (p : Process bufsiz) :
    Process.Event bufsiz → Except Fault (Process bufsiz)
  | .attempt attempt errno => p.attempt launch attempt errno
  | .timeout => return { p with sleeping := false, sleeps := p.sleeps + 1 }
  | .write answers => p.write answers
  | .readable answer unset fresh answers => p.readable launch answer unset fresh answers
  | .interrupt closing => p.finalAll true closing
  | .libevError closing => p.finalAll false closing
  | .ended closing => p.finalAll true closing

/-- Interrupts and errors of libev are let in everywhere, although they are only noticed
where the event loop runs. -/
def Process.Possible (p : Process bufsiz) : Process.Event bufsiz → Prop
  | .attempt _ _ =>
      p.exited = none ∧ p.sleeping = false ∧ p.client.phase = .connecting
  | .timeout => p.exited = none ∧ p.sleeping = true
  | .write answers => p.exited = none ∧ Client.Possible p.client (.write answers)
  | .readable answer unset fresh answers =>
      p.exited = none ∧ p.watcher.isSome = true ∧
        Client.Possible p.client (.readable answer unset fresh answers)
  | .interrupt _ => p.exited = none
  | .libevError _ => p.exited = none
  | .ended _ => p.exited = none ∧ p.client.phase = .finished

/-- The states of the process, from the end of `init_all` on. -/
inductive Process.Reachable (launch : ClientLaunch Seconds) : Process bufsiz → Prop where
  | start (fresh₁ fresh₂ : Allocation (LineBuffer bufsiz)) (closing : Closing)
      {p : Process bufsiz} : InitAllocates fresh₁ fresh₂ →
      Process.initAll fresh₁ fresh₂ closing = .ok p → Process.Reachable launch p
  | step {p p' : Process bufsiz} (event : Process.Event bufsiz) :
      Process.Reachable launch p → p.Possible event → p.handle launch event = .ok p' →
      Process.Reachable launch p'

/-! ## What the process holds -/

/-- What a call does with a descriptor. -/
def SystemCall.access : SystemCall → Option (Exclusive.Access Int)
  | .socket result => if result = invalidSocket then none else some (.acquire result)
  | .connect descriptor _ _ => some (.use descriptor)
  | .close descriptor => some (.release descriptor)

def SystemCall.isSocket : SystemCall → Bool
  | .socket _ => true
  | .connect _ _ _ => false
  | .close _ => false

def Process.attempts (p : Process bufsiz) : Nat := p.calls.countP SystemCall.isSocket

/-- The descriptor that is open after the calls, if there was never more than one and it was
used and closed only while it was. -/
def Process.open? (p : Process bufsiz) : Option (Option Int) :=
  Exclusive.holding (p.calls.filterMap SystemCall.access)

def ClientConn.descriptor (conn : ClientConn) : Option Int :=
  if clientconnEof conn then none else some conn.clientUnixSock

/-- A running process has the descriptor of its connection open and no other. It has not made
more attempts to connect than it has slept, but for the first. -/
structure Process.Running (launch : ClientLaunch Seconds) (p : Process bufsiz) : Prop where
  reachable : Client.Reachable launch.options p.client
  whole : Whole p.client.buffer
  descriptor : p.open? = some p.client.conn.descriptor
  attached : clientconnEof p.client.conn = !p.client.phase.attached
  watcher : p.watcher =
    if p.client.phase = .looping then some p.client.conn.clientUnixSock else none
  sleeping : p.sleeping = true → p.client.phase = .connecting
  attempts : p.attempts =
    p.sleeps + if p.client.phase = .connecting ∧ p.sleeping = false then 0 else 1
  stdinClosed : p.stdinClosed = 0

/-- A process that has exited has closed every descriptor once, and left no block unless it
exited before `buffer_final`. -/
structure Process.Settled (p : Process bufsiz) (success : Bool) : Prop where
  descriptor : p.open? = some none
  closed : ∀ descriptor : Nat,
    p.calls.count (.socket descriptor) = p.calls.count (.close descriptor)
  attempts : p.attempts ≤ p.sleeps + 1
  stdinClosed : p.stdinClosed ≤ 1
  freed : p.stdinClosed = 1 → p.stdinFailed = false → p.client.buffer.heap = ∅
  success : success = true → p.stdinClosed = 1 ∧ p.stdinFailed = false

/-! ## The descriptor of the connection -/

/-- The code may let go of the descriptor it has, and takes no other. -/
inductive Narrows (conn conn' : ClientConn) : Prop where
  | kept : conn'.clientUnixSock = conn.clientUnixSock → conn'.closes = conn.closes →
      Narrows conn conn'
  | closed : conn.clientUnixSock ≠ invalidSocket → conn'.clientUnixSock = invalidSocket →
      conn'.closes = conn.closes ++ [conn.clientUnixSock] → Narrows conn conn'

theorem Narrows.refl (conn : ClientConn) : Narrows conn conn := .kept rfl rfl

theorem Narrows.trans {conn conn' conn'' : ClientConn} (first : Narrows conn conn')
    (next : Narrows conn' conn'') : Narrows conn conn'' := by
  cases first with
  | kept same closes =>
      cases next with
      | kept same' closes' => exact .kept (same'.trans same) (closes'.trans closes)
      | closed held gone closes' =>
          rw [same] at held closes'
          rw [closes] at closes'
          exact .closed held gone closes'
  | closed held gone closes =>
      cases next with
      | kept same' closes' => exact .closed held (same'.trans gone) (closes'.trans closes)
      | closed held' _ _ => exact absurd gone held'

/-- `clientconn_disconnect` closes what is open, and once. -/
theorem narrows_clientconnDisconnect (conn : ClientConn) :
    Narrows conn (clientconnDisconnect conn) := by
  unfold clientconnDisconnect
  split
  · next held => exact .closed held rfl rfl
  · exact .refl conn

theorem parseServerBufferSize_narrows (conn : ClientConn) (bytes : List UInt8) :
    Narrows conn (parseServerBufferSize conn bytes).2 := by
  induction bytes generalizing conn with
  | nil => exact .refl conn
  | cons byte rest ih =>
      unfold parseServerBufferSize
      split
      · exact .refl conn
      · split
        · dsimp only
          have sized : Narrows conn
              { conn with serverBufferSize := Word.signed (nextSize conn byte) } := .kept rfl rfl
          split
          · exact sized.trans (narrows_clientconnDisconnect _)
          · exact sized.trans (ih _)
        · split
          · have known : Narrows conn { conn with
                serverBufferSizeKnown := true
                serverBufferSizeRemain := conn.serverBufferSize } := .kept rfl rfl
            exact known.trans (ih _)
          · exact narrows_clientconnDisconnect conn

theorem narrows_trackServerBufferSize (conn : ClientConn) (tailDataRes : Int) :
    Narrows conn (trackServerBufferSize conn tailDataRes) := by
  unfold trackServerBufferSize
  split
  · exact .kept rfl rfl
  · exact .kept rfl rfl

theorem clientconnReadServerBuffer_narrows {conn conn' : ClientConn} {size unset : Int}
    {answer : ReadAnswer} {received : Received}
    (ran : clientconnReadServerBuffer bufsiz conn size answer unset = .ok (received, conn')) :
    Narrows conn conn' := by
  unfold clientconnReadServerBuffer at ran
  split at ran
  · cases ran
    exact .refl conn
  · obtain ⟨⟨tailDataRes, stored, conn₁⟩, reads, returned⟩ := except_bind_ok ran
    have read : Narrows conn conn₁ := by
      split at reads
      · cases answer with
        | data bytes =>
            obtain ⟨tmpbuf, _, reads⟩ := except_bind_ok reads
            obtain ⟨stored', _, returned'⟩ := except_bind_ok reads
            cases returned'
            exact parseServerBufferSize_narrows conn tmpbuf
        | eof =>
            cases reads
            exact .refl conn
        | failed errno =>
            cases reads
            exact .refl conn
      · obtain ⟨stored', _, returned'⟩ := except_bind_ok reads
        cases returned'
        exact .refl conn
    cases returned
    refine read.trans (.trans ?_ (narrows_trackServerBufferSize _ tailDataRes))
    split
    · exact narrows_clientconnDisconnect conn₁
    · exact .refl conn₁

theorem clientconnReadServerFollow_narrows {conn conn' : ClientConn} {size : Int}
    {answer : ReadAnswer} {received : Received}
    (ran : clientconnReadServerFollow conn size answer = .ok (received, conn')) :
    Narrows conn conn' := by
  unfold clientconnReadServerFollow at ran
  split at ran
  · cases ran
    exact .refl conn
  · obtain ⟨stored, _, returned⟩ := except_bind_ok ran
    cases returned
    split
    · exact narrows_clientconnDisconnect conn
    · exact .refl conn

theorem receiveTail_narrows {options : Options} {s : State bufsiz} {answer : ReadAnswer}
    {unset : Int} {fresh : Allocation (LineBuffer bufsiz)} {result : Int × Bool × State bufsiz}
    (ran : receiveTail options s answer unset fresh = .ok result) :
    Narrows s.conn result.2.2.conn := by
  obtain ⟨⟨received, conn⟩, reads, ran⟩ := except_bind_ok ran
  obtain ⟨buffer, _, ran⟩ := except_bind_ok ran
  dsimp only at ran
  split at ran
  · obtain ⟨⟨appended, buffer'⟩, _, returned⟩ := except_bind_ok ran
    cases returned
    exact clientconnReadServerBuffer_narrows reads
  · cases ran
    exact clientconnReadServerBuffer_narrows reads

/-- What follows the tail goes past the buffer. -/
theorem receiveFollow_narrows {s : State bufsiz} {answer : ReadAnswer}
    {result : Int × Bool × State bufsiz} (ran : receiveFollow s answer = .ok result) :
    Narrows s.conn result.2.2.conn ∧ result.2.2.buffer = s.buffer := by
  obtain ⟨⟨received, conn⟩, reads, ran⟩ := except_bind_ok ran
  dsimp only at ran
  split at ran
  · obtain ⟨⟨ok, s₁⟩, prints, returned⟩ := except_bind_ok ran
    have writes := clientpipesWriteBlocking_writes prints
    cases returned
    rw [writes.conn, writes.buffer]
    exact ⟨clientconnReadServerFollow_narrows reads, rfl⟩
  · cases ran
    exact ⟨clientconnReadServerFollow_narrows reads, rfl⟩

theorem outputWhenAllRead_narrows {options : Options} {s : State bufsiz}
    {result : Bool × State bufsiz} (ran : outputWhenAllRead options s = .ok result) :
    Narrows s.conn result.2.conn := by
  unfold outputWhenAllRead at ran
  split at ran
  · obtain ⟨⟨ok, s₁⟩, outputs, returned⟩ := except_bind_ok ran
    have printed : s₁.conn = s.conn := by
      split at outputs
      · obtain ⟨⟨ok', s₂⟩, prints, returned'⟩ := except_bind_ok outputs
        have writes := outputTailChunks_writes prints
        cases returned'
        exact writes.conn
      · cases outputs
        rfl
    cases returned
    dsimp only
    rw [← printed]
    split
    · exact narrows_clientconnDisconnect s₁.conn
    · exact .refl s₁.conn
  · cases ran
    exact .refl s.conn

/-- What a callback does to the descriptor and to the blocks of the buffer. The event loop goes
on only with an open connection. -/
structure Reading (s : State bufsiz) (ended : Bool) (s' : State bufsiz) : Prop where
  narrows : Narrows s.conn s'.conn
  whole : Whole s.buffer → Whole s'.buffer
  phase : s'.phase = s.phase
  connected : ended = false → clientconnEof s'.conn = false

theorem unixSockReadableCb_reading {options : Options} {s s' : State bufsiz}
    {answer : ReadAnswer} {unset : Int} {fresh : Allocation (LineBuffer bufsiz)} {ended : Bool}
    (answered : ∀ bytes, answer = .data bytes → bytes ≠ []) (sound : Allocates s.buffer fresh)
    (ran : unixSockReadableCb options s answer unset fresh = .ok (ended, s')) :
    Reading s ended s' := by
  have phase := (unixSockReadableCb_leaves answered sound ran).phase
  obtain ⟨⟨res, error, s₁⟩, reads, ran⟩ := except_bind_ok ran
  obtain ⟨⟨ok, s₂⟩, outputs, returned⟩ := except_bind_ok ran
  have received : Narrows s.conn s₁.conn ∧ (Whole s.buffer → Whole s₁.buffer) := by
    split at reads
    · refine ⟨receiveTail_narrows reads, ?_⟩
      cases receiveTail_receives answered reads with
      | idle => exact id
      | appended nonempty appends =>
          obtain ⟨placed, places, _⟩ := except_bind_ok appends
          exact fun whole => whole.append nonempty (placed_of_placeBytes places).2 sound appends
    · obtain ⟨narrows, same⟩ := receiveFollow_narrows reads
      refine ⟨narrows, fun whole => ?_⟩
      rw [show s₁.buffer = s.buffer from same]
      exact whole
  have buffer : s₂.buffer = s₁.buffer := (outputWhenAllRead_outputs outputs).buffer
  cases returned
  refine ⟨received.1.trans (outputWhenAllRead_narrows outputs), ?_, phase, ?_⟩
  · rw [buffer]
    exact received.2
  · intro goesOn
    rw [Bool.or_eq_false_iff] at goesOn
    exact goesOn.1

/-! ## The calls -/

section Calls

variable {launch : ClientLaunch Seconds} {p : Process bufsiz}

theorem descriptor_of_eof {conn : ClientConn} (eof : clientconnEof conn = true) :
    conn.descriptor = none := if_pos eof

/-- Closing the descriptor, where the code lets go of it. -/
theorem Process.goOn_open (held : p.open? = some p.client.conn.descriptor)
    {client : State bufsiz} (narrows : Narrows p.client.conn client.conn) :
    (p.goOn client).open? = some client.conn.descriptor := by
  cases narrows with
  | kept same closes =>
      have descriptor : client.conn.descriptor = p.client.conn.descriptor := by
        rw [ClientConn.descriptor, ClientConn.descriptor, clientconnEof, clientconnEof, same]
      have calls : (p.goOn client).calls = p.calls := by simp [goOn, closes]
      rw [descriptor, ← held, open?, open?, calls]
  | closed valid gone closes =>
      have calls : (p.goOn client).calls =
          p.calls ++ [.close p.client.conn.clientUnixSock] := by simp [goOn, closes]
      have eof : clientconnEof p.client.conn = false := decide_eq_false valid
      rw [ClientConn.descriptor, eof, if_neg Bool.false_ne_true] at held
      rw [descriptor_of_eof (decide_eq_true gone), open?, calls, List.filterMap_append]
      simp only [List.filterMap_cons, SystemCall.access, List.filterMap_nil]
      rw [Exclusive.holding_concat, show Exclusive.holding _ = _ from held]
      simp [Exclusive.Access.next]

@[simp] theorem Process.goOn_client (p : Process bufsiz) (client : State bufsiz) :
    (p.goOn client).client = client := rfl

@[simp] theorem Process.goOn_watcher (p : Process bufsiz) (client : State bufsiz) :
    (p.goOn client).watcher = p.watcher := rfl

@[simp] theorem Process.goOn_sleeping (p : Process bufsiz) (client : State bufsiz) :
    (p.goOn client).sleeping = p.sleeping := rfl

@[simp] theorem Process.goOn_attempts (p : Process bufsiz) (client : State bufsiz) :
    (p.goOn client).attempts = p.attempts := by
  have closed : ∀ closes : List Int,
      (closes.map SystemCall.close).countP SystemCall.isSocket = 0 := by
    intro closes
    simp [SystemCall.isSocket]
  rw [attempts, goOn, List.countP_append, closed]
  rfl

/-- The calls of an attempt, made with no descriptor open. -/
theorem open_attempt {calls : List SystemCall} (filePath : List UInt8) (attempt : Attempt)
    (closed : Exclusive.holding (calls.filterMap SystemCall.access) = some none) :
    Exclusive.holding ((calls ++ attempt.calls filePath).filterMap SystemCall.access) =
      some ({ clientUnixSock := attempt.opened } : ClientConn).descriptor := by
  rw [List.filterMap_append, Exclusive.holding_append, closed, Option.bind_some]
  cases attempt with
  | noSocket errno => rfl
  | refused descriptor errno =>
      simp [Attempt.calls, SystemCall.access, descriptor_ne_invalid, Exclusive.Access.next,
        Attempt.opened, ClientConn.descriptor, clientconnEof]
  | connected descriptor =>
      simp [Attempt.calls, SystemCall.access, descriptor_ne_invalid, Exclusive.Access.next,
        Attempt.opened, ClientConn.descriptor, clientconnEof]

theorem countP_attempt (filePath : List UInt8) (attempt : Attempt) :
    (attempt.calls filePath).countP SystemCall.isSocket = 1 := by
  cases attempt <;> rfl

theorem count_filterMap_access (calls : List SystemCall) (descriptor : Nat) :
    (calls.filterMap SystemCall.access).count (.acquire descriptor) =
        calls.count (.socket descriptor) ∧
      (calls.filterMap SystemCall.access).count (.release descriptor) =
        calls.count (.close descriptor) := by
  induction calls with
  | nil => exact ⟨rfl, rfl⟩
  | cons call calls ih =>
      cases call with
      | socket result =>
          by_cases invalid : result = invalidSocket
          · have other : result ≠ descriptor :=
              fun same => descriptor_ne_invalid descriptor (same.symm.trans invalid)
            simp [SystemCall.access, invalid, ih, invalid ▸ other]
          · simp [SystemCall.access, invalid, ih, List.count_cons]
      | connect descriptor' sunPath result =>
          simp [SystemCall.access, ih]
      | close descriptor' => simp [SystemCall.access, ih, List.count_cons]

/-- When none is open, each was closed as often as it was opened. -/
theorem Process.closed_of_open (none : p.open? = some none) (descriptor : Nat) :
    p.calls.count (.socket descriptor) = p.calls.count (.close descriptor) := by
  have counted := Exclusive.count_acquire_of_holding none (descriptor : Int)
  rw [(count_filterMap_access p.calls descriptor).1,
    (count_filterMap_access p.calls descriptor).2] at counted
  exact counted

end Calls

/-! ## Steps -/

section Steps

variable {launch : ClientLaunch Seconds} {p p' : Process bufsiz}

theorem connect_of_eof (options : Options) {s : State bufsiz}
    (eof : clientconnEof s.conn = true) (opened : Int) :
    (connect options s opened).conn =
        { clientUnixSock := opened, closes := s.conn.closes } ∧
      (connect options s opened).buffer = s.buffer ∧
      (connect options s opened).phase =
        if opened = invalidSocket then .finished else if options.follow then .looping
        else .writing := by
  unfold connect
  rw [clientconnConnect_of_eof eof]
  by_cases failed : opened = invalidSocket
  · simp [failed]
  · cases follow : options.follow <;> simp [failed]

/-- The loop of `open_unix_socket` is left. -/
theorem Process.Running.connect {calls : List SystemCall} (running : p.Running launch)
    (connecting : p.client.phase = .connecting) (awake : p.sleeping = false) {opened : Int}
    (held : Exclusive.holding (calls.filterMap SystemCall.access) =
      some ({ clientUnixSock := opened } : ClientConn).descriptor)
    (attempted : calls.countP SystemCall.isSocket = p.attempts + 1) :
    Process.Running launch (Process.connect launch { p with calls } opened) := by
  have eof : clientconnEof p.client.conn = true := by
    rw [running.attached, connecting]
    rfl
  obtain ⟨conn, buffer, phase⟩ := connect_of_eof launch.options eof opened
  have reachable : Client.Reachable launch.options
      (Client.connect launch.options p.client opened) :=
    .step running.reachable ⟨.connect opened, connecting, rfl⟩
  have whole : Whole (Client.connect launch.options p.client opened).buffer := by
    rw [buffer]
    exact running.whole
  have attached : clientconnEof (Client.connect launch.options p.client opened).conn =
        !(Client.connect launch.options p.client opened).phase.attached ∧
      (Client.connect launch.options p.client opened).phase ≠ .connecting := by
    rw [conn, phase]
    by_cases failed : opened = invalidSocket
    · simp [failed, clientconnEof, Phase.attached]
    · cases launch.options.follow <;> simp [failed, clientconnEof, Phase.attached]
  have before := running.attempts
  rw [if_pos ⟨connecting, awake⟩, Nat.add_zero] at before
  rw [before] at attempted
  have attempts : calls.countP SystemCall.isSocket = p.sleeps +
      if (Client.connect launch.options p.client opened).phase = .connecting ∧
        p.sleeping = false then 0 else 1 := by
    rw [if_neg fun both => attached.2 both.1]
    exact attempted
  have stopped := running.watcher
  rw [if_neg (by simp [connecting])] at stopped
  have asleep : p.sleeping = true →
      (Client.connect launch.options p.client opened).phase = .connecting := by simp [awake]
  have descriptor : (Client.connect launch.options p.client opened).conn.descriptor =
      ({ clientUnixSock := opened } : ClientConn).descriptor := by
    rw [conn]
    rfl
  rw [← descriptor] at held
  unfold Process.connect
  dsimp only
  split
  · next looping =>
    exact ⟨reachable, whole, held, attached.1, (if_pos looping).symm, asleep, attempts,
      running.stdinClosed⟩
  · next stays =>
    exact ⟨reachable, whole, held, attached.1, stopped.trans (if_neg stays).symm, asleep, attempts,
      running.stdinClosed⟩

/-- A round of the loop makes one attempt, and then connects, gives up or sleeps. -/
theorem Process.Running.attempt (running : p.Running launch)
    (short : launch.filePath.bytes.length ≤ sizeofSunPath - 1)
    (connecting : p.client.phase = .connecting) (awake : p.sleeping = false) (attempt : Attempt)
    (errno : Errno) :
    ∃ p', p.attempt launch attempt errno = .ok p' ∧ p'.Running launch ∧
      p'.exited = p.exited := by
  have eof : clientconnEof p.client.conn = true := by
    rw [running.attached, connecting]
    rfl
  have closed : p.client.conn.clientUnixSock = invalidSocket := of_decide_eq_true eof
  have none : p.open? = some none := running.descriptor.trans (by rw [descriptor_of_eof eof])
  have held := open_attempt launch.filePath.bytes attempt none
  have attempted : (p.calls ++ attempt.calls launch.filePath.bytes).countP SystemCall.isSocket =
      p.attempts + 1 := by
    rw [List.countP_append, countP_attempt]
    rfl
  have connects := @connect _ _ launch p _ running connecting awake attempt.opened held attempted
  have unchanged : ∀ opened, (Process.connect launch { p with
      calls := p.calls ++ attempt.calls launch.filePath.bytes } opened).exited = p.exited := by
    intro opened
    unfold Process.connect
    dsimp only
    split <;> rfl
  unfold Process.attempt
  rw [if_neg (not_not_intro closed), tryOpenUnixSocket_cons short]
  simp only [except_ok_bind]
  by_cases failed : attempt.opened = invalidSocket
  · rw [if_neg (not_not_intro failed)]
    split
    · rw [failed] at connects
      exact ⟨_, rfl, connects, unchanged invalidSocket⟩
    · refine ⟨_, rfl, ⟨running.reachable, running.whole, ?_, running.attached, running.watcher,
        fun _ => connecting, ?_, running.stdinClosed⟩, rfl⟩
      · rw [descriptor_of_eof eof]
        rw [failed] at held
        exact held
      · have before := running.attempts
        rw [if_pos ⟨connecting, awake⟩, Nat.add_zero] at before
        rw [if_neg (by simp), ← before]
        exact attempted
  · rw [if_pos failed]
    exact ⟨_, rfl, connects, unchanged attempt.opened⟩

theorem Process.Running.timeout (running : p.Running launch) (slept : p.sleeping = true) :
    Process.Running launch { p with sleeping := false, sleeps := p.sleeps + 1 } := by
  have connecting := running.sleeping slept
  refine ⟨running.reachable, running.whole, running.descriptor, running.attached,
    running.watcher, nofun, ?_, running.stdinClosed⟩
  have before := running.attempts
  rw [if_neg (by simp [slept])] at before
  rw [if_pos ⟨connecting, rfl⟩]
  exact before

/-- Only a process that waits to connect may sleep. -/
theorem Process.Running.awake (running : p.Running launch)
    (elsewhere : p.client.phase ≠ .connecting) :
    p.sleeping = false ∧ p.attempts = p.sleeps + 1 := by
  have attempts := running.attempts
  rw [if_neg fun both => elsewhere both.1] at attempts
  exact ⟨Bool.eq_false_iff.mpr fun slept => elsewhere (running.sleeping slept), attempts⟩

theorem writeToServer_fault {s : State bufsiz} {fault : Fault}
    (ran : writeToServer s = .error fault) : fault = .blocked := by
  unfold writeToServer clientconnWrite at ran
  cases writes : safeWrite [newline] s.answers with
  | error fault' =>
      rw [writes] at ran
      cases ran
      exact safeWriteLoop_fault writes
  | ok written =>
      rw [writes, except_ok_bind] at ran
      split at ran <;> cases ran

theorem writeToServer_cases {s s' : State bufsiz} (ran : writeToServer s = .ok s') :
    s'.buffer = s.buffer ∧
      (s'.phase = .looping ∧ s'.conn = s.conn ∨
        s'.phase = .finished ∧ s'.conn = clientconnDisconnect s.conn) := by
  obtain ⟨written, _, ran⟩ := except_bind_ok ran
  dsimp only at ran
  split at ran
  · cases ran
    exact ⟨rfl, .inr ⟨rfl, rfl⟩⟩
  · cases ran
    exact ⟨rfl, .inl ⟨rfl, rfl⟩⟩

theorem Process.Running.write {answers : List WriteAnswer} (running : p.Running launch)
    (writing : p.client.phase = .writing) (ran : p.write answers = .ok p') :
    p'.Running launch ∧ p'.exited = p.exited := by
  obtain ⟨client, writes, ran⟩ := except_bind_ok ran
  have reachable : Client.Reachable launch.options client :=
    .step running.reachable ⟨.write answers, writing, writes⟩
  obtain ⟨buffer, cases⟩ := writeToServer_cases writes
  have whole : Whole client.buffer := by
    rw [buffer]
    exact running.whole
  have narrows : Narrows p.client.conn client.conn := by
    rcases cases with ⟨_, same⟩ | ⟨_, gone⟩
    · rw [same]
      exact .refl _
    · rw [gone]
      exact narrows_clientconnDisconnect _
  have held := goOn_open running.descriptor narrows
  obtain ⟨awake, attempts⟩ := running.awake (by simp [writing])
  have asleep : p.sleeping = true → client.phase = .connecting := by simp [awake]
  have stopped := running.watcher
  rw [if_neg (by simp [writing])] at stopped
  have attached : clientconnEof client.conn = !client.phase.attached := by
    rcases cases with ⟨phase, same⟩ | ⟨phase, gone⟩
    · have before := running.attached
      rw [writing] at before
      rw [phase, same]
      exact before
    · rw [phase, gone, clientconnEof_disconnect]
      rfl
  have attempted : (p.goOn client).attempts = p.sleeps +
      if client.phase = .connecting ∧ p.sleeping = false then 0 else 1 := by
    rw [goOn_attempts, attempts, if_neg]
    rcases cases with ⟨phase, _⟩ | ⟨phase, _⟩ <;> simp [phase]
  dsimp only at ran
  split at ran
  · next looping =>
    cases ran
    exact ⟨⟨reachable, whole, held, attached, (if_pos looping).symm, asleep, attempted,
      running.stdinClosed⟩, rfl⟩
  · next stays =>
    cases ran
    exact ⟨⟨reachable, whole, held, attached, stopped.trans (if_neg stays).symm, asleep, attempted,
      running.stdinClosed⟩, rfl⟩

/-- The end of the event loop closes the connection. -/
theorem prepareForRetry_cases (options : Options) (s : State bufsiz) :
    (prepareForRetry options s).conn = clientconnDisconnect s.conn ∧
      (prepareForRetry options s).phase.attached = false ∧
      (prepareForRetry options s).phase ≠ .looping := by
  unfold prepareForRetry
  dsimp only
  split
  · exact ⟨rfl, rfl, nofun⟩
  · exact ⟨rfl, rfl, nofun⟩

theorem Process.Running.readable {answer : ReadAnswer} {unset : Int}
    {fresh : Allocation (LineBuffer bufsiz)} {answers : List WriteAnswer}
    (running : p.Running launch)
    (possible : Client.Possible p.client (.readable answer unset fresh answers))
    (ran : p.readable launch answer unset fresh answers = .ok p') :
    p'.Running launch ∧ p'.exited = p.exited := by
  obtain ⟨looping, sound, answered⟩ := possible
  obtain ⟨⟨ended, client⟩, reads, ran⟩ := except_bind_ok ran
  obtain ⟨narrows, whole, phase, connected⟩ :=
    @unixSockReadableCb_reading _ _ { p.client with answers } _ _ _ _ _
      (fun bytes same => (answered bytes same).1) sound reads
  have whole := whole running.whole
  have phase : client.phase = .looping := phase.trans looping
  have held := goOn_open running.descriptor narrows
  obtain ⟨awake, attempts⟩ := running.awake (by simp [looping])
  have stepped : ∀ s, Client.handle launch.options p.client
      (.readable answer unset fresh answers) = .ok s → Client.Reachable launch.options s :=
    fun s steps =>
    .step running.reachable ⟨.readable answer unset fresh answers, ⟨looping, sound, answered⟩,
      steps⟩
  cases ended with
  | false =>
      cases ran
      have reachable : Client.Reachable launch.options client := by
        apply stepped
        simp only [Client.handle, reads, except_ok_bind, Bool.false_eq_true, if_false, except_pure]
      have same : client.conn.clientUnixSock = p.client.conn.clientUnixSock := by
        cases narrows with
        | kept same _ => exact same
        | closed _ gone _ => exact absurd gone (of_decide_eq_false (connected rfl))
      refine ⟨⟨reachable, whole, held, ?_, ?_, ?_, ?_, running.stdinClosed⟩, rfl⟩
      · rw [goOn_client, connected rfl, phase]
        rfl
      · rw [goOn_client, goOn_watcher, if_pos phase, same]
        exact running.watcher.trans (if_pos looping)
      · simp [awake]
      · rw [goOn_attempts, attempts, if_neg]
        · rfl
        · simp [phase]
  | true =>
      cases ran
      obtain ⟨conn, unattached, left⟩ := prepareForRetry_cases launch.options client
      have reachable : Client.Reachable launch.options (prepareForRetry launch.options client) := by
        apply stepped
        simp only [Client.handle, reads, except_ok_bind, if_true, except_pure]
      have held' : ((p.goOn client).goOn (prepareForRetry launch.options client)).open? =
          some (prepareForRetry launch.options client).conn.descriptor := by
        apply goOn_open held
        rw [conn]
        exact narrows_clientconnDisconnect _
      have whole' : Whole (prepareForRetry launch.options client).buffer := by
        rw [prepareForRetry_buffer]
        exact whole
      have attached : clientconnEof (prepareForRetry launch.options client).conn =
          !(prepareForRetry launch.options client).phase.attached := by
        rw [conn, unattached, clientconnEof_disconnect]
        rfl
      have attempts' : ((p.goOn client).goOn (prepareForRetry launch.options client)).attempts =
          p.sleeps + if (prepareForRetry launch.options client).phase = .connecting ∧
            decide ((prepareForRetry launch.options client).phase = .connecting) = false
            then 0 else 1 := by
        rw [goOn_attempts, goOn_attempts, attempts, if_neg]
        simp
      exact ⟨⟨reachable, whole', held', attached, (if_neg left).symm, of_decide_eq_true, attempts',
        running.stdinClosed⟩, rfl⟩

/-- Whenever it is ended, the process closes what it has open and frees what it can. -/
theorem Process.Running.finalAll (running : p.Running launch) (success : Bool)
    (closing : Closing) :
    ∃ p' status, p.finalAll success closing = .ok p' ∧ p'.exited = some status ∧
      p'.Settled status := by
  obtain ⟨buffer, frees, empty⟩ := running.whole.bufferFinal
  have held := @goOn_open _ p running.descriptor { p.client with
    conn := clientconnDisconnect p.client.conn } (narrows_clientconnDisconnect _)
  rw [descriptor_of_eof (clientconnEof_disconnect _)] at held
  have attempts : p.attempts ≤ p.sleeps + 1 := by
    rw [running.attempts]
    split <;> omega
  have once : p.stdinClosed + 1 = 1 := congrArg (· + 1) running.stdinClosed
  let left := p.goOn { p.client with conn := clientconnDisconnect p.client.conn }
  have attempts' : left.attempts ≤ left.sleeps + 1 := by
    rw [goOn_attempts]
    exact attempts
  cases closes : closing.stdinCloses with
  | false =>
      let failed := { left with stdinClosed := left.stdinClosed + 1, stdinFailed := true }
      refine ⟨failed.exit false closing, false, ?_, rfl, held, closed_of_open held, attempts',
        once.le, ?_, nofun⟩
      · simp only [Process.finalAll, closes, Bool.not_false, if_true, except_pure]
        rfl
      · intro _ unfailed
        cases unfailed
  | true =>
      let freed := { left with
        client := { left.client with buffer }
        stdinClosed := left.stdinClosed + 1
        stdinFailed := false }
      refine ⟨freed.exit success closing, success && closing.streamsClose, ?_, rfl, held,
        closed_of_open held, attempts', once.le, fun _ _ => empty, fun _ => ⟨once, rfl⟩⟩
      have frees' : bufferFinal left.client.buffer = .ok buffer := frees
      simp only [Process.finalAll, closes, Bool.not_true, Bool.false_eq_true, if_false]
      rw [show bufferFinal _ = _ from frees']
      rfl

end Steps

/-! ## Runs -/

section Runs

variable {launch : ClientLaunch Seconds} {p p' : Process bufsiz}

theorem Process.initAll_accounts {fresh₁ fresh₂ : Allocation (LineBuffer bufsiz)}
    (launch : ClientLaunch Seconds) (allocates : InitAllocates fresh₁ fresh₂) (closing : Closing)
    (ran : initAll fresh₁ fresh₂ closing = .ok p) :
    p.exited = none ∧ p.Running launch ∨
      ∃ success, p.exited = some success ∧ p.Settled success := by
  rcases allocates.bufferInit launch.options.buffer with
    ⟨first, append, rfl, rfl, supplied, inits⟩ | ⟨buffer, inits⟩
  · have starts : Client.initAll (some first) (some append) =
        .ok (true, { buffer := (Execution.mk first append []).initial }) := by
      simp only [Client.initAll, inits, except_ok_bind, except_pure]
    simp only [initAll, starts, except_ok_bind, if_true, except_pure, Except.ok.injEq] at ran
    subst ran
    have reachable : Client.Reachable launch.options _ :=
      .start first append supplied.first supplied.append starts
    refine .inl ⟨rfl, reachable, .inl ⟨_, _, _, supplied.linked⟩, rfl, rfl, rfl, ?_, rfl, rfl⟩
    intro slept
    cases slept
  · simp only [initAll, Client.initAll, inits, except_ok_bind, Bool.false_eq_true, if_false,
      except_pure, Except.ok.injEq] at ran
    subst ran
    refine .inr ⟨false, rfl, rfl, fun _ => rfl, Nat.zero_le _, Nat.zero_le _, ?_, ?_⟩
    · intro closed
      cases closed
    · intro success
      cases success

theorem Process.Running.handle {event : Process.Event bufsiz} (running : p.Running launch)
    (short : launch.filePath.bytes.length ≤ sizeofSunPath - 1) (possible : p.Possible event)
    (ran : p.handle launch event = .ok p') :
    p'.exited = none ∧ p'.Running launch ∨
      ∃ success, p'.exited = some success ∧ p'.Settled success := by
  have ends : ∀ {success closing}, p.finalAll success closing = .ok p' →
      ∃ success, p'.exited = some success ∧ p'.Settled success := by
    intro success closing ran
    obtain ⟨p'', status, settles, exited, settled⟩ := running.finalAll success closing
    rw [settles] at ran
    cases ran
    exact ⟨status, exited, settled⟩
  cases event with
  | attempt attempt errno =>
      obtain ⟨p'', attempts, running', exited⟩ :=
        running.attempt short possible.2.2 possible.2.1 attempt errno
      rw [Process.handle, attempts] at ran
      cases ran
      exact .inl ⟨exited.trans possible.1, running'⟩
  | timeout =>
      cases ran
      exact .inl ⟨possible.1, running.timeout possible.2⟩
  | write answers =>
      obtain ⟨running', exited⟩ := running.write possible.2 ran
      exact .inl ⟨exited.trans possible.1, running'⟩
  | readable answer unset fresh answers =>
      obtain ⟨running', exited⟩ := running.readable possible.2.2 ran
      exact .inl ⟨exited.trans possible.1, running'⟩
  | interrupt closing => exact .inr (ends ran)
  | libevError closing => exact .inr (ends ran)
  | ended closing => exact .inr (ends ran)

theorem Process.Possible.running {event : Process.Event bufsiz} (possible : p.Possible event) :
    p.exited = none := by
  cases event with
  | attempt => exact possible.1
  | timeout => exact possible.1
  | write => exact possible.1
  | readable => exact possible.1
  | interrupt => exact possible
  | libevError => exact possible
  | ended => exact possible.1

theorem Process.Reachable.accounts (short : launch.filePath.bytes.length ≤ sizeofSunPath - 1)
    (reachable : Reachable launch p) :
    p.exited = none ∧ p.Running launch ∨
      ∃ success, p.exited = some success ∧ p.Settled success := by
  induction reachable with
  | start fresh₁ fresh₂ closing allocates ran => exact initAll_accounts launch allocates closing ran
  | step event _ possible ran accounts =>
      rcases accounts with ⟨_, running⟩ | ⟨success, exited, _⟩
      · exact running.handle short possible ran
      · rw [possible.running] at exited
        cases exited

/-- No step of a running process fails, but where the callback fails by itself. -/
theorem Process.Running.returns {event : Process.Event bufsiz} (running : p.Running launch)
    (short : launch.filePath.bytes.length ≤ sizeofSunPath - 1) (possible : p.Possible event)
    (reads : ∀ answer unset fresh answers, event = .readable answer unset fresh answers →
      Returns (Client.handle launch.options p.client (.readable answer unset fresh answers))
        fun _ => True) :
    Returns (p.handle launch event) fun _ => True := by
  have ends : ∀ success closing, Returns (p.finalAll success closing) fun _ => True := by
    intro success closing
    obtain ⟨p'', status, settles, _⟩ := running.finalAll success closing
    rw [settles]
    trivial
  cases event with
  | attempt attempt errno =>
      obtain ⟨p'', attempts, _⟩ :=
        running.attempt short possible.2.2 possible.2.1 attempt errno
      rw [Process.handle, attempts]
      trivial
  | timeout => trivial
  | write answers =>
      cases writes : writeToServer { p.client with answers } with
      | error fault =>
          rw [Process.handle, Process.write, writes]
          exact writeToServer_fault writes
      | ok client =>
          rw [Process.handle, Process.write, writes]
          dsimp only [except_ok_bind]
          split <;> trivial
  | readable answer unset fresh answers =>
      have calls := reads answer unset fresh answers rfl
      rw [Process.handle, Process.readable]
      rw [Client.handle] at calls
      cases read : unixSockReadableCb launch.options { p.client with answers } answer unset
          fresh with
      | error fault =>
          rw [read] at calls
          exact calls
      | ok result =>
          obtain ⟨ended, client⟩ := result
          cases ended <;> trivial
  | interrupt closing => exact ends true closing
  | libevError closing => exact ends false closing
  | ended closing => exact ends true closing

end Runs

/-- Whatever happens to a client whose path fits, and whenever it is ended: it never has more
than one descriptor open, waits or reads on no other, sleeps between any two attempts to connect,
and has closed each descriptor exactly once when it has exited. -/
theorem descriptors_of_reachable (launch : ClientLaunch Seconds) (p : Process bufsiz)
    (short : launch.filePath.bytes.length ≤ sizeofSunPath - 1)
    (reachable : Process.Reachable launch p) :
    (p.exited = none → p.Running launch ∧
      ∀ event, p.Possible event →
        (∀ answer unset fresh answers, event = .readable answer unset fresh answers →
          Returns (Client.handle launch.options p.client
            (.readable answer unset fresh answers)) fun _ => True) →
        Returns (p.handle launch event) fun _ => True) ∧
      ∀ success, p.exited = some success → p.Settled success := by
  rcases reachable.accounts short with ⟨running, accounts⟩ | ⟨status, exited, settled⟩
  · refine ⟨fun _ => ⟨accounts, fun event possible reads =>
      accounts.returns short possible reads⟩, ?_⟩
    intro success exited
    rw [running] at exited
    cases exited
  · constructor
    · intro running
      rw [exited] at running
      cases running
    · intro success same
      rw [exited] at same
      cases same
      exact settled

/-! A client that has to try twice, receives a tail and is interrupted. -/

def sampleLaunch : ClientLaunch Unit where
  settings := { follow := true, reopenFile := true, sleepSeconds := () }
  filePath := ⟨[115, 111], by decide⟩

def sampleProcess (events : List (Process.Event 4)) : Process 4 :=
  let idle : Process 4 := { client := { buffer := {} } }
  let started := (Process.initAll (some sampleExecution.first) (some sampleExecution.append)
    ⟨true, true⟩).toOption.getD idle
  (events.foldlM (Process.handle sampleLaunch) started).toOption.getD idle

def sampleLifecycle : List (Process.Event 4) :=
  [.attempt (.refused 3 (.other 111)) .eintr, .timeout, .attempt (.connected 3) .eintr,
    .readable (.data [49]) 0 none [], .readable (.data [10]) 0 none [],
    .readable (.data [97]) 0 none [.accepted 1], .interrupt ⟨true, true⟩]

theorem sampleProcess_reachable :
    Process.Reachable sampleLaunch (sampleProcess sampleLifecycle) := by
  have started : Process.Reachable sampleLaunch (sampleProcess (sampleLifecycle.take 0)) := by
    refine .start (some sampleExecution.first) (some sampleExecution.append) ⟨true, true⟩
      ⟨?_, ?_⟩ rfl
    · intro first same
      cases same
      decide
    · intro first append same same'
      cases same
      cases same'
      decide
  have refused : Process.Reachable sampleLaunch (sampleProcess (sampleLifecycle.take 1)) :=
    .step (.attempt (.refused 3 (.other 111)) .eintr) started ⟨rfl, rfl, rfl⟩ rfl
  have slept : Process.Reachable sampleLaunch (sampleProcess (sampleLifecycle.take 2)) :=
    .step .timeout refused ⟨rfl, rfl⟩ rfl
  have connected : Process.Reachable sampleLaunch (sampleProcess (sampleLifecycle.take 3)) :=
    .step (.attempt (.connected 3) .eintr) slept ⟨rfl, rfl, rfl⟩ rfl
  have digit : Process.Reachable sampleLaunch (sampleProcess (sampleLifecycle.take 4)) :=
    .step (.readable (.data [49]) 0 none []) connected ⟨rfl, rfl, by decide +kernel⟩ rfl
  have header : Process.Reachable sampleLaunch (sampleProcess (sampleLifecycle.take 5)) :=
    .step (.readable (.data [10]) 0 none []) digit ⟨rfl, rfl, by decide +kernel⟩ rfl
  have tail : Process.Reachable sampleLaunch (sampleProcess (sampleLifecycle.take 6)) :=
    .step (.readable (.data [97]) 0 none [.accepted 1]) header ⟨rfl, rfl, by decide +kernel⟩ rfl
  exact .step (.interrupt ⟨true, true⟩) tail rfl rfl

theorem descriptors_of_sampleProcess :
    ((sampleProcess sampleLifecycle).exited = none →
      (sampleProcess sampleLifecycle).Running sampleLaunch ∧
      ∀ event, (sampleProcess sampleLifecycle).Possible event →
        (∀ answer unset fresh answers, event = .readable answer unset fresh answers →
          Returns (Client.handle sampleLaunch.options (sampleProcess sampleLifecycle).client
            (.readable answer unset fresh answers)) fun _ => True) →
        Returns ((sampleProcess sampleLifecycle).handle sampleLaunch event) fun _ => True) ∧
      ∀ success, (sampleProcess sampleLifecycle).exited = some success →
        (sampleProcess sampleLifecycle).Settled success :=
  descriptors_of_reachable sampleLaunch (sampleProcess sampleLifecycle) (by decide)
    sampleProcess_reachable

example : (sampleProcess sampleLifecycle).client.stdout = [97] := by decide

end Tailserver.Client
