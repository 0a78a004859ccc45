import Tailserver.Server.Growth
import Tailserver.Server.Ownership

/-! The gate of `--wait`: standard input is not read before a client is registered,
so the first client misses nothing. The gate is a flag and two watchers, and without
a socket file path the watcher that could open it is never started. -/

set_option autoImplicit false

namespace Tailserver.Server

open CMemory Buffer

variable {bufsiz : Nat}

/-- Some tailer on the list serves the socket. -/
def Attached (s : State bufsiz) (socket : Nat) : Prop :=
  ∃ node, OnTailers s node ∧ node.socket = socket

/-- No connection was registered before this one. -/
def FirstRegistered (s : State bufsiz) (socket : Nat) : Prop :=
  (s.connections socket).registered = true ∧
    ∀ earlier < socket, (s.connections earlier).registered = false

/-- What `--wait` promises. -/
structure Gated (options : Options) (s : State bufsiz) : Prop where
  /-- Standard input waits for a client. -/
  unread : (∀ socket, (s.connections socket).registered = false) →
    s.stdinRead = [] ∧ ∀ res fresh answers, ¬ Possible s (.stdin res fresh answers)
  /-- The first client is sent `"0\n"` and everything from the first byte on. -/
  stream : ∀ socket, FirstRegistered s socket →
    (s.connections socket).received <+: [48, 10] ++ s.stdinRead ∧
      (Attached s socket → (s.connections socket).received = [48, 10] ++ s.stdinRead)
  /-- The gate stays open. -/
  latched : s.waitingForClient = false → ∀ s', Relation.ReflTransGen (Steps options) s s' →
    s'.waitingForClient = false ∧ s'.stdinWatcher = true
  /-- While it is closed a client can still come. -/
  listener : s.waitingForClient = true → s.broken = false → s.unixSockWatcher = true

/-! ## The invariant -/

/-- The first registered connection and what it was sent of the chunks handed on. -/
structure FirstServed (options : Options) (s : State bufsiz) (first : Nat) : Prop where
  known : first < s.accepted
  registered : FirstRegistered s first
  before : (s.connections first).before = []
  follows : Follows options s.socketsChunks.flatten (s.connections first) (Attached s first)

/-- Nothing has happened yet but connections that were closed at once. -/
structure Closed (s : State bufsiz) : Prop where
  stdinRead : s.stdinRead = []
  socketsChunks : s.socketsChunks = []
  unregistered : ∀ socket, (s.connections socket).registered = false
  tail : bufferTail s.buffer = .ok []
  size : (bufferTailSize s.buffer).toNat = 0

structure Gate (options : Options) (s : State bufsiz) : Prop where
  stdinWatcher : s.stdinWatcher = !s.waitingForClient
  unixSockWatcher : s.unixSockWatcher = options.filePath
  shut : s.waitingForClient = true → Closed s
  opened : s.waitingForClient = false → ∃ first, FirstServed options s first
  /-- Without a listener nothing ever happens. -/
  mute : options.filePath = false → s.waitingForClient = true ∧ s.broken = false

theorem Registered.attached_iff {s : State bufsiz} {clients : Clients}
    (registered : Registered s clients) {socket : Nat} :
    Attached s socket ↔ socket ∈ clients.map Prod.snd :=
  registered.onTailers_iff socket

theorem stream_of_nothing {options : Options} {read : List UInt8} {connection : Connection}
    (before : connection.before = []) :
    stream options read connection = [48, 10] ++ read := by
  rw [stream, before, requiredTail_nil]
  rfl

/-! ## Callbacks -/

/-- The first client stays the first one; what matters is what it was sent. -/
theorem FirstServed.later {options : Options} {s s' : State bufsiz} {event : Event bufsiz}
    {clients clients' : Clients} {first : Nat} (served : FirstServed options s first)
    (possible : Possible s event) (ran : handle options s event = .ok s')
    (registered : Registered s clients) (registered' : Registered s' clients')
    (follows : Follows options s.socketsChunks.flatten (s.connections first)
        (first ∈ clients.map Prod.snd) →
      Follows options s'.socketsChunks.flatten (s'.connections first)
        (first ∈ clients'.map Prod.snd)) : FirstServed options s' first := by
  obtain ⟨accepted, grows⟩ := handle_grows possible ran
  have same : ∀ socket < s.accepted,
      (s'.connections socket).registered = (s.connections socket).registered ∧
        (s'.connections socket).before = (s.connections socket).before := by
    intro socket known
    obtain ⟨_, _, grows⟩ := grows socket known
    exact ⟨grows.registered, grows.before⟩
  refine ⟨?_, ⟨?_, ?_⟩, ?_, ?_⟩
  · rcases accepted with accepted | opens
    · exact accepted ▸ served.known
    · exact opens.accepted ▸ Nat.lt_succ_of_lt served.known
  · rw [(same first served.known).1]
    exact served.registered.1
  · intro earlier lt
    rw [(same earlier (Nat.lt_trans lt served.known)).1]
    exact served.registered.2 earlier lt
  · rw [(same first served.known).2]
    exact served.before
  · have before := served.follows
    rw [registered.attached_iff] at before
    rw [registered'.attached_iff]
    exact follows before

theorem Closed.later {s s' : State bufsiz} (closed : Closed s) (idle : Idle s s')
    (unregistered : ∀ socket, (s'.connections socket).registered = false) : Closed s' where
  stdinRead := idle.stdinRead.trans closed.stdinRead
  socketsChunks := idle.socketsChunks.trans closed.socketsChunks
  unregistered := unregistered
  tail := by rw [idle.buffer]; exact closed.tail
  size := by rw [idle.buffer]; exact closed.size

/-- The first client is welcomed with an empty tail. -/
theorem Arrives.firstServed {options : Options} {s s' : State bufsiz} {clients : Clients}
    {block : Nat} {connection : Connection} {listed : Bool}
    (arrives : Arrives s s' (enlist listed (block, s.accepted) clients) connection)
    (settled : Settled s.stdinRead (sizeHeader (bufferTailSize s.buffer) ++ []) connection listed)
    (registered : connection.registered = true) (new : s.accepted ∉ clients.map Prod.snd)
    (closed : Closed s) : FirstServed options s' s.accepted := by
  have own : s'.connections s.accepted = connection := by
    rw [arrives.connections, Function.update_self]
  have before : connection.before = [] := by
    cases settled <;> exact closed.stdinRead
  have promised : stream options s.stdinRead connection =
      sizeHeader (bufferTailSize s.buffer) ++ [] := by
    rw [stream_of_nothing before, closed.stdinRead, sizeHeader, closed.size]
    rfl
  refine ⟨arrives.accepted ▸ Nat.lt_succ_self _, ⟨own ▸ registered, ?_⟩, own ▸ before, ?_⟩
  · intro earlier lt
    rw [arrives.connections, Function.update_of_ne (Nat.ne_of_lt lt)]
    exact closed.unregistered earlier
  · have follows := settled.follows fun _ => promised
    rw [arrives.registered.attached_iff, mem_sockets_enlist, own, arrives.idle.socketsChunks,
      closed.socketsChunks]
    rw [closed.stdinRead] at follows
    simpa [new] using follows

/-- A callback that neither reads nor registers leaves the gate as it is. -/
theorem Gate.later {options : Options} {s s' : State bufsiz} {event : Event bufsiz}
    {clients clients' : Clients} (gate : Gate options s) (possible : Possible s event)
    (ran : handle options s event = .ok s') (registered : Registered s clients)
    (registered' : Registered s' clients') (idle : Idle s s')
    (waitingForClient : s'.waitingForClient = s.waitingForClient)
    (stdinWatcher : s'.stdinWatcher = s.stdinWatcher)
    (unixSockWatcher : s'.unixSockWatcher = s.unixSockWatcher)
    (unregistered : ∀ socket, (s.connections socket).registered = false →
      (s'.connections socket).registered = false)
    (follows : ∀ first < s.accepted,
      Follows options s.socketsChunks.flatten (s.connections first)
        (first ∈ clients.map Prod.snd) →
      Follows options s.socketsChunks.flatten (s'.connections first)
        (first ∈ clients'.map Prod.snd)) : Gate options s' where
  stdinWatcher := by rw [stdinWatcher, waitingForClient]; exact gate.stdinWatcher
  unixSockWatcher := unixSockWatcher.trans gate.unixSockWatcher
  shut waiting := by
    have closed := gate.shut (waitingForClient ▸ waiting)
    exact closed.later idle fun socket => unregistered socket (closed.unregistered socket)
  opened waiting := by
    obtain ⟨first, served⟩ := gate.opened (waitingForClient ▸ waiting)
    refine ⟨first, served.later possible ran registered registered' ?_⟩
    rw [idle.socketsChunks]
    exact follows first served.known
  mute noPath := by
    rw [waitingForClient, idle.broken]
    exact gate.mute noPath

/-- The gate is open once a client has been registered. -/
theorem Gate.enters {options : Options} {s s' : State bufsiz} {event : Event bufsiz}
    {clients : Clients} {block : Nat} {connection : Connection} {listed : Bool}
    (gate : Gate options s) (possible : Possible s event) (ran : handle options s event = .ok s')
    (tending : Tending s clients) (listens : options.filePath = true)
    (arrives : Arrives s s' (enlist listed (block, s.accepted) clients) connection)
    (settled : s.waitingForClient = true →
      Settled s.stdinRead (sizeHeader (bufferTailSize s.buffer) ++ []) connection listed)
    (enters : connection.registered = true) :
    Gate options s' ∧ s'.waitingForClient = false := by
  have waits := arrives.waitingForClient
  have watches := arrives.stdinWatcher
  rw [enters, Bool.not_true, Bool.and_false] at waits
  rw [enters, Bool.and_true, gate.stdinWatcher, Bool.not_or_self] at watches
  refine ⟨⟨?_, arrives.unixSockWatcher.trans gate.unixSockWatcher, ?_, ?_, ?_⟩, waits⟩
  · rw [watches, waits]
    rfl
  · rw [waits]
    exact fun closed => nomatch closed
  · intro _
    cases waiting : s.waitingForClient with
    | true =>
        exact ⟨_, arrives.firstServed (settled waiting) enters tending.sound.accepted_notMem
          (gate.shut waiting)⟩
    | false =>
        obtain ⟨first, served⟩ := gate.opened waiting
        refine ⟨first, served.later possible ran tending.registered arrives.registered ?_⟩
        rw [arrives.idle.socketsChunks]
        exact arrives.follows served.known
  · intro noPath
    rw [listens] at noPath
    cases noPath

/-- The callback of the listening socket opens the gate when it registers a client. -/
theorem Gate.unixSock {options : Options} {s s' : State bufsiz} {clients : Clients}
    {attempts : List AcceptAnswer} {named : Bool} {fresh : Allocation Tailer}
    {answers : List WriteAnswer} (gate : Gate options s) (tending : Tending s clients)
    (possible : Possible s (.unixSock attempts named fresh answers))
    (ran : handle options s (.unixSock attempts named fresh answers) = .ok s') :
    Gate options s' ∧ (s.waitingForClient = false → s'.waitingForClient = false) := by
  have listens : options.filePath = true := gate.unixSockWatcher ▸ possible.1
  obtain ⟨tail, offered, empty⟩ : ∃ tail, bufferTail s.buffer = .ok tail ∧
      (s.waitingForClient = true → tail = []) := by
    cases waiting : s.waitingForClient with
    | true => exact ⟨[], (gate.shut waiting).tail, fun _ => rfl⟩
    | false =>
        obtain ⟨front, rest, listed, within⟩ := tending.offers
        obtain ⟨tail, offers⟩ := bufferTail_total listed within
        exact ⟨tail, offers _ listed rfl, fun closed => nomatch closed⟩
  have registered := tending.registered
  have prepared : Registered { s with answers } clients := registered.frame rfl rfl
  rcases (prepared.unixSockCb tending.sound.accepted_notMem offered possible.2 attempts
    named).of_ok ran with rfl | ⟨block, connection, listed, arrived, settled⟩
  · exact ⟨gate.later possible ran registered prepared ⟨rfl, rfl, rfl, rfl, rfl⟩ rfl rfl rfl
      (fun _ => id) fun _ _ => id, id⟩
  have arrives := arrived.of_answers
  cases enters : connection.registered with
  | false =>
      have waits := arrives.waitingForClient
      have watches := arrives.stdinWatcher
      rw [enters, Bool.not_false, Bool.and_true] at waits
      rw [enters, Bool.and_false, Bool.or_false] at watches
      refine ⟨gate.later possible ran registered arrives.registered arrives.idle waits watches
        arrives.unixSockWatcher ?_ fun _ => arrives.follows, waits.trans⟩
      intro socket unregistered
      rw [arrives.connections, Function.update_apply]
      split
      · exact enters
      · exact unregistered
  | true =>
      have entered := gate.enters possible ran tending listens arrives
        (fun waiting => empty waiting ▸ settled) enters
      exact ⟨entered.1, fun _ => entered.2⟩

theorem Gate.tailerReadable {options : Options} {s s' : State bufsiz} {clients : Clients}
    {tailer : Nat} {res : ReadAnswer} (gate : Gate options s) (tending : Tending s clients)
    (possible : Possible s (.tailerReadable tailer res))
    (ran : handle options s (.tailerReadable tailer res) = .ok s') :
    Gate options s' ∧ (s.waitingForClient = false → s'.waitingForClient = false) := by
  have registered := tending.registered
  obtain ⟨node, found, _⟩ := possible.1
  rcases (registered.tailerReadableCb found res).of_ok ran with
    rfl | ⟨front, client, back, rfl, departs⟩
  · exact ⟨gate, id⟩
  have frame := departs.frame
  refine ⟨gate.later possible ran registered departs.registered frame.idle
    frame.waitingForClient frame.stdinWatcher frame.unixSockWatcher ?_ ?_,
    frame.waitingForClient.trans⟩
  · intro socket unregistered
    rw [departs.connections, Function.update_apply]
    split
    · next same =>
      subst same
      exact unregistered
    · exact unregistered
  · exact fun first _ follows => departs.follows registered follows

/-- `stdin_cb` runs only when the gate is open, and leaves it open. -/
theorem Gate.stdin {options : Options} {s s' : State bufsiz} {clients : Clients}
    {res : ReadAnswer} {fresh : Allocation (LineBuffer bufsiz)} {answers : List WriteAnswer}
    (gate : Gate options s) (tending : Tending s clients)
    (possible : Possible s (.stdin res fresh answers))
    (ran : handle options s (.stdin res fresh answers) = .ok s') :
    Gate options s' ∧ (s.waitingForClient = false → s'.waitingForClient = false) := by
  obtain ⟨watched, running, sound, sized⟩ := possible
  have isOpen : s.waitingForClient = false := by
    simpa [gate.stdinWatcher] using watched
  have registered := tending.registered
  obtain ⟨first, served⟩ := gate.opened isOpen
  have settle : s'.waitingForClient = s.waitingForClient → s'.stdinWatcher = s.stdinWatcher →
      s'.unixSockWatcher = s.unixSockWatcher → FirstServed options s' first →
      Gate options s' ∧ (s.waitingForClient = false → s'.waitingForClient = false) := by
    intro waiting watcher listener served'
    rw [isOpen] at waiting
    refine ⟨⟨?_, listener.trans gate.unixSockWatcher, ?_, fun _ => ⟨first, served'⟩, ?_⟩,
      fun _ => waiting⟩
    · rw [watcher, watched, waiting]
      rfl
    · rw [waiting]
      exact fun closed => nomatch closed
    · intro noPath
      rw [(gate.mute noPath).1] at isOpen
      cases isOpen
  have possible' : Possible s (.stdin res fresh answers) := ⟨watched, running, sound, sized⟩
  have takes := takes_of_handle ran
  have prepared : Registered { s with answers } clients := registered.frame rfl rfl
  cases res with
  | data bytes =>
      obtain ⟨nonempty, fits⟩ := sized bytes rfl
      obtain ⟨⟨continues, buffer⟩, appends⟩ := takes
      obtain ⟨spare, front, rest, linked⟩ := tending.appendable running
      cases (prepared.stdinCb linked nonempty fits sound appends).of_ok ran with
      | refused same =>
          subst same
          refine settle rfl rfl rfl ?_
          exact served.later possible' ran registered (registered.frame rfl rfl) id
      | forwarded frame registered' broadcast =>
          refine settle frame.waitingForClient frame.stdinWatcher frame.unixSockWatcher ?_
          refine served.later possible' ran registered registered' fun follows => ?_
          rw [frame.socketsChunks, List.flatten_append, List.flatten_singleton]
          exact broadcast.follows registered.sockets follows
  | eof =>
      cases ran
      refine settle rfl rfl rfl ?_
      exact served.later possible' rfl registered (registered.frame rfl rfl) id
  | failed errno =>
      have ran' := ran
      simp only [Server.handle, Server.stdinCb] at ran'
      split at ran'
      · cases ran'
        refine settle rfl rfl rfl ?_
        exact served.later possible' ran registered (registered.frame rfl rfl) id
      · cases ran'
        refine settle rfl rfl rfl ?_
        exact served.later possible' ran registered (registered.frame rfl rfl) id

theorem Gate.handle {options : Options} {s s' : State bufsiz} {clients : Clients}
    {event : Event bufsiz} (gate : Gate options s) (tending : Tending s clients)
    (possible : Possible s event) (ran : handle options s event = .ok s') :
    Gate options s' ∧ (s.waitingForClient = false → s'.waitingForClient = false) := by
  cases event with
  | stdin res fresh answers => exact gate.stdin tending possible ran
  | unixSock attempts named fresh answers => exact gate.unixSock tending possible ran
  | tailerReadable tailer res => exact gate.tailerReadable tending possible ran

/-! ## Runs -/

theorem Started.gate {options : Options} {first append : Nat × LineBuffer bufsiz}
    {s : State bufsiz} (started : Started options first append s)
    (waits : options.waitForClient = true) : Gate options s := by
  have waiting : s.waitingForClient = true := started.waitingForClient.trans waits
  have reports : Reports options.buffer s.buffer (requiredTail options.buffer []) := by
    rw [started.buffer]
    exact ((Execution.mk first append []).holds options.buffer).reports
      started.supplied.linked.toListed
  rw [requiredTail_nil] at reports
  refine ⟨?_, started.unixSockWatcher, fun _ => ⟨started.stdinRead, started.socketsChunks, ?_,
    reports.tail, reports.size⟩, ?_, fun _ => ⟨waiting, started.broken⟩⟩
  · rw [started.stdinWatcher, waits, waiting]
  · exact fun socket => congrArg Connection.registered (started.connections socket)
  · rw [waiting]
    exact fun isOpen => nomatch isOpen

theorem Reachable.gate {options : Options} {append : Nat × LineBuffer bufsiz}
    {allowed : Event bufsiz → Prop} {s : State bufsiz} (waits : options.waitForClient = true)
    (reachable : Reachable options append allowed s) : Gate options s := by
  induction reachable with
  | start first opened fresh fresh' ran => exact (started_of_initAll fresh fresh' ran).gate waits
  | step event reachable possible _ ran gate =>
      obtain ⟨clients, tending⟩ := reachable.tending
      exact (gate.handle tending possible ran).1

theorem Reachable.mono {options : Options} {append : Nat × LineBuffer bufsiz}
    {allowed allowed' : Event bufsiz → Prop} {s : State bufsiz}
    (reachable : Reachable options append allowed s)
    (implies : ∀ event, allowed event → allowed' event) :
    Reachable options append allowed' s := by
  induction reachable with
  | start first opened fresh fresh' ran => exact .start first opened fresh fresh' ran
  | step event _ possible allows ran ih => exact .step event ih possible (implies _ allows) ran

/-- An open gate is still open after any further callbacks. -/
theorem Reachable.latched {options : Options} {append : Nat × LineBuffer bufsiz}
    {s s' : State bufsiz} (waits : options.waitForClient = true)
    (reachable : Reachable options append (fun _ => True) s) (isOpen : s.waitingForClient = false)
    (continues : Relation.ReflTransGen (Steps options) s s') :
    s'.waitingForClient = false ∧ s'.stdinWatcher = true := by
  have opened : ∀ s' : State bufsiz, Reachable options append (fun _ => True) s' →
      s'.waitingForClient = false → s'.stdinWatcher = true := by
    intro s' reachable' isOpen'
    rw [(reachable'.gate waits).stdinWatcher, isOpen']
    rfl
  suffices holds : Reachable options append (fun _ => True) s' ∧ s'.waitingForClient = false from
    ⟨holds.2, opened s' holds.1 holds.2⟩
  induction continues with
  | refl => exact ⟨reachable, isOpen⟩
  | tail _ steps ih =>
      obtain ⟨event, possible, ran⟩ := steps
      obtain ⟨reachable', isOpen'⟩ := ih
      obtain ⟨clients, tending⟩ := reachable'.tending
      have stays := ((reachable'.gate waits).handle tending possible ran).2
      exact ⟨.step event reachable' possible trivial ran, stays isOpen'⟩

theorem FirstRegistered.unique {s : State bufsiz} {socket other : Nat}
    (first : FirstRegistered s socket) (first' : FirstRegistered s other) : socket = other := by
  rcases Nat.lt_trichotomy socket other with lt | same | lt
  · have unregistered := first'.2 socket lt
    rw [first.1] at unregistered
    cases unregistered
  · exact same
  · have unregistered := first.2 other lt
    rw [first'.1] at unregistered
    cases unregistered

/-- As long as `stdin_cb` gets its memory, `--wait` keeps its promise exactly when
there is a socket file. -/
theorem gated_iff (options : Options) (append : Nat × LineBuffer bufsiz)
    (waits : options.waitForClient = true) (s : State bufsiz)
    (reachable : Reachable options append Provided s) :
    Gated options s ↔ options.filePath = true := by
  have gate := reachable.gate waits
  constructor
  · intro gated
    by_contra noPath
    obtain ⟨waiting, running⟩ := gate.mute (Bool.eq_false_iff.mpr noPath)
    have listens := gated.listener waiting running
    rw [gate.unixSockWatcher] at listens
    exact noPath listens
  · intro path
    have teeing := reachable.teeing fun _ => id
    have read : s.socketsChunks.flatten = s.stdinRead := by
      rw [teeing.sockets, teeing.stdout]
    refine ⟨?_, ?_, ?_, ?_⟩
    · intro unregistered
      have waiting : s.waitingForClient = true := by
        by_contra isOpen
        obtain ⟨first, served⟩ := gate.opened (Bool.eq_false_iff.mpr isOpen)
        have registered := served.registered.1
        rw [unregistered first] at registered
        cases registered
      refine ⟨(gate.shut waiting).stdinRead, ?_⟩
      rintro res fresh answers ⟨watched, _⟩
      rw [gate.stdinWatcher, waiting] at watched
      cases watched
    · intro socket registered
      have isOpen : s.waitingForClient = false := by
        by_contra closed
        have unregistered :=
          (gate.shut (Bool.eq_true_of_not_eq_false closed)).unregistered socket
        rw [registered.1] at unregistered
        cases unregistered
      obtain ⟨first, served⟩ := gate.opened isOpen
      have same := registered.unique served.registered
      subst same
      have follows := served.follows
      have received := follows.received
      have whole := follows.whole
      rw [stream_of_nothing served.before, read] at received whole
      exact ⟨received, whole⟩
    · intro isOpen s' continues
      exact (reachable.mono fun _ _ => trivial).latched waits isOpen continues
    · intro _ _
      rw [gate.unixSockWatcher]
      exact path

/-- A server with `--wait`, with or without a socket file. -/
def waitingOptions (filePath : Bool) : Options :=
  { sampleOptions with waitForClient := true, filePath }

def waitingStart (filePath : Bool) : State 4 where
  buffer := sampleExecution.initial
  waitingForClient := true
  unixSockWatcher := filePath

def waitingAccepted : State 4 :=
  (handle (waitingOptions true) (waitingStart true) sampleAccept).toOption.getD
    (waitingStart true)

def waitingServer : State 4 :=
  (handle (waitingOptions true) waitingAccepted sampleRead).toOption.getD (waitingStart true)

theorem waitingStart_reachable (filePath : Bool) :
    Reachable (waitingOptions filePath) sampleExecution.append Provided
      (waitingStart filePath) := by
  refine .start sampleExecution.first true (by decide) (by decide) ?_
  cases filePath <;> rfl

theorem waitingServer_reachable :
    Reachable (waitingOptions true) sampleExecution.append Provided waitingServer := by
  have accepted : Reachable (waitingOptions true) sampleExecution.append Provided
      waitingAccepted := by
    refine .step sampleAccept (waitingStart_reachable true) ⟨rfl, ?_⟩ trivial rfl
    intro block node same
    cases same
    decide
  refine .step sampleRead accepted ⟨rfl, rfl, by decide, ?_⟩ rfl rfl
  intro bytes same
  cases same
  decide

theorem gated_iff_of_waitingServer :
    Gated (waitingOptions true) waitingServer ↔ (waitingOptions true).filePath = true :=
  gated_iff (waitingOptions true) sampleExecution.append rfl waitingServer
    waitingServer_reachable

example : (waitingServer.connections 0).received = [48, 10, 97, 10] := by decide

/-- Without a socket file the server waits for a client that cannot come. -/
theorem not_gated_of_noPath :
    ¬ ∀ (options : Options) (append : Nat × LineBuffer 4) (s : State 4),
      options.waitForClient = true → Reachable options append Provided s →
        Gated options s := by
  intro promise
  have gated := promise (waitingOptions false) sampleExecution.append (waitingStart false) rfl
    (waitingStart_reachable false)
  have listens := gated.listener rfl rfl
  cases listens

end Tailserver.Server
