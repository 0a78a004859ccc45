import Tailserver.Server.Callbacks

/-! What each client receives. A listed client is up to date with the stream it
was promised when it was accepted; one that left has received a beginning of it. -/

set_option autoImplicit false

namespace Tailserver.Server

open CMemory Buffer

variable {bufsiz : Nat}

/-- The stream of a client: the size of the tail, the tail, and what was read from
standard input since then. -/
def stream (options : Options) (read : List UInt8) (connection : Connection) : List UInt8 :=
  Decimal.decimal (requiredTail options.buffer connection.before).length ++ [newline] ++
    requiredTail options.buffer connection.before ++ read.drop connection.before.length

theorem stream_append {options : Options} {read : List UInt8} {connection : Connection}
    (before : connection.before <+: read) (bytes : List UInt8) :
    stream options (read ++ bytes) connection = stream options read connection ++ bytes := by
  have later := before.length_le
  rw [stream, List.drop_append_of_le_length later, ← List.append_assoc]
  rfl

/-- The record of one connection; `listed` says whether it is on the list. -/
structure Follows (options : Options) (read : List UInt8) (connection : Connection)
    (listed : Prop) : Prop where
  before : connection.before <+: read
  received : connection.received <+: stream options read connection
  whole : listed → connection.received = stream options read connection
  opened : listed → connection.closes = 0
  left : connection.registered = true → ¬ listed →
    connection.cut = true ∨ connection.hungUp = true

/-- A client that was not cut off and did nothing is listed. -/
theorem Follows.listed {options : Options} {read : List UInt8} {connection : Connection}
    {listed : Prop} (follows : Follows options read connection listed)
    (registered : connection.registered = true) (uncut : connection.cut = false)
    (quiet : connection.hungUp = false) : listed := by
  by_contra absent
  rcases follows.left registered absent with cut | hungUp
  · rw [uncut] at cut
    cases cut
  · rw [quiet] at hungUp
    cases hungUp

theorem Follows.unlisted {options : Options} {read bytes : List UInt8}
    {connection : Connection} {listed : Prop} (follows : Follows options read connection listed)
    (absent : ¬ listed) : Follows options (read ++ bytes) connection listed where
  before := follows.before.trans (List.prefix_append _ _)
  received := by
    rw [stream_append follows.before]
    exact follows.received.trans (List.prefix_append _ _)
  whole := fun present => absurd present absent
  opened := fun present => absurd present absent
  left := follows.left

theorem Follows.sent {options : Options} {read bytes : List UInt8} {connection : Connection}
    {listed listed' : Prop} (follows : Follows options read connection listed)
    (present : listed) (still : listed') :
    Follows options (read ++ bytes) (connection.sent bytes) listed' := by
  have grown : (connection.sent bytes).received =
      stream options (read ++ bytes) (connection.sent bytes) := by
    have whole := follows.whole present
    have grows := @stream_append options _ _ follows.before bytes
    calc connection.received ++ bytes
        = stream options read connection ++ bytes := by rw [whole]
      _ = stream options (read ++ bytes) connection := grows.symm
  constructor
  · exact follows.before.trans (List.prefix_append _ _)
  · rw [grown]
  · exact fun _ => grown
  · exact fun _ => follows.opened present
  · exact fun _ gone => absurd still gone

theorem Follows.cutOff {options : Options} {read bytes part : List UInt8}
    {connection : Connection} {listed listed' : Prop}
    (follows : Follows options read connection listed) (present : listed)
    (isPrefix : part <+: bytes) (gone : ¬ listed') :
    Follows options (read ++ bytes) (connection.cutOff part) listed' where
  before := follows.before.trans (List.prefix_append _ _)
  received := by
    show connection.received ++ part <+: stream options (read ++ bytes) connection
    rw [stream_append follows.before, follows.whole present]
    exact (List.prefix_append_right_inj _).mpr isPrefix
  whole := fun present => absurd present gone
  opened := fun present => absurd present gone
  left := fun _ _ => .inl rfl

/-- A server between callbacks. -/
structure Serving (options : Options) (s : State bufsiz) (clients : Clients) : Prop where
  registered : Registered s clients
  ready : Ready options.buffer s.buffer s.stdinRead
  known : ∀ client ∈ clients, client.2 < s.accepted
  follows : ∀ socket < s.accepted,
    Follows options s.stdinRead (s.connections socket) (socket ∈ clients.map Prod.snd)

theorem Serving.known_socket {options : Options} {s : State bufsiz} {clients : Clients}
    (serving : Serving options s clients) {socket : Nat}
    (member : socket ∈ clients.map Prod.snd) : socket < s.accepted := by
  obtain ⟨client, found, rfl⟩ := List.mem_map.mp member
  exact serving.known client found

/-! ## Standard input -/

/-- A chunk reaches every client that stays, and no client twice. -/
theorem Broadcast.follows {options : Options} {read buf : List UInt8} {clients kept : Clients}
    {connections connections' : Nat → Connection}
    (broadcast : Broadcast buf clients kept connections connections')
    (sockets : (clients.map Prod.snd).Nodup) {socket : Nat}
    (follows : Follows options read (connections socket) (socket ∈ clients.map Prod.snd)) :
    Follows options (read ++ buf) (connections' socket) (socket ∈ kept.map Prod.snd) := by
  by_cases listed : socket ∈ clients.map Prod.snd
  · obtain ⟨client, member, rfl⟩ := List.mem_map.mp listed
    rcases broadcast.of_mem sockets member with ⟨stays, same⟩ | ⟨leaves, part, isPrefix, same⟩
    · rw [same]
      exact follows.sent listed (List.mem_map_of_mem stays)
    · rw [same]
      exact follows.cutOff listed isPrefix leaves
  · have gone : socket ∉ kept.map Prod.snd := fun member =>
      listed ((broadcast.sublist.map _).subset member)
    rw [broadcast.untouched listed]
    have unlisted := @Follows.unlisted _ _ buf _ _ follows listed
    exact ⟨unlisted.before, unlisted.received, fun present => absurd present gone,
      fun present => absurd present gone, fun registered _ => unlisted.left registered listed⟩

theorem Serving.stdinCb {options : Options} {s : State bufsiz} {clients : Clients}
    {bytes : List UInt8} {fresh : Allocation (LineBuffer bufsiz)}
    (serving : Serving options s clients) (nonempty : bytes ≠ [])
    (fits : bytes.length ≤ bufsiz) (sound : Allocates s.buffer fresh)
    (granted : fresh.isSome) :
    Returns (stdinCb options s (.data bytes) fresh) fun s' =>
      ∃ kept, Serving options s' kept := by
  have appends := serving.ready.append nonempty fits sound
  obtain ⟨_, _, _, _, linked, _⟩ := serving.ready
  cases ran : bufferAppend options.buffer s.buffer bytes fresh with
  | error fault =>
      rw [ran] at appends
      cases appends
  | ok result =>
      rw [ran] at appends
      cases appends with
      | exhausted missing => simp [missing] at granted
      | @ready buffer ready =>
          apply (serving.registered.stdinCb linked nonempty fits sound ran).mono
          rintro s' (_ | ⟨frame, registered, broadcast⟩)
          refine ⟨_, registered, ?_, ?_, ?_⟩
          · rw [frame.buffer, frame.stdinRead]
            exact ready
          · intro client member
            rw [frame.accepted]
            exact serving.known client (broadcast.sublist.subset member)
          · intro socket known
            rw [frame.accepted] at known
            rw [frame.stdinRead]
            exact broadcast.follows serving.registered.sockets (serving.follows socket known)

/-! ## Departures -/

/-- A client that leaves has received a beginning of its stream. -/
theorem Departs.follows {options : Options} {read : List UInt8} {s s' : State bufsiz}
    {front back : Clients} {client : Nat × Nat} (departs : Departs s s' front back client)
    (registered : Registered s (front ++ client :: back)) {socket : Nat}
    (follows : Follows options read (s.connections socket)
      (socket ∈ (front ++ client :: back).map Prod.snd)) :
    Follows options read (s'.connections socket) (socket ∈ (front ++ back).map Prod.snd) := by
  rw [departs.connections]
  by_cases same : socket = client.2
  · subst same
    have gone := registered.socket_notMem
    rw [Function.update_self]
    exact ⟨follows.before, follows.received, fun present => absurd present gone,
      fun present => absurd present gone, fun _ _ => .inr rfl⟩
  · have listed_iff : socket ∈ (front ++ client :: back).map Prod.snd ↔
        socket ∈ (front ++ back).map Prod.snd := by
      simp [same]
    rw [Function.update_of_ne same]
    rwa [listed_iff] at follows

theorem Serving.tailerReadableCb {options : Options} {s : State bufsiz} {clients : Clients}
    {tailer : Nat} {node : Tailer} (serving : Serving options s clients)
    (found : s.tailers.lookup tailer = some node) (res : ReadAnswer) :
    Returns (tailerReadableCb s (some tailer) res) fun s' =>
      ∃ kept, Serving options s' kept := by
  apply (serving.registered.tailerReadableCb found res).mono
  rintro s' (rfl | ⟨front, client, back, rfl, departs⟩)
  · exact ⟨clients, serving⟩
  have frame := departs.frame
  refine ⟨front ++ back, departs.registered, ?_, ?_, ?_⟩
  · rw [frame.buffer, frame.stdinRead]
    exact serving.ready
  · intro other member
    rw [frame.accepted]
    apply serving.known other
    simp only [List.mem_append, List.mem_cons] at member ⊢
    rcases member with member | member
    · exact .inl member
    · exact .inr (.inr member)
  · intro socket known
    rw [frame.accepted] at known
    rw [frame.stdinRead]
    exact departs.follows serving.registered (serving.follows socket known)

/-! ## Arrivals -/

theorem stream_of_new {options : Options} {s : State bufsiz} {connection : Connection}
    (ready : Ready options.buffer s.buffer s.stdinRead)
    (before : connection.before = s.stdinRead) :
    stream options s.stdinRead connection =
      sizeHeader (bufferTailSize s.buffer) ++ requiredTail options.buffer s.stdinRead := by
  rw [stream, before, sizeHeader, ready.bufferTailSize, List.drop_length, List.append_nil]

/-- A new connection has been promised the stream its callback began to send. -/
theorem Settled.follows {options : Options} {read text : List UInt8} {connection : Connection}
    {listed : Bool} (settled : Settled read text connection listed)
    (promised : connection.before = read → stream options read connection = text) :
    Follows options read connection (listed = true) := by
  cases settled with
  | refused =>
      refine ⟨List.prefix_refl _, List.nil_prefix, ?_, ?_, ?_⟩ <;> simp
  | welcomed =>
      have whole := promised rfl
      refine ⟨List.prefix_refl _, ?_, fun _ => whole.symm, fun _ => rfl, ?_⟩
      · rw [whole]
      · exact fun _ absent => absurd rfl absent
  | cutOff isPrefix =>
      refine ⟨List.prefix_refl _, ?_, ?_, ?_, fun _ _ => .inl rfl⟩
      · rw [promised rfl]
        exact isPrefix
      · simp
      · simp

/-- Nothing has changed for the connections from before. -/
theorem Arrives.follows {options : Options} {read : List UInt8} {s s' : State bufsiz}
    {clients : Clients} {block : Nat} {connection : Connection} {listed : Bool}
    (arrives : Arrives s s' (enlist listed (block, s.accepted) clients) connection)
    {socket : Nat} (known : socket < s.accepted)
    (follows : Follows options read (s.connections socket) (socket ∈ clients.map Prod.snd)) :
    Follows options read (s'.connections socket)
      (socket ∈ (enlist listed (block, s.accepted) clients).map Prod.snd) := by
  have different := Nat.ne_of_lt known
  rw [arrives.connections, Function.update_of_ne different, mem_sockets_enlist]
  simpa [different] using follows

theorem Serving.unixSockCb {options : Options} {s : State bufsiz} {clients : Clients}
    {fresh : Allocation Tailer} (serving : Serving options s clients)
    (unused : ∀ block node, fresh = some (block, node) → block ∉ s.tailers)
    (attempts : List AcceptAnswer) (named : Bool) :
    Returns (unixSockCb options s attempts named fresh) fun s' =>
      ∃ clients', Serving options s' clients' := by
  have new : s.accepted ∉ clients.map Prod.snd := fun member =>
    Nat.lt_irrefl _ (serving.known_socket member)
  apply (serving.registered.unixSockCb new serving.ready.bufferTail unused attempts named).mono
  rintro s' (rfl | ⟨block, connection, listed, arrives, settled⟩)
  · exact ⟨clients, serving⟩
  have idle := arrives.idle
  refine ⟨_, arrives.registered, ?_, ?_, ?_⟩
  · rw [idle.buffer, idle.stdinRead]
    exact serving.ready
  · intro client member
    rw [arrives.accepted, Nat.lt_succ_iff]
    rcases mem_enlist.mp member with ⟨_, rfl⟩ | member
    · exact Nat.le_refl _
    · exact Nat.le_of_lt (serving.known client member)
  · intro socket lt
    rw [arrives.accepted] at lt
    rw [idle.stdinRead]
    rcases Nat.lt_succ_iff_lt_or_eq.mp lt with old | rfl
    · exact arrives.follows old (serving.follows socket old)
    · rw [arrives.connections, Function.update_self, mem_sockets_enlist]
      simpa [new] using settled.follows (stream_of_new serving.ready)

/-! ## Runs -/

theorem Serving.handle {options : Options} {s : State bufsiz} {clients : Clients}
    {event : Event bufsiz} (serving : Serving options s clients) (possible : Possible s event)
    (granted : Granted event) :
    Returns (handle options s event) fun s' => ∃ clients', Serving options s' clients' := by
  cases event with
  | stdin res fresh answers =>
      have prepared : Serving options { s with answers } clients :=
        ⟨serving.registered.frame rfl rfl, serving.ready, serving.known, serving.follows⟩
      obtain ⟨_, _, sound, sized⟩ := possible
      cases res with
      | data bytes =>
          obtain ⟨nonempty, fits⟩ := sized bytes rfl
          exact prepared.stdinCb nonempty fits sound granted
      | eof =>
          exact ⟨clients, serving.registered.frame rfl rfl, serving.ready, serving.known,
            serving.follows⟩
      | failed errno =>
          simp only [Server.handle, Server.stdinCb]
          split
          · exact ⟨clients, prepared⟩
          · exact ⟨clients, serving.registered.frame rfl rfl, serving.ready, serving.known,
              serving.follows⟩
  | unixSock attempts named fresh answers =>
      have prepared : Serving options { s with answers } clients :=
        ⟨serving.registered.frame rfl rfl, serving.ready, serving.known, serving.follows⟩
      exact prepared.unixSockCb possible.2 attempts named
  | tailerReadable tailer res =>
      obtain ⟨⟨node, found, _⟩, _⟩ := possible
      exact serving.tailerReadableCb found res

theorem Reachable.serving {options : Options} {append : Nat × LineBuffer bufsiz}
    {s : State bufsiz} (reachable : Reachable options append Granted s)
    (zeroed : append.2.nlines = 0) : ∃ clients, Serving options s clients := by
  induction reachable with
  | start first opened fresh fresh' ran =>
      have started := started_of_initAll fresh fresh' ran
      refine ⟨[], started.registered, ?_, by simp, ?_⟩
      · rw [started.buffer, started.stdinRead]
        exact started.supplied.ready fun _ => zeroed
      · intro socket lt
        rw [started.accepted] at lt
        cases lt
  | step event _ possible granted ran serving =>
      obtain ⟨clients, serving⟩ := serving
      exact (serving.handle possible granted).of_ok ran

/-- The tailers met from `first_tailer`. -/
inductive OnTailers (s : State bufsiz) : Tailer → Prop where
  | first {node : Tailer} : load s.tailers s.firstTailer = .ok node → OnTailers s node
  | next {node after : Tailer} : OnTailers s node →
      load s.tailers node.next = .ok after → OnTailers s after

theorem onTailers_of_threaded {s : State bufsiz} {start : Pointer} {clients : Clients}
    (threaded : Threaded tailerOf s.tailers start clients none)
    (starts : ∀ node, load s.tailers (headOr clients none) = .ok node → OnTailers s node) :
    ∀ client ∈ clients, ∃ node, OnTailers s node ∧ node.socket = client.2 := by
  induction clients generalizing start with
  | nil => simp
  | cons head rest ih =>
      have first := starts _ (load_of_lookup threaded.1)
      intro client member
      rcases List.mem_cons.mp member with rfl | member
      · exact ⟨_, first, rfl⟩
      · exact ih threaded.2 (fun after loaded => .next first loaded) client member

/-- A tailer met on the way from `first_tailer` is one of the clients. -/
theorem Registered.of_onTailers {s : State bufsiz} {clients : Clients}
    (registered : Registered s clients) {node : Tailer} (reached : OnTailers s node) :
    ∃ front client back, clients = front ++ client :: back ∧
      node = tailerOf client.2 (lastOr front none) (headOr back none) := by
  induction reached with
  | first loaded =>
      cases clients with
      | nil =>
          rw [registered.first] at loaded
          cases loaded
      | cons client back =>
          rw [registered.first, headOr_cons, load_of_lookup registered.threaded.1] at loaded
          cases loaded
          exact ⟨[], client, back, rfl, rfl⟩
  | next _ loaded ih =>
      obtain ⟨front, client, back, rfl, rfl⟩ := ih
      cases back with
      | nil => cases loaded
      | cons after back =>
          have split : front ++ client :: after :: back = (front ++ [client]) ++ after :: back := by
            simp
          rw [split] at registered ⊢
          have found := registered.lookup
          rw [tailerOf, headOr_cons, load_of_lookup found] at loaded
          cases loaded
          exact ⟨_, after, back, rfl, rfl⟩

theorem Registered.onTailers_iff {s : State bufsiz} {clients : Clients}
    (registered : Registered s clients) (socket : Nat) :
    (∃ node, OnTailers s node ∧ node.socket = socket) ↔ socket ∈ clients.map Prod.snd := by
  constructor
  · rintro ⟨node, reached, rfl⟩
    obtain ⟨front, client, back, rfl, rfl⟩ := registered.of_onTailers reached
    simp [tailerOf]
  · intro member
    obtain ⟨client, found, rfl⟩ := List.mem_map.mp member
    apply onTailers_of_threaded registered.threaded _ client found
    intro node loaded
    rw [← registered.first] at loaded
    exact .first loaded

/-- In every reachable state and for every connection ever accepted: the buffer
offers the required tail; the client has received a beginning of the size of the
tail at its acceptance, that tail, and everything read since; all of it while it is
listed; and it left the list because its own socket took too little or became
readable. -/
theorem streams_of_reachable (options : Options) (append : Nat × LineBuffer bufsiz)
    (zeroed : append.2.nlines = 0) (s : State bufsiz)
    (reachable : Reachable options append Granted s) :
    bufferTail s.buffer = .ok (requiredTail options.buffer s.stdinRead) ∧
      ∀ socket < s.accepted, ∃ tail since,
        tail = requiredTail options.buffer (s.connections socket).before ∧
        s.stdinRead = (s.connections socket).before ++ since ∧
        (s.connections socket).received <+:
          Decimal.decimal tail.length ++ [newline] ++ tail ++ since ∧
        ((∃ node, OnTailers s node ∧ node.socket = socket) →
          (s.connections socket).received =
            Decimal.decimal tail.length ++ [newline] ++ tail ++ since) ∧
        ((s.connections socket).registered = true →
          (¬ ∃ node, OnTailers s node ∧ node.socket = socket) →
          (s.connections socket).cut = true ∨ (s.connections socket).hungUp = true) := by
  obtain ⟨clients, serving⟩ := reachable.serving zeroed
  refine ⟨serving.ready.bufferTail, ?_⟩
  intro socket known
  have follows := serving.follows socket known
  obtain ⟨since, joined⟩ := follows.before
  have received := follows.received
  have whole := follows.whole
  rw [stream, ← joined, List.drop_left] at received whole
  refine ⟨_, since, rfl, joined.symm, received, ?_, ?_⟩
  · rw [serving.registered.onTailers_iff]
    exact whole
  · rw [serving.registered.onTailers_iff]
    exact follows.left

theorem streams_of_sampleRun :
    bufferTail (sampleRun sampleEvents).buffer =
        .ok (requiredTail sampleOptions.buffer (sampleRun sampleEvents).stdinRead) ∧
      ∀ socket < (sampleRun sampleEvents).accepted, ∃ tail since,
        tail = requiredTail sampleOptions.buffer
          ((sampleRun sampleEvents).connections socket).before ∧
        (sampleRun sampleEvents).stdinRead =
          ((sampleRun sampleEvents).connections socket).before ++ since ∧
        ((sampleRun sampleEvents).connections socket).received <+:
          Decimal.decimal tail.length ++ [newline] ++ tail ++ since ∧
        ((∃ node, OnTailers (sampleRun sampleEvents) node ∧ node.socket = socket) →
          ((sampleRun sampleEvents).connections socket).received =
            Decimal.decimal tail.length ++ [newline] ++ tail ++ since) ∧
        (((sampleRun sampleEvents).connections socket).registered = true →
          (¬ ∃ node, OnTailers (sampleRun sampleEvents) node ∧ node.socket = socket) →
          ((sampleRun sampleEvents).connections socket).cut = true ∨
            ((sampleRun sampleEvents).connections socket).hungUp = true) :=
  streams_of_reachable sampleOptions sampleExecution.append rfl (sampleRun sampleEvents)
    sampleRun_reachable

example : ((List.range 3).map fun socket =>
    ((sampleRun sampleEvents).connections socket).received) =
      [[50, 10, 97, 10, 98], [50, 10, 97, 10, 98, 10], [50, 10, 98, 10]] := by
  decide

end Tailserver.Server
