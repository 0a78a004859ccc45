import Tailserver.Client.Conversation
import Tailserver.Client.Reconnect
import Tailserver.Server.Growth

/-!
# A server and one of its clients

The two programs run side by side, and the kernel carries the bytes of their connection.
The server may have other clients. What it has written to this one is recorded with the
connection; the client reads it in pieces of any size, and a `close` takes nothing of it
back.
-/

set_option autoImplicit false

namespace Tailserver.EndToEnd

open CMemory Buffer Client

variable {bufsiz : Nat}

structure State (bufsiz : Nat) where
  server : Server.State bufsiz
  client : Client.State bufsiz
  /-- The client has connected. -/
  connected : Bool := false
  /-- The number of the connection, once the server has accepted it. -/
  socket : Option Nat := none
  /-- The bytes the client has read off the connection. -/
  taken : List UInt8 := []
  /-- The server has left its loop and closed its sockets. -/
  exited : Bool := false

/-- The server's record of the connection. -/
def State.connection (s : State bufsiz) : Server.Connection :=
  match s.socket with
  | none => {}
  | some socket => s.server.connections socket

/-! ## Steps -/

inductive Event (bufsiz : Nat) where
  /-- The last argument says whether a connection that is accepted is the client's. -/
  | server (event : Server.Event bufsiz) (ours : Bool)
  | exit
  | client (event : Client.Event bufsiz)

/-- Does the step open the connection? -/
def opens : Client.Event bufsiz → Bool
  | .connect opened => opened ≠ invalidSocket
  | .write _ => false
  | .readable _ _ _ _ => false

/-- The bytes the step reads off the connection. -/
def arrived : Client.Event bufsiz → List UInt8
  | .connect _ => []
  | .write _ => []
  | .readable answer _ _ _ => answer.bytes

def handle (serverOptions : Server.Options) (clientOptions : Client.Options)
    (s : State bufsiz) : Event bufsiz → Except Fault (State bufsiz)
  | .server event ours => do
      let server ← Server.handle serverOptions s.server event
      return { s with
        server
        socket := if ours && server.accepted ≠ s.server.accepted then some s.server.accepted
          else s.socket }
  | .exit => do
      let server ← Server.socketsFinal s.server
      return { s with server, exited := true }
  | .client event => do
      let client ← Client.handle clientOptions s.client event
      return { s with
        client
        connected := s.connected || opens event
        taken := s.taken ++ arrived event }

/-- All that was written is read, and no more will come. -/
def Drained (s : State bufsiz) : Prop :=
  s.taken = s.connection.received ∧ (0 < s.connection.closes ∨ s.exited = true)

/-- What `read` may answer the client. -/
def MayRead (s : State bufsiz) : ReadAnswer → Prop
  | .data bytes => s.taken ++ bytes <+: s.connection.received
  | .eof => Drained s
  | .failed errno => isErrnoRetryFriendly errno = true ∨ Drained s

/-- The server finds the client's socket readable only if the client wrote to it or
closed it. -/
def MayNotice (s : State bufsiz) (event : Server.Event bufsiz) : Prop :=
  ∀ socket, s.socket = some socket → Server.Notices s.server socket event →
    s.client.sent ≠ [] ∨ clientconnEof s.client.conn = true

/-- A client connects once; another connection would be another client's. -/
def MayRun (s : State bufsiz) : Client.Event bufsiz → Prop
  | .connect _ => s.connected = false
  | .write _ => True
  | .readable answer _ _ _ => MayRead s answer

/-- When a step is taken. The server may end at any time. -/
def Possible (s : State bufsiz) : Event bufsiz → Prop
  | .server event ours =>
      s.exited = false ∧ Server.Possible s.server event ∧ MayNotice s event ∧
        (ours = true → s.connected = true ∧ s.socket = none)
  | .exit => s.exited = false
  | .client event => Client.Possible s.client event ∧ MayRun s event

/-- Allocations succeed, and standard output takes what the client writes to it. -/
def Granted : Event bufsiz → Prop
  | .server event _ => Server.Granted event
  | .exit => True
  | .client (.readable _ _ fresh answers) => fresh.isSome ∧ Completes bufsiz answers
  | .client _ => True

/-- The writes to the connection that a step has made are complete. -/
def Complete (s' : State bufsiz) : Event bufsiz → Prop
  | .server _ _ => s'.connection.cut = false
  | .client (.write _) => s'.client.sent ≠ []
  | _ => True

/-- The states the two programs reach. The blocks are those that each `buffer_init`
allocates for the first bytes. -/
inductive Reachable (serverOptions : Server.Options) (clientOptions : Client.Options)
    (serverAppend clientAppend : Nat × LineBuffer bufsiz) : State bufsiz → Prop where
  | start (serverFirst clientFirst : Nat × LineBuffer bufsiz) (opened : Bool)
      {server : Server.State bufsiz} {client : Client.State bufsiz} :
      FreshBuffer ({} : Buffer.State bufsiz) serverFirst.1 →
      FreshBuffer ({ heap := single serverFirst } : Buffer.State bufsiz) serverAppend.1 →
      Server.initAll serverOptions (some serverFirst) (some serverAppend) opened =
        .ok (true, server) →
      FreshBuffer ({} : Buffer.State bufsiz) clientFirst.1 →
      FreshBuffer ({ heap := single clientFirst } : Buffer.State bufsiz) clientAppend.1 →
      Client.initAll (some clientFirst) (some clientAppend) = .ok (true, client) →
      Reachable serverOptions clientOptions serverAppend clientAppend { server, client }
  | step {s s' : State bufsiz} (event : Event bufsiz) :
      Reachable serverOptions clientOptions serverAppend clientAppend s →
      Possible s event → Granted event →
      handle serverOptions clientOptions s event = .ok s' → Complete s' event →
      Reachable serverOptions clientOptions serverAppend clientAppend s'

/-! ## What the server has written -/

/-- The tail the server owes to a client. -/
def tailOf (options : Server.Options) (connection : Server.Connection) : List UInt8 :=
  requiredTail options.buffer connection.before

/-- A client that was cut off by nothing has its header and tail, and everything behind
it as long as the server has not noticed anything from it. -/
structure Delivered (options : Server.Options) (read : List UInt8)
    (connection : Server.Connection) : Prop where
  before : connection.before <+: read
  received : connection.received <+: Server.stream options read connection
  small : (tailOf options connection).length < Word.signedMax
  greeted : connection.registered = true →
    header (tailOf options connection) ++ tailOf options connection <+: connection.received
  whole : connection.registered = true → connection.hungUp = false →
    connection.received = Server.stream options read connection

theorem stream_eq (options : Server.Options) (read : List UInt8)
    (connection : Server.Connection) :
    Server.stream options read connection =
      header (tailOf options connection) ++ tailOf options connection ++
        read.drop connection.before.length := rfl

/-- Nothing is owed before the connection is accepted. -/
theorem Delivered.nothing (options : Server.Options) (read : List UInt8) :
    Delivered options read {} where
  before := List.nil_prefix
  received := List.nil_prefix
  small := by
    have shorter := (requiredTail_suffix options.buffer []).length_le
    simp only [tailOf, List.length_nil, Nat.le_zero] at shorter ⊢
    rw [shorter]
    decide
  greeted := fun registered => by cases registered
  whole := fun registered => by cases registered

theorem Delivered.of_follows {options : Server.Options} {read : List UInt8}
    {connection : Server.Connection} {listed : Prop}
    (follows : Server.Follows options read connection listed)
    (uncut : connection.cut = false)
    (small : (tailOf options connection).length < Word.signedMax)
    (greeted : connection.registered = true →
      header (tailOf options connection) ++ tailOf options connection <+: connection.received) :
    Delivered options read connection := by
  refine ⟨follows.before, follows.received, small, greeted, ?_⟩
  intro registered quiet
  exact follows.whole (follows.listed registered uncut quiet)

/-! ## The invariant -/

/-- Why the client has left the connection: it has all it wants, or the server ended. -/
structure Left (serverOptions : Server.Options) (clientOptions : Client.Options)
    (s : State bufsiz) : Prop where
  refused : s.socket = none → s.exited = true
  satisfied : s.connection.registered = true → clientOptions.follow = false →
    whole (tailOf serverOptions s.connection) s.taken = true
  followed : s.connection.registered = true → clientOptions.follow = true →
    s.exited = true ∧ s.taken = Server.stream serverOptions s.server.stdinRead s.connection

structure Coupled (serverOptions : Server.Options) (clientOptions : Client.Options)
    (s : State bufsiz) : Prop where
  serving : s.exited = false → ∃ clients, Server.Serving serverOptions s.server clients
  known : ∀ socket, s.socket = some socket → s.connected = true ∧ socket < s.server.accepted
  uncut : s.connection.cut = false
  opened : s.exited = false → s.connection.registered = true → s.connection.hungUp = false →
    s.connection.closes = 0
  delivered : Delivered serverOptions s.server.stdinRead s.connection
  taken : s.taken <+: s.connection.received
  converses : Converses clientOptions s.client (tailOf serverOptions s.connection) s.taken
  unconnected : s.connected = false → s.client.phase.attached = false
  unnoticed : clientOptions.follow = true → s.client.phase.attached = true →
    s.connection.hungUp = false
  left : s.connected = true → s.client.phase.attached = false →
    Left serverOptions clientOptions s

section Coupled

variable {serverOptions : Server.Options} {clientOptions : Client.Options} {s : State bufsiz}

theorem State.connection_of_none (unaccepted : s.socket = none) : s.connection = {} := by
  rw [State.connection, unaccepted]

theorem State.connection_of_some {socket : Nat} (accepted : s.socket = some socket) :
    s.connection = s.server.connections socket := by
  rw [State.connection, accepted]

theorem Coupled.taken_of_none (coupled : Coupled serverOptions clientOptions s)
    (unaccepted : s.socket = none) : s.taken = [] := by
  have taken := coupled.taken
  rw [State.connection_of_none unaccepted] at taken
  exact List.prefix_nil.mp taken

theorem Coupled.unaccepted (coupled : Coupled serverOptions clientOptions s)
    (unconnected : s.connected = false) : s.socket = none := by
  cases accepted : s.socket with
  | none => rfl
  | some socket =>
      have connected := (coupled.known socket accepted).1
      rw [unconnected] at connected
      cases connected

theorem Coupled.connected (coupled : Coupled serverOptions clientOptions s)
    (attached : s.client.phase.attached = true) : s.connected = true := by
  cases connected : s.connected with
  | true => rfl
  | false =>
      have detached := coupled.unconnected connected
      rw [attached] at detached
      cases detached

/-! ## Steps of the server -/

section Serve

variable {server : Server.State bufsiz} {event : Server.Event bufsiz}

/-- What a callback does to the record of the connection, accepted or not. -/
theorem Coupled.grown (coupled : Coupled serverOptions clientOptions s)
    (possible : Server.Possible s.server event)
    (ran : Server.handle serverOptions s.server event = .ok server) :
    ∃ hungUp, (hungUp = s.connection.hungUp ∨
        ∃ socket, s.socket = some socket ∧ Server.Notices s.server socket event) ∧
      Server.Grows { s.connection with hungUp } (State.connection { s with server }) := by
  rcases Option.eq_none_or_eq_some s.socket with accepted | ⟨socket, accepted⟩
  · rw [State.connection_of_none accepted, @State.connection_of_none _ { s with server } accepted]
    exact ⟨false, .inl rfl, .refl _⟩
  · rw [State.connection_of_some accepted, @State.connection_of_some _ { s with server } _ accepted]
    obtain ⟨hungUp, cause, grows⟩ :=
      (Server.handle_grows possible ran).2 socket (coupled.known socket accepted).2
    refine ⟨hungUp, ?_, grows⟩
    rcases cause with same | notices
    · exact .inl same
    · exact .inr ⟨socket, accepted, notices⟩

/-- A callback of the server that accepts another connection, or none. -/
theorem Coupled.serve (coupled : Coupled serverOptions clientOptions s)
    (running : s.exited = false) (possible : Server.Possible s.server event)
    (granted : Server.Granted event) (mayNotice : MayNotice s event)
    (ran : Server.handle serverOptions s.server event = .ok server)
    (uncut : (State.connection { s with server }).cut = false) :
    Coupled serverOptions clientOptions { s with server } := by
  obtain ⟨clients, serving⟩ := coupled.serving running
  obtain ⟨clients', serves⟩ := (serving.handle possible granted).of_ok ran
  obtain ⟨hungUp, cause, grows⟩ := coupled.grown possible ran
  have known : ∀ socket, s.socket = some socket →
      s.connected = true ∧ socket < server.accepted := by
    intro socket accepted
    obtain ⟨connected, lt⟩ := coupled.known socket accepted
    refine ⟨connected, ?_⟩
    rcases (Server.handle_grows possible ran).1 with same | opens
    · rw [same]
      exact lt
    · rw [opens.accepted]
      exact Nat.lt_succ_of_lt lt
  have tail : tailOf serverOptions (State.connection { s with server }) =
      tailOf serverOptions s.connection := by
    rw [tailOf, tailOf, grows.before]
  have delivered : Delivered serverOptions server.stdinRead
        (State.connection { s with server }) ∧
      ((State.connection { s with server }).registered = true →
        (State.connection { s with server }).hungUp = false →
          (State.connection { s with server }).closes = 0) := by
    rcases Option.eq_none_or_eq_some s.socket with accepted | ⟨socket, accepted⟩
    · rw [@State.connection_of_none _ { s with server } accepted]
      exact ⟨.nothing _ _, fun _ _ => rfl⟩
    · have follows := serves.follows socket (known socket accepted).2
      rw [← @State.connection_of_some _ { s with server } socket accepted] at follows
      refine ⟨.of_follows follows uncut ?_ ?_, fun registered quiet =>
        follows.opened (follows.listed registered uncut quiet)⟩
      · rw [tail]
        exact coupled.delivered.small
      · intro registered
        rw [grows.registered] at registered
        rw [tail]
        exact (coupled.delivered.greeted registered).trans grows.received
  refine ⟨fun _ => ⟨clients', serves⟩, known, uncut, fun _ => delivered.2, delivered.1,
    coupled.taken.trans grows.received, ?_, coupled.unconnected, ?_, ?_⟩
  · rw [tail]
    exact coupled.converses
  · intro following attached
    rw [grows.hungUp]
    rcases cause with same | ⟨socket, accepted, notices⟩
    · rw [same]
      exact coupled.unnoticed following attached
    · rcases mayNotice socket accepted notices with wrote | closed
      · exact absurd (coupled.converses.silent following).1 wrote
      · rw [coupled.converses.eof, attached] at closed
        cases closed
  · intro connected detached
    have left := coupled.left connected detached
    refine ⟨left.refused, ?_, ?_⟩
    · intro registered unfollowed
      rw [grows.registered] at registered
      rw [tail]
      exact left.satisfied registered unfollowed
    · intro registered following
      rw [grows.registered] at registered
      have exited := (left.followed registered following).1
      rw [running] at exited
      cases exited

theorem Coupled.accept (coupled : Coupled serverOptions clientOptions s)
    (running : s.exited = false) (possible : Server.Possible s.server event)
    (granted : Server.Granted event) (connected : s.connected = true)
    (unaccepted : s.socket = none)
    (ran : Server.handle serverOptions s.server event = .ok server)
    (new : server.accepted ≠ s.server.accepted)
    (uncut : (server.connections s.server.accepted).cut = false) :
    Coupled serverOptions clientOptions
      { s with server, socket := some s.server.accepted } := by
  obtain ⟨clients, serving⟩ := coupled.serving running
  obtain ⟨clients', serves⟩ := (serving.handle possible granted).of_ok ran
  have opens : Server.Opens s.server server := by
    rcases (Server.handle_grows possible ran).1 with same | opens
    · exact absurd same new
    · exact opens
  have lt : s.server.accepted < server.accepted := by
    rw [opens.accepted]
    exact Nat.lt_succ_self _
  have follows := serves.follows s.server.accepted lt
  have nothing := coupled.taken_of_none unaccepted
  have attached : s.client.phase.attached = true := by
    cases attached : s.client.phase.attached with
    | true => rfl
    | false =>
        have exited := (coupled.left connected attached).refused unaccepted
        rw [running] at exited
        cases exited
  have converses := coupled.converses
  rw [nothing] at converses
  have delivered : Delivered serverOptions server.stdinRead
      (server.connections s.server.accepted) := by
    refine .of_follows follows uncut ?_ ?_
    · rw [tailOf, opens.before]
      exact serving.ready.length_requiredTail_lt
    · intro registered
      rw [follows.whole (follows.listed registered uncut opens.hungUp), stream_eq]
      exact List.prefix_append _ _
  refine ⟨fun _ => ⟨clients', serves⟩, ?_, uncut, ?_, delivered, ?_, ?_, ?_, ?_, ?_⟩
  · intro socket same
    cases same
    exact ⟨connected, lt⟩
  · exact fun _ registered quiet => follows.opened (follows.listed registered uncut quiet)
  · rw [nothing]
    exact List.nil_prefix
  · rw [nothing]
    exact converses.of_nil _
  · intro unconnected
    rw [connected] at unconnected
    cases unconnected
  · exact fun _ _ => opens.hungUp
  · intro _ detached
    rw [attached] at detached
    cases detached

end Serve

/-- Closing the connection and ending is all that the server does to its side. -/
theorem Coupled.closed {s' : State bufsiz} {closes : Nat}
    (coupled : Coupled serverOptions clientOptions s) (running : s.exited = false)
    (connection : s'.connection = { s.connection with closes }) (exited : s'.exited = true)
    (stdinRead : s'.server.stdinRead = s.server.stdinRead)
    (accepted : s'.server.accepted = s.server.accepted) (client : s'.client = s.client)
    (connected : s'.connected = s.connected) (socket : s'.socket = s.socket)
    (taken : s'.taken = s.taken) : Coupled serverOptions clientOptions s' := by
  have delivered := coupled.delivered
  have tail : tailOf serverOptions { s.connection with closes } =
      tailOf serverOptions s.connection := rfl
  constructor
  · simp [exited]
  · rw [socket, connected, accepted]
    exact coupled.known
  · rw [connection]
    exact coupled.uncut
  · simp [exited]
  · rw [connection, stdinRead]
    exact ⟨delivered.before, delivered.received, delivered.small, delivered.greeted,
      delivered.whole⟩
  · rw [connection, taken]
    exact coupled.taken
  · rw [connection, taken, client, tail]
    exact coupled.converses
  · rw [connected, client]
    exact coupled.unconnected
  · rw [connection, client]
    exact coupled.unnoticed
  · rw [connected, client]
    intro connected detached
    have left := coupled.left connected detached
    refine ⟨fun _ => exited, ?_, ?_⟩
    · rw [connection, taken, tail]
      exact left.satisfied
    · rw [connection]
      intro registered following
      have ended := (left.followed registered following).1
      rw [running] at ended
      cases ended

theorem Coupled.exit (coupled : Coupled serverOptions clientOptions s)
    (running : s.exited = false) :
    Returns (handle serverOptions clientOptions s .exit)
      (Coupled serverOptions clientOptions) := by
  obtain ⟨clients, serving⟩ := coupled.serving running
  obtain ⟨server, ran, stdinRead, accepts, closed⟩ : ∃ server,
      Server.socketsFinal s.server = .ok server ∧ server.stdinRead = s.server.stdinRead ∧
        server.accepted = s.server.accepted ∧ ∀ socket, ∃ closes,
          server.connections socket = { s.server.connections socket with closes } := by
    obtain ⟨tailers, firstTailer, connections, ran, _, closed⟩ :=
      serving.registered.socketsFinal
    exact ⟨_, ran, rfl, rfl, fun socket => ⟨_, closed socket⟩⟩
  obtain ⟨closes, connection⟩ : ∃ closes,
      State.connection { s with server } = { s.connection with closes } := by
    rcases Option.eq_none_or_eq_some s.socket with accepted | ⟨socket, accepted⟩
    · rw [State.connection_of_none accepted,
        @State.connection_of_none _ { s with server } accepted]
      exact ⟨0, rfl⟩
    · rw [State.connection_of_some accepted,
        @State.connection_of_some _ { s with server } _ accepted]
      exact closed socket
  rw [handle, ran, except_ok_bind]
  exact coupled.closed running connection rfl stdinRead accepts rfl rfl rfl rfl

/-! ## Steps of the client -/

theorem Coupled.connect {opened : Int} (coupled : Coupled serverOptions clientOptions s)
    (connecting : s.client.phase = .connecting) (unconnected : s.connected = false) :
    Coupled serverOptions clientOptions { s with
      client := Client.connect clientOptions s.client opened
      connected := decide (opened ≠ invalidSocket) } := by
  have unaccepted := coupled.unaccepted unconnected
  have nothing := coupled.taken_of_none unaccepted
  have converses := coupled.converses
  rw [nothing] at converses
  obtain ⟨converses', attached⟩ := converses.connect connecting opened
  refine ⟨coupled.serving, ?_, coupled.uncut, coupled.opened, coupled.delivered, coupled.taken,
    ?_, ?_, ?_, ?_⟩
  · intro socket accepted
    rw [unaccepted] at accepted
    cases accepted
  · rw [nothing]
    exact converses'
  · intro refused
    exact attached.trans refused
  · intro _ _
    rw [@State.connection_of_none _ { s with
      client := Client.connect clientOptions s.client opened
      connected := decide (opened ≠ invalidSocket) } unaccepted]
  · intro connected detached
    rw [show decide (opened ≠ invalidSocket) = true from connected] at attached
    rw [attached] at detached
    cases detached

theorem Coupled.write {client : Client.State bufsiz} {answers : List WriteAnswer}
    (coupled : Coupled serverOptions clientOptions s) (writing : s.client.phase = .writing)
    (ran : writeToServer { s.client with answers } = .ok client)
    (delivered : client.sent ≠ []) :
    Coupled serverOptions clientOptions { s with client } := by
  obtain ⟨converses, looping⟩ := (coupled.converses.answers answers).write writing ran delivered
  have attached : s.client.phase.attached = true := by
    rw [writing]
    rfl
  refine ⟨coupled.serving, coupled.known, coupled.uncut, coupled.opened, coupled.delivered,
    coupled.taken, converses, ?_, ?_, ?_⟩
  · intro unconnected
    have connected := coupled.connected attached
    rw [unconnected] at connected
    cases connected
  · exact fun following _ => coupled.unnoticed following attached
  · intro _ detached
    rw [looping] at detached
    cases detached

/-- The client leaves when there is no more to read, or when it has its tail and does
not follow. -/
theorem Coupled.leaves {client : Client.State bufsiz} {taken : List UInt8}
    (coupled : Coupled serverOptions clientOptions s)
    (attached : s.client.phase.attached = true) (isPrefix : taken <+: s.connection.received)
    (reason : (taken = s.connection.received ∧ (0 < s.connection.closes ∨ s.exited = true)) ∨
      whole (tailOf serverOptions s.connection) taken = true ∧ clientOptions.follow = false) :
    Left serverOptions clientOptions { s with client, taken } := by
  constructor
  · intro unaccepted
    have unknown : s.connection = {} := State.connection_of_none unaccepted
    rw [unknown] at isPrefix reason
    rcases reason with ⟨_, closes | exited⟩ | ⟨finished, _⟩
    · cases closes
    · exact exited
    · rw [List.prefix_nil.mp isPrefix, whole_nil] at finished
      cases finished
  · intro registered unfollowed
    rcases reason with ⟨rfl, _⟩ | ⟨finished, _⟩
    · rw [whole, decide_eq_true_iff]
      exact coupled.delivered.greeted registered
    · exact finished
  · intro registered following
    rcases reason with ⟨rfl, closes⟩ | ⟨_, unfollowed⟩
    · have quiet := coupled.unnoticed following attached
      refine ⟨?_, coupled.delivered.whole registered quiet⟩
      cases exited : s.exited with
      | true => rfl
      | false =>
          rw [coupled.opened exited registered quiet, exited] at closes
          simp at closes
    · rw [following] at unfollowed
      cases unfollowed

theorem Coupled.heard {client : Client.State bufsiz} {answer : ReadAnswer}
    (coupled : Coupled serverOptions clientOptions s) (looping : s.client.phase = .looping)
    (mayRead : MayRead s answer)
    (heard : Heard clientOptions answer (tailOf serverOptions s.connection)
      (s.taken ++ answer.bytes) client) :
    Coupled serverOptions clientOptions
      { s with client, taken := s.taken ++ answer.bytes } := by
  have attached : s.client.phase.attached = true := by
    rw [looping]
    rfl
  have connected := coupled.connected attached
  have taken : s.taken ++ answer.bytes <+: s.connection.received := by
    cases answer with
    | data bytes => exact mayRead
    | eof =>
        rw [ReadAnswer.bytes, List.append_nil]
        exact coupled.taken
    | failed errno =>
        rw [ReadAnswer.bytes, List.append_nil]
        exact coupled.taken
  have drained : ends answer = true → s.taken ++ answer.bytes = s.connection.received ∧
      (0 < s.connection.closes ∨ s.exited = true) := by
    intro ended
    cases answer with
    | data bytes => cases ended
    | eof =>
        rw [ReadAnswer.bytes, List.append_nil]
        exact mayRead
    | failed errno =>
        rw [ReadAnswer.bytes, List.append_nil]
        rcases mayRead with retries | drained
        · simp [ends, retries] at ended
        · exact drained
  refine ⟨coupled.serving, coupled.known, coupled.uncut, coupled.opened, coupled.delivered, taken,
    heard.converses, ?_, fun following _ => coupled.unnoticed following attached, ?_⟩
  · intro unconnected
    rw [connected] at unconnected
    cases unconnected
  · intro _ detached
    apply coupled.leaves attached taken
    have stopped := heard.attached
    rw [show client.phase.attached = false from detached] at stopped
    cases ended : ends answer with
    | true => exact .inl (drained ended)
    | false =>
        rw [ended] at stopped
        exact .inr (by simpa using stopped.symm)

theorem Coupled.readable {answer : ReadAnswer} {unset : Int}
    {fresh : Allocation (LineBuffer bufsiz)} {answers : List WriteAnswer}
    (coupled : Coupled serverOptions clientOptions s) (room : 0 < bufsiz)
    (possible : Client.Possible s.client (.readable answer unset fresh answers))
    (mayRead : MayRead s answer) (granted : fresh.isSome) (complete : Completes bufsiz answers) :
    Returns (Client.handle clientOptions s.client (.readable answer unset fresh answers))
      fun client => Coupled serverOptions clientOptions
        { s with client, taken := s.taken ++ answer.bytes } := by
  obtain ⟨looping, sound, sized⟩ := possible
  have arrives : ∀ bytes, answer = .data bytes →
      bytes ≠ [] ∧ bytes.length ≤ readLength { s.client with answers } ∧
        s.taken ++ bytes <+: header (tailOf serverOptions s.connection) ++
          tailOf serverOptions s.connection ++
            s.server.stdinRead.drop s.connection.before.length := by
    rintro bytes rfl
    obtain ⟨nonempty, fits⟩ := sized bytes rfl
    have sent : s.taken ++ bytes <+: s.connection.received := mayRead
    exact ⟨nonempty, fits, sent.trans coupled.delivered.received⟩
  have reads := (coupled.converses.answers answers).read room looping coupled.delivered.small
    arrives sound granted complete unset
  apply reads.bind
  rintro ⟨ended, client⟩ heard
  exact coupled.heard looping mayRead heard

/-! ## Runs -/

/-- No step fails, and every step keeps the two programs coupled. -/
theorem Coupled.handle {event : Event bufsiz} (coupled : Coupled serverOptions clientOptions s)
    (room : 0 < bufsiz) (possible : Possible s event) (granted : Granted event) :
    Returns (handle serverOptions clientOptions s event) fun s' =>
      Complete s' event → Coupled serverOptions clientOptions s' := by
  cases event with
  | server event ours =>
      obtain ⟨running, possible, mayNotice, fresh⟩ := possible
      obtain ⟨clients, serving⟩ := coupled.serving running
      have returns := serving.handle possible granted
      rw [EndToEnd.handle]
      cases ran : Server.handle serverOptions s.server event with
      | error fault =>
          rw [ran] at returns
          exact returns
      | ok server =>
          rw [except_ok_bind, except_pure, Returns.ok_iff]
          cases new : ours && server.accepted ≠ s.server.accepted with
          | true =>
              rw [if_pos rfl]
              intro complete
              rw [Bool.and_eq_true, decide_eq_true_iff] at new
              obtain ⟨connected, unaccepted⟩ := fresh new.1
              exact coupled.accept running possible granted connected unaccepted ran new.2
                complete
          | false =>
              rw [if_neg (by simp)]
              exact coupled.serve running possible granted mayNotice ran
  | exit => exact (coupled.exit possible).mono fun _ coupled' _ => coupled'
  | client event =>
      obtain ⟨possible, mayRun⟩ := possible
      cases event with
      | connect opened =>
          have unconnected : s.connected = false := mayRun
          rw [EndToEnd.handle, Client.handle, except_ok_bind, except_pure, Returns.ok_iff,
            unconnected, Bool.false_or, arrived, List.append_nil]
          exact fun _ => coupled.connect possible unconnected
      | write answers =>
          rw [EndToEnd.handle, Client.handle]
          cases ran : writeToServer { s.client with answers } with
          | error fault =>
              have returns := writeToServer_returns { s.client with answers }
              rw [ran] at returns
              exact returns
          | ok client =>
              rw [except_ok_bind, except_pure, Returns.ok_iff, opens, Bool.or_false, arrived,
                List.append_nil]
              exact fun delivered => coupled.write possible ran delivered
      | readable answer unset fresh answers =>
          apply (coupled.readable room possible mayRun granted.1 granted.2).bind
          intro client coupled' _
          rw [opens, Bool.or_false]
          exact coupled'

theorem Reachable.coupled {serverAppend clientAppend : Nat × LineBuffer bufsiz}
    (reachable : Reachable serverOptions clientOptions serverAppend clientAppend s)
    (room : 0 < bufsiz) (serverZeroed : serverAppend.2.nlines = 0)
    (clientZeroed : clientAppend.2.nlines = 0) : Coupled serverOptions clientOptions s := by
  induction reachable with
  | start serverFirst clientFirst opened fresh fresh' ran freshClient freshClient' ranClient =>
      have started : Server.Reachable serverOptions serverAppend Server.Granted _ :=
        .start serverFirst opened fresh fresh' ran
      obtain ⟨converses, connecting⟩ := Converses.start clientOptions
        (tailOf serverOptions {}) freshClient freshClient' (fun _ => clientZeroed) ranClient
      refine ⟨fun _ => started.serving serverZeroed, ?_, rfl, fun _ _ _ => rfl,
        .nothing _ _, List.prefix_refl _, converses, ?_, fun _ _ => rfl, ?_⟩
      · intro socket same
        cases same
      · intro _
        rw [connecting]
        rfl
      · intro connected
        cases connected
  | step event _ possible granted ran complete coupled =>
      exact (coupled.handle room possible granted).of_ok ran complete

/-! ## What the client prints -/

theorem followPart_of_unfinished {tail follow taken : List UInt8}
    (isPrefix : taken <+: header tail ++ tail ++ follow)
    (unfinished : whole tail taken = false) : followPart tail taken = [] := by
  rw [whole, decide_eq_false_iff_not] at unfinished
  rcases List.prefix_or_prefix_of_prefix isPrefix (List.prefix_append _ follow) with
    inside | finished
  · exact followPart_of_le inside.length_le
  · exact absurd finished unfinished

theorem followPart_prefix {tail follow taken : List UInt8}
    (isPrefix : taken <+: header tail ++ tail ++ follow) : followPart tail taken <+: follow := by
  cases finished : whole tail taken with
  | false =>
      rw [followPart_of_unfinished isPrefix finished]
      exact List.nil_prefix
  | true =>
      rw [whole, decide_eq_true_iff] at finished
      obtain ⟨followed, rfl⟩ := finished
      rw [followPart_whole]
      exact (List.prefix_append_right_inj _).mp isPrefix

/-- The tail is printed first, and behind it what follows. -/
theorem Coupled.stdout_prefix (coupled : Coupled serverOptions clientOptions s) :
    s.client.stdout <+: requiredTail clientOptions.buffer (tailOf serverOptions s.connection) ++
      if clientOptions.follow then s.server.stdinRead.drop s.connection.before.length
      else [] := by
  have received := coupled.taken.trans coupled.delivered.received
  rw [stream_eq] at received
  rw [coupled.converses.stdout, printed]
  cases finished : whole (tailOf serverOptions s.connection) s.taken with
  | false =>
      rw [followPart_of_unfinished received finished]
      exact List.nil_prefix
  | true =>
      rw [if_pos rfl, List.prefix_append_right_inj]
      cases following : clientOptions.follow with
      | false =>
          rw [coupled.converses.unfollowed following]
          exact List.nil_prefix
      | true => exact followPart_prefix received

/-- When all the server will send is read, all is printed. -/
theorem Coupled.stdout_of_taken (coupled : Coupled serverOptions clientOptions s)
    (all : s.taken = Server.stream serverOptions s.server.stdinRead s.connection) :
    s.client.stdout = requiredTail clientOptions.buffer (tailOf serverOptions s.connection) ++
      s.server.stdinRead.drop s.connection.before.length := by
  have finished : whole (tailOf serverOptions s.connection) s.taken = true := by
    rw [whole, decide_eq_true_iff, all, stream_eq]
    exact List.prefix_append _ _
  rw [coupled.converses.stdout, printed, finished, if_pos rfl, all, stream_eq, followPart_whole]

/-- A client that does not follow prints its tail before it ends. -/
theorem Coupled.stdout_of_detached (coupled : Coupled serverOptions clientOptions s)
    (unfollowed : clientOptions.follow = false) (connected : s.connected = true)
    (detached : s.client.phase.attached = false) (registered : s.connection.registered = true) :
    s.client.stdout = requiredTail clientOptions.buffer (tailOf serverOptions s.connection) := by
  have finished := (coupled.left connected detached).satisfied registered unfollowed
  rw [coupled.converses.stdout, printed, finished, if_pos rfl,
    coupled.converses.unfollowed unfollowed, List.append_nil]

/-- As long as a client that does not follow waits, there is more to read. -/
theorem Coupled.more_of_attached (coupled : Coupled serverOptions clientOptions s)
    (unfollowed : clientOptions.follow = false) (attached : s.client.phase.attached = true)
    (registered : s.connection.registered = true) : s.taken ≠ s.connection.received := by
  intro all
  have unfinished := coupled.converses.unfinished unfollowed attached
  rw [whole, decide_eq_false_iff_not, all] at unfinished
  exact unfinished (coupled.delivered.greeted registered)

/-- A client that follows has printed all when it has read all, and when it ends. -/
theorem Coupled.taken_of_followed (coupled : Coupled serverOptions clientOptions s)
    (following : clientOptions.follow = true) (connected : s.connected = true)
    (registered : s.connection.registered = true)
    (all : s.taken = s.connection.received ∨ s.client.phase.attached = false) :
    s.taken = Server.stream serverOptions s.server.stdinRead s.connection := by
  cases attached : s.client.phase.attached with
  | false => exact ((coupled.left connected attached).followed registered following).2
  | true =>
      rw [attached] at all
      have quiet := coupled.unnoticed following attached
      exact (all.resolve_right (by simp)).trans (coupled.delivered.whole registered quiet)

end Coupled

/-- What the client's standard output has to do with the bytes of the server's standard
input: `tail` is required of those before the connection was accepted, and `since` are
those after it. A connection that was not registered is closed at once. -/
structure Contract (options : Client.Options) (s : State bufsiz) (tail since : List UInt8) :
    Prop where
  isPrefix : s.client.stdout <+: tail ++ if options.follow then since else []
  ended : s.connection.registered = true → options.follow = false →
    s.client.phase.attached = false → s.client.stdout = tail
  waits : s.connection.registered = true → options.follow = false →
    s.client.phase.attached = true → s.taken ≠ s.connection.received
  followed : s.connection.registered = true → options.follow = true →
    s.taken = s.connection.received ∨ s.client.phase.attached = false →
      s.client.stdout = tail ++ since

/-- In every state that a server and its client reach, in any order of their steps and
with any pieces: no step of either fails, a client that is not accepted has printed
nothing, and one that is prints the tail of the server's tail, and in follow mode what
follows. -/
theorem contract_of_reachable (serverOptions : Server.Options) (clientOptions : Client.Options)
    (serverAppend clientAppend : Nat × LineBuffer bufsiz) (room : 0 < bufsiz)
    (serverZeroed : serverAppend.2.nlines = 0) (clientZeroed : clientAppend.2.nlines = 0)
    (s : State bufsiz)
    (reachable : Reachable serverOptions clientOptions serverAppend clientAppend s) :
    (∀ event, Possible s event → Granted event →
        Returns (handle serverOptions clientOptions s event) fun _ => True) ∧
      (s.socket = none → s.client.stdout = []) ∧
      (s.socket.isSome → ∃ before since,
        s.connection.before = before ∧ s.server.stdinRead = before ++ since ∧
        Contract clientOptions s
          (requiredTail clientOptions.buffer (requiredTail serverOptions.buffer before))
          since) := by
  have coupled := reachable.coupled room serverZeroed clientZeroed
  refine ⟨?_, ?_, ?_⟩
  · intro event possible granted
    exact (coupled.handle room possible granted).mono fun _ _ => trivial
  · intro unaccepted
    rw [coupled.converses.stdout, coupled.taken_of_none unaccepted, printed_nil]
  · intro accepted
    obtain ⟨socket, accepted⟩ := Option.isSome_iff_exists.mp accepted
    have connected := (coupled.known socket accepted).1
    obtain ⟨since, joined⟩ := coupled.delivered.before
    have split : s.server.stdinRead.drop s.connection.before.length = since := by
      rw [← joined, List.drop_left]
    refine ⟨_, since, rfl, joined.symm, ?_, ?_, ?_, ?_⟩
    · rw [← split]
      exact coupled.stdout_prefix
    · exact fun registered unfollowed detached =>
        coupled.stdout_of_detached unfollowed connected detached registered
    · exact fun registered unfollowed attached =>
        coupled.more_of_attached unfollowed attached registered
    · intro registered following all
      rw [← split]
      exact coupled.stdout_of_taken
        (coupled.taken_of_followed following connected registered all)

/-! A server that keeps its last line, and a client that wants one byte of it. -/

def sampleClientOptions : Client.Options where
  buffer := ⟨false, 1⟩
  follow := false
  reopenFile := false

def sampleSystem (events : List (Event 4)) : State 4 :=
  (events.foldlM (handle Server.sampleOptions sampleClientOptions)
    { server := Server.sampleStart, client := { buffer := sampleExecution.initial } }).toOption.getD
    { server := Server.sampleStart, client := { buffer := {} } }

def sampleReads (bytes : List UInt8) : Event 4 := .client (sampleReadable (.data bytes))

/-- The server reads a line, and the client connects and reads it in three pieces while
the server closes the connection. -/
def sampleEvents : List (Event 4) :=
  [.server Server.sampleRead false,
    .client (.connect 3),
    .server (.unixSock [.connected] true (some (1, ⟨9, false, some 4, none⟩))
      [.accepted 9, .accepted 9]) true,
    .client (.write [.accepted 1]),
    sampleReads [50],
    .server (.tailerReadable 1 (.data [10])) false,
    sampleReads [10, 97],
    sampleReads [10]]

theorem sampleReads_possible {s : State 4} {bytes : List UInt8}
    (possible : Client.Possible s.client (sampleReadable (.data bytes)))
    (sent : s.taken ++ bytes <+: s.connection.received) : Possible s (sampleReads bytes) :=
  ⟨possible, sent⟩

theorem sampleReads_granted (bytes : List UInt8) : Granted (sampleReads bytes) :=
  sampleReadable_supplied (.data bytes)

/-- The client has read the first digit. -/
theorem sampleDigit_reachable :
    Reachable Server.sampleOptions sampleClientOptions sampleExecution.append
      sampleExecution.append (sampleSystem (sampleEvents.take 5)) := by
  have started : Reachable Server.sampleOptions sampleClientOptions sampleExecution.append
      sampleExecution.append (sampleSystem (sampleEvents.take 0)) :=
    .start sampleExecution.first sampleExecution.first true (by decide) (by decide) rfl
      (by decide) (by decide) rfl
  have filled : Reachable Server.sampleOptions sampleClientOptions sampleExecution.append
      sampleExecution.append (sampleSystem (sampleEvents.take 1)) := by
    refine .step (.server Server.sampleRead false) started
      ⟨rfl, ⟨rfl, rfl, by decide, ?_⟩, fun _ _ notices => notices.elim, by simp⟩ rfl rfl rfl
    intro bytes same
    cases same
    decide
  have connected : Reachable Server.sampleOptions sampleClientOptions sampleExecution.append
      sampleExecution.append (sampleSystem (sampleEvents.take 2)) :=
    .step (.client (.connect 3)) filled ⟨rfl, rfl⟩ trivial rfl trivial
  have accepted : Reachable Server.sampleOptions sampleClientOptions sampleExecution.append
      sampleExecution.append (sampleSystem (sampleEvents.take 3)) := by
    refine .step (.server (.unixSock [.connected] true (some (1, ⟨9, false, some 4, none⟩))
      [.accepted 9, .accepted 9]) true) connected
      ⟨rfl, ⟨rfl, ?_⟩, fun _ _ notices => notices.elim, fun _ => ⟨rfl, rfl⟩⟩ rfl rfl rfl
    intro block node same
    cases same
    decide
  have written : Reachable Server.sampleOptions sampleClientOptions sampleExecution.append
      sampleExecution.append (sampleSystem (sampleEvents.take 4)) :=
    .step (.client (.write [.accepted 1])) accepted ⟨rfl, trivial⟩ trivial rfl
      (by unfold Complete; decide)
  exact .step (sampleReads [50]) written (sampleReads_possible (by decide) (by decide))
    (sampleReads_granted _) rfl trivial

theorem sampleSystem_reachable :
    Reachable Server.sampleOptions sampleClientOptions sampleExecution.append
      sampleExecution.append (sampleSystem sampleEvents) := by
  have noticed : Reachable Server.sampleOptions sampleClientOptions sampleExecution.append
      sampleExecution.append (sampleSystem (sampleEvents.take 6)) := by
    refine .step (.server (.tailerReadable 1 (.data [10])) false) sampleDigit_reachable
      ⟨rfl, ⟨⟨_, rfl, rfl⟩, by simp⟩, fun _ _ _ => .inl (by decide), by simp⟩ trivial rfl rfl
  have part : Reachable Server.sampleOptions sampleClientOptions sampleExecution.append
      sampleExecution.append (sampleSystem (sampleEvents.take 7)) :=
    .step (sampleReads [10, 97]) noticed (sampleReads_possible (by decide) (by decide))
      (sampleReads_granted _) rfl trivial
  exact .step (sampleReads [10]) part (sampleReads_possible (by decide) (by decide))
    (sampleReads_granted _) rfl trivial

theorem contract_of_sampleSystem :
    (∀ event, Possible (sampleSystem sampleEvents) event → Granted event →
        Returns (handle Server.sampleOptions sampleClientOptions (sampleSystem sampleEvents)
          event) fun _ => True) ∧
      ((sampleSystem sampleEvents).socket = none →
        (sampleSystem sampleEvents).client.stdout = []) ∧
      ((sampleSystem sampleEvents).socket.isSome → ∃ before since,
        (sampleSystem sampleEvents).connection.before = before ∧
        (sampleSystem sampleEvents).server.stdinRead = before ++ since ∧
        Contract sampleClientOptions (sampleSystem sampleEvents)
          (requiredTail sampleClientOptions.buffer
            (requiredTail Server.sampleOptions.buffer before)) since) :=
  contract_of_reachable Server.sampleOptions sampleClientOptions sampleExecution.append
    sampleExecution.append (by decide) rfl rfl (sampleSystem sampleEvents)
    sampleSystem_reachable

example : (sampleSystem sampleEvents).client.stdout = [10] := by decide

end Tailserver.EndToEnd
