import Tailserver.Client.Retrying
import Tailserver.EndToEnd

/-! One of the connections of a client that follows: what each step of the server and of the
client does to what the client knows of it. -/

set_option autoImplicit false

namespace Tailserver.Reopening

open CMemory Buffer
open Client (Taken Stream ends)
open EndToEnd (MayRead Delivered Drained tailOf)

variable {bufsiz : Nat}

/-- The client's account of a connection. -/
structure Known (options : Server.Options) (v : EndToEnd.State bufsiz) (taken : Taken) :
    Prop where
  known : ∀ socket, v.socket = some socket → socket < v.server.accepted
  bytes : taken.bytes = v.taken
  tail : v.taken ≠ [] → taken.stream.tail = tailOf options v.connection

/-- All that the server has sent was read, which is all that it was to send. -/
structure Finished (options : Server.Options) (v : EndToEnd.State bufsiz) (taken : Taken) :
    Prop extends Known options v taken where
  refused : v.connection.registered = false → v.taken = []
  whole : v.connection.registered = true →
    v.taken = Server.stream options v.server.stdinRead v.connection

/-- A connection that the client has left: no more will ever come. -/
structure Past (options : Server.Options) (v : EndToEnd.State bufsiz) (taken : Taken) : Prop
    extends Finished options v taken where
  unaccepted : v.socket = none → v.exited = true
  gone : v.exited = true ∨ v.connection.registered = false

/-- A connection that the client has not left. -/
structure Held (options : Server.Options) (v : EndToEnd.State bufsiz) (taken : Taken) : Prop
    extends Known options v taken where
  uncut : v.connection.cut = false
  quiet : v.connection.hungUp = false
  opened : v.exited = false → v.connection.registered = true → v.connection.closes = 0
  refused : v.connection.registered = false → v.connection.received = []
  delivered : Delivered options v.server.stdinRead v.connection
  isPrefix : v.taken <+: v.connection.received

/-- A new connection. -/
theorem Held.nothing (options : Server.Options) {v : EndToEnd.State bufsiz}
    (unaccepted : v.socket = none) (unread : v.taken = []) (stream : Stream) :
    Held options v ⟨stream, []⟩ := by
  have same := EndToEnd.State.connection_of_none unaccepted
  refine ⟨⟨?_, unread.symm, fun read => absurd unread read⟩, ?_, ?_, ?_, ?_, ?_, ?_⟩
  · intro socket accepted
    rw [unaccepted] at accepted
    cases accepted
  · rw [same]
  · rw [same]
  · rw [same]
    exact fun _ _ => rfl
  · rw [same]
    exact fun _ => rfl
  · rw [same]
    exact .nothing _ _
  · rw [unread]
    exact List.nil_prefix

/-! ## Steps of a server -/

/-- What holds of a server as long as it runs. -/
structure Running (options : Server.Options) (server : Server.State bufsiz) : Prop where
  serving : ∃ clients, Server.Serving options server clients
  refuses : Server.Refuses server

section Serve

variable {options : Server.Options} {v : EndToEnd.State bufsiz} {taken : Taken}
  {event : Server.Event bufsiz} {server : Server.State bufsiz}

theorem Running.handle {before : Server.State bufsiz} (running : Running options before)
    (possible : Server.Possible before event) (granted : Server.Granted event)
    (ran : Server.handle options before event = .ok server) : Running options server := by
  obtain ⟨clients, serving⟩ := running.serving
  exact ⟨(serving.handle possible granted).of_ok ran,
    running.refuses.handle serving possible granted ran⟩

theorem Known.serve (known : Known options v taken)
    (possible : Server.Possible v.server event)
    (ran : Server.handle options v.server event = .ok server) :
    Known options { v with server } taken := by
  obtain ⟨next, grows⟩ := Server.handle_grows possible ran
  refine ⟨?_, known.bytes, ?_⟩
  · intro socket accepted
    have before := known.known socket accepted
    rcases next with same | opens
    · exact same ▸ before
    · rw [opens.accepted]
      exact Nat.lt_succ_of_lt before
  · intro nonempty
    rw [known.tail nonempty]
    rcases Option.eq_none_or_eq_some v.socket with accepted | ⟨socket, accepted⟩
    · rw [EndToEnd.State.connection_of_none accepted,
        @EndToEnd.State.connection_of_none _ { v with server } accepted]
    · obtain ⟨_, _, grown⟩ := grows socket (known.known socket accepted)
      rw [EndToEnd.State.connection_of_some accepted,
        @EndToEnd.State.connection_of_some _ { v with server } _ accepted, tailOf, tailOf,
        grown.before]

/-- A server that still runs leaves what it has refused alone. -/
theorem Past.serve (past : Past options v taken) (up : v.exited = false)
    (running : Running options v.server) (possible : Server.Possible v.server event)
    (granted : Server.Granted event)
    (ran : Server.handle options v.server event = .ok server) :
    Past options { v with server } taken := by
  obtain ⟨clients, serving⟩ := running.serving
  have unregistered : v.connection.registered = false := by
    rcases past.gone with exited | unregistered
    · rw [up] at exited
      cases exited
    · exact unregistered
  have same : ({ v with server } : EndToEnd.State bufsiz).connection = v.connection := by
    rcases Option.eq_none_or_eq_some v.socket with accepted | ⟨socket, accepted⟩
    · rw [EndToEnd.State.connection_of_none accepted,
        @EndToEnd.State.connection_of_none _ { v with server } accepted]
    · rw [EndToEnd.State.connection_of_some accepted] at unregistered ⊢
      rw [@EndToEnd.State.connection_of_some _ { v with server } _ accepted]
      have known := past.known socket accepted
      have closed := (running.refuses socket known unregistered).2
      apply serving.untouched possible granted ran known
      intro listed
      rw [(serving.follows socket known).opened listed] at closed
      cases closed
  refine ⟨⟨past.toKnown.serve possible ran, ?_, ?_⟩, past.unaccepted, .inr ?_⟩
  · exact fun _ => past.refused unregistered
  · rw [same, unregistered]
    intro registered
    cases registered
  · rw [same]
    exact unregistered

/-- The connection, accepted or not, of a client that has not sent anything. -/
theorem Held.serve (held : Held options v taken) (running : Running options v.server)
    (possible : Server.Possible v.server event) (granted : Server.Granted event)
    (unnoticed : ∀ socket, v.socket = some socket → ¬ Server.Notices v.server socket event)
    (ran : Server.handle options v.server event = .ok server)
    (uncut : (EndToEnd.State.connection { v with server }).cut = false) :
    Held options { v with server } taken := by
  have runs := running.handle possible granted ran
  obtain ⟨clients, serving⟩ := runs.serving
  have known := held.toKnown.serve possible ran
  rcases Option.eq_none_or_eq_some v.socket with accepted | ⟨socket, accepted⟩
  · have nothing := held.isPrefix
    rw [EndToEnd.State.connection_of_none accepted] at nothing
    have same := @EndToEnd.State.connection_of_none _ { v with server } accepted
    refine ⟨known, uncut, ?_, ?_, ?_, ?_, ?_⟩ <;> rw [same]
    · exact fun _ _ => rfl
    · exact fun _ => rfl
    · exact .nothing _ _
    · exact nothing
  · have before := held.known socket accepted
    have same := @EndToEnd.State.connection_of_some _ { v with server } _ accepted
    obtain ⟨hungUp, cause, grows⟩ := (Server.handle_grows possible ran).2 socket before
    obtain rfl := cause.resolve_right (unnoticed socket accepted)
    have follows := serving.follows socket (known.known socket accepted)
    rw [← EndToEnd.State.connection_of_some accepted, ← same] at grows
    rw [← same] at follows
    have quiet := grows.hungUp.trans held.quiet
    have tail : tailOf options (EndToEnd.State.connection { v with server }) =
        tailOf options v.connection := by rw [tailOf, tailOf, grows.before]
    have delivered : Delivered options server.stdinRead
        (EndToEnd.State.connection { v with server }) := by
      refine .of_follows follows uncut ?_ ?_
      · rw [tail]
        exact held.delivered.small
      · intro registered
        rw [grows.registered] at registered
        rw [tail]
        exact (held.delivered.greeted registered).trans grows.received
    refine ⟨known, uncut, quiet, ?_, ?_, delivered, held.isPrefix.trans grows.received⟩
    · exact fun _ registered => follows.opened (follows.listed registered uncut quiet)
    · rw [same]
      exact fun unregistered =>
        (runs.refuses socket (known.known socket accepted) unregistered).1

theorem Held.accept (held : Held options v taken) (unaccepted : v.socket = none)
    (running : Running options v.server)
    (possible : Server.Possible v.server event) (granted : Server.Granted event)
    (ran : Server.handle options v.server event = .ok server)
    (new : server.accepted ≠ v.server.accepted)
    (uncut : (server.connections v.server.accepted).cut = false) :
    Held options { v with server, socket := some v.server.accepted } taken := by
  obtain ⟨clients, serving⟩ := running.serving
  have runs := running.handle possible granted ran
  obtain ⟨clients', serves⟩ := runs.serving
  have opens := (Server.handle_grows possible ran).1.resolve_left new
  have lt : v.server.accepted < server.accepted := by
    rw [opens.accepted]
    exact Nat.lt_succ_self _
  have follows := serves.follows v.server.accepted lt
  have nothing : v.taken = [] := by
    have isPrefix := held.isPrefix
    rw [EndToEnd.State.connection_of_none unaccepted] at isPrefix
    exact List.prefix_nil.mp isPrefix
  have delivered : Delivered options server.stdinRead
      (server.connections v.server.accepted) := by
    refine .of_follows follows uncut ?_ ?_
    · rw [tailOf, opens.before]
      exact serving.ready.length_requiredTail_lt
    · intro registered
      rw [follows.whole (follows.listed registered uncut opens.hungUp), EndToEnd.stream_eq]
      exact List.prefix_append _ _
  refine ⟨⟨?_, held.bytes, fun read => absurd nothing read⟩, uncut, opens.hungUp, ?_, ?_,
    delivered, ?_⟩
  · intro socket same
    cases same
    exact lt
  · exact fun _ registered => follows.opened (follows.listed registered uncut opens.hungUp)
  · exact fun unregistered => (runs.refuses _ lt unregistered).1
  · rw [nothing]
    exact List.nil_prefix

/-! ## The end of a server -/

/-- All that ending does to a connection is that it may close it. -/
theorem connection_of_exit (running : Running options v.server)
    (ran : Server.socketsFinal v.server = .ok server) :
    server.stdinRead = v.server.stdinRead ∧ server.accepted = v.server.accepted ∧
      ∃ closes, EndToEnd.State.connection { v with server, exited := true } =
        { v.connection with closes } := by
  obtain ⟨clients, serving⟩ := running.serving
  obtain ⟨tailers, firstTailer, connections, ran', _, closed⟩ := serving.registered.socketsFinal
  have ends : server = { v.server with tailers, firstTailer, connections } :=
    Except.ok.inj (ran.symm.trans ran')
  refine ⟨by rw [ends], by rw [ends], ?_⟩
  rcases Option.eq_none_or_eq_some v.socket with accepted | ⟨socket, accepted⟩
  · rw [EndToEnd.State.connection_of_none accepted,
      @EndToEnd.State.connection_of_none _ { v with server, exited := true } accepted]
    exact ⟨0, rfl⟩
  · rw [EndToEnd.State.connection_of_some accepted,
      @EndToEnd.State.connection_of_some _ { v with server, exited := true } _ accepted, ends]
    exact ⟨_, closed socket⟩

theorem Known.exit {closes : Nat} {v' : EndToEnd.State bufsiz} (known : Known options v taken)
    (connection : v'.connection = { v.connection with closes }) (socket : v'.socket = v.socket)
    (accepted : v'.server.accepted = v.server.accepted) (same : v'.taken = v.taken) :
    Known options v' taken := by
  refine ⟨?_, ?_, ?_⟩
  · rw [socket, accepted]
    exact known.known
  · rw [same]
    exact known.bytes
  · rw [same, connection]
    exact known.tail

theorem Past.exit (past : Past options v taken) (running : Running options v.server)
    (ran : Server.socketsFinal v.server = .ok server) :
    Past options { v with server, exited := true } taken := by
  obtain ⟨read, accepted, closes, connection⟩ := connection_of_exit running ran
  refine ⟨⟨past.toKnown.exit connection rfl accepted rfl, ?_, ?_⟩, fun _ => rfl, .inl rfl⟩
  · rw [connection]
    exact past.refused
  · rw [connection]
    intro registered
    exact (past.whole registered).trans (by rw [read]; rfl)

theorem Held.exit (held : Held options v taken) (running : Running options v.server)
    (ran : Server.socketsFinal v.server = .ok server) :
    Held options { v with server, exited := true } taken := by
  obtain ⟨read, accepted, closes, connection⟩ := connection_of_exit running ran
  have delivered := held.delivered
  refine ⟨held.toKnown.exit connection rfl accepted rfl, ?_, ?_, ?_, ?_, ?_, ?_⟩
  · rw [connection]
    exact held.uncut
  · rw [connection]
    exact held.quiet
  · intro running
    cases running
  · rw [connection]
    exact held.refused
  · rw [connection, read]
    exact ⟨delivered.before, delivered.received, delivered.small, delivered.greeted,
      delivered.whole⟩
  · rw [connection]
    exact held.isPrefix

/-! ## Reading from a connection -/

variable {answer : ReadAnswer}

theorem Held.read (held : Held options v taken) (mayRead : MayRead v answer)
    (tail : taken.stream.tail = tailOf options v.connection) (client : Client.State bufsiz) :
    Held options { v with client, taken := v.taken ++ answer.bytes }
      (taken.read answer.bytes) := by
  have isPrefix : v.taken ++ answer.bytes <+: v.connection.received := by
    cases answer with
    | data bytes => exact mayRead
    | eof =>
        rw [ReadAnswer.bytes, List.append_nil]
        exact held.isPrefix
    | failed errno =>
        rw [ReadAnswer.bytes, List.append_nil]
        exact held.isPrefix
  refine ⟨⟨held.known, ?_, fun _ => tail⟩, held.uncut, held.quiet, held.opened, held.refused,
    held.delivered, isPrefix⟩
  rw [Taken.read, held.bytes]

theorem Past.client (past : Past options v taken) (client : Client.State bufsiz) :
    Past options { v with client } taken :=
  ⟨⟨⟨past.known, past.bytes, past.tail⟩, past.refused, past.whole⟩, past.unaccepted, past.gone⟩

theorem Held.finished (held : Held options v taken) (all : v.taken = v.connection.received) :
    Finished options v taken where
  toKnown := held.toKnown
  refused := fun unregistered => all.trans (held.refused unregistered)
  whole := fun registered => all.trans (held.delivered.whole registered held.quiet)

theorem Held.past (held : Held options v taken) (drained : Drained v) : Past options v taken := by
  obtain ⟨all, ended⟩ := drained
  refine ⟨held.finished all, ?_, ?_⟩
  · intro unaccepted
    rw [EndToEnd.State.connection_of_none unaccepted] at ended
    exact ended.resolve_left (Nat.lt_irrefl 0)
  · cases registered : v.connection.registered with
    | false => exact .inr rfl
    | true =>
        left
        cases exited : v.exited with
        | true => rfl
        | false =>
            rw [held.opened exited registered, exited] at ended
            simp at ended

/-- A server that runs has accepted a connection before the client can leave it. -/
theorem Past.left (past : Past options v taken) :
    v.exited = true ∨ v.socket.isSome ∧ v.connection.registered = false := by
  rcases past.gone with exited | unregistered
  · exact .inl exited
  · rcases Option.eq_none_or_eq_some v.socket with unaccepted | ⟨socket, accepted⟩
    · exact .inl (past.unaccepted unaccepted)
    · exact .inr ⟨Option.isSome_of_eq_some accepted, unregistered⟩

/-- A read that ends the connection finds all read before. -/
theorem Held.leave (held : Held options v taken) (mayRead : MayRead v answer)
    (ended : ends answer = true) (client : Client.State bufsiz) :
    Past options { v with client, taken := v.taken ++ answer.bytes }
      (taken.read answer.bytes) := by
  obtain ⟨nothing, drained⟩ : answer.bytes = [] ∧ Drained v := by
    cases answer with
    | data bytes => cases ended
    | eof => exact ⟨rfl, mayRead⟩
    | failed errno => exact ⟨rfl, mayRead.resolve_left (by simpa [ends] using ended)⟩
  have same : taken.read [] = taken := by simp [Taken.read]
  rw [nothing, List.append_nil, same]
  exact (held.past drained).client client

end Serve

end Tailserver.Reopening
