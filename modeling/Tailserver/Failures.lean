import Tailserver.Client.Failures
import Tailserver.Client.OutOfMemory
import Tailserver.ManyClients
import Tailserver.Server.Failures

/-! A server and its clients when anybody runs out of memory, cannot print, cannot write to
the others or is cut off. None of that makes a step of anybody fail, and no client ever
prints anything but a beginning of what it is due. -/

set_option autoImplicit false

namespace Tailserver.EndToEnd

open CMemory Buffer Client

variable {bufsiz : Nat}

structure Weathered (serverOptions : Server.Options) (clientOptions : Client.Options)
    (s : State bufsiz) : Prop where
  standing : s.exited = false → ∃ clients, Server.Standing serverOptions s.server clients
  known : ∀ socket, s.socket = some socket → s.connected = true ∧ socket < s.server.accepted
  before : s.connection.before <+: s.server.stdinRead
  received : s.connection.received <+: Server.stream serverOptions s.server.stdinRead s.connection
  small : (tailOf serverOptions s.connection).length < Word.signedMax
  taken : s.taken <+: s.connection.received
  weathers : Weathers clientOptions s.client (tailOf serverOptions s.connection) s.taken
  unconnected : s.connected = false → s.client.phase.attached = false ∧
    Converses clientOptions s.client (tailOf serverOptions s.connection) s.taken

section Weathered

variable {serverOptions : Server.Options} {clientOptions : Client.Options} {s : State bufsiz}
  {server : Server.State bufsiz} {event : Server.Event bufsiz}

theorem Weathered.unaccepted (weathered : Weathered serverOptions clientOptions s)
    (unconnected : s.connected = false) : s.socket = none := by
  cases accepted : s.socket with
  | none => rfl
  | some socket =>
      have connected := (weathered.known socket accepted).1
      rw [unconnected] at connected
      cases connected

theorem Weathered.taken_of_none (weathered : Weathered serverOptions clientOptions s)
    (unaccepted : s.socket = none) : s.taken = [] := by
  have taken := weathered.taken
  rw [State.connection_of_none unaccepted] at taken
  exact List.prefix_nil.mp taken

/-- A callback of the server that accepts another connection, or none. -/
theorem Weathered.serve (weathered : Weathered serverOptions clientOptions s)
    (running : s.exited = false) (possible : Server.Possible s.server event)
    (ran : Server.handle serverOptions s.server event = .ok server) :
    Weathered serverOptions clientOptions { s with server } := by
  obtain ⟨clients, standing⟩ := weathered.standing running
  have stands := (standing.handle possible).of_ok ran
  obtain ⟨next, grows⟩ := Server.handle_grows possible ran
  rcases Option.eq_none_or_eq_some s.socket with accepted | ⟨socket, accepted⟩
  · have same : ({ s with server } : State bufsiz).connection = s.connection := by
      rw [State.connection_of_none accepted,
        @State.connection_of_none _ { s with server } accepted]
    have nothing := State.connection_of_none accepted
    refine ⟨fun _ => stands, ?_, ?_, ?_, ?_, ?_, ?_, ?_⟩
    · intro socket other
      rw [accepted] at other
      cases other
    · rw [same, nothing]
      exact List.nil_prefix
    · rw [same, nothing]
      exact List.nil_prefix
    · rw [same]
      exact weathered.small
    · rw [same]
      exact weathered.taken
    · rw [same]
      exact weathered.weathers
    · rw [same]
      exact weathered.unconnected
  · obtain ⟨connected, lt⟩ := weathered.known socket accepted
    obtain ⟨_, _, grown⟩ := grows socket lt
    obtain ⟨clients', stands'⟩ := stands
    have known : socket < server.accepted := by
      rcases next with same | opens
      · exact same ▸ lt
      · rw [opens.accepted]
        exact Nat.lt_succ_of_lt lt
    have lags := stands'.lags socket known
    rw [← @State.connection_of_some _ { s with server } _ accepted] at lags grown
    rw [← State.connection_of_some accepted] at grown
    have tail : tailOf serverOptions (State.connection { s with server }) =
        tailOf serverOptions s.connection := by rw [tailOf, tailOf, grown.before]
    refine ⟨fun _ => ⟨_, stands'⟩, ?_, lags.before, lags.received, ?_,
      weathered.taken.trans grown.received, ?_, ?_⟩
    · intro other same
      cases accepted.symm.trans same
      exact ⟨connected, known⟩
    · rw [tail]
      exact weathered.small
    · rw [tail]
      exact weathered.weathers
    · rw [tail]
      exact weathered.unconnected

theorem Weathered.accept (weathered : Weathered serverOptions clientOptions s)
    (running : s.exited = false) (possible : Server.Possible s.server event)
    (connected : s.connected = true) (unaccepted : s.socket = none)
    (ran : Server.handle serverOptions s.server event = .ok server)
    (new : server.accepted ≠ s.server.accepted) :
    Weathered serverOptions clientOptions
      { s with server, socket := some s.server.accepted } := by
  obtain ⟨clients, standing⟩ := weathered.standing running
  obtain ⟨clients', stands⟩ := (standing.handle possible).of_ok ran
  have opens := (Server.handle_grows possible ran).1.resolve_left new
  have lt : s.server.accepted < server.accepted := by
    rw [opens.accepted]
    exact Nat.lt_succ_self _
  have lags := stands.lags s.server.accepted lt
  have nothing := weathered.taken_of_none unaccepted
  have weathers := weathered.weathers
  rw [nothing] at weathers
  refine ⟨fun _ => ⟨clients', stands⟩, ?_, lags.before, lags.received, ?_, ?_, ?_, ?_⟩
  · intro socket same
    cases same
    exact ⟨connected, lt⟩
  · rw [tailOf, show State.connection { s with server, socket := some s.server.accepted } =
      server.connections s.server.accepted from rfl, opens.before]
    exact standing.offers.small
  · rw [nothing]
    exact List.nil_prefix
  · rw [nothing]
    exact weathers.of_nil _
  · intro unconnected
    rw [connected] at unconnected
    cases unconnected

theorem Weathered.exit (weathered : Weathered serverOptions clientOptions s)
    (running : s.exited = false) :
    Returns (handle serverOptions clientOptions s .exit)
      (Weathered serverOptions clientOptions) := by
  obtain ⟨clients, standing⟩ := weathered.standing running
  obtain ⟨tailers, firstTailer, connections, ran, _, closed⟩ := standing.registered.socketsFinal
  rw [handle, ran, except_ok_bind, except_pure, Returns.ok_iff]
  obtain ⟨closes, connection⟩ : ∃ closes, State.connection { s with
      server := { s.server with tailers, firstTailer, connections }, exited := true } =
        { s.connection with closes } := by
    rcases Option.eq_none_or_eq_some s.socket with accepted | ⟨socket, accepted⟩
    · rw [State.connection_of_none accepted, @State.connection_of_none _ { s with
        server := { s.server with tailers, firstTailer, connections }, exited := true } accepted]
      exact ⟨0, rfl⟩
    · rw [State.connection_of_some accepted, @State.connection_of_some _ { s with
        server := { s.server with tailers, firstTailer, connections }, exited := true } _ accepted]
      exact ⟨_, closed socket⟩
  refine ⟨?_, weathered.known, ?_, ?_, ?_, ?_, ?_, ?_⟩
  · intro exited
    cases exited
  all_goals rw [connection]
  · exact weathered.before
  · exact weathered.received
  · exact weathered.small
  · exact weathered.taken
  · exact weathered.weathers
  · exact weathered.unconnected

/-! ## Steps of the client -/

theorem Weathered.connect (weathered : Weathered serverOptions clientOptions s)
    (connecting : s.client.phase = .connecting) (unconnected : s.connected = false)
    (opened : Int) :
    Weathered serverOptions clientOptions { s with
      client := Client.connect clientOptions s.client opened
      connected := decide (opened ≠ invalidSocket) } := by
  have unaccepted := weathered.unaccepted unconnected
  have nothing := weathered.taken_of_none unaccepted
  have converses := (weathered.unconnected unconnected).2
  rw [nothing] at converses
  obtain ⟨converses', attached⟩ := converses.connect connecting opened
  refine ⟨weathered.standing, ?_, weathered.before, weathered.received, weathered.small,
    weathered.taken, ?_, ?_⟩
  · intro socket accepted
    rw [unaccepted] at accepted
    cases accepted
  · rw [nothing]
    exact converses'.weathers
  · intro refused
    rw [nothing]
    exact ⟨attached.trans refused, converses'⟩

theorem Weathered.attached {client : Client.State bufsiz} {bytes : List UInt8}
    (weathered : Weathered serverOptions clientOptions s)
    (attached : s.client.phase.attached = true)
    (taken : s.taken ++ bytes <+: s.connection.received)
    (weathers : Weathers clientOptions client (tailOf serverOptions s.connection)
      (s.taken ++ bytes)) :
    Weathered serverOptions clientOptions { s with client, taken := s.taken ++ bytes } := by
  refine ⟨weathered.standing, weathered.known, weathered.before, weathered.received,
    weathered.small, taken, weathers, fun unconnected => ?_⟩
  have detached := (weathered.unconnected unconnected).1
  rw [attached] at detached
  cases detached

theorem Weathered.readable {answer : ReadAnswer} {unset : Int}
    {fresh : Allocation (LineBuffer bufsiz)} {answers : List WriteAnswer}
    (weathered : Weathered serverOptions clientOptions s) (room : 0 < bufsiz)
    (possible : Client.Possible s.client (.readable answer unset fresh answers))
    (mayRead : MayRead s answer) :
    Returns (Client.handle clientOptions s.client (.readable answer unset fresh answers))
      fun client => Weathered serverOptions clientOptions
        { s with client, taken := s.taken ++ answer.bytes } := by
  have attached : s.client.phase.attached = true := by
    rw [possible.1]
    rfl
  have taken : s.taken ++ answer.bytes <+: s.connection.received := by
    cases answer with
    | data bytes => exact mayRead
    | eof =>
        rw [ReadAnswer.bytes, List.append_nil]
        exact weathered.taken
    | failed errno =>
        rw [ReadAnswer.bytes, List.append_nil]
        exact weathered.taken
  have arrives : ∀ bytes, answer = .data bytes → s.taken ++ bytes <+:
      header (tailOf serverOptions s.connection) ++ tailOf serverOptions s.connection ++
        s.server.stdinRead.drop s.connection.before.length := by
    rintro bytes rfl
    exact taken.trans weathered.received
  exact ((weathered.weathers.converses attached).tryRead room possible weathered.small
    arrives).mono fun client weathers => weathered.attached attached taken weathers

/-! ## Runs -/

theorem Weathered.handle {event : Event bufsiz}
    (weathered : Weathered serverOptions clientOptions s) (room : 0 < bufsiz)
    (possible : Possible s event) :
    Returns (handle serverOptions clientOptions s event)
      (Weathered serverOptions clientOptions) := by
  cases event with
  | server event ours =>
      obtain ⟨running, possible, _, fresh⟩ := possible
      obtain ⟨clients, standing⟩ := weathered.standing running
      have returns := standing.handle possible
      rw [EndToEnd.handle]
      cases ran : Server.handle serverOptions s.server event with
      | error fault =>
          rw [ran] at returns
          exact returns
      | ok server =>
          rw [except_ok_bind, except_pure, Returns.ok_iff]
          split
          · next new =>
            rw [Bool.and_eq_true, decide_eq_true_iff] at new
            obtain ⟨connected, unaccepted⟩ := fresh new.1
            exact weathered.accept running possible connected unaccepted ran new.2
          · exact weathered.serve running possible ran
  | exit => exact weathered.exit possible
  | client event =>
      obtain ⟨possible, mayRun⟩ := possible
      cases event with
      | connect opened =>
          have unconnected : s.connected = false := mayRun
          rw [EndToEnd.handle, Client.handle, except_ok_bind, except_pure, Returns.ok_iff,
            unconnected, Bool.false_or, arrived, List.append_nil]
          exact weathered.connect possible unconnected opened
      | write answers =>
          have attached : s.client.phase.attached = true := by
            rw [show s.client.phase = .writing from possible]
            rfl
          have prepared := (weathered.weathers.converses attached).answers answers
          rw [EndToEnd.handle, Client.handle]
          cases ran : writeToServer { s.client with answers } with
          | error fault =>
              have returns := writeToServer_returns { s.client with answers }
              rw [ran] at returns
              exact returns
          | ok client =>
              have weathers := prepared.tryWrite possible ran
              rw [except_ok_bind, except_pure, Returns.ok_iff, opens, Bool.or_false, arrived]
              rw [← List.append_nil s.taken] at weathers
              refine weathered.attached attached ?_ weathers
              rw [List.append_nil]
              exact weathered.taken
      | readable answer unset fresh answers =>
          apply (weathered.readable room possible mayRun).bind
          intro client weathered'
          rw [opens, Bool.or_false]
          exact weathered'

/-- What was due is the tail, and behind it what follows. -/
theorem Weathered.stdout_prefix (weathered : Weathered serverOptions clientOptions s) :
    s.client.stdout <+: requiredTail clientOptions.buffer (tailOf serverOptions s.connection) ++
      if clientOptions.follow then s.server.stdinRead.drop s.connection.before.length
      else [] := by
  have received := weathered.taken.trans weathered.received
  rw [stream_eq] at received
  refine weathered.weathers.stdout.trans ?_
  rw [printed]
  cases finished : whole (tailOf serverOptions s.connection) s.taken with
  | false =>
      rw [followPart_of_unfinished received finished]
      exact List.nil_prefix
  | true =>
      rw [if_pos rfl, List.prefix_append_right_inj]
      cases following : clientOptions.follow with
      | false =>
          rw [weathered.weathers.unfollowed following]
          exact List.nil_prefix
      | true => exact followPart_prefix received

end Weathered

end Tailserver.EndToEnd

namespace Tailserver.ManyClients

open CMemory Buffer
open EndToEnd (Weathered)

variable {ι : Type} {bufsiz : Nat} [DecidableEq ι]

/-- The states the programs reach, whatever the kernel and the allocators answer. -/
inductive Attained (serverOptions : Server.Options) (clientOptions : ι → Client.Options)
    (serverAppend : Nat × LineBuffer bufsiz) (clientAppend : ι → Nat × LineBuffer bufsiz) :
    State ι bufsiz → Prop where
  | start (serverFirst : Nat × LineBuffer bufsiz) (clientFirst : ι → Nat × LineBuffer bufsiz)
      (opened : Bool) {server : Server.State bufsiz} {clients : ι → Client.State bufsiz} :
      FreshBuffer ({} : Buffer.State bufsiz) serverFirst.1 →
      FreshBuffer ({ heap := single serverFirst } : Buffer.State bufsiz) serverAppend.1 →
      Server.initAll serverOptions (some serverFirst) (some serverAppend) opened =
        .ok (true, server) →
      (∀ i, FreshBuffer ({} : Buffer.State bufsiz) (clientFirst i).1) →
      (∀ i, FreshBuffer ({ heap := single (clientFirst i) } : Buffer.State bufsiz)
        (clientAppend i).1) →
      (∀ i, Client.initAll (some (clientFirst i)) (some (clientAppend i)) =
        .ok (true, clients i)) →
      Attained serverOptions clientOptions serverAppend clientAppend
        { server, peers := fun i => { client := clients i } }
  | step {s s' : State ι bufsiz} (event : Event ι bufsiz) :
      Attained serverOptions clientOptions serverAppend clientAppend s → Possible s event →
      handle serverOptions clientOptions s event = .ok s' →
      Attained serverOptions clientOptions serverAppend clientAppend s'

section Runs

variable {serverOptions : Server.Options} {clientOptions : ι → Client.Options}
  {serverAppend : Nat × LineBuffer bufsiz} {clientAppend : ι → Nat × LineBuffer bufsiz}
  {s s' : State ι bufsiz} {event : Event ι bufsiz}

theorem Reachable.attained {spared : ι → Prop}
    (reachable : Reachable serverOptions clientOptions serverAppend clientAppend spared s) :
    Attained serverOptions clientOptions serverAppend clientAppend s := by
  induction reachable with
  | start serverFirst clientFirst opened fresh fresh' ran freshClient freshClient' ranClient =>
      exact .start serverFirst clientFirst opened fresh fresh' ran freshClient freshClient'
        ranClient
  | step event _ possible _ ran _ attained => exact .step event attained possible ran

theorem Attained.standing
    (attained : Attained serverOptions clientOptions serverAppend clientAppend s)
    (zeroed : serverAppend.2.nlines = 0) (running : s.exited = false) :
    ∃ clients, Server.Standing serverOptions s.server clients := by
  induction attained with
  | start serverFirst _ opened fresh fresh' ran _ _ _ =>
      have started : Server.Reachable serverOptions serverAppend Server.Granted _ :=
        .start serverFirst opened fresh fresh' ran
      obtain ⟨clients, serving⟩ := started.serving zeroed
      exact ⟨clients, serving.standing⟩
  | step event _ possible ran ih =>
      cases event with
      | server event whose =>
          obtain ⟨before, allowed, _⟩ := possible
          obtain ⟨server, serves, returned⟩ := except_bind_ok ran
          cases returned
          obtain ⟨clients, standing⟩ := ih before
          exact (standing.handle allowed).of_ok serves
      | exit =>
          obtain ⟨server, _, returned⟩ := except_bind_ok ran
          cases returned
          cases running
      | client who event =>
          obtain ⟨client, _, returned⟩ := except_bind_ok ran
          cases returned
          exact ih running

theorem Attained.weathered
    (attained : Attained serverOptions clientOptions serverAppend clientAppend s)
    (room : 0 < bufsiz) (serverZeroed : serverAppend.2.nlines = 0)
    (clientZeroed : ∀ i, (clientAppend i).2.nlines = 0) (i : ι) :
    Weathered serverOptions (clientOptions i) (s.view i) := by
  induction attained with
  | start serverFirst clientFirst opened fresh fresh' ran freshClient freshClient' ranClient =>
      have started : Server.Reachable serverOptions serverAppend Server.Granted _ :=
        .start serverFirst opened fresh fresh' ran
      obtain ⟨clients, serving⟩ := started.serving serverZeroed
      obtain ⟨converses, connecting⟩ := Client.Converses.start (clientOptions i)
        (EndToEnd.tailOf serverOptions {}) (freshClient i) (freshClient' i)
        (fun _ => clientZeroed i) (ranClient i)
      refine ⟨fun _ => ⟨clients, serving.standing⟩, ?_, List.nil_prefix, List.nil_prefix,
        (EndToEnd.Delivered.nothing serverOptions []).small, List.prefix_refl _,
        converses.weathers, fun _ => ⟨?_, converses⟩⟩
      · intro socket accepted
        cases accepted
      · exact (congrArg Client.Phase.attached connecting).trans rfl
  | step event _ possible ran weathered =>
      have seen := handle_view ran i
      cases sees : event.at i with
      | none =>
          rw [sees] at seen
          rw [seen]
          exact weathered
      | some seenEvent =>
          rw [sees] at seen
          exact (weathered.handle room (possible.view sees)).of_ok seen

/-- What one client does is a run of a client. -/
theorem Attained.client
    (attained : Attained serverOptions clientOptions serverAppend clientAppend s) (i : ι) :
    Client.Reachable (clientOptions i) (s.peers i).client := by
  induction attained with
  | start _ clientFirst _ _ _ _ freshClient freshClient' ranClient =>
      exact .start (clientFirst i) (clientAppend i) (freshClient i) (freshClient' i) (ranClient i)
  | step event _ possible ran ih =>
      cases event with
      | server event whose =>
          obtain ⟨server, _, returned⟩ := except_bind_ok ran
          cases returned
          dsimp only
          split <;> exact ih
      | exit =>
          obtain ⟨server, _, returned⟩ := except_bind_ok ran
          cases returned
          exact ih
      | client who event =>
          obtain ⟨client, runs, returned⟩ := except_bind_ok ran
          cases returned
          by_cases same : i = who
          · subst same
            simp only [Function.update_self]
            exact .step ih ⟨event, possible.1, runs⟩
          · simpa only [Function.update_of_ne same] using ih

theorem returns_of_weathered (room : 0 < bufsiz)
    (standing : s.exited = false → ∃ clients, Server.Standing serverOptions s.server clients)
    (weathered : ∀ i, Weathered serverOptions (clientOptions i) (s.view i))
    (possible : Possible s event) :
    Returns (handle serverOptions clientOptions s event) fun _ => True := by
  cases event with
  | server event whose =>
      obtain ⟨running, allowed, _⟩ := possible
      obtain ⟨clients, stands⟩ := standing running
      exact (stands.handle allowed).bind fun _ _ => trivial
  | exit =>
      obtain ⟨clients, stands⟩ := standing possible
      obtain ⟨_, _, _, ends, _⟩ := stands.registered.socketsFinal
      exact .bind_ok ends trivial
  | client who event =>
      have seen : (Event.client who event).at who = some (.client event) := if_pos rfl
      have returns := (weathered who).handle room (possible.view seen)
      exact returns.of_bind.bind fun _ _ => trivial

/-- Whatever fails and whoever ends, no step of the server or of a client faults, and each
client has printed a beginning of what it is due; a client that cannot write to its
standard output has ended. -/
theorem prefix_of_many (serverOptions : Server.Options) (clientOptions : ι → Client.Options)
    (serverAppend : Nat × LineBuffer bufsiz) (clientAppend : ι → Nat × LineBuffer bufsiz)
    (room : 0 < bufsiz) (serverZeroed : serverAppend.2.nlines = 0)
    (clientZeroed : ∀ i, (clientAppend i).2.nlines = 0) (s : State ι bufsiz)
    (attained : Attained serverOptions clientOptions serverAppend clientAppend s) :
    (∀ event, Possible s event →
        Returns (handle serverOptions clientOptions s event) fun _ => True) ∧
      ∀ i, ((s.peers i).client.broken = true → (s.peers i).client.phase = .finished) ∧
        ((s.peers i).socket = none → (s.peers i).client.stdout = []) ∧
        ∀ socket, (s.peers i).socket = some socket → ∃ since,
          s.server.stdinRead = (s.server.connections socket).before ++ since ∧
          (s.peers i).client.stdout <+:
            requiredTail (clientOptions i).buffer
              (requiredTail serverOptions.buffer (s.server.connections socket).before) ++
              if (clientOptions i).follow then since else [] := by
  have weathered := attained.weathered room serverZeroed clientZeroed
  refine ⟨fun event possible => ?_, fun i => ⟨?_, ?_, ?_⟩⟩
  · exact returns_of_weathered room (attained.standing serverZeroed) weathered possible
  · intro broken
    by_contra unfinished
    rw [(attained.client i).waits.unbroken unfinished] at broken
    cases broken
  · intro unaccepted
    have printed := (weathered i).weathers.stdout
    rw [(weathered i).taken_of_none unaccepted, Client.printed_nil] at printed
    exact List.prefix_nil.mp printed
  · intro socket accepted
    have connection : (s.view i).connection = s.server.connections socket :=
      EndToEnd.State.connection_of_some accepted
    rw [← connection]
    obtain ⟨since, joined⟩ := (weathered i).before
    refine ⟨since, joined.symm, ?_⟩
    have isPrefix := Weathered.stdout_prefix (weathered i)
    rw [show (s.view i).server.stdinRead = _ from joined.symm, List.drop_left] at isPrefix
    exact isPrefix

end Runs

/-! The client that reads its line can write only half of it. -/

def sampleHalf : Event Bool 4 :=
  .client false (.readable (.data [97, 10]) 0 (some (3, ⟨sampleArea, 9, 9, none⟩)) [.accepted 1])

def sampleCutShort : State Bool 4 :=
  sampleSystem (sampleEvents.take 5 ++ [sampleHalf])

theorem sampleCutShort_attained :
    Attained Server.sampleOptions (fun _ => sampleFollow) sampleExecution.append
      (fun _ => sampleExecution.append) sampleCutShort := by
  have sent : [48] ++ [10] ++ [97, 10] <+: ((sampleSystem
      (sampleEvents.take 5)).view false).connection.received := by decide
  exact .step sampleHalf sampleGreeted_reachable.attained ⟨by decide, sent⟩ rfl

theorem prefix_of_cutShort :
    (∀ event, Possible sampleCutShort event →
        Returns (handle Server.sampleOptions (fun _ => sampleFollow) sampleCutShort event)
          fun _ => True) ∧
      ∀ i, ((sampleCutShort.peers i).client.broken = true →
          (sampleCutShort.peers i).client.phase = .finished) ∧
        ((sampleCutShort.peers i).socket = none →
          (sampleCutShort.peers i).client.stdout = []) ∧
        ∀ socket, (sampleCutShort.peers i).socket = some socket → ∃ since,
          sampleCutShort.server.stdinRead =
            (sampleCutShort.server.connections socket).before ++ since ∧
          (sampleCutShort.peers i).client.stdout <+:
            requiredTail sampleFollow.buffer (requiredTail Server.sampleOptions.buffer
              (sampleCutShort.server.connections socket).before) ++
              if sampleFollow.follow then since else [] :=
  prefix_of_many Server.sampleOptions (fun _ => sampleFollow) sampleExecution.append
    (fun _ => sampleExecution.append) (by decide) rfl (fun _ => rfl) sampleCutShort
    sampleCutShort_attained

example : (sampleCutShort.peers false).client.stdout = [97] := by decide

end Tailserver.ManyClients
