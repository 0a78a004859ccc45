import Tailserver.Server.Callbacks
import Tailserver.Server.OutOfMemory
import Tailserver.Server.Roster

/-! The tailers with their hand-made links refine the plain list of connections. Each
callback is a step of the plain list, so its invariants hold of the tailers. -/

set_option autoImplicit false

namespace Tailserver.Server

open CMemory Buffer

variable {bufsiz : Nat}

/-- The plain list that a list of tailers stands for. -/
def State.roster (s : State bufsiz) (clients : Clients) : Roster where
  listed := clients.map Prod.snd
  accepted := s.accepted
  closes socket := (s.connections socket).closes

/-- The links from `first_tailer` spell out the plain list, and there are no other
tailers. -/
def Represents (s : State bufsiz) (roster : Roster) : Prop :=
  ∃ clients, Registered s clients ∧ s.roster clients = roster

/-! ## Links -/

theorem Registered.of_lookup {s : State bufsiz} {clients : Clients} {block : Nat}
    {node : Tailer} (registered : Registered s clients)
    (found : s.tailers.lookup block = some node) :
    ∃ front socket back, clients = front ++ (block, socket) :: back ∧
      node = tailerOf socket (lastOr front none) (headOr back none) := by
  have member := registered.mem_iff.mp (mem_of_lookup found)
  obtain ⟨⟨_, socket⟩, listed, rfl⟩ := List.mem_map.mp member
  obtain ⟨front, back, rfl⟩ := List.append_of_mem listed
  have content := registered.lookup
  rw [found] at content
  exact ⟨front, socket, back, rfl, Option.some.inj content⟩

/-- `prev` and `next` are inverse to each other. -/
theorem Registered.next_iff_prev {s : State bufsiz} {clients : Clients} {block block' : Nat}
    {node node' : Tailer} (registered : Registered s clients)
    (found : s.tailers.lookup block = some node)
    (found' : s.tailers.lookup block' = some node') :
    node.next = some block' ↔ node'.prev = some block := by
  constructor
  · intro points
    obtain ⟨front, socket, back, rfl, rfl⟩ := registered.of_lookup found
    cases back with
    | nil => cases points
    | cons after back =>
        have same : after.1 = block' := Option.some.inj points
        have split : Registered s ((front ++ [(block, socket)]) ++ after :: back) := by
          simpa using registered
        have content := split.lookup
        rw [same, found', lastOr_concat] at content
        rw [Option.some.inj content, tailerOf]
  · intro points
    obtain ⟨front, socket, back, rfl, rfl⟩ := registered.of_lookup found'
    rcases List.eq_nil_or_concat front with rfl | ⟨init, before, rfl⟩
    · cases points
    · rw [List.concat_eq_append] at registered points
      have same : before.1 = block := by
        rw [tailerOf, lastOr_concat] at points
        exact Option.some.inj points
      have split : Registered s (init ++ before :: ((block', socket) :: back)) := by
        simpa using registered
      have content := split.lookup
      rw [same, found] at content
      rw [Option.some.inj content, tailerOf, headOr_cons]

theorem Registered.socket_mem {s : State bufsiz} {clients : Clients} {block : Nat}
    {node : Tailer} (registered : Registered s clients)
    (found : s.tailers.lookup block = some node) : node.socket ∈ clients.map Prod.snd := by
  obtain ⟨front, socket, back, rfl, rfl⟩ := registered.of_lookup found
  simp [tailerOf]

/-- One tailer serves a listed socket. -/
theorem Registered.existsUnique_tailer {s : State bufsiz} {clients : Clients} {socket : Nat}
    (registered : Registered s clients) (listed : socket ∈ clients.map Prod.snd) :
    ∃! block, ∃ node, s.tailers.lookup block = some node ∧ node.socket = socket := by
  obtain ⟨client, member, rfl⟩ := List.mem_map.mp listed
  obtain ⟨front, back, rfl⟩ := List.append_of_mem member
  refine ⟨client.1, ⟨_, registered.lookup, rfl⟩, ?_⟩
  rintro block ⟨node, found, same⟩
  obtain ⟨front', socket, back', split, rfl⟩ := registered.of_lookup found
  have other : (block, socket) ∈ front ++ client :: back := by
    rw [split]
    simp
  exact congrArg Prod.fst
    (List.inj_on_of_nodup_map registered.sockets other member same)

/-! ## Callbacks as steps of the plain list -/

theorem Arrives.step {s s' : State bufsiz} {clients : Clients} {block : Nat}
    {connection : Connection} {listed : Bool} {before text : List UInt8}
    (arrives : Arrives s s' (enlist listed (block, s.accepted) clients) connection)
    (settled : Settled before text connection listed) :
    Roster.Step (s.roster clients)
      (s'.roster (enlist listed (block, s.accepted) clients)) := by
  have closes : (s'.roster (enlist listed (block, s.accepted) clients)).closes =
      Function.update (s.roster clients).closes s.accepted connection.closes := by
    funext socket
    simp only [State.roster, arrives.connections, Function.update_apply]
    split <;> rfl
  cases settled with
  | refused =>
      have same : s'.roster (enlist false (block, s.accepted) clients) =
          (s.roster clients).refuse := Roster.ext rfl arrives.accepted closes
      exact same ▸ .refuse
  | cutOff =>
      have same : s'.roster (enlist false (block, s.accepted) clients) =
          (s.roster clients).refuse := Roster.ext rfl arrives.accepted closes
      exact same ▸ .refuse
  | welcomed =>
      have same : s'.roster (enlist true (block, s.accepted) clients) =
          (s.roster clients).register := Roster.ext rfl arrives.accepted closes
      exact same ▸ .register

theorem Departs.roster {s s' : State bufsiz} {front back : Clients} {client : Nat × Nat}
    (registered : Registered s (front ++ client :: back))
    (departs : Departs s s' front back client) :
    s'.roster (front ++ back) =
      (s.roster (front ++ client :: back)).keep ((front ++ back).map Prod.snd) := by
  apply Roster.ext
  · rfl
  · exact departs.frame.accepted
  · funext socket
    by_cases same : socket = client.2
    · subst same
      have listed : client.2 ∈ (s.roster (front ++ client :: back)).listed := by
        simp [State.roster]
      rw [Roster.closes_keep_of_left listed registered.socket_notMem]
      simp only [State.roster, departs.connections, Function.update_self]
    · have others : (s'.roster (front ++ back)).closes socket =
          (s.roster (front ++ client :: back)).closes socket := by
        simp only [State.roster, departs.connections, Function.update_of_ne same]
      rw [others]
      by_cases stays : socket ∈ (front ++ back).map Prod.snd
      · rw [Roster.closes_keep_of_kept stays]
      · have absent : socket ∉ (s.roster (front ++ client :: back)).listed := by
          simp only [State.roster, List.map_append, List.map_cons, List.mem_append,
            List.mem_cons] at stays ⊢
          tauto
        rw [Roster.closes_keep_of_unlisted absent]

theorem Broadcast.roster {s s' : State bufsiz} {clients kept : Clients} {buf : List UInt8}
    (broadcast : Broadcast buf clients kept s.connections s'.connections)
    (sockets : (clients.map Prod.snd).Nodup) (accepted : s'.accepted = s.accepted) :
    s'.roster kept = (s.roster clients).keep (kept.map Prod.snd) := by
  apply Roster.ext
  · rfl
  · exact accepted
  · funext socket
    by_cases listed : socket ∈ clients.map Prod.snd
    · obtain ⟨client, member, rfl⟩ := List.mem_map.mp listed
      rcases broadcast.of_mem sockets member with ⟨stays, same⟩ | ⟨leaves, part, _, same⟩
      · rw [Roster.closes_keep_of_kept (List.mem_map_of_mem stays)]
        simp only [State.roster, same, Connection.sent]
      · rw [Roster.closes_keep_of_left listed leaves]
        simp only [State.roster, same, Connection.cutOff]
    · rw [Roster.closes_keep_of_unlisted listed]
      simp only [State.roster, broadcast.untouched listed]

/-- `sockets_final` empties the plain list. -/
theorem Registered.socketsFinal_roster {s : State bufsiz} {clients : Clients}
    (registered : Registered s clients) :
    ∃ s', Server.socketsFinal s = .ok s' ∧ Registered s' [] ∧
      s'.roster [] = (s.roster clients).keep [] := by
  obtain ⟨tailers, firstTailer, connections, ran, empty, closes⟩ := registered.socketsFinal
  refine ⟨_, ran, empty, Roster.ext rfl rfl ?_⟩
  funext socket
  by_cases listed : socket ∈ clients.map Prod.snd
  · rw [Roster.closes_keep_of_left listed List.not_mem_nil]
    simp only [State.roster, closes, List.count_eq_one_of_mem registered.sockets listed]
  · rw [Roster.closes_keep_of_unlisted listed]
    simp only [State.roster, closes, List.count_eq_zero_of_not_mem listed, Nat.add_zero]

/-! ## Runs -/

/-- The buffer takes the bytes the event brings. -/
def Takes (options : Options) (s : State bufsiz) : Event bufsiz → Prop
  | .stdin (.data bytes) fresh _ =>
      ∃ result, bufferAppend options.buffer s.buffer bytes fresh = .ok result
  | _ => True

theorem takes_of_handle {options : Options} {s s' : State bufsiz} {event : Event bufsiz}
    (ran : handle options s event = .ok s') : Takes options s event := by
  cases event with
  | stdin res fresh answers =>
      cases res with
      | data bytes =>
          rw [handle, stdinCb_data] at ran
          obtain ⟨result, appends, _⟩ := except_bind_ok ran
          exact ⟨result, appends⟩
      | eof => trivial
      | failed errno => trivial
  | unixSock attempts named fresh answers => trivial
  | tailerReadable tailer res => trivial

/-- A server between callbacks, whatever memory there was: its clients are the result
of steps of the plain list, and it can offer a tail to the next one. -/
structure Tending (s : State bufsiz) (clients : Clients) : Prop where
  registered : Registered s clients
  run : Relation.ReflTransGen Roster.Step {} (s.roster clients)
  offers : ∃ front rest, Listed s.buffer front rest ∧ Within s.buffer
  appendable : Appendable s

theorem Tending.sound {s : State bufsiz} {clients : Clients} (tending : Tending s clients) :
    (s.roster clients).Sound := Roster.sound_of_run tending.run

theorem Tending.offered {s : State bufsiz} {clients : Clients} (tending : Tending s clients) :
    ∃ tail, bufferTail s.buffer = .ok tail := by
  obtain ⟨front, rest, listed, within⟩ := tending.offers
  obtain ⟨tail, offers⟩ := bufferTail_total listed within
  exact ⟨tail, offers _ listed rfl⟩

/-- The plain list made this step, if any. -/
def Follow (s : State bufsiz) (clients : Clients) (s' : State bufsiz) : Prop :=
  ∃ clients', Tending s' clients' ∧
    Relation.ReflTransGen Roster.Step (s.roster clients) (s'.roster clients')

theorem Tending.follow {s s' : State bufsiz} {clients clients' : Clients}
    (tending : Tending s clients) (registered : Registered s' clients')
    (steps : Relation.ReflTransGen Roster.Step (s.roster clients) (s'.roster clients'))
    (idle : Idle s s') : Follow s clients s' :=
  ⟨clients', ⟨registered, tending.run.trans steps, idle.buffer ▸ tending.offers,
    tending.appendable.idle idle⟩, steps⟩

theorem Tending.rest {s s' : State bufsiz} {clients : Clients} (tending : Tending s clients)
    (registered : Registered s' clients) (same : s'.roster clients = s.roster clients)
    (idle : Idle s s') : Follow s clients s' :=
  tending.follow registered (same ▸ .refl) idle

theorem Tending.unixSockCb {options : Options} {s : State bufsiz} {clients : Clients}
    {fresh : Allocation Tailer} (tending : Tending s clients)
    (unused : ∀ block node, fresh = some (block, node) → block ∉ s.tailers)
    (attempts : List AcceptAnswer) (named : Bool) :
    Returns (unixSockCb options s attempts named fresh) (Follow s clients) := by
  obtain ⟨tail, offered⟩ := tending.offered
  have new := tending.sound.accepted_notMem
  apply (tending.registered.unixSockCb new offered unused attempts named).mono
  rintro s' (rfl | ⟨block, connection, listed, arrives, settled⟩)
  · exact tending.rest tending.registered rfl ⟨rfl, rfl, rfl, rfl, rfl⟩
  · exact tending.follow arrives.registered (.single (arrives.step settled)) arrives.idle

theorem Tending.tailerReadableCb {s : State bufsiz} {clients : Clients} {tailer : Nat}
    {node : Tailer} (tending : Tending s clients)
    (found : s.tailers.lookup tailer = some node) (res : ReadAnswer) :
    Returns (tailerReadableCb s (some tailer) res) (Follow s clients) := by
  apply (tending.registered.tailerReadableCb found res).mono
  rintro s' (rfl | ⟨front, client, back, rfl, departs⟩)
  · exact tending.rest tending.registered rfl ⟨rfl, rfl, rfl, rfl, rfl⟩
  · have shorter : ((front ++ back).map Prod.snd).Sublist
        (s.roster (front ++ client :: back)).listed :=
      ((List.Sublist.refl front).append (List.sublist_cons_self client back)).map _
    have step := Roster.Step.keep shorter
    rw [← departs.roster tending.registered] at step
    exact tending.follow departs.registered (.single step) departs.frame.idle

theorem Tending.stdinCb {options : Options} {s : State bufsiz} {clients : Clients}
    {bytes : List UInt8} {fresh : Allocation (LineBuffer bufsiz)}
    (tending : Tending s clients) (running : s.broken = false) (nonempty : bytes ≠ [])
    (fits : bytes.length ≤ bufsiz) (sound : Allocates s.buffer fresh)
    (takes : ∃ result, bufferAppend options.buffer s.buffer bytes fresh = .ok result) :
    Returns (stdinCb options s (.data bytes) fresh) (Follow s clients) := by
  obtain ⟨⟨continues, buffer⟩, appends⟩ := takes
  obtain ⟨spare, front, rest, linked⟩ := tending.appendable running
  obtain ⟨front', rest', _, _, shaped, within, _⟩ :=
    linked.append_returns nonempty fits sound appends
  have offers : ∃ front rest, Listed buffer front rest ∧ Within buffer :=
    ⟨front', rest', shaped.listed, within⟩
  apply (tending.registered.stdinCb linked nonempty fits sound appends).mono
  intro s' hands
  cases hands with
  | refused same =>
      subst same
      refine ⟨clients, ⟨tending.registered.frame rfl rfl, tending.run, offers, ?_⟩, .refl⟩
      intro ended
      cases ended
  | @forwarded _ _ kept frame registered broadcast =>
      have fewer : (kept.map Prod.snd).Sublist (s.roster clients).listed :=
        broadcast.sublist.map Prod.snd
      have step := Roster.Step.keep fewer
      have same := broadcast.roster tending.registered.sockets frame.accepted
      have steps : Relation.ReflTransGen Roster.Step (s.roster clients) (s'.roster kept) :=
        .single (same ▸ step)
      cases shaped with
      | spare linked' =>
          refine ⟨kept, ⟨registered, tending.run.trans steps, ?_, ?_⟩, steps⟩
          · rw [frame.buffer]
            exact offers
          · intro _
            rw [frame.buffer]
            exact ⟨_, _, _, linked'⟩

theorem Tending.handle {options : Options} {s : State bufsiz} {clients : Clients}
    {event : Event bufsiz} (tending : Tending s clients) (possible : Possible s event)
    (takes : Takes options s event) : Returns (handle options s event) (Follow s clients) := by
  have prepared : ∀ answers, Tending { s with answers } clients := fun answers =>
    ⟨tending.registered.frame rfl rfl, tending.run, tending.offers, tending.appendable⟩
  have broken : ∀ answers, Follow s clients { s with answers, broken := true } := fun answers =>
    ⟨clients, ⟨tending.registered.frame rfl rfl, tending.run, tending.offers,
      fun ended => nomatch ended⟩, .refl⟩
  cases event with
  | stdin res fresh answers =>
      obtain ⟨_, running, sound, sized⟩ := possible
      cases res with
      | data bytes =>
          obtain ⟨nonempty, fits⟩ := sized bytes rfl
          exact (prepared answers).stdinCb running nonempty fits sound takes
      | eof => exact broken answers
      | failed errno =>
          simp only [Server.handle, Server.stdinCb]
          split
          · exact ⟨clients, prepared answers, .refl⟩
          · exact broken answers
  | unixSock attempts named fresh answers =>
      exact (prepared answers).unixSockCb possible.2 attempts named
  | tailerReadable tailer res =>
      obtain ⟨⟨node, found, _⟩, _⟩ := possible
      exact tending.tailerReadableCb found res

theorem Started.tending {options : Options} {first append : Nat × LineBuffer bufsiz}
    {s : State bufsiz} (started : Started options first append s) : Tending s [] := by
  have listed := started.supplied.linked.toListed
  refine ⟨started.registered, ?_, ?_, ?_⟩
  · have empty : s.roster [] = {} := by
      refine Roster.ext rfl started.accepted ?_
      funext socket
      exact congrArg Connection.closes (started.connections socket)
    exact empty ▸ .refl
  · rw [started.buffer]
    exact ⟨_, _, listed, _, listed.load_tail, Nat.zero_le _⟩
  · intro _
    rw [started.buffer]
    exact ⟨_, _, _, started.supplied.linked⟩

theorem Reachable.tending {options : Options} {append : Nat × LineBuffer bufsiz}
    {allowed : Event bufsiz → Prop} {s : State bufsiz}
    (reachable : Reachable options append allowed s) : ∃ clients, Tending s clients := by
  induction reachable with
  | start first opened fresh fresh' ran =>
      exact ⟨[], (started_of_initAll fresh fresh' ran).tending⟩
  | step event _ possible _ ran tending =>
      obtain ⟨clients, tending⟩ := tending
      obtain ⟨clients', tending', _⟩ :=
        (tending.handle possible (takes_of_handle ran)).of_ok ran
      exact ⟨clients', tending'⟩

/-- The tailers are exactly a plain list of connections. -/
structure RefinesRoster (options : Options) (s : State bufsiz) (roster : Roster) : Prop where
  represents : Represents s roster
  run : Relation.ReflTransGen Roster.Step {} roster
  nodup : roster.listed.Nodup
  inverse : ∀ block block' node node', s.tailers.lookup block = some node →
    s.tailers.lookup block' = some node' → (node.next = some block' ↔ node'.prev = some block)
  /-- An accepted socket is served by one tailer or was closed once. -/
  owned : ∀ socket < s.accepted,
    (∃! block, ∃ node, s.tailers.lookup block = some node ∧ node.socket = socket) ∧
        (s.connections socket).closes = 0 ∨
      (¬ ∃ block node, s.tailers.lookup block = some node ∧ node.socket = socket) ∧
        (s.connections socket).closes = 1
  /-- No callback touches a tailer that was freed. -/
  callbacks : ∀ event, Possible s event → Takes options s event →
    Returns (handle options s event) fun s' => ∃ roster', Represents s' roster' ∧
      Relation.ReflTransGen Roster.Step roster roster'
  /-- A broadcast is one write of everything to each connection in list order, and
  keeps those whose write was complete. -/
  broadcasts : ∀ buf answers, Lockstep
    (fun s' result => result.1.map Prod.fst = roster.listed ∧
      Represents s' (roster.keep (completed buf result.1)) ∧
      ∀ call ∈ result.1, (s'.connections call.1).received =
        (s.connections call.1).received ++ call.2.delivered)
    (socketsWriteBlocking options { s with answers } buf)
    (writeEach options buf roster.listed answers)
  final : ∃ s', socketsFinal s = .ok s' ∧ s'.tailers = ∅ ∧ s'.firstTailer = none ∧
    Represents s' (roster.keep []) ∧
    ∀ socket < s.accepted, (s'.connections socket).closes = 1

theorem Tending.refinesRoster {options : Options} {s : State bufsiz} {clients : Clients}
    (tending : Tending s clients) : RefinesRoster options s (s.roster clients) := by
  have registered := tending.registered
  have sound := tending.sound
  refine ⟨⟨clients, registered, rfl⟩, tending.run, registered.sockets, ?_, ?_, ?_, ?_, ?_⟩
  · exact fun _ _ _ _ found found' => registered.next_iff_prev found found'
  · intro socket known
    by_cases listed : socket ∈ clients.map Prod.snd
    · exact .inl ⟨registered.existsUnique_tailer listed, sound.opened socket listed⟩
    · refine .inr ⟨?_, sound.closed socket known listed⟩
      rintro ⟨block, node, found, rfl⟩
      exact listed (registered.socket_mem found)
  · intro event possible takes
    apply (tending.handle possible takes).mono
    rintro s' ⟨clients', tending', steps⟩
    exact ⟨_, ⟨clients', tending'.registered, rfl⟩, steps⟩
  · intro buf answers
    have prepared : Registered { s with answers } clients := registered.frame rfl rfl
    apply (prepared.socketsWriteBlocking buf).mono
    rintro s' result ⟨frame, kept, registered', wrote⟩
    refine ⟨wrote.sockets, ⟨kept, registered', ?_⟩, wrote.delivered⟩
    rw [← wrote.complete]
    exact wrote.broadcast.roster registered.sockets frame.accepted
  · obtain ⟨s', ran, empty, same⟩ := registered.socketsFinal_roster
    refine ⟨s', ran, heap_eq_empty empty.owned, empty.first, ⟨[], empty, same⟩, ?_⟩
    have ended : ((s.roster clients).keep []).Sound := sound.keep (List.nil_sublist _)
    intro socket known
    have closes : (s'.connections socket).closes = ((s.roster clients).keep []).closes socket :=
      congrArg (Roster.closes · socket) same
    rw [closes]
    exact ended.closed socket known List.not_mem_nil

/-- After any callbacks in any order, and with any memory, the hand-made links are a
plain list. -/
theorem refinesRoster_of_reachable (options : Options) (append : Nat × LineBuffer bufsiz)
    (allowed : Event bufsiz → Prop) (s : State bufsiz)
    (reachable : Reachable options append allowed s) :
    ∃ roster, RefinesRoster options s roster := by
  obtain ⟨clients, tending⟩ := reachable.tending
  exact ⟨_, tending.refinesRoster⟩

theorem refinesRoster_of_sampleRun :
    ∃ roster, RefinesRoster sampleOptions (sampleRun sampleEvents) roster :=
  refinesRoster_of_reachable sampleOptions sampleExecution.append Granted
    (sampleRun sampleEvents) sampleRun_reachable

example : (sampleRun sampleEvents).tailers.keys = [1, 2] := by decide

end Tailserver.Server
