import Tailserver.Server.Streams

/-! What a callback adds to the record of a connection. Nothing of it is ever taken
back, and only its own socket ends it. -/

set_option autoImplicit false

namespace Tailserver.Server

open CMemory Buffer

variable {bufsiz : Nat}

/-- A later record of the same connection. -/
structure Grows (connection connection' : Connection) : Prop where
  before : connection'.before = connection.before
  received : connection.received <+: connection'.received
  registered : connection'.registered = connection.registered
  cut : connection.cut = true → connection'.cut = true
  hungUp : connection'.hungUp = connection.hungUp
  closes : connection.closes ≤ connection'.closes

theorem Grows.refl (connection : Connection) : Grows connection connection :=
  ⟨rfl, List.prefix_refl _, rfl, id, rfl, Nat.le_refl _⟩

theorem Grows.trans {connection connection' connection'' : Connection}
    (first : Grows connection connection') (next : Grows connection' connection'') :
    Grows connection connection'' where
  before := next.before.trans first.before
  received := first.received.trans next.received
  registered := next.registered.trans first.registered
  cut := next.cut ∘ first.cut
  hungUp := next.hungUp.trans first.hungUp
  closes := Nat.le_trans first.closes next.closes

structure Grown (s s' : State bufsiz) : Prop where
  accepted : s'.accepted = s.accepted
  grows : ∀ socket, Grows (s.connections socket) (s'.connections socket)

theorem Grown.of_connections {s s' : State bufsiz} (accepted : s'.accepted = s.accepted)
    (same : s'.connections = s.connections) : Grown s s' := by
  refine ⟨accepted, fun socket => ?_⟩
  rw [same]
  exact .refl _

theorem Grown.trans {s s' s'' : State bufsiz} (first : Grown s s') (next : Grown s' s'') :
    Grown s s'' :=
  ⟨next.accepted.trans first.accepted, fun socket => (first.grows socket).trans (next.grows socket)⟩

theorem Grown.note (s : State bufsiz) (socket : Nat) {update : Connection → Connection}
    (grows : ∀ connection, Grows connection (update connection)) :
    Grown s (s.note socket update) := by
  refine ⟨rfl, fun other => ?_⟩
  by_cases same : other = socket
  · subst same
    rw [State.note_self]
    exact grows _
  · rw [State.note_of_ne s same]
    exact .refl _

theorem Grown.tolerates : Tolerates (@Grown bufsiz) where
  refl s := .of_connections rfl rfl
  trans := .trans
  tailers s tailers firstTailer := .of_connections rfl rfl
  close s socket := .note s socket fun connection =>
    ⟨rfl, List.prefix_refl _, rfl, id, rfl, Nat.le_succ _⟩
  wrote s answers socket delivered short := by
    have answered : Grown s { s with answers } := .of_connections rfl rfl
    refine answered.trans (.note _ socket fun connection => ?_)
    exact ⟨rfl, List.prefix_append _ _, rfl, fun cut => by simp [cut], rfl, Nat.le_refl _⟩

/-! ## Callbacks -/

theorem stdinCb_grown {options : Options} {s s' : State bufsiz} {res : ReadAnswer}
    {fresh : Allocation (LineBuffer bufsiz)} (ran : stdinCb options s res fresh = .ok s') :
    Grown s s' := by
  cases res with
  | data bytes =>
      rw [stdinCb_data] at ran
      obtain ⟨⟨continues, buffer⟩, _, ran⟩ := except_bind_ok ran
      cases continues with
      | false =>
          cases ran
          exact .of_connections rfl rfl
      | true =>
          obtain ⟨node, _, ran⟩ := except_bind_ok ran
          obtain ⟨chunk, _, ran⟩ := except_bind_ok ran
          obtain ⟨s₁, writes, ran⟩ := except_bind_ok ran
          obtain ⟨answers, broken, rfl⟩ :=
            (stdoutWriteBlockingOrBreak_returns _ chunk).of_ok writes
          have written := Grown.tolerates.writeToTailers ran
          exact ⟨written.accepted, written.grows⟩
  | eof =>
      cases ran
      exact .of_connections rfl rfl
  | failed errno =>
      dsimp only [stdinCb] at ran
      split at ran
      · cases ran
        exact .of_connections rfl rfl
      · cases ran
        exact .of_connections rfl rfl

/-- The callback finds that the client of this connection wrote something or left. -/
def Notices (s : State bufsiz) (socket : Nat) : Event bufsiz → Prop
  | .stdin _ _ _ => False
  | .unixSock _ _ _ _ => False
  | .tailerReadable tailer res =>
      (∃ node, s.tailers.lookup tailer = some node ∧ node.socket = socket) ∧
        ∀ errno, res = .failed errno → isErrnoRetryFriendly errno = false

/-- Either nothing happens, or the connection of the tailer is hung up. -/
theorem tailerReadableCb_grown {s s' : State bufsiz} {tailer : Nat} {node : Tailer}
    {res : ReadAnswer} (found : s.tailers.lookup tailer = some node)
    (ran : tailerReadableCb s (some tailer) res = .ok s') :
    s' = s ∧ ¬ Notices s node.socket (.tailerReadable tailer res) ∨
      Notices s node.socket (.tailerReadable tailer res) ∧
      Grown (s.note node.socket fun connection => { connection with hungUp := true }) s' := by
  simp only [tailerReadableCb, load_of_lookup found, except_ok_bind] at ran
  cases res with
  | data bytes =>
      exact .inr ⟨⟨⟨node, found, rfl⟩, by simp⟩, Grown.tolerates.tailerFinal ran⟩
  | eof => exact .inr ⟨⟨⟨node, found, rfl⟩, by simp⟩, Grown.tolerates.tailerFinal ran⟩
  | failed errno =>
      dsimp only at ran
      split at ran
      · next friendly =>
        cases ran
        refine .inl ⟨rfl, fun notices => ?_⟩
        rw [notices.2 errno rfl] at friendly
        cases friendly
      · next final =>
        refine .inr ⟨⟨⟨node, found, rfl⟩, ?_⟩, Grown.tolerates.tailerFinal ran⟩
        intro other same
        cases same
        exact Bool.eq_false_iff.mpr final

/-- The next connection is opened, and later ones are as they were. -/
structure Opens (s s' : State bufsiz) : Prop where
  accepted : s'.accepted = s.accepted + 1
  before : (s'.connections s.accepted).before = s.stdinRead
  hungUp : (s'.connections s.accepted).hungUp = false
  others : ∀ socket, socket ≠ s.accepted → Grows (s.connections socket) (s'.connections socket)

theorem Opens.note {s s' : State bufsiz} (opens : Opens s s')
    {update : Connection → Connection}
    (kept : ∀ connection, (update connection).before = connection.before ∧
      (update connection).hungUp = connection.hungUp) :
    Opens s (s'.note s.accepted update) where
  accepted := opens.accepted
  before := by
    rw [State.note_self, (kept _).1]
    exact opens.before
  hungUp := by
    rw [State.note_self, (kept _).2]
    exact opens.hungUp
  others := by
    intro socket different
    rw [State.note_of_ne s' different]
    exact opens.others socket different

theorem Opens.grown {s s' s'' : State bufsiz} (opens : Opens s s') (grown : Grown s' s'') :
    Opens s s'' where
  accepted := grown.accepted.trans opens.accepted
  before := (grown.grows s.accepted).before.trans opens.before
  hungUp := (grown.grows s.accepted).hungUp.trans opens.hungUp
  others socket different := (opens.others socket different).trans (grown.grows socket)

theorem unixSockCb_opens {options : Options} {s s' : State bufsiz}
    {attempts : List AcceptAnswer} {named : Bool} {fresh : Allocation Tailer}
    (ran : unixSockCb options s attempts named fresh = .ok s') : s' = s ∨ Opens s s' := by
  obtain ⟨connected, _, ran⟩ := except_bind_ok ran
  cases connected with
  | false =>
      cases ran
      exact .inl rfl
  | true =>
      right
      have opened : Opens s ({ s with accepted := s.accepted + 1 }.note s.accepted
          fun _ => { before := s.stdinRead }) := by
        refine ⟨rfl, by simp, by simp, fun socket different => ?_⟩
        rw [State.note_of_ne _ different]
        exact .refl _
      simp only [Bool.not_true, Bool.false_eq_true, if_false] at ran
      split at ran
      · cases ran
        exact opened.note fun _ => ⟨rfl, rfl⟩
      · obtain ⟨⟨tailer, s₁⟩, inits, ran⟩ := except_bind_ok ran
        have made : Opens s s₁ := by
          rcases Grown.tolerates.tailerInit inits with ⟨_, grown⟩ | ⟨s₂, grown, rfl⟩
          · exact opened.grown grown
          · exact (opened.grown grown).note fun _ => ⟨rfl, rfl⟩
        dsimp only at ran
        split at ran
        · cases ran
          exact made.note fun _ => ⟨rfl, rfl⟩
        · obtain ⟨s₂, sends, returned⟩ := except_bind_ok ran
          cases returned
          have sent := made.grown (Grown.tolerates.tailerSendBufferedTail sends)
          unfold pipesOnNewClient
          split
          · exact sent.grown (.of_connections rfl rfl)
          · exact sent

/-- No callback accepts more than one connection, and none changes the record of an
earlier one otherwise than by adding to it. -/
theorem handle_grows {options : Options} {s s' : State bufsiz} {event : Event bufsiz}
    (possible : Possible s event) (ran : handle options s event = .ok s') :
    (s'.accepted = s.accepted ∨ Opens s s') ∧
      ∀ socket < s.accepted, ∃ hungUp,
        (hungUp = (s.connections socket).hungUp ∨ Notices s socket event) ∧
          Grows { s.connections socket with hungUp } (s'.connections socket) := by
  cases event with
  | stdin res fresh answers =>
      have grown : Grown { s with answers } s' := stdinCb_grown ran
      exact ⟨.inl grown.accepted, fun socket _ => ⟨_, .inl rfl, grown.grows socket⟩⟩
  | unixSock attempts named fresh answers =>
      rcases unixSockCb_opens ran with rfl | opens
      · exact ⟨.inl rfl, fun socket _ => ⟨_, .inl rfl, .refl _⟩⟩
      · refine ⟨.inr ⟨opens.accepted, opens.before, opens.hungUp, opens.others⟩, ?_⟩
        intro socket known
        exact ⟨_, .inl rfl, opens.others socket (Nat.ne_of_lt known)⟩
  | tailerReadable tailer res =>
      obtain ⟨⟨node, found, _⟩, _⟩ := possible
      have ran' : Server.tailerReadableCb s (some tailer) res = .ok s' := ran
      rcases tailerReadableCb_grown found ran' with ⟨rfl, _⟩ | ⟨notices, grown⟩
      · exact ⟨.inl rfl, fun socket _ => ⟨_, .inl rfl, .refl _⟩⟩
      · refine ⟨.inl grown.accepted, fun socket _ => ?_⟩
        have grows := grown.grows socket
        by_cases same : socket = node.socket
        · subst same
          rw [State.note_self] at grows
          exact ⟨true, .inr notices, grows⟩
        · rw [State.note_of_ne s same] at grows
          exact ⟨_, .inl rfl, grows⟩

/-! ## The order of `accept` -/

/-- Who is accepted later finds more bytes read. -/
structure InOrder (s : State bufsiz) : Prop where
  read : ∀ socket < s.accepted, (s.connections socket).before <+: s.stdinRead
  ordered : ∀ socket later, socket ≤ later → later < s.accepted →
    (s.connections socket).before <+: (s.connections later).before

theorem InOrder.of_none {s : State bufsiz} (accepted : s.accepted = 0) : InOrder s := by
  have none : ∀ socket, ¬ socket < s.accepted := by
    intro socket lt
    rw [accepted] at lt
    cases lt
  exact ⟨fun socket lt => absurd lt (none socket), fun _ later _ lt => absurd lt (none later)⟩

theorem InOrder.of_before {s s' : State bufsiz} (inOrder : InOrder s)
    (accepted : s'.accepted = s.accepted)
    (before : ∀ socket < s.accepted,
      (s'.connections socket).before = (s.connections socket).before)
    (read : ∀ socket < s'.accepted, (s'.connections socket).before <+: s'.stdinRead) :
    InOrder s' := by
  refine ⟨read, ?_⟩
  intro socket later le lt
  rw [accepted] at lt
  rw [before later lt, before socket (Nat.lt_of_le_of_lt le lt)]
  exact inOrder.ordered socket later le lt

theorem InOrder.opens {s s' : State bufsiz} (inOrder : InOrder s) (opens : Opens s s')
    (read : ∀ socket < s'.accepted, (s'.connections socket).before <+: s'.stdinRead) :
    InOrder s' := by
  have before : ∀ socket < s.accepted,
      (s'.connections socket).before = (s.connections socket).before :=
    fun socket lt => (opens.others socket (Nat.ne_of_lt lt)).before
  refine ⟨read, ?_⟩
  intro socket later le lt
  rw [opens.accepted] at lt
  rcases Nat.lt_succ_iff_lt_or_eq.mp lt with old | rfl
  · rw [before later old, before socket (Nat.lt_of_le_of_lt le old)]
    exact inOrder.ordered socket later le old
  · rcases Nat.lt_or_eq_of_le le with old | rfl
    · rw [before socket old, opens.before]
      exact inOrder.read socket old
    · exact List.prefix_refl _

theorem InOrder.handle {options : Options} {s s' : State bufsiz} {clients : Clients}
    {event : Event bufsiz} (inOrder : InOrder s) (serving : Serving options s clients)
    (possible : Possible s event) (granted : Granted event)
    (ran : handle options s event = .ok s') : InOrder s' := by
  obtain ⟨clients', serves⟩ := (serving.handle possible granted).of_ok ran
  have read : ∀ socket < s'.accepted, (s'.connections socket).before <+: s'.stdinRead :=
    fun socket lt => (serves.follows socket lt).before
  obtain ⟨same | opens, grows⟩ := handle_grows possible ran
  · refine inOrder.of_before same ?_ read
    intro socket lt
    obtain ⟨_, _, grows⟩ := grows socket lt
    exact grows.before
  · exact inOrder.opens opens read

theorem InOrder.socketsFinal {s s' : State bufsiz} {clients : Clients} (inOrder : InOrder s)
    (registered : Registered s clients) (ran : socketsFinal s = .ok s') : InOrder s' := by
  obtain ⟨tailers, firstTailer, connections, ran', _, closes⟩ := registered.socketsFinal
  rw [ran] at ran'
  cases ran'
  have before : ∀ socket, (connections socket).before = (s.connections socket).before := by
    intro socket
    rw [closes]
  refine inOrder.of_before rfl (fun socket _ => before socket) ?_
  intro socket lt
  rw [before socket]
  exact inOrder.read socket lt

/-! ## Connections off the list -/

/-- A callback leaves the connections of those who are not on the list alone. -/
theorem Serving.untouched {options : Options} {s s' : State bufsiz} {clients : Clients}
    {event : Event bufsiz} (serving : Serving options s clients) (possible : Possible s event)
    (granted : Granted event) (ran : Server.handle options s event = .ok s') {socket : Nat}
    (known : socket < s.accepted) (unlisted : socket ∉ clients.map Prod.snd) :
    s'.connections socket = s.connections socket := by
  cases event with
  | stdin res fresh answers =>
      obtain ⟨_, _, sound, sized⟩ := possible
      cases res with
      | data bytes =>
          obtain ⟨nonempty, fits⟩ := sized bytes rfl
          obtain ⟨buffer, appends, _⟩ := serving.ready.append_granted fits granted sound
          obtain ⟨_, _, _, _, linked, _⟩ := serving.ready
          have prepared : Registered { s with answers } clients := serving.registered.frame rfl rfl
          rcases (prepared.stdinCb linked nonempty fits sound appends).of_ok ran with
            _ | ⟨_, _, broadcast⟩
          exact broadcast.untouched unlisted
      | eof =>
          cases ran
          rfl
      | failed errno =>
          simp only [Server.handle, Server.stdinCb] at ran
          split at ran <;> cases ran <;> rfl
  | unixSock attempts named fresh answers =>
      have new : s.accepted ∉ clients.map Prod.snd := fun member =>
        Nat.lt_irrefl _ (serving.known_socket member)
      have prepared : Registered { s with answers } clients := serving.registered.frame rfl rfl
      rcases (prepared.unixSockCb new serving.ready.bufferTail possible.2 attempts named).of_ok ran
        with rfl | ⟨_, _, _, arrives, _⟩
      · rfl
      · rw [arrives.connections]
        exact Function.update_of_ne (Nat.ne_of_lt known) ..
  | tailerReadable tailer res =>
      obtain ⟨⟨node, found, _⟩, _⟩ := possible
      rcases (serving.registered.tailerReadableCb found res).of_ok ran with
        rfl | ⟨front, client, back, rfl, departs⟩
      · rfl
      · rw [departs.connections]
        refine Function.update_of_ne ?_ ..
        rintro rfl
        exact unlisted (List.mem_map_of_mem (by simp))

/-- What was not registered was closed at once, and nothing was sent on it. -/
def Refuses (s : State bufsiz) : Prop :=
  ∀ socket < s.accepted, (s.connections socket).registered = false →
    (s.connections socket).received = [] ∧ 0 < (s.connections socket).closes

/-- A new connection is registered, or closed unused. -/
theorem Serving.refused {options : Options} {s s' : State bufsiz} {clients : Clients}
    {event : Event bufsiz} (serving : Serving options s clients) (possible : Possible s event)
    (ran : Server.handle options s event = .ok s') (opens : Opens s s')
    (unregistered : (s'.connections s.accepted).registered = false) :
    (s'.connections s.accepted).received = [] ∧ 0 < (s'.connections s.accepted).closes := by
  have more : s'.accepted ≠ s.accepted := by
    rw [opens.accepted]
    exact Nat.succ_ne_self _
  cases event with
  | stdin res fresh answers =>
      have grown : Grown { s with answers } s' := stdinCb_grown ran
      exact absurd grown.accepted more
  | unixSock attempts named fresh answers =>
      have new : s.accepted ∉ clients.map Prod.snd := fun member =>
        Nat.lt_irrefl _ (serving.known_socket member)
      have prepared : Registered { s with answers } clients := serving.registered.frame rfl rfl
      rcases (prepared.unixSockCb new serving.ready.bufferTail possible.2 attempts named).of_ok ran
        with rfl | ⟨_, _, _, arrives, settled⟩
      · exact absurd rfl more
      · rw [arrives.connections, Function.update_self] at unregistered ⊢
        cases settled with
        | refused => exact ⟨rfl, Nat.one_pos⟩
        | welcomed => cases unregistered
        | cutOff => cases unregistered
  | tailerReadable tailer res =>
      obtain ⟨⟨node, found, _⟩, _⟩ := possible
      rcases (serving.registered.tailerReadableCb found res).of_ok ran with
        rfl | ⟨_, _, _, _, departs⟩
      · exact absurd rfl more
      · exact absurd departs.frame.accepted more

theorem Refuses.handle {options : Options} {s s' : State bufsiz} {clients : Clients}
    {event : Event bufsiz} (refuses : Refuses s) (serving : Serving options s clients)
    (possible : Possible s event) (granted : Granted event)
    (ran : Server.handle options s event = .ok s') : Refuses s' := by
  obtain ⟨next, grows⟩ := handle_grows possible ran
  have old : ∀ socket < s.accepted, (s'.connections socket).registered = false →
      (s'.connections socket).received = [] ∧ 0 < (s'.connections socket).closes := by
    intro socket known unregistered
    obtain ⟨_, _, grown⟩ := grows socket known
    have before := refuses socket known (grown.registered.symm.trans unregistered)
    have unlisted : socket ∉ clients.map Prod.snd := fun listed =>
      Nat.ne_of_gt before.2 ((serving.follows socket known).opened listed)
    rw [serving.untouched possible granted ran known unlisted]
    exact before
  intro socket known unregistered
  rcases next with same | opens
  · exact old socket (same ▸ known) unregistered
  · rw [opens.accepted] at known
    rcases Nat.lt_succ_iff_lt_or_eq.mp known with before | rfl
    · exact old socket before unregistered
    · exact serving.refused possible ran opens unregistered

end Tailserver.Server
