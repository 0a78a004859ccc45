import Tailserver.Server.Streams

/-! The server when it runs out of memory. `stdin_cb` ends the loop before it hands on what it
has read, and callbacks of the same round still run. What a client has received is a
beginning of its stream all the same. -/

set_option autoImplicit false

namespace Tailserver.Server

open CMemory Buffer

variable {bufsiz : Nat} {options : Options} {s s' : State bufsiz} {clients : Clients}

/-! ## The buffer -/

/-- What can be read of a buffer, also when its last append has failed. -/
structure Offers (config : Config) (buffer : Buffer.State bufsiz) (text : List UInt8) :
    Prop where
  tail : bufferTail buffer = .ok (requiredTail config text)
  size : (bufferTailSize buffer).toNat = (requiredTail config text).length
  small : ((requiredTail config text).length : Int) < Word.signedMax

section Buffer

variable {config : Config} {buffer : Buffer.State bufsiz} {text : List UInt8}

theorem offers_of_ready (ready : Ready config buffer text) : Offers config buffer text :=
  ⟨ready.bufferTail, ready.bufferTailSize, ready.length_requiredTail_lt⟩

theorem offers_of_exhausted (exhausted : Exhausted config buffer text) :
    Offers config buffer text := by
  obtain ⟨_, front, tail, back, spareless, holds⟩ := exhausted
  have listed := spareless.toListed
  refine ⟨holds.bufferTail listed, holds.bufferTailSize listed, ?_⟩
  have bounded := listed.length_text_lt
  rw [holds.keeps.requiredTail_eq, List.length_drop]
  simp only [addressSpace] at bounded
  simp only [Word.signedMax]
  omega

end Buffer

/-! ## The clients -/

/-- What was read so far begins with what was read before, and what was received is a
beginning of what is due. -/
structure Lags (options : Options) (read : List UInt8) (connection : Connection) : Prop where
  before : connection.before <+: read
  received : connection.received <+: stream options read connection

theorem Follows.lags {read : List UInt8} {connection : Connection} {listed : Prop}
    (follows : Follows options read connection listed) : Lags options read connection :=
  ⟨follows.before, follows.received⟩

theorem Lags.append {read : List UInt8} {connection : Connection}
    (lags : Lags options read connection) (bytes : List UInt8) :
    Lags options (read ++ bytes) connection where
  before := lags.before.trans (List.prefix_append _ _)
  received := by
    rw [stream_append lags.before]
    exact lags.received.trans (List.prefix_append _ _)

/-- A server between callbacks, whatever failed. Before its loop ends it serves everybody. -/
structure Standing (options : Options) (s : State bufsiz) (clients : Clients) : Prop where
  registered : Registered s clients
  offers : Offers options.buffer s.buffer s.stdinRead
  known : ∀ client ∈ clients, client.2 < s.accepted
  lags : ∀ socket < s.accepted, Lags options s.stdinRead (s.connections socket)
  serving : s.broken = false → Serving options s clients

theorem Serving.standing (serving : Serving options s clients) : Standing options s clients :=
  ⟨serving.registered, offers_of_ready serving.ready, serving.known,
    fun socket known => (serving.follows socket known).lags, fun _ => serving⟩

theorem Standing.answers (standing : Standing options s clients) (answers : List WriteAnswer) :
    Standing options { s with answers } clients := by
  refine ⟨standing.registered.frame rfl rfl, standing.offers, standing.known, standing.lags, ?_⟩
  intro running
  have serving := standing.serving running
  exact ⟨serving.registered.frame rfl rfl, serving.ready, serving.known, serving.follows⟩

/-! ## Standard input -/

/-- What was handed on reaches every client that stays. -/
theorem Serving.handsOn {bytes : List UInt8} {buffer : Buffer.State bufsiz}
    (serving : Serving options s clients)
    (ready : Ready options.buffer buffer (s.stdinRead ++ bytes))
    (handsOn : HandsOn s s' buffer clients bytes true) :
    ∃ kept, Serving options s' kept := by
  cases handsOn with
  | forwarded frame registered broadcast =>
      refine ⟨_, registered, ?_, ?_, ?_⟩
      · rw [frame.buffer, frame.stdinRead]
        exact ready
      · intro client member
        rw [frame.accepted]
        exact serving.known client (broadcast.sublist.subset member)
      · intro socket known
        rw [frame.accepted] at known
        rw [frame.stdinRead]
        exact broadcast.follows serving.registered.sockets (serving.follows socket known)

/-- Nobody gets what the buffer has no room for. -/
theorem Serving.starve {bytes : List UInt8} {buffer : Buffer.State bufsiz}
    (serving : Serving options s clients)
    (exhausted : Exhausted options.buffer buffer (s.stdinRead ++ bytes)) :
    Standing options { s with buffer, stdinRead := s.stdinRead ++ bytes, broken := true }
      clients := by
  refine ⟨serving.registered.frame rfl rfl, offers_of_exhausted exhausted, serving.known, ?_, ?_⟩
  · exact fun socket known => (serving.follows socket known).lags.append bytes
  · intro running
    cases running

theorem Serving.read {bytes : List UInt8} {fresh : Allocation (LineBuffer bufsiz)}
    (serving : Serving options s clients) (nonempty : bytes ≠ [])
    (fits : bytes.length ≤ bufsiz) (sound : Allocates s.buffer fresh) :
    Returns (Server.stdinCb options s (.data bytes) fresh) fun s' =>
      ∃ kept, Standing options s' kept := by
  have appends := serving.ready.append nonempty fits sound
  obtain ⟨_, _, _, _, linked, _⟩ := serving.ready
  cases ran : bufferAppend options.buffer s.buffer bytes fresh with
  | error fault =>
      rw [ran] at appends
      cases appends
  | ok result =>
      rw [ran] at appends
      have hands := fun continues buffer (same : result = (continues, buffer)) =>
        serving.registered.stdinCb linked nonempty fits sound (ran.trans (congrArg _ same))
      cases appends with
      | exhausted missing exhausted =>
          apply (hands _ _ rfl).mono
          rintro s' ⟨rfl⟩
          exact ⟨clients, serving.starve exhausted⟩
      | ready ready =>
          apply (hands _ _ rfl).mono
          intro s' handsOn
          obtain ⟨kept, serves⟩ := serving.handsOn ready handsOn
          exact ⟨kept, serves.standing⟩

/-! ## Callbacks after the end of the loop -/

theorem Standing.depart {tailer : Nat} {node : Tailer} (standing : Standing options s clients)
    (ended : s.broken = true) (found : s.tailers.lookup tailer = some node) (res : ReadAnswer) :
    Returns (tailerReadableCb s (some tailer) res) fun s' =>
      ∃ kept, Standing options s' kept := by
  apply (standing.registered.tailerReadableCb found res).mono
  rintro s' (rfl | ⟨front, client, back, rfl, departs⟩)
  · exact ⟨clients, standing⟩
  have frame := departs.frame
  refine ⟨front ++ back, departs.registered, ?_, ?_, ?_, ?_⟩
  · rw [frame.buffer, frame.stdinRead]
    exact standing.offers
  · intro other member
    rw [frame.accepted]
    apply standing.known other
    simp only [List.mem_append, List.mem_cons] at member ⊢
    rcases member with member | member
    · exact .inl member
    · exact .inr (.inr member)
  · intro socket known
    rw [frame.accepted] at known
    have lags := standing.lags socket known
    rw [frame.stdinRead, departs.connections]
    by_cases same : socket = client.2
    · subst same
      rw [Function.update_self]
      exact ⟨lags.before, lags.received⟩
    · rw [Function.update_of_ne same]
      exact lags
  · intro running
    rw [frame.broken, ended] at running
    cases running

theorem Standing.arrive {fresh : Allocation Tailer} (standing : Standing options s clients)
    (ended : s.broken = true)
    (unused : ∀ block node, fresh = some (block, node) → block ∉ s.tailers)
    (attempts : List AcceptAnswer) (named : Bool) :
    Returns (unixSockCb options s attempts named fresh) fun s' =>
      ∃ clients', Standing options s' clients' := by
  have new : s.accepted ∉ clients.map Prod.snd := by
    intro member
    obtain ⟨client, found, same⟩ := List.mem_map.mp member
    exact Nat.lt_irrefl _ (same ▸ standing.known client found)
  apply (standing.registered.unixSockCb new standing.offers.tail unused attempts named).mono
  rintro s' (rfl | ⟨block, connection, listed, arrives, settled⟩)
  · exact ⟨clients, standing⟩
  have idle := arrives.idle
  refine ⟨_, arrives.registered, ?_, ?_, ?_, ?_⟩
  · rw [idle.buffer, idle.stdinRead]
    exact standing.offers
  · intro client member
    rw [arrives.accepted, Nat.lt_succ_iff]
    rcases mem_enlist.mp member with ⟨_, rfl⟩ | member
    · exact Nat.le_refl _
    · exact Nat.le_of_lt (standing.known client member)
  · intro socket lt
    rw [arrives.accepted] at lt
    rw [idle.stdinRead, arrives.connections]
    rcases Nat.lt_succ_iff_lt_or_eq.mp lt with old | rfl
    · rw [Function.update_of_ne (Nat.ne_of_lt old)]
      exact standing.lags socket old
    · rw [Function.update_self]
      apply (settled.follows fun before => ?_).lags
      rw [stream, before, sizeHeader, standing.offers.size, List.drop_length, List.append_nil]
  · intro running
    rw [idle.broken, ended] at running
    cases running

/-! ## Runs -/

theorem Standing.handle {event : Event bufsiz} (standing : Standing options s clients)
    (possible : Possible s event) :
    Returns (Server.handle options s event) fun s' => ∃ clients', Standing options s' clients' := by
  cases event with
  | stdin res fresh answers =>
      have prepared := standing.answers answers
      obtain ⟨_, running, sound, sized⟩ := possible
      have serving := prepared.serving running
      have breaks : Standing options { s with answers, broken := true } clients :=
        ⟨serving.registered.frame rfl rfl, prepared.offers, prepared.known, prepared.lags,
          fun running => by cases running⟩
      cases res with
      | data bytes =>
          obtain ⟨nonempty, fits⟩ := sized bytes rfl
          exact serving.read nonempty fits sound
      | eof => exact ⟨clients, breaks⟩
      | failed errno =>
          simp only [Server.handle, Server.stdinCb]
          split
          · exact ⟨clients, prepared⟩
          · exact ⟨clients, breaks⟩
  | unixSock attempts named fresh answers =>
      have prepared := standing.answers answers
      cases ended : s.broken with
      | false =>
          exact ((prepared.serving ended).unixSockCb possible.2 attempts named).mono
            fun _ serves => ⟨_, serves.choose_spec.standing⟩
      | true => exact prepared.arrive ended possible.2 attempts named
  | tailerReadable tailer res =>
      obtain ⟨⟨node, found, _⟩, _⟩ := possible
      cases ended : s.broken with
      | false =>
          exact ((standing.serving ended).tailerReadableCb found res).mono
            fun _ serves => ⟨_, serves.choose_spec.standing⟩
      | true => exact standing.depart ended found res

end Tailserver.Server
