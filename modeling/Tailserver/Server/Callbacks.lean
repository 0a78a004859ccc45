import Tailserver.Server.Tee

/-! What one callback does to the list of tailers and to the connections, whatever
memory the allocator gives. -/

set_option autoImplicit false

namespace Tailserver.Server

open CMemory Buffer

variable {bufsiz : Nat}

theorem Started.registered {options : Options} {first append : Nat × LineBuffer bufsiz}
    {s : State bufsiz} (started : Started options first append s) : Registered s [] := by
  refine ⟨started.firstTailer, trivial, .nil, .nil, ?_⟩
  rw [started.tailers]
  exact .refl _

/-! ## Standard input -/

/-- A chunk that was appended goes to standard output and then to every client; one
the buffer had no room for ends the loop. -/
inductive HandsOn (s s' : State bufsiz) (buffer : Buffer.State bufsiz) (clients : Clients)
    (bytes : List UInt8) : Bool → Prop where
  | refused : s' = { s with buffer, stdinRead := s.stdinRead ++ bytes, broken := true } →
      HandsOn s s' buffer clients bytes false
  | forwarded {answers : List WriteAnswer} {broken : Bool} {kept : Clients} :
      Frame { s with
        buffer, answers, broken
        stdinRead := s.stdinRead ++ bytes
        stdoutChunks := s.stdoutChunks ++ [bytes]
        socketsChunks := s.socketsChunks ++ [bytes] } s' →
      Registered s' kept → Broadcast bytes clients kept s.connections s'.connections →
      HandsOn s s' buffer clients bytes true

theorem Registered.stdinCb {options : Options} {s : State bufsiz} {clients : Clients}
    {spare : Nat × LineBuffer bufsiz} {front rest : Nodes bufsiz} {bytes : List UInt8}
    {fresh : Allocation (LineBuffer bufsiz)} {continues : Bool} {buffer : Buffer.State bufsiz}
    (registered : Registered s clients) (linked : Linked s.buffer spare front rest)
    (nonempty : bytes ≠ []) (fits : bytes.length ≤ bufsiz) (sound : Allocates s.buffer fresh)
    (appends : bufferAppend options.buffer s.buffer bytes fresh = .ok (continues, buffer)) :
    Returns (stdinCb options s (.data bytes) fresh) fun s' =>
      HandsOn s s' buffer clients bytes continues := by
  obtain ⟨node, loads, reads⟩ := read_appended linked nonempty fits sound appends
  rw [stdinCb_data, appends, except_ok_bind]
  cases continues with
  | false => exact .refused rfl
  | true =>
      simp only [forwardAppended, Bool.not_true, Bool.false_eq_true, if_false]
      rw [loads, except_ok_bind, reads, except_ok_bind]
      apply (stdoutWriteBlockingOrBreak_returns _ bytes).bind
      rintro _ ⟨answers, broken, rfl⟩
      have handed : Registered { s with
          buffer, answers, broken
          stdinRead := s.stdinRead ++ bytes
          stdoutChunks := s.stdoutChunks ++ [bytes] } clients := registered.frame rfl rfl
      apply (handed.broadcasts bytes).mono
      rintro s' ⟨frame, kept, remaining, broadcast⟩
      exact .forwarded frame remaining broadcast

/-! ## Departures -/

/-- A client left, and only its own connection was touched. -/
structure Departs (s s' : State bufsiz) (front back : Clients) (client : Nat × Nat) : Prop where
  frame : Frame s s'
  registered : Registered s' (front ++ back)
  connections : s'.connections = Function.update s.connections client.2
    { s.connections client.2 with
      hungUp := true
      closes := (s.connections client.2).closes + 1 }

theorem Registered.tailerReadableCb {s : State bufsiz} {clients : Clients} {tailer : Nat}
    {node : Tailer} (registered : Registered s clients)
    (found : s.tailers.lookup tailer = some node) (res : ReadAnswer) :
    Returns (tailerReadableCb s (some tailer) res) fun s' => s' = s ∨
      ∃ front client back, clients = front ++ client :: back ∧
        Departs s s' front back client := by
  have member := registered.mem_iff.mp (mem_of_lookup found)
  obtain ⟨client, listed, rfl⟩ := List.mem_map.mp member
  obtain ⟨front, back, rfl⟩ := List.append_of_mem listed
  have noted : Registered (s.note client.2 fun connection =>
      { connection with hungUp := true }) (front ++ client :: back) :=
    registered.frame rfl rfl
  obtain ⟨tailers, firstTailer, ran, remaining⟩ := noted.tailerFinal
  have ended : Returns (Server.tailerFinal (s.note client.2 fun connection =>
      { connection with hungUp := true }) (some client.1)) fun s' => s' = s ∨
        ∃ front' client' back', front ++ client :: back = front' ++ client' :: back' ∧
          Departs s s' front' back' client' := by
    rw [ran]
    refine .inr ⟨front, client, back, rfl, ⟨rfl, rfl, rfl, rfl, rfl, rfl, rfl, rfl, rfl⟩,
      remaining, ?_⟩
    simp only [State.close, State.note, Function.update_self, Function.update_idem]
  simp only [Server.tailerReadableCb, load_of_lookup registered.lookup, except_ok_bind]
  cases res with
  | data bytes => exact ended
  | eof => exact ended
  | failed errno =>
      dsimp only
      split
      · exact .inl rfl
      · exact ended

/-! ## Arrivals -/

theorem acceptRetrying_returns (retries : Nat) (attempts : List AcceptAnswer) :
    Returns (acceptRetrying retries attempts) fun _ => True := by
  induction retries generalizing attempts with
  | zero => trivial
  | succ retries ih =>
      cases attempts with
      | nil => rfl
      | cons attempt attempts =>
          cases attempt with
          | connected => trivial
          | failed errno =>
              unfold acceptRetrying
              split
              · exact ih attempts
              · trivial

/-- A connection after its callback, and whether it is listed: closed at once, sent
the whole text, or registered and taken off the list again. -/
inductive Settled (before text : List UInt8) : Connection → Bool → Prop where
  | refused : Settled before text { before, closes := 1 } false
  | welcomed : Settled before text { before, received := text, registered := true } true
  | cutOff {part : List UInt8} : part <+: text → Settled before text
      { before, received := part, registered := true, cut := true, closes := 1 } false

/-- The list with a new client in front if it is to be listed. -/
def enlist (listed : Bool) (client : Nat × Nat) (clients : Clients) : Clients :=
  if listed then client :: clients else clients

theorem mem_enlist {listed : Bool} {client other : Nat × Nat} {clients : Clients} :
    other ∈ enlist listed client clients ↔ (listed = true ∧ other = client) ∨ other ∈ clients := by
  cases listed <;> simp [enlist]

theorem mem_sockets_enlist {listed : Bool} {client : Nat × Nat} {clients : Clients}
    {socket : Nat} : socket ∈ (enlist listed client clients).map Prod.snd ↔
      (listed = true ∧ socket = client.2) ∨ socket ∈ clients.map Prod.snd := by
  cases listed <;> simp [enlist]

/-- The next connection was settled, and the gate is open if `tailer_init` put it on
the list. -/
structure Arrives (s s' : State bufsiz) (clients : Clients) (connection : Connection) :
    Prop where
  idle : Idle s s'
  accepted : s'.accepted = s.accepted + 1
  registered : Registered s' clients
  connections : s'.connections = Function.update s.connections s.accepted connection
  waitingForClient : s'.waitingForClient = (s.waitingForClient && !connection.registered)
  stdinWatcher : s'.stdinWatcher =
    (s.stdinWatcher || (s.waitingForClient && connection.registered))
  unixSockWatcher : s'.unixSockWatcher = s.unixSockWatcher

theorem Arrives.of_answers {s s' : State bufsiz} {answers : List WriteAnswer}
    {clients : Clients} {connection : Connection}
    (arrives : Arrives { s with answers } s' clients connection) :
    Arrives s s' clients connection where
  idle := ⟨arrives.idle.buffer, arrives.idle.broken, arrives.idle.stdinRead,
    arrives.idle.stdoutChunks, arrives.idle.socketsChunks⟩
  accepted := arrives.accepted
  registered := arrives.registered
  connections := arrives.connections
  waitingForClient := arrives.waitingForClient
  stdinWatcher := arrives.stdinWatcher
  unixSockWatcher := arrives.unixSockWatcher

/-- The end of `unix_sock_cb` for a registered client. -/
theorem Arrives.pipesOnNewClient {s s' : State bufsiz} {clients : Clients}
    {connection : Connection} (frame : Frame { s with accepted := s.accepted + 1 } s')
    (registered : Registered s' clients) (known : connection.registered = true)
    (connections : s'.connections = Function.update s.connections s.accepted connection) :
    Arrives s (pipesOnNewClient s') clients connection := by
  have idle : Idle s s' := ⟨frame.buffer, frame.broken, frame.stdinRead, frame.stdoutChunks,
    frame.socketsChunks⟩
  have idle' := idle.trans (pipesOnNewClient_idle s')
  have waits : s'.waitingForClient = s.waitingForClient := frame.waitingForClient
  have watches : s'.stdinWatcher = s.stdinWatcher := frame.stdinWatcher
  unfold Server.pipesOnNewClient at idle' ⊢
  cases waiting : s.waitingForClient with
  | true =>
      rw [waits, waiting, if_pos rfl] at idle' ⊢
      exact ⟨idle', frame.accepted, registered.frame rfl rfl, connections, by simp [known],
        by simp [known, waiting], frame.unixSockWatcher⟩
  | false =>
      rw [waits, waiting] at idle' ⊢
      exact ⟨idle', frame.accepted, registered, connections, by simp [waits, waiting],
        by simp [watches, waiting], frame.unixSockWatcher⟩

/-- `unix_sock_cb` settles the next connection, unless there is none. -/
theorem Registered.unixSockCb {options : Options} {s : State bufsiz} {clients : Clients}
    {tail : List UInt8} {fresh : Allocation Tailer} (registered : Registered s clients)
    (new : s.accepted ∉ clients.map Prod.snd) (offered : bufferTail s.buffer = .ok tail)
    (unused : ∀ block node, fresh = some (block, node) → block ∉ s.tailers)
    (attempts : List AcceptAnswer) (named : Bool) :
    Returns (unixSockCb options s attempts named fresh) fun s' => s' = s ∨
      ∃ block connection listed,
        Arrives s s' (enlist listed (block, s.accepted) clients) connection ∧
        Settled s.stdinRead (sizeHeader (bufferTailSize s.buffer) ++ tail) connection listed := by
  let s₀ : State bufsiz := { s with accepted := s.accepted + 1 }.note s.accepted
    fun _ => { before := s.stdinRead }
  have registered₀ : Registered s₀ clients := registered.frame rfl rfl
  have refused : ∀ s₁ : State bufsiz, Frame s₀ s₁ → s₁.connections = s₀.connections →
      Registered s₁ clients →
      Arrives s (s₁.close s.accepted) clients { before := s.stdinRead, closes := 1 } := by
    intro s₁ frame connections registered₁
    refine ⟨⟨frame.buffer, frame.broken, frame.stdinRead, frame.stdoutChunks,
      frame.socketsChunks⟩, frame.accepted, registered₁.frame rfl rfl, ?_, ?_, ?_,
      frame.unixSockWatcher⟩
    · simp only [State.close, State.note, connections, s₀, Function.update_self,
        Function.update_idem]
    · exact frame.waitingForClient.trans (Bool.and_true _).symm
    · exact frame.stdinWatcher.trans (by simp [s₀, State.note])
  unfold Server.unixSockCb
  apply (acceptRetrying_returns maxAcceptRetry attempts).bind
  intro connected _
  cases connected with
  | false => exact .inl rfl
  | true =>
      simp only [Bool.not_true, Bool.false_eq_true, if_false]
      cases named with
      | false =>
          exact .inr ⟨0, _, false, refused s₀ (.refl s₀) rfl registered₀, .refused⟩
      | true =>
          simp only [Bool.not_true, Bool.false_eq_true, if_false]
          rcases Option.eq_none_or_eq_some fresh with rfl | ⟨⟨block, node⟩, rfl⟩
          · exact .inr ⟨0, _, false, refused s₀ (.refl s₀) rfl registered₀, .refused⟩
          · obtain ⟨tailers, inits, registered₁⟩ :=
              registered₀.tailerInit (unused block node rfl) new node
            apply Returns.bind_ok inits
            simp only [reduceCtorEq, if_false]
            have first : Registered _ ([] ++ (block, s.accepted) :: clients) := registered₁
            apply (first.tailerSendBufferedTail offered).bind
            rintro s₂ ⟨frame, served⟩
            have frame₂ : Frame { s with accepted := s.accepted + 1 } s₂ :=
              ⟨frame.buffer, frame.waitingForClient, frame.stdinWatcher, frame.unixSockWatcher,
                frame.broken, frame.stdinRead, frame.stdoutChunks, frame.socketsChunks,
                frame.accepted⟩
            right
            cases served with
            | whole registered₂ connections =>
                refine ⟨block, _, true, .pipesOnNewClient frame₂ registered₂ ?_ ?_, .welcomed⟩
                · rfl
                · simp [connections, s₀, State.note, Connection.sent]
            | @cut part isPrefix registered₂ connections =>
                refine ⟨block, _, false, .pipesOnNewClient frame₂ registered₂ ?_ ?_,
                  .cutOff isPrefix⟩
                · rfl
                · simp [connections, s₀, State.note, Connection.cutOff]

end Tailserver.Server
