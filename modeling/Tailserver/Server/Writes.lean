import Tailserver.Server.Tailers

/-! What the writes to clients do: to one client while its tail is sent, and to all
of them when a chunk arrives. A client gets all of the text and stays, or gets a
beginning of it and is taken off the list. -/

set_option autoImplicit false

namespace Tailserver.Server

open CMemory Buffer

variable {bufsiz : Nat}

/-- Only tailers, connections and the kernel's answers may differ. -/
structure Frame (s s' : State bufsiz) : Prop where
  buffer : s'.buffer = s.buffer
  waitingForClient : s'.waitingForClient = s.waitingForClient
  stdinWatcher : s'.stdinWatcher = s.stdinWatcher
  unixSockWatcher : s'.unixSockWatcher = s.unixSockWatcher
  broken : s'.broken = s.broken
  stdinRead : s'.stdinRead = s.stdinRead
  stdoutChunks : s'.stdoutChunks = s.stdoutChunks
  socketsChunks : s'.socketsChunks = s.socketsChunks
  accepted : s'.accepted = s.accepted

theorem Frame.refl (s : State bufsiz) : Frame s s :=
  ⟨rfl, rfl, rfl, rfl, rfl, rfl, rfl, rfl, rfl⟩

theorem Frame.trans {s s' s'' : State bufsiz} (before : Frame s s') (after : Frame s' s'') :
    Frame s s'' where
  buffer := after.buffer.trans before.buffer
  waitingForClient := after.waitingForClient.trans before.waitingForClient
  stdinWatcher := after.stdinWatcher.trans before.stdinWatcher
  unixSockWatcher := after.unixSockWatcher.trans before.unixSockWatcher
  broken := after.broken.trans before.broken
  stdinRead := after.stdinRead.trans before.stdinRead
  stdoutChunks := after.stdoutChunks.trans before.stdoutChunks
  socketsChunks := after.socketsChunks.trans before.socketsChunks
  accepted := after.accepted.trans before.accepted

def Connection.sent (connection : Connection) (text : List UInt8) : Connection :=
  { connection with received := connection.received ++ text }

/-- The record of a client whose write came back short. -/
def Connection.cutOff (connection : Connection) (part : List UInt8) : Connection :=
  { connection with
    received := connection.received ++ part
    cut := true
    closes := connection.closes + 1 }

/-- The write loop the options choose. -/
def safeWriteBy (options : Options) (buf : List UInt8) (answers : List WriteAnswer) :
    Except Fault Written :=
  if options.blockForever then safeWriteForever buf answers else safeWrite buf answers

theorem safeWriteBy_returns (options : Options) (buf : List UInt8)
    (answers : List WriteAnswer) :
    Returns (safeWriteBy options buf answers) (Delivers buf) := by
  have faults : ∀ fault, safeWriteBy options buf answers = .error fault →
      fault = .blocked := by
    intro fault failed
    unfold safeWriteBy at failed
    split at failed
    · exact safeWriteForever_fault failed
    · exact safeWriteLoop_fault failed
  cases ran : safeWriteBy options buf answers with
  | error fault => exact faults fault ran
  | ok written =>
      unfold safeWriteBy at ran
      split at ran
      · exact safeWriteForever_delivers ran
      · exact safeWriteLoop_delivers ran

/-- The state after a write to a client. -/
def State.wrote (s : State bufsiz) (socket : Nat) (buf : List UInt8) (written : Written) :
    State bufsiz :=
  { s with answers := written.answers }.note socket fun connection => { connection with
    received := connection.received ++ written.delivered
    cut := connection.cut || writtenTooLittle written buf }

theorem Registered.tailerWriteBlocking {options : Options} {s : State bufsiz}
    {front back : Clients} {client : Nat × Nat}
    (registered : Registered s (front ++ client :: back)) (buf : List UInt8) :
    tailerWriteBlocking options s (some client.1) buf =
      safeWriteBy options buf s.answers >>= fun written =>
        .ok (written, s.wrote client.2 buf written) := by
  simp only [Server.tailerWriteBlocking, load_of_lookup registered.lookup, except_ok_bind]
  rfl

/-- One client got all of a text and stayed, or a beginning of it and is gone. -/
inductive Served (s s' : State bufsiz) (front back : Clients) (client : Nat × Nat)
    (text : List UInt8) : Prop where
  | whole : Registered s' (front ++ client :: back) →
      s'.connections = Function.update s.connections client.2
        ((s.connections client.2).sent text) →
      Served s s' front back client text
  | cut {part : List UInt8} : part <+: text → Registered s' (front ++ back) →
      s'.connections = Function.update s.connections client.2
        ((s.connections client.2).cutOff part) →
      Served s s' front back client text

theorem Served.prepend {s s' s'' : State bufsiz} {front back : Clients} {client : Nat × Nat}
    {sent text : List UInt8} (served : Served s' s'' front back client text)
    (connections : s'.connections = Function.update s.connections client.2
      ((s.connections client.2).sent sent)) :
    Served s s'' front back client (sent ++ text) := by
  cases served with
  | whole registered connections' =>
      refine .whole registered ?_
      rw [connections', connections, Function.update_self, Function.update_idem]
      simp [Connection.sent]
  | @cut part isPrefix registered connections' =>
      refine .cut ((List.prefix_append_right_inj sent).mpr isPrefix) registered ?_
      rw [connections', connections, Function.update_self, Function.update_idem]
      simp [Connection.sent, Connection.cutOff]

theorem Registered.writeOrFinal {options : Options} {s : State bufsiz}
    {front back : Clients} {client : Nat × Nat}
    (registered : Registered s (front ++ client :: back)) (buf : List UInt8)
    (continuation : State bufsiz → Except Fault (State bufsiz))
    {post : State bufsiz → Prop}
    (gone : ∀ s' part, Frame s s' → part <+: buf → Registered s' (front ++ back) →
      s'.connections = Function.update s.connections client.2
        ((s.connections client.2).cutOff part) → post s')
    (stays : ∀ s', Frame s s' → Registered s' (front ++ client :: back) →
      s'.connections = Function.update s.connections client.2
        ((s.connections client.2).sent buf) → Returns (continuation s') post) :
    Returns (Server.tailerWriteBlocking options s (some client.1) buf >>= fun result =>
      if writtenTooLittle result.1 buf then Server.tailerFinal result.2 (some client.1)
      else continuation result.2) post := by
  have wrote : ∀ written, Frame s (s.wrote client.2 buf written) :=
    fun _ => ⟨rfl, rfl, rfl, rfl, rfl, rfl, rfl, rfl, rfl⟩
  rw [registered.tailerWriteBlocking, bind_assoc]
  apply (safeWriteBy_returns options buf s.answers).bind
  intro written delivers
  have registered' : Registered (s.wrote client.2 buf written) (front ++ client :: back) :=
    registered.frame rfl rfl
  rw [except_ok_bind]
  cases short : writtenTooLittle written buf with
  | true =>
      obtain ⟨tailers, firstTailer, ran, registered''⟩ := registered'.tailerFinal
      simp only [if_true, ran, Returns.ok_iff]
      refine gone _ written.delivered ((wrote written).trans ?_) delivers.isPrefix
        registered'' ?_
      · exact ⟨rfl, rfl, rfl, rfl, rfl, rfl, rfl, rfl, rfl⟩
      · simp only [State.close, State.note, State.wrote, Function.update_self,
          Function.update_idem, short, Bool.or_true]
        rfl
  | false =>
      simp only [Bool.false_eq_true, if_false]
      apply stays _ (wrote written) registered'
      simp only [State.wrote, State.note, delivers.complete short, short, Bool.or_false]
      rfl

/-- The chunks of the tail go out one after the other. -/
theorem Registered.sendTailChunks {options : Options} {s : State bufsiz}
    {front back : Clients} {client : Nat × Nat} {fuel : Nat} {pos : Pointer}
    {offset : UInt64} {chunks : List (List UInt8)}
    (registered : Registered s (front ++ client :: back))
    (walked : walkTail s.buffer fuel pos offset = .ok chunks) :
    Returns (sendTailChunks options (some client.1) fuel s pos offset) fun s' =>
      Frame s s' ∧ Served s s' front back client chunks.flatten := by
  induction fuel generalizing s pos offset chunks with
  | zero => cases walked
  | succ fuel ih =>
      obtain ⟨chunkSize, sized, walked⟩ := except_bind_ok walked
      simp only [Server.sendTailChunks, sized, except_ok_bind]
      split
      · next positive =>
        rw [if_pos positive] at walked
        obtain ⟨chunk, held, walked⟩ := except_bind_ok walked
        obtain ⟨pos', advances, walked⟩ := except_bind_ok walked
        obtain ⟨rest, walkedRest, returned⟩ := except_bind_ok walked
        cases returned
        simp only [held, except_ok_bind]
        apply registered.writeOrFinal chunk fun s => do
          let pos ← bufferAdvanceChunk s.buffer pos
          Server.sendTailChunks options (some client.1) fuel s pos 0
        · intro s' part frame isPrefix registered' connections
          have within : part <+: (chunk :: rest).flatten :=
            isPrefix.trans (List.prefix_append _ _)
          exact ⟨frame, .cut within registered' connections⟩
        · intro s' frame registered' connections
          rw [frame.buffer, advances, except_ok_bind]
          rw [← frame.buffer] at walkedRest
          apply (ih registered' walkedRest).mono
          intro s'' ⟨frame', served⟩
          exact ⟨frame.trans frame', served.prepend connections⟩
      · next ended =>
        rw [if_neg ended] at walked
        cases walked
        refine ⟨.refl s, .whole registered ?_⟩
        simp [Connection.sent]

/-- A new client is sent the header and the tail. -/
theorem Registered.tailerSendBufferedTail {options : Options} {s : State bufsiz}
    {front back : Clients} {client : Nat × Nat} {tail : List UInt8}
    (registered : Registered s (front ++ client :: back))
    (offered : bufferTail s.buffer = .ok tail) :
    Returns (tailerSendBufferedTail options s (some client.1)) fun s' =>
      Frame s s' ∧ Served s s' front back client
        (sizeHeader (bufferTailSize s.buffer) ++ tail) := by
  obtain ⟨chunks, walked, joined⟩ := except_bind_ok offered
  cases joined
  simp only [Server.tailerSendBufferedTail]
  apply registered.writeOrFinal _ fun s => Server.sendTailChunks options (some client.1)
    (blockCount s.buffer.heap + 1) s (bufferGetTailChunk s.buffer)
    (bufferGetTailOffset s.buffer)
  · intro s' part frame isPrefix registered' connections
    exact ⟨frame, .cut (isPrefix.trans (List.prefix_append _ _)) registered' connections⟩
  · intro s' frame registered' connections
    rw [← frame.buffer] at walked
    apply (registered'.sendTailChunks walked).mono
    intro s'' ⟨frame', served⟩
    exact ⟨frame.trans frame', served.prepend connections⟩

/-! ## Writing to all clients -/

/-- Each client in list order got all of `buf` and stayed, or a beginning of it and
left. The last two arguments are the connections before and after. -/
inductive Broadcast (buf : List UInt8) :
    Clients → Clients → (Nat → Connection) → (Nat → Connection) → Prop where
  | done {connections : Nat → Connection} : Broadcast buf [] [] connections connections
  | kept {client : Nat × Nat} {rest kept : Clients} {connections connections' : Nat → Connection} :
      Broadcast buf rest kept (Function.update connections client.2
        ((connections client.2).sent buf)) connections' →
      Broadcast buf (client :: rest) (client :: kept) connections connections'
  | cut {client : Nat × Nat} {rest kept : Clients} {connections connections' : Nat → Connection}
      {part : List UInt8} : part <+: buf →
      Broadcast buf rest kept (Function.update connections client.2
        ((connections client.2).cutOff part)) connections' →
      Broadcast buf (client :: rest) kept connections connections'

namespace Broadcast

variable {buf : List UInt8} {rest kept : Clients} {connections connections' : Nat → Connection}

theorem sublist (broadcast : Broadcast buf rest kept connections connections') :
    kept.Sublist rest := by
  induction broadcast with
  | done => exact .refl _
  | kept _ ih => exact ih.cons_cons _
  | cut _ _ ih => exact ih.cons _

theorem untouched (broadcast : Broadcast buf rest kept connections connections')
    {socket : Nat} (absent : socket ∉ rest.map Prod.snd) :
    connections' socket = connections socket := by
  induction broadcast with
  | done => rfl
  | kept _ ih =>
      simp only [List.map_cons, List.mem_cons, not_or] at absent
      rw [ih absent.2, Function.update_of_ne absent.1]
  | cut _ _ ih =>
      simp only [List.map_cons, List.mem_cons, not_or] at absent
      rw [ih absent.2, Function.update_of_ne absent.1]

/-- What happened to one of the clients. -/
theorem of_mem (broadcast : Broadcast buf rest kept connections connections')
    (sockets : (rest.map Prod.snd).Nodup) {client : Nat × Nat} (member : client ∈ rest) :
    (client ∈ kept ∧ connections' client.2 = (connections client.2).sent buf) ∨
      (client.2 ∉ kept.map Prod.snd ∧ ∃ part, part <+: buf ∧
        connections' client.2 = (connections client.2).cutOff part) := by
  induction broadcast with
  | done => cases member
  | @kept head rest kept _ _ broadcast ih =>
      obtain ⟨absent, sockets⟩ := List.nodup_cons.mp sockets
      rcases List.mem_cons.mp member with rfl | member
      · left
        rw [broadcast.untouched absent, Function.update_self]
        exact ⟨.head _, rfl⟩
      · have different : client.2 ≠ head.2 := by
          intro same
          exact absent (same ▸ List.mem_map_of_mem member)
        have fate := ih sockets member
        rw [Function.update_of_ne different] at fate
        rcases fate with ⟨stays, same⟩ | ⟨leaves, cut⟩
        · exact .inl ⟨.tail _ stays, same⟩
        · refine .inr ⟨?_, cut⟩
          simp only [List.map_cons, List.mem_cons, not_or]
          exact ⟨different, leaves⟩
  | @cut head rest kept _ _ part isPrefix broadcast ih =>
      obtain ⟨absent, sockets⟩ := List.nodup_cons.mp sockets
      rcases List.mem_cons.mp member with rfl | member
      · right
        rw [broadcast.untouched absent, Function.update_self]
        refine ⟨fun stays => absent ?_, part, isPrefix, rfl⟩
        exact (broadcast.sublist.map _).subset stays
      · have different : client.2 ≠ head.2 := by
          intro same
          exact absent (same ▸ List.mem_map_of_mem member)
        have fate := ih sockets member
        rw [Function.update_of_ne different] at fate
        exact fate

end Broadcast

/-- One write of the whole text after the other, to the sockets of a list. -/
def writeEach (options : Options) (buf : List UInt8) :
    List Nat → List WriteAnswer → Except Fault (List (Nat × Written) × List WriteAnswer)
  | [], answers => .ok ([], answers)
  | socket :: rest, answers => do
      let written ← safeWriteBy options buf answers
      let (calls, answers) ← writeEach options buf rest written.answers
      return ((socket, written) :: calls, answers)

/-- The sockets whose write was complete. -/
def completed (buf : List UInt8) (calls : List (Nat × Written)) : List Nat :=
  (calls.filter fun call => !writtenTooLittle call.2 buf).map Prod.fst

theorem writeEach_returns (options : Options) (buf : List UInt8) (sockets : List Nat)
    (answers : List WriteAnswer) :
    Returns (writeEach options buf sockets answers) fun _ => True := by
  induction sockets generalizing answers with
  | nil => trivial
  | cons socket rest ih =>
      apply (safeWriteBy_returns options buf answers).bind
      intro written _
      apply (ih written.answers).bind
      intro _ _
      trivial

/-- The writes to the clients `rest` and what they left behind: each client was written
to once, in list order, and those whose write was complete are kept. -/
structure WroteEach (buf : List UInt8) (rest kept : Clients) (calls : List (Nat × Written))
    (connections connections' : Nat → Connection) : Prop where
  sockets : calls.map Prod.fst = rest.map Prod.snd
  complete : kept.map Prod.snd = completed buf calls
  delivered : ∀ call ∈ calls, (connections' call.1).received =
    (connections call.1).received ++ call.2.delivered
  broadcast : Broadcast buf rest kept connections connections'

/-- One more write in front of the others, to a client of its own. -/
theorem WroteEach.cons {buf : List UInt8} {rest kept kept' : Clients} {client : Nat × Nat}
    {calls : List (Nat × Written)} {written : Written}
    {connections connections' connections'' : Nat → Connection}
    (wrote : WroteEach buf rest kept calls connections' connections'')
    (absent : client.2 ∉ rest.map Prod.snd)
    (others : ∀ socket, socket ≠ client.2 → connections' socket = connections socket)
    (received : (connections' client.2).received =
      (connections client.2).received ++ written.delivered)
    (complete : kept'.map Prod.snd = completed buf ((client.2, written) :: calls))
    (broadcast : Broadcast buf (client :: rest) kept' connections connections'') :
    WroteEach buf (client :: rest) kept' ((client.2, written) :: calls) connections
      connections'' := by
  refine ⟨congrArg (client.2 :: ·) wrote.sockets, complete, ?_, broadcast⟩
  intro call member
  rcases List.mem_cons.mp member with rfl | member
  · rw [wrote.broadcast.untouched absent, received]
  · have listed : call.1 ∈ rest.map Prod.snd := by
      rw [← wrote.sockets]
      exact List.mem_map_of_mem member
    have different : call.1 ≠ client.2 := fun same => absent (same ▸ listed)
    rw [wrote.delivered call member, others _ different]

/-- The walk over the links does what one write after the other does to the list it
spells out, though tailers leave it on the way. -/
theorem Registered.writeToTailers {options : Options} {s : State bufsiz}
    {sent rest : Clients} {fuel : Nat} {buf : List UInt8}
    (registered : Registered s (sent ++ rest)) (enough : rest.length < fuel) :
    Lockstep (fun s' result => Frame s s' ∧ ∃ kept, Registered s' (sent ++ kept) ∧
        WroteEach buf rest kept result.1 s.connections s'.connections)
      (writeToTailers options buf fuel s (headOr rest none))
      (writeEach options buf (rest.map Prod.snd) s.answers) := by
  induction rest generalizing s sent fuel with
  | nil =>
      obtain ⟨fuel, rfl⟩ : ∃ less, fuel = less + 1 := ⟨fuel - 1, by omega⟩
      exact ⟨.refl s, [], registered, rfl, rfl, by simp, .done⟩
  | cons client rest ih =>
      obtain ⟨fuel, rfl⟩ : ∃ less, fuel = less + 1 := ⟨fuel - 1, by omega⟩
      have enough' : rest.length < fuel := Nat.lt_of_succ_lt_succ enough
      have absent : client.2 ∉ rest.map Prod.snd := by
        have elsewhere := registered.socket_notMem
        rw [List.map_append, List.mem_append, not_or] at elsewhere
        exact elsewhere.2
      have returns := safeWriteBy_returns options buf s.answers
      simp only [Server.writeToTailers, headOr_cons, reduceCtorEq, if_false, List.map_cons,
        writeEach, registered.tailerWriteBlocking]
      cases ran : safeWriteBy options buf s.answers with
      | error fault => rfl
      | ok written =>
          have delivers := returns.of_ok ran
          have registered' : Registered (s.wrote client.2 buf written)
              (sent ++ client :: rest) := registered.frame rfl rfl
          simp only [except_ok_bind, load_of_lookup registered'.lookup]
          cases short : writtenTooLittle written buf with
          | true =>
              obtain ⟨tailers, firstTailer, ended, registered''⟩ := registered'.tailerFinal
              simp only [if_true, ended, except_ok_bind]
              apply (ih registered'' enough').map_right
              rintro s'' result ⟨frame, kept, remaining, wrote⟩
              have closed : Frame s
                  { (s.wrote client.2 buf written).close client.2 with tailers, firstTailer } :=
                ⟨rfl, rfl, rfl, rfl, rfl, rfl, rfl, rfl, rfl⟩
              have broadcast := wrote.broadcast
              have complete := wrote.complete
              refine ⟨closed.trans frame, kept, remaining, wrote.cons absent ?_ ?_ ?_ ?_⟩
              · intro socket different
                simp only [State.close, State.wrote, State.note, Function.update_of_ne different]
              · simp only [State.close, State.wrote, State.note, Function.update_self]
              · rw [complete, completed, completed, List.filter_cons, short]
                rfl
              · refine .cut delivers.isPrefix ?_
                simp only [State.close, State.note, State.wrote, Function.update_self,
                  Function.update_idem, short, Bool.or_true] at broadcast
                exact broadcast
          | false =>
              simp only [Bool.false_eq_true, if_false]
              have moved : Registered (s.wrote client.2 buf written)
                  ((sent ++ [client]) ++ rest) := by
                simpa using registered'
              apply (ih moved enough').map_right
              rintro s'' result ⟨frame, kept, remaining, wrote⟩
              have written' : Frame s (s.wrote client.2 buf written) :=
                ⟨rfl, rfl, rfl, rfl, rfl, rfl, rfl, rfl, rfl⟩
              have broadcast := wrote.broadcast
              have complete := wrote.complete
              refine ⟨written'.trans frame, client :: kept, by simpa using remaining,
                wrote.cons absent ?_ ?_ ?_ ?_⟩
              · intro socket different
                simp only [State.wrote, State.note, Function.update_of_ne different]
              · simp only [State.wrote, State.note, Function.update_self]
              · rw [List.map_cons, complete, completed, completed, List.filter_cons, short]
                rfl
              · refine .kept ?_
                simp only [State.wrote, State.note, delivers.complete short, short,
                  Bool.or_false] at broadcast
                exact broadcast

/-- Every listed client is written to once, in list order. -/
theorem Registered.socketsWriteBlocking {options : Options} {s : State bufsiz}
    {clients : Clients} (registered : Registered s clients) (buf : List UInt8) :
    Lockstep (fun s' result => Frame { s with socketsChunks := s.socketsChunks ++ [buf] } s' ∧
        ∃ kept, Registered s' kept ∧
          WroteEach buf clients kept result.1 s.connections s'.connections)
      (socketsWriteBlocking options s buf)
      (writeEach options buf (clients.map Prod.snd) s.answers) := by
  have enough : clients.length < blockCount s.tailers + 1 := by
    rw [registered.length_le]
    exact Nat.lt_succ_self _
  have handed : Registered { s with socketsChunks := s.socketsChunks ++ [buf] } ([] ++ clients) :=
    registered.frame rfl rfl
  have wrote : Lockstep _ (Server.writeToTailers options buf _ _ _) _ :=
    handed.writeToTailers enough
  rw [← registered.first] at wrote
  exact wrote

/-- What became of each client, whatever the kernel answered. -/
theorem Registered.broadcasts {options : Options} {s : State bufsiz}
    {clients : Clients} (registered : Registered s clients) (buf : List UInt8) :
    Returns (Server.socketsWriteBlocking options s buf) fun s' =>
      Frame { s with socketsChunks := s.socketsChunks ++ [buf] } s' ∧
        ∃ kept, Registered s' kept ∧ Broadcast buf clients kept s.connections s'.connections := by
  apply ((registered.socketsWriteBlocking buf).returns (writeEach_returns _ _ _ _)).mono
  rintro s' ⟨_, ⟨frame, kept, registered', wrote⟩, _⟩
  exact ⟨frame, kept, registered', wrote.broadcast⟩

end Tailserver.Server
