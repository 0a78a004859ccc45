import Tailserver.Server.Writes
import Tailserver.Buffer.FreshMemory

/-! Runs of the server: the initialization, and then any callbacks in any order.
`stdin_cb` is one append with the forwarding behind it, and no other callback
touches the buffer. -/

set_option autoImplicit false

namespace Tailserver.Server

open CMemory Buffer

variable {bufsiz : Nat}

/-- The states the server reaches when every event is of a given kind. The block
`append` is the one `buffer_init` allocates for the first bytes. -/
inductive Reachable (options : Options) (append : Nat × LineBuffer bufsiz)
    (allowed : Event bufsiz → Prop) : State bufsiz → Prop where
  | start (first : Nat × LineBuffer bufsiz) (opened : Bool) {s : State bufsiz} :
      FreshBuffer ({} : Buffer.State bufsiz) first.1 →
      FreshBuffer ({ heap := single first } : Buffer.State bufsiz) append.1 →
      initAll options (some first) (some append) opened = .ok (true, s) →
      Reachable options append allowed s
  | step {s s' : State bufsiz} (event : Event bufsiz) :
      Reachable options append allowed s → Possible s event → allowed event →
      handle options s event = .ok s' → Reachable options append allowed s'

/-! ## Initialization -/

/-- The server as `init_all` leaves it. -/
structure Started (options : Options) (first append : Nat × LineBuffer bufsiz)
    (s : State bufsiz) : Prop where
  buffer : s.buffer = (Execution.mk first append []).initial
  supplied : (Execution.mk first append []).Supplied options.buffer
  tailers : s.tailers = ∅
  firstTailer : s.firstTailer = none
  waitingForClient : s.waitingForClient = options.waitForClient
  stdinWatcher : s.stdinWatcher = !options.waitForClient
  unixSockWatcher : s.unixSockWatcher = options.filePath
  broken : s.broken = false
  stdinRead : s.stdinRead = []
  stdoutChunks : s.stdoutChunks = []
  socketsChunks : s.socketsChunks = []
  accepted : s.accepted = 0
  connections : ∀ socket, s.connections socket = {}

theorem started_of_initAll {options : Options} {first append : Nat × LineBuffer bufsiz}
    {opened : Bool} {s : State bufsiz} (fresh : FreshBuffer ({} : Buffer.State bufsiz) first.1)
    (fresh' : FreshBuffer ({ heap := single first } : Buffer.State bufsiz) append.1)
    (ran : initAll options (some first) (some append) opened = .ok (true, s)) :
    Started options first append s := by
  have supplied : (Execution.mk first append []).Supplied options.buffer :=
    ⟨fresh, fresh', fun _ _ => trivial⟩
  have inits : bufferInit (some first) (some append) =
      .ok (true, (Execution.mk first append []).initial) := supplied.init
  simp only [initAll, inits, except_ok_bind, Bool.not_true, Bool.false_eq_true, if_false,
    except_pure, Except.ok.injEq] at ran
  unfold socketsInit pipesInit at ran
  cases waits : options.waitForClient <;> cases path : options.filePath <;> cases opened <;>
    rw [waits, path] at ran <;> cases ran <;>
    exact ⟨rfl, supplied, rfl, rfl, waits.symm, by rw [waits]; rfl, path.symm, rfl, rfl, rfl, rfl,
      rfl, fun _ => rfl⟩

/-! ## What callbacks leave alone -/

/-- A relation that holds across everything that is done to tailers. -/
structure Tolerates (related : State bufsiz → State bufsiz → Prop) : Prop where
  refl : ∀ s, related s s
  trans : ∀ {s s' s''}, related s s' → related s' s'' → related s s''
  tailers : ∀ s tailers firstTailer, related s { s with tailers, firstTailer }
  close : ∀ s socket, related s (s.close socket)
  wrote : ∀ (s : State bufsiz) answers socket delivered short,
    related s ({ s with answers }.note socket fun connection => { connection with
      received := connection.received ++ delivered
      cut := connection.cut || short })

namespace Tolerates

variable {related : State bufsiz → State bufsiz → Prop} {options : Options}
  {s s' : State bufsiz}

theorem modifyTailer (tolerates : Tolerates related) {pointer : Pointer}
    {assign : Tailer → Tailer} (ran : s.modifyTailer pointer assign = .ok s') :
    related s s' := by
  obtain ⟨node, _, ran⟩ := except_bind_ok ran
  obtain ⟨tailers, _, returned⟩ := except_bind_ok ran
  cases returned
  exact tolerates.tailers s tailers _

theorem tailerFinal (tolerates : Tolerates related) {tailer : Pointer}
    (ran : tailerFinal s tailer = .ok s') : related s s' := by
  obtain ⟨s₁, stops, ran⟩ := except_bind_ok ran
  obtain ⟨node, _, ran⟩ := except_bind_ok ran
  obtain ⟨s₂, skips, ran⟩ := except_bind_ok ran
  obtain ⟨node', _, ran⟩ := except_bind_ok ran
  obtain ⟨s₃, points, ran⟩ := except_bind_ok ran
  obtain ⟨tailers, _, returned⟩ := except_bind_ok ran
  cases returned
  have first : related s (s₁.close node.socket) :=
    tolerates.trans (tolerates.modifyTailer stops) (tolerates.close s₁ node.socket)
  have second : related (s₁.close node.socket) s₂ := by
    split at skips
    · exact tolerates.modifyTailer skips
    · cases skips
      exact tolerates.tailers _ _ _
  have third : related s₂ s₃ := by
    split at points
    · exact tolerates.modifyTailer points
    · cases points
      exact tolerates.refl s₂
  exact tolerates.trans (tolerates.trans (tolerates.trans first second) third)
    (tolerates.tailers s₃ tailers _)

theorem tailerWriteBlocking (tolerates : Tolerates related) {tailer : Pointer}
    {buf : List UInt8} {written : Written}
    (ran : tailerWriteBlocking options s tailer buf = .ok (written, s')) : related s s' := by
  obtain ⟨node, _, ran⟩ := except_bind_ok ran
  obtain ⟨_, _, returned⟩ := except_bind_ok ran
  cases returned
  exact tolerates.wrote s _ _ _ _

theorem sendTailChunks (tolerates : Tolerates related) {fuel : Nat} {tailer pos : Pointer}
    {offset : UInt64} (ran : sendTailChunks options tailer fuel s pos offset = .ok s') :
    related s s' := by
  induction fuel generalizing s pos offset with
  | zero => cases ran
  | succ fuel ih =>
      obtain ⟨chunkSize, _, ran⟩ := except_bind_ok ran
      split at ran
      · obtain ⟨chunk, _, ran⟩ := except_bind_ok ran
        obtain ⟨⟨written, s₁⟩, writes, ran⟩ := except_bind_ok ran
        have wrote := tolerates.tailerWriteBlocking writes
        dsimp only at ran
        split at ran
        · exact tolerates.trans wrote (tolerates.tailerFinal ran)
        · obtain ⟨_, _, ran⟩ := except_bind_ok ran
          exact tolerates.trans wrote (ih ran)
      · cases ran
        exact tolerates.refl _

theorem tailerSendBufferedTail (tolerates : Tolerates related) {tailer : Pointer}
    (ran : tailerSendBufferedTail options s tailer = .ok s') : related s s' := by
  obtain ⟨⟨written, s₁⟩, writes, ran⟩ := except_bind_ok ran
  have wrote := tolerates.tailerWriteBlocking writes
  dsimp only at ran
  split at ran
  · exact tolerates.trans wrote (tolerates.tailerFinal ran)
  · exact tolerates.trans wrote (tolerates.sendTailChunks ran)

theorem writeToTailers (tolerates : Tolerates related) {buf : List UInt8} {fuel : Nat}
    {tailer : Pointer} (ran : writeToTailers options buf fuel s tailer = .ok s') :
    related s s' := by
  induction fuel generalizing s tailer with
  | zero => cases ran
  | succ fuel ih =>
      unfold Server.writeToTailers at ran
      split at ran
      · cases ran
        exact tolerates.refl _
      · obtain ⟨⟨written, s₁⟩, writes, ran⟩ := except_bind_ok ran
        have wrote := tolerates.tailerWriteBlocking writes
        obtain ⟨node, _, ran⟩ := except_bind_ok ran
        split at ran
        · obtain ⟨s₂, finals, ran⟩ := except_bind_ok ran
          exact tolerates.trans (tolerates.trans wrote (tolerates.tailerFinal finals)) (ih ran)
        · exact tolerates.trans wrote (ih ran)

/-- A tailer that is made is noted; otherwise there was no memory for it. -/
theorem tailerInit (tolerates : Tolerates related) {socket : Nat} {fresh : Allocation Tailer}
    {tailer : Pointer} (ran : tailerInit s socket fresh = .ok (tailer, s')) :
    (tailer = none ∧ related s s') ∨ ∃ s₁, related s s₁ ∧
      s' = s₁.note socket fun connection => { connection with registered := true } := by
  unfold Server.tailerInit at ran
  simp only at ran
  split at ran
  · cases ran
    exact .inl ⟨rfl, tolerates.tailers _ _ _⟩
  · obtain ⟨s₁, set₁, ran⟩ := except_bind_ok ran
    obtain ⟨s₂, set₂, ran⟩ := except_bind_ok ran
    obtain ⟨s₃, points, ran⟩ := except_bind_ok ran
    obtain ⟨s₄, set₄, ran⟩ := except_bind_ok ran
    obtain ⟨s₅, set₅, returned⟩ := except_bind_ok ran
    cases returned
    have third : related s₂ s₃ := by
      split at points
      · exact tolerates.modifyTailer points
      · cases points
        exact tolerates.refl s₂
    have before := tolerates.trans (tolerates.modifyTailer set₁) (tolerates.modifyTailer set₂)
    have after := tolerates.trans (tolerates.modifyTailer set₄) (tolerates.modifyTailer set₅)
    have allocates := tolerates.trans (tolerates.tailers s _ _) before
    have links := tolerates.trans (tolerates.trans third (tolerates.tailers s₃ _ _)) after
    exact .inr ⟨s₅, tolerates.trans allocates links, rfl⟩

end Tolerates

theorem note_frame (s : State bufsiz) (socket : Nat) (update : Connection → Connection) :
    Frame s (s.note socket update) := ⟨rfl, rfl, rfl, rfl, rfl, rfl, rfl, rfl, rfl⟩

theorem Frame.tolerates : Tolerates (@Frame bufsiz) where
  refl := .refl
  trans := .trans
  tailers _ _ _ := ⟨rfl, rfl, rfl, rfl, rfl, rfl, rfl, rfl, rfl⟩
  close s socket := note_frame s socket _
  wrote _ _ _ _ _ := ⟨rfl, rfl, rfl, rfl, rfl, rfl, rfl, rfl, rfl⟩

theorem tailerInit_frame {s s' : State bufsiz} {socket : Nat} {fresh : Allocation Tailer}
    {tailer : Pointer} (ran : tailerInit s socket fresh = .ok (tailer, s')) : Frame s s' := by
  rcases Frame.tolerates.tailerInit ran with ⟨_, frame⟩ | ⟨s₁, frame, rfl⟩
  · exact frame
  · exact frame.trans (note_frame s₁ socket _)

/-- No other callback than `stdin_cb` touches the buffer or reads or writes the
standard streams. -/
structure Idle (s s' : State bufsiz) : Prop where
  buffer : s'.buffer = s.buffer
  broken : s'.broken = s.broken
  stdinRead : s'.stdinRead = s.stdinRead
  stdoutChunks : s'.stdoutChunks = s.stdoutChunks
  socketsChunks : s'.socketsChunks = s.socketsChunks

theorem Frame.idle {s s' : State bufsiz} (frame : Frame s s') : Idle s s' :=
  ⟨frame.buffer, frame.broken, frame.stdinRead, frame.stdoutChunks, frame.socketsChunks⟩

theorem Idle.trans {s s' s'' : State bufsiz} (before : Idle s s') (after : Idle s' s'') :
    Idle s s'' where
  buffer := after.buffer.trans before.buffer
  broken := after.broken.trans before.broken
  stdinRead := after.stdinRead.trans before.stdinRead
  stdoutChunks := after.stdoutChunks.trans before.stdoutChunks
  socketsChunks := after.socketsChunks.trans before.socketsChunks

theorem pipesOnNewClient_idle (s : State bufsiz) : Idle s (pipesOnNewClient s) := by
  unfold pipesOnNewClient
  split <;> exact ⟨rfl, rfl, rfl, rfl, rfl⟩

theorem tailerReadableCb_idle {s s' : State bufsiz} {tailer : Pointer} {res : ReadAnswer}
    (ran : tailerReadableCb s tailer res = .ok s') : Idle s s' := by
  obtain ⟨node, _, ran⟩ := except_bind_ok ran
  have ended : ∀ s', tailerFinal (s.note node.socket fun connection =>
      { connection with hungUp := true }) tailer = .ok s' → Idle s s' := fun s' finals =>
    ((note_frame s node.socket _).trans (Frame.tolerates.tailerFinal finals)).idle
  cases res with
  | data bytes => exact ended s' ran
  | eof => exact ended s' ran
  | failed errno =>
      dsimp only at ran
      split at ran
      · cases ran
        exact ⟨rfl, rfl, rfl, rfl, rfl⟩
      · exact ended s' ran

theorem unixSockCb_idle {options : Options} {s s' : State bufsiz}
    {attempts : List AcceptAnswer} {named : Bool} {fresh : Allocation Tailer}
    (ran : unixSockCb options s attempts named fresh = .ok s') : Idle s s' := by
  obtain ⟨connected, _, ran⟩ := except_bind_ok ran
  split at ran
  · cases ran
    exact ⟨rfl, rfl, rfl, rfl, rfl⟩
  · dsimp only at ran
    split at ran
    · cases ran
      exact ⟨rfl, rfl, rfl, rfl, rfl⟩
    · obtain ⟨⟨tailer, s₁⟩, inits, ran⟩ := except_bind_ok ran
      have accepts : Idle s ({ s with accepted := s.accepted + 1 }.note s.accepted
          fun _ => { before := s.stdinRead }) := ⟨rfl, rfl, rfl, rfl, rfl⟩
      have before := accepts.trans (tailerInit_frame inits).idle
      dsimp only at ran
      split at ran
      · cases ran
        exact before.trans ⟨rfl, rfl, rfl, rfl, rfl⟩
      · obtain ⟨s₂, sends, returned⟩ := except_bind_ok ran
        cases returned
        exact (before.trans (Frame.tolerates.tailerSendBufferedTail sends).idle).trans
          (pipesOnNewClient_idle s₂)

end Tailserver.Server
