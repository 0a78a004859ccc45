import Tailserver.Client.Connect
import Tailserver.CommandLine.Arguments
import Tailserver.Server.Ownership

/-! The process of the server, from `init_all` to `exit`. What the kernel holds for it,
the listening socket with its file and standard input, is recorded beside the state of
the program: whichever way the process ends, each was given back once and no other
process's file was unlinked. -/

set_option autoImplicit false

namespace Tailserver.Server

open CMemory Buffer
open Client (sizeofSunPath)
open CommandLine (ServerLaunch)

variable {bufsiz : Nat}

/-! ## The source -/

structure Process (bufsiz : Nat) where
  server : State bufsiz
  /-- `unix_sock` is not `INVALID_SOCKET`. -/
  unixSock : Bool := false
  /-- `sigint_cb` has ended the loop. -/
  interrupted : Bool := false
  /-- How many sockets `socket` and how many files `bind` made, and what became of them. -/
  sockets : Nat := 0
  socketsClosed : Nat := 0
  files : Nat := 0
  filesUnlinked : Nat := 0
  /-- How often standard input was closed, and whether that failed. -/
  stdinClosed : Nat := 0
  stdinFailed : Bool := false
  /-- The status the process has exited with. -/
  exited : Option Bool := none

/-- What the kernel and the allocator answer while the process starts. -/
structure Startup (bufsiz : Nat) where
  first : Allocation (LineBuffer bufsiz)
  append : Allocation (LineBuffer bufsiz)
  /-- `xfreopen` on standard input. -/
  reopened : Bool
  opened : Bool
  bound : Bool
  listening : Bool

/-- `exit`, with `close_stdout` run at the end. -/
def Process.exit (p : Process bufsiz) (success : Bool) (closing : Closing) : Process bufsiz :=
  { p with exited := some (success && closing.streamsClose) }

/-- What `sockets_final` does to the listening socket. -/
def Process.closeListener (p : Process bufsiz) : Process bufsiz :=
  if p.unixSock then { p with
    socketsClosed := p.socketsClosed + 1
    filesUnlinked := p.filesUnlinked + 1
    unixSock := false }
  else p

/-- `sockets_final`. -/
def Process.socketsFinal (p : Process bufsiz) : Except Fault (Process bufsiz) := do
  let server ← Server.socketsFinal p.closeListener.server
  return { p.closeListener with server }

/-- `sockets_init`. -/
def Process.socketsInit (p : Process bufsiz) (launch : ServerLaunch)
    (startup : Startup bufsiz) : Except Fault (Bool × Process bufsiz) :=
  match launch.filePath with
  | none => .ok (true, { p with unixSock := false })
  | some path =>
      if path.bytes.length > sizeofSunPath - 1 then .ok (false, p)
      else if !startup.opened then .ok (false, p)
      else
        let p := { p with unixSock := true, sockets := p.sockets + 1 }
        if !startup.bound then
          .ok (false, { p with socketsClosed := p.socketsClosed + 1, unixSock := false })
        else
          let p := { p with files := p.files + 1 }
          if !startup.listening then do
            let p ← p.socketsFinal
            return (false, p)
          else .ok (true, { p with server := { p.server with unixSockWatcher := true } })

/-- `pipes_final`, `buffer_final` and `exit`. When standard input cannot be closed `error`
exits before the buffer is freed. -/
def Process.finalExit (p : Process bufsiz) (success : Bool) (closing : Closing) :
    Except Fault (Process bufsiz) := do
  let p := { p with
    stdinClosed := p.stdinClosed + 1
    stdinFailed := !closing.stdinCloses }
  if !closing.stdinCloses then return p.exit false closing
  let buffer ← bufferFinal p.server.buffer
  return { p with server := { p.server with buffer } }.exit success closing

/-- `init_all`. -/
def Process.initAll (launch : ServerLaunch) (startup : Startup bufsiz) (closing : Closing) :
    Except Fault (Process bufsiz) := do
  let (ok, buffer) ← bufferInit startup.first startup.append
  let p : Process bufsiz :=
    { server := { buffer, waitingForClient := launch.settings.waitForClient } }
  if !ok then return p.exit false closing
  if !startup.reopened then return p.exit false closing
  let p := { p with server := pipesInit p.server }
  let (ok, p) ← p.socketsInit launch startup
  if ok then return p
  else p.finalExit false closing

/-- What can happen to a running process. -/
inductive Process.Event (bufsiz : Nat) where
  | callback (event : Server.Event bufsiz)
  | interrupt
  /-- `ev_run` returns, and `main` ends. -/
  | ended (closing : Closing)
  /-- libev reports an error to `libev_error_handler`. -/
  | libevError (closing : Closing)

/-- `final_all` and `exit`. -/
def Process.finalAll (p : Process bufsiz) (success : Bool) (closing : Closing) :
    Except Fault (Process bufsiz) := do
  let p ← p.socketsFinal
  p.finalExit success closing

def Process.handle (launch : ServerLaunch) (p : Process bufsiz) :
    Process.Event bufsiz → Except Fault (Process bufsiz)
  | .callback event => do
      let server ← Server.handle launch.options p.server event
      return { p with server }
  | .interrupt => return { p with interrupted := true }
  | .ended closing => p.finalAll true closing
  | .libevError closing => p.finalAll false closing

/-- The loop returns when it was ended or when no watcher is left to wait for. -/
def Process.LoopEnds (launch : ServerLaunch) (p : Process bufsiz) : Prop :=
  p.server.broken = true ∨ p.interrupted = true ∨
    launch.settings.ignoreInterrupts = true ∧ p.server.stdinWatcher = false ∧
      p.server.unixSockWatcher = false ∧ p.server.firstTailer = none

def Process.Possible (launch : ServerLaunch) (p : Process bufsiz) :
    Process.Event bufsiz → Prop
  | .callback event => p.exited = none ∧ Server.Possible p.server event
  | .interrupt => p.exited = none ∧ launch.settings.ignoreInterrupts = false
  | .ended _ => p.exited = none ∧ p.LoopEnds launch
  | .libevError _ => p.exited = none

/-- The states of the process, from the end of `init_all` on. -/
inductive Process.Reachable (launch : ServerLaunch) : Process bufsiz → Prop where
  | start (startup : Startup bufsiz) (closing : Closing) {p : Process bufsiz} :
      InitAllocates startup.first startup.append →
      Process.initAll launch startup closing = .ok p →
      Process.Reachable launch p
  | step {p p' : Process bufsiz} (event : Process.Event bufsiz) :
      Process.Reachable launch p → p.Possible launch event →
      p.handle launch event = .ok p' → Process.Reachable launch p'

/-! ## The buffer can always be freed -/

theorem whole_of_handle {options : Options} {s s' : State bufsiz} {event : Event bufsiz}
    (whole : Whole s.buffer) (possible : Possible s event)
    (ran : handle options s event = .ok s') : Whole s'.buffer := by
  cases event with
  | stdin res fresh answers =>
      obtain ⟨_, _, sound, sized⟩ := possible
      cases res with
      | data bytes =>
          obtain ⟨nonempty, fits⟩ := sized bytes rfl
          rw [Server.handle, stdinCb_data] at ran
          obtain ⟨⟨continues, buffer⟩, appends, ran⟩ := except_bind_ok ran
          have same : s'.buffer = buffer := by
            cases continues with
            | false =>
                cases ran
                rfl
            | true =>
                obtain ⟨node, _, ran⟩ := except_bind_ok ran
                obtain ⟨chunk, _, ran⟩ := except_bind_ok ran
                obtain ⟨s₁, writes, ran⟩ := except_bind_ok ran
                obtain ⟨answers, broken, rfl⟩ :=
                  (stdoutWriteBlockingOrBreak_returns _ chunk).of_ok writes
                exact (Frame.tolerates.writeToTailers ran).buffer
          rw [same]
          exact whole.append nonempty fits sound appends
      | eof =>
          cases ran
          exact whole
      | failed errno =>
          simp only [Server.handle, Server.stdinCb] at ran
          split at ran <;> cases ran <;> exact whole
  | unixSock attempts named fresh answers =>
      rw [(unixSockCb_idle ran).buffer]
      exact whole
  | tailerReadable tailer res =>
      rw [(tailerReadableCb_idle ran).buffer]
      exact whole

/-! ## What the process holds -/

/-- A running process holds its listening socket and its file, if it was given a path. -/
structure Process.Running (launch : ServerLaunch) (p : Process bufsiz) : Prop where
  reachable : ∃ append, Server.Reachable launch.options append (fun _ => True) p.server
  whole : Whole p.server.buffer
  unixSock : p.unixSock = launch.filePath.isSome
  sockets : p.sockets = launch.filePath.toList.length
  files : p.files = p.sockets
  socketsClosed : p.socketsClosed = 0
  filesUnlinked : p.filesUnlinked = 0
  stdinClosed : p.stdinClosed = 0

/-- No listening socket, no file and no connection is left: what was made was given back
once. -/
structure Process.Released (p : Process bufsiz) : Prop where
  sockets : p.sockets ≤ 1
  files : p.files ≤ p.sockets
  socketsClosed : p.socketsClosed = p.sockets
  filesUnlinked : p.filesUnlinked = p.files
  connections : ∀ socket < p.server.accepted, (p.server.connections socket).closes = 1
  tailers : p.server.tailers = ∅

/-- Nor is any memory, unless the process exited before `buffer_final`. -/
structure Process.Settled (launch : ServerLaunch) (p : Process bufsiz) (success : Bool) : Prop
    extends p.Released where
  stdinClosed : p.stdinClosed ≤ 1
  freed : p.stdinClosed = 1 → p.stdinFailed = false → p.server.buffer.heap = ∅
  success : success = true → p.stdinClosed = 1 ∧ p.stdinFailed = false ∧ p.LoopEnds launch

/-! ## The end -/

@[simp] theorem Process.closeListener_server (p : Process bufsiz) :
    p.closeListener.server = p.server := by
  unfold closeListener
  split <;> rfl

/-- Only the listening socket and its file are affected. -/
theorem Process.Running.closeListener {launch : ServerLaunch} {p : Process bufsiz}
    (running : p.Running launch) :
    p.closeListener.sockets ≤ 1 ∧ p.closeListener.files = p.closeListener.sockets ∧
      p.closeListener.socketsClosed = p.closeListener.sockets ∧
      p.closeListener.filesUnlinked = p.closeListener.files ∧
      p.closeListener.stdinClosed = 0 ∧ p.closeListener.interrupted = p.interrupted := by
  obtain ⟨_, _, unixSock, sockets, files, socketsClosed, filesUnlinked, stdinClosed⟩ := running
  cases path : launch.filePath with
  | none =>
      rw [path] at unixSock sockets
      rw [Process.closeListener, unixSock, Option.isSome_none, if_neg (by simp)]
      simp_all
  | some path' =>
      rw [path] at unixSock sockets
      rw [Process.closeListener, unixSock, Option.isSome_some, if_pos rfl]
      simp_all

theorem Process.finalExit_settles {launch : ServerLaunch} {p : Process bufsiz}
    (released : p.Released) (whole : Whole p.server.buffer) (unclosed : p.stdinClosed = 0)
    (success : Bool) (ends : success = true → p.LoopEnds launch) (closing : Closing) :
    ∃ p' status, p.finalExit success closing = .ok p' ∧ p'.exited = some status ∧
      p'.Settled launch status := by
  obtain ⟨buffer, frees, empty⟩ := whole.bufferFinal
  obtain ⟨sockets, files, socketsClosed, filesUnlinked, connections, tailers⟩ := released
  have once : p.stdinClosed + 1 = 1 := congrArg (· + 1) unclosed
  cases closes : closing.stdinCloses with
  | false =>
      let failed := { p with stdinClosed := p.stdinClosed + 1, stdinFailed := true }
      refine ⟨failed.exit false closing, false, ?_, rfl,
        ⟨sockets, files, socketsClosed, filesUnlinked, connections, tailers⟩, once.le, ?_, nofun⟩
      · simp only [finalExit, closes, Bool.not_false, if_true, except_pure]
        rfl
      · intro _ unfailed
        cases unfailed
  | true =>
      let freed := { p with
        server := { p.server with buffer }
        stdinClosed := p.stdinClosed + 1
        stdinFailed := false }
      refine ⟨freed.exit success closing, success && closing.streamsClose, ?_, rfl,
        ⟨sockets, files, socketsClosed, filesUnlinked, connections, tailers⟩, once.le,
        fun _ _ => empty, ?_⟩
      · simp only [finalExit, closes, Bool.not_true, Bool.false_eq_true, if_false, frees,
          except_ok_bind, except_pure]
        rfl
      · intro succeeded
        rw [Bool.and_eq_true] at succeeded
        exact ⟨once, rfl, ends succeeded.1⟩

theorem Process.socketsFinal_releases {launch : ServerLaunch} {p : Process bufsiz}
    (running : p.Running launch) :
    ∃ p', p.socketsFinal = .ok p' ∧ p'.Released ∧ Whole p'.server.buffer ∧
      p'.stdinClosed = 0 ∧ (p.LoopEnds launch → p'.LoopEnds launch) := by
  obtain ⟨append, reachable⟩ := running.reachable
  obtain ⟨clients, tending⟩ := reachable.tending
  obtain ⟨tailers, firstTailer, connections, ends, registered, closes⟩ :=
    tending.registered.socketsFinal
  obtain ⟨server, final, empty, same⟩ := tending.registered.socketsFinal_roster
  rw [ends] at final
  cases final
  have sound : ((p.server.roster clients).keep []).Sound :=
    tending.sound.keep (List.nil_sublist _)
  have closed : ∀ socket < p.server.accepted, (connections socket).closes = 1 := by
    intro socket known
    have once := sound.closed socket known List.not_mem_nil
    rw [← same] at once
    exact once
  obtain ⟨sockets, files, socketsClosed, filesUnlinked, stdinClosed, interrupted⟩ :=
    running.closeListener
  refine ⟨{ p.closeListener with
    server := { p.server with tailers, firstTailer, connections } }, ?_, ?_, running.whole,
    stdinClosed, ?_⟩
  · rw [socketsFinal, closeListener_server, ends]
    rfl
  · exact ⟨sockets, files.le, socketsClosed, filesUnlinked, closed, heap_eq_empty empty.owned⟩
  · rintro (broken | caught | ⟨ignores, stdinWatcher, unixSockWatcher, _⟩)
    · exact .inl broken
    · exact .inr (.inl (interrupted.trans caught))
    · exact .inr (.inr ⟨ignores, stdinWatcher, unixSockWatcher, empty.first⟩)

theorem Process.finalAll_settles {launch : ServerLaunch} {p : Process bufsiz}
    (running : p.Running launch) (success : Bool) (ends : success = true → p.LoopEnds launch)
    (closing : Closing) :
    ∃ p' status, p.finalAll success closing = .ok p' ∧ p'.exited = some status ∧
      p'.Settled launch status := by
  obtain ⟨p₁, final, released, whole, unclosed, loopEnds⟩ := socketsFinal_releases running
  rw [finalAll, final, except_ok_bind]
  exact finalExit_settles released whole unclosed success (loopEnds ∘ ends) closing

/-! ## The start -/

/-- The process in front of `sockets_init`. -/
def Process.beforeSockets (launch : ServerLaunch) (buffer : Buffer.State bufsiz) :
    Process bufsiz where
  server := pipesInit { buffer, waitingForClient := launch.settings.waitForClient }

section Start

variable {launch : ServerLaunch} {first append : Nat × LineBuffer bufsiz}

theorem pipesInit_rest (s : State bufsiz) :
    (pipesInit s).buffer = s.buffer ∧ (pipesInit s).accepted = s.accepted ∧
      (pipesInit s).tailers = s.tailers ∧ (pipesInit s).firstTailer = s.firstTailer := by
  unfold pipesInit
  split <;> exact ⟨rfl, rfl, rfl, rfl⟩

theorem socketsFinal_of_none {s : State bufsiz} (none : s.firstTailer = none) :
    socketsFinal s = .ok s := by
  rw [socketsFinal, finalTailers, if_pos none]

/-- What `sockets_init` leaves: a running process, or everything given back. -/
inductive Process.SocketsInit (launch : ServerLaunch) (p : Process bufsiz) :
    Bool → Process bufsiz → Prop where
  | running {p' : Process bufsiz} : p'.exited = none →
      p'.server = (Server.socketsInit launch.options p.server true).2 →
      p'.unixSock = launch.filePath.isSome → p'.sockets = launch.filePath.toList.length →
      p'.files = p'.sockets → p'.socketsClosed = 0 → p'.filesUnlinked = 0 →
      p'.stdinClosed = 0 → SocketsInit launch p true p'
  | failed {p' : Process bufsiz} : p'.Released → p'.server.buffer = p.server.buffer →
      p'.stdinClosed = 0 → SocketsInit launch p false p'

theorem Process.socketsInit_cases (buffer : Buffer.State bufsiz) (startup : Startup bufsiz) :
    ∃ ok p', (beforeSockets launch buffer).socketsInit launch startup = .ok (ok, p') ∧
      SocketsInit launch (beforeSockets launch buffer) ok p' := by
  obtain ⟨_, accepted, tailers, firstTailer⟩ :=
    pipesInit_rest ({ buffer, waitingForClient := launch.settings.waitForClient } : State bufsiz)
  have none : ∀ socket < (beforeSockets launch buffer).server.accepted,
      ((beforeSockets launch buffer).server.connections socket).closes = 1 := by
    intro socket known
    rw [beforeSockets, accepted] at known
    cases known
  cases path : launch.filePath with
  | none =>
      refine ⟨_, _, by rw [socketsInit, path], ?_⟩
      refine .running rfl ?_ ?_ ?_ rfl rfl rfl rfl
      · simp [Server.socketsInit, ServerLaunch.options, path]
      · simp [path]
      · simp [path, beforeSockets]
  | some path' =>
      by_cases long : path'.bytes.length > sizeofSunPath - 1
      · refine ⟨false, beforeSockets launch buffer, ?_, .failed ?_ rfl rfl⟩
        · simp only [socketsInit, path, if_pos long]
        · exact ⟨Nat.zero_le _, Nat.le_refl _, rfl, rfl, none, tailers⟩
      cases opened : startup.opened with
      | false =>
          refine ⟨false, beforeSockets launch buffer, ?_, .failed ?_ rfl rfl⟩
          · simp only [socketsInit, path, if_neg long, opened, Bool.not_false, if_true]
          · exact ⟨Nat.zero_le _, Nat.le_refl _, rfl, rfl, none, tailers⟩
      | true =>
          cases bound : startup.bound with
          | false =>
              let p' := { beforeSockets launch buffer with
                sockets := 1, socketsClosed := 1, unixSock := false }
              refine ⟨false, p', ?_, .failed ?_ rfl rfl⟩
              · simp only [socketsInit, path, if_neg long, opened, bound, Bool.not_true,
                  Bool.false_eq_true, if_false, Bool.not_false, if_true]
                rfl
              · exact ⟨Nat.le_refl _, Nat.zero_le _, rfl, rfl, none, tailers⟩
          | true =>
              cases listening : startup.listening with
              | false =>
                  let p' := { beforeSockets launch buffer with
                    sockets := 1, socketsClosed := 1, files := 1, filesUnlinked := 1 }
                  refine ⟨false, p', ?_, .failed ?_ rfl rfl⟩
                  · have ends : Server.socketsFinal (beforeSockets launch buffer).server =
                        .ok (beforeSockets launch buffer).server := socketsFinal_of_none firstTailer
                    simp only [socketsInit, path, if_neg long, opened, bound, listening,
                      Bool.not_true, Bool.false_eq_true, if_false, Bool.not_false, if_true,
                      socketsFinal, closeListener_server, ends, except_ok_bind, except_pure]
                    rfl
                  · exact ⟨Nat.le_refl _, Nat.le_refl _, rfl, rfl, none, tailers⟩
              | true =>
                  let p' := { beforeSockets launch buffer with
                    server := { (beforeSockets launch buffer).server with unixSockWatcher := true }
                    unixSock := true, sockets := 1, files := 1 }
                  refine ⟨true, p', ?_, .running rfl ?_ ?_ ?_ rfl rfl rfl rfl⟩
                  · simp only [socketsInit, path, if_neg long, opened, bound, listening,
                      Bool.not_true, Bool.false_eq_true, if_false]
                    rfl
                  · simp [Server.socketsInit, ServerLaunch.options, path, p']
                  · simp [path, p']
                  · simp [path, p']

/-- The server that `sockets_init` leaves running is the one `init_all` starts. -/
theorem Process.SocketsInit.isRunning {p' : Process bufsiz}
    (supplied : (Execution.mk first append []).Supplied launch.options.buffer)
    (init : SocketsInit launch
      (beforeSockets launch (Execution.mk first append []).initial) true p') :
    p'.exited = none ∧ p'.Running launch := by
  cases init with
  | running exited server unixSock sockets files socketsClosed filesUnlinked stdinClosed =>
      have inits : bufferInit (some first) (some append) =
          .ok (true, (Execution.mk first append []).initial) := supplied.init
      have started : Server.initAll launch.options (some first) (some append) true =
          .ok (true, p'.server) := by
        rw [server]
        simp only [Server.initAll, inits, except_ok_bind, Bool.not_true, Bool.false_eq_true,
          if_false, except_pure]
        cases path : launch.filePath <;> simp [Server.socketsInit, ServerLaunch.options, path,
          beforeSockets]
      refine ⟨exited, ⟨append, .start first true supplied.first supplied.append started⟩, ?_,
        unixSock, sockets, files, socketsClosed, filesUnlinked, stdinClosed⟩
      rw [(started_of_initAll supplied.first supplied.append started).buffer]
      exact .inl ⟨_, _, _, supplied.linked⟩

end Start

/-- Nothing was made yet. -/
theorem Process.exit_settled {launch : ServerLaunch} {server : State bufsiz}
    (accepted : server.accepted = 0) (tailers : server.tailers = ∅) (closing : Closing) :
    (Process.exit { server } false closing).Settled launch false := by
  refine ⟨⟨Nat.zero_le _, Nat.le_refl _, rfl, rfl, ?_, tailers⟩, Nat.zero_le _, nofun, nofun⟩
  intro socket (known : socket < server.accepted)
  rw [accepted] at known
  cases known

theorem Process.initAll_accounts {launch : ServerLaunch} {startup : Startup bufsiz}
    (allocates : InitAllocates startup.first startup.append) (closing : Closing) :
    ∃ p, initAll launch startup closing = .ok p ∧
      (p.exited = none ∧ p.Running launch ∨
        ∃ success, p.exited = some success ∧ p.Settled launch success) := by
  rcases allocates.bufferInit launch.options.buffer with
    ⟨first, append, _, _, supplied, inits⟩ | ⟨buffer, inits⟩
  · cases reopened : startup.reopened with
    | false =>
        have runs : initAll launch startup closing = .ok (Process.exit { server :=
            { buffer := (Execution.mk first append []).initial,
              waitingForClient := launch.settings.waitForClient } } false closing) := by
          simp only [initAll, inits, except_ok_bind, reopened, Bool.not_true, Bool.not_false,
            Bool.false_eq_true, if_false, if_true, except_pure]
        exact ⟨_, runs, .inr ⟨false, rfl, exit_settled rfl rfl closing⟩⟩
    | true =>
        obtain ⟨ok, p', ran, init⟩ :=
          @socketsInit_cases _ launch (Execution.mk first append []).initial startup
        have runs : initAll launch startup closing =
            if ok then .ok p' else p'.finalExit false closing := by
          simp only [initAll, inits, except_ok_bind, reopened, Bool.not_true, Bool.false_eq_true,
            if_false, except_pure]
          rw [beforeSockets] at ran
          rw [ran]
          rfl
        cases ok with
        | true => exact ⟨p', runs, .inl (init.isRunning supplied)⟩
        | false =>
            cases init with
            | failed released buffer unclosed =>
                have whole : Whole p'.server.buffer := by
                  rw [buffer, beforeSockets, (pipesInit_rest _).1]
                  exact .inl ⟨_, _, _, supplied.linked⟩
                obtain ⟨p'', status, ends, exited, settled⟩ :=
                  @finalExit_settles _ launch _ released whole unclosed false nofun closing
                exact ⟨p'', runs.trans ends, .inr ⟨status, exited, settled⟩⟩
  · have runs : initAll launch startup closing = .ok (Process.exit { server :=
        { buffer, waitingForClient := launch.settings.waitForClient } } false closing) := by
      simp only [initAll, inits, except_ok_bind, Bool.not_false, if_true, except_pure]
    exact ⟨_, runs, .inr ⟨false, rfl, exit_settled rfl rfl closing⟩⟩

/-! ## Runs -/

theorem Process.Running.callback {launch : ServerLaunch} {p : Process bufsiz}
    {server : State bufsiz} {event : Server.Event bufsiz} (running : p.Running launch)
    (possible : Server.Possible p.server event)
    (ran : Server.handle launch.options p.server event = .ok server) :
    Running launch { p with server } := by
  obtain ⟨⟨append, reachable⟩, whole, unixSock, sockets, files, socketsClosed, filesUnlinked,
    stdinClosed⟩ := running
  exact ⟨⟨append, .step event reachable possible trivial ran⟩,
    whole_of_handle whole possible ran, unixSock, sockets, files, socketsClosed,
    filesUnlinked, stdinClosed⟩

/-- Every step accounts for what the process held. -/
theorem Process.Running.handle {launch : ServerLaunch} {p p' : Process bufsiz}
    {event : Process.Event bufsiz} (running : p.Running launch)
    (possible : p.Possible launch event) (ran : p.handle launch event = .ok p') :
    p'.exited = none ∧ p'.Running launch ∨
      ∃ success, p'.exited = some success ∧ p'.Settled launch success := by
  cases event with
  | callback event =>
      obtain ⟨server, calls, returned⟩ := except_bind_ok ran
      cases returned
      exact .inl ⟨possible.1, running.callback possible.2 calls⟩
  | interrupt =>
      cases ran
      exact .inl ⟨possible.1, running.reachable, running.whole, running.unixSock, running.sockets,
        running.files, running.socketsClosed, running.filesUnlinked, running.stdinClosed⟩
  | ended closing =>
      obtain ⟨p'', status, ends, exited, settled⟩ :=
        finalAll_settles running true (fun _ => possible.2) closing
      rw [show p.finalAll true closing = .ok p' from ran] at ends
      cases ends
      exact .inr ⟨status, exited, settled⟩
  | libevError closing =>
      obtain ⟨p'', status, ends, exited, settled⟩ :=
        @finalAll_settles _ launch _ running false nofun closing
      rw [show p.finalAll false closing = .ok p' from ran] at ends
      cases ends
      exact .inr ⟨status, exited, settled⟩

theorem Process.Possible.running {launch : ServerLaunch} {p : Process bufsiz}
    {event : Process.Event bufsiz} (possible : p.Possible launch event) : p.exited = none := by
  cases event with
  | callback => exact possible.1
  | interrupt => exact possible.1
  | ended => exact possible.1
  | libevError => exact possible

theorem Process.Reachable.accounts {launch : ServerLaunch} {p : Process bufsiz}
    (reachable : Reachable launch p) :
    p.exited = none ∧ p.Running launch ∨
      ∃ success, p.exited = some success ∧ p.Settled launch success := by
  induction reachable with
  | start startup closing allocates ran =>
      obtain ⟨p', ran', accounts⟩ := @initAll_accounts _ launch startup allocates closing
      rw [ran] at ran'
      cases ran'
      exact accounts
  | step event _ possible ran accounts =>
      rcases accounts with ⟨_, running⟩ | ⟨success, exited, _⟩
      · exact running.handle possible ran
      · rw [possible.running] at exited
        cases exited

/-- No step of a running process fails, the last one included. -/
theorem Process.Running.returns {launch : ServerLaunch} {p : Process bufsiz}
    {event : Process.Event bufsiz} (running : p.Running launch)
    (possible : p.Possible launch event)
    (takes : ∀ call, event = .callback call → Takes launch.options p.server call) :
    Returns (p.handle launch event) fun _ => True := by
  cases event with
  | callback event =>
      obtain ⟨append, reachable⟩ := running.reachable
      obtain ⟨clients, tending⟩ := reachable.tending
      exact (tending.handle possible.2 (takes event rfl)).bind fun _ _ => trivial
  | interrupt => trivial
  | ended closing =>
      obtain ⟨p', _, ends, _⟩ := finalAll_settles running true (fun _ => possible.2) closing
      rw [Process.handle, ends]
      trivial
  | libevError closing =>
      obtain ⟨p', _, ends, _⟩ := @finalAll_settles _ launch _ running false nofun closing
      rw [Process.handle, ends]
      trivial

/-- Whatever happens to the server, and whichever way it ends: as long as it runs it holds
the socket and the file it was asked for, and when it has exited, also from a failed start or
after an error of libev, all that it made was given back exactly once. It reports success only
when `stdin_cb` ended the loop, which it does for the end or an error of standard input or output
and also for want of memory, or an interrupt did, or there was nothing to wait for. -/
theorem lifecycle_of_reachable (launch : ServerLaunch) (p : Process bufsiz)
    (reachable : Process.Reachable launch p) :
    (p.exited = none → p.Running launch ∧
      ∀ event, p.Possible launch event →
        (∀ call, event = .callback call → Takes launch.options p.server call) →
        Returns (p.handle launch event) fun _ => True) ∧
      ∀ success, p.exited = some success → p.Settled launch success := by
  rcases reachable.accounts with ⟨running, accounts⟩ | ⟨status, exited, settled⟩
  · refine ⟨fun _ => ⟨accounts, fun event possible takes => accounts.returns possible takes⟩, ?_⟩
    intro success exited
    rw [running] at exited
    cases exited
  · constructor
    · intro running
      rw [exited] at running
      cases running
    · intro success same
      rw [exited] at same
      cases same
      exact settled

/-! A server that reads a line and the end of its standard input. -/

def sampleLaunch : ServerLaunch where
  settings := { countLines := true, nUnits := 1 }
  filePath := some ⟨[115], by decide⟩

def sampleStartup : Startup 4 where
  first := some sampleExecution.first
  append := some sampleExecution.append
  reopened := true
  opened := true
  bound := true
  listening := true

def sampleProcess (events : List (Process.Event 4)) : Process 4 :=
  let started := (Process.initAll sampleLaunch sampleStartup ⟨true, true⟩).toOption.getD
    { server := sampleStart }
  (events.foldlM (Process.handle sampleLaunch) started).toOption.getD { server := sampleStart }

def sampleLifecycle : List (Process.Event 4) :=
  [.callback sampleAccept, .callback sampleRead, .callback (.stdin .eof none []),
    .ended ⟨true, true⟩]

theorem sampleProcess_reachable :
    Process.Reachable sampleLaunch (sampleProcess sampleLifecycle) := by
  have started : Process.Reachable sampleLaunch (sampleProcess (sampleLifecycle.take 0)) := by
    refine .start sampleStartup ⟨true, true⟩ ⟨?_, ?_⟩ rfl
    · intro first same
      cases same
      decide
    · intro first append same same'
      cases same
      cases same'
      decide
  have accepted : Process.Reachable sampleLaunch (sampleProcess (sampleLifecycle.take 1)) := by
    refine .step (.callback sampleAccept) started ⟨rfl, rfl, ?_⟩ rfl
    intro block node same
    cases same
    decide
  have filled : Process.Reachable sampleLaunch (sampleProcess (sampleLifecycle.take 2)) := by
    refine .step (.callback sampleRead) accepted ⟨rfl, rfl, rfl, by decide, ?_⟩ rfl
    intro bytes same
    cases same
    decide
  have broken : Process.Reachable sampleLaunch (sampleProcess (sampleLifecycle.take 3)) := by
    refine .step (.callback (.stdin .eof none [])) filled ⟨rfl, rfl, rfl, ?_, ?_⟩ rfl
    · intro block node same
      cases same
    · intro bytes same
      cases same
  exact .step (.ended ⟨true, true⟩) broken ⟨rfl, .inl rfl⟩ rfl

theorem lifecycle_of_sampleProcess :
    ((sampleProcess sampleLifecycle).exited = none →
      (sampleProcess sampleLifecycle).Running sampleLaunch ∧
      ∀ event, (sampleProcess sampleLifecycle).Possible sampleLaunch event →
        (∀ call, event = .callback call →
          Takes sampleLaunch.options (sampleProcess sampleLifecycle).server call) →
        Returns ((sampleProcess sampleLifecycle).handle sampleLaunch event) fun _ => True) ∧
      ∀ success, (sampleProcess sampleLifecycle).exited = some success →
        (sampleProcess sampleLifecycle).Settled sampleLaunch success :=
  lifecycle_of_reachable sampleLaunch (sampleProcess sampleLifecycle) sampleProcess_reachable

example : (sampleProcess sampleLifecycle).exited = some true := by decide

end Tailserver.Server
