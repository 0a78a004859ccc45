import Tailserver.Server.Callbacks

/-! The listening socket in `unix_sock_cb`: the flags it has while `accept` is called, and the
messages about connections that could not be accepted. -/

set_option autoImplicit false

namespace Tailserver.Server

open CMemory

/-! ## The source -/

/-- `O_NONBLOCK`. -/
def oNonblock : UInt32 := 0x800

/-- What the callback does that can be noticed from outside. -/
inductive Notice where
  /-- `accept`, with the flags the socket has at that moment. -/
  | accept (flags : UInt32) (answer : AcceptAnswer)
  | retryingAccept
  | errorInAccept
  | sleep
  deriving DecidableEq

structure Listener where
  socketFlags : UInt32
  acceptErrorCount : UInt32 := 0
  /-- The flags that the kernel has for the socket. -/
  flags : UInt32
  notices : List Notice := []

/-- What a callback meets: the answers of `accept`, and the `errno` that `perror` leaves behind
it, for the last retry and for the error. -/
structure Accepting where
  attempts : List AcceptAnswer
  afterRetry : Errno
  afterReport : Errno

namespace Listener

def note (l : Listener) (notice : Notice) : Listener :=
  { l with notices := l.notices ++ [notice] }

/-- `fcntl(unix_sock, F_SETFL, flags)`. -/
def setFlags (l : Listener) (flags : UInt32) : Listener := { l with flags }

/-- What `sockets_init` leaves. -/
def init (socketFlags : UInt32) : Listener := { socketFlags, flags := socketFlags }

/-- The loop around `accept`, with the rounds left. There is a new socket or an `errno`. -/
def acceptRounds (afterRetry : Errno) :
    Nat → Listener → List AcceptAnswer → Except Fault (Option Errno × Listener)
  | 0, l, _ => .ok (some afterRetry, l)
  | _ + 1, _, [] => .error .blocked
  | _ + 1, l, .connected :: _ => .ok (none, l.note (.accept l.flags .connected))
  | rounds + 1, l, .failed errno :: answers =>
      let l := l.note (.accept l.flags (.failed errno))
      if isErrnoRetryFriendly errno then
        let l := l.note .retryingAccept
        -- "Try without O_NONBLOCK", after the last round
        let l := if rounds = 0 then l.setFlags l.socketFlags else l
        acceptRounds afterRetry rounds l answers
      else .ok (some errno, l)

/-- `accept_error_count++` and the message, with the `errno` behind them. -/
def countFailure (l : Listener) (errno afterReport : Errno) : Errno × Listener :=
  let counted := { l with acceptErrorCount := l.acceptErrorCount + 1 }
  if l.acceptErrorCount &&& 255 = 0 then (afterReport, counted.note .errorInAccept)
  else (errno, counted)

/-- `unix_sock_cb` up to the new socket, if there is one. -/
def acceptConnection (l : Listener) (call : Accepting) : Except Fault (Bool × Listener) := do
  let l := l.setFlags (l.socketFlags ||| oNonblock)
  let (failed, l) ← acceptRounds call.afterRetry maxAcceptRetry l call.attempts
  let l := l.setFlags l.socketFlags
  match failed with
  | none => return (true, l)
  | some errno =>
      let (errno, l) := l.countFailure errno call.afterReport
      return (false, if errno = .enfile || errno = .emfile then l.note .sleep else l)

/-- The callbacks one after the other: what each of them finds, and the listener behind it with
what it did. -/
def run (l : Listener) : List Accepting → Except Fault (List (Bool × Listener))
  | [] => .ok []
  | call :: calls => do
      let (connected, l) ← acceptConnection { l with notices := [] } call
      let later ← l.run calls
      return (connected, l) :: later

end Listener

/-! ## One callback -/

/-- `accept` returns at once. -/
def Notice.Prompt : Notice → Prop
  | .accept flags _ => flags &&& oNonblock = oNonblock
  | .retryingAccept => True
  | .errorInAccept => True
  | .sleep => True

def Notice.isAccept : Notice → Bool
  | .accept _ _ => true
  | .retryingAccept => false
  | .errorInAccept => false
  | .sleep => false

theorem prompt_or (flags : UInt32) : (flags ||| oNonblock) &&& oNonblock = oNonblock := by
  apply UInt32.toBitVec_inj.mp
  ext i
  simp only [UInt32.toBitVec_and, UInt32.toBitVec_or, BitVec.getElem_and, BitVec.getElem_or,
    Bool.and_eq_right_iff_imp, Bool.or_eq_true]
  exact .inr

/-- What some rounds of the loop do. -/
structure Tries (rounds : Nat) (l : Listener) (failed : Option Errno) (l' : Listener)
    (tried : List Notice) : Prop where
  socketFlags : l'.socketFlags = l.socketFlags
  count : l'.acceptErrorCount = l.acceptErrorCount
  notices : l'.notices = l.notices ++ tried
  prompt : ∀ notice ∈ tried, notice.Prompt
  accepts : tried.countP Notice.isAccept ≤ rounds
  silent : .errorInAccept ∉ tried
  awake : .sleep ∉ tried
  last : ∀ flags errno, .accept flags (.failed errno) ∈ tried →
    isErrnoRetryFriendly errno = false → failed = some errno

theorem Tries.connected {rounds : Nat} {l : Listener}
    (nonblocking : l.flags &&& oNonblock = oNonblock) :
    Tries (rounds + 1) l none (l.note (.accept l.flags .connected))
      [.accept l.flags .connected] where
  socketFlags := rfl
  count := rfl
  notices := rfl
  prompt := by simpa [Notice.Prompt] using nonblocking
  accepts := by simp [Notice.isAccept]
  silent := by simp
  awake := by simp
  last := by simp

theorem Tries.failed {rounds : Nat} {l : Listener} {errno : Errno}
    (nonblocking : l.flags &&& oNonblock = oNonblock) :
    Tries (rounds + 1) l (some errno) (l.note (.accept l.flags (.failed errno)))
      [.accept l.flags (.failed errno)] where
  socketFlags := rfl
  count := rfl
  notices := rfl
  prompt := by simpa [Notice.Prompt] using nonblocking
  accepts := by simp [Notice.isAccept]
  silent := by simp
  awake := by simp
  last := by
    intro flags errno' member _
    simp only [List.mem_singleton, Notice.accept.injEq, AcceptAnswer.failed.injEq] at member
    rw [member.2]

/-- A retry is one more `accept` and a message. -/
theorem Tries.retry {rounds : Nat} {l l' : Listener} {flags : UInt32} {errno : Errno}
    {failed : Option Errno} {tried : List Notice}
    (nonblocking : l.flags &&& oNonblock = oNonblock)
    (friendly : isErrnoRetryFriendly errno = true)
    (later : Tries rounds
      (((l.note (.accept l.flags (.failed errno))).note .retryingAccept).setFlags flags)
      failed l' tried) :
    Tries (rounds + 1) l failed l'
      (.accept l.flags (.failed errno) :: .retryingAccept :: tried) := by
  obtain ⟨socketFlags, count, notices, prompt, accepts, silent, awake, last⟩ := later
  refine ⟨socketFlags, count, ?_, ?_, ?_, by simpa using silent, by simpa using awake, ?_⟩
  · simpa [Listener.setFlags, Listener.note] using notices
  · intro notice member
    rcases List.mem_cons.mp member with rfl | member
    · exact nonblocking
    rcases List.mem_cons.mp member with rfl | member
    · trivial
    · exact prompt notice member
  · simp only [List.countP_cons, Notice.isAccept]
    simp only [if_true, Bool.false_eq_true, if_false]
    omega
  · intro flags' errno' member hard
    simp only [List.mem_cons, Notice.accept.injEq, AcceptAnswer.failed.injEq, reduceCtorEq,
      false_or] at member
    rcases member with ⟨_, rfl⟩ | member
    · rw [friendly] at hard
      cases hard
    · exact last flags' errno' member hard

theorem acceptRounds_tries (afterRetry : Errno) (rounds : Nat) (l : Listener)
    (attempts : List AcceptAnswer)
    (nonblocking : 0 < rounds → l.flags &&& oNonblock = oNonblock) :
    Lockstep (fun connected result => connected = result.1.isNone ∧
        ∃ tried, Tries rounds l result.1 result.2 tried)
      (acceptRetrying rounds attempts) (Listener.acceptRounds afterRetry rounds l attempts) := by
  induction rounds generalizing l attempts with
  | zero =>
      exact ⟨rfl, [], rfl, rfl, (List.append_nil _).symm, by simp, Nat.le_refl _, by simp,
        by simp, by simp⟩
  | succ rounds ih =>
      have prompt := nonblocking (Nat.succ_pos rounds)
      cases attempts with
      | nil => rfl
      | cons attempt attempts =>
          cases attempt with
          | connected => exact ⟨rfl, _, .connected prompt⟩
          | failed errno =>
              rw [acceptRetrying, Listener.acceptRounds]
              dsimp only
              cases retries : isErrnoRetryFriendly errno with
              | false =>
                  rw [if_neg Bool.false_ne_true, if_neg Bool.false_ne_true]
                  exact ⟨rfl, _, .failed prompt⟩
              | true =>
                  rw [if_pos rfl, if_pos rfl]
                  split
                  · next last =>
                    refine (ih _ attempts fun more => ?_).mono ?_
                    · omega
                    · exact fun _ _ ⟨same, _, tries⟩ => ⟨same, _, tries.retry prompt retries⟩
                  · have later := ih ((l.note (.accept l.flags (.failed errno))).note
                      .retryingAccept) attempts fun _ => prompt
                    refine later.mono fun _ result ⟨same, tried, tries⟩ => ⟨same, ?_⟩
                    exact ⟨_, @Tries.retry rounds l result.2 l.flags errno result.1 tried prompt
                      retries tries⟩

/-- What a callback does and leaves behind that has had `failures` without a connection before
it. -/
structure Attends (kept : UInt32) (failures : Nat) (call : Accepting) (connected : Bool)
    (l : Listener) : Prop where
  socketFlags : l.socketFlags = kept
  flags : l.flags = kept
  count : l.acceptErrorCount = UInt32.ofNat (failures + if connected then 0 else 1)
  prompt : ∀ notice ∈ l.notices, notice.Prompt
  accepts : l.notices.countP Notice.isAccept ≤ maxAcceptRetry
  errors : l.notices.count .errorInAccept =
    if connected = false ∧ failures % 256 = 0 then 1 else 0
  sleeps : l.notices.count .sleep ≤ if connected then 0 else 1
  /-- A failure that is not reported. -/
  rests : failures % 256 ≠ 0 → ∀ flags errno, .accept flags (.failed errno) ∈ l.notices →
    errno = .enfile ∨ errno = .emfile → .sleep ∈ l.notices
  /-- One that is: `perror` may have changed `errno`. -/
  reported : connected = false → failures % 256 = 0 →
    (.sleep ∈ l.notices ↔ call.afterReport = .enfile ∨ call.afterReport = .emfile)

/-- The counter may wrap: the messages do not notice. -/
theorem and_255_eq_zero_iff (failures : Nat) :
    UInt32.ofNat failures &&& 255 = 0 ↔ failures % 256 = 0 := by
  have low : (UInt32.ofNat failures &&& 255).toNat = failures % 256 := by
    rw [UInt32.toNat_and, UInt32.toNat_ofNat', show (255 : UInt32).toNat = 2 ^ 8 - 1 from rfl,
      Nat.and_two_pow_sub_one_eq_mod, Nat.mod_mod_of_dvd _ (by decide)]
  rw [← UInt32.toNat_inj, low]
  rfl

/-- The listening socket between two callbacks. -/
structure Listens (kept : UInt32) (failures : Nat) (l : Listener) : Prop where
  socketFlags : l.socketFlags = kept
  flags : l.flags = kept
  count : l.acceptErrorCount = UInt32.ofNat failures

theorem listens_init (kept : UInt32) : Listens kept 0 (.init kept) := ⟨rfl, rfl, rfl⟩

theorem Attends.listens {kept : UInt32} {failures : Nat} {call : Accepting} {connected : Bool}
    {l : Listener} (attends : Attends kept failures call connected l) :
    Listens kept (failures + if connected then 0 else 1) l :=
  ⟨attends.socketFlags, attends.flags, attends.count⟩

/-- There was a connection. -/
theorem Listens.attends_connected {kept flags : UInt32} {failures : Nat} {call : Accepting}
    {l l' : Listener} {tried : List Notice} (listens : Listens kept failures l)
    (tries : Tries maxAcceptRetry (({ l with notices := [] } : Listener).setFlags flags) none l'
      tried) :
    Attends kept failures call true (l'.setFlags l'.socketFlags) := by
  obtain ⟨socketFlags, count, notices, prompt, accepts, silent, awake, last⟩ := tries
  have noted : (l'.setFlags l'.socketFlags).notices = tried := notices
  refine ⟨socketFlags.trans listens.socketFlags, socketFlags.trans listens.socketFlags,
    count.trans listens.count, ?_, ?_, ?_, ?_, ?_, ?_⟩
  · rwa [noted]
  · rwa [noted]
  · rw [noted, List.count_eq_zero_of_not_mem silent, if_neg (by simp)]
  · rw [noted, List.count_eq_zero_of_not_mem awake]
    exact Nat.zero_le _
  · intro _ flags' errno member exhausted
    rw [noted] at member
    have hard : isErrnoRetryFriendly errno = false := by
      rcases exhausted with rfl | rfl <;> rfl
    cases last flags' errno member hard
  · intro failed
    cases failed

/-- The `errno` that is tested behind the messages, and the listener with them. -/
theorem countFailure_eq (l : Listener) (errno afterReport : Errno) :
    l.countFailure errno afterReport =
      (if l.acceptErrorCount &&& 255 = 0 then afterReport else errno,
        { l with
          acceptErrorCount := l.acceptErrorCount + 1
          notices := l.notices ++
            if l.acceptErrorCount &&& 255 = 0 then [.errorInAccept] else [] }) := by
  rw [Listener.countFailure]
  split
  · rfl
  · simp only [List.append_nil]

theorem note_sleep_eq (l : Listener) (rests : Prop) [Decidable rests] :
    (if rests then l.note .sleep else l) =
      { l with notices := l.notices ++ if rests then [.sleep] else [] } := by
  split
  · rfl
  · rw [List.append_nil]

/-- There was none: what is noted behind the attempts. -/
theorem Tries.attends {kept : UInt32} {failures : Nat} {call : Accepting} {errno tested : Errno}
    {l l' l'' : Listener} {tried : List Notice}
    (tries : Tries maxAcceptRetry l (some errno) l' tried)
    (listens : Listens kept (failures + 1) l'')
    (tests : tested = if failures % 256 = 0 then call.afterReport else errno)
    (noted : l''.notices = tried ++ (if failures % 256 = 0 then [.errorInAccept] else []) ++
      if tested = .enfile ∨ tested = .emfile then [.sleep] else []) :
    Attends kept failures call false l'' := by
  obtain ⟨_, _, _, prompt, accepts, silent, awake, last⟩ := tries
  have silent' := List.count_eq_zero_of_not_mem silent
  have awake' := List.count_eq_zero_of_not_mem awake
  refine ⟨listens.socketFlags, listens.flags, listens.count, ?_, ?_, ?_, ?_, ?_, ?_⟩
  · intro notice member
    rw [noted, List.mem_append, List.mem_append] at member
    rcases member with (member | member) | member
    · exact prompt notice member
    · split at member <;> simp_all [Notice.Prompt]
    · split at member <;> simp_all [Notice.Prompt]
  · rw [noted, List.countP_append, List.countP_append]
    split <;> split <;> simpa [Notice.isAccept] using accepts
  · rw [noted, List.count_append, List.count_append, silent']
    split <;> split <;> simp_all
  · rw [noted, List.count_append, List.count_append, awake']
    split <;> split <;> simp
  · intro unreported flags errno' member exhausted
    have hard : isErrnoRetryFriendly errno' = false := by
      rcases exhausted with rfl | rfl <;> rfl
    rw [if_neg unreported] at tests noted
    have accepted : .accept flags (.failed errno') ∈ tried := by
      rw [noted] at member
      split at member <;> simpa using member
    have same := last flags errno' accepted hard
    rw [Option.some.injEq] at same
    rw [tests, same, if_pos exhausted] at noted
    simp [noted]
  · intro _ reported
    rw [if_pos reported] at tests noted
    rw [noted, tests]
    split <;> simp_all

theorem Listens.attends_failed {kept flags : UInt32} {failures : Nat} {call : Accepting}
    {errno : Errno} {l l' : Listener} {tried : List Notice} (listens : Listens kept failures l)
    (tries : Tries maxAcceptRetry (({ l with notices := [] } : Listener).setFlags flags)
      (some errno) l' tried) :
    Attends kept failures call false
      (let (errno, l'') := (l'.setFlags l'.socketFlags).countFailure errno call.afterReport
        if errno = .enfile || errno = .emfile then l''.note .sleep else l'') := by
  have noted : l'.notices = tried := tries.notices
  have count : l'.acceptErrorCount = UInt32.ofNat failures := tries.count.trans listens.count
  have kept' : l'.socketFlags = kept := tries.socketFlags.trans listens.socketFlags
  have next : l'.acceptErrorCount + 1 = UInt32.ofNat (failures + 1) := by
    rw [count, UInt32.ofNat_add]
    rfl
  have turn : l'.acceptErrorCount &&& 255 = 0 ↔ failures % 256 = 0 := by
    rw [count, and_255_eq_zero_iff]
  rw [countFailure_eq]
  simp only [Listener.setFlags, turn, Bool.or_eq_true, decide_eq_true_eq, note_sleep_eq]
  refine tries.attends ?_ rfl ?_
  · exact ⟨kept', kept', next⟩
  · rw [noted]

/-- A callback finds the connection that the plain loop finds. -/
theorem Listens.acceptConnection {kept : UInt32} {failures : Nat} {l : Listener}
    (listens : Listens kept failures l) (call : Accepting) :
    Lockstep (fun connected result => connected = result.1 ∧
        Attends kept failures call connected result.2)
      (acceptRetrying maxAcceptRetry call.attempts)
      (Listener.acceptConnection { l with notices := [] } call) := by
  have tries := acceptRounds_tries call.afterRetry maxAcceptRetry
    (({ l with notices := [] } : Listener).setFlags (l.socketFlags ||| oNonblock))
    call.attempts fun _ => prompt_or l.socketFlags
  rw [← bind_pure (acceptRetrying maxAcceptRetry call.attempts)]
  apply Lockstep.bind tries
  rintro connected ⟨failed, l'⟩ ⟨rfl, tried, tries⟩
  cases failed with
  | none => exact ⟨rfl, listens.attends_connected tries⟩
  | some errno => exact ⟨rfl, listens.attends_failed tries⟩

/-! ## Runs -/

/-- The callbacks of a run, with the failures before each. -/
inductive AttendsEach (kept : UInt32) :
    Nat → List Accepting → List (Bool × Listener) → Prop where
  | nil {failures} : AttendsEach kept failures [] []
  | cons {failures call connected l calls results} :
      Attends kept failures call connected l →
      AttendsEach kept (failures + if connected then 0 else 1) calls results →
      AttendsEach kept failures (call :: calls) ((connected, l) :: results)

theorem Listens.run {kept : UInt32} {failures : Nat} {l : Listener}
    (listens : Listens kept failures l) (calls : List Accepting) :
    Lockstep (fun found results => found = results.map Prod.fst ∧
        AttendsEach kept failures calls results)
      (calls.mapM fun call => acceptRetrying maxAcceptRetry call.attempts) (l.run calls) := by
  induction calls generalizing l failures with
  | nil => exact ⟨rfl, .nil⟩
  | cons call calls ih =>
      rw [List.mapM_cons, Listener.run]
      apply (listens.acceptConnection call).bind
      rintro connected ⟨connected', l'⟩ ⟨rfl, attends⟩
      apply (ih attends.listens).bind
      rintro found results ⟨rfl, each⟩
      exact ⟨rfl, .cons attends each⟩

/-- However `accept` and `perror` behave: a callback never calls `accept` on a socket that may
block, even where the loop means it to, and calls it no more than ten times; the socket has its
flags back after each callback; the connections found are those of the plain loop; the first of
every 256 failures is reported; and the loop sleeps once at most, and does for a failure that
calls for it unless it was reported and `perror` has lost the `errno`. -/
theorem attends_of_run (socketFlags : UInt32) (calls : List Accepting) :
    Lockstep (fun found results => found = results.map Prod.fst ∧
        AttendsEach socketFlags 0 calls results)
      (calls.mapM fun call => acceptRetrying maxAcceptRetry call.attempts)
      ((Listener.init socketFlags).run calls) :=
  (listens_init socketFlags).run calls

end Tailserver.Server
