import Tailserver.Client.Calls

/-! How `clientconn_connect` opens the socket. The answer of each attempt goes through
three functions, and one of them returns `false` where the others expect a
descriptor. -/

set_option autoImplicit false

namespace Tailserver.Client

open CMemory Buffer

/-- `sizeof(UNIXaddr.sun_path)`. -/
def sizeofSunPath : Nat := 108

/-- What the kernel does at one attempt. The error is the one `errno` is left with. -/
inductive Attempt where
  | noSocket (errno : Errno)
  | refused (descriptor : Nat) (errno : Errno)
  | connected (descriptor : Nat)
  deriving DecidableEq

inductive SystemCall where
  | socket (result : Int)
  | connect (descriptor : Int) (sunPath : List UInt8) (result : Int)
  | close (descriptor : Int)
  deriving DecidableEq

/-- The attempts to come, `errno`, and the system calls made so far. -/
structure Opening where
  attempts : List Attempt
  errno : Errno
  calls : List SystemCall := []

def Opening.note (s : Opening) (call : SystemCall) : Opening :=
  { s with calls := s.calls ++ [call] }

def openSocket (s : Opening) : Except Fault (Int × Opening) :=
  match s.attempts with
  | [] => .error .blocked
  | .noSocket errno :: attempts =>
      .ok (invalidSocket, { s with attempts, errno }.note (.socket invalidSocket))
  | .refused descriptor _ :: _ => .ok (descriptor, s.note (.socket descriptor))
  | .connected descriptor :: _ => .ok (descriptor, s.note (.socket descriptor))

def connectSocket (s : Opening) (unixSock : Int) (sunPath : List UInt8) :
    Except Fault (Int × Opening) :=
  match s.attempts with
  | .refused _ errno :: attempts =>
      .ok (-1, { s with attempts, errno }.note (.connect unixSock sunPath (-1)))
  | .connected _ :: attempts =>
      .ok (0, { s with attempts }.note (.connect unixSock sunPath 0))
  | _ => .error .blocked

/-- `try_open_unix_socket`, where the bytes of the path come without the NUL. -/
def tryOpenUnixSocket (filePath : List UInt8) (s : Opening) : Except Fault (Int × Opening) := do
  -- `return false` in a function that returns a descriptor
  if filePath.length > sizeofSunPath - 1 then return (0, s)
  let (unixSock, s) ← openSocket s
  if unixSock = invalidSocket then return (invalidSocket, s)
  let sunPath ← intoArray sizeofSunPath (filePath ++ [0])
  let (res, s) ← connectSocket s unixSock sunPath
  if res = 0 then return (unixSock, s)
  else return (invalidSocket, s.note (.close unixSock))

/-- The errors that `open_unix_socket` knows waiting does not resolve, and the user's
request to abort. -/
def stopsRetrying (errno : Errno) : Bool :=
  errno = .eafnosupport || errno = .ealready || errno = .ebadf || errno = .eisconn ||
  errno = .enotsock || errno = .eprototype || errno = .enametoolong ||
  errno = .einval || errno = .eopnotsupp || errno = .eintr

def openUnixSocket (filePath : List UInt8) (waitForFile : Bool) :
    Nat → Opening → Except Fault (Int × Opening)
  | 0, _ => .error .diverged
  | fuel + 1, s => do
      let (unixSock, s) ← tryOpenUnixSocket filePath s
      if unixSock ≠ invalidSocket then return (unixSock, s)
      if !waitForFile || stopsRetrying s.errno then return (invalidSocket, s)
      openUnixSocket filePath waitForFile fuel s

/-- `clientconn_connect` with the attempts it makes. -/
def connectTo (conn : ClientConn) (filePath : List UInt8) (waitForFile : Bool) (s : Opening) :
    Except Fault ((Bool × ClientConn) × Opening) := do
  if conn.clientUnixSock ≠ invalidSocket then return (clientconnConnect conn invalidSocket, s)
  let (opened, s) ← openUnixSocket filePath waitForFile (s.attempts.length + 1) s
  return (clientconnConnect conn opened, s)

/-! ## What it should report -/

namespace Attempt

/-- The error a failed attempt leaves behind. -/
def failure : Attempt → Option Errno
  | .noSocket errno => some errno
  | .refused _ errno => some errno
  | .connected _ => none

/-- The calls an attempt should make. A descriptor that could not be connected is
closed, once. -/
def calls (filePath : List UInt8) : Attempt → List SystemCall
  | .noSocket _ => [.socket invalidSocket]
  | .refused descriptor _ => [.socket descriptor, .connect descriptor (filePath ++ [0]) (-1),
      .close descriptor]
  | .connected descriptor => [.socket descriptor, .connect descriptor (filePath ++ [0]) 0]

/-- Another attempt may follow. -/
def Retryable (waitForFile : Bool) (attempt : Attempt) : Prop :=
  waitForFile = true ∧ ∃ errno, attempt.failure = some errno ∧ stopsRetrying errno = false

end Attempt

/-- What is to hold when `clientconn_connect` has returned after the attempts `made`. -/
structure Reports (filePath : List UInt8) (waitForFile : Bool) (made : List Attempt)
    (result : Bool) (conn : ClientConn) (calls : List SystemCall) : Prop where
  success : result = true ↔ ∃ descriptor, made.getLast? = some (.connected descriptor)
  socket : ∀ descriptor, made.getLast? = some (.connected descriptor) →
    conn.clientUnixSock = descriptor
  failure : result = false → conn.clientUnixSock = invalidSocket
  calls : calls = made.flatMap (Attempt.calls filePath)
  retried : ∀ attempt ∈ made.dropLast, attempt.Retryable waitForFile
  once : waitForFile = false → made.length = 1

/-- A call returns with a right report, or it waits for the kernel and every attempt so
far was one to be retried. -/
def ConnectsTo (conn : ClientConn) (filePath : List UInt8) (waitForFile : Bool)
    (attempts : List Attempt) (errno : Errno) : Prop :=
  match connectTo conn filePath waitForFile { attempts, errno } with
  | .ok ((result, conn'), s) => ∃ made, attempts = made ++ s.attempts ∧
      Reports filePath waitForFile made result conn' s.calls
  | .error fault => fault = .blocked ∧ ∀ attempt ∈ attempts, attempt.Retryable waitForFile

/-! ## Attempts -/

/-- What `try_open_unix_socket` returns for an attempt. -/
def Attempt.opened : Attempt → Int
  | .noSocket _ => invalidSocket
  | .refused _ _ => invalidSocket
  | .connected descriptor => descriptor

theorem descriptor_ne_invalid (descriptor : Nat) : (descriptor : Int) ≠ invalidSocket := by
  simp only [invalidSocket]
  omega

theorem Attempt.opened_eq_invalid_iff (attempt : Attempt) :
    attempt.opened = invalidSocket ↔ ∃ errno, attempt.failure = some errno := by
  cases attempt with
  | noSocket errno => simp [opened, failure]
  | refused descriptor errno => simp [opened, failure]
  | connected descriptor => simp [opened, failure, descriptor_ne_invalid]

section Attempts

variable {filePath : List UInt8} {waitForFile : Bool}

theorem tryOpenUnixSocket_long (long : filePath.length > sizeofSunPath - 1) (s : Opening) :
    tryOpenUnixSocket filePath s = .ok (0, s) := by
  simp only [tryOpenUnixSocket, if_pos long, except_pure]

theorem tryOpenUnixSocket_nil (short : filePath.length ≤ sizeofSunPath - 1) (errno : Errno)
    (calls : List SystemCall) :
    tryOpenUnixSocket filePath ⟨[], errno, calls⟩ = .error .blocked := by
  simp only [tryOpenUnixSocket, if_neg (Nat.not_lt.mpr short), openSocket]
  rfl

theorem tryOpenUnixSocket_cons (short : filePath.length ≤ sizeofSunPath - 1)
    (attempt : Attempt) (attempts : List Attempt) (errno : Errno) (calls : List SystemCall) :
    tryOpenUnixSocket filePath ⟨attempt :: attempts, errno, calls⟩ =
      .ok (attempt.opened, ⟨attempts, attempt.failure.getD errno,
        calls ++ attempt.calls filePath⟩) := by
  have fits : intoArray sizeofSunPath (filePath ++ [0]) = .ok (filePath ++ [0]) := by
    apply intoArray_of_le
    simp only [sizeofSunPath, List.length_append, List.length_singleton] at short ⊢
    omega
  simp only [tryOpenUnixSocket, if_neg (Nat.not_lt.mpr short), openSocket]
  cases attempt with
  | noSocket errno => rfl
  | refused descriptor errno =>
      simp only [except_ok_bind, if_neg (descriptor_ne_invalid descriptor), fits, Opening.note,
        connectSocket]
      simp [except_pure, Attempt.opened, Attempt.failure, Attempt.calls]
  | connected descriptor =>
      simp only [except_ok_bind, if_neg (descriptor_ne_invalid descriptor), fits, Opening.note,
        connectSocket]
      simp [except_pure, Attempt.opened, Attempt.failure, Attempt.calls]

/-- How the loop over the attempts ends. -/
inductive Opens (filePath : List UInt8) (waitForFile : Bool) (attempts : List Attempt)
    (calls : List SystemCall) : Except Fault (Int × Opening) → Prop where
  | waiting : (∀ attempt ∈ attempts, attempt.Retryable waitForFile) →
      Opens filePath waitForFile attempts calls (.error .blocked)
  | returned {earlier later : List Attempt} {last : Attempt} {errno : Errno} :
      attempts = earlier ++ last :: later →
      (∀ attempt ∈ earlier, attempt.Retryable waitForFile) →
      Opens filePath waitForFile attempts calls (.ok (last.opened, ⟨later, errno,
        calls ++ (earlier ++ [last]).flatMap (Attempt.calls filePath)⟩))

theorem Opens.retry {first : Attempt} {attempts : List Attempt} {calls : List SystemCall}
    {result : Except Fault (Int × Opening)} (retryable : first.Retryable waitForFile)
    (opens : Opens filePath waitForFile attempts (calls ++ first.calls filePath) result) :
    Opens filePath waitForFile (first :: attempts) calls result := by
  have all : ∀ earlier : List Attempt, (∀ attempt ∈ earlier, attempt.Retryable waitForFile) →
      ∀ attempt ∈ first :: earlier, attempt.Retryable waitForFile :=
    fun earlier retried => List.forall_mem_cons.mpr ⟨retryable, retried⟩
  cases opens with
  | waiting retried => exact .waiting (all attempts retried)
  | @returned earlier later last errno split retried =>
      have joined : calls ++ first.calls filePath ++
          (earlier ++ [last]).flatMap (Attempt.calls filePath) =
          calls ++ (first :: earlier ++ [last]).flatMap (Attempt.calls filePath) := by simp
      rw [joined]
      exact .returned (by rw [split, List.cons_append]) (all earlier retried)

/-- With a path that fits, the loop retries as it should until it returns. -/
theorem openUnixSocket_opens (short : filePath.length ≤ sizeofSunPath - 1) (fuel : Nat)
    (attempts : List Attempt) (errno : Errno) (calls : List SystemCall)
    (enough : attempts.length < fuel) :
    Opens filePath waitForFile attempts calls
      (openUnixSocket filePath waitForFile fuel ⟨attempts, errno, calls⟩) := by
  induction attempts generalizing fuel errno calls with
  | nil =>
      obtain ⟨fuel, rfl⟩ : ∃ rest, fuel = rest + 1 := ⟨fuel - 1, by omega⟩
      simp only [openUnixSocket, tryOpenUnixSocket_nil short]
      exact .waiting (fun attempt member => by cases member)
  | cons first attempts ih =>
      obtain ⟨fuel, rfl⟩ : ∃ rest, fuel = rest + 1 := ⟨fuel - 1, by omega⟩
      have alone : Opens filePath waitForFile (first :: attempts) calls (.ok (first.opened,
          ⟨attempts, first.failure.getD errno, calls ++ first.calls filePath⟩)) := by
        have single := @Opens.returned filePath waitForFile (first :: attempts) calls [] attempts
          first (first.failure.getD errno) rfl (fun attempt member => by cases member)
        simpa using single
      simp only [openUnixSocket, tryOpenUnixSocket_cons short, except_ok_bind]
      by_cases failed : first.opened = invalidSocket
      · obtain ⟨errno', failure⟩ := first.opened_eq_invalid_iff.mp failed
        rw [if_neg (not_not_intro failed)]
        split
        · rw [failed] at alone
          exact alone
        · next goes =>
          simp only [failure, Option.getD_some, Bool.or_eq_true, Bool.not_eq_true', not_or,
            Bool.not_eq_false, Bool.not_eq_true] at goes
          exact (ih fuel _ _ (Nat.lt_of_succ_lt_succ enough)).retry
            ⟨goes.1, errno', failure, goes.2⟩
      · rw [if_pos failed]
        exact alone

end Attempts

/-- A report of the last attempt. -/
theorem Reports.of_returned {filePath : List UInt8} {waitForFile : Bool}
    {earlier : List Attempt} {last : Attempt}
    (retried : ∀ attempt ∈ earlier, attempt.Retryable waitForFile) (closes : List Int) :
    Reports filePath waitForFile (earlier ++ [last]) (decide (last.opened ≠ invalidSocket))
      { clientUnixSock := last.opened, closes }
      ((earlier ++ [last]).flatMap (Attempt.calls filePath)) := by
  have connected : ∀ descriptor, (earlier ++ [last]).getLast? = some (.connected descriptor) ↔
      last = .connected descriptor := by
    intro descriptor
    rw [List.getLast?_concat, Option.some.injEq]
  refine ⟨?_, fun descriptor reached => ?_, fun failed => ?_, rfl, ?_, fun once => ?_⟩
  · simp only [connected, decide_eq_true_eq, ne_eq, last.opened_eq_invalid_iff]
    cases last <;> simp [Attempt.failure]
  · rw [(connected descriptor).mp reached]
    rfl
  · simpa using failed
  · rw [List.dropLast_concat]
    exact retried
  · cases earlier with
    | nil => rfl
    | cons first earlier =>
        have again := (retried first (.head _)).1
        rw [once] at again
        cases again

/-- `clientconn_connect` reports what happened exactly when the path fits. A longer one
never reaches the kernel and yields descriptor 0. -/
theorem connectsTo_iff (conn : ClientConn) (closed : conn.clientUnixSock = invalidSocket)
    (filePath : List UInt8) (waitForFile : Bool) (attempts : List Attempt) (errno : Errno) :
    ConnectsTo conn filePath waitForFile attempts errno ↔
      filePath.length ≤ sizeofSunPath - 1 := by
  have reset := clientconnConnect_of_eof (decide_eq_true closed)
  simp only [ConnectsTo, connectTo, closed, ne_eq, not_true_eq_false, if_false, reset]
  constructor
  · intro connects
    by_contra long
    simp only [openUnixSocket, tryOpenUnixSocket_long (Nat.lt_of_not_le long), except_ok_bind,
      if_pos (show (0 : Int) ≠ invalidSocket by decide), except_pure] at connects
    obtain ⟨made, split, reports⟩ := connects
    have none : made = [] := List.self_eq_append_left.mp split
    obtain ⟨descriptor, reached⟩ := reports.success.mp rfl
    rw [none] at reached
    cases reached
  · intro short
    have opens : Opens filePath waitForFile attempts []
        (openUnixSocket filePath waitForFile (attempts.length + 1) { attempts, errno }) :=
      openUnixSocket_opens short _ attempts errno [] (Nat.lt_succ_self _)
    generalize openUnixSocket filePath waitForFile (attempts.length + 1) { attempts, errno } =
      result at opens ⊢
    cases opens with
    | waiting retried => exact ⟨rfl, retried⟩
    | returned split retried =>
        exact ⟨_, by rw [split, List.append_assoc, List.singleton_append],
          .of_returned retried conn.closes⟩

/-- One byte too long. -/
def longPath : List UInt8 := List.replicate 108 97

theorem connectsTo_iff_of_longPath :
    ConnectsTo {} longPath false [.connected 3] .eintr ↔ longPath.length ≤ sizeofSunPath - 1 :=
  connectsTo_iff {} rfl longPath false [.connected 3] .eintr

/-- The client takes its standard input for the server. -/
theorem not_connectsTo_of_longPath :
    connectTo {} longPath false ⟨[], .eintr, []⟩ =
        .ok ((true, { clientUnixSock := 0 }), ⟨[], .eintr, []⟩) ∧
      ¬ ∀ filePath waitForFile attempts errno,
        ConnectsTo {} filePath waitForFile attempts errno := by
  refine ⟨rfl, fun promise => ?_⟩
  obtain ⟨made, split, reports⟩ := promise longPath false [] .eintr
  obtain ⟨descriptor, reached⟩ := reports.success.mp rfl
  have none : made = [] := (List.append_eq_nil_iff.mp split.symm).1
  rw [none] at reached
  cases reached

end Tailserver.Client
