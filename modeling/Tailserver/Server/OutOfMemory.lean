import Tailserver.Buffer.OutOfMemory
import Tailserver.Server.Tee
import Mathlib.Logic.Relation

/-! The server when an append finds no memory: `stdin_cb` ends the loop, and no
callback that still runs comes near the buffer's spare block. -/

set_option autoImplicit false

namespace Tailserver.Server

open CMemory Buffer

variable {bufsiz : Nat}

/-- Some callback takes the server from one state to another. -/
def Steps (options : Options) (s s' : State bufsiz) : Prop :=
  ∃ event, Possible s event ∧ handle options s event = .ok s'

/-- While the loop goes on there is a list with a spare block. -/
def Appendable (s : State bufsiz) : Prop :=
  s.broken = false → ∃ spare front rest, Linked s.buffer spare front rest

theorem Appendable.idle {s s' : State bufsiz} (appendable : Appendable s) (idle : Idle s s') :
    Appendable s' := by
  intro running
  rw [idle.buffer]
  exact appendable (idle.broken ▸ running)

theorem Appendable.stdin {options : Options} {s s' : State bufsiz} {bytes : List UInt8}
    {fresh : Allocation (LineBuffer bufsiz)} (appendable : Appendable s)
    (running : s.broken = false) (nonempty : bytes ≠ []) (fits : bytes.length ≤ bufsiz)
    (sound : Allocates s.buffer fresh) (ran : stdinCb options s (.data bytes) fresh = .ok s') :
    Appendable s' := by
  rw [stdinCb_data] at ran
  obtain ⟨⟨continues, buffer⟩, appends, ran⟩ := except_bind_ok ran
  obtain ⟨spare, front, rest, linked⟩ := appendable running
  obtain ⟨_, _, _, _, shaped, _⟩ := linked.append_returns nonempty fits sound appends
  cases shaped with
  | spareless =>
      cases ran
      intro ended
      cases ended
  | spare linked' =>
      simp only [forwardAppended, Bool.not_true, Bool.false_eq_true, if_false] at ran
      obtain ⟨node, _, ran⟩ := except_bind_ok ran
      obtain ⟨chunk, _, ran⟩ := except_bind_ok ran
      obtain ⟨s₁, writes, ran⟩ := except_bind_ok ran
      obtain ⟨answers, broken, rfl⟩ :=
        (stdoutWriteBlockingOrBreak_returns _ chunk).of_ok writes
      intro _
      rw [(Frame.tolerates.writeToTailers ran).buffer]
      exact ⟨_, _, _, linked'⟩

theorem Appendable.handle {options : Options} {s s' : State bufsiz} {event : Event bufsiz}
    (appendable : Appendable s) (possible : Possible s event)
    (ran : handle options s event = .ok s') : Appendable s' := by
  cases event with
  | stdin res fresh answers =>
      obtain ⟨_, running, sound, sized⟩ := possible
      cases res with
      | data bytes =>
          obtain ⟨nonempty, fits⟩ := sized bytes rfl
          have prepared : Appendable { s with answers } := appendable
          exact prepared.stdin running nonempty fits sound ran
      | eof =>
          cases ran
          intro ended
          cases ended
      | failed errno =>
          simp only [Server.handle, stdinCb] at ran
          split at ran
          · cases ran
            exact appendable
          · cases ran
            intro ended
            cases ended
  | unixSock attempts named fresh answers =>
      have prepared : Appendable { s with answers } := appendable
      exact prepared.idle (unixSockCb_idle ran)
  | tailerReadable tailer res => exact appendable.idle (tailerReadableCb_idle ran)

theorem Reachable.appendable {options : Options} {append : Nat × LineBuffer bufsiz}
    {allowed : Event bufsiz → Prop} {s : State bufsiz}
    (reachable : Reachable options append allowed s) : Appendable s := by
  induction reachable with
  | start first opened fresh fresh' ran =>
      have started := started_of_initAll fresh fresh' ran
      intro _
      rw [started.buffer]
      exact ⟨_, _, _, started.supplied.linked⟩
  | step event _ possible _ ran appendable => exact appendable.handle possible ran

/-- The loop has ended for want of memory. -/
structure Ended (s : State bufsiz) : Prop where
  broken : s.broken = true
  append : s.buffer.append = none

theorem Ended.idle {s s' : State bufsiz} (ended : Ended s) (idle : Idle s s') : Ended s' where
  broken := idle.broken.trans ended.broken
  append := by rw [idle.buffer]; exact ended.append

theorem Ended.steps {options : Options} {s s' : State bufsiz} (ended : Ended s)
    (steps : Steps options s s') : Ended s' := by
  obtain ⟨event, possible, ran⟩ := steps
  cases event with
  | stdin res fresh answers =>
      have running := possible.2.1
      rw [ended.broken] at running
      cases running
  | unixSock attempts named fresh answers =>
      have prepared : Ended { s with answers } := ⟨ended.broken, ended.append⟩
      exact prepared.idle (unixSockCb_idle ran)
  | tailerReadable tailer res => exact ended.idle (tailerReadableCb_idle ran)

theorem Ended.continues {options : Options} {s s' : State bufsiz} (ended : Ended s)
    (continues : Relation.ReflTransGen (Steps options) s s') : Ended s' := by
  induction continues with
  | refl => exact ended
  | tail _ steps ih => exact ih.steps steps

/-- `stdin_cb` is the only callback that calls `buffer_end` and `buffer_set_appended`. -/
theorem Ended.not_stdin {s : State bufsiz} (ended : Ended s) (res : ReadAnswer)
    (fresh : Allocation (LineBuffer bufsiz)) (answers : List WriteAnswer) :
    ¬ Possible s (.stdin res fresh answers) := by
  intro possible
  have running := possible.2.1
  rw [ended.broken] at running
  cases running

theorem Appendable.exhausted {options : Options} {s s' : State bufsiz} {bytes : List UInt8}
    {answers : List WriteAnswer} (appendable : Appendable s)
    (possible : Possible s (.stdin (.data bytes) none answers))
    (calls : callsMalloc options.buffer s.buffer bytes = .ok true)
    (ran : Server.handle options s (.stdin (.data bytes) none answers) = .ok s') : Ended s' := by
  obtain ⟨_, running, _, sized⟩ := possible
  obtain ⟨nonempty, fits⟩ := sized bytes rfl
  obtain ⟨spare, front, rest, linked⟩ := appendable running
  obtain ⟨buffer, appends, outOfMemory⟩ := linked.outOfMemory fits calls
  rw [Server.handle, stdinCb_data] at ran
  simp only [appends, except_ok_bind, forwardAppended, Bool.not_false, if_true] at ran
  cases ran
  exact ⟨rfl, outOfMemory.append⟩

end Tailserver.Server
