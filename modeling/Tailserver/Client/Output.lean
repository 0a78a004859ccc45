import Tailserver.Client.Loop
import Tailserver.Buffer.Execution
import Tailserver.Library.Returns

/-! What the client writes to its standard output: text in full, or a beginning of it
after which standard output counts as broken. -/

set_option autoImplicit false

namespace Tailserver.Client

open CMemory Buffer

variable {bufsiz : Nat}

/-- The result of writing `text`. -/
structure Prints (s : State bufsiz) (text : List UInt8) (result : Bool × State bufsiz) :
    Prop where
  state : ∃ part answers, part <+: text ∧ (result.1 = true → part = text) ∧
    result.2 = { s with
      answers
      stdout := s.stdout ++ part
      broken := s.broken || !result.1 }
  completes : Completes bufsiz s.answers → result.1 = true ∧ Completes bufsiz result.2.answers

theorem Prints.nothing (s : State bufsiz) : Prints s [] (true, s) where
  state := ⟨[], s.answers, List.nil_prefix, fun _ => rfl, by simp⟩
  completes := fun completes => ⟨rfl, completes⟩

/-- Writing on after a write that was complete. -/
theorem Prints.append {s s' : State bufsiz} {text more : List UInt8}
    {result : Bool × State bufsiz} (first : Prints s text (true, s'))
    (next : Prints s' more result) : Prints s (text ++ more) result := by
  obtain ⟨⟨part, answers, isPrefix, whole, same⟩, completes⟩ := first
  obtain ⟨⟨part', answers', isPrefix', whole', same'⟩, completes'⟩ := next
  have all := whole rfl
  subst all
  simp only at same
  subst same
  constructor
  · refine ⟨part ++ part', answers', (List.prefix_append_right_inj part).mpr isPrefix',
      fun ok => by rw [whole' ok], ?_⟩
    rw [same']
    simp
  · intro complete
    exact completes' (completes complete).2

/-- A failing write leaves a beginning. -/
theorem Prints.stopped {s s' : State bufsiz} {text : List UInt8}
    (first : Prints s text (false, s')) (more : List UInt8) :
    Prints s (text ++ more) (false, s') := by
  obtain ⟨⟨part, answers, isPrefix, _, same⟩, completes⟩ := first
  refine ⟨⟨part, answers, isPrefix.trans (List.prefix_append _ _), by simp, same⟩, ?_⟩
  intro complete
  exact absurd (completes complete).1 (by simp)

theorem clientpipesWriteBlocking_returns (s : State bufsiz) {buf : List UInt8}
    (fits : buf.length ≤ bufsiz) :
    Returns (clientpipesWriteBlocking s buf) (Prints s buf) := by
  unfold clientpipesWriteBlocking stdoutWriteBlocking
  cases wrote : safeWriteForever buf s.answers with
  | error fault => exact safeWriteForever_fault wrote
  | ok written =>
      have delivers := safeWriteForever_delivers wrote
      simp only [except_ok_bind, except_pure, Returns.ok_iff]
      cases short : writtenTooLittle written buf with
      | false =>
          refine ⟨⟨written.delivered, written.answers, delivers.isPrefix,
            fun _ => delivers.complete short, by simp⟩, fun complete => ⟨rfl, ?_⟩⟩
          exact (complete.safeWriteForever fits wrote).2
      | true =>
          refine ⟨⟨written.delivered, written.answers, delivers.isPrefix, by simp, by simp⟩,
            fun complete => ?_⟩
          have enough := (complete.safeWriteForever fits wrote).1
          rw [short] at enough
          cases enough

theorem length_chunkBytes_le {s : Buffer.State bufsiz} {pos : Pointer}
    {offset length : UInt64} {bytes : List UInt8}
    (ran : chunkBytes s pos offset length = .ok bytes) : bytes.length ≤ bufsiz := by
  obtain ⟨node, _, read⟩ := except_bind_ok ran
  exact Area.length_read_le read

theorem Prints.buffer {s : State bufsiz} {text : List UInt8} {result : Bool × State bufsiz}
    (prints : Prints s text result) : result.2.buffer = s.buffer := by
  obtain ⟨⟨part, answers, _, _, same⟩, _⟩ := prints
  rw [same]

theorem outputTailChunks_returns {s : State bufsiz} {fuel : Nat} {pos : Pointer}
    {offset : UInt64} {chunks : List (List UInt8)}
    (walked : walkTail s.buffer fuel pos offset = .ok chunks) :
    Returns (outputTailChunks fuel s pos offset) (Prints s chunks.flatten) := by
  induction fuel generalizing s pos offset chunks with
  | zero => cases walked
  | succ fuel ih =>
      obtain ⟨chunkSize, sized, walked⟩ := except_bind_ok walked
      simp only [outputTailChunks, sized, except_ok_bind]
      split
      · next positive =>
        rw [if_pos positive] at walked
        obtain ⟨chunk, held, walked⟩ := except_bind_ok walked
        obtain ⟨pos', advances, walked⟩ := except_bind_ok walked
        obtain ⟨rest, walkedRest, returned⟩ := except_bind_ok walked
        cases returned
        simp only [held, except_ok_bind, List.flatten_cons]
        apply (clientpipesWriteBlocking_returns s (length_chunkBytes_le held)).bind
        rintro ⟨ok, s'⟩ prints
        have kept : s'.buffer = s.buffer := prints.buffer
        cases ok with
        | false => exact prints.stopped _
        | true =>
            simp only [Bool.not_true, Bool.false_eq_true, if_false, kept, advances,
              except_ok_bind]
            rw [← kept] at walkedRest
            exact (ih walkedRest).mono fun result next => prints.append next
      · next ended =>
        rw [if_neg ended] at walked
        cases walked
        exact .nothing s

theorem outputBufferedTail_returns {s : State bufsiz} {tail : List UInt8}
    (offered : bufferTail s.buffer = .ok tail) :
    Returns (outputBufferedTail s) (Prints s tail) := by
  obtain ⟨chunks, walked, joined⟩ := except_bind_ok offered
  cases joined
  exact outputTailChunks_returns walked

end Tailserver.Client
