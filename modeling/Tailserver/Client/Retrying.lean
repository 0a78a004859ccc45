import Tailserver.Client.Conversation
import Tailserver.Client.Reconnect

/-! A client that follows, over many connections. The tail of a connection is of no
account before the first byte of it is read, and the client leaves a connection only when
there is nothing more to read. -/

set_option autoImplicit false

namespace Tailserver.Client

open CMemory Buffer

variable {bufsiz : Nat} {options : Options} {s : State bufsiz}

theorem Decoding.of_nil {tail : List UInt8} {conn : ClientConn}
    (decoding : Decoding tail conn []) (tail' : List UInt8) : Decoding tail' conn [] := by
  generalize nothing : ([] : List UInt8) = taken at decoding
  cases decoding with
  | inHeader isPrefix unknown size =>
      subst nothing
      exact .inHeader List.nil_prefix unknown size
  | inTail => simp [header] at nothing
  | inFollow => simp [header] at nothing

/-- The same bytes, of a connection that has the same tail once there are any. -/
structure Taken.Agrees (taken taken' : Taken) : Prop where
  bytes : taken'.bytes = taken.bytes
  tail : taken.bytes ≠ [] → taken'.stream.tail = taken.stream.tail

namespace Taken.Agrees

variable {taken taken' : Taken}

theorem whole (agrees : taken.Agrees taken') : taken'.whole = taken.whole := by
  by_cases empty : taken.bytes = []
  · rw [Taken.whole, Taken.whole, agrees.bytes, empty, whole_nil, whole_nil]
  · rw [Taken.whole, Taken.whole, agrees.bytes, agrees.tail empty]

theorem tailPart (agrees : taken.Agrees taken') : taken'.tailPart = taken.tailPart := by
  by_cases empty : taken.bytes = []
  · rw [Taken.tailPart, Taken.tailPart, agrees.bytes, empty, tailPart_nil, tailPart_nil]
  · rw [Taken.tailPart, Taken.tailPart, agrees.bytes, agrees.tail empty]

theorem followPart (agrees : taken.Agrees taken') : taken'.followPart = taken.followPart := by
  by_cases empty : taken.bytes = []
  · rw [Taken.followPart, Taken.followPart, agrees.bytes, empty, followPart_nil, followPart_nil]
  · rw [Taken.followPart, Taken.followPart, agrees.bytes, agrees.tail empty]

theorem decoding {conn : ClientConn} (agrees : taken.Agrees taken')
    (decoding : Decoding taken.stream.tail conn taken.bytes) :
    Decoding taken'.stream.tail conn taken'.bytes := by
  rw [agrees.bytes]
  by_cases empty : taken.bytes = []
  · rw [empty] at decoding ⊢
    exact decoding.of_nil _
  · rw [agrees.tail empty]
    exact decoding

end Taken.Agrees

/-- Another account of the connection in use. -/
theorem Reconnecting.agrees {earlier : List Taken} {taken taken' : Taken}
    (reconnecting : Reconnecting options s (earlier ++ [taken])) (agrees : taken.Agrees taken') :
    Reconnecting options s (earlier ++ [taken']) := by
  have shows : shown options.buffer [] (earlier ++ [taken']) =
      shown options.buffer [] (earlier ++ [taken]) := by
    cases printed : earlier.any Taken.whole with
    | true => rw [shown_of_any printed, shown_of_any printed, agrees.followPart]
    | false =>
        rw [shown_of_none printed, shown_of_none printed]
        simp [shown, agrees.whole, agrees.tailPart, agrees.followPart]
  constructor
  · simpa [agrees.tailPart] using reconnecting.ready
  · rw [shows]
    exact reconnecting.stdout
  · simpa [agrees.whole] using reconnecting.tailOutput
  · exact reconnecting.broken
  · exact reconnecting.closed
  · intro looping
    obtain ⟨earlier', current', split, current⟩ := reconnecting.current looping
    obtain ⟨rfl, same⟩ := List.append_inj' split rfl
    cases same
    exact ⟨earlier, taken', rfl, agrees.decoding current.decoding, current.opened⟩

theorem Reconnecting.connect_of_opened {history : List Taken} {opened : Int}
    (reconnecting : Reconnecting options s history) (following : options.follow = true)
    (connecting : s.phase = .connecting) (success : opened ≠ invalidSocket) :
    (Client.connect options s opened).phase = .looping ∧
      (Client.connect options s opened).sent = [] := by
  have reset := clientconnConnect_of_eof (reconnecting.closed (by simp [connecting])) opened
  simp [Client.connect, reset, success, following]

theorem Reconnecting.connect_of_refused {history : List Taken}
    (reconnecting : Reconnecting options s history) (connecting : s.phase = .connecting) :
    (Client.connect options s invalidSocket).phase = .finished ∧
      (Client.connect options s invalidSocket).sent = [] := by
  have reset := clientconnConnect_of_eof (reconnecting.closed (by simp [connecting]))
    invalidSocket
  simp [Client.connect, reset]

/-- What has become of a client that follows after a read that was answered `answer`. -/
structure Hears (options : Options) (answer : ReadAnswer) (history : List Taken)
    (s s' : State bufsiz) : Prop where
  reconnecting : Reconnecting options s' history
  sent : s'.sent = s.sent
  notWriting : s'.phase ≠ .writing
  ended : s'.phase ≠ .looping → ends answer = true

theorem Reconnecting.hears {earlier : List Taken} {taken : Taken} {answer : ReadAnswer}
    {unset : Int} {fresh : Allocation (LineBuffer bufsiz)} {answers : List WriteAnswer}
    (reconnecting : Reconnecting options s (earlier ++ [taken]))
    (following : options.follow = true) (room : 0 < bufsiz)
    (possible : Possible s (.readable answer unset fresh answers))
    (arrives : ∀ bytes, answer = .data bytes → taken.bytes ++ bytes <+: taken.stream.bytes)
    (granted : fresh.isSome) (complete : Completes bufsiz answers) :
    Returns (Client.handle options s (.readable answer unset fresh answers)) fun s' =>
      Hears options answer (earlier ++ [taken.read answer.bytes]) s s' := by
  obtain ⟨looping, sound, sized⟩ := possible
  have arrives' : ∀ bytes, answer = .data bytes → bytes ≠ [] ∧
      bytes.length ≤ readLength { s with answers } ∧
        taken.bytes ++ bytes <+: taken.stream.bytes :=
    fun bytes data => ⟨(sized bytes data).1, (sized bytes data).2, arrives bytes data⟩
  have prepared := reconnecting.answers answers
  have kept := prepared.read room looping arrives' sound granted complete unset
  obtain ⟨_, _, _, _, _, reads⟩ := (prepared.streaming looping).readable room taken.stream.small
    arrives' sound granted complete unset
  apply (kept.and reads).bind
  rintro ⟨ended, s'⟩ ⟨reconnecting', reads⟩
  have eof := reads.eof
  rw [following, Bool.not_true, Bool.and_false, Bool.or_false] at eof
  have ends : ended = ends answer := by
    rw [← ends_eq fun bytes data => (arrives' bytes data).1, ← eof]
    exact reads.ended
  have retries : (prepareForRetry options s').phase ≠ .writing := by
    unfold prepareForRetry
    dsimp only
    split <;> simp
  have sent : (prepareForRetry options s').sent = s'.sent := by
    unfold prepareForRetry
    dsimp only
    split <;> rfl
  have stays : s'.phase = .looping := reads.phase.trans looping
  cases ended with
  | true => exact ⟨reconnecting', sent.trans reads.sent, retries, fun _ => ends.symm⟩
  | false => exact ⟨reconnecting', reads.sent, by simp [stays], fun left => absurd stays left⟩

end Tailserver.Client
