import Tailserver.Server.Basic
import Tailserver.Library.DoublyLinked
import Tailserver.Library.Returns

/-! The list of tailers. The hand-made links always spell out one list of
connections; registering puts a connection in front of it and `tailer_final` takes
one out of any place. -/

set_option autoImplicit false

namespace Tailserver.Server

open CMemory Buffer

variable {bufsiz : Nat}

/-- What the block of a listed tailer holds. -/
def tailerOf (socket : Nat) (prev next : Pointer) : Tailer :=
  { socket, readableWatcher := true, prev, next }

/-- Blocks with the sockets they serve, in list order. -/
abbrev Clients := List (Nat × Nat)

/-- The tailers in memory are the list `clients`. -/
structure Registered (s : State bufsiz) (clients : Clients) : Prop where
  first : s.firstTailer = headOr clients none
  threaded : Threaded tailerOf s.tailers none clients none
  blocks : (clients.map Prod.fst).Nodup
  sockets : (clients.map Prod.snd).Nodup
  owned : s.tailers.keys.Perm (clients.map Prod.fst)

theorem State.modifyTailer_of_lookup {s : State bufsiz} {pointer : Pointer} {block : Nat}
    {node : Tailer} (points : pointer = some block)
    (found : s.tailers.lookup block = some node) (assign : Tailer → Tailer) :
    s.modifyTailer pointer assign =
      .ok { s with tailers := s.tailers.insert block (assign node) } := by
  subst points
  simp only [State.modifyTailer, load_of_lookup found, store_of_lookup _ found,
    except_ok_bind, except_pure]

theorem Registered.lookup {s : State bufsiz} {front back : Clients} {client : Nat × Nat}
    (registered : Registered s (front ++ client :: back)) :
    s.tailers.lookup client.1 =
      some (tailerOf client.2 (lastOr front none) (headOr back none)) :=
  registered.threaded.lookup

theorem Registered.mem_iff {s : State bufsiz} {clients : Clients}
    (registered : Registered s clients) {block : Nat} :
    block ∈ s.tailers ↔ block ∈ clients.map Prod.fst :=
  AList.mem_keys.trans registered.owned.mem_iff

theorem Registered.length_le {s : State bufsiz} {clients : Clients}
    (registered : Registered s clients) : clients.length = blockCount s.tailers := by
  rw [blockCount, registered.owned.length_eq, List.length_map]

/-- No two tailers share a socket. -/
theorem Registered.socket_notMem {s : State bufsiz} {front back : Clients}
    {client : Nat × Nat} (registered : Registered s (front ++ client :: back)) :
    client.2 ∉ (front ++ back).map Prod.snd := by
  have sockets := registered.sockets
  rw [List.map_append, List.map_cons, List.nodup_middle, List.nodup_cons,
    ← List.map_append] at sockets
  exact sockets.1

/-- Only the list and the memory of the tailers matter. -/
theorem Registered.frame {s s' : State bufsiz} {clients : Clients}
    (registered : Registered s clients) (tailers : s'.tailers = s.tailers)
    (firstTailer : s'.firstTailer = s.firstTailer) : Registered s' clients where
  first := firstTailer.trans registered.first
  threaded := by rw [tailers]; exact registered.threaded
  blocks := registered.blocks
  sockets := registered.sockets
  owned := by rw [tailers]; exact registered.owned

/-! ## Taking a tailer out -/

/-- Memory that differs in some of the given blocks only. -/
structure Rewritten (heap heap' : Heap Tailer) (clients : Clients) : Prop where
  outside : ∀ block, block ∉ clients.map Prod.fst → heap'.lookup block = heap.lookup block
  keys : heap'.keys.Perm heap.keys

theorem Rewritten.refl (heap : Heap Tailer) (clients : Clients) :
    Rewritten heap heap clients := ⟨fun _ _ => rfl, .refl _⟩

theorem Rewritten.insert {heap : Heap Tailer} {clients : Clients} {client : Nat × Nat}
    (member : client ∈ clients) {old : Tailer} (found : heap.lookup client.1 = some old)
    (node : Tailer) : Rewritten heap (heap.insert client.1 node) clients where
  outside := by
    intro block absent
    apply AList.lookup_insert_ne
    intro same
    exact absent (same ▸ List.mem_map_of_mem member)
  keys := keys_insert_perm node (mem_of_lookup found)

/-- The first half of the unlinking: what precedes the tailer skips it. -/
theorem relink_next (s : State bufsiz) {front : Clients} {stop : Pointer}
    (threaded : Threaded tailerOf s.tailers none front stop)
    (blocks : (front.map Prod.fst).Nodup) (first : s.firstTailer = headOr front stop)
    (stop' : Pointer) :
    ∃ tailers, (if lastOr front none ≠ none then
          s.modifyTailer (lastOr front none) fun before => { before with next := stop' }
        else .ok { s with firstTailer := stop' }) =
        .ok { s with tailers, firstTailer := headOr front stop' } ∧
      Threaded tailerOf tailers none front stop' ∧ Rewritten s.tailers tailers front := by
  rcases List.eq_nil_or_concat front with rfl | ⟨init, node, rfl⟩
  · exact ⟨s.tailers, rfl, trivial, .refl _ _⟩
  · rw [List.concat_eq_append] at *
    have found := threaded.lookup
    have absent : node.1 ∉ init.map Prod.fst := by
      rw [List.map_append, List.nodup_append] at blocks
      intro member
      exact blocks.2.2 _ member _ (by simp) rfl
    have same : headOr (init ++ [node]) stop' = s.firstTailer := by
      rw [first, headOr_append, headOr_append]
      rfl
    refine ⟨s.tailers.insert node.1 (tailerOf node.2 (lastOr init none) stop'), ?_,
      threaded.relinkLast stop' absent, .insert (by simp) found _⟩
    rw [lastOr_concat, if_pos (by simp), State.modifyTailer_of_lookup rfl found, same]
    rfl

/-- The second half: what follows the tailer points back past it. -/
theorem relink_prev (s : State bufsiz) {back : Clients} {start : Pointer}
    (threaded : Threaded tailerOf s.tailers start back none)
    (blocks : (back.map Prod.fst).Nodup) (start' : Pointer) :
    ∃ tailers, (if headOr back none ≠ none then
          s.modifyTailer (headOr back none) fun after => { after with prev := start' }
        else .ok s) = .ok { s with tailers } ∧
      Threaded tailerOf tailers start' back none ∧ Rewritten s.tailers tailers back := by
  cases back with
  | nil => exact ⟨s.tailers, rfl, trivial, .refl _ _⟩
  | cons node rest =>
      have absent : node.1 ∉ rest.map Prod.fst := (List.nodup_cons.mp blocks).1
      refine ⟨s.tailers.insert node.1 (tailerOf node.2 start' (headOr rest none)), ?_,
        threaded.relinkFirst start' absent, .insert (by simp) threaded.1 _⟩
      rw [headOr_cons, if_pos (by simp), State.modifyTailer_of_lookup rfl threaded.1]
      rfl

/-- `tailer_final` takes exactly its tailer out of the list, and closes the
socket. -/
theorem Registered.tailerFinal {s : State bufsiz} {front back : Clients} {client : Nat × Nat}
    (registered : Registered s (front ++ client :: back)) :
    ∃ tailers firstTailer, tailerFinal s (some client.1) =
        .ok { s.close client.2 with tailers, firstTailer } ∧
      Registered { s.close client.2 with tailers, firstTailer } (front ++ back) := by
  have found := registered.lookup
  have blocks := registered.blocks
  rw [List.map_append, List.map_cons, List.nodup_append] at blocks
  obtain ⟨blocks_front, blocks_cons, apart⟩ := blocks
  obtain ⟨not_back, blocks_back⟩ := List.nodup_cons.mp blocks_cons
  have not_front : client.1 ∉ front.map Prod.fst := by
    intro member
    exact apart _ member _ (.head _) rfl
  obtain ⟨before, -, after⟩ := Threaded.append_iff.mp registered.threaded
  -- The watcher is stopped in the tailer's own block, which no neighbour reads.
  let stopped : Tailer :=
    { tailerOf client.2 (lastOr front none) (headOr back none) with readableWatcher := false }
  let s₁ : State bufsiz :=
    { s.close client.2 with tailers := s.tailers.insert client.1 stopped }
  have first : s₁.firstTailer = headOr front (some client.1) := by
    have start := registered.first
    rw [headOr_append] at start
    exact start
  obtain ⟨tailers₂, skips, front₂, rewritten₂⟩ := relink_next s₁
    (before.insert stopped not_front) blocks_front first (headOr back none)
  have back₂ : Threaded tailerOf tailers₂ (some client.1) back none := by
    apply (after.insert stopped not_back).congr
    intro node member
    apply rewritten₂.outside
    intro inside
    exact apart _ inside _ (.tail _ (List.mem_map_of_mem member)) rfl
  let s₂ : State bufsiz :=
    { s₁ with tailers := tailers₂, firstTailer := headOr front (headOr back none) }
  obtain ⟨tailers₃, points, back₃, rewritten₃⟩ :=
    relink_prev s₂ back₂ blocks_back (lastOr front none)
  have front₃ : Threaded tailerOf tailers₃ none front (headOr back none) := by
    apply front₂.congr
    intro node member
    apply rewritten₃.outside
    intro inside
    exact apart _ (List.mem_map_of_mem member) _ (.tail _ inside) rfl
  have own₂ : tailers₂.lookup client.1 = some stopped :=
    (rewritten₂.outside _ not_front).trans (AList.lookup_insert _)
  have own₃ : tailers₃.lookup client.1 = some stopped :=
    (rewritten₃.outside _ not_back).trans own₂
  refine ⟨tailers₃.erase client.1, headOr front (headOr back none), ?_, ?_⟩
  · have stops := State.modifyTailer_of_lookup (s := s) rfl found
      fun node => { node with readableWatcher := false }
    have reads : load (s.tailers.insert client.1 stopped) (some client.1) = .ok stopped :=
      load_of_lookup (AList.lookup_insert _)
    simp only [Server.tailerFinal, stops, except_ok_bind]
    refine (congrArg (· >>= _) reads).trans ?_
    simp only [except_ok_bind]
    refine (congrArg (· >>= _) skips).trans ?_
    simp only [except_ok_bind, load_of_lookup own₂]
    refine (congrArg (· >>= _) points).trans ?_
    simp only [except_ok_bind, release_of_lookup own₃, except_pure]
    rfl
  · refine ⟨?_, ?_, ?_, ?_, ?_⟩
    · rw [headOr_append]
    · exact Threaded.append_iff.mpr ⟨front₃.erase not_front, back₃.erase not_back⟩
    · rw [List.map_append, List.nodup_append]
      exact ⟨blocks_front, blocks_back, fun _ member _ member' =>
        apart _ member _ (.tail _ member')⟩
    · have fewer : ((front ++ back).map Prod.snd).Sublist
          ((front ++ client :: back).map Prod.snd) :=
        ((List.Sublist.refl front).append (List.sublist_cons_self client back)).map _
      exact List.Nodup.sublist fewer registered.sockets
    · have keys : tailers₃.keys.Perm ((front ++ client :: back).map Prod.fst) :=
        (rewritten₃.keys.trans rewritten₂.keys).trans
          ((keys_insert_perm _ (mem_of_lookup found)).trans registered.owned)
      show (tailers₃.erase client.1).keys.Perm _
      rw [AList.keys_erase]
      refine (keys.erase _).trans ?_
      rw [List.map_append, List.map_append, List.map_cons, List.erase_append_right _ not_front,
        List.erase_cons_head]

/-- `sockets_final` ends one tailer after the other, and closes every socket of the
list once. -/
theorem Registered.finalTailers {s : State bufsiz} {clients : Clients} {fuel : Nat}
    (registered : Registered s clients) (enough : clients.length < fuel) :
    ∃ tailers firstTailer connections, finalTailers fuel s =
        .ok { s with tailers, firstTailer, connections } ∧
      Registered { s with tailers, firstTailer, connections } [] ∧
      ∀ socket, connections socket = { s.connections socket with
        closes := (s.connections socket).closes + (clients.map Prod.snd).count socket } := by
  induction clients generalizing s fuel with
  | nil =>
      obtain ⟨fuel, rfl⟩ := Nat.exists_eq_add_of_lt enough
      refine ⟨s.tailers, s.firstTailer, s.connections, ?_, registered, fun socket => rfl⟩
      exact if_pos registered.first
  | cons client rest ih =>
      obtain ⟨fuel, rfl⟩ := Nat.exists_eq_add_of_lt enough
      have first : s.firstTailer = some client.1 := registered.first
      have whole : Registered s ([] ++ client :: rest) := registered
      obtain ⟨tailers, firstTailer, ends, registered'⟩ := whole.tailerFinal
      have fewer : rest.length < (client :: rest).length + fuel := by
        simp only [List.length_cons]
        omega
      obtain ⟨tailers', firstTailer', connections, ran, empty, closed⟩ := ih registered' fewer
      refine ⟨tailers', firstTailer', connections, ?_, empty, fun socket => ?_⟩
      · rw [Server.finalTailers, first, if_neg (by simp), ends]
        exact ran
      · rw [closed socket, List.map_cons, List.count_cons]
        by_cases same : client.2 = socket
        · subst same
          simp only [State.close, State.note_self, beq_self_eq_true, if_true]
          congr 1
          omega
        · simp [State.close, State.note_of_ne _ (Ne.symm same), same]

theorem Registered.socketsFinal {s : State bufsiz} {clients : Clients}
    (registered : Registered s clients) :
    ∃ tailers firstTailer connections, socketsFinal s =
        .ok { s with tailers, firstTailer, connections } ∧
      Registered { s with tailers, firstTailer, connections } [] ∧
      ∀ socket, connections socket = { s.connections socket with
        closes := (s.connections socket).closes + (clients.map Prod.snd).count socket } :=
  registered.finalTailers (by rw [registered.length_le]; exact Nat.lt_succ_self _)

/-! ## Putting a tailer in -/

theorem Registered.tailerInit {s : State bufsiz} {clients : Clients} {socket block : Nat}
    (registered : Registered s clients) (unused : block ∉ s.tailers)
    (new : socket ∉ clients.map Prod.snd) (node : Tailer) :
    ∃ tailers, tailerInit s socket (some (block, node)) =
        .ok (some block, { s.note socket fun connection =>
            { connection with registered := true } with
          tailers, firstTailer := some block }) ∧
      Registered { s.note socket fun connection => { connection with registered := true } with
          tailers, firstTailer := some block } ((block, socket) :: clients) := by
  have absent : block ∉ clients.map Prod.fst := fun member =>
    unused (registered.mem_iff.mpr member)
  -- The new block while its fields are being set.
  let linked : Tailer := { node with prev := none, next := s.firstTailer }
  let s₁ : State bufsiz := { s with tailers := s.tailers.insert block linked }
  obtain ⟨tailers₂, points, threaded, rewritten⟩ := relink_prev s₁
    (registered.threaded.insert linked absent) registered.blocks (some block)
  have own₂ : tailers₂.lookup block = some linked :=
    (rewritten.outside _ absent).trans (AList.lookup_insert _)
  refine ⟨tailers₂.insert block (tailerOf socket none s.firstTailer), ?_, ?_⟩
  · have sets : ∀ (pointed : State bufsiz) (old : Tailer) (assign : Tailer → Tailer),
        pointed.tailers.lookup block = some old → pointed.modifyTailer (some block) assign =
          .ok { pointed with tailers := pointed.tailers.insert block (assign old) } :=
      fun _ _ assign found => State.modifyTailer_of_lookup rfl found assign
    simp only [Server.tailerInit, allocate, reduceCtorEq, if_false]
    rw [sets _ _ _ (AList.lookup_insert _)]
    simp only [except_ok_bind, AList.insert_insert]
    rw [sets _ _ _ (AList.lookup_insert _)]
    simp only [except_ok_bind, AList.insert_insert]
    rw [← registered.first] at points
    refine (congrArg (· >>= _) points).trans ?_
    simp only [except_ok_bind]
    rw [sets _ _ _ own₂]
    simp only [except_ok_bind]
    rw [sets _ _ _ (AList.lookup_insert _)]
    simp only [except_ok_bind, AList.insert_insert, except_pure]
    rfl
  · refine ⟨rfl, ⟨?_, ?_⟩, ?_, ?_, ?_⟩
    · rw [registered.first]
      exact AList.lookup_insert _
    · exact threaded.insert _ absent
    · exact List.nodup_cons.mpr ⟨absent, registered.blocks⟩
    · exact List.nodup_cons.mpr ⟨new, registered.sockets⟩
    · have inserted : (s.tailers.insert block linked).keys = block :: s.tailers.keys :=
        keys_insert_of_notMem _ unused
      have member : block ∈ tailers₂ := mem_of_lookup own₂
      refine (keys_insert_perm _ member).trans (rewritten.keys.trans ?_)
      exact (inserted ▸ registered.owned.cons block)

end Tailserver.Server
