import Tailserver.Buffer.Linked
import Tailserver.Library.Word

/-! What an append does to the list: the bytes are committed to the spare block,
which is then copied into the last block or linked behind it, and in the latter
case the first block or a new one becomes the spare block. -/

set_option autoImplicit false

namespace Tailserver.Buffer

open CMemory

variable {bufsiz : Nat}

/-- A list that owns every block: the former spare block is linked and there is
no new one yet. -/
structure Spareless (s : State bufsiz) (front rest : Nodes bufsiz) : Prop
    extends Listed s front rest where
  owned : s.heap.keys.Perm ((front ++ rest).map Prod.fst)

theorem State.modify_of_lookup {s : State bufsiz} {pointer : Pointer} {block : Nat}
    {node : LineBuffer bufsiz} (points : pointer = some block)
    (found : s.heap.lookup block = some node)
    (assign : LineBuffer bufsiz → LineBuffer bufsiz) :
    s.modify pointer assign =
      .ok { s with heap := s.heap.insert block (assign node) } := by
  subst points
  simp only [State.modify, load_of_lookup found, store_of_lookup _ found,
    except_ok_bind, except_pure]

theorem Linked.load_append {s : State bufsiz} {spare : Nat × LineBuffer bufsiz}
    {front rest : Nodes bufsiz} (linked : Linked s spare front rest) :
    load s.heap s.append = .ok spare.2 := by
  rw [linked.append]
  exact load_of_lookup linked.spareLookup

theorem Linked.spare_notMem {s : State bufsiz} {spare : Nat × LineBuffer bufsiz}
    {front rest : Nodes bufsiz} (linked : Linked s spare front rest) :
    spare.1 ∉ (front ++ rest).map Prod.fst :=
  (List.nodup_cons.mp (linked.owned.nodup_iff.mp s.heap.keys_nodup)).1

theorem Listed.bufsiz_lt {s : State bufsiz} {front rest : Nodes bufsiz}
    (listed : Listed s front rest) : bufsiz < addressSpace := by
  have some_node : 0 < (front ++ rest).length :=
    List.length_pos_iff.mpr (by simp [listed.nonempty])
  have some_block : 1 ≤ blockCount s.heap :=
    Nat.lt_of_lt_of_le some_node listed.length_le
  have room := listed.room
  have one := Nat.mul_le_mul_right (sizeofLineBuffer bufsiz) some_block
  simp only [sizeofLineBuffer] at room one
  omega

theorem toNat_ofNat_of_le_bufsiz {size : Nat} (small : bufsiz < addressSpace)
    (fits : size ≤ bufsiz) : (UInt64.ofNat size).toNat = size := by
  refine UInt64.toNat_ofNat_of_lt' ?_
  simp only [addressSpace] at small
  exact Nat.lt_of_le_of_lt fits (Nat.lt_trans small (by decide))

/-- Rewriting the spare block leaves the list alone. -/
theorem Linked.setSpare {s s' : State bufsiz} {spare : Nat × LineBuffer bufsiz}
    {front rest : Nodes bufsiz} (linked : Linked s spare front rest)
    {node : LineBuffer bufsiz} (next : node.next = none)
    (heap : s'.heap = s.heap.insert spare.1 node) (first : s'.first = s.first)
    (last : s'.last = s.last) (append : s'.append = s.append)
    (tailBuffer : s'.tailBuffer = s.tailBuffer) :
    Linked s' (spare.1, node) front rest where
  chain := by rw [heap, first]; exact linked.chain.insert linked.spare_notMem
  nonempty := linked.nonempty
  tailBuffer := tailBuffer.trans linked.tailBuffer
  last := last.trans linked.last
  nodup := linked.nodup
  fits := linked.fits
  room := by
    rw [heap, blockCount_insert_of_mem node (mem_of_lookup linked.spareLookup)]
    exact linked.room
  append := append.trans linked.append
  spareLookup := by rw [heap]; exact AList.lookup_insert s.heap
  spareNext := next
  owned := by
    rw [heap]
    exact (keys_insert_perm node (mem_of_lookup linked.spareLookup)).trans linked.owned

theorem Linked.sameList {s s' : State bufsiz} {spare : Nat × LineBuffer bufsiz}
    {front rest front' rest' : Nodes bufsiz} (linked : Linked s spare front rest)
    (same : SameList s s') (split : front' ++ rest' = front ++ rest)
    (listed : Listed s' front' rest') : Linked s' spare front' rest' where
  toListed := listed
  append := same.append.trans linked.append
  spareLookup := by rw [same.heap]; exact linked.spareLookup
  spareNext := linked.spareNext
  owned := by rw [same.heap, split]; exact linked.owned

/-! ## Committing the new bytes -/

def filledNode (node : LineBuffer bufsiz) (buffer : Area bufsiz) : LineBuffer bufsiz :=
  { node with buffer }

theorem Linked.placeBytes {s : State bufsiz} {spare : Nat × LineBuffer bufsiz}
    {front rest : Nodes bufsiz} (linked : Linked s spare front rest)
    {bytes : List UInt8} (fits : bytes.length ≤ bufsiz) :
    ∃ buffer : Area bufsiz, buffer.val.take bytes.length = bytes ∧
      placeBytes s (bufferEnd s) bytes = .ok { s with
        heap := s.heap.insert spare.1 (filledNode spare.2 buffer) } := by
  obtain ⟨buffer, written, holds⟩ :=
    spare.2.buffer.write_of_le (show 0 + bytes.length ≤ bufsiz by omega)
  refine ⟨buffer, by simpa using holds, ?_⟩
  simp only [Buffer.placeBytes, bufferEnd, linked.load_append, except_ok_bind, written]
  exact State.modify_of_lookup linked.append linked.spareLookup _

theorem countNewlines_eq {rounds : Nat} {region : List UInt8}
    (enough : region.length ≤ rounds) (nlines : UInt64) :
    countNewlines rounds region nlines =
      nlines + UInt64.ofNat (region.count newline) := by
  induction rounds generalizing region nlines with
  | zero =>
      have empty : region = [] := List.length_eq_zero_iff.mp (Nat.le_zero.mp enough)
      simp [countNewlines, empty]
  | succ rounds ih =>
      simp only [countNewlines]
      cases searched : memchr region newline with
      | none =>
          have absent := List.count_eq_zero.mpr (memchr_eq_none_iff.mp searched)
          simp [absent]
      | some found =>
          obtain ⟨front, back, rfl, absent, rfl⟩ := memchr_eq_some searched
          have dropped : (front ++ newline :: back).drop (front.length + 1) = back := by
            rw [List.drop_append]
            simp
          have counted : (front ++ newline :: back).count newline =
              back.count newline + 1 := by
            simp [List.count_append, List.count_eq_zero.mpr absent]
          simp only [List.length_append, List.length_cons] at enough
          simp only [dropped, counted]
          rw [ih (by omega), UInt64.ofNat_add]
          simp only [UInt64.add_assoc, UInt64.add_comm 1]
          rfl

/-- The spare block once `bytes` are committed to it. -/
def committedNode (config : Config) (node : LineBuffer bufsiz) (bytes : List UInt8) :
    LineBuffer bufsiz :=
  { node with
    nbytes := UInt64.ofNat bytes.length
    nlines := if config.countLines then
        node.nlines + UInt64.ofNat (bytes.count newline)
      else node.nlines }

/-- The state once `node` has been committed. -/
def committedState (config : Config) (s : State bufsiz) (block : Nat)
    (node : LineBuffer bufsiz) : State bufsiz :=
  { s with
    heap := s.heap.insert block node
    totalBytes := s.totalBytes + node.nbytes
    totalLines := if config.countLines then s.totalLines + node.nlines
      else s.totalLines }

theorem data_committedNode {config : Config} {node : LineBuffer bufsiz}
    {bytes : List UInt8} (small : bufsiz < addressSpace)
    (holds : node.buffer.val.take bytes.length = bytes) (fits : bytes.length ≤ bufsiz) :
    (committedNode config node bytes).data = bytes := by
  simp only [LineBuffer.data, committedNode, toNat_ofNat_of_le_bufsiz small fits, holds]

theorem countAppendedLines_of_lookup {s : State bufsiz} {block : Nat}
    {node : LineBuffer bufsiz} {bytes : List UInt8} (points : s.append = some block)
    (found : s.heap.lookup block = some node)
    (region : node.buffer.read 0 node.nbytes.toNat = .ok bytes) :
    countAppendedLines s = .ok { s with
      heap := s.heap.insert block
        { node with nlines := node.nlines + UInt64.ofNat (bytes.count newline) }
      totalLines := s.totalLines + (node.nlines + UInt64.ofNat (bytes.count newline)) } := by
  have loaded : load s.heap s.append = .ok node := by
    rw [points]
    exact load_of_lookup found
  simp only [countAppendedLines, loaded, except_ok_bind, region,
    State.modify_of_lookup points found, except_pure, countNewlines_eq (Nat.le_refl _)]

theorem Linked.commitAppended (config : Config) {s : State bufsiz}
    {spare : Nat × LineBuffer bufsiz} {front rest : Nodes bufsiz}
    (linked : Linked s spare front rest) {bytes : List UInt8}
    (holds : spare.2.buffer.val.take bytes.length = bytes)
    (fits : bytes.length ≤ bufsiz) :
    commitAppended config s (UInt64.ofNat bytes.length) =
      .ok (committedState config s spare.1 (committedNode config spare.2 bytes)) := by
  have sized := toNat_ofNat_of_le_bufsiz linked.bufsiz_lt fits
  simp only [Buffer.commitAppended,
    State.modify_of_lookup linked.append linked.spareLookup, except_ok_bind]
  cases mode : config.countLines with
  | false => simp [committedState, committedNode, mode]
  | true =>
      let node : LineBuffer bufsiz :=
        { spare.2 with nbytes := UInt64.ofNat bytes.length }
      have region : node.buffer.read 0 node.nbytes.toNat = .ok bytes := by
        rw [sized, Area.read_of_le _ (by omega), List.drop_zero, holds]
      have stored : Linked
          { s with
            heap := s.heap.insert spare.1 node
            totalBytes := s.totalBytes + UInt64.ofNat bytes.length }
          (spare.1, node) front rest :=
        linked.setSpare linked.spareNext rfl rfl rfl rfl rfl
      rw [if_pos rfl]
      refine (countAppendedLines_of_lookup stored.append stored.spareLookup region).trans ?_
      simp only [AList.insert_insert, committedState, committedNode, mode, if_true, node]

theorem Linked.committed (config : Config) {s : State bufsiz}
    {spare : Nat × LineBuffer bufsiz} {front rest : Nodes bufsiz}
    (linked : Linked s spare front rest) (bytes : List UInt8) :
    Linked (committedState config s spare.1 (committedNode config spare.2 bytes))
      (spare.1, committedNode config spare.2 bytes) front rest :=
  linked.setSpare linked.spareNext rfl rfl rfl rfl rfl

/-! ## Merging and linking -/

theorem Listed.exists_last {s : State bufsiz} {front rest : Nodes bufsiz}
    (listed : Listed s front rest) :
    ∃ init final, rest = init ++ [final] ∧ s.last = some final.1 ∧
      s.heap.lookup final.1 = some final.2 := by
  have decomposed := List.dropLast_append_getLast listed.nonempty
  refine ⟨rest.dropLast, rest.getLast listed.nonempty, decomposed.symm, ?_, ?_⟩
  · rw [listed.last, List.getLast?_append_of_ne_nil _ listed.nonempty,
      List.getLast?_eq_some_getLast listed.nonempty]
    rfl
  · exact listed.lookup (List.mem_append_right _ (List.getLast_mem _))

theorem Linked.fitsLast {s : State bufsiz} {spare final : Nat × LineBuffer bufsiz}
    {front init : Nodes bufsiz} (linked : Linked s spare front (init ++ [final]))
    (last : s.last = some final.1) (fits : spare.2.nbytes.toNat ≤ bufsiz) :
    fitsLast s =
      .ok (decide (spare.2.nbytes.toNat + final.2.nbytes.toNat < bufsiz)) := by
  have small := linked.bufsiz_lt
  have final_fits := linked.fits final (by simp)
  have found : s.heap.lookup final.1 = some final.2 := linked.lookup (by simp)
  simp only [addressSpace] at small
  have sum : (spare.2.nbytes + final.2.nbytes).toNat =
      spare.2.nbytes.toNat + final.2.nbytes.toNat :=
    Word.toNat_add_of_lt (by omega)
  have limit : (UInt64.ofNat bufsiz).toNat = bufsiz :=
    toNat_ofNat_of_le_bufsiz linked.bufsiz_lt (Nat.le_refl _)
  simp only [Buffer.fitsLast, linked.load_append, last, load_of_lookup found,
    except_ok_bind, except_pure, UInt64.lt_iff_toNat_lt, sum, limit]

/-- The last line buffer after the appended bytes have been copied behind it. -/
def mergedNode (final node : LineBuffer bufsiz) (buffer : Area bufsiz) :
    LineBuffer bufsiz :=
  { final with
    buffer
    nbytes := final.nbytes + node.nbytes
    nlines := final.nlines + node.nlines }

theorem nbytes_mergedNode {final node : LineBuffer bufsiz} (buffer : Area bufsiz)
    (small : bufsiz < addressSpace)
    (room : node.nbytes.toNat + final.nbytes.toNat < bufsiz) :
    (mergedNode final node buffer).nbytes.toNat =
      final.nbytes.toNat + node.nbytes.toNat := by
  simp only [addressSpace] at small
  exact Word.toNat_add_of_lt (by omega)

theorem Linked.mergeAppended {s : State bufsiz} {spare final : Nat × LineBuffer bufsiz}
    {front init : Nodes bufsiz} (linked : Linked s spare front (init ++ [final]))
    (last : s.last = some final.1)
    (room : spare.2.nbytes.toNat + final.2.nbytes.toNat < bufsiz) :
    ∃ buffer, (mergedNode final.2 spare.2 buffer).data = final.2.data ++ spare.2.data ∧
      mergeAppended s = .ok { s with
        heap := s.heap.insert final.1 (mergedNode final.2 spare.2 buffer) } := by
  have found : s.heap.lookup final.1 = some final.2 := linked.lookup (by simp)
  have loaded : load s.heap s.last = .ok final.2 := by
    rw [last]
    exact load_of_lookup found
  have copied : spare.2.data.length = spare.2.nbytes.toNat := by
    simp only [LineBuffer.data, List.length_take, spare.2.buffer.property]
    omega
  obtain ⟨buffer, written, holds⟩ := final.2.buffer.write_of_le
    (show final.2.nbytes.toNat + spare.2.data.length ≤ bufsiz by omega)
  refine ⟨buffer, ?_, ?_⟩
  · rw [LineBuffer.data, nbytes_mergedNode buffer linked.bufsiz_lt room, ← copied]
    exact holds
  · have region : spare.2.buffer.read 0 spare.2.nbytes.toNat = .ok spare.2.data := by
      rw [Area.read_of_le _ (by omega), List.drop_zero, LineBuffer.data]
    simp only [Buffer.mergeAppended, linked.load_append, loaded, except_ok_bind,
      region, written]
    exact State.modify_of_lookup last found _

theorem Linked.merged {s : State bufsiz} {spare final : Nat × LineBuffer bufsiz}
    {front init : Nodes bufsiz} (linked : Linked s spare front (init ++ [final]))
    (room : spare.2.nbytes.toNat + final.2.nbytes.toNat < bufsiz)
    (buffer : Area bufsiz) :
    Linked { s with heap := s.heap.insert final.1 (mergedNode final.2 spare.2 buffer) }
      spare front (init ++ [(final.1, mergedNode final.2 spare.2 buffer)]) := by
  have found : s.heap.lookup final.1 = some final.2 := linked.lookup (by simp)
  have ids : (front ++ (init ++ [(final.1, mergedNode final.2 spare.2 buffer)])).map
      Prod.fst = (front ++ (init ++ [final])).map Prod.fst := by simp
  have chain := linked.chain
  have nodup := linked.nodup
  rw [← List.append_assoc] at chain nodup
  have absent : final.1 ∉ (front ++ init).map Prod.fst := by
    rw [List.map_append, List.nodup_append] at nodup
    exact fun member => nodup.2.2 _ member _ (by simp) rfl
  have ended : (mergedNode final.2 spare.2 buffer).next = none := chain.next_of_last
  refine ⟨⟨?_, by simp, ?_, ?_, ?_, ?_, ?_⟩, linked.append, ?_, linked.spareNext, ?_⟩
  · rw [← List.append_assoc, ← ended]
    exact chain.insert_last _ absent
  · exact linked.tailBuffer.trans (by cases init <;> rfl)
  · rw [linked.last]
    simp
  · rw [ids]
    exact linked.nodup
  · intro node member
    simp only [List.mem_append, List.mem_singleton] at member
    rcases member with member | member | rfl
    · exact linked.fits node (by simp [member])
    · exact linked.fits node (by simp [member])
    · rw [nbytes_mergedNode buffer linked.bufsiz_lt room]
      omega
  · rw [blockCount_insert_of_mem _ (mem_of_lookup found)]
    exact linked.room
  · rw [AList.lookup_insert_ne]
    · exact linked.spareLookup
    · rintro same
      exact linked.spare_notMem (by simp [same])
  · rw [ids]
    exact (keys_insert_perm _ (mem_of_lookup found)).trans linked.owned

/-- The last line buffer once the spare block follows it. -/
def linkedNode (final : LineBuffer bufsiz) (block : Nat) : LineBuffer bufsiz :=
  { final with next := some block }

theorem Linked.linkAppended {s : State bufsiz} {spare final : Nat × LineBuffer bufsiz}
    {front init : Nodes bufsiz} (linked : Linked s spare front (init ++ [final]))
    (last : s.last = some final.1) :
    linkAppended s = .ok { s with
      heap := s.heap.insert final.1 (linkedNode final.2 spare.1)
      last := some spare.1 } := by
  have found : s.heap.lookup final.1 = some final.2 := linked.lookup (by simp)
  simp only [Buffer.linkAppended, State.modify_of_lookup last found, except_ok_bind,
    linked.append, linkedNode, except_pure]

theorem Linked.linked {s : State bufsiz} {spare final : Nat × LineBuffer bufsiz}
    {front init : Nodes bufsiz} (linked : Linked s spare front (init ++ [final]))
    (fits : spare.2.nbytes.toNat ≤ bufsiz) :
    Spareless
      { s with
        heap := s.heap.insert final.1 (linkedNode final.2 spare.1)
        last := some spare.1 }
      front (init ++ [(final.1, linkedNode final.2 spare.1), spare]) := by
  have found : s.heap.lookup final.1 = some final.2 := linked.lookup (by simp)
  have ids : (front ++ (init ++ [(final.1, linkedNode final.2 spare.1), spare])).map
      Prod.fst = (front ++ (init ++ [final])).map Prod.fst ++ [spare.1] := by simp
  have chain := linked.chain
  have nodup := linked.nodup
  rw [← List.append_assoc] at chain nodup
  have absent : final.1 ∉ (front ++ init).map Prod.fst := by
    rw [List.map_append, List.nodup_append] at nodup
    exact fun member => nodup.2.2 _ member _ (by simp) rfl
  have spare_ne : spare.1 ≠ final.1 := by
    rintro same
    exact linked.spare_notMem (by simp [same])
  refine ⟨⟨?_, by simp, ?_, ?_, ?_, ?_, ?_⟩, ?_⟩
  · have extended := (chain.insert_last (linkedNode final.2 spare.1) absent).snoc spare rfl
      ((AList.lookup_insert_ne spare_ne).trans linked.spareLookup)
    rw [linked.spareNext] at extended
    simpa using extended
  · exact linked.tailBuffer.trans (by cases init <;> rfl)
  · simp
  · rw [ids]
    exact List.nodup_append.mpr ⟨linked.nodup, by simp, by
      rintro block member _ same rfl
      rw [List.mem_singleton.mp same] at member
      exact linked.spare_notMem member⟩
  · intro node member
    simp only [List.mem_append, List.mem_cons, List.not_mem_nil, or_false] at member
    rcases member with member | member | rfl | rfl
    · exact linked.fits node (by simp [member])
    · exact linked.fits node (by simp [member])
    · exact linked.fits final (by simp)
    · exact fits
  · rw [blockCount_insert_of_mem _ (mem_of_lookup found)]
    exact linked.room
  · rw [ids]
    exact ((keys_insert_perm _ (mem_of_lookup found)).trans linked.owned).trans
      (List.perm_append_singleton _ _).symm

/-- The state once the committed bytes have been copied into the last block. -/
def mergedState (s : State bufsiz) (final : Nat × LineBuffer bufsiz)
    (node : LineBuffer bufsiz) (buffer : Area bufsiz) : State bufsiz :=
  { s with heap := s.heap.insert final.1 (mergedNode final.2 node buffer) }

/-- The state once the committed block follows the last block. -/
def linkedState (s : State bufsiz) (final : Nat × LineBuffer bufsiz) (block : Nat) :
    State bufsiz :=
  { s with
    heap := s.heap.insert final.1 (linkedNode final.2 block)
    last := some block }

/-- What an append does before it looks for the new start of the tail: the bytes
are in `node` at the former spare block, and `node` is copied or linked. -/
inductive Grown (config : Config) (s : State bufsiz) (spare : Nat × LineBuffer bufsiz)
    (front rest : Nodes bufsiz) (node : LineBuffer bufsiz)
    (fresh : Allocation (LineBuffer bufsiz)) :
    Except Fault (Bool × State bufsiz) → Prop where
  | merged {init : Nodes bufsiz} {final : Nat × LineBuffer bufsiz} {buffer : Area bufsiz} :
      rest = init ++ [final] →
      (mergedNode final.2 node buffer).data = final.2.data ++ node.data →
      Linked (mergedState (committedState config s spare.1 node) final node buffer)
        (spare.1, node) front (init ++ [(final.1, mergedNode final.2 node buffer)]) →
      Grown config s spare front rest node fresh (do
        let s ← keepTrackOfTail config
          (mergedState (committedState config s spare.1 node) final node buffer)
        let s ← resetAppend s
        return (true, s))
  | linked {init : Nodes bufsiz} {final : Nat × LineBuffer bufsiz} :
      rest = init ++ [final] →
      Spareless (linkedState (committedState config s spare.1 node) final spare.1)
        front (init ++ [(final.1, linkedNode final.2 spare.1), (spare.1, node)]) →
      Grown config s spare front rest node fresh (do
        let s ← keepTrackOfTail config
          (linkedState (committedState config s spare.1 node) final spare.1)
        replaceAppend config s fresh)

/-- New bytes are placed in the spare block and committed to it. -/
theorem Linked.placedCommitted (config : Config) {s : State bufsiz}
    {spare : Nat × LineBuffer bufsiz} {front rest : Nodes bufsiz}
    (linked : Linked s spare front rest) {bytes : List UInt8} (fits : bytes.length ≤ bufsiz) :
    ∃ (buffer : Area bufsiz) (placed : State bufsiz), buffer.val.take bytes.length = bytes ∧
      Buffer.placeBytes s (bufferEnd s) bytes = .ok placed ∧
      Buffer.commitAppended config placed (UInt64.ofNat bytes.length) =
        .ok (committedState config s spare.1
          (committedNode config (filledNode spare.2 buffer) bytes)) ∧
      Linked (committedState config s spare.1
          (committedNode config (filledNode spare.2 buffer) bytes))
        (spare.1, committedNode config (filledNode spare.2 buffer) bytes) front rest := by
  obtain ⟨buffer, holds, placed⟩ := linked.placeBytes fits
  have filled : Linked
      { s with heap := s.heap.insert spare.1 (filledNode spare.2 buffer) }
      (spare.1, filledNode spare.2 buffer) front rest :=
    linked.setSpare linked.spareNext rfl rfl rfl rfl rfl
  have commits := filled.commitAppended config holds fits
  have commit := filled.committed config bytes
  have collapse : committedState config
      { s with heap := s.heap.insert spare.1 (filledNode spare.2 buffer) } spare.1
        (committedNode config (filledNode spare.2 buffer) bytes) =
      committedState config s spare.1
        (committedNode config (filledNode spare.2 buffer) bytes) := by
    simp only [committedState, AList.insert_insert]
  rw [collapse] at commits commit
  exact ⟨buffer, _, holds, placed, commits, commit⟩

/-- An append up to the choice between its branches. -/
structure Commits (config : Config) (s placed : State bufsiz) (spare : Nat × LineBuffer bufsiz)
    (front rest : Nodes bufsiz) (bytes : List UInt8) (node : LineBuffer bufsiz) : Prop where
  places : Buffer.placeBytes s (bufferEnd s) bytes = .ok placed
  proper : UInt64.ofNat bytes.length ≠ 0
  commits : Buffer.commitAppended config placed (UInt64.ofNat bytes.length) =
    .ok (committedState config s spare.1 node)
  linked : Linked (committedState config s spare.1 node) (spare.1, node) front rest
  nbytes : node.nbytes.toNat = bytes.length
  fits : node.nbytes.toNat ≤ bufsiz

theorem Linked.commits (config : Config) {s : State bufsiz} {spare : Nat × LineBuffer bufsiz}
    {front rest : Nodes bufsiz} (linked : Linked s spare front rest) {bytes : List UInt8}
    (nonempty : bytes ≠ []) (fits : bytes.length ≤ bufsiz) :
    ∃ (buffer : Area bufsiz) (placed : State bufsiz), buffer.val.take bytes.length = bytes ∧
      Commits config s placed spare front rest bytes
        (committedNode config (filledNode spare.2 buffer) bytes) := by
  obtain ⟨buffer, placed, holds, places, commits, commit⟩ :=
    linked.placedCommitted config fits
  have sized : (UInt64.ofNat bytes.length).toNat = bytes.length :=
    toNat_ofNat_of_le_bufsiz linked.bufsiz_lt fits
  have proper : UInt64.ofNat bytes.length ≠ 0 := by
    rintro zero
    rw [zero] at sized
    exact nonempty (List.length_eq_zero_iff.mp sized.symm)
  exact ⟨buffer, placed, holds, places, proper, commits, commit, sized, sized.trans_le fits⟩

theorem Linked.grown {config : Config} {s : State bufsiz}
    {spare : Nat × LineBuffer bufsiz} {front rest : Nodes bufsiz}
    (linked : Linked s spare front rest) {bytes : List UInt8} (nonempty : bytes ≠ [])
    (fits : bytes.length ≤ bufsiz) (fresh : Allocation (LineBuffer bufsiz)) :
    ∃ buffer : Area bufsiz, buffer.val.take bytes.length = bytes ∧
      Grown config s spare front rest
        (committedNode config (filledNode spare.2 buffer) bytes) fresh
        (bufferAppend config s bytes fresh) := by
  obtain ⟨buffer, placed, holds, commits⟩ := linked.commits config nonempty fits
  refine ⟨buffer, holds, ?_⟩
  have commit := commits.linked
  obtain ⟨init, final, rfl, last, _⟩ := commit.exists_last
  have decides := commit.fitsLast last commits.fits
  simp only [bufferAppend, commits.places, except_ok_bind, bufferSetAppended,
    if_neg commits.proper, commits.commits, decides]
  split
  · next room =>
    obtain ⟨target, holds, merges⟩ := commit.mergeAppended last (of_decide_eq_true room)
    simp only [merges, except_ok_bind]
    exact .merged rfl holds (commit.merged (of_decide_eq_true room) target)
  · simp only [commit.linkAppended last, except_ok_bind]
    exact .linked rfl (commit.linked commits.fits)

/-! ## The next spare block -/

def renewedNode (node : LineBuffer bufsiz) : LineBuffer bufsiz :=
  { node with nbytes := 0, nlines := 0, next := none }

theorem Linked.resetAppend {s : State bufsiz} {spare : Nat × LineBuffer bufsiz}
    {front rest : Nodes bufsiz} (linked : Linked s spare front rest) :
    resetAppend s = .ok { s with
        heap := s.heap.insert spare.1 (renewedNode spare.2) } ∧
      Linked { s with heap := s.heap.insert spare.1 (renewedNode spare.2) }
        (spare.1, renewedNode spare.2) front rest := by
  have renewed : { spare.2 with nbytes := 0, nlines := 0 } = renewedNode spare.2 := by
    simp [renewedNode, linked.spareNext]
  refine ⟨?_, linked.setSpare rfl rfl rfl rfl rfl rfl⟩
  rw [← renewed]
  exact State.modify_of_lookup linked.append linked.spareLookup _

theorem renewAppend_of_lookup {s : State bufsiz} {block : Nat} {node : LineBuffer bufsiz}
    (points : s.append = some block) (found : s.heap.lookup block = some node) :
    renewAppend s =
      .ok { s with heap := s.heap.insert block (renewedNode node) } := by
  simp only [renewAppend, State.modify_of_lookup points found, except_ok_bind]
  refine (State.modify_of_lookup points (AList.lookup_insert s.heap) _).trans ?_
  simp only [AList.insert_insert, renewedNode]

/-- The state once the first block is the spare block. -/
def droppedState (s : State bufsiz) (head : Nat × LineBuffer bufsiz) : State bufsiz :=
  { s with
    heap := s.heap.insert head.1 (renewedNode head.2)
    append := some head.1
    totalBytes := s.totalBytes - head.2.nbytes
    totalLines := s.totalLines - head.2.nlines
    bytesUpToTailBuffer := s.bytesUpToTailBuffer - head.2.nbytes
    linesUpToTailBuffer := s.linesUpToTailBuffer - head.2.nlines
    first := head.2.next }

/-- The state once a new block is the spare block. -/
def extendedState (s : State bufsiz) (block : Nat) (node : LineBuffer bufsiz) : State bufsiz :=
  { s with heap := s.heap.insert block (renewedNode node), append := some block }

theorem Spareless.dropped {s : State bufsiz} {head : Nat × LineBuffer bufsiz}
    {front rest : Nodes bufsiz} (owner : Spareless s (head :: front) rest) :
    Linked (droppedState s head) (head.1, renewedNode head.2) front rest := by
  have found : s.heap.lookup head.1 = some head.2 := owner.lookup (by simp)
  have nodup := owner.nodup
  simp only [List.cons_append, List.map_cons, List.nodup_cons] at nodup
  have chain := owner.chain
  rw [List.cons_append, Chain.cons_iff] at chain
  refine ⟨⟨chain.2.2.insert nodup.1, owner.nonempty, owner.tailBuffer, ?_, nodup.2, ?_, ?_⟩,
    rfl, AList.lookup_insert s.heap, rfl, ?_⟩
  · refine owner.last.trans ?_
    rw [List.cons_append, List.getLast?_cons_of_ne_nil (by simp [owner.nonempty])]
  · exact fun node member => owner.fits node (.tail _ member)
  · exact (congrArg (· * sizeofLineBuffer bufsiz)
      (blockCount_insert_of_mem _ (mem_of_lookup found))).trans_le owner.room
  · exact (keys_insert_perm _ (mem_of_lookup found)).trans owner.owned

theorem Spareless.sameList {s s' : State bufsiz} {front rest front' rest' : Nodes bufsiz}
    (owner : Spareless s front rest) (same : SameList s s')
    (split : front' ++ rest' = front ++ rest) (listed : Listed s' front' rest') :
    Spareless s' front' rest' where
  toListed := listed
  owned := by rw [same.heap, split]; exact owner.owned

theorem SameList.allocates {s s' : State bufsiz} {fresh : Allocation (LineBuffer bufsiz)}
    (same : SameList s s') (sound : Allocates s fresh) : Allocates s' fresh := by
  intro block value answered
  exact (sound block value answered).congr (by rw [same.heap])

/-- Linking the spare block changes no block's owner. -/
theorem Spareless.allocates {s s' : State bufsiz} {spare final : Nat × LineBuffer bufsiz}
    {front init : Nodes bufsiz} {final' : LineBuffer bufsiz} {node : LineBuffer bufsiz}
    {fresh : Allocation (LineBuffer bufsiz)}
    (owner : Spareless s' front (init ++ [(final.1, final'), (spare.1, node)]))
    (linked : Linked s spare front (init ++ [final])) (sound : Allocates s fresh) :
    Allocates s' fresh := by
  intro block value answered
  refine (sound block value answered).congr ((owner.owned.trans ?_).trans linked.owned.symm)
  have ids : (front ++ (init ++ [(final.1, final'), (spare.1, node)])).map Prod.fst =
      (front ++ (init ++ [final])).map Prod.fst ++ [spare.1] := by simp
  rw [ids]
  exact List.perm_append_singleton _ _

theorem Spareless.extended {s : State bufsiz} {front rest : Nodes bufsiz}
    (owner : Spareless s front rest) {block : Nat} (fresh : FreshBuffer s block)
    (node : LineBuffer bufsiz) :
    Linked (extendedState s block node) (block, renewedNode node) front rest := by
  have absent : block ∉ (front ++ rest).map Prod.fst := fun member =>
    fresh.1 (AList.mem_keys.mpr (owner.owned.mem_iff.mpr member))
  refine ⟨⟨owner.chain.insert absent, owner.nonempty, owner.tailBuffer, owner.last,
    owner.nodup, owner.fits, ?_⟩, rfl, AList.lookup_insert s.heap, rfl, ?_⟩
  · exact (congrArg (· * sizeofLineBuffer bufsiz)
      (blockCount_insert_of_notMem _ fresh.1)).trans_le fresh.2
  · exact (keys_insert_of_notMem _ fresh.1 ▸ owner.owned.cons block)

theorem Spareless.exhausted {s : State bufsiz} {front rest : Nodes bufsiz}
    (owner : Spareless s front rest) : Spareless { s with append := none } front rest where
  toListed := ⟨owner.chain, owner.nonempty, owner.tailBuffer, owner.last, owner.nodup,
    owner.fits, owner.room⟩
  owned := owner.owned

/-- The four ways to get, or not to get, the next spare block. -/
inductive Replaced (config : Config) (s : State bufsiz)
    (fresh : Allocation (LineBuffer bufsiz)) (front rest : Nodes bufsiz) :
    Except Fault (Bool × State bufsiz) → Prop where
  | recycled {head : Nat × LineBuffer bufsiz} {back : Nodes bufsiz} :
      front = head :: back → firstBufferDroppable config s head.2 = true →
      Linked (droppedState s head) (head.1, renewedNode head.2) back rest →
      Replaced config s fresh front rest (.ok (true, droppedState s head))
  | asserted {head : Nat × LineBuffer bufsiz} {back : Nodes bufsiz} :
      front = [] → rest = head :: back → firstBufferDroppable config s head.2 = true →
      Replaced config s fresh front rest (.error .assertionFailed)
  | exhausted :
      (∀ head ∈ (front ++ rest).head?, firstBufferDroppable config s head.2 = false) →
      fresh = none →
      Replaced config s fresh front rest (.ok (false, { s with append := none }))
  | allocated {block : Nat} {node : LineBuffer bufsiz} :
      (∀ head ∈ (front ++ rest).head?, firstBufferDroppable config s head.2 = false) →
      fresh = some (block, node) →
      Linked (extendedState s block node) (block, renewedNode node) front rest →
      Replaced config s fresh front rest (.ok (true, extendedState s block node))

theorem Spareless.replaced {config : Config} {s : State bufsiz}
    {front rest : Nodes bufsiz} (owner : Spareless s front rest)
    {fresh : Allocation (LineBuffer bufsiz)}
    (sound : Allocates s fresh) :
    Replaced config s fresh front rest (replaceAppend config s fresh) := by
  obtain ⟨head, others, split⟩ : ∃ head others, front ++ rest = head :: others :=
    List.exists_cons_of_ne_nil (by simp [owner.nonempty])
  have chain := owner.chain
  rw [split, Chain.cons_iff] at chain
  have loaded : load s.heap s.first = .ok head.2 := by
    rw [chain.1]
    exact load_of_lookup chain.2.1
  simp only [replaceAppend, loaded, except_ok_bind]
  cases decision : firstBufferDroppable config s head.2 with
  | true =>
      cases front with
      | nil =>
          have same : s.first = s.tailBuffer := by
            rw [owner.tailBuffer, chain.1, show rest = head :: others from split]
            rfl
          have asserted : dropFirst s = .error .assertionFailed := by
            simp only [dropFirst, if_pos same]
          simp only [if_true, asserted]
          exact .asserted rfl split decision
      | cons first back =>
          obtain ⟨rfl, -⟩ := List.cons.inj split
          obtain ⟨tail, after, rfl⟩ := List.exists_cons_of_ne_nil owner.nonempty
          have nodup := owner.nodup
          have different : s.first ≠ s.tailBuffer := by
            rw [owner.tailBuffer, chain.1]
            simp only [List.head?_cons, Option.map_some, ne_eq, Option.some.injEq]
            intro same
            simp [same] at nodup
          have renewed := renewAppend_of_lookup
            (s := { droppedState s first with heap := s.heap }) rfl chain.2.1
          have drops :
              dropFirst s = .ok { droppedState s first with heap := s.heap } := by
            rw [dropFirst, if_neg different]
            simp only [loaded, except_ok_bind, except_pure]
            simp only [chain.1, droppedState]
          simp only [if_true, drops, except_ok_bind, renewed, except_pure]
          exact .recycled rfl decision owner.dropped
  | false =>
      have kept : ∀ other ∈ (front ++ rest).head?,
          firstBufferDroppable config s other.2 = false := by
        intro other member
        rw [split] at member
        cases Option.mem_some_iff.mp member
        exact decision
      cases fresh with
      | none =>
          simp only [allocate, Bool.false_eq_true, if_false, if_true, except_pure]
          exact .exhausted kept rfl
      | some answer =>
          obtain ⟨block, node⟩ := answer
          have fresh := sound block node rfl
          have renewed := renewAppend_of_lookup
            (s := { s with heap := s.heap.insert block node, append := some block })
            rfl (AList.lookup_insert s.heap)
          simp only [AList.insert_insert] at renewed
          simp only [allocate, Bool.false_eq_true, if_false, reduceCtorEq, renewed,
            except_ok_bind, except_pure]
          exact .allocated kept rfl (owner.extended fresh node)

end Tailserver.Buffer
