import QuincyTun.Foundation.Grouping
import QuincyTun.Linux.Joining

/-! The bookkeeping of one batch: which input packet is where.

A `Slot` is a live item of either table, seen by its buffer index and by what it
says about the packets in its group. The invariant connects the buffers with the
grouping of the packets seen so far; each way in which the loop changes buffers,
tables and groups together is one lemma.
-/

set_option autoImplicit false

namespace QuincyTun.Linux

open QuincyTun.Foundation

def cleared (offset : Nat) (buf : ExpandBuffer) : ExpandBuffer :=
  buf.overwritten (offset - virtioNetHdrLen) (List.replicate virtioNetHdrLen 0)

theorem drop_cleared {offset : Nat} (room : virtioNetHdrLen ≤ offset) (buf : ExpandBuffer) :
    (cleared offset buf).bytes.drop offset = buf.bytes.drop offset :=
  drop_overwrite_of_le _ _ _ (by simp only [List.length_replicate]; omega)

structure Slot where
  index : Nat
  Holds : List Nat → ExpandBuffer → Prop

/-- After `n` packets of `input`: every packet stands alone or is a part of one slot. -/
structure BatchInv (input : List ExpandBuffer) (offset n : Nat) (bufs : List ExpandBuffer)
    (groups : Grouping) (slots : List Slot) : Prop where
  size : bufs.length = input.length
  partition : groups.Partition n
  pending : ∀ k, n ≤ k → bufs[k]? = input[k]?
  distinct : (slots.map Slot.index).Nodup
  known : ∀ slot ∈ slots, slot.index ∈ groups.heads
  holds : ∀ slot ∈ slots, ∃ buf, bufs[slot.index]? = some buf ∧
    slot.Holds (groups.parts slot.index) buf
  idle : ∀ head ∈ groups.heads, head ∉ slots.map Slot.index →
    groups.parts head = [head] ∧ bufs[head]? = input[head]?.map (cleared offset)

namespace BatchInv

variable {input bufs : List ExpandBuffer} {offset n : Nat} {groups : Grouping}
  {slots slots' : List Slot} {slot slot' : Slot}

theorem start (input : List ExpandBuffer) (offset : Nat) :
    BatchInv input offset 0 input Grouping.empty [] where
  size := rfl
  partition := Grouping.partition_empty
  pending := fun _ _ => rfl
  distinct := .nil
  known := by simp
  holds := by simp
  idle := by simp [Grouping.empty]

theorem perm (inv : BatchInv input offset n bufs groups slots) (same : slots.Perm slots') :
    BatchInv input offset n bufs groups slots' where
  size := inv.size
  partition := inv.partition
  pending := inv.pending
  distinct := (same.map Slot.index).nodup_iff.mp inv.distinct
  known := fun slot member => inv.known slot (same.mem_iff.mpr member)
  holds := fun slot member => inv.holds slot (same.mem_iff.mpr member)
  idle := fun head member free =>
    inv.idle head member fun found => free ((same.map Slot.index).mem_iff.mp found)

theorem index_lt (inv : BatchInv input offset n bufs groups slots) (member : slot ∈ slots) :
    slot.index < n := inv.partition.bound _ (inv.known slot member)

theorem index_ne (inv : BatchInv input offset n bufs groups (slot :: slots)) {other : Slot}
    (member : other ∈ slots) : other.index ≠ slot.index := by
  intro same
  have fresh := (List.nodup_cons.mp inv.distinct).1
  exact fresh (same ▸ List.mem_map_of_mem member)

theorem fresh (inv : BatchInv input offset n bufs groups slots) : n ∉ groups.heads :=
  fun found => Nat.lt_irrefl n (inv.partition.bound n found)

/-! ## The ways to go on -/

theorem pass (inv : BatchInv input offset n bufs groups slots) {buf : ExpandBuffer}
    (found : input[n]? = some buf) :
    BatchInv input offset (n + 1) (bufs.set n (cleared offset buf)) (groups.step n .stand) slots where
  size := by rw [List.length_set, inv.size]
  partition := inv.partition.step trivial
  pending := by
    intro k later
    rw [List.getElem?_set_ne (by omega)]
    exact inv.pending k (by omega)
  distinct := inv.distinct
  known := fun slot member => List.mem_append_left _ (inv.known slot member)
  holds := by
    intro slot member
    have earlier := inv.index_lt member
    have kept : (groups.step n .stand).parts slot.index = groups.parts slot.index :=
      Function.update_of_ne (by omega) ..
    rw [List.getElem?_set_ne (by omega), kept]
    exact inv.holds slot member
  idle := by
    intro head member free
    rcases List.mem_append.mp member with old | new
    · have earlier := inv.partition.bound head old
      have kept : (groups.step n .stand).parts head = groups.parts head :=
        Function.update_of_ne (by omega) ..
      rw [List.getElem?_set_ne (by omega), kept]
      exact inv.idle head old free
    · rw [List.mem_singleton.mp new]
      have inside : n < bufs.length := inv.size ▸ (List.getElem?_eq_some_iff.mp found).1
      exact ⟨Function.update_self .., by rw [List.getElem?_set_self inside, found]; rfl⟩

theorem openSlot (inv : BatchInv input offset n bufs groups slots) {buf : ExpandBuffer}
    (found : input[n]? = some buf) (here : slot.index = n) (holds : slot.Holds [n] buf) :
    BatchInv input offset (n + 1) bufs (groups.step n .stand) (slot :: slots) where
  size := inv.size
  partition := inv.partition.step trivial
  pending := fun k later => inv.pending k (by omega)
  distinct := by
    refine List.nodup_cons.mpr ⟨?_, inv.distinct⟩
    intro taken
    obtain ⟨other, member, same⟩ := List.mem_map.mp taken
    have earlier := inv.index_lt member
    omega
  known := by
    refine List.forall_mem_cons.mpr ⟨?_, fun other member => ?_⟩
    · exact List.mem_append_right _ (by rw [here]; exact List.mem_singleton_self n)
    · exact List.mem_append_left _ (inv.known other member)
  holds := by
    refine List.forall_mem_cons.mpr ⟨⟨buf, ?_, ?_⟩, fun other member => ?_⟩
    · rw [here, inv.pending n le_rfl, found]
    · have single : (groups.step n .stand).parts slot.index = [n] := by
        rw [here]
        exact Function.update_self ..
      rw [single]
      exact holds
    · have earlier := inv.index_lt member
      have kept : (groups.step n .stand).parts other.index = groups.parts other.index :=
        Function.update_of_ne (by omega) ..
      rw [kept]
      exact inv.holds other member
  -- The new head has a slot, and an older one without a slot is as it was.
  idle := by
    intro head member free
    rcases List.mem_append.mp member with old | new
    · have earlier := inv.partition.bound head old
      have kept : (groups.step n .stand).parts head = groups.parts head :=
        Function.update_of_ne (by omega) ..
      rw [kept]
      exact inv.idle head old fun found => free (List.mem_cons_of_mem _ found)
    · refine (free ?_).elim
      rw [List.mem_singleton.mp new, ← here]
      exact List.mem_cons_self

/-- A slot that never took another packet is given up; its packet passes through. -/
theorem drop (inv : BatchInv input offset n bufs groups (slot :: slots)) {buf : ExpandBuffer}
    (found : input[slot.index]? = some buf) (alone : groups.parts slot.index = [slot.index]) :
    BatchInv input offset n (bufs.set slot.index (cleared offset buf)) groups slots where
  size := by rw [List.length_set, inv.size]
  partition := inv.partition
  pending := by
    intro k later
    have earlier := inv.index_lt List.mem_cons_self
    rw [List.getElem?_set_ne (by omega)]
    exact inv.pending k later
  distinct := (List.nodup_cons.mp inv.distinct).2
  known := fun other member => inv.known other (List.mem_cons_of_mem _ member)
  holds := by
    intro other member
    rw [List.getElem?_set_ne (Ne.symm (inv.index_ne member))]
    exact inv.holds other (List.mem_cons_of_mem _ member)
  idle := by
    intro head member free
    by_cases same : head = slot.index
    · have inside : slot.index < bufs.length :=
        inv.size ▸ (List.getElem?_eq_some_iff.mp found).1
      subst same
      exact ⟨alone, by rw [List.getElem?_set_self inside, found]; rfl⟩
    · rw [List.getElem?_set_ne (Ne.symm same)]
      exact inv.idle head member fun found =>
        (List.mem_cons.mp found).elim same free

/-- The next packet joins a slot, whose buffer is exchanged; its own buffer is free. -/
theorem join (inv : BatchInv input offset n bufs groups (slot :: slots)) {members : List Nat}
    {bufs' : List ExpandBuffer} {buf : ExpandBuffer}
    (partition : (groups.regroup slot.index members).Partition (n + 1))
    (size : bufs'.length = bufs.length) (found : bufs'[slot.index]? = some buf)
    (others : ∀ k, k ≠ slot.index → k ≠ n → bufs'[k]? = bufs[k]?)
    (here : slot'.index = slot.index) (holds : slot'.Holds members buf) :
    BatchInv input offset (n + 1) bufs' (groups.regroup slot.index members) (slot' :: slots) where
  size := size.trans inv.size
  partition := partition
  -- At most two buffers change: that of the slot, and that of packet `n`, pending no more.
  pending := by
    intro k later
    have earlier := inv.index_lt List.mem_cons_self
    rw [others k (by omega) (by omega)]
    exact inv.pending k (by omega)
  distinct := by
    rw [List.map_cons, here]
    exact inv.distinct
  known := by
    refine List.forall_mem_cons.mpr ⟨?_, fun other member => ?_⟩
    · rw [here]
      exact inv.known slot List.mem_cons_self
    · exact inv.known other (List.mem_cons_of_mem _ member)
  holds := by
    refine List.forall_mem_cons.mpr ⟨⟨buf, ?_, ?_⟩, fun other member => ?_⟩
    · rw [here, found]
    · rw [here, Grouping.regroup_parts_self]
      exact holds
    · have apart := inv.index_ne member
      have earlier := inv.index_lt (List.mem_cons_of_mem slot member)
      rw [others _ apart (by omega), Grouping.regroup_parts_ne _ _ apart]
      exact inv.holds other (List.mem_cons_of_mem _ member)
  idle := by
    intro head member free
    rw [List.map_cons, here] at free
    have apart : head ≠ slot.index := fun same => free (same ▸ List.mem_cons_self)
    have earlier := inv.partition.bound head member
    rw [others _ apart (by omega), Grouping.regroup_parts_ne _ _ apart]
    exact inv.idle head member free

end BatchInv

/-! ## The slots of a table -/

section LiveSlots

variable {κ ι : Type} [DecidableEq κ] {table : FlowTable κ ι} {key : κ}

theorem liveSlots_perm (slot : ι → Slot) (rest : List Slot) {items : List ι}
    (stored : table.itemsByFlow.lookup key = some items) :
    (table.liveItems.map slot ++ rest).Perm
      (items.map slot ++ ((table.others key).map slot ++ rest)) := by
  rw [← List.append_assoc, ← List.map_append]
  exact ((FlowTable.liveItems_perm stored).map slot).append_right rest

theorem concatSlots_perm (slot : ι → Slot) (front others : List ι) (last : ι) (rest : List Slot) :
    ((front ++ [last] ++ others).map slot ++ rest).Perm
      (slot last :: ((front ++ others).map slot ++ rest)) := by
  have perm : (front ++ [last] ++ others).Perm (last :: (front ++ others)) := by
    rw [List.append_assoc]
    exact List.perm_middle
  exact (perm.map slot).append_right rest

theorem lastSlot_perm (slot : ι → Slot) (rest : List Slot) {front : List ι} {last : ι}
    (stored : table.itemsByFlow.lookup key = some (front ++ [last])) :
    (table.liveItems.map slot ++ rest).Perm
      (slot last :: ((front ++ table.others key).map slot ++ rest)) := by
  have perm := (FlowTable.liveItems_perm stored).map slot
  exact (perm.append_right rest).trans (concatSlots_perm slot front _ last rest)

end LiveSlots

end QuincyTun.Linux
