import QuincyTun.Foundation.Grouping

/-! Arrivals that carry pieces of one stream, and groups that join adjacent pieces.

If the pieces arrive in the order of the stream, a group without gaps cannot reach past
a piece that is in another group. So reading group by group keeps the order.
-/

set_option autoImplicit false

namespace QuincyTun.Foundation

variable {position size : Nat → Nat} {chosen : Nat → Bool} {n : Nat}

/-- The chosen arrivals carry pieces of the stream one behind the other, maybe with gaps. -/
structure InStreamOrder (position size : Nat → Nat) (chosen : Nat → Bool) (n : Nat) : Prop where
  ascending : ∀ j k, j < k → k < n → chosen j = true → chosen k = true →
    position j + size j ≤ position k
  positive : ∀ k < n, chosen k = true → 0 < size k

def Gapless (position size : Nat → Nat) (members : List Nat) : Prop :=
  members.IsChain fun before after => position after = position before + size before

section Gapless

variable {members : List Nat}

theorem Gapless.pairwise (gapless : Gapless position size members) :
    members.Pairwise fun before after => position before + size before ≤ position after := by
  have trans : Trans (fun before after => position before + size before ≤ position after)
      (fun before after => position before + size before ≤ position after)
      (fun before after => position before + size before ≤ position after) :=
    ⟨fun first second => by omega⟩
  exact List.isChain_iff_pairwise.mp (List.IsChain.imp (fun _ _ same => same.ge) gapless)

/-- Whatever lies between the beginnings of two pieces lies in a piece. -/
theorem Gapless.covers (gapless : Gapless position size members) {first last x : Nat}
    (firstIn : first ∈ members) (lastIn : last ∈ members) (lower : position first ≤ x)
    (upper : x < position last) :
    ∃ piece ∈ members, position piece ≤ x ∧ x < position piece + size piece := by
  induction members generalizing first with
  | nil => cases firstIn
  | cons head rest ih =>
    have behind := (List.pairwise_cons.mp gapless.pairwise).1
    have tail : Gapless position size rest := List.IsChain.tail gapless
    by_cases here : position head ≤ x ∧ x < position head + size head
    · exact ⟨head, List.mem_cons_self, here⟩
    have lastLater : last ∈ rest := by
      rcases List.mem_cons.mp lastIn with rfl | later
      · rcases List.mem_cons.mp firstIn with rfl | firstLater
        · omega
        · have order := behind first firstLater
          omega
      · exact later
    -- The piece behind the head begins where the head ends.
    obtain ⟨next, others, rfl⟩ := List.exists_cons_of_ne_nil (List.ne_nil_of_mem lastLater)
    have adjacent : position next = position head + size head :=
      (List.isChain_cons_cons.mp gapless).1
    have found : ∃ start ∈ next :: others, position start ≤ x := by
      rcases List.mem_cons.mp firstIn with rfl | firstLater
      · exact ⟨next, List.mem_cons_self, by omega⟩
      · exact ⟨first, firstLater, lower⟩
    obtain ⟨start, startIn, startLower⟩ := found
    obtain ⟨piece, among, bounds⟩ := ih tail startIn lastLater startLower
    exact ⟨piece, List.mem_cons_of_mem _ among, bounds⟩

end Gapless

namespace Grouping

variable {groups : Grouping}

/-- Groups that are opened by their first arrival and join adjacent pieces keep the order. -/
theorem Partition.filter_inOrder_of_gapless (inv : groups.Partition n)
    (inOrder : InStreamOrder position size chosen n)
    (opened : ∀ head ∈ groups.heads, ∀ k ∈ groups.parts head, head ≤ k)
    (joined : ∀ head ∈ groups.heads, ∀ k ∈ groups.parts head, chosen k = true → k ≠ head →
      (∀ part ∈ groups.parts head, chosen part = true) ∧
        Gapless position size (groups.parts head)) :
    (groups.heads.flatMap groups.parts).filter chosen = (List.range n).filter chosen := by
  refine (inv.filter_inOrder_iff chosen).mpr ⟨fun head known => ?_, ?_⟩
  · by_cases several : ∃ k ∈ groups.parts head, chosen k = true ∧ k ≠ head
    case neg =>
      -- At most the head itself is chosen, and it is there once.
      have only : ∀ k ∈ (groups.parts head).filter chosen, k = head := by
        intro k member
        obtain ⟨part, isChosen⟩ := List.mem_filter.mp member
        by_contra apart
        exact several ⟨k, part, isChosen, apart⟩
      refine ((inv.parts_nodup known).filter chosen).pairwise_of_forall_ne ?_
      intro a inA b inB different
      exact absurd ((only a inA).trans (only b inB).symm) different
    case pos =>
      obtain ⟨k, part, isChosen, apart⟩ := several
      obtain ⟨all, gapless⟩ := joined head known k part isChosen apart
      refine List.Pairwise.filter _ (gapless.pairwise.imp_of_mem ?_)
      intro a b inA inB adjacent
      by_contra notBefore
      have positive := inOrder.positive a (inv.part_lt known inA) (all a inA)
      rcases Nat.lt_or_eq_of_le (Nat.le_of_not_lt notBefore) with less | rfl
      · have reversed := inOrder.ascending b a less (inv.part_lt known inA) (all b inB) (all a inA)
        omega
      · omega
  · intro first known second known' less k part j part' isChosen isChosen'
    by_contra notBefore
    have apartGroups : k ≠ j := by
      rintro rfl
      exact Nat.ne_of_lt less (inv.head_unique known known' part part')
    have behind := opened second known' j part'
    have inside := inv.part_lt known part
    obtain ⟨all, gapless⟩ := joined first known k part isChosen (by omega)
    have opening := inv.opening first known
    have before := inOrder.ascending first j (by omega) (by omega) (all first opening) isChosen'
    have after := inOrder.ascending j k (by omega) inside isChosen' isChosen
    have positive := inOrder.positive j (by omega) isChosen'
    -- The piece of the group that reaches over the beginning of `j` overlaps it.
    obtain ⟨piece, among, lower, upper⟩ :=
      gapless.covers opening part (x := position j) (by omega) (by omega)
    rcases Nat.lt_trichotomy piece j with earlier | rfl | later
    · have order := inOrder.ascending piece j earlier (by omega) (all piece among) isChosen'
      omega
    · exact absurd (inv.head_unique known known' among part') (Nat.ne_of_lt less)
    · have order := inOrder.ascending j piece later (inv.part_lt known among) isChosen'
        (all piece among)
      omega

theorem run_head_le {moves : Nat → Move} {head k : Nat}
    (partition : ∀ i ≤ n, (run moves i).Partition i) (known : head ∈ (run moves n).heads)
    (part : k ∈ (run moves n).parts head) : head ≤ k := by
  by_cases apart : k = head
  · exact apart.ge
  · have inside := (partition n le_rfl).part_lt known part
    have before := partition k inside.le
    have joins := run_joined partition known part apart
    exact (before.bound head (before.joined_mem (partition (k + 1) inside) joins)).le

end Grouping

end QuincyTun.Foundation
