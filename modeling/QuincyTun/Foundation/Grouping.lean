import Mathlib.Data.List.Range
import Mathlib.Data.List.Perm.Basic
import Mathlib.Data.List.Nodup
import Mathlib.Data.List.Lattice
import Mathlib.Logic.Function.Basic
import Mathlib.Algebra.BigOperators.Group.List.Basic
import Mathlib.Algebra.GroupWithZero.Nat

/-! Grouping a sequence of arrivals: each arrival stands for itself or joins an
earlier group at one of its ends. A group is known by the arrival that opened it.

This is the purpose of a coalescing table without its data: whatever the order
of the moves, the groups partition the arrivals seen so far.
-/

set_option autoImplicit false

namespace QuincyTun.Foundation

inductive Move where
  | stand
  | append (head : Nat)
  | prepend (head : Nat)
  deriving DecidableEq, Repr

structure Grouping where
  /-- The arrivals that opened a group, in order of arrival. -/
  heads : List Nat
  /-- The members of a group, in the order in which they are joined. -/
  parts : Nat → List Nat

namespace Grouping

def empty : Grouping := ⟨[], fun _ => []⟩

/-- One group takes these members; nothing else changes. -/
def regroup (groups : Grouping) (head : Nat) (members : List Nat) : Grouping :=
  ⟨groups.heads, Function.update groups.parts head members⟩

@[simp] theorem regroup_parts_self (groups : Grouping) (head : Nat) (members : List Nat) :
    (groups.regroup head members).parts head = members := Function.update_self ..

theorem regroup_parts_ne (groups : Grouping) {head other : Nat} (members : List Nat)
    (different : other ≠ head) : (groups.regroup head members).parts other = groups.parts other :=
  Function.update_of_ne different ..

def step (groups : Grouping) (n : Nat) : Move → Grouping
  | .stand => ⟨groups.heads ++ [n], Function.update groups.parts n [n]⟩
  | .append head => groups.regroup head (groups.parts head ++ [n])
  | .prepend head => groups.regroup head (n :: groups.parts head)

def Allows (groups : Grouping) : Move → Prop
  | .stand => True
  | .append head | .prepend head => head ∈ groups.heads

/-- Every arrival before `n` is in exactly one group, and so is each opening arrival. -/
structure Partition (groups : Grouping) (n : Nat) : Prop where
  sorted : groups.heads.Pairwise (· < ·)
  bound : ∀ head ∈ groups.heads, head < n
  cover : (groups.heads.flatMap groups.parts).Perm (List.range n)
  opening : ∀ head ∈ groups.heads, head ∈ groups.parts head

theorem partition_empty : Partition empty 0 where
  sorted := .nil
  bound := by simp [empty]
  cover := by simp [empty]
  opening := by simp [empty]

theorem Partition.nodup {groups : Grouping} {n : Nat} (inv : Partition groups n) :
    groups.heads.Nodup := inv.sorted.imp Nat.ne_of_lt

theorem flatMap_update_of_notMem (parts : Nat → List Nat) {heads : List Nat} {head : Nat}
    (members : List Nat) (fresh : head ∉ heads) :
    heads.flatMap (Function.update parts head members) = heads.flatMap parts := by
  apply List.flatMap_congr
  intro other found
  rw [Function.update_of_ne]
  exact fun same => fresh (same ▸ found)

theorem flatMap_update_perm (parts : Nat → List Nat) {heads members : List Nat} {head n : Nat}
    (nodup : heads.Nodup) (found : head ∈ heads) (grows : members.Perm (n :: parts head)) :
    (heads.flatMap (Function.update parts head members)).Perm (n :: heads.flatMap parts) := by
  induction heads with
  | nil => simp at found
  | cons first rest ih =>
    obtain ⟨fresh, distinct⟩ := List.nodup_cons.mp nodup
    simp only [List.flatMap_cons]
    by_cases here : first = head
    · subst here
      rw [Function.update_self, flatMap_update_of_notMem _ _ fresh]
      exact grows.append_right _
    · have later : head ∈ rest := (List.mem_cons.mp found).resolve_left (Ne.symm here)
      rw [Function.update_of_ne here]
      exact ((ih distinct later).append_left _).trans List.perm_middle

theorem Partition.regroup {groups : Grouping} {n head : Nat} {members : List Nat}
    (inv : Partition groups n) (found : head ∈ groups.heads)
    (grows : members.Perm (n :: groups.parts head)) :
    Partition (groups.regroup head members) (n + 1) := by
  refine ⟨inv.sorted, fun other h => Nat.lt_succ_of_lt (inv.bound other h), ?_, ?_⟩
  · rw [List.range_succ]
    exact (flatMap_update_perm _ inv.nodup found grows).trans
      ((inv.cover.cons n).trans (List.perm_append_singleton n _).symm)
  · intro other h
    by_cases same : other = head
    · subst same
      rw [regroup_parts_self]
      exact grows.mem_iff.mpr (List.mem_cons_of_mem _ (inv.opening _ h))
    · rw [regroup_parts_ne _ _ same]
      exact inv.opening _ h

theorem Partition.step {groups : Grouping} {n : Nat} (inv : Partition groups n) {move : Move}
    (allowed : groups.Allows move) : Partition (groups.step n move) (n + 1) := by
  cases move with
  | stand =>
    have fresh : n ∉ groups.heads := fun found => Nat.lt_irrefl n (inv.bound n found)
    refine ⟨?_, ?_, ?_, ?_⟩
    · simpa [Grouping.step, List.pairwise_append] using ⟨inv.sorted, inv.bound⟩
    · intro head found
      rcases List.mem_append.mp found with old | new
      · exact Nat.lt_succ_of_lt (inv.bound head old)
      · rw [List.mem_singleton.mp new]
        exact Nat.lt_succ_self n
    · simp only [Grouping.step, List.flatMap_append, List.flatMap_singleton,
        Function.update_self, flatMap_update_of_notMem _ _ fresh, List.range_succ]
      exact inv.cover.append_right _
    · intro head found
      by_cases same : head = n
      · subst same
        simp [Grouping.step]
      · have old : head ∈ groups.heads := by
          simpa [Grouping.step, same] using found
        simp only [Grouping.step, Function.update_of_ne same]
        exact inv.opening _ old
  | append head => exact inv.regroup allowed (List.perm_append_singleton _ _)
  | prepend head => exact inv.regroup allowed (List.Perm.refl _)

theorem Partition.exists_head {groups : Grouping} {n k : Nat} (inv : Partition groups n)
    (seen : k < n) : ∃ head ∈ groups.heads, k ∈ groups.parts head := by
  have member : k ∈ groups.heads.flatMap groups.parts :=
    inv.cover.mem_iff.mpr (List.mem_range.mpr seen)
  simpa using List.mem_flatMap.mp member

theorem Partition.part_lt {groups : Grouping} {n head k : Nat} (inv : Partition groups n)
    (found : head ∈ groups.heads) (member : k ∈ groups.parts head) : k < n :=
  List.mem_range.mp (inv.cover.mem_iff.mp (List.mem_flatMap.mpr ⟨head, found, member⟩))

theorem Partition.parts_nodup {groups : Grouping} {n head : Nat} (inv : Partition groups n)
    (found : head ∈ groups.heads) : (groups.parts head).Nodup := by
  have all : (groups.heads.flatMap groups.parts).Nodup :=
    inv.cover.nodup_iff.mpr List.nodup_range
  exact (List.nodup_flatMap.mp all).1 head found

theorem Partition.length_parts_le {groups : Grouping} {n head : Nat} (inv : Partition groups n)
    (found : head ∈ groups.heads) : (groups.parts head).length ≤ n := by
  have inside : groups.parts head ⊆ List.range n := fun k member =>
    List.mem_range.mpr (inv.part_lt found member)
  have bound := (List.subperm_of_subset (inv.parts_nodup found) inside).length_le
  rwa [List.length_range] at bound

theorem Partition.eq_single {groups : Grouping} {n head : Nat} (inv : Partition groups n)
    (found : head ∈ groups.heads) (one : (groups.parts head).length = 1) :
    groups.parts head = [head] := by
  obtain ⟨only, same⟩ := List.length_eq_one_iff.mp one
  have opening := inv.opening head found
  rw [same, List.mem_singleton] at opening
  rw [same, opening]

/-- No arrival is in two groups. -/
theorem Partition.head_unique {groups : Grouping} {n first second k : Nat}
    (inv : Partition groups n) (h₁ : first ∈ groups.heads) (h₂ : second ∈ groups.heads)
    (k₁ : k ∈ groups.parts first) (k₂ : k ∈ groups.parts second) : first = second := by
  have all : (groups.heads.flatMap groups.parts).Nodup :=
    inv.cover.nodup_iff.mpr List.nodup_range
  by_contra different
  have : Std.Symm (Function.onFun List.Disjoint groups.parts) := ⟨fun _ _ h => List.Disjoint.symm h⟩
  exact (List.nodup_flatMap.mp all).2.forall h₁ h₂ different k₁ k₂

theorem Partition.step_parts {groups : Grouping} {n head : Nat} (inv : Partition groups n)
    (move : Move) (known : head ∈ groups.heads) :
    head ∈ (groups.step n move).heads ∧
      ((move = .append head ∨ move = .prepend head) ∧
          ((groups.step n move).parts head).Perm (n :: groups.parts head) ∨
        ¬ (move = .append head ∨ move = .prepend head) ∧
          (groups.step n move).parts head = groups.parts head) := by
  have earlier := inv.bound head known
  cases move with
  | stand =>
    refine ⟨List.mem_append_left _ known, .inr ⟨by simp, ?_⟩⟩
    exact Function.update_of_ne (by omega) ..
  | append other =>
    refine ⟨known, ?_⟩
    by_cases same : other = head
    · subst same
      rw [Grouping.step, regroup_parts_self]
      exact .inl ⟨.inl rfl, List.perm_append_singleton ..⟩
    · exact .inr ⟨by simp [same], regroup_parts_ne _ _ (Ne.symm same)⟩
  | prepend other =>
    refine ⟨known, ?_⟩
    by_cases same : other = head
    · subst same
      rw [Grouping.step, regroup_parts_self]
      exact .inl ⟨.inr rfl, .refl _⟩
    · exact .inr ⟨by simp [same], regroup_parts_ne _ _ (Ne.symm same)⟩

theorem mem_step_heads {groups : Grouping} {n head : Nat} {move : Move}
    (member : head ∈ (groups.step n move).heads) :
    head ∈ groups.heads ∨ head = n ∧ (groups.step n move).parts head = [head] := by
  cases move with
  | stand =>
    rcases List.mem_append.mp member with old | new
    · exact .inl old
    · obtain rfl := List.mem_singleton.mp new
      exact .inr ⟨rfl, Function.update_self ..⟩
  | append other => exact .inl member
  | prepend other => exact .inl member

theorem Partition.joined_mem {groups : Grouping} {n head : Nat} {move : Move}
    (inv : Partition groups n) (after : Partition (groups.step n move) (n + 1))
    (joins : move = .append head ∨ move = .prepend head) : head ∈ groups.heads := by
  obtain ⟨other, member, part⟩ := after.exists_head n.lt_succ_self
  have same : (groups.step n move).heads = groups.heads := by
    rcases joins with rfl | rfl <;> rfl
  rw [same] at member
  obtain ⟨-, ⟨into, -⟩ | ⟨-, kept⟩⟩ := inv.step_parts move member
  · have found : other = head := by
      rcases joins with rfl | rfl <;> rcases into with into | into <;> cases into <;> rfl
    exact found ▸ member
  · rw [kept] at part
    exact absurd (inv.part_lt member part) (Nat.lt_irrefl n)

/-- The arrivals are counted by the sizes of their groups. -/
theorem Partition.count {groups : Grouping} {n : Nat} (inv : Partition groups n) :
    (groups.heads.map fun head => (groups.parts head).length).sum = n := by
  have size := inv.cover.length_eq
  rw [List.length_flatMap, List.length_range] at size
  exact size

theorem Partition.heads_perm {groups : Grouping} {n : Nat} (inv : Partition groups n)
    {live : List Nat} (distinct : live.Nodup) (known : ∀ k ∈ live, k ∈ groups.heads) :
    groups.heads.Perm (live ++ groups.heads.filter (· ∉ live)) := by
  refine (List.perm_ext_iff_of_nodup inv.nodup ?_).mpr fun k => ?_
  · refine List.nodup_append.mpr ⟨distinct, inv.nodup.filter _, fun k inLive other rest same => ?_⟩
    subst same
    simp only [List.mem_filter, decide_eq_true_eq] at rest
    exact rest.2 inLive
  · simp only [List.mem_append, List.mem_filter, decide_eq_true_eq]
    exact ⟨fun member => or_iff_not_imp_left.mpr fun free => ⟨member, free⟩,
      fun found => found.elim (known k) And.left⟩

/-- When all groups but the live ones have one member, only those need to be counted. -/
theorem Partition.count_live {groups : Grouping} {n : Nat} (inv : Partition groups n)
    {live : List Nat} (distinct : live.Nodup) (known : ∀ k ∈ live, k ∈ groups.heads)
    (alone : ∀ k ∈ groups.heads, k ∉ live → (groups.parts k).length = 1) :
    groups.heads.length + (live.map fun k => (groups.parts k).length - 1).sum = n := by
  have split := inv.heads_perm distinct known
  have positive : ∀ k ∈ live, (groups.parts k).length = 1 + ((groups.parts k).length - 1) := by
    intro k member
    have here := List.length_pos_of_mem (inv.opening k (known k member))
    omega
  have ones : ∀ k ∈ groups.heads.filter (· ∉ live), (groups.parts k).length = 1 := by
    intro k member
    simp only [List.mem_filter, decide_eq_true_eq] at member
    exact alone k member.1 member.2
  have total := inv.count
  rw [((split.map fun k => (groups.parts k).length).sum_eq), List.map_append, List.sum_append,
    List.map_congr_left positive, List.map_congr_left ones, List.sum_map_add] at total
  simp only [List.map_const', List.sum_replicate_nat, Nat.mul_one] at total
  rw [split.length_eq, List.length_append]
  omega

/-! ## Runs -/

def run (moves : Nat → Move) : Nat → Grouping
  | 0 => empty
  | n + 1 => (run moves n).step n (moves n)

section Run

variable {moves : Nat → Move} {m n head k : Nat}

theorem run_kept (partition : ∀ i ≤ n, (run moves i).Partition i) (later : m ≤ n)
    (known : head ∈ (run moves m).heads) :
    head ∈ (run moves n).heads ∧ (run moves m).parts head ⊆ (run moves n).parts head := by
  induction n, later using Nat.le_induction with
  | base => exact ⟨known, List.Subset.refl _⟩
  | succ n later ih =>
    obtain ⟨still, members⟩ := ih fun i small => partition i (by omega)
    obtain ⟨stays, ⟨-, grows⟩ | ⟨-, kept⟩⟩ :=
      (partition n n.le_succ).step_parts (moves n) still
    · refine ⟨stays, fun j member => ?_⟩
      rw [run, grows.mem_iff]
      exact List.mem_cons_of_mem _ (members member)
    · refine ⟨stays, fun j member => ?_⟩
      rw [run, kept]
      exact members member

theorem run_joins (partition : ∀ i ≤ n, (run moves i).Partition i) (inside : k < n)
    (joins : moves k = .append head ∨ moves k = .prepend head) :
    head ∈ (run moves n).heads ∧ head ∈ (run moves n).parts head ∧
      k ∈ (run moves n).parts head := by
  have before := partition k inside.le
  have known := before.joined_mem (partition (k + 1) inside) joins
  obtain ⟨stays, ⟨-, grows⟩ | ⟨apart, -⟩⟩ := before.step_parts (moves k) known
  · obtain ⟨still, members⟩ := run_kept partition inside stays
    exact ⟨still, (partition n le_rfl).opening head still,
      members (grows.mem_iff.mpr List.mem_cons_self)⟩
  · exact absurd joins apart

theorem run_joined (partition : ∀ i ≤ n, (run moves i).Partition i)
    (known : head ∈ (run moves n).heads) (member : k ∈ (run moves n).parts head)
    (apart : k ≠ head) : moves k = .append head ∨ moves k = .prepend head := by
  induction n with
  | zero => cases known
  | succ n ih =>
    have before := partition n n.le_succ
    have earlier := fun i small => partition i (Nat.le_succ_of_le small)
    rcases mem_step_heads known with old | ⟨-, single⟩
    · obtain ⟨-, ⟨joins, grows⟩ | ⟨-, kept⟩⟩ := before.step_parts (moves n) old
      · rw [run, grows.mem_iff] at member
        rcases List.mem_cons.mp member with rfl | present
        · exact joins
        · exact ih earlier old present
      · rw [run, kept] at member
        exact ih earlier old member
    · rw [run, single, List.mem_singleton] at member
      exact absurd member apart

/-- The first arrival opened a group, and all others followed it there. -/
structure OneGroup (groups : Grouping) (n : Nat) : Prop where
  heads : groups.heads = [0]
  parts : groups.parts 0 = List.range n

theorem run_opens (partition : ∀ i ≤ 1, (run moves i).Partition i) : moves 0 = .stand := by
  have outside : ∀ head, ¬ (moves 0 = .append head ∨ moves 0 = .prepend head) := by
    intro head joins
    cases (partition 0 (by omega)).joined_mem (partition 1 le_rfl) joins
  cases joins : moves 0 with
  | stand => rfl
  | append head => exact absurd (.inl joins) (outside head)
  | prepend head => exact absurd (.inr joins) (outside head)

/-- Arrivals that each join the first one behind the others end in one group. -/
theorem run_oneGroup (opens : moves 0 = .stand)
    (joins : ∀ m, 0 < m → m < n → OneGroup (run moves m) m → moves m = .append 0) (seen : 0 < n) :
    OneGroup (run moves n) n := by
  induction n, Nat.succ_le_of_lt seen using Nat.le_induction with
  | base =>
    have opened : run moves 1 = step empty 0 .stand := by
      rw [run, opens]
      rfl
    rw [opened]
    exact ⟨rfl, by simp [step]⟩
  | succ n later ih =>
    have before := ih (fun m positive inside => joins m positive (Nat.lt_succ_of_lt inside))
      (Nat.lt_of_lt_of_le Nat.zero_lt_one later)
    rw [run, joins n later n.lt_succ_self before]
    exact ⟨before.heads, by rw [step, regroup_parts_self, before.parts, List.range_succ]⟩

end Run

/-! ## Order -/

/-- Read group by group, the chosen arrivals are in order when each group has them in order and
no group has a chosen arrival that came after one of a later group. -/
theorem Partition.filter_inOrder_iff {groups : Grouping} {n : Nat} (inv : Partition groups n)
    (chosen : Nat → Bool) :
    (groups.heads.flatMap groups.parts).filter chosen = (List.range n).filter chosen ↔
      (∀ head ∈ groups.heads, ((groups.parts head).filter chosen).Pairwise (· < ·)) ∧
        ∀ first ∈ groups.heads, ∀ second ∈ groups.heads, first < second →
          ∀ k ∈ groups.parts first, ∀ j ∈ groups.parts second,
            chosen k = true → chosen j = true → k < j := by
  have sameMembers := inv.cover.filter chosen
  have sorted : ((List.range n).filter chosen).Pairwise (· < ·) := List.pairwise_lt_range.filter _
  -- The two lists have the same members, so they are equal as soon as both ascend.
  have inOrder : (groups.heads.flatMap groups.parts).filter chosen =
      (List.range n).filter chosen ↔
        ((groups.heads.flatMap groups.parts).filter chosen).Pairwise (· < ·) := by
    refine ⟨fun same => same ▸ sorted, fun ascending => ?_⟩
    exact sameMembers.eq_of_pairwise (fun k j _ _ before after => absurd after (Nat.lt_asymm before))
      ascending sorted
  rw [inOrder, List.filter_flatMap, List.pairwise_flatMap]
  refine and_congr_right fun _ => ?_
  constructor
  · intro apart first member second member' before k part j part' isChosen isChosen'
    obtain ⟨a, insideA, rfl⟩ := List.mem_iff_getElem.mp member
    obtain ⟨b, insideB, rfl⟩ := List.mem_iff_getElem.mp member'
    -- Groups stand in the order of the arrivals that opened them.
    have order : a < b := by
      by_contra notBefore
      rcases Nat.lt_or_eq_of_le (Nat.le_of_not_lt notBefore) with less | rfl
      · have reversed := List.pairwise_iff_getElem.mp inv.sorted b a insideB insideA less
        exact Nat.lt_asymm before reversed
      · exact Nat.lt_irrefl _ before
    exact List.pairwise_iff_getElem.mp apart a b insideA insideB order k
      (List.mem_filter.mpr ⟨part, isChosen⟩) j (List.mem_filter.mpr ⟨part', isChosen'⟩)
  · intro apart
    refine inv.sorted.imp_of_mem fun {first second} member member' before k part j part' => ?_
    obtain ⟨inFirst, isChosen⟩ := List.mem_filter.mp part
    obtain ⟨inSecond, isChosen'⟩ := List.mem_filter.mp part'
    exact apart first member second member' before k inFirst j inSecond isChosen isChosen'

end Grouping

end QuincyTun.Foundation
