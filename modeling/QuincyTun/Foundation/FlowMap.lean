import Mathlib.Data.List.AList

/-! Finite maps from keys to lists, seen as one collection of items.

The operations touch the list of one key; everything else stays in `others`.
Statements about all items therefore split into one about the touched list and
one about the rest.
-/

set_option autoImplicit false

namespace QuincyTun.Foundation

variable {κ ι : Type} [DecidableEq κ]

abbrev FlowMap (κ ι : Type) := AList (fun _ : κ => List ι)

/-- All items, in the order of the keys. -/
def FlowMap.items {κ ι : Type} (map : FlowMap κ ι) : List ι := map.entries.flatMap Sigma.snd

def FlowMap.others (map : FlowMap κ ι) (key : κ) : List ι := FlowMap.items (map.erase key)

omit [DecidableEq κ] in
@[simp] theorem FlowMap.items_empty : FlowMap.items (∅ : FlowMap κ ι) = [] := rfl

theorem FlowMap.others_eq (map : FlowMap κ ι) (key : κ) :
    map.others key = (List.kerase key map.entries).flatMap Sigma.snd := rfl

theorem FlowMap.items_perm {map : FlowMap κ ι} {key : κ} {list : List ι}
    (found : map.lookup key = some list) :
    (FlowMap.items map).Perm (list ++ map.others key) := by
  have member : key ∈ map.entries.keys := by
    rw [← AList.keys, ← AList.mem_keys, ← AList.lookup_isSome, found]
    rfl
  obtain ⟨stored, front, back, fresh, split, erased⟩ := List.exists_of_kerase member
  have same : stored = list := by
    have head : map.lookup key = some stored := by
      apply AList.mem_lookup_iff.mpr
      rw [split]
      simp
    exact Option.some.inj (head.symm.trans found)
  subst same
  rw [FlowMap.items, FlowMap.others_eq, erased, split]
  simp only [List.flatMap_append, List.flatMap_cons]
  exact List.perm_append_comm_assoc _ _ _

theorem FlowMap.others_of_lookup_none {map : FlowMap κ ι} {key : κ}
    (absent : map.lookup key = none) : map.others key = FlowMap.items map := by
  have missing : key ∉ map.entries.keys := by
    rw [← AList.keys, ← AList.mem_keys]
    exact AList.lookup_eq_none.mp absent
  rw [FlowMap.others_eq, List.kerase_of_notMem_keys missing, FlowMap.items]

theorem FlowMap.mem_items {map : FlowMap κ ι} {item : ι} :
    item ∈ FlowMap.items map ↔ ∃ key list, map.lookup key = some list ∧ item ∈ list := by
  simp only [FlowMap.items, List.mem_flatMap]
  constructor
  · rintro ⟨⟨key, list⟩, entry, member⟩
    exact ⟨key, list, AList.mem_lookup_iff.mpr entry, member⟩
  · rintro ⟨key, list, found, member⟩
    exact ⟨⟨key, list⟩, AList.mem_lookup_iff.mp found, member⟩

theorem FlowMap.lookup_of_single {map : FlowMap κ ι} {item : ι} (member : item ∈ FlowMap.items map)
    (single : (FlowMap.items map).length ≤ 1) : ∃ key, map.lookup key = some [item] := by
  obtain ⟨key, list, found, inside⟩ := FlowMap.mem_items.mp member
  have size := (FlowMap.items_perm found).length_eq
  rw [List.length_append] at size
  have alone : list.length = 1 :=
    le_antisymm (by omega) (List.length_pos_of_mem inside)
  obtain ⟨only, rfl⟩ := List.length_eq_one_iff.mp alone
  exact ⟨key, List.mem_singleton.mp inside ▸ found⟩

def FlowMap.Forall (property : κ → List ι → Prop) (map : FlowMap κ ι) : Prop :=
  ∀ key list, map.lookup key = some list → property key list

theorem FlowMap.forall_empty (property : κ → List ι → Prop) :
    FlowMap.Forall property (∅ : FlowMap κ ι) := by
  intro key list found
  simp at found

theorem FlowMap.Forall.insert {property : κ → List ι → Prop} {map : FlowMap κ ι}
    (all : FlowMap.Forall property map) {key : κ} {list : List ι} (holds : property key list) :
    FlowMap.Forall property (map.insert key list) := by
  intro other stored found
  by_cases same : other = key
  · subst same
    rw [AList.lookup_insert] at found
    exact Option.some.inj found ▸ holds
  · rw [AList.lookup_insert_ne same] at found
    exact all other stored found

end QuincyTun.Foundation
