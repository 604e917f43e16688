import QuincyTun.Linux.Clears
import QuincyTun.Linux.Conservation
import QuincyTun.Linux.Reached
import QuincyTun.Linux.Reuse

/-! What a batch that is rejected looks like afterwards.

The offset is tested buffer by buffer, inside the loop that joins packets and
empties headers. A buffer without room therefore ends a call that has already
worked on the buffers in front of it.
-/

set_option autoImplicit false

namespace QuincyTun.Linux

open QuincyTun.Foundation

/-! ## The buffer that stops the loop -/

section Loop

variable {host : Host} {offset j n : Nat} {canUdpGro : Bool} {s s' : GroState}

structure RejectedAt (bufs : List ExpandBuffer) (offset j : Nat) : Prop where
  valid : ValidBatch bufs offset j
  outside : ∃ buf, bufs[j]? = some buf ∧ ¬(virtioNetHdrLen ≤ offset ∧ offset < buf.bytes.length)

theorem RejectedAt.unique {bufs : List ExpandBuffer} (first : RejectedAt bufs offset n)
    (second : RejectedAt bufs offset j) : n = j := by
  have order : ∀ {a b}, RejectedAt bufs offset a → RejectedAt bufs offset b → ¬ a < b := by
    intro a b early late earlier
    obtain ⟨buf, found, outside⟩ := early.outside
    exact outside (late.valid.room a buf earlier found)
  exact Nat.le_antisymm (Nat.not_lt.mp (order second first)) (Nat.not_lt.mp (order first second))

theorem validBatch_or_rejectedAt {bufs : List ExpandBuffer} (few : bufs.length ≤ 65535)
    (offset : Nat) (inside : n ≤ bufs.length) :
    ValidBatch bufs offset n ∨ ∃ j < n, RejectedAt bufs offset j := by
  induction n with
  | zero => exact .inl (.zero few offset)
  | succ n ih =>
    rcases ih (by omega) with valid | ⟨j, earlier, rejected⟩
    · have own : bufs[n]? = some bufs[n] := List.getElem?_eq_getElem (by omega)
      by_cases room : virtioNetHdrLen ≤ offset ∧ offset < bufs[n].bytes.length
      · exact .inl (valid.succ own room)
      · exact .inr ⟨n, n.lt_succ_self, valid, _, own, room⟩
    · exact .inr ⟨j, by omega, rejected⟩

theorem RejectedAt.stops (rejected : RejectedAt s.bufs offset j) (host : Host)
    (canUdpGro : Bool) (fresh : FreshState s) (later : j < n) :
    groLoop host offset canUdpGro n s =
      .ok (groStateAt host offset canUdpGro j s, invalidInput "invalid offset") := by
  obtain ⟨buf, own, outside⟩ := rejected.outside
  have inside : j < s.bufs.length := (List.getElem?_eq_some_iff.mp own).1
  induction n with
  | zero => exact absurd later (Nat.not_lt_zero j)
  | succ n ih =>
    rw [groLoop]
    rcases Nat.lt_succ_iff_lt_or_eq.mp later with earlier | rfl
    · rw [ih earlier, Run.ok_bind]
      rfl
    · obtain ⟨reached, ran, inv⟩ := groLoop_spec host canUdpGro fresh j inside.le rejected.valid
      have here : reached.bufs[j]? = some buf := (inv.batch.pending j le_rfl).trans own
      rw [groStateAt, ran, Run.ok_bind]
      simp only [groStep_outside host canUdpGro here outside]

/-- The only errors are those of too many buffers and of a buffer without room. -/
theorem handleGro_error {error : IoError} (fresh : FreshState s)
    (ran : handleGro host offset canUdpGro s = .ok (s', .error error)) :
    s.bufs.length > 65535 ∧ s' = s ∨
      ∃ j, RejectedAt s.bufs offset j ∧ s' = groStateAt host offset canUdpGro j s := by
  unfold handleGro at ran
  split at ran
  case isTrue many =>
    obtain ⟨rfl, -⟩ := Prod.mk.inj (Except.ok.inj ran)
    exact .inl ⟨many, rfl⟩
  case isFalse few =>
  right
  rcases validBatch_or_rejectedAt (Nat.not_lt.mp few) offset (Nat.le_refl s.bufs.length) with
    valid | ⟨j, inside, rejected⟩
  · obtain ⟨final, ranLoop, inv⟩ := groLoop_spec host canUdpGro fresh _ le_rfl valid
    rw [ranLoop, Run.ok_bind] at ran
    dsimp only at ran
    cases inv.accounting_outcome valid le_rfl ran
  · rw [rejected.stops host canUdpGro fresh inside, Run.ok_bind] at ran
    obtain ⟨rfl, -⟩ := Prod.mk.inj (Except.ok.inj ran)
    exact ⟨j, rejected, rfl⟩

end Loop

/-! ## What the loop did before -/

section Before

variable {host : Host} {offset j n k : Nat} {canUdpGro : Bool} {s : GroState}
  {input : List ExpandBuffer} {groups : Grouping}

theorem GroInv.grown (inv : GroInv input offset canUdpGro n s groups)
    (valid : ValidBatch input offset n) {head : Nat} (member : head ∈ groups.heads)
    (part : k ∈ groups.parts head) (apart : k ≠ head) :
    (packetAt offset input head).length < (packetAt offset s.bufs head).length := by
  have own : head ∈ groups.parts head := inv.batch.partition.opening head member
  have behind : k ∈ (groups.parts head).erase head := (List.mem_erase_of_ne apart).mpr part
  have order : (groups.parts head).Perm
      (head :: k :: ((groups.parts head).erase head).erase k) :=
    (List.perm_cons_erase own).trans ((List.perm_cons_erase behind).cons head)
  have several : 2 ≤ (groups.parts head).length := by
    rw [order.length_eq, List.length_cons, List.length_cons]
    omega
  have payload : 0 < (payloadOf (packetAt offset input k)).length := by
    rcases (inv.mergedAt_iff head).mpr ⟨member, several⟩ with
      ⟨item, live, rfl, -⟩ | ⟨item, live, rfl, -⟩
    · obtain ⟨-, buf, -, holds⟩ := inv.tcpHolds live
      have eligible := holds.group.eligible _ (List.mem_map_of_mem part)
      rw [holds.payloadOf_part part, tcpPayload, List.length_drop]
      exact Nat.sub_pos_of_lt eligible.payload
    · obtain ⟨-, buf, -, holds⟩ := inv.udpHolds live
      have eligible := holds.group.eligible _ (List.mem_map_of_mem part)
      rw [holds.payloadOf_part part, udpPayload, List.length_drop]
      exact Nat.sub_pos_of_lt eligible.payload
  rw [inv.length_packet valid member, groupLength, (order.map _).sum_eq, List.map_cons,
    List.map_cons, List.sum_cons, List.sum_cons]
  have short := length_payloadOf_le (packetAt offset input head)
  omega

/-- As long as no packet joins a group, the loop empties headers and does nothing else. -/
theorem RejectedAt.clears (rejected : RejectedAt s.bufs offset j) (host : Host)
    (canUdpGro : Bool) (fresh : FreshState s)
    (stands : ∀ k < j, groMove offset canUdpGro k (groStateAt host offset canUdpGro k s) = .stand)
    (inside : n ≤ j) :
    (groStateAt host offset canUdpGro n s).bufs =
      touch (cleared offset) ((List.range n).flatMap fun k =>
        groClears offset canUdpGro k (groStateAt host offset canUdpGro k s)) s.bufs := by
  obtain ⟨last, ownLast, -⟩ := rejected.outside
  have insideLast : j < s.bufs.length := (List.getElem?_eq_some_iff.mp ownLast).1
  induction n with
  | zero => rfl
  | succ n ih =>
    have own : s.bufs[n]? = some s.bufs[n] := List.getElem?_eq_getElem (by omega)
    obtain ⟨before, ran, inv⟩ := groLoop_spec host canUdpGro fresh n (by omega)
      (rejected.valid.mono (by omega))
    have stateAt : groStateAt host offset canUdpGro n s = before := by rw [groStateAt, ran]
    have valid : ValidBatch s.bufs offset (n + 1) := rejected.valid.mono inside
    obtain ⟨after, stepped, -⟩ := groStep_spec host valid own inv
    have step := groStep_clears valid own inv (stateAt ▸ stands n (by omega)) stepped
    have next : groStateAt host offset canUdpGro (n + 1) s = after := by
      rw [groStateAt, groLoop, ran, Run.ok_bind]
      simp only [stepped]
    rw [next, step, List.range_succ, List.flatMap_append, touch_append, ← ih (by omega), stateAt,
      List.flatMap_singleton, stateAt]

theorem RejectedAt.joined_changes (rejected : RejectedAt s.bufs offset j) (host : Host)
    (canUdpGro : Bool) (fresh : FreshState s) (earlier : k < j)
    (joins : groMove offset canUdpGro k (groStateAt host offset canUdpGro k s) ≠ .stand) :
    (groStateAt host offset canUdpGro j s).bufs.map ExpandBuffer.bytes ≠
      s.bufs.map ExpandBuffer.bytes := by
  obtain ⟨last, ownLast, -⟩ := rejected.outside
  have inside : j < s.bufs.length := (List.getElem?_eq_some_iff.mp ownLast).1
  have invs : ∀ i ≤ j, GroInv s.bufs offset canUdpGro i (groStateAt host offset canUdpGro i s)
      (groGroups host offset canUdpGro s i) := by
    intro i before
    obtain ⟨state, ran, inv⟩ := groLoop_spec host canUdpGro fresh i (before.trans inside.le)
      (rejected.valid.mono before)
    have stateAt : groStateAt host offset canUdpGro i s = state := by rw [groStateAt, ran]
    exact stateAt ▸ inv
  obtain ⟨head, moved⟩ : ∃ head,
      groMove offset canUdpGro k (groStateAt host offset canUdpGro k s) = .append head ∨
        groMove offset canUdpGro k (groStateAt host offset canUdpGro k s) = .prepend head := by
    cases move : groMove offset canUdpGro k (groStateAt host offset canUdpGro k s) with
    | stand => exact absurd move joins
    | append head => exact ⟨head, .inl rfl⟩
    | prepend head => exact ⟨head, .inr rfl⟩
  have partition : ∀ i ≤ j, (Grouping.run (fun k => groMove offset canUdpGro k
      (groStateAt host offset canUdpGro k s)) i).Partition i := by
    intro i before
    exact groGroups_eq_run host offset canUdpGro s i ▸ (invs i before).batch.partition
  obtain ⟨member, -, part⟩ := Grouping.run_joins partition earlier moved
  rw [← groGroups_eq_run] at member part
  have opened : head < k := (partition k earlier.le).bound head
    ((partition k earlier.le).joined_mem (partition (k + 1) earlier) moved)
  -- The packet at the head of the group is longer than the one that arrived there.
  have grown := (invs j le_rfl).grown rejected.valid member part (Nat.ne_of_gt opened)
  intro same
  have packets : packetAt offset (groStateAt host offset canUdpGro j s).bufs head =
      packetAt offset s.bufs head := by
    have at_ := congrArg (fun all : List (List UInt8) => all[head]?) same
    simp only [List.getElem?_map] at at_
    unfold packetAt
    cases found : s.bufs[head]? with
    | none =>
      rw [found] at at_
      rw [Option.map_eq_none_iff.mp at_]
    | some buf =>
      rw [found] at at_
      obtain ⟨other, foundOther, equal⟩ := Option.map_eq_some_iff.mp at_
      rw [foundOther]
      exact congrArg (List.drop offset) equal
  rw [packets] at grown
  exact Nat.lt_irrefl _ grown

end Before

/-- Iteration `k` joins nothing, and the headers that it empties are empty already. -/
def LeavesAlone (offset : Nat) (canUdpGro : Bool) (k : Nat) (s : GroState) : Prop :=
  groMove offset canUdpGro k s = .stand ∧
    ∀ i ∈ groClears offset canUdpGro k s, ∀ buf, s.bufs[i]? = some buf → cleared offset buf = buf

section Intact

variable {host : Host} {offset j : Nat} {canUdpGro : Bool} {s : GroState}

theorem touch_cleared_bytes {positions : List Nat} {bufs : List ExpandBuffer}
    (same : (touch (cleared offset) positions bufs).map ExpandBuffer.bytes =
      bufs.map ExpandBuffer.bytes) : touch (cleared offset) positions bufs = bufs := by
  apply (touch_eq_self_iff (cleared_cleared offset)).mpr
  intro i touched buf found
  have bytes := congrArg (fun all : List (List UInt8) => all[i]?) same
  simp only [List.getElem?_map, getElem?_touch (cleared_cleared offset), if_pos touched, found,
    Option.map_some, Option.some.injEq] at bytes
  ext1
  · exact bytes
  · rfl

theorem RejectedAt.intact_iff (rejected : RejectedAt s.bufs offset j) (host : Host)
    (canUdpGro : Bool) (fresh : FreshState s) :
    (groStateAt host offset canUdpGro j s).bufs.map ExpandBuffer.bytes =
        s.bufs.map ExpandBuffer.bytes ↔
      ∀ k < j, LeavesAlone offset canUdpGro k (groStateAt host offset canUdpGro k s) := by
  constructor
  · intro same
    have stands : ∀ k < j,
        groMove offset canUdpGro k (groStateAt host offset canUdpGro k s) = .stand := by
      intro k earlier
      by_contra joins
      exact rejected.joined_changes host canUdpGro fresh earlier joins same
    have all := rejected.clears host canUdpGro fresh stands le_rfl
    rw [all] at same
    have empties := (touch_eq_self_iff (cleared_cleared offset)).mp (touch_cleared_bytes same)
    intro k earlier
    refine ⟨stands k earlier, fun i touched => ?_⟩
    -- Every earlier state has the buffers of the batch as well.
    have kept : (groStateAt host offset canUdpGro k s).bufs = s.bufs := by
      rw [rejected.clears host canUdpGro fresh stands earlier.le]
      apply (touch_eq_self_iff (cleared_cleared offset)).mpr
      intro l member
      obtain ⟨m, before, cleared⟩ := List.mem_flatMap.mp member
      have later : m < j := (List.mem_range.mp before).trans earlier
      exact empties l (List.mem_flatMap.mpr ⟨m, List.mem_range.mpr later, cleared⟩)
    rw [kept]
    exact empties i (List.mem_flatMap.mpr ⟨k, List.mem_range.mpr earlier, touched⟩)
  · intro alone
    have stands := fun k earlier => (alone k earlier).1
    have kept : ∀ n ≤ j, (groStateAt host offset canUdpGro n s).bufs = s.bufs := by
      intro n inside
      induction n with
      | zero => rfl
      | succ n ih =>
        have before := ih (by omega)
        rw [rejected.clears host canUdpGro fresh stands inside, List.range_succ,
          List.flatMap_append, touch_append,
          ← rejected.clears host canUdpGro fresh stands (by omega : n ≤ j), before,
          List.flatMap_singleton]
        apply (touch_eq_self_iff (cleared_cleared offset)).mpr
        exact before ▸ (alone n (by omega)).2
    rw [kept j le_rfl]

end Intact

/-- A rejected batch is as it was exactly when there are too many buffers or when every iteration
in front of the buffer without room left the buffers alone. -/
theorem rejected_intact_iff {host : Host} {offset : Nat} {canUdpGro : Bool} {table : GROTable}
    {bufs : List ExpandBuffer} {s' : GroState} {error : IoError}
    (reached : groTableMachine.Reachable table)
    (rejected : table.applyGro host bufs offset canUdpGro = .ok (s', .error error)) :
    s'.bufs.map ExpandBuffer.bytes = bufs.map ExpandBuffer.bytes ↔
      bufs.length > 65535 ∨ ∀ j, RejectedAt bufs offset j → ∀ k < j,
        LeavesAlone offset canUdpGro k
          (groStateAt host offset canUdpGro k (table.reset.batch bufs)) := by
  have fresh := (reachable_poolsEmpty reached).fresh bufs
  rcases handleGro_error fresh rejected with ⟨many, rfl⟩ | ⟨j, at_, rfl⟩
  · exact ⟨fun _ => .inl many, fun _ => rfl⟩
  · have few : ¬ bufs.length > 65535 := Nat.not_lt.mpr at_.valid.few
    refine (at_.intact_iff host canUdpGro fresh).trans ⟨fun alone => .inr fun l other => ?_, ?_⟩
    · have same : l = j := other.unique at_
      exact same ▸ alone
    · rintro (many | alone)
      · exact absurd many few
      · exact alone j at_

def datagramsThenShort : List ExpandBuffer :=
  (batchOf 200 twoDatagrams).bufs ++ [⟨[], 0, le_rfl⟩]

/-- The error that a call returned, with the bytes that it left behind. -/
def rejection (run : Run (GroState × Result Unit)) : Option (List (List UInt8) × IoError) :=
  match run with
  | .ok (s, .error error) => some (s.bufs.map ExpandBuffer.bytes, error)
  | _ => none

theorem rejection_eq_some {run : Run (GroState × Result Unit)} {bytes : List (List UInt8)}
    {error : IoError} (found : rejection run = some (bytes, error)) :
    ∃ s', run = .ok (s', .error error) ∧ s'.bufs.map ExpandBuffer.bytes = bytes := by
  unfold rejection at found
  split at found
  · obtain ⟨rfl, rfl⟩ := Prod.mk.inj (Option.some.inj found)
    exact ⟨_, rfl, rfl⟩
  · cases found

theorem rejected_intact_iff_short : ∃ s' error,
    GROTable.new.applyGro plainHost datagramsThenShort 10 true = .ok (s', .error error) ∧
      (s'.bufs.map ExpandBuffer.bytes = datagramsThenShort.map ExpandBuffer.bytes ↔
        datagramsThenShort.length > 65535 ∨ ∀ j, RejectedAt datagramsThenShort 10 j → ∀ k < j,
          LeavesAlone 10 true k
            (groStateAt plainHost 10 true k (GROTable.new.reset.batch datagramsThenShort))) := by
  have ran : (rejection (GROTable.new.applyGro plainHost datagramsThenShort 10 true)).isSome :=
    by decide +kernel
  obtain ⟨⟨bytes, error⟩, found⟩ := Option.isSome_iff_exists.mp ran
  obtain ⟨s', ran, -⟩ := rejection_eq_some found
  exact ⟨s', error, ran, rejected_intact_iff .start ran⟩

/-- The first datagram has taken the second when the last buffer is reached. -/
theorem rejected_changed : ∃ s' error,
    GROTable.new.applyGro plainHost datagramsThenShort 10 true = .ok (s', .error error) ∧
      s'.bufs.map ExpandBuffer.bytes ≠ datagramsThenShort.map ExpandBuffer.bytes := by
  have ran : (rejection (GROTable.new.applyGro plainHost datagramsThenShort 10 true)).any
      (fun found => decide (found.1 ≠ datagramsThenShort.map ExpandBuffer.bytes)) = true := by
    decide +kernel
  obtain ⟨⟨bytes, error⟩, found, changed⟩ := Option.any_eq_true _ _ |>.mp ran
  obtain ⟨s', ran, rfl⟩ := rejection_eq_some found
  exact ⟨s', error, ran, of_decide_eq_true changed⟩

end QuincyTun.Linux
