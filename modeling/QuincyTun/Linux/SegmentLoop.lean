import QuincyTun.Linux.Segment

/-! The segmentation loop over all segments of a packet.

Segment `i` starts at the multiple `i` of the segment size. The loop ends in
success exactly when every segment fits into the output buffer of its index.
-/

set_option autoImplicit false

namespace QuincyTun.Linux

open QuincyTun.Foundation

def GsoPlan.dataAt (plan : GsoPlan) (i : Nat) : Nat := plan.hdrLen + i * plan.gsoSize

def GsoPlan.segmentLen (plan : GsoPlan) (inputLen i : Nat) : Nat :=
  plan.hdrLen + min plan.gsoSize (inputLen - plan.dataAt i)

def GsoPlan.Fits (plan : GsoPlan) (inputLen : Nat) (outBufs : List (List UInt8)) (i : Nat) : Prop :=
  ∃ buf, outBufs[i]? = some buf ∧ plan.outOffset + plan.segmentLen inputLen i ≤ buf.length

def GsoPlan.ChecksumFits (plan : GsoPlan) (outBufs : List (List UInt8)) (i : Nat) : Prop :=
  ∀ buf, outBufs[i]? = some buf → plan.outOffset + plan.transportCsumAt + 2 ≤ buf.length

theorem GsoPlan.dataAt_succ (plan : GsoPlan) (i : Nat) :
    plan.dataAt (i + 1) = plan.dataAt i + plan.gsoSize := by
  simp only [GsoPlan.dataAt, Nat.succ_mul]
  omega

theorem GsoPlan.hdrLen_le_dataAt (plan : GsoPlan) (i : Nat) : plan.hdrLen ≤ plan.dataAt i :=
  Nat.le_add_right ..

section Loop

variable {plan : GsoPlan} {i n : Nat} {s s' : GsoState} {buf : List UInt8}

def segmentBuf (plan : GsoPlan) (input buf : List UInt8) (i : Nat) : List UInt8 :=
  buf.take plan.outOffset ++ segmentOut plan input (buf.drop plan.outOffset) i (plan.dataAt i)

@[simp] theorem length_segmentBuf (plan : GsoPlan) (input buf : List UInt8) (i : Nat) :
    (segmentBuf plan input buf i).length = buf.length := by
  simp only [segmentBuf, List.length_append, List.length_take, length_segmentOut, List.length_drop]
  omega

def segmentStep (plan : GsoPlan) (i : Nat) (s : GsoState) : GsoState :=
  { s with
    outBufs := s.outBufs.modify i fun buf => segmentBuf plan s.input buf i
    sizes := s.sizes.set i (plan.segmentLen s.input.length i) }

/-- What the loop relies on, whichever segment it is at. -/
structure LoopReady (plan : GsoPlan) (s : GsoState) : Prop where
  checked : plan.Checked s.input.length
  sizes : s.outBufs.length ≤ s.sizes.length
  few : s.outBufs.length ≤ 65535

theorem LoopReady.step (ready : LoopReady plan s) (i : Nat) : LoopReady plan (segmentStep plan i s) where
  checked := ready.checked
  sizes := by
    simp only [segmentStep, List.length_modify, List.length_set]
    exact ready.sizes
  few := by
    simp only [segmentStep, List.length_modify]
    exact ready.few

theorem segmentLoop_done (positive : 0 < plan.gsoSize) (past : s.input.length ≤ plan.dataAt i) :
    segmentLoop plan positive i (plan.dataAt i) s = .ok (s, .ok i) := by
  rw [segmentLoop, if_neg (by omega)]
  rfl

theorem segmentLoop_iteration (ready : LoopReady plan s) (positive : 0 < plan.gsoSize)
    (inside : plan.dataAt i < s.input.length) (found : s.outBufs[i]? = some buf)
    (fits : plan.outOffset + plan.segmentLen s.input.length i ≤ buf.length) :
    segmentLoop plan positive i (plan.dataAt i) s =
      if plan.outOffset + plan.transportCsumAt + 2 ≤ buf.length then
        segmentLoop plan positive (i + 1) (plan.dataAt (i + 1)) (segmentStep plan i s)
      else .error .outOfRange := by
  obtain ⟨bound, same⟩ := List.getElem?_eq_some_iff.mp found
  have few := ready.few
  have sizesLen := ready.sizes
  have gsoSmall : plan.gsoSize < 65536 := plan.hdr.gsoSize.toNat_lt
  -- The product in the sequence number fits its `u32`: there are at most 65535 outputs.
  have product : plan.gsoSize * i < 2 ^ 32 := by
    calc plan.gsoSize * i ≤ 65535 * 65535 := Nat.mul_le_mul (by omega) (by omega)
      _ < 2 ^ 32 := by decide
  have total : (segmentSizes plan s.input.length (plan.dataAt i)).totalLen =
      plan.segmentLen s.input.length i := by
    rw [segmentSizes_eq plan inside.le]
    rfl
  have room : (buf.drop plan.outOffset).length = buf.length - plan.outOffset := List.length_drop
  have written := writeSegment_eq ready.checked (plan.hdrLen_le_dataAt i) inside product
    (by omega : (segmentSizes plan s.input.length (plan.dataAt i)).totalLen ≤
      (buf.drop plan.outOffset).length)
  rw [segmentLoop, if_pos inside, if_neg (by omega)]
  simp only []
  rw [setIndex_ok (by omega), Run.ok_bind, index_ok found, Run.ok_bind, if_neg (by omega), written,
    room, plan.dataAt_succ]
  by_cases csum : plan.outOffset + plan.transportCsumAt + 2 ≤ buf.length
  · rw [if_pos csum, if_pos (by omega), Run.ok_bind, total, segmentStep]
    congr 2
    rw [List.modify_eq_set_getElem?, found]
    rfl
  · rw [if_neg csum, if_neg (by omega), Run.error_bind]

theorem segmentLoop_stops (ready : LoopReady plan s) (positive : 0 < plan.gsoSize)
    (inside : plan.dataAt i < s.input.length) (order : i ≤ s.outBufs.length)
    (stuck : ¬ plan.Fits s.input.length s.outBufs i) :
    ∃ s' error, segmentLoop plan positive i (plan.dataAt i) s = .ok (s', .error error) := by
  have total : (segmentSizes plan s.input.length (plan.dataAt i)).totalLen =
      plan.segmentLen s.input.length i := by
    rw [segmentSizes_eq plan inside.le]
    rfl
  have sizesLen := ready.sizes
  rw [segmentLoop, if_pos inside]
  by_cases last : i = s.outBufs.length
  · rw [if_pos last]
    exact ⟨_, _, rfl⟩
  · have found : s.outBufs[i]? = some s.outBufs[i] := List.getElem?_eq_getElem (by omega)
    have small : ¬ plan.outOffset + plan.segmentLen s.input.length i ≤ s.outBufs[i].length :=
      fun enough => stuck ⟨_, found, enough⟩
    rw [if_neg last]
    simp only []
    rw [setIndex_ok (by omega), Run.ok_bind, index_ok found, Run.ok_bind, if_pos (by omega)]
    exact ⟨_, _, rfl⟩

/-- The loop has written the segments from `i` up to `n`, and nothing else. -/
structure SegmentsWritten (plan : GsoPlan) (i n : Nat) (s s' : GsoState) : Prop where
  order : i ≤ n
  inside : ∀ j, i ≤ j → j < n → plan.dataAt j < s.input.length
  past : s.input.length ≤ plan.dataAt n
  fits : ∀ j, i ≤ j → j < n → plan.Fits s.input.length s.outBufs j
  checksums : ∀ j, i ≤ j → j < n → plan.ChecksumFits s.outBufs j
  outBufs : ∀ j, s'.outBufs[j]? = s.outBufs[j]?.map fun buf =>
    if i ≤ j ∧ j < n then segmentBuf plan s.input buf j else buf
  sizes : ∀ j, s'.sizes[j]? = s.sizes[j]?.map fun size =>
    if i ≤ j ∧ j < n then plan.segmentLen s.input.length j else size

theorem SegmentsWritten.lt (written : SegmentsWritten plan i n s s') {j : Nat}
    (inside : plan.dataAt j < s.input.length) : j < n := by
  by_contra late
  have past := written.past
  have later := Nat.mul_le_mul_right plan.gsoSize (Nat.le_of_not_lt late)
  rw [GsoPlan.dataAt] at past inside
  omega

/-- How the loop ends when it starts at segment `i`. -/
inductive LoopOutcome (plan : GsoPlan) (i : Nat) (s : GsoState) :
    Run (GsoState × Result Nat) → Prop
  | done {s' : GsoState} {n : Nat} (written : SegmentsWritten plan i n s s') :
      LoopOutcome plan i s (.ok (s', .ok n))
  | stopped {s' : GsoState} {error : IoError} {j : Nat} (here : i ≤ j)
      (inside : plan.dataAt j < s.input.length) (stuck : ¬ plan.Fits s.input.length s.outBufs j)
      (checksums : ∀ k, i ≤ k → k < j → plan.ChecksumFits s.outBufs k) :
      LoopOutcome plan i s (.ok (s', .error error))
  | crashed {j : Nat} (here : i ≤ j) (inside : plan.dataAt j < s.input.length)
      (fits : ∀ k, i ≤ k → k ≤ j → plan.Fits s.input.length s.outBufs k)
      (beyond : ¬ plan.ChecksumFits s.outBufs j) :
      LoopOutcome plan i s (.error .outOfRange)

@[simp] theorem segmentStep_input (plan : GsoPlan) (i : Nat) (s : GsoState) :
    (segmentStep plan i s).input = s.input := rfl

theorem segmentStep_outBufs (plan : GsoPlan) (i j : Nat) (s : GsoState) :
    (segmentStep plan i s).outBufs[j]? = s.outBufs[j]?.map fun buf =>
      if i = j then segmentBuf plan s.input buf j else buf := by
  rw [segmentStep, List.getElem?_modify]
  by_cases same : i = j
  · subst same
    simp
  · simp [same]

theorem segmentStep_sizes (plan : GsoPlan) (i j : Nat) (s : GsoState) :
    (segmentStep plan i s).sizes[j]? = s.sizes[j]?.map fun size =>
      if i = j then plan.segmentLen s.input.length j else size := by
  rw [segmentStep, List.getElem?_set]
  by_cases same : i = j
  · subst same
    by_cases inside : i < s.sizes.length
    · simp [inside]
    · simp [inside]
  · simp [same]

theorem length_segmentStep_outBufs (plan : GsoPlan) (i j : Nat) (s : GsoState) :
    (segmentStep plan i s).outBufs[j]?.map List.length = s.outBufs[j]?.map List.length := by
  rw [segmentStep_outBufs, Option.map_map]
  congr 1
  funext buf
  simp only [Function.comp_apply]
  split
  · exact length_segmentBuf ..
  · rfl

theorem GsoPlan.fits_iff (plan : GsoPlan) (inputLen : Nat) (outBufs : List (List UInt8)) (i : Nat) :
    plan.Fits inputLen outBufs i ↔
      ∃ size, outBufs[i]?.map List.length = some size ∧
        plan.outOffset + plan.segmentLen inputLen i ≤ size := by
  constructor
  · rintro ⟨buf, found, enough⟩
    exact ⟨buf.length, by rw [found]; rfl, enough⟩
  · rintro ⟨size, found, enough⟩
    obtain ⟨buf, here, rfl⟩ := Option.map_eq_some_iff.mp found
    exact ⟨buf, here, enough⟩

theorem GsoPlan.checksumFits_iff (plan : GsoPlan) (outBufs : List (List UInt8)) (i : Nat) :
    plan.ChecksumFits outBufs i ↔ ∀ size, outBufs[i]?.map List.length = some size →
      plan.outOffset + plan.transportCsumAt + 2 ≤ size := by
  constructor
  · rintro fits size found
    obtain ⟨buf, here, rfl⟩ := Option.map_eq_some_iff.mp found
    exact fits buf here
  · rintro fits buf found
    exact fits buf.length (by rw [found]; rfl)

theorem fits_segmentStep (plan : GsoPlan) (inputLen i j : Nat) (s : GsoState) :
    plan.Fits inputLen (segmentStep plan i s).outBufs j ↔ plan.Fits inputLen s.outBufs j := by
  rw [GsoPlan.fits_iff, GsoPlan.fits_iff, length_segmentStep_outBufs]

theorem checksumFits_segmentStep (plan : GsoPlan) (i j : Nat) (s : GsoState) :
    plan.ChecksumFits (segmentStep plan i s).outBufs j ↔ plan.ChecksumFits s.outBufs j := by
  rw [GsoPlan.checksumFits_iff, GsoPlan.checksumFits_iff, length_segmentStep_outBufs]

theorem SegmentsWritten.step (inside : plan.dataAt i < s.input.length)
    (fits : plan.Fits s.input.length s.outBufs i) (checksum : plan.ChecksumFits s.outBufs i)
    (written : SegmentsWritten plan (i + 1) n (segmentStep plan i s) s') :
    SegmentsWritten plan i n s s' := by
  have order := written.order
  constructor
  case order => omega
  case inside =>
    intro j lower upper
    rcases Nat.eq_or_lt_of_le lower with rfl | later
    · exact inside
    · exact written.inside j later upper
  case past => exact written.past
  case fits =>
    intro j lower upper
    rcases Nat.eq_or_lt_of_le lower with rfl | later
    · exact fits
    · exact (fits_segmentStep ..).mp (written.fits j later upper)
  case checksums =>
    intro j lower upper
    rcases Nat.eq_or_lt_of_le lower with rfl | later
    · exact checksum
    · exact (checksumFits_segmentStep ..).mp (written.checksums j later upper)
  -- Output `i` is written by this iteration and by no later one.
  case outBufs =>
    intro j
    rw [written.outBufs j, segmentStep_outBufs, Option.map_map]
    congr 1
    funext buf
    simp only [Function.comp_apply, segmentStep_input]
    by_cases here : i = j
    · rw [if_neg (by omega), if_pos here, if_pos (by omega)]
    · rw [if_neg here]
      exact if_congr (by omega) rfl rfl
  case sizes =>
    intro j
    rw [written.sizes j, segmentStep_sizes, Option.map_map]
    congr 1
    funext size
    simp only [Function.comp_apply, segmentStep_input]
    by_cases here : i = j
    · rw [if_neg (by omega), if_pos here, if_pos (by omega)]
    · rw [if_neg here]
      exact if_congr (by omega) rfl rfl

theorem LoopOutcome.step {run : Run (GsoState × Result Nat)}
    (inside : plan.dataAt i < s.input.length) (fits : plan.Fits s.input.length s.outBufs i)
    (checksum : plan.ChecksumFits s.outBufs i)
    (outcome : LoopOutcome plan (i + 1) (segmentStep plan i s) run) : LoopOutcome plan i s run := by
  cases outcome with
  | done written => exact .done (written.step inside fits checksum)
  | stopped here insideLater stuck checksums =>
    refine .stopped (by omega) insideLater ((fits_segmentStep ..).not.mp stuck) fun k lower upper => ?_
    rcases Nat.eq_or_lt_of_le lower with rfl | later
    · exact checksum
    · exact (checksumFits_segmentStep ..).mp (checksums k later upper)
  | crashed here insideLater fitsLater beyond =>
    refine .crashed (by omega) insideLater (fun k lower upper => ?_)
      ((checksumFits_segmentStep ..).not.mp beyond)
    rcases Nat.eq_or_lt_of_le lower with rfl | later
    · exact fits
    · exact (fits_segmentStep ..).mp (fitsLater k later upper)

/-- The loop from segment `i` on; each iteration leaves less input. -/
theorem segmentLoop_outcome (ready : LoopReady plan s) (positive : 0 < plan.gsoSize)
    (order : i ≤ s.outBufs.length) :
    LoopOutcome plan i s (segmentLoop plan positive i (plan.dataAt i) s) := by
  -- What is left of the input gets shorter with each iteration.
  induction left : s.input.length - plan.dataAt i using Nat.strong_induction_on
    generalizing i s with
  | _ left ih =>
    by_cases inside : plan.dataAt i < s.input.length
    · by_cases fits : plan.Fits s.input.length s.outBufs i
      · obtain ⟨buf, found, enough⟩ := fits
        have small := (List.getElem?_eq_some_iff.mp found).1
        have next := plan.dataAt_succ i
        rw [segmentLoop_iteration ready positive inside found enough]
        by_cases checksum : plan.outOffset + plan.transportCsumAt + 2 ≤ buf.length
        · rw [if_pos checksum]
          refine .step inside ⟨buf, found, enough⟩ (fun other here => ?_)
            (ih _ (by rw [segmentStep_input]; omega) (ready.step i)
              (by simp only [segmentStep, List.length_modify]; omega) rfl)
          rwa [← Option.some.inj (found.symm.trans here)]
        · rw [if_neg checksum]
          refine .crashed le_rfl inside (fun k lower upper => ?_) fun fits => checksum (fits buf found)
          rw [Nat.le_antisymm upper lower]
          exact ⟨buf, found, enough⟩
      · obtain ⟨s', error, ran⟩ := segmentLoop_stops ready positive inside order fits
        rw [ran]
        exact .stopped le_rfl inside fits fun k lower upper => by omega
    · rw [segmentLoop_done positive (by omega)]
      exact .done {
        order := le_rfl
        inside := fun j lower upper => by omega
        past := by omega
        fits := fun j lower upper => by omega
        checksums := fun j lower upper => by omega
        outBufs := fun j => by simp [show ¬ (i ≤ j ∧ j < i) by omega]
        sizes := fun j => by simp [show ¬ (i ≤ j ∧ j < i) by omega] }

theorem SegmentsWritten.count (written : SegmentsWritten plan 0 n s s')
    (positive : 0 < plan.gsoSize) :
    n = (s.input.length - plan.hdrLen + plan.gsoSize - 1) / plan.gsoSize := by
  have past := written.past
  rw [GsoPlan.dataAt] at past
  refine (Nat.div_eq_of_lt_le ?_ ?_).symm
  · cases n with
    | zero => omega
    | succ m =>
      have inside := written.inside m (Nat.zero_le _) (Nat.lt_succ_self m)
      rw [GsoPlan.dataAt] at inside
      rw [Nat.succ_mul]
      omega
  · rw [Nat.succ_mul]
    omega

def GsoState.packet (s : GsoState) (offset i : Nat) : List UInt8 :=
  ((s.outBufs.getD i []).drop offset).take (s.sizes.getD i 0)

theorem SegmentsWritten.length_packet (written : SegmentsWritten plan 0 n s s')
    (ready : LoopReady plan s) {j : Nat} (inside : j < n) :
    s'.sizes[j]? = some (plan.segmentLen s.input.length j) := by
  obtain ⟨buf, found, enough⟩ := written.fits j (Nat.zero_le _) inside
  have sizes := ready.sizes
  have small := (List.getElem?_eq_some_iff.mp found).1
  have here : j < s.sizes.length := by omega
  have size := written.sizes j
  rwa [List.getElem?_eq_getElem here, Option.map_some, if_pos ⟨Nat.zero_le _, inside⟩] at size

theorem SegmentsWritten.isSegment (written : SegmentsWritten plan 0 n s s')
    (standard : plan.Standard s.input) (ready : LoopReady plan s) {j : Nat} (inside : j < n) :
    IsSegment plan s.input j (plan.dataAt j) (s'.packet plan.outOffset j) := by
  obtain ⟨buf, found, enough⟩ := written.fits j (Nat.zero_le _) inside
  have out := written.outBufs j
  have size := written.length_packet ready inside
  rw [found, Option.map_some, if_pos ⟨Nat.zero_le _, inside⟩] at out
  have room : (buf.take plan.outOffset).length = plan.outOffset := by
    rw [List.length_take]
    omega
  rw [GsoState.packet, List.getD_eq_getElem?_getD, List.getD_eq_getElem?_getD, out, size,
    Option.getD_some, Option.getD_some, segmentBuf, List.drop_left' room]
  refine segmentOut_isSegment standard (plan.hdrLen_le_dataAt j)
    (written.inside j (Nat.zero_le _) inside) ?_
  rw [GsoPlan.segmentLen] at enough
  rw [List.length_drop]
  omega

end Loop

end QuincyTun.Linux
