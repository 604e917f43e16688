import QuincyTun.Linux.UdpRun

/-! Whole runs of the loop: from fresh tables, every iteration keeps the invariant
and makes the predicted move, and no iteration panics.
-/

set_option autoImplicit false

namespace QuincyTun.Linux

open QuincyTun.Foundation

def groSlots (input : List ExpandBuffer) (offset : Nat) (s : GroState) : List Slot :=
  s.tcpTable.liveItems.map (tcpSlot input offset) ++ s.udpTable.liveItems.map (udpSlot input offset)

structure GroInv (input : List ExpandBuffer) (offset : Nat) (canUdpGro : Bool) (n : Nat)
    (s : GroState) (groups : Grouping) : Prop where
  batch : BatchInv input offset n s.bufs groups (groSlots input offset s)
  toWrite : s.toWrite = groups.heads
  tcp : s.tcpTable.Tidy TcpKeyed
  udp : s.udpTable.Tidy UdpKeyed
  /-- Every eligible datagram that stands is in the table. -/
  tabled : canUdpGro = true → ∀ k ∈ groups.heads, ∀ isV6,
    UdpEligible isV6 (packetAt offset input k) → k ∈ udpIndices s.udpTable

/-- The state in which a batch starts. -/
structure FreshState (s : GroState) : Prop where
  tcp : s.tcpTable.Fresh
  udp : s.udpTable.Fresh
  toWrite : s.toWrite = []

theorem FreshState.inv {s : GroState} (fresh : FreshState s) (offset : Nat) (canUdpGro : Bool) :
    GroInv s.bufs offset canUdpGro 0 s Grouping.empty where
  batch := by
    rw [groSlots, fresh.tcp.liveItems, fresh.udp.liveItems]
    exact BatchInv.start s.bufs offset
  toWrite := fresh.toWrite
  tcp := fresh.tcp.tidy
  udp := fresh.udp.tidy
  tabled := by simp [Grouping.empty]

theorem encodeAt_ok {host : Host} {hdr : VirtioNetHdr} {buf : ExpandBuffer} {start stop : Nat}
    (room : start + virtioNetHdrLen ≤ stop) (fits : stop ≤ buf.bytes.length) :
    encodeAt host hdr buf start stop = .ok (.ok (buf.overwritten start (hdr.layout host.bigEndian))) := by
  have size := length_window buf.bytes start (stop - start) (by omega)
  have header := VirtioNetHdr.length_layout host.bigEndian hdr
  unfold encodeAt
  rw [slice_ok (by omega) fits, Run.ok_bind, VirtioNetHdr.encode, if_neg (by omega)]
  simp only []
  rw [ExpandBuffer.write_ok (by rw [length_overwrite, size]; omega), Run.ok_bind, Run.pure_eq_ok]
  congr 2
  ext1
  · exact overwrite_window _ _ _ (by omega) (by omega)
  · rfl

theorem encodeAt_default {host : Host} {buf : ExpandBuffer} {offset stop : Nat}
    (room : virtioNetHdrLen ≤ offset) (stops : offset ≤ stop) (fits : stop ≤ buf.bytes.length) :
    encodeAt host VirtioNetHdr.default buf (offset - virtioNetHdrLen) stop =
      .ok (.ok (cleared offset buf)) := by
  rw [encodeAt_ok (by omega) fits, VirtioNetHdr.layout_default]
  rfl

/-! ## By kind of packet -/

section Kind

variable {offset n : Nat} {canUdpGro isV6 : Bool} {s : GroState} {candidate : GroCandidateType}

theorem GroCandidateType.notGRO_of_kind (kind : candidate.kind = none) : candidate = .notGRO := by
  cases candidate with
  | notGRO => rfl
  | tcp4GRO | tcp6GRO | udp4GRO | udp6GRO => cases kind

theorem groMove_udp
    (kind : (packetIsGroCandidate (packetAt offset s.bufs n) canUdpGro).kind =
      some (isV6, ipProtoUdp)) :
    groMove offset canUdpGro n s =
      udpMove offset s.bufs (packetAt offset s.bufs n) s.udpTable isV6 := by
  have tcpIsNotUdp : ipProtoTcp ≠ ipProtoUdp := by decide
  cases found : packetIsGroCandidate (packetAt offset s.bufs n) canUdpGro with
  | notGRO =>
    rw [found] at kind
    cases kind
  | tcp4GRO | tcp6GRO =>
    rw [found] at kind
    exact absurd (congrArg Prod.snd (Option.some.inj kind)) tcpIsNotUdp
  | udp4GRO | udp6GRO =>
    rw [found] at kind
    obtain rfl := congrArg Prod.fst (Option.some.inj kind)
    simp only [groMove, found]

theorem groMove_tcp
    (kind : (packetIsGroCandidate (packetAt offset s.bufs n) canUdpGro).kind =
      some (isV6, ipProtoTcp)) :
    groMove offset canUdpGro n s =
      tcpMove offset s.bufs (packetAt offset s.bufs n) n s.tcpTable isV6 := by
  have tcpIsNotUdp : ipProtoUdp ≠ ipProtoTcp := by decide
  cases found : packetIsGroCandidate (packetAt offset s.bufs n) canUdpGro with
  | notGRO =>
    rw [found] at kind
    cases kind
  | udp4GRO | udp6GRO =>
    rw [found] at kind
    exact absurd (congrArg Prod.snd (Option.some.inj kind)) tcpIsNotUdp
  | tcp4GRO | tcp6GRO =>
    rw [found] at kind
    obtain rfl := congrArg Prod.fst (Option.some.inj kind)
    simp only [groMove, found]

theorem groDispatch_tcp (kind : candidate.kind = some (isV6, ipProtoTcp)) :
    groDispatch offset n s candidate = (do
      let (result, bufs, tcpTable) ← tcpGro s.bufs offset n s.tcpTable isV6
      pure (result, { s with bufs, tcpTable })) := by
  have tcpIsNotUdp : ipProtoUdp ≠ ipProtoTcp := by decide
  cases candidate with
  | notGRO => cases kind
  | udp4GRO | udp6GRO => exact absurd (congrArg Prod.snd (Option.some.inj kind)) tcpIsNotUdp
  | tcp4GRO | tcp6GRO =>
    obtain rfl := congrArg Prod.fst (Option.some.inj kind)
    rfl

theorem groDispatch_udp (kind : candidate.kind = some (isV6, ipProtoUdp)) :
    groDispatch offset n s candidate = (do
      let (result, bufs, udpTable) ← udpGro s.bufs offset n s.udpTable isV6
      pure (result, { s with bufs, udpTable })) := by
  have tcpIsNotUdp : ipProtoTcp ≠ ipProtoUdp := by decide
  cases candidate with
  | notGRO => cases kind
  | tcp4GRO | tcp6GRO => exact absurd (congrArg Prod.snd (Option.some.inj kind)) tcpIsNotUdp
  | udp4GRO | udp6GRO =>
    obtain rfl := congrArg Prod.fst (Option.some.inj kind)
    rfl

end Kind

section Step

variable {input : List ExpandBuffer} {offset n : Nat} {canUdpGro : Bool} {s : GroState}
  {groups : Grouping} {own : ExpandBuffer}

/-- What a dispatched packet leaves behind. -/
structure DispatchPost (input : List ExpandBuffer) (offset : Nat) (canUdpGro : Bool) (n : Nat)
    (s : GroState) (groups : Grouping) (pkt : List UInt8) (result : GroResult) (s' : GroState) :
    Prop where
  toWrite : s'.toWrite = s.toWrite
  tcp : s'.tcpTable.Tidy TcpKeyed
  udp : s'.udpTable.Tidy UdpKeyed
  step : StepPost input offset n groups (groMove offset canUdpGro n s) (groSlots input offset s')
    s'.bufs result
  tabled : UdpTabled n (canUdpGro = true ∧ ∃ isV6, UdpEligible isV6 pkt) s.udpTable s'.udpTable
    result

theorem tcpDispatch_spec {isV6 : Bool} (valid : ValidBatch input offset (n + 1))
    (foundOwn : input[n]? = some own) (inv : GroInv input offset canUdpGro n s groups)
    (kind : (packetIsGroCandidate (own.bytes.drop offset) canUdpGro).kind =
      some (isV6, ipProtoTcp)) :
    ∃ result bufs' table', tcpGro s.bufs offset n s.tcpTable isV6 = .ok (result, bufs', table') ∧
      DispatchPost input offset canUdpGro n s groups (own.bytes.drop offset) result
        { s with bufs := bufs', tcpTable := table' } := by
  have candidate := ((packetIsGroCandidate_kind _ _ _ _).mp kind).1
  have samePkt : packetAt offset s.bufs n = own.bytes.drop offset :=
    packetAt_of_getElem? ((inv.batch.pending n le_rfl).trans foundOwn)
  have move := groMove_tcp (samePkt ▸ kind)
  rw [samePkt] at move
  obtain ⟨result, bufs', table', ran, tidy, step⟩ :=
    tcpGro_spec valid foundOwn candidate inv.tcp inv.batch
  refine ⟨result, bufs', table', ran, rfl, tidy, inv.udp, move ▸ step, fun _ => id, ?_⟩
  rintro - ⟨can, other, eligible⟩
  have udp := (packetIsGroCandidate_kind _ canUdpGro other _).mpr
    ⟨eligible.candidate, .inr ⟨rfl, can⟩⟩
  rw [kind] at udp
  have same : ipProtoTcp = ipProtoUdp := congrArg Prod.snd (Option.some.inj udp)
  exact absurd same (by decide)

theorem udpDispatch_spec {isV6 : Bool} (valid : ValidBatch input offset (n + 1))
    (foundOwn : input[n]? = some own) (inv : GroInv input offset canUdpGro n s groups)
    (kind : (packetIsGroCandidate (own.bytes.drop offset) canUdpGro).kind =
      some (isV6, ipProtoUdp)) :
    ∃ result bufs' table', udpGro s.bufs offset n s.udpTable isV6 = .ok (result, bufs', table') ∧
      DispatchPost input offset canUdpGro n s groups (own.bytes.drop offset) result
        { s with bufs := bufs', udpTable := table' } := by
  have candidate := ((packetIsGroCandidate_kind _ _ _ _).mp kind).1
  have samePkt : packetAt offset s.bufs n = own.bytes.drop offset :=
    packetAt_of_getElem? ((inv.batch.pending n le_rfl).trans foundOwn)
  have move := groMove_udp (samePkt ▸ kind)
  rw [samePkt] at move
  have swapped := inv.batch.perm List.perm_append_comm
  obtain ⟨result, bufs', table', ran, tidy, step, tabled⟩ :=
    udpGro_spec valid foundOwn candidate inv.udp swapped
  refine ⟨result, bufs', table', ran, rfl, inv.tcp, tidy, ?_, tabled.kept, ?_⟩
  · rw [move]
    cases result with
    | noop => exact ⟨step.1, step.2.perm List.perm_append_comm⟩
    | tableInsert => exact ⟨step.1, step.2.perm List.perm_append_comm⟩
    | coalesced => exact ⟨step.1, step.2.perm List.perm_append_comm⟩
  · rintro notJoined ⟨can, other, eligible⟩
    have udp := (packetIsGroCandidate_kind _ canUdpGro other _).mpr
      ⟨eligible.candidate, .inr ⟨rfl, can⟩⟩
    rw [kind] at udp
    have same : isV6 = other := congrArg Prod.fst (Option.some.inj udp)
    exact tabled.added notJoined (same ▸ eligible)

theorem groDispatch_spec (valid : ValidBatch input offset (n + 1)) (foundOwn : input[n]? = some own)
    (inv : GroInv input offset canUdpGro n s groups) :
    ∃ result s', groDispatch offset n s (packetIsGroCandidate (own.bytes.drop offset) canUdpGro) =
        .ok (result, s') ∧
      DispatchPost input offset canUdpGro n s groups (own.bytes.drop offset) result s' := by
  cases kind : (packetIsGroCandidate (own.bytes.drop offset) canUdpGro).kind with
  | none =>
    have notGRO := GroCandidateType.notGRO_of_kind kind
    have samePkt : packetAt offset s.bufs n = own.bytes.drop offset :=
      packetAt_of_getElem? ((inv.batch.pending n le_rfl).trans foundOwn)
    rw [notGRO]
    refine ⟨.noop, s, rfl, rfl, inv.tcp, inv.udp, ⟨?_, inv.batch⟩, fun _ => id, ?_⟩
    · simp only [groMove, samePkt, notGRO]
    · rintro - ⟨can, other, eligible⟩
      have udp := (packetIsGroCandidate_kind _ canUdpGro other _).mpr
        ⟨eligible.candidate, .inr ⟨rfl, can⟩⟩
      rw [kind] at udp
      cases udp
  | some shape =>
    obtain ⟨isV6, protocol⟩ := shape
    rcases ((packetIsGroCandidate_kind ..).mp kind).2 with rfl | ⟨rfl, -⟩
    · obtain ⟨result, bufs', table', ran, post⟩ := tcpDispatch_spec valid foundOwn inv kind
      refine ⟨result, _, ?_, post⟩
      rw [groDispatch_tcp kind, ran, Run.ok_bind]
      rfl
    · obtain ⟨result, bufs', table', ran, post⟩ := udpDispatch_spec valid foundOwn inv kind
      refine ⟨result, _, ?_, post⟩
      rw [groDispatch_udp kind, ran, Run.ok_bind]
      rfl

/-- One iteration keeps the invariant and makes the predicted move. -/
theorem groStep_spec (host : Host) (valid : ValidBatch input offset (n + 1))
    (foundOwn : input[n]? = some own) (inv : GroInv input offset canUdpGro n s groups) :
    ∃ s', groStep host offset canUdpGro n s = .ok (s', .ok ()) ∧
      GroInv input offset canUdpGro (n + 1) s'
        (groups.step n (groMove offset canUdpGro n s)) := by
  have here : s.bufs[n]? = some own := (inv.batch.pending n le_rfl).trans foundOwn
  obtain ⟨room, long⟩ := valid.room n own n.lt_succ_self foundOwn
  obtain ⟨result, s', ran, post⟩ := groDispatch_spec valid foundOwn inv
  have tabled : ∀ (move : Move), (move = .stand → result ≠ .coalesced) →
      canUdpGro = true → ∀ k ∈ (groups.step n move).heads, ∀ isV6,
        UdpEligible isV6 (packetAt offset input k) → k ∈ udpIndices s'.udpTable := by
    intro move stands can k member isV6 eligible
    cases move with
    | stand =>
      rcases List.mem_append.mp member with old | new
      · exact post.tabled.kept k (inv.tabled can k old isV6 eligible)
      · rw [List.mem_singleton.mp new] at eligible ⊢
        rw [packetAt_of_getElem? foundOwn] at eligible
        exact post.tabled.added (stands rfl) ⟨can, isV6, eligible⟩
    | append head => exact post.tabled.kept k (inv.tabled can k member isV6 eligible)
    | prepend head => exact post.tabled.kept k (inv.tabled can k member isV6 eligible)
  unfold groStep
  rw [index_ok here, Run.ok_bind, if_neg (by omega), sliceFrom_ok long.le, Run.ok_bind, ran,
    Run.ok_bind]
  cases result with
  | noop =>
    -- A packet that no table wants is done with here: its header says that there is no offload.
    obtain ⟨stand, batch⟩ := post.step
    have here' : s'.bufs[n]? = some own := (batch.pending n le_rfl).trans foundOwn
    simp only []
    rw [index_ok here', Run.ok_bind, subLen_ok room, Run.ok_bind,
      encodeAt_default room le_rfl long.le, Run.ok_bind]
    refine ⟨_, rfl, ?_, ?_, post.tcp, post.udp, ?_⟩
    · rw [stand]
      exact batch.pass foundOwn
    · rw [stand, post.toWrite, inv.toWrite]
      rfl
    · exact tabled _ fun _ => by decide
  | tableInsert =>
    obtain ⟨stand, batch⟩ := post.step
    refine ⟨_, rfl, ?_, ?_, post.tcp, post.udp, ?_⟩
    · rw [stand]
      exact batch
    · rw [stand, post.toWrite, inv.toWrite]
      rfl
    · exact tabled _ fun _ => by decide
  | coalesced =>
    obtain ⟨joins, batch⟩ := post.step
    refine ⟨_, rfl, batch, ?_, post.tcp, post.udp, tabled _ fun stand => absurd stand joins⟩
    rw [post.toWrite, inv.toWrite]
    cases move : groMove offset canUdpGro n s with
    | stand => exact absurd move joins
    | append head => rfl
    | prepend head => rfl

end Step

/-! ## Runs -/

section Run

variable {host : Host} {offset : Nat} {canUdpGro : Bool} {s : GroState}

theorem ValidBatch.mono {input : List ExpandBuffer} {m n : Nat} (valid : ValidBatch input offset n)
    (fewer : m ≤ n) : ValidBatch input offset m :=
  ⟨valid.few, fun k buf small => valid.room k buf (by omega)⟩

/-- From fresh tables, `n` iterations succeed and group the first `n` packets as predicted. -/
theorem groLoop_spec (host : Host) (canUdpGro : Bool) (fresh : FreshState s) (n : Nat)
    (inside : n ≤ s.bufs.length) (valid : ValidBatch s.bufs offset n) :
    ∃ s', groLoop host offset canUdpGro n s = .ok (s', .ok ()) ∧
      GroInv s.bufs offset canUdpGro n s' (groGroups host offset canUdpGro s n) := by
  induction n with
  | zero => exact ⟨s, rfl, fresh.inv offset canUdpGro⟩
  | succ n ih =>
    obtain ⟨before, ranBefore, inv⟩ := ih (by omega) (valid.mono n.le_succ)
    have foundOwn : s.bufs[n]? = some s.bufs[n] := List.getElem?_eq_getElem (by omega)
    obtain ⟨after, ran, inv'⟩ := groStep_spec host valid foundOwn inv
    refine ⟨after, ?_, ?_⟩
    · rw [groLoop, ranBefore, Run.ok_bind]
      exact ran
    · rw [groGroups, groStateAt, ranBefore]
      exact inv'

theorem groStep_room {n : Nat} {s' : GroState}
    (ran : groStep host offset canUdpGro n s = .ok (s', .ok ())) :
    ∃ buf, s.bufs[n]? = some buf ∧ virtioNetHdrLen ≤ offset ∧ offset < buf.bytes.length := by
  obtain ⟨buf, here, step⟩ := Run.bind_eq_ok.mp ran
  refine ⟨buf, index_eq_ok.mp here, ?_⟩
  by_contra outside
  rw [if_pos (by omega)] at step
  cases step

theorem groLoop_valid (fresh : FreshState s) (few : s.bufs.length ≤ 65535) (n : Nat)
    {s' : GroState} (ran : groLoop host offset canUdpGro n s = .ok (s', .ok ())) :
    n ≤ s.bufs.length ∧ ValidBatch s.bufs offset n := by
  induction n generalizing s' with
  | zero => exact ⟨Nat.zero_le _, .zero few offset⟩
  | succ n ih =>
    rw [groLoop] at ran
    obtain ⟨⟨before, outcome⟩, ranBefore, ranStep⟩ := Run.bind_eq_ok.mp ran
    cases outcome with
    | error error => cases ranStep
    | ok _ =>
      obtain ⟨inside, valid⟩ := ih ranBefore
      obtain ⟨reached, ranAgain, inv⟩ := groLoop_spec host canUdpGro fresh n inside valid
      have same : before = reached := congrArg Prod.fst (Except.ok.inj (ranBefore.symm.trans ranAgain))
      obtain ⟨buf, here, room⟩ := groStep_room ranStep
      have own : s.bufs[n]? = some buf := by
        rw [← inv.batch.pending n le_rfl, ← same, here]
      have more : n < s.bufs.length := (List.getElem?_eq_some_iff.mp own).1
      exact ⟨more, valid.succ own room⟩

theorem groDispatch_udpTable {i : Nat} {pkt : List UInt8} {result : GroResult} {s' : GroState}
    (ran : groDispatch offset i s (packetIsGroCandidate pkt false) = .ok (result, s')) :
    s'.udpTable = s.udpTable := by
  have noUdp : ∀ isV6, (packetIsGroCandidate pkt false).kind ≠ some (isV6, ipProtoUdp) := by
    intro isV6 found
    have tcpIsNotUdp : ipProtoUdp ≠ ipProtoTcp := by decide
    obtain ⟨-, tcp | ⟨-, can⟩⟩ := (packetIsGroCandidate_kind ..).mp found
    · exact tcpIsNotUdp tcp
    · cases can
  cases candidate : packetIsGroCandidate pkt false with
  | notGRO =>
    rw [candidate] at ran
    rw [← (Prod.mk.inj (Except.ok.inj ran)).2]
  | tcp4GRO | tcp6GRO =>
    rw [candidate] at ran
    obtain ⟨_, -, rest⟩ := Run.bind_eq_ok.mp ran
    rw [← (Prod.mk.inj (Except.ok.inj rest)).2]
  | udp4GRO | udp6GRO =>
    rw [candidate] at noUdp
    exact absurd rfl (noUdp _)

theorem groLoop_udpTable {n : Nat} {s' : GroState}
    (ran : groLoop host offset false n s = .ok (s', .ok ())) : s'.udpTable = s.udpTable := by
  induction n generalizing s' with
  | zero => rw [← (Prod.mk.inj (Except.ok.inj ran)).1]
  | succ n ih =>
    obtain ⟨⟨before, outcome⟩, ranBefore, ranStep⟩ := Run.bind_eq_ok.mp ran
    cases outcome with
    | error error => cases ranStep
    | ok _ =>
      rw [← ih ranBefore]
      obtain ⟨buf, -, ranStep⟩ := Run.bind_eq_ok.mp ranStep
      split at ranStep
      · cases ranStep
      · obtain ⟨pkt, -, ranStep⟩ := Run.bind_eq_ok.mp ranStep
        obtain ⟨⟨result, after⟩, dispatched, ranStep⟩ := Run.bind_eq_ok.mp ranStep
        rw [← groDispatch_udpTable dispatched]
        cases result with
        | noop =>
          obtain ⟨own, -, ranStep⟩ := Run.bind_eq_ok.mp ranStep
          obtain ⟨start, -, ranStep⟩ := Run.bind_eq_ok.mp ranStep
          obtain ⟨encoded, -, ranStep⟩ := Run.bind_eq_ok.mp ranStep
          cases encoded with
          | error error => cases ranStep
          | ok buf => rw [← (Prod.mk.inj (Except.ok.inj ranStep)).1]
        | tableInsert => rw [← (Prod.mk.inj (Except.ok.inj ranStep)).1]
        | coalesced => rw [← (Prod.mk.inj (Except.ok.inj ranStep)).1]

end Run

end QuincyTun.Linux
