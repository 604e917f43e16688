import Mathlib.Data.List.Flatten
import QuincyTun.Linux.Frames

/-! Two devices and the link between them: what one writes in batches, the other reads.

Batches and reads follow each other in any order. No packet is lost behind a
successful call, none is delivered twice, and no two are mixed up.
-/

set_option autoImplicit false

namespace QuincyTun.Linux

open QuincyTun.Foundation

variable {σ : Type}

/-- A kernel that hands the frames written to one device to the readers of another. -/
structure Link (σ : Type) where
  write : List UInt8 → OsCall σ Nat
  read : Nat → OsCall σ (List UInt8)
  inFlight : σ → List (List UInt8)

/-- Frames arrive in order, and whole if there is room for them. A call that fails moves none. -/
structure Link.Lawful (link : Link σ) : Prop where
  accepts : ∀ frame s n after, (link.write frame).on s = (.ok n, after) →
    link.inFlight after = link.inFlight s ++ [frame]
  refuses : ∀ frame s error after, (link.write frame).on s = (.error error, after) →
    link.inFlight after = link.inFlight s
  hands : ∀ size s bytes after, (link.read size).on s = (.ok bytes, after) →
    ∃ frame, link.inFlight s = frame :: link.inFlight after ∧ bytes = frame.take size
  waits : ∀ size s error after, (link.read size).on s = (.error error, after) →
    link.inFlight after = link.inFlight s

def Succeeded {α : Type} (outcome : Result α) : Prop := ∃ value, outcome = .ok value

theorem not_succeeded_error {α : Type} {error : IoError} :
    ¬ Succeeded (.error error : Result α) := by
  rintro ⟨value, same⟩
  cases same

/-! ## Writing a batch -/

section Write

variable {link : Link σ} {offset : Nat}

theorem writePackets_accepts (offset : Nat) (lawful : link.Lawful) (bufs : List ExpandBuffer)
    (total : Nat) (err : Result Unit) (s : σ) :
    ∃ outcome after frames,
      (writePackets link.write offset bufs total err).on s = (outcome, after) ∧
      link.inFlight after = link.inFlight s ++ frames ∧
      frames.Sublist (bufs.map fun buf => buf.bytes.drop offset) ∧
      (Succeeded outcome → err = .ok () ∧ frames = bufs.map fun buf => buf.bytes.drop offset) := by
  induction bufs generalizing total err s with
  | nil =>
    cases err with
    | ok _ => exact ⟨.ok total, s, [], rfl, (List.append_nil _).symm, .refl _, fun _ => ⟨rfl, rfl⟩⟩
    | error error =>
      exact ⟨.error error, s, [], rfl, (List.append_nil _).symm, .refl _,
        fun done => (not_succeeded_error done).elim⟩
  | cons buf rest ih =>
    rw [writePackets]
    split
    case isTrue behind =>
      exact ⟨_, s, [], rfl, (List.append_nil _).symm, List.nil_sublist _,
        fun done => (not_succeeded_error done).elim⟩
    case isFalse inside =>
      rw [OsCall.on_bind, OsCall.on_attempt]
      generalize called : (link.write (buf.bytes.drop offset)).on s = answered
      obtain ⟨answer, between⟩ := answered
      dsimp only
      cases answer with
      | ok n =>
        obtain ⟨outcome, after, frames, ran, flight, sub, all⟩ := ih (total + n) err between
        refine ⟨outcome, after, _ :: frames, ran, ?_, sub.cons_cons _, fun done => ?_⟩
        · rw [flight, lawful.accepts _ _ _ _ called, List.append_assoc]
          rfl
        · obtain ⟨fine, same⟩ := all done
          exact ⟨fine, by rw [same]; rfl⟩
      | error error =>
        have kept := lawful.refuses _ _ _ _ called
        dsimp only
        split
        case isTrue fatal =>
          exact ⟨_, between, [], rfl, by rw [kept, List.append_nil], List.nil_sublist _,
            fun done => (not_succeeded_error done).elim⟩
        case isFalse going =>
          obtain ⟨outcome, after, frames, ran, flight, sub, all⟩ := ih total (.error error) between
          refine ⟨outcome, after, frames, ran, kept ▸ flight, sub.cons _, fun done => ?_⟩
          cases (all done).1

end Write

/-- Packets that a batch may have: none is too long, and nothing that is joined gets too long. -/
structure Sendable (host : Host) (udpGso : Bool) (table : GROTable) (bufs : List ExpandBuffer)
    (offset : Nat) : Prop where
  short : ∀ buf ∈ bufs, (buf.bytes.drop offset).length ≤ 65535
  joined : JoinedFit host offset udpGso (table.reset.batch bufs)

/-- The packets of one call that got through, in the order in which they travel. -/
structure Travels (outcome : Result Nat) (packets order : List (List UInt8)) : Prop where
  atMostOnce : order.Subperm packets
  exactlyOnce : Succeeded outcome → order.Perm packets

section Send

variable {host : Host} {offset : Nat} {udpGso : Bool} {link : Link σ} {table : GROTable}
  {bufs : List ExpandBuffer} {s final s' : GroState}

theorem packetAt_range (offset : Nat) (bufs : List ExpandBuffer) :
    (List.range bufs.length).map (packetAt offset bufs) =
      bufs.map fun buf => buf.bytes.drop offset := by
  refine List.ext_getElem (by simp) fun i inside _ => ?_
  rw [List.length_map, List.length_range] at inside
  rw [List.getElem_map, List.getElem_map, List.getElem_range,
    packetAt_of_getElem? (List.getElem?_eq_getElem inside)]

theorem Returns.length_packetAt (ret : Returns host offset udpGso s final s') {k : Nat}
    (emitted : k ∈ s'.toWrite) :
    MergedAt final k ∧ (packetAt offset s'.bufs k).length = (packetAt offset final.bufs k).length ∨
      (packetAt offset s'.bufs k).length = (packetAt offset s.bufs k).length := by
  by_cases merged : MergedAt final k
  · refine .inl ⟨merged, ?_⟩
    rcases merged with ⟨item, live, rfl, positive⟩ | ⟨item, live, rfl, positive⟩
    · obtain ⟨buf, buf', found, is, framed⟩ :=
        ret.tcp_framed live (UInt16.pos_iff_ne_zero.mp positive)
      rw [packetAt_of_getElem? is, packetAt_of_getElem? found, List.length_drop, List.length_drop,
        framed.size]
    · obtain ⟨buf, buf', found, is, framed⟩ :=
        ret.udp_framed live (UInt16.pos_iff_ne_zero.mp positive)
      rw [packetAt_of_getElem? is, packetAt_of_getElem? found, List.length_drop, List.length_drop,
        framed.size]
  · rw [← ret.completed.mergedAt] at merged
    exact .inr (congrArg List.length (ret.conserved.stands k emitted merged).2)

theorem Returns.found (ret : Returns host offset udpGso s final s') {k : Nat}
    (emitted : k ∈ s'.toWrite) : ∃ buf, s'.bufs[k]? = some buf := by
  by_cases merged : MergedAt s' k
  · rcases merged with ⟨item, live, rfl, positive⟩ | ⟨item, live, rfl, positive⟩
    · rw [ret.completed.tcpTable] at live
      obtain ⟨-, buf, -, here, -⟩ := ret.tcp_framed live (UInt16.pos_iff_ne_zero.mp positive)
      exact ⟨buf, here⟩
    · rw [ret.completed.udpTable] at live
      obtain ⟨-, buf, -, here, -⟩ := ret.udp_framed live (UInt16.pos_iff_ne_zero.mp positive)
      exact ⟨buf, here⟩
  · obtain ⟨own, -, here⟩ := ret.alone emitted merged
    exact ⟨_, here⟩

theorem mapM_index_total {indices : List Nat}
    (found : ∀ k ∈ indices, ∃ buf, bufs[k]? = some buf) :
    ∃ written, indices.mapM (index bufs) = .ok written := by
  induction indices with
  | nil => exact ⟨[], rfl⟩
  | cons k rest ih =>
    obtain ⟨buf, here⟩ := found k List.mem_cons_self
    obtain ⟨written, ran⟩ := ih fun k member => found k (List.mem_cons_of_mem _ member)
    refine ⟨buf :: written, ?_⟩
    rw [List.mapM_cons, index_ok here, Run.ok_bind, ran]
    rfl

theorem Returns.travels (ret : Returns host offset udpGso s final s')
    (short : ∀ k ∈ s'.toWrite, (packetAt offset s'.bufs k).length ≤ 65535)
    (own : ∀ k < s.bufs.length, (packetAt offset s.bufs k).length ≤ 65535) {sent : List Nat}
    (through : sent.Sublist s'.toWrite) :
    ∃ groups, List.Forall₂ (Carries host)
        (sent.map (packetAt (offset - virtioNetHdrLen) s'.bufs)) groups ∧
      groups.flatten.Subperm (s.bufs.map fun buf => buf.bytes.drop offset) ∧
      (sent = s'.toWrite → groups.flatten.Perm (s.bufs.map fun buf => buf.bytes.drop offset)) := by
  have cover := ret.conserved.exactlyOnce.map (packetAt offset s.bufs)
  rw [packetAt_range, List.map_flatMap] at cover
  refine ⟨_, List.forall₂_map_left_iff.mpr (List.forall₂_map_right_iff.mpr
    (List.forall₂_same.mpr fun k member =>
      ret.carries short own (through.subset member))), ?_, ?_⟩
  · rw [← List.flatMap_def]
    exact (through.flatMap _).subperm.trans cover.subperm
  · rintro rfl
    rw [← List.flatMap_def]
    exact cover

theorem sendMultiple_carries (lawful : link.Lawful) (reached : groTableMachine.Reachable table)
    (sendable : Sendable host udpGso table bufs offset) {rest : OsCall σ Nat}
    (ran : sendMultiple host true udpGso link.write table bufs offset = .ok (s', rest)) (kernel : σ) :
    ∃ outcome after frames groups, rest.on kernel = (outcome, after) ∧
      link.inFlight after = link.inFlight kernel ++ frames ∧
      List.Forall₂ (Carries host) frames groups ∧
      Travels outcome (bufs.map fun buf => buf.bytes.drop offset) groups.flatten := by
  have fresh := (reachable_poolsEmpty reached).fresh bufs
  have nothing : ∀ error : IoError, Travels (.error error)
      (bufs.map fun buf => buf.bytes.drop offset) [] :=
    fun error => ⟨List.nil_subperm, fun done => (not_succeeded_error done).elim⟩
  unfold sendMultiple at ran
  dsimp only at ran
  split at ran
  case isTrue none =>
    obtain ⟨rfl, rfl⟩ := Prod.mk.inj (Except.ok.inj ran)
    subst none
    exact ⟨.ok 0, kernel, [], [], rfl, (List.append_nil _).symm, .nil, .refl _, fun _ => .refl _⟩
  case isFalse some =>
  split at ran
  case isTrue many =>
    obtain ⟨rfl, rfl⟩ := Prod.mk.inj (Except.ok.inj ran)
    exact ⟨_, kernel, [], [], rfl, (List.append_nil _).symm, .nil, nothing _⟩
  case isFalse few =>
  rw [if_pos rfl] at ran
  obtain ⟨⟨final, ended⟩, called, ran⟩ := Run.bind_eq_ok.mp ran
  cases ended with
  | error error =>
    obtain ⟨rfl, rfl⟩ := Prod.mk.inj (Except.ok.inj ran)
    exact ⟨_, kernel, [], [], rfl, (List.append_nil _).symm, .nil, nothing _⟩
  | ok _ =>
    obtain ⟨start, front, ran⟩ := Run.bind_eq_ok.mp ran
    obtain ⟨written, found, ran⟩ := Run.bind_eq_ok.mp ran
    obtain ⟨rfl, rfl⟩ := Prod.mk.inj (Except.ok.inj ran)
    obtain ⟨loop, ranLoop, ret⟩ := handleGro_returns fresh called
    obtain ⟨-, rfl⟩ := subLen_eq_ok.mp front
    obtain ⟨outcome, after, frames, wrote, flight, sub, all⟩ :=
      writePackets_accepts (offset - virtioNetHdrLen) lawful written 0 (.ok ()) kernel
    rw [(mapM_index found).1] at sub all
    obtain ⟨sent, through, rfl⟩ := List.sublist_map_iff.mp sub
    have own : ∀ k < bufs.length, (packetAt offset bufs k).length ≤ 65535 := by
      intro k inside
      rw [packetAt_of_getElem? (List.getElem?_eq_getElem inside)]
      exact sendable.short _ (List.getElem_mem inside)
    have short : ∀ k ∈ final.toWrite, (packetAt offset final.bufs k).length ≤ 65535 := by
      intro k emitted
      rcases ret.length_packetAt emitted with ⟨merged, same⟩ | same
      · rw [same]
        exact sendable.joined loop ⟨Nat.le_of_not_lt few, ranLoop⟩ k merged
      · rw [same]
        rw [ret.completed.toWrite, ret.inv.toWrite] at emitted
        exact own k (ret.inv.batch.partition.bound k emitted)
    obtain ⟨groups, carried, once, complete⟩ := ret.travels short own through
    refine ⟨outcome, after, _, groups, wrote, flight, carried, once, fun done => complete ?_⟩
    have count := congrArg List.length (all done).2
    rw [List.length_map, List.length_map] at count
    exact through.eq_of_length count

end Send

/-! ## Reading -/

section Receive

variable {host : Host} {link : Link σ} {outOffset capacity : Nat} {reader : RecvState} {kernel : σ}
  {groups : List (List (List UInt8))}

/-- How a read ends: it fails and takes nothing, or it returns the packets of the oldest frame. -/
inductive ReadEnds (host : Host) (link : Link σ) (outOffset : Nat) (reader : RecvState) (kernel : σ)
    (groups : List (List (List UInt8))) : Result (Run (RecvState × Result Nat)) × σ → Prop
  | failed {error : IoError} {after : σ} (kept : link.inFlight after = link.inFlight kernel) :
      ReadEnds host link outOffset reader kernel groups (.ok (.ok (reader, .error error)), after)
  | delivered {reader' : RecvState} {after : σ} {group : List (List UInt8)}
      {rest : List (List (List UInt8))} (oldest : groups = group :: rest)
      (carried : List.Forall₂ (Carries host) (link.inFlight after) rest)
      (sameRoom : reader.SameRoom reader')
      (packets : List.Forall₂ Delivers group (reader'.packets outOffset group.length)) :
      ReadEnds host link outOffset reader kernel groups
        (.ok (.ok (reader', .ok group.length)), after)

theorem recvMultiple_ends (lawful : link.Lawful) (room : reader.RoomFor outOffset capacity)
    (carried : List.Forall₂ (Carries host) (link.inFlight kernel) groups)
    (fit : ∀ group ∈ groups, group.length ≤ capacity) :
    ReadEnds host link outOffset reader kernel groups
      ((recvMultiple host true link.read reader outOffset).on kernel) := by
  unfold recvMultiple
  split
  case isTrue none => exact .failed rfl
  case isFalse some =>
  rw [if_pos rfl, OsCall.on_bind, OsCall.on_attempt]
  generalize called : (link.read reader.originalBuffer.length).on kernel = answered
  obtain ⟨answer, after⟩ := answered
  dsimp only
  cases answer with
  | error error => exact .failed (lawful.waits _ _ _ _ called)
  | ok bytes =>
    obtain ⟨frame, flight, rfl⟩ := lawful.hands _ _ _ _ called
    rw [flight] at carried
    cases carried with
    | cons first others =>
      rename_i group rest
      -- The original buffer takes the whole frame.
      rw [List.take_of_length_le (first.short.trans room.original)]
      obtain ⟨reader', split, sameRoom, packets⟩ :=
        first.reads reader outOffset (room.mono (fit _ List.mem_cons_self))
      rw [RecvState.received] at split
      dsimp only
      rw [split]
      exact .delivered rfl others sameRoom packets

end Receive

/-! ## Runs -/

structure Tunnel (σ : Type) where
  kernel : σ
  table : GROTable
  reader : RecvState
  /-- What every call to `send_multiple` returned, with the packets that it was given. -/
  sent : List (Result Nat × List (List UInt8))
  /-- What the calls to `recv_multiple` returned so far. -/
  delivered : List (List UInt8)

inductive TunnelCall
  | sendMultiple (bufs : List ExpandBuffer) (offset : Nat)
  | recvMultiple

section Runs

variable (host : Host) (udpGso : Bool) (link : Link σ) (outOffset : Nat)

def Tunnel.step (s : Tunnel σ) : TunnelCall → Option (Tunnel σ)
  | .sendMultiple bufs offset =>
    match sendMultiple host true udpGso link.write s.table bufs offset with
    | .error _ => none
    | .ok (batch, write) =>
      let (outcome, kernel) := write.on s.kernel
      some { s with
        kernel, table := batch.table
        sent := s.sent ++ [(outcome, bufs.map fun buf => buf.bytes.drop offset)] }
  | .recvMultiple =>
    match (recvMultiple host true link.read s.reader outOffset).on s.kernel with
    | (.ok (.ok (reader, .ok n)), kernel) =>
      some { s with kernel, reader, delivered := s.delivered ++ reader.packets outOffset n }
    | (.ok (.ok (reader, .error _)), kernel) => some { s with kernel, reader }
    | _ => none

/-- No batch has more packets than the reader has buffers. -/
def Tunnel.Permits (capacity : Nat) (s : Tunnel σ) : TunnelCall → Prop
  | .sendMultiple bufs offset =>
    bufs.length ≤ capacity ∧ Sendable host udpGso s.table bufs offset
  | .recvMultiple => True

/-- Packets that are on their way or have arrived, by the call that sent them. -/
def Accounted (sent : List (Result Nat × List (List UInt8))) (packets : List (List UInt8)) : Prop :=
  ∃ orders, List.Forall₂ (fun call order => Travels call.1 call.2 order) sent orders ∧
    packets = orders.flatten

structure Tunnel.Inv (capacity : Nat) (s : Tunnel σ) : Prop where
  table : groTableMachine.Reachable s.table
  room : s.reader.RoomFor outOffset capacity
  flow : ∃ groups arrived, List.Forall₂ (Carries host) (link.inFlight s.kernel) groups ∧
    (∀ group ∈ groups, group.length ≤ capacity) ∧ List.Forall₂ Delivers arrived s.delivered ∧
    Accounted s.sent (arrived ++ groups.flatten)

end Runs

section Invariant

variable {host : Host} {udpGso : Bool} {link : Link σ} {outOffset capacity : Nat}
  {s s' : Tunnel σ}

theorem sendMultiple_batch {τ : Type} (host : Host) (udpGso : Bool) (write : List UInt8 → OsCall σ Nat)
    (other : List UInt8 → OsCall τ Nat) (vnetHdr : Bool) (table : GROTable)
    (bufs : List ExpandBuffer) (offset : Nat) :
    (sendMultiple host vnetHdr udpGso write table bufs offset).map Prod.fst =
      (sendMultiple host vnetHdr udpGso other table bufs offset).map Prod.fst := by
  have join : ∀ (s : GroState) (first : Nat),
      Except.map Prod.fst (do
        let written ← s.toWrite.mapM (index s.bufs)
        pure (s, writePackets write first written 0 (.ok ())) : Run (GroState × OsCall σ Nat)) =
      Except.map Prod.fst (do
        let written ← s.toWrite.mapM (index s.bufs)
        pure (s, writePackets other first written 0 (.ok ())) : Run (GroState × OsCall τ Nat)) := by
    intro s first
    cases s.toWrite.mapM (index s.bufs) with
    | error panic => rfl
    | ok written => rfl
  unfold sendMultiple
  dsimp only
  split
  · rfl
  split
  · rfl
  split
  · generalize handleGro host offset udpGso (table.reset.batch bufs) = joined
    cases joined with
    | error panic => rfl
    | ok ended =>
      obtain ⟨final, outcome⟩ := ended
      cases outcome with
      | error error => rfl
      | ok done =>
        simp only [Run.ok_bind]
        cases subLen offset virtioNetHdrLen with
        | error panic => rfl
        | ok start => exact join final start
  · exact join { table.reset.batch bufs with toWrite := List.range bufs.length } offset

theorem sendMultiple_table {table : GROTable} {bufs : List ExpandBuffer} {offset : Nat}
    {write : List UInt8 → OsCall σ Nat} {batch : GroState} {rest : OsCall σ Nat}
    (reached : groTableMachine.Reachable table)
    (ran : sendMultiple host true udpGso write table bufs offset = .ok (batch, rest)) :
    groTableMachine.Reachable batch.table := by
  have same := sendMultiple_batch host udpGso write
    (fun _ => (pure 0 : OsCall Unit Nat)) true table bufs offset
  rw [ran] at same
  refine .next (a := .sendMultiple host true udpGso bufs offset) reached trivial ?_
  change (Except.toOption _).map _ = _
  generalize sendMultiple host true udpGso (fun _ => (pure 0 : OsCall Unit Nat)) table bufs offset =
    other at same ⊢
  cases other with
  | error panic => cases same
  | ok result =>
    obtain rfl : batch = result.1 := Except.ok.inj same
    rfl

theorem Accounted.send {sent : List (Result Nat × List (List UInt8))}
    {packets own order : List (List UInt8)} {outcome : Result Nat}
    (accounted : Accounted sent packets) (travels : Travels outcome own order) :
    Accounted (sent ++ [(outcome, own)]) (packets ++ order) := by
  obtain ⟨orders, each, rfl⟩ := accounted
  refine ⟨orders ++ [order], List.rel_append each (.cons travels .nil), ?_⟩
  rw [List.flatten_append, List.flatten_singleton]

theorem Tunnel.Inv.step (lawful : link.Lawful) (inv : s.Inv host link outOffset capacity)
    {call : TunnelCall} (permitted : s.Permits host udpGso capacity call)
    (stepped : s.step host udpGso link outOffset call = some s') :
    s'.Inv host link outOffset capacity := by
  obtain ⟨table, room, groups, arrived, carried, fit, delivered, accounted⟩ := inv
  cases call with
  | sendMultiple bufs offset =>
    obtain ⟨few, sendable⟩ := permitted
    simp only [Tunnel.step] at stepped
    split at stepped
    case h_1 => cases stepped
    case h_2 batch write ran =>
      obtain ⟨outcome, after, frames, more, wrote, flight, carries, travels⟩ :=
        sendMultiple_carries lawful table sendable ran s.kernel
      rw [wrote] at stepped
      obtain rfl := Option.some.inj stepped
      refine ⟨sendMultiple_table table ran, room, groups ++ more, arrived, ?_, ?_, delivered, ?_⟩
      · rw [flight]
        exact List.rel_append carried carries
      · intro group member
        rcases List.mem_append.mp member with old | new
        · exact fit group old
        · have within := travels.atMostOnce.length_le
          rw [List.length_map] at within
          exact (List.sublist_flatten_of_mem new).length_le.trans (within.trans few)
      · rw [List.flatten_append, ← List.append_assoc]
        exact accounted.send travels
  | recvMultiple =>
    have ends := recvMultiple_ends lawful room carried fit
    simp only [Tunnel.step] at stepped
    generalize (recvMultiple host true link.read s.reader outOffset).on s.kernel = ended
      at ends stepped
    cases ends with
    | failed kept =>
      obtain rfl := Option.some.inj stepped
      exact ⟨table, room, groups, arrived, kept ▸ carried, fit, delivered, accounted⟩
    | delivered oldest others sameRoom packets =>
      obtain rfl := Option.some.inj stepped
      subst oldest
      refine ⟨table, sameRoom.roomFor room, _, _, others,
        fun group member => fit group (List.mem_cons_of_mem _ member),
        List.rel_append delivered packets, ?_⟩
      rw [List.flatten_cons, ← List.append_assoc] at accounted
      exact accounted

theorem sendMultiple_returns {table : GROTable} {bufs : List ExpandBuffer} {offset : Nat}
    (write : List UInt8 → OsCall σ Nat) (reached : groTableMachine.Reachable table)
    (few : bufs.length ≤ 65535) (sendable : Sendable host udpGso table bufs offset) :
    ∃ result, sendMultiple host true udpGso write table bufs offset = .ok result := by
  have fresh := (reachable_poolsEmpty reached).fresh bufs
  obtain ⟨batch, outcome, called, -⟩ :=
    applyGro_returns reached host bufs few offset udpGso sendable.joined
  rw [GROTable.applyGro] at called
  unfold sendMultiple
  dsimp only
  split
  case isTrue none => exact ⟨_, rfl⟩
  case isFalse some =>
  rw [if_neg (Nat.not_lt.mpr few), if_pos rfl, called, Run.ok_bind]
  cases outcome with
  | error error => exact ⟨_, rfl⟩
  | ok done =>
    obtain ⟨final, -, ret⟩ := handleGro_returns fresh called
    have room := ret.valid.offset_room (List.length_pos_iff.mpr some)
    obtain ⟨written, found⟩ := mapM_index_total fun k emitted => ret.found emitted
    dsimp only
    rw [subLen_ok room, Run.ok_bind, found]
    exact ⟨_, rfl⟩

theorem Tunnel.Inv.returns (lawful : link.Lawful) (inv : s.Inv host link outOffset capacity)
    {call : TunnelCall} (permitted : s.Permits host udpGso capacity call) :
    ∃ s', s.step host udpGso link outOffset call = some s' := by
  cases call with
  | sendMultiple bufs offset =>
    obtain ⟨few, sendable⟩ := permitted
    have bound := few.trans (inv.room.count.trans inv.room.few)
    obtain ⟨⟨batch, rest⟩, ran⟩ := sendMultiple_returns link.write inv.table bound sendable
    rw [Tunnel.step, ran]
    exact ⟨_, rfl⟩
  | recvMultiple =>
    obtain ⟨groups, arrived, carried, fit, -, -⟩ := inv.flow
    have ends := recvMultiple_ends lawful inv.room carried fit
    rw [Tunnel.step]
    generalize (recvMultiple host true link.read s.reader outOffset).on s.kernel = ended at ends ⊢
    cases ends with
    | failed kept => exact ⟨_, rfl⟩
    | delivered oldest others sameRoom packets => exact ⟨_, rfl⟩

variable {kernel : σ} {reader : RecvState}

end Invariant

/-! ## A queue between two devices -/

end QuincyTun.Linux
