import QuincyTun.Foundation.Segments
import QuincyTun.Linux.FlowKey

/-! What an item of a table stands for: the packets that were joined, and the one
packet in its buffer that carries all of their payloads.

A group holds at every moment of a batch; each way to join a packet keeps it.
-/

set_option autoImplicit false

namespace QuincyTun.Linux

open QuincyTun.Foundation

/-! ## Payloads -/

/-- The packet `cur` carries the payloads of `parts`, to be cut at the multiples of `size`. -/
structure Joined (headersLen size : Nat) (parts : List (List UInt8)) (cur : List UInt8) :
    Prop where
  segmented : Segmented size (parts.map (·.drop headersLen))
  payload : cur.drop headersLen = (parts.map (·.drop headersLen)).flatten

namespace Joined

variable {headersLen size : Nat} {parts : List (List UInt8)} {cur cur' pkt : List UInt8}

theorem single (nonempty : headersLen < pkt.length) (whole : (pkt.drop headersLen).length = size) :
    Joined headersLen size [pkt] pkt where
  segmented := ⟨by simp only [List.length_drop]; omega, whole.le⟩
  payload := by simp

theorem append (joined : Joined headersLen size parts cur)
    (full : (cur.drop headersLen).length % size = 0) (nonempty : headersLen < pkt.length)
    (small : (pkt.drop headersLen).length ≤ size)
    (payload : cur'.drop headersLen = cur.drop headersLen ++ pkt.drop headersLen) :
    Joined headersLen size (parts ++ [pkt]) cur' where
  segmented := by
    rw [List.map_append]
    exact joined.segmented.concat (joined.payload ▸ full)
      (by simp only [List.length_drop]; omega) small
  payload := by
    rw [payload, joined.payload]
    simp

/-- A packet in front sets the segment size; a larger one needs a single segment behind it. -/
theorem prepend (joined : Joined headersLen size parts cur) {newSize : Nat}
    (whole : (pkt.drop headersLen).length = newSize) (grows : size ≤ newSize)
    (alone : size < newSize → parts.length = 1)
    (payload : cur'.drop headersLen = pkt.drop headersLen ++ cur.drop headersLen) :
    Joined headersLen newSize (pkt :: parts) cur' where
  segmented := by
    have behind : Segmented newSize (parts.map (·.drop headersLen)) := by
      rcases Nat.eq_or_lt_of_le grows with same | larger
      · exact same ▸ joined.segmented
      · obtain ⟨only, rfl⟩ := List.length_eq_one_iff.mp (alone larger)
        exact joined.segmented.singleton_mono grows
    exact behind.cons whole
  payload := by
    rw [payload, joined.payload]
    simp

theorem parts_pos (joined : Joined headersLen size parts cur) : 0 < parts.length := by
  have nonempty := joined.segmented.ne_nil
  rw [List.length_pos_iff]
  exact fun none => nonempty (by rw [none]; rfl)

theorem length_bounds (joined : Joined headersLen size parts cur) :
    (parts.length - 1) * size < (cur.drop headersLen).length ∧
      (cur.drop headersLen).length ≤ parts.length * size := by
  have bounds := joined.segmented.length_flatten
  rwa [List.length_map, ← joined.payload] at bounds

theorem headers_lt (joined : Joined headersLen size parts cur) : headersLen < cur.length := by
  have bounds := joined.length_bounds.1
  rw [List.length_drop] at bounds
  omega

theorem part (joined : Joined headersLen size parts cur) {i : Nat} {pkt : List UInt8}
    (found : parts[i]? = some pkt) :
    pkt.drop headersLen = ((cur.drop headersLen).drop (i * size)).take size := by
  obtain ⟨bound, same⟩ := List.getElem?_eq_some_iff.mp found
  have cut := joined.segmented.getElem i (by rwa [List.length_map])
  rw [List.getElem_map, same] at cut
  rw [cut, joined.payload]

theorem first_length (joined : Joined headersLen size parts cur)
    (long : ∀ pkt ∈ parts, headersLen ≤ pkt.length) :
    ∃ pkt ∈ parts, pkt.length = headersLen + min size (cur.length - headersLen) := by
  have several := joined.parts_pos
  have found : parts[0]? = some parts[0] := List.getElem?_eq_getElem several
  have member := List.mem_of_getElem? found
  have length := congrArg List.length (joined.part found)
  rw [Nat.zero_mul, List.drop_zero, List.length_take, List.length_drop, List.length_drop] at length
  have inside := long _ member
  exact ⟨_, member, by omega⟩

end Joined

/-! ## Counting -/

section Count

variable {parts : List (List UInt8)} {cur : List UInt8} {merged : UInt16}

theorem toNat_succ_merged (few : merged.toNat + 1 < 65536) :
    (merged + 1).toNat = merged.toNat + 1 := by
  rw [UInt16.toNat_add]
  exact Nat.mod_eq_of_lt few

theorem succ_merged_ne_zero (few : merged.toNat + 1 < 65536) : merged + 1 ≠ 0 := by
  intro zero
  have counted := toNat_succ_merged few
  rw [zero] at counted
  cases counted

theorem forall_parts {p : List UInt8 → Prop} (untouched : merged = 0 → parts = [cur])
    (verified : merged ≠ 0 → ∀ pkt ∈ parts, p pkt) (opened : merged = 0 → p cur) :
    ∀ pkt ∈ parts, p pkt := by
  by_cases zero : merged = 0
  · rw [untouched zero]
    exact List.forall_mem_singleton.mpr (opened zero)
  · exact verified zero

end Count

/-! ## Headers that may be joined -/

theorem ipHeadersCanCoalesce_sound {isV6 : Bool} {a b : List UInt8}
    (can : ipHeadersCanCoalesce a b = true) (family : ipVersion a = if isV6 then 6 else 4)
    (version : ipVersion a = ipVersion b) (flow : SameFlow isV6 a b) : SameIpHeader isV6 a b := by
  unfold ipHeadersCanCoalesce at can
  have sixIsNotFour : (4 : UInt8) ≠ 6 := by decide
  cases isV6 with
  | false =>
    have notSix : byteAt a 0 >>> 4 ≠ 6 := fun six => sixIsNotFour (family.symm.trans six)
    split_ifs at can with short tos df ttl
    exact ⟨version, flow.src, flow.dst, not_not.mp tos, not_not.mp ttl, not_not.mp df⟩
  | true =>
    have six : byteAt a 0 >>> 4 = 6 := family
    split_ifs at can with short traffic hop
    obtain ⟨first, second⟩ := not_or.mp traffic
    refine ⟨version, flow.src, flow.dst, ?_, not_not.mp hop, rfl⟩
    simp only [trafficClass, if_true, not_not.mp first, not_not.mp second]

theorem trafficClass_nibbles {x y x' y' : UInt8} (version : x >>> 4 = x' >>> 4)
    (same : x <<< 4 ||| y >>> 4 = x' <<< 4 ||| y' >>> 4) :
    x = x' ∧ y ||| (0x0F : UInt8) = y' ||| (0x0F : UInt8) := by
  have low := congrArg (fun value : UInt8 => value >>> 4) same
  have high := congrArg (fun value : UInt8 => value <<< 4) same
  simp only [UInt8.shiftRight_or, low_nibble, shiftRight_both, UInt8.or_zero] at low
  simp only [UInt8.shiftLeft_or, shiftLeft_both, UInt8.zero_or] at high
  exact ⟨by rw [eq_nibbles x, eq_nibbles x', version, low],
    by rw [or_low_nibble y, or_low_nibble y', high]⟩

theorem ipHeadersCanCoalesce_complete {isV6 : Bool} {a b : List UInt8}
    (same : SameIpHeader isV6 a b) (family : ipVersion a = if isV6 then 6 else 4)
    (longA : 9 ≤ a.length) (longB : 9 ≤ b.length) : ipHeadersCanCoalesce a b = true := by
  unfold ipHeadersCanCoalesce
  cases isV6 with
  | false =>
    have sixIsNotFour : (4 : UInt8) ≠ 6 := by decide
    have notSix : byteAt a 0 >>> 4 ≠ 6 := fun six => sixIsNotFour (family.symm.trans six)
    have tos : byteAt a 1 = byteAt b 1 := same.trafficClass
    have df : byteAt a 6 >>> 5 = byteAt b 6 >>> 5 := same.fragmentFlags
    have ttl : byteAt a 8 = byteAt b 8 := same.hopLimit
    rw [if_neg (by omega), if_neg notSix, if_neg (not_not.mpr tos), if_neg (not_not.mpr df),
      if_neg (not_not.mpr ttl)]
  | true =>
    have six : byteAt a 0 >>> 4 = 6 := family
    have hop : byteAt a 7 = byteAt b 7 := same.hopLimit
    obtain ⟨first, second⟩ := trafficClass_nibbles same.version same.trafficClass
    have high : byteAt a 1 >>> 4 = byteAt b 1 >>> 4 := by
      have gone : (0x0F : UInt8) >>> 4 = 0 := rfl
      have shifted := congrArg (fun value : UInt8 => value >>> 4) second
      simpa only [UInt8.shiftRight_or, gone, UInt8.or_zero] using shifted
    rw [if_neg (by omega), if_pos six, if_neg (by simp [first, high]), if_neg (not_not.mpr hop)]

/-! ## TCP groups -/

/-- The item stands for `parts`, and `cur` is the packet in its buffer. -/
structure TcpGroup (parts : List (List UInt8)) (item : TcpGROItem) (cur : List UInt8) : Prop where
  iphLen : item.iphLen.toNat = ipHLen item.key.isV6
  tcphLen : item.tcphLen.toNat = tcpHLen item.key.isV6 cur
  joined : Joined (ipHLen item.key.isV6 + tcpHLen item.key.isV6 cur) item.gsoSize.toNat parts cur
  merged : parts.length = item.numMerged.toNat + 1
  eligible : ∀ pkt ∈ parts, TcpEligible item.key.isV6 pkt
  sameHeader : ∀ pkt ∈ parts, SameTcpHeader item.key.isV6 pkt cur
  key : tcpKeyOf item.key.isV6 cur = item.key
  curSeq : tcpSeq item.key.isV6 cur = item.sentSeq
  /-- Sequence numbers wrap around. -/
  seq : ∀ i pkt, parts[i]? = some pkt →
    tcpSeq item.key.isV6 pkt = item.sentSeq + UInt32.ofNat (i * item.gsoSize.toNat)
  untouched : item.numMerged = 0 → parts = [cur]
  verified : item.numMerged ≠ 0 → ∀ pkt ∈ parts, TransportVerifies item.key.isV6 ipProtoTcp pkt
  /-- Only the last segment may carry PSH. -/
  pshLast : ∀ i pkt, parts[i]? = some pkt →
    tcpFlags item.key.isV6 pkt =
      if i + 1 = parts.length ∧ item.pshSet then tcpFlagAck ||| tcpFlagPsh else tcpFlagAck
  flags : tcpFlags item.key.isV6 cur = tcpFlagAck ∨
    tcpFlags item.key.isV6 cur = tcpFlagAck ||| tcpFlagPsh ∧ item.pshSet = true

/-- The packet continues the item at its end. -/
structure TcpAppends (isV6 : Bool) (pkt : List UInt8) (item : TcpGROItem) (cur : List UInt8) :
    Prop where
  headerLen : tcpHLen isV6 pkt = tcpHLen isV6 cur
  options : tcpOptions isV6 pkt = tcpOptions isV6 cur
  ip : ipHeadersCanCoalesce pkt cur = true
  seq : tcpSeq isV6 pkt = item.sentSeq +
    UInt32.ofNat (item.gsoSize.toNat + item.numMerged.toNat * item.gsoSize.toNat)
  noPsh : item.pshSet = false
  full : (tcpPayload isV6 cur).length % item.gsoSize.toNat = 0
  small : (tcpPayload isV6 pkt).length ≤ item.gsoSize.toNat

/-- The packet ends where the item begins. -/
structure TcpPrepends (isV6 : Bool) (pkt : List UInt8) (item : TcpGROItem) (cur : List UInt8) :
    Prop where
  headerLen : tcpHLen isV6 pkt = tcpHLen isV6 cur
  options : tcpOptions isV6 pkt = tcpOptions isV6 cur
  ip : ipHeadersCanCoalesce pkt cur = true
  notBehind : tcpSeq isV6 pkt ≠ item.sentSeq +
    UInt32.ofNat (item.gsoSize.toNat + item.numMerged.toNat * item.gsoSize.toNat)
  seq : tcpSeq isV6 pkt + UInt32.ofNat (tcpPayload isV6 pkt).length = item.sentSeq
  noPsh : tcpFlags isV6 pkt = tcpFlagAck
  large : item.gsoSize.toNat ≤ (tcpPayload isV6 pkt).length
  alone : item.gsoSize.toNat < (tcpPayload isV6 pkt).length → item.numMerged = 0

def tcpAppended (isV6 : Bool) (cur pkt : List UInt8) : List UInt8 :=
  (if tcpFlags isV6 pkt != tcpFlagAck then
    overwrite cur (ipHLen isV6 + tcpFlagsOffset) [tcpFlags isV6 cur ||| tcpFlagPsh]
  else cur) ++ tcpPayload isV6 pkt

def tcpPrepended (isV6 : Bool) (cur pkt : List UInt8) : List UInt8 := pkt ++ tcpPayload isV6 cur

def TcpGROItem.appended (item : TcpGROItem) (pshSet : Bool) : TcpGROItem :=
  { item with pshSet := item.pshSet || pshSet, numMerged := item.numMerged + 1 }

def TcpGROItem.prepended (item : TcpGROItem) (seq : UInt32) (gsoSize : UInt16) : TcpGROItem :=
  { item with sentSeq := seq, gsoSize, numMerged := item.numMerged + 1 }

@[simp] theorem TcpGROItem.appended_bufsIndex (item : TcpGROItem) (pshSet : Bool) :
    (item.appended pshSet).bufsIndex = item.bufsIndex := rfl

@[simp] theorem TcpGROItem.appended_key (item : TcpGROItem) (pshSet : Bool) :
    (item.appended pshSet).key = item.key := rfl

@[simp] theorem TcpGROItem.prepended_bufsIndex (item : TcpGROItem) (seq : UInt32)
    (gsoSize : UInt16) : (item.prepended seq gsoSize).bufsIndex = item.bufsIndex := rfl

@[simp] theorem TcpGROItem.prepended_key (item : TcpGROItem) (seq : UInt32) (gsoSize : UInt16) :
    (item.prepended seq gsoSize).key = item.key := rfl

theorem tcpKeyOf_congr {isV6 : Bool} {a b : List UInt8} (same : SameTcpHeader isV6 a b) :
    tcpKeyOf isV6 a = tcpKeyOf isV6 b := by
  simp only [tcpKeyOf, same.src, same.dst, same.srcPort, same.dstPort, same.ack]

/-- Joining a segment changes at most the flag byte of the headers. -/
theorem tcpAppended_agree (isV6 : Bool) {cur : List UInt8} (pkt : List UInt8) {headersLen : Nat}
    (long : headersLen ≤ cur.length) :
    AgreeOn (fun i => i < headersLen ∧ i ≠ ipHLen isV6 + tcpFlagsOffset)
      (tcpAppended isV6 cur pkt) cur := by
  rintro i ⟨inside, notFlags⟩
  rw [tcpAppended]
  split
  · rw [List.getElem?_append_left (by simp only [length_overwrite]; omega), getElem?_overwrite,
      if_neg (by simp only [List.length_singleton]; omega)]
  · rw [List.getElem?_append_left (by omega)]

theorem tcpPrepended_agree (isV6 : Bool) (cur pkt : List UInt8) :
    AgreeOn (· < pkt.length) (tcpPrepended isV6 cur pkt) pkt :=
  fun _ inside => List.getElem?_append_left inside

theorem tcpFlags_appended {isV6 : Bool} {cur pkt : List UInt8}
    (long : ipHLen isV6 + tcpFlagsOffset < cur.length) :
    tcpFlags isV6 (tcpAppended isV6 cur pkt) =
      if tcpFlags isV6 pkt != tcpFlagAck then tcpFlags isV6 cur ||| tcpFlagPsh
      else tcpFlags isV6 cur := by
  rw [tcpAppended]
  split
  · rw [tcpFlags, byteAt_append_left _ _ (by simpa using long),
      byteAt_overwrite _ _ _ (Nat.succ_le_of_lt long),
      if_pos (by simp)]
    simp [byteAt]
  · rw [tcpFlags, byteAt_append_left _ _ long, tcpFlags]

theorem drop_tcpAppended {isV6 : Bool} {cur pkt : List UInt8} {headersLen : Nat}
    (long : headersLen ≤ cur.length) (header : ipHLen isV6 + tcpFlagsOffset < headersLen) :
    (tcpAppended isV6 cur pkt).drop headersLen = cur.drop headersLen ++ tcpPayload isV6 pkt := by
  rw [tcpAppended]
  split
  · rw [List.drop_append_of_le_length (by simpa using long),
      drop_overwrite_of_le _ _ _ (by simp only [List.length_singleton]; omega)]
  · rw [List.drop_append_of_le_length long]

theorem eq_of_getElem?_concat {α : Type} {l : List α} {a b : α} {i : Nat}
    (found : (l ++ [a])[i]? = some b) : i < l.length ∧ l[i]? = some b ∨ i = l.length ∧ a = b := by
  rcases Nat.lt_trichotomy i l.length with old | rfl | beyond
  · rw [List.getElem?_append_left old] at found
    exact .inl ⟨old, found⟩
  · rw [List.getElem?_concat_length] at found
    exact .inr ⟨rfl, Option.some.inj found⟩
  · rw [List.getElem?_eq_none (by rw [List.length_append]; exact beyond)] at found
    cases found

theorem forall_mem_concat {α : Type} {l : List α} {a : α} {p : α → Prop} (old : ∀ b ∈ l, p b)
    (new : p a) : ∀ b ∈ l ++ [a], p b :=
  List.forall_mem_append.mpr ⟨old, List.forall_mem_singleton.mpr new⟩

theorem eq_of_getElem?_singleton {α : Type} {a b : α} {i : Nat} (found : [a][i]? = some b) :
    i = 0 ∧ a = b := by
  cases i with
  | zero => exact ⟨rfl, Option.some.inj found⟩
  | succ i => cases found

namespace TcpGroup

variable {parts : List (List UInt8)} {item : TcpGROItem} {cur pkt : List UInt8}

theorem single {isV6 : Bool} (bufsIndex : Nat) (eligible : TcpEligible isV6 pkt) :
    TcpGroup [pkt] (tcpItemOf isV6 pkt bufsIndex) pkt := by
  have payload := eligible.payload
  have size := eligible.toNat_gsoSize
  have pshSet : (tcpItemOf isV6 pkt bufsIndex).pshSet = true ↔
      tcpFlags isV6 pkt = tcpFlagAck ||| tcpFlagPsh := by
    rcases eligible.flags with flags | flags <;> simp only [tcpItemOf, flags] <;> decide
  constructor
  case iphLen => cases isV6 <;> rfl
  case tcphLen =>
    have bound := tcpHLen_le isV6 pkt
    simp only [tcpItemOf, UInt8.toNat_ofNat', tcpKeyOf]
    omega
  case joined => exact .single payload size.symm
  case merged => rfl
  case eligible =>
    intro other member
    rw [List.mem_singleton.mp member]
    exact eligible
  case sameHeader =>
    intro other member
    rw [List.mem_singleton.mp member]
    exact .refl _ _
  case key => rfl
  case curSeq => rfl
  case seq =>
    intro i other found
    obtain ⟨rfl, rfl⟩ := eq_of_getElem?_singleton found
    simp [tcpItemOf, tcpKeyOf]
  case untouched => exact fun _ => rfl
  case verified => exact fun merged => (merged rfl).elim
  case pshLast =>
    intro i other found
    obtain ⟨rfl, rfl⟩ := eq_of_getElem?_singleton found
    split
    · exact pshSet.mp (by assumption : _ ∧ _).2
    · rename_i notSet
      exact eligible.flags.resolve_right fun flags => notSet ⟨rfl, pshSet.mpr flags⟩
  case flags => exact eligible.flags.imp id fun flags => ⟨flags, pshSet.mpr flags⟩

theorem headers_lt (group : TcpGroup parts item cur) :
    ipHLen item.key.isV6 + tcpHLen item.key.isV6 cur < cur.length := group.joined.headers_lt

theorem headerLen (group : TcpGroup parts item cur) : 20 ≤ tcpHLen item.key.isV6 cur := by
  obtain ⟨first, found⟩ : ∃ first, first ∈ parts :=
    List.exists_mem_of_length_pos group.joined.parts_pos
  rw [← (group.sameHeader first found).headerLen]
  exact (group.eligible first found).headerLen

theorem version (group : TcpGroup parts item cur) :
    ipVersion cur = if item.key.isV6 then 6 else 4 := by
  obtain ⟨first, found⟩ : ∃ first, first ∈ parts :=
    List.exists_mem_of_length_pos group.joined.parts_pos
  rw [← (group.sameHeader first found).version]
  exact (group.eligible first found).candidate.version

theorem gsoSize_pos (group : TcpGroup parts item cur) : 0 < item.gsoSize.toNat :=
  group.joined.segmented.size_pos

/-- A packet under the key of the item whose header may be joined has the header of the item. -/
theorem sameHeader_of_key (group : TcpGroup parts item cur)
    (eligible : TcpEligible item.key.isV6 pkt) (key : tcpKeyOf item.key.isV6 pkt = item.key)
    (headerLen : tcpHLen item.key.isV6 pkt = tcpHLen item.key.isV6 cur)
    (options : tcpOptions item.key.isV6 pkt = tcpOptions item.key.isV6 cur)
    (ip : ipHeadersCanCoalesce pkt cur = true) : SameTcpHeader item.key.isV6 pkt cur := by
  have long := group.headers_lt
  have payload := eligible.payload
  obtain ⟨flow, ack⟩ := tcpKeyOf_eq (by omega) (by omega) (key.trans group.key.symm)
  have family := eligible.candidate.version
  exact ⟨ipHeadersCanCoalesce_sound ip family (family.trans group.version.symm) flow,
    flow.srcPort, flow.dstPort, ack, headerLen, options⟩

theorem append (group : TcpGroup parts item cur) (eligible : TcpEligible item.key.isV6 pkt)
    (key : tcpKeyOf item.key.isV6 pkt = item.key) (appends : TcpAppends item.key.isV6 pkt item cur)
    (verifies : TransportVerifies item.key.isV6 ipProtoTcp pkt)
    (opened : item.numMerged = 0 → TransportVerifies item.key.isV6 ipProtoTcp cur)
    (few : item.numMerged.toNat + 1 < 65536) :
    TcpGroup (parts ++ [pkt]) (item.appended (tcpFlags item.key.isV6 pkt != tcpFlagAck))
      (tcpAppended item.key.isV6 cur pkt) := by
  have long := group.headers_lt
  have minimal := group.headerLen
  have flagsAt : tcpFlagsOffset = 13 := rfl
  have agree := tcpAppended_agree item.key.isV6 pkt long.le
  have same : SameTcpHeader item.key.isV6 (tcpAppended item.key.isV6 cur pkt) cur := by
    refine SameTcpHeader.of_agree (ipHLen item.key.isV6 + tcpHLen item.key.isV6 cur) (by omega)
      le_rfl (agree.mono fun i stable => ?_)
    rcases stable with ⟨inside, -⟩ | ⟨-, inside, -, apart⟩
    · exact ⟨by omega, by omega⟩
    · exact ⟨inside, by omega⟩
  have merged := toNat_succ_merged few
  have payloadAt : ipHLen item.key.isV6 + tcpHLen item.key.isV6 pkt =
      ipHLen item.key.isV6 + tcpHLen item.key.isV6 cur := by rw [appends.headerLen]
  have pktPayload : tcpPayload item.key.isV6 pkt =
      pkt.drop (ipHLen item.key.isV6 + tcpHLen item.key.isV6 cur) := by rw [tcpPayload, payloadAt]
  have pktHeader := group.sameHeader_of_key eligible key appends.headerLen appends.options appends.ip
  constructor
  case iphLen => exact group.iphLen
  case tcphLen => exact group.tcphLen.trans same.headerLen.symm
  case joined =>
    change Joined (ipHLen item.key.isV6 + tcpHLen item.key.isV6 _) item.gsoSize.toNat _ _
    rw [same.headerLen]
    refine group.joined.append appends.full (payloadAt ▸ eligible.payload)
      (pktPayload ▸ appends.small) ?_
    rw [drop_tcpAppended long.le (by omega), pktPayload]
  case merged => simp [TcpGROItem.appended, merged, group.merged]
  case eligible => exact forall_mem_concat group.eligible eligible
  case sameHeader =>
    exact forall_mem_concat (fun other member => (group.sameHeader other member).trans same.symm)
      (pktHeader.trans same.symm)
  case key => exact (tcpKeyOf_congr same).trans group.key
  case curSeq =>
    change tcpSeq item.key.isV6 _ = item.sentSeq
    refine Eq.trans ?_ group.curSeq
    exact agree.u32At fun k small => ⟨by omega, by omega⟩
  case seq =>
    intro i other found
    rcases eq_of_getElem?_concat found with ⟨-, old⟩ | ⟨rfl, rfl⟩
    · exact group.seq i other old
    · rw [group.merged, Nat.add_mul, Nat.one_mul, Nat.add_comm]
      exact appends.seq
  case untouched => exact fun zero => absurd zero (succ_merged_ne_zero few)
  case verified =>
    exact fun _ => forall_mem_concat (forall_parts group.untouched group.verified opened) verifies
  case pshLast =>
    intro i other found
    rcases eq_of_getElem?_concat found with ⟨inside, old⟩ | ⟨rfl, rfl⟩
    · have flags := group.pshLast i other old
      rw [appends.noPsh, if_neg (by simp)] at flags
      rw [if_neg (by simp only [List.length_append, List.length_singleton]; omega)]
      exact flags
    · simp only [TcpGROItem.appended, appends.noPsh, Bool.false_or, List.length_append,
        List.length_singleton, true_and]
      rcases eligible.flags with flags | flags <;> rw [flags] <;> decide
  case flags =>
    have ack : tcpFlags item.key.isV6 cur = tcpFlagAck :=
      group.flags.resolve_right fun set => by simp [appends.noPsh] at set
    change tcpFlags item.key.isV6 _ = _ ∨ tcpFlags item.key.isV6 _ = _ ∧ _
    rw [tcpFlags_appended (by omega), ack]
    simp only [TcpGROItem.appended, appends.noPsh, Bool.false_or]
    rcases eligible.flags with flags | flags <;> rw [flags] <;> decide

theorem prepend (group : TcpGroup parts item cur) (eligible : TcpEligible item.key.isV6 pkt)
    (key : tcpKeyOf item.key.isV6 pkt = item.key)
    (prepends : TcpPrepends item.key.isV6 pkt item cur)
    (verifies : TransportVerifies item.key.isV6 ipProtoTcp pkt)
    (opened : item.numMerged = 0 → TransportVerifies item.key.isV6 ipProtoTcp cur)
    (few : item.numMerged.toNat + 1 < 65536) :
    TcpGroup (pkt :: parts)
      (item.prepended (tcpSeq item.key.isV6 pkt)
        (UInt16.ofNat (tcpPayload item.key.isV6 pkt).length))
      (tcpPrepended item.key.isV6 cur pkt) := by
  have long := group.headers_lt
  have payload := eligible.payload
  have minimal := eligible.headerLen
  have flagsAt : tcpFlagsOffset = 13 := rfl
  have agree := tcpPrepended_agree item.key.isV6 cur pkt
  have front : SameTcpHeader item.key.isV6 (tcpPrepended item.key.isV6 cur pkt) pkt := by
    refine SameTcpHeader.of_agree (ipHLen item.key.isV6 + tcpHLen item.key.isV6 pkt) (by omega)
      le_rfl (agree.mono fun i stable => ?_)
    rcases stable with ⟨inside, -⟩ | ⟨-, inside, -⟩ <;> omega
  have pktHeader := group.sameHeader_of_key eligible key prepends.headerLen prepends.options
    prepends.ip
  have merged := toNat_succ_merged few
  have payloadAt : ipHLen item.key.isV6 + tcpHLen item.key.isV6 pkt =
      ipHLen item.key.isV6 + tcpHLen item.key.isV6 cur := by rw [prepends.headerLen]
  have pktPayload : tcpPayload item.key.isV6 pkt =
      pkt.drop (ipHLen item.key.isV6 + tcpHLen item.key.isV6 cur) := by rw [tcpPayload, payloadAt]
  have size := eligible.toNat_gsoSize
  constructor
  case iphLen => exact group.iphLen
  case tcphLen => exact group.tcphLen.trans (pktHeader.headerLen.symm.trans front.headerLen.symm)
  case joined =>
    change Joined (ipHLen item.key.isV6 + tcpHLen item.key.isV6 _)
      (UInt16.ofNat (tcpPayload item.key.isV6 pkt).length).toNat _ _
    rw [front.headerLen, payloadAt, size]
    refine group.joined.prepend (pktPayload ▸ rfl) prepends.large ?_ ?_
    · intro larger
      rw [group.merged, prepends.alone larger]
      rfl
    · rw [tcpPrepended, List.drop_append_of_le_length (by omega), tcpPayload]
  case merged => simp [TcpGROItem.prepended, merged, group.merged]
  case eligible => exact List.forall_mem_cons.mpr ⟨eligible, group.eligible⟩
  case sameHeader =>
    exact List.forall_mem_cons.mpr ⟨front.symm, fun other member =>
      (group.sameHeader other member).trans (pktHeader.symm.trans front.symm)⟩
  case key => exact (tcpKeyOf_congr front).trans key
  case curSeq =>
    change tcpSeq item.key.isV6 _ = tcpSeq item.key.isV6 pkt
    exact agree.u32At fun k small => by omega
  case seq =>
    intro i other found
    change tcpSeq item.key.isV6 other = tcpSeq item.key.isV6 pkt +
      UInt32.ofNat (i * (UInt16.ofNat (tcpPayload item.key.isV6 pkt).length).toNat)
    rw [size]
    cases i with
    | zero =>
      rw [← Option.some.inj found]
      simp
    | succ i =>
      have old := group.seq i other found
      -- Segments behind a larger one are a single last one, so their position is zero.
      have position : i * item.gsoSize.toNat = i * (tcpPayload item.key.isV6 pkt).length := by
        rcases Nat.eq_or_lt_of_le prepends.large with same | larger
        · rw [same]
        · have only : parts.length = 1 := by rw [group.merged, prepends.alone larger]; rfl
          have bound := (List.getElem?_eq_some_iff.mp found).1
          simp only [List.length_cons, only] at bound
          rw [show i = 0 by omega, Nat.zero_mul, Nat.zero_mul]
      rw [old, position, ← prepends.seq, Nat.succ_mul, Nat.add_comm, UInt32.ofNat_add,
        UInt32.add_assoc]
  case untouched => exact fun zero => absurd zero (succ_merged_ne_zero few)
  case verified =>
    exact fun _ =>
      List.forall_mem_cons.mpr ⟨verifies, forall_parts group.untouched group.verified opened⟩
  case pshLast =>
    intro i other found
    have behind := group.joined.parts_pos
    change tcpFlags item.key.isV6 other = if i + 1 = parts.length + 1 ∧ item.pshSet = true then _ else _
    cases i with
    | zero =>
      rw [← Option.some.inj found, if_neg (by omega)]
      exact prepends.noPsh
    | succ i =>
      rw [group.pshLast i other found]
      simp only [Nat.add_right_cancel_iff]
  case flags =>
    refine .inl ?_
    change tcpFlags item.key.isV6 _ = _
    rw [tcpFlags, agree.byteAt (by omega), ← tcpFlags]
    exact prepends.noPsh

end TcpGroup

/-! ## UDP groups -/

structure UdpGroup (parts : List (List UInt8)) (item : UdpGROItem) (cur : List UInt8) : Prop where
  iphLen : item.iphLen.toNat = ipHLen item.key.isV6
  joined : Joined (ipHLen item.key.isV6 + udpHLen) item.gsoSize.toNat parts cur
  merged : parts.length = item.numMerged.toNat + 1
  eligible : ∀ pkt ∈ parts, UdpEligible item.key.isV6 pkt
  sameHeader : ∀ pkt ∈ parts, SameUdpHeader item.key.isV6 pkt cur
  key : udpKeyOf item.key.isV6 cur = item.key
  untouched : item.numMerged = 0 → parts = [cur]
  verified : item.numMerged ≠ 0 → ∀ pkt ∈ parts, TransportVerifies item.key.isV6 ipProtoUdp pkt

structure UdpAppends (isV6 : Bool) (pkt : List UInt8) (item : UdpGROItem) (cur : List UInt8) :
    Prop where
  ip : ipHeadersCanCoalesce pkt cur = true
  full : (udpPayload isV6 cur).length % item.gsoSize.toNat = 0
  small : (udpPayload isV6 pkt).length ≤ item.gsoSize.toNat

def UdpGROItem.appended (item : UdpGROItem) : UdpGROItem :=
  { item with numMerged := item.numMerged + 1 }

@[simp] theorem UdpGROItem.appended_bufsIndex (item : UdpGROItem) :
    item.appended.bufsIndex = item.bufsIndex := rfl

@[simp] theorem UdpGROItem.appended_key (item : UdpGROItem) : item.appended.key = item.key := rfl

theorem udpKeyOf_congr {isV6 : Bool} {a b : List UInt8} (same : SameUdpHeader isV6 a b) :
    udpKeyOf isV6 a = udpKeyOf isV6 b := by
  simp only [udpKeyOf, same.src, same.dst, same.srcPort, same.dstPort]

namespace UdpGroup

variable {parts : List (List UInt8)} {item : UdpGROItem} {cur pkt : List UInt8}

theorem single {isV6 : Bool} (bufsIndex : Nat) (cSumKnownInvalid : Bool)
    (eligible : UdpEligible isV6 pkt) :
    UdpGroup [pkt] (udpItemOf isV6 pkt bufsIndex cSumKnownInvalid) pkt := by
  have payload := eligible.payload
  have size := UdpEligible.toNat_gsoSize eligible
  constructor
  case iphLen => cases isV6 <;> rfl
  case joined => exact .single payload size.symm
  case merged => rfl
  case eligible =>
    intro other member
    rw [List.mem_singleton.mp member]
    exact eligible
  case sameHeader =>
    intro other member
    rw [List.mem_singleton.mp member]
    exact .refl _ _
  case key => rfl
  case untouched => exact fun _ => rfl
  case verified => exact fun merged => (merged rfl).elim

theorem headers_lt (group : UdpGroup parts item cur) :
    ipHLen item.key.isV6 + udpHLen < cur.length := group.joined.headers_lt

theorem version (group : UdpGroup parts item cur) :
    ipVersion cur = if item.key.isV6 then 6 else 4 := by
  obtain ⟨first, found⟩ : ∃ first, first ∈ parts :=
    List.exists_mem_of_length_pos group.joined.parts_pos
  rw [← (group.sameHeader first found).version]
  exact (group.eligible first found).candidate.version

theorem gsoSize_pos (group : UdpGroup parts item cur) : 0 < item.gsoSize.toNat :=
  group.joined.segmented.size_pos

theorem append (group : UdpGroup parts item cur) (eligible : UdpEligible item.key.isV6 pkt)
    (key : udpKeyOf item.key.isV6 pkt = item.key) (appends : UdpAppends item.key.isV6 pkt item cur)
    (verifies : TransportVerifies item.key.isV6 ipProtoUdp pkt)
    (opened : item.numMerged = 0 → TransportVerifies item.key.isV6 ipProtoUdp cur)
    (few : item.numMerged.toNat + 1 < 65536) :
    UdpGroup (parts ++ [pkt]) item.appended (cur ++ udpPayload item.key.isV6 pkt) := by
  have long := group.headers_lt
  have payload := eligible.payload
  have header : udpHLen = 8 := rfl
  have agree : AgreeOn (· < cur.length) (cur ++ udpPayload item.key.isV6 pkt) cur :=
    fun _ inside => List.getElem?_append_left inside
  have same : SameUdpHeader item.key.isV6 (cur ++ udpPayload item.key.isV6 pkt) cur := by
    refine SameUdpHeader.of_agree (agree.mono fun i stable => ?_)
    rcases stable with ⟨inside, -⟩ | ⟨-, inside⟩ <;> omega
  have flow := udpKeyOf_eq (by omega) (by omega) (key.trans group.key.symm)
  have family := eligible.candidate.version
  have pktHeader : SameUdpHeader item.key.isV6 pkt cur :=
    ⟨ipHeadersCanCoalesce_sound appends.ip family (family.trans group.version.symm) flow,
      flow.srcPort, flow.dstPort⟩
  have merged := toNat_succ_merged few
  constructor
  case iphLen => exact group.iphLen
  case joined =>
    exact group.joined.append appends.full payload appends.small
      (List.drop_append_of_le_length long.le)
  case merged => simp [UdpGROItem.appended, merged, group.merged]
  case eligible => exact forall_mem_concat group.eligible eligible
  case sameHeader =>
    exact forall_mem_concat (fun other member => (group.sameHeader other member).trans same.symm)
      (pktHeader.trans same.symm)
  case key => exact (udpKeyOf_congr same).trans group.key
  case untouched => exact fun zero => absurd zero (succ_merged_ne_zero few)
  case verified =>
    exact fun _ => forall_mem_concat (forall_parts group.untouched group.verified opened) verifies

end UdpGroup

end QuincyTun.Linux
