import QuincyTun.Foundation.Bytes
import QuincyTun.Foundation.OsCall

/-! Packets through the descriptor of a BSD or macOS device, in one buffer or in several.

The kernel puts the address family in front of every packet. It is written and
stripped here when the caller does not want to see it. The system calls are
parameters; a vectored call is assumed to treat its buffers as their concatenation.
-/

set_option autoImplicit false

namespace QuincyTun.Unix

open QuincyTun.Foundation

def maxIov : Nat := 1024

def packetInformationLength : Nat := 4

structure PacketDevice (σ : Type) where
  afInet : UInt32
  afInet6 : UInt32
  write : List UInt8 → OsCall σ Nat
  writev : List (List UInt8) → OsCall σ Nat
  /-- What a call puts at the front of a buffer of some size. -/
  read : Nat → OsCall σ (List UInt8)
  readv : List Nat → OsCall σ (List UInt8)

structure PacketDevice.Concatenates {σ : Type} (device : PacketDevice σ) : Prop where
  writev : ∀ bufs, device.writev bufs = device.write bufs.flatten
  readv : ∀ sizes, device.readv sizes = device.read sizes.sum

variable {σ : Type}

def scatter : List (List UInt8) → List UInt8 → List (List UInt8)
  | [], _ => []
  | buf :: bufs, bytes =>
    overwrite buf 0 (bytes.take buf.length) :: scatter bufs (bytes.drop buf.length)

/-! ## The descriptor -/

def PacketDevice.readInto (device : PacketDevice σ) (buf : List UInt8) :
    OsCall σ (Nat × List UInt8) := do
  let bytes ← device.read buf.length
  return (bytes.length, overwrite buf 0 bytes)

def PacketDevice.readvInto (device : PacketDevice σ) (bufs : List (List UInt8)) :
    OsCall σ (Nat × List (List UInt8)) :=
  if bufs.length > maxIov then OsCall.ofResult (errorOf .invalidInput)
  else do
    let bytes ← device.readv (bufs.map List.length)
    return (bytes.length, scatter bufs bytes)

def PacketDevice.writevFrom (device : PacketDevice σ) (bufs : List (List UInt8)) : OsCall σ Nat :=
  if bufs.length > maxIov then OsCall.ofResult (errorOf .invalidInput) else device.writev bufs

/-! ## Packets -/

/-- The protocol is read from the first nibble. -/
def isIpv6 (buf : List UInt8) : Result Bool :=
  match buf with
  | [] => invalidData "Zero-length data"
  | first :: _ =>
    if first >>> 4 = 4 then .ok false
    else if first >>> 4 = 6 then .ok true
    else
      let p := first >>> 4
      invalidData s!"IP version {p}"

structure Tun (σ : Type) where
  fd : PacketDevice σ
  ignorePacketInformation : Bool

def Tun.generatePacketInformation (tun : Tun σ) (ipv6 : Bool) : List UInt8 :=
  if ipv6 then be32 tun.fd.afInet6 else be32 tun.fd.afInet

def Tun.send (tun : Tun σ) (buf : List UInt8) : OsCall σ Nat :=
  if tun.ignorePacketInformation then do
    let ipv6 ← OsCall.ofResult (isIpv6 buf)
    let header := tun.generatePacketInformation ipv6
    let len ← tun.fd.writevFrom [header, buf]
    return len - packetInformationLength
  else tun.fd.write buf

def Tun.sendVectored (tun : Tun σ) (bufs : List (List UInt8)) : OsCall σ Nat :=
  if tun.ignorePacketInformation then
    if maxIov - 1 < bufs.length then OsCall.ofResult (errorOf .invalidInput)
    else do
      -- The first byte of the packet is in the first buffer that has any.
      let buf := (bufs.find? (!·.isEmpty)).getD []
      let ipv6 ← OsCall.ofResult (isIpv6 buf)
      let head := tun.generatePacketInformation ipv6
      let len ← tun.fd.writevFrom (head :: bufs)
      return len - packetInformationLength
  else tun.fd.writevFrom bufs

def Tun.recv (tun : Tun σ) (buf : List UInt8) : OsCall σ (Nat × List UInt8) :=
  if tun.ignorePacketInformation then do
    let head := List.replicate packetInformationLength 0
    let (len, bufs) ← tun.fd.readvInto [head, buf]
    return (len - packetInformationLength, (bufs[1]?).getD [])
  else tun.fd.readInto buf

def Tun.recvVectored (tun : Tun σ) (bufs : List (List UInt8)) :
    OsCall σ (Nat × List (List UInt8)) :=
  if tun.ignorePacketInformation then
    if maxIov - 1 < bufs.length then OsCall.ofResult (errorOf .invalidInput)
    else do
      let head := List.replicate packetInformationLength 0
      let (len, block) ← tun.fd.readvInto (head :: bufs)
      return (len - packetInformationLength, block.tail)
  else tun.fd.readvInto bufs

/-! ## Buffers and their concatenation -/

theorem scatter_lengths (bufs : List (List UInt8)) (bytes : List UInt8) :
    (scatter bufs bytes).map List.length = bufs.map List.length := by
  induction bufs generalizing bytes with
  | nil => rfl
  | cons buf bufs ih => simp only [scatter, List.map_cons, length_overwrite, ih]

theorem overwrite_append (xs ys source : List UInt8) :
    overwrite (xs ++ ys) 0 source =
      overwrite xs 0 (source.take xs.length) ++ overwrite ys 0 (source.drop xs.length) := by
  induction xs generalizing source with
  | nil => rfl
  | cons x xs ih =>
    cases source with
    | nil => simp
    | cons byte source => simp [overwrite, ih]

theorem overwrite_take (xs source : List UInt8) :
    overwrite xs 0 (source.take xs.length) = overwrite xs 0 source := by
  have whole := overwrite_append xs [] source
  rw [List.append_nil] at whole
  rw [whole, overwrite, List.append_nil]

theorem scatter_flatten (bufs : List (List UInt8)) (bytes : List UInt8) :
    (scatter bufs bytes).flatten = overwrite bufs.flatten 0 bytes := by
  induction bufs generalizing bytes with
  | nil => rfl
  | cons buf bufs ih =>
    rw [scatter, List.flatten_cons, List.flatten_cons, ih, overwrite_append]

/-- The first buffer with a byte decides about the version as the whole packet does. -/
theorem isIpv6_first (bufs : List (List UInt8)) :
    isIpv6 ((bufs.find? (!·.isEmpty)).getD []) = isIpv6 bufs.flatten := by
  induction bufs with
  | nil => rfl
  | cons buf bufs ih =>
    cases buf with
    | nil => exact ih
    | cons first rest => rfl

/-! ## One buffer and several -/

/-- The two receiving calls agree: same count and errors, same effect on the system, and the
buffers hold together what one buffer would hold. -/
def ReceivesAlike (tun : Tun σ) (bufs : List (List UInt8)) (s : σ) : Prop :=
  match (tun.recv bufs.flatten).on s with
  | (.error error, after) => (tun.recvVectored bufs).on s = (.error error, after)
  | (.ok (count, buf), after) => ∃ parts,
      (tun.recvVectored bufs).on s = (.ok (count, parts), after) ∧ parts.flatten = buf ∧
        parts.map List.length = bufs.map List.length

section Descriptor

variable {device : PacketDevice σ} (concatenates : device.Concatenates)
include concatenates

theorem writevFrom_eq {bufs : List (List UInt8)} (few : bufs.length ≤ maxIov) :
    device.writevFrom bufs = device.write bufs.flatten := by
  rw [PacketDevice.writevFrom, if_neg (by omega), concatenates.writev]

theorem readvInto_eq {bufs : List (List UInt8)} (few : bufs.length ≤ maxIov) :
    device.readvInto bufs = do
      let bytes ← device.read bufs.flatten.length
      return (bytes.length, scatter bufs bytes) := by
  rw [PacketDevice.readvInto, if_neg (by omega), concatenates.readv, List.length_flatten]

end Descriptor

section Vectored

variable {tun : Tun σ} {bufs : List (List UInt8)} (concatenates : tun.fd.Concatenates)
  (few : bufs.length < maxIov)
include concatenates few

theorem sendVectored_eq : tun.sendVectored bufs = tun.send bufs.flatten := by
  unfold Tun.sendVectored Tun.send
  split
  · rw [if_neg (by omega)]
    dsimp only
    rw [isIpv6_first]
    congr 1
    funext ipv6
    have two : [tun.generatePacketInformation ipv6, bufs.flatten].length ≤ maxIov := by
      simp [maxIov]
    rw [writevFrom_eq concatenates (by rw [List.length_cons]; omega),
      writevFrom_eq concatenates two]
    simp only [List.flatten_cons, List.flatten_nil, List.append_nil]
  · rw [writevFrom_eq concatenates few.le]

theorem receivesAlike (s : σ) : ReceivesAlike tun bufs s := by
  unfold ReceivesAlike
  cases ignored : tun.ignorePacketInformation with
  | true =>
    -- Both functions read the header into a buffer of its own, and into the same total length.
    have two : [List.replicate packetInformationLength 0, bufs.flatten].length ≤ maxIov := by
      simp [maxIov]
    have together : [List.replicate packetInformationLength 0, bufs.flatten].flatten =
        (List.replicate packetInformationLength 0 :: bufs).flatten := by simp
    have plain : tun.recv bufs.flatten = do
        let (len, block) ← tun.fd.readvInto [List.replicate packetInformationLength 0, bufs.flatten]
        return (len - packetInformationLength, (block[1]?).getD []) := by
      rw [Tun.recv, if_pos ignored]
    have vectored : tun.recvVectored bufs = do
        let (len, block) ← tun.fd.readvInto (List.replicate packetInformationLength 0 :: bufs)
        return (len - packetInformationLength, block.tail) := by
      rw [Tun.recvVectored, if_pos ignored, if_neg (by omega)]
    rw [plain, vectored, readvInto_eq concatenates two,
      readvInto_eq concatenates (by rw [List.length_cons]; omega), together]
    simp only [OsCall.on_bind]
    rcases (tun.fd.read (List.replicate packetInformationLength 0 :: bufs).flatten.length).on s
      with ⟨error | bytes, after⟩
    · rfl
    · -- What `recv` returns is the second of its two buffers, with the rest of the caller's behind.
      refine ⟨scatter bufs (bytes.drop packetInformationLength), rfl, ?_, scatter_lengths _ _⟩
      rw [scatter_flatten]
      exact (overwrite_take _ _).symm
  | false =>
    have plain : tun.recv bufs.flatten = tun.fd.readInto bufs.flatten := by
      rw [Tun.recv, ignored]
      rfl
    have vectored : tun.recvVectored bufs = tun.fd.readvInto bufs := by
      rw [Tun.recvVectored, ignored]
      rfl
    rw [plain, vectored, readvInto_eq concatenates few.le, PacketDevice.readInto]
    rw [OsCall.on_bind, OsCall.on_bind]
    rcases (tun.fd.read bufs.flatten.length).on s with ⟨error | bytes, after⟩
    · rfl
    · exact ⟨scatter bufs bytes, rfl, scatter_flatten bufs bytes, scatter_lengths bufs bytes⟩

theorem sendVectored_header {ipv6 : Bool} (ignored : tun.ignorePacketInformation = true)
    (version : isIpv6 bufs.flatten = .ok ipv6) :
    tun.sendVectored bufs = do
      let len ← tun.fd.write (tun.generatePacketInformation ipv6 ++ bufs.flatten)
      return len - packetInformationLength := by
  have two : [tun.generatePacketInformation ipv6, bufs.flatten].length ≤ maxIov := by
    simp [maxIov]
  rw [sendVectored_eq concatenates few, Tun.send, if_pos ignored, version]
  change (do
    let len ← tun.fd.writevFrom [tun.generatePacketInformation ipv6, bufs.flatten]
    return len - packetInformationLength) = _
  rw [writevFrom_eq concatenates two, List.flatten_cons, List.flatten_cons, List.flatten_nil,
    List.append_nil]

end Vectored

/-- Sending and receiving in several buffers is sending and receiving in their concatenation. -/
theorem vectored_agrees (tun : Tun σ) (concatenates : tun.fd.Concatenates)
    (bufs : List (List UInt8)) (few : bufs.length < maxIov) :
    (∀ s, (tun.sendVectored bufs).on s = (tun.send bufs.flatten).on s) ∧
    (∀ s, ReceivesAlike tun bufs s) ∧
    (∀ ipv6, tun.ignorePacketInformation = true → isIpv6 bufs.flatten = .ok ipv6 →
      tun.sendVectored bufs = do
        let len ← tun.fd.write (tun.generatePacketInformation ipv6 ++ bufs.flatten)
        return len - packetInformationLength) :=
  ⟨fun _ => by rw [sendVectored_eq concatenates few], receivesAlike concatenates few,
    fun _ => sendVectored_header concatenates few⟩

def loopback : PacketDevice (List (List UInt8)) where
  afInet := 2
  afInet6 := 28
  write bytes := do
    modify (· ++ [bytes])
    return bytes.length
  writev bufs := do
    modify (· ++ [bufs.flatten])
    return bufs.flatten.length
  read size := do
    let packets ← get
    set packets.tail
    return (packets.headD []).take size
  readv sizes := do
    let packets ← get
    set packets.tail
    return (packets.headD []).take sizes.sum

theorem vectored_agrees_loopback :
    ((⟨loopback, true⟩ : Tun _).sendVectored [[], [0x45, 1], [], [2]]).on [] =
        ((⟨loopback, true⟩ : Tun _).send [0x45, 1, 2]).on [] ∧
      ReceivesAlike ⟨loopback, true⟩ [[0, 0], [], [0]] [[0, 0, 0, 2, 0x45, 1, 2]] := by
  have concatenates : loopback.Concatenates := ⟨fun _ => rfl, fun _ => rfl⟩
  exact ⟨(vectored_agrees ⟨loopback, true⟩ concatenates [[], [0x45, 1], [], [2]] (by decide)).1 _,
    (vectored_agrees ⟨loopback, true⟩ concatenates [[0, 0], [], [0]] (by decide)).2.1 _⟩

example : ((⟨loopback, true⟩ : Tun _).sendVectored [[], [0x45, 1], [2]]).on [] =
    (.ok 3, [[0, 0, 0, 2, 0x45, 1, 2]]) := by decide

end QuincyTun.Unix
