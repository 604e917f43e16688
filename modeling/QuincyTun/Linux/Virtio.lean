import QuincyTun.Foundation.IoError

/-! The virtio-net header that precedes every packet on an offloading device. -/

set_option autoImplicit false

namespace QuincyTun.Linux

open QuincyTun.Foundation

def virtioNetHdrGsoNone : UInt8 := 0
def virtioNetHdrFNeedsCsum : UInt8 := 1
def virtioNetHdrGsoTcpv4 : UInt8 := 1
def virtioNetHdrGsoTcpv6 : UInt8 := 4
def virtioNetHdrGsoUdpL4 : UInt8 := 5

def ipProtoTcp : UInt8 := 6
def ipProtoUdp : UInt8 := 17

structure VirtioNetHdr where
  flags : UInt8
  gsoType : UInt8
  hdrLen : UInt16
  gsoSize : UInt16
  csumStart : UInt16
  csumOffset : UInt16
  deriving DecidableEq, Repr

def VirtioNetHdr.default : VirtioNetHdr := ⟨0, 0, 0, 0, 0, 0⟩

/-- The size of the header: two bytes and four 16-bit fields without padding. -/
def virtioNetHdrLen : Nat := 10

def nativeU16 (bigEndian : Bool) (value : UInt16) : List UInt8 :=
  if bigEndian then be16 value else (be16 value).reverse

def nativeU16At (bigEndian : Bool) (bytes : List UInt8) (i : Nat) : UInt16 :=
  if bigEndian then u16At bytes i else u16At (window bytes i 2).reverse 0

def VirtioNetHdr.layout (bigEndian : Bool) (hdr : VirtioNetHdr) : List UInt8 :=
  [hdr.flags, hdr.gsoType] ++ nativeU16 bigEndian hdr.hdrLen ++ nativeU16 bigEndian hdr.gsoSize ++
    nativeU16 bigEndian hdr.csumStart ++ nativeU16 bigEndian hdr.csumOffset

def VirtioNetHdr.decode (bigEndian : Bool) (buf : List UInt8) : Result VirtioNetHdr :=
  if buf.length < virtioNetHdrLen then invalidInput "too short"
  else .ok {
    flags := byteAt buf 0
    gsoType := byteAt buf 1
    hdrLen := nativeU16At bigEndian buf 2
    gsoSize := nativeU16At bigEndian buf 4
    csumStart := nativeU16At bigEndian buf 6
    csumOffset := nativeU16At bigEndian buf 8 }

def VirtioNetHdr.encode (bigEndian : Bool) (hdr : VirtioNetHdr) (buf : List UInt8) :
    Result (List UInt8) :=
  if buf.length < virtioNetHdrLen then invalidInput "too short"
  else .ok (overwrite buf 0 (hdr.layout bigEndian))

@[simp] theorem VirtioNetHdr.length_layout (bigEndian : Bool) (hdr : VirtioNetHdr) :
    (hdr.layout bigEndian).length = virtioNetHdrLen := by
  cases bigEndian <;> rfl

theorem VirtioNetHdr.layout_default (bigEndian : Bool) :
    VirtioNetHdr.default.layout bigEndian = List.replicate virtioNetHdrLen 0 := by
  cases bigEndian <;> rfl

/-- Decoding reads back what encoding wrote, on machines of either byte order. -/
theorem VirtioNetHdr.decode_layout (bigEndian : Bool) (hdr : VirtioNetHdr) :
    VirtioNetHdr.decode bigEndian (hdr.layout bigEndian) = .ok hdr := by
  have word : ∀ value : UInt16,
      u16At [UInt8.ofNat (value.toNat / 256), value.toUInt8] 0 = value := u16At_be16
  have tail : ∀ (a : UInt8) (rest : List UInt8) (i : Nat),
      u16At (a :: rest) (i + 1) = u16At rest i := by
    intro a rest i
    exact u16At_congr (by simp [byteAt]) (by simp [byteAt])
  have front : ∀ (a b : UInt8) (rest : List UInt8), u16At (a :: b :: rest) 0 = u16At [a, b] 0 := by
    intro a b rest
    exact u16At_congr (by simp [byteAt]) (by simp [byteAt])
  rw [decode, if_neg (by simp)]
  cases bigEndian
  · simp [layout, nativeU16, nativeU16At, be16, byteAt, window, word]
  · simp [layout, nativeU16, nativeU16At, be16, byteAt, tail, front, word]

end QuincyTun.Linux
