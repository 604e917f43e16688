import QuincyTun.Foundation.Panic

/-! Packet buffers that can grow, and the vector of buffers of one batch.

A buffer never holds more bytes than its capacity. Growing beyond the capacity
reallocates; the new capacity is then at least the new length, and nothing in
this development depends on how much larger it is.
-/

set_option autoImplicit false

namespace QuincyTun.Linux

open QuincyTun.Foundation

@[ext] structure ExpandBuffer where
  bytes : List UInt8
  capacity : Nat
  fits : bytes.length ≤ capacity
  deriving DecidableEq, Repr

namespace ExpandBuffer

def bufCapacity (buf : ExpandBuffer) : Nat := buf.capacity

def bufResize (buf : ExpandBuffer) (newLen : Nat) (value : UInt8) : ExpandBuffer where
  bytes := buf.bytes.take newLen ++ List.replicate (newLen - buf.bytes.length) value
  capacity := max buf.capacity newLen
  fits := by simp only [List.length_append, List.length_take, List.length_replicate]; omega

def bufExtendFromSlice (buf : ExpandBuffer) (src : List UInt8) : ExpandBuffer where
  bytes := buf.bytes ++ src
  capacity := max buf.capacity (buf.bytes.length + src.length)
  fits := by simp

def overwritten (buf : ExpandBuffer) (start : Nat) (source : List UInt8) : ExpandBuffer where
  bytes := overwrite buf.bytes start source
  capacity := buf.capacity
  fits := by simpa using buf.fits

/-- `buf.as_mut()[start..start + source.len()].copy_from_slice(source)` -/
def write (buf : ExpandBuffer) (start : Nat) (source : List UInt8) : Run ExpandBuffer :=
  if start + source.length ≤ buf.bytes.length then .ok (buf.overwritten start source)
  else .error .outOfRange

@[simp] theorem bytes_overwritten (buf : ExpandBuffer) (start : Nat) (source : List UInt8) :
    (buf.overwritten start source).bytes = overwrite buf.bytes start source := rfl

@[simp] theorem capacity_overwritten (buf : ExpandBuffer) (start : Nat) (source : List UInt8) :
    (buf.overwritten start source).capacity = buf.capacity := rfl

theorem write_ok {buf : ExpandBuffer} {start : Nat} {source : List UInt8}
    (bound : start + source.length ≤ buf.bytes.length) :
    buf.write start source = .ok (buf.overwritten start source) := if_pos bound

theorem write_eq_ok {buf buf' : ExpandBuffer} {start : Nat} {source : List UInt8}
    (ran : buf.write start source = .ok buf') : buf' = buf.overwritten start source := by
  unfold write at ran
  split at ran
  · exact (Except.ok.inj ran).symm
  · cases ran

theorem bytes_bufExtendFromSlice (buf : ExpandBuffer) (src : List UInt8) :
    (buf.bufExtendFromSlice src).bytes = buf.bytes ++ src := rfl

theorem capacity_bufExtendFromSlice (buf : ExpandBuffer) (src : List UInt8)
    (room : buf.bytes.length + src.length ≤ buf.capacity) :
    (buf.bufExtendFromSlice src).capacity = buf.capacity := max_eq_left room

theorem overwritten_bufResize (buf : ExpandBuffer) (src : List UInt8) :
    (buf.bufResize (buf.bytes.length + src.length) 0).overwritten buf.bytes.length src =
      buf.bufExtendFromSlice src := by
  ext1
  · have room : buf.bytes.length + src.length - buf.bytes.length = src.length := by omega
    simp only [bytes_overwritten, bufResize, bytes_bufExtendFromSlice, room]
    rw [List.take_of_length_le (by omega), overwrite_eq_append _ _ _ (by simp)]
    simp
  · rfl

end ExpandBuffer

/-! ## The buffers of a batch -/

def updateBuffer (bufs : List ExpandBuffer) (i : Nat) (change : ExpandBuffer → Run ExpandBuffer) :
    Run (List ExpandBuffer) := do
  let buf ← index bufs i
  let buf ← change buf
  pure (bufs.set i buf)

def swapBuffers (bufs : List ExpandBuffer) (i j : Nat) : Run (List ExpandBuffer) := do
  let first ← index bufs i
  let second ← index bufs j
  pure ((bufs.set i second).set j first)

/-- `&bufs[i].as_ref()[offset..]` -/
def packetFrom (bufs : List ExpandBuffer) (i offset : Nat) : Run (List UInt8) := do
  let buf ← index bufs i
  sliceFrom buf.bytes offset

def capacityFrom (bufs : List ExpandBuffer) (i : Nat) : Run Nat := do
  let buf ← index bufs i
  pure buf.bufCapacity

/-- The packet in a buffer: its bytes from the offset on. -/
def packetAt (offset : Nat) (bufs : List ExpandBuffer) (i : Nat) : List UInt8 :=
  match bufs[i]? with
  | some buf => buf.bytes.drop offset
  | none => []

theorem packetAt_of_getElem? {offset : Nat} {bufs : List ExpandBuffer} {i : Nat}
    {buf : ExpandBuffer} (found : bufs[i]? = some buf) :
    packetAt offset bufs i = buf.bytes.drop offset := by
  rw [packetAt, found]

theorem length_packetAt_le {offset size : Nat} {bufs : List ExpandBuffer}
    (fit : ∀ buf ∈ bufs, buf.bytes.length ≤ size) (i : Nat) :
    (packetAt offset bufs i).length ≤ size := by
  rw [packetAt]
  cases found : bufs[i]? with
  | none => exact Nat.zero_le size
  | some buf =>
    have whole := fit buf (List.mem_of_getElem? found)
    rw [List.length_drop]
    omega

theorem packetAt_congr {offset : Nat} {bufs bufs' : List ExpandBuffer} {i j : Nat}
    (same : bufs[i]? = bufs'[j]?) : packetAt offset bufs i = packetAt offset bufs' j := by
  rw [packetAt, packetAt, same]

theorem packetFrom_congr {offset : Nat} {bufs bufs' : List ExpandBuffer} {i : Nat}
    (same : bufs'[i]? = bufs[i]?) : packetFrom bufs' i offset = packetFrom bufs i offset := by
  rw [packetFrom, packetFrom, index, index, same]

theorem packetFrom_ok {offset : Nat} {bufs : List ExpandBuffer} {i : Nat} {buf : ExpandBuffer}
    (found : bufs[i]? = some buf) (fits : offset ≤ buf.bytes.length) :
    packetFrom bufs i offset = .ok (buf.bytes.drop offset) := by
  rw [packetFrom, index_ok found, Run.ok_bind, sliceFrom_ok fits]

theorem capacityFrom_ok {bufs : List ExpandBuffer} {i : Nat} {buf : ExpandBuffer}
    (found : bufs[i]? = some buf) : capacityFrom bufs i = .ok buf.capacity := by
  rw [capacityFrom, index_ok found, Run.ok_bind]
  rfl

theorem updateBuffer_ok {bufs : List ExpandBuffer} {i : Nat} {buf buf' : ExpandBuffer}
    {change : ExpandBuffer → Run ExpandBuffer} (found : bufs[i]? = some buf)
    (changed : change buf = .ok buf') : updateBuffer bufs i change = .ok (bufs.set i buf') := by
  rw [updateBuffer, index_ok found, Run.ok_bind, changed, Run.ok_bind]
  rfl

theorem updateBuffer_pure {bufs : List ExpandBuffer} {i : Nat} {buf : ExpandBuffer}
    (found : bufs[i]? = some buf) (change : ExpandBuffer → ExpandBuffer) :
    (updateBuffer bufs i fun buf => pure (change buf)) = .ok (bufs.set i (change buf)) :=
  updateBuffer_ok found rfl

end QuincyTun.Linux
