import SelfTestCode.Framework.Bytes

/-!
# The layout of a segment

A segment begins with a `struct memory_info`; the table of `struct stream_info` and the payload
follow at the offsets it gives.  Offsets and sizes are those a 64-bit compiler gives the structs of
`smem.h`: `memory_info` has four bytes of padding behind `index` and takes 48 bytes, `stream_info`
takes 2072, of which the last 2048 are the union.  The two members of the union have the same
shape, three `int`s and the size of the extradata, so that 2032 bytes are left for the extradata.
-/

namespace SelfTestCode.Device

/-! ## Buffers -/

/-- A buffer whose size is an `int`. -/
structure Buffer where
  bytes : List UInt8
  length_lt : bytes.length < 2 ^ 31

def Buffer.empty : Buffer := ⟨[], by decide⟩

/-- The size field beside the pointer. -/
def Buffer.size (b : Buffer) : Int32 := Int32.ofNat b.bytes.length

@[ext] lemma Buffer.ext {a b : Buffer} (h : a.bytes = b.bytes) : a = b := by
  cases a
  cases b
  cases h
  rfl

@[simp] lemma toInt_ofNat {n : ℕ} (hn : n < 2 ^ 31) : (Int32.ofNat n).toInt = n :=
  Int32.toInt_ofNat_of_lt hn

@[simp] lemma Buffer.toInt_size (b : Buffer) : b.size.toInt = b.bytes.length :=
  toInt_ofNat b.length_lt

/-- Some bytes as a buffer. -/
def Buffer.ofList (bytes : List UInt8) : Option Buffer :=
  if h : bytes.length < 2 ^ 31 then some ⟨bytes, h⟩ else none

/-- The buffer that holds `size` bytes from `off` on. -/
def loadBuffer (m : List UInt8) (off : ℕ) (size : Int32) : Option Buffer :=
  (load m off size.toInt.toNat).bind Buffer.ofList

lemma loadBuffer_eq_some_iff {m : List UInt8} {off : ℕ} {size : Int32} {b : Buffer} :
    loadBuffer m off size = some b ↔ load m off size.toInt.toNat = some b.bytes := by
  rw [loadBuffer, Option.bind_eq_some_iff]
  constructor
  · rintro ⟨bytes, hload, hof⟩
    rw [Buffer.ofList, Option.dite_none_right_eq_some] at hof
    obtain ⟨_, hb⟩ := hof
    rw [hload, ← Option.some.inj hb]
  · intro h
    exact ⟨b.bytes, h, dif_pos b.length_lt⟩

lemma loadBuffer_of_holds {m : List UInt8} {off : ℕ} {b : Buffer} (h : Holds m off b.bytes) :
    loadBuffer m off b.size = some b := by
  rw [loadBuffer_eq_some_iff, Buffer.toInt_size, Int.toNat_natCast]
  exact h.load

/-! ## `struct memory_info` -/

structure MemoryInfo where
  index : Int32
  pts : Int64
  dts : Int64
  streamInfoOffset : Int32
  streamInfoNumber : Int32
  dataOffset : Int32
  dataSize : Int32
  isKey : Int32
  id : Int32

/-- `sizeof(struct memory_info)`. -/
def sizeofMemoryInfo : ℕ := 48

/-- The struct in memory; the padding is zero, as `memset` left it. -/
def MemoryInfo.bytes (info : MemoryInfo) : List UInt8 :=
  encodeInts [info.index, 0] ++ (encodeInt64 info.pts ++ (encodeInt64 info.dts ++
    encodeInts [info.streamInfoOffset, info.streamInfoNumber, info.dataOffset, info.dataSize,
      info.isKey, info.id]))

/-- The struct at the beginning of a segment. -/
def MemoryInfo.read (m : List UInt8) : Option MemoryInfo := do
  return {
    index := ← loadInt32 m 0
    pts := ← loadInt64 m 8
    dts := ← loadInt64 m 16
    streamInfoOffset := ← loadInt32 m 24
    streamInfoNumber := ← loadInt32 m 28
    dataOffset := ← loadInt32 m 32
    dataSize := ← loadInt32 m 36
    isKey := ← loadInt32 m 40
    id := ← loadInt32 m 44 }

@[simp] lemma MemoryInfo.length_bytes (info : MemoryInfo) : info.bytes.length = 48 := by
  simp [MemoryInfo.bytes]

lemma MemoryInfo.read_of_holds {m : List UInt8} {info : MemoryInfo} (h : Holds m 0 info.bytes) :
    MemoryInfo.read m = some info := by
  have hhead := h.left
  have hpts := h.right
  have hdts := hpts.right
  have hrest := hdts.right
  simp only [length_encodeInts, length_encodeInt64, List.length_cons, List.length_nil] at *
  have h0 := hhead.loadInts 0 rfl
  have h8 := hpts.left.loadInt64
  have h16 := hdts.left.loadInt64
  have h24 := hrest.loadInts 0 rfl
  have h28 := hrest.loadInts 1 rfl
  have h32 := hrest.loadInts 2 rfl
  have h36 := hrest.loadInts 3 rfl
  have h40 := hrest.loadInts 4 rfl
  have h44 := hrest.loadInts 5 rfl
  simp only [Nat.reduceAdd, Nat.reduceMul] at h0 h8 h16 h24 h28 h32 h36 h40 h44
  simp only [MemoryInfo.read, h0, h8, h16, h24, h28, h32, h36, h40, h44]
  rfl

/-! ## `struct stream_info` -/

structure AVRational where
  num : Int32
  den : Int32
  deriving DecidableEq, Repr

/-- The part of `struct stream_info` before the extradata. -/
structure StreamInfo where
  index : Int32
  codecType : Int32
  codecId : Int32
  streamId : Int32
  timeBase : AVRational
  /-- `width`, or `sample_rate`. -/
  first : Int32
  /-- `height`, or `channels`. -/
  second : Int32
  /-- `pix_fmt`, or `sample_fmt`. -/
  format : Int32
  extradataSize : Int32

/-- `sizeof(struct stream_info)`. -/
def sizeofStreamInfo : ℕ := 2072

/-- The offset of the extradata in a `stream_info`. -/
def extradataOffset : ℕ := 40

/-- The bytes of the union behind that offset. -/
def extradataRoom : ℕ := 2032

def StreamInfo.bytes (info : StreamInfo) : List UInt8 :=
  encodeInts [info.index, info.codecType, info.codecId, info.streamId, info.timeBase.num,
    info.timeBase.den, info.first, info.second, info.format, info.extradataSize]

/-- The struct at the beginning of a record. -/
def StreamInfo.read (m : List UInt8) : Option StreamInfo := do
  return {
    index := ← loadInt32 m 0
    codecType := ← loadInt32 m 4
    codecId := ← loadInt32 m 8
    streamId := ← loadInt32 m 12
    timeBase := ⟨← loadInt32 m 16, ← loadInt32 m 20⟩
    first := ← loadInt32 m 24
    second := ← loadInt32 m 28
    format := ← loadInt32 m 32
    extradataSize := ← loadInt32 m 36 }

@[simp] lemma StreamInfo.length_bytes (info : StreamInfo) :
    info.bytes.length = extradataOffset := by
  rw [StreamInfo.bytes, length_encodeInts]
  rfl

lemma StreamInfo.read_of_holds {m : List UInt8} {info : StreamInfo} (h : Holds m 0 info.bytes) :
    StreamInfo.read m = some info := by
  have h0 := h.loadInts 0 rfl
  have h4 := h.loadInts 1 rfl
  have h8 := h.loadInts 2 rfl
  have h12 := h.loadInts 3 rfl
  have h16 := h.loadInts 4 rfl
  have h20 := h.loadInts 5 rfl
  have h24 := h.loadInts 6 rfl
  have h28 := h.loadInts 7 rfl
  have h32 := h.loadInts 8 rfl
  have h36 := h.loadInts 9 rfl
  simp only [Nat.reduceAdd, Nat.reduceMul] at h0 h4 h8 h12 h16 h20 h24 h28 h32 h36
  simp only [StreamInfo.read, h0, h4, h8, h12, h16, h20, h24, h28, h32, h36]
  rfl

/-- Every record has the `int`s of the struct. -/
lemma StreamInfo.exists_read {m : List UInt8} (h : extradataOffset ≤ m.length) :
    ∃ info, StreamInfo.read m = some info := by
  unfold extradataOffset at h
  have hint : ∀ off, off + 4 ≤ 40 → ∃ x, loadInt32 m off = some x := by
    intro off hoff
    obtain ⟨bytes, hload⟩ := exists_load (hoff.trans h)
    exact ⟨decodeInt32 bytes, by rw [loadInt32, hload, Option.map_some]⟩
  obtain ⟨x0, h0⟩ := hint 0 (by decide)
  obtain ⟨x4, h4⟩ := hint 4 (by decide)
  obtain ⟨x8, h8⟩ := hint 8 (by decide)
  obtain ⟨x12, h12⟩ := hint 12 (by decide)
  obtain ⟨x16, h16⟩ := hint 16 (by decide)
  obtain ⟨x20, h20⟩ := hint 20 (by decide)
  obtain ⟨x24, h24⟩ := hint 24 (by decide)
  obtain ⟨x28, h28⟩ := hint 28 (by decide)
  obtain ⟨x32, h32⟩ := hint 32 (by decide)
  obtain ⟨x36, h36⟩ := hint 36 (by decide)
  simp only [StreamInfo.read, h0, h4, h8, h12, h16, h20, h24, h28, h32, h36]
  exact ⟨_, rfl⟩

end SelfTestCode.Device
