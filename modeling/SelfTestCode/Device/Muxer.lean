import SelfTestCode.Client.Consumer
import SelfTestCode.Device.Formats
import SelfTestCode.Device.Layout

/-!
# The muxer

`smem_enc.c` of `ffmpeg-3.0.1`.  `ff_smem_write_header` builds the table of streams once; each
packet goes into a segment of its own, behind a `memory_info` and a copy of the table.

A result of `none` is an access outside an object: the table, the region of the segment that the
muxer asked for, or the data of the packet.  Nothing in the header loop compares the size of the
extradata with the room a record has, so a long extradata is written over the records behind it,
which the loop fills later; only the end of the table is the end of the object.
`writeStreamInfos_spec` says what stands in the table when the loop is done.
-/

namespace SelfTestCode.Device

open Broker (Reply)
open Client (smemGetShareMemory smemCreateProducer)

/-! ## Streams and packets -/

/-- The fields of `AVCodecContext` that the devices use. -/
structure AVCodecContext where
  codecType : AVMediaType
  codecId : AVCodecID
  timeBase : AVRational
  width : Int32
  height : Int32
  pixFmt : AVPixelFormat
  sampleRate : Int32
  channels : Int32
  sampleFmt : AVSampleFormat
  extradata : Buffer

structure AVStream where
  id : Int32
  codec : AVCodecContext

structure AVFormatContext where
  filename : String
  streams : List AVStream

/-- A packet; of the flags, `AV_PKT_FLAG_KEY`. -/
structure AVPacket where
  streamIndex : Int32
  pts : Int64
  dts : Int64
  key : Bool
  data : Buffer

/-- The error codes the devices return. -/
inductive AVError
  | eio
  deriving DecidableEq, Repr

/-- `av_malloc`, which refuses more than `INT_MAX - 32` bytes; a negative `int` arrives there as a
larger number. -/
def avMalloc (size : Int32) : Option (List UInt8) :=
  if 0 ≤ size ∧ size ≤ 2147483615 then some (List.replicate size.toInt.toNat 0) else none

/-- `memcpy` out of a block; a negative `int` is a size no block has. -/
def memcpyFrom (src : List UInt8) (off n : Int32) : Option (List UInt8) :=
  if 0 ≤ off ∧ 0 ≤ n then load src off.toInt.toNat n.toInt.toNat else none

/-- `memcpy` into a block. -/
def memcpyTo (dst : List UInt8) (off : Int32) (data : List UInt8) : Option (List UInt8) :=
  if 0 ≤ off then store dst off.toInt.toNat data else none

/-- `stream_number * sizeof(struct stream_info)` as an `int`. -/
def tableSize (streamNumber : Int32) : Int32 :=
  Int32.ofInt (streamNumber.toInt * sizeofStreamInfo)

/-- `stream_infos[index]`. -/
def streamInfoAt (streamInfos : List UInt8) (index : Int32) : Option (List UInt8) :=
  if 0 ≤ index then load streamInfos (index.toInt.toNat * sizeofStreamInfo) sizeofStreamInfo
  else none

/-! ## The header -/

/-- The fields of `struct smem_enc_ctx` that the packets use. -/
structure SmemEncCtx where
  streamNumber : Int32
  streamInfos : List UInt8
  streamInfoSize : Int32
  picSize : Int32

/-- The `int`s of record number `n`; there are none for a type the muxer does not support. -/
def streamInfoOf (n : ℕ) (stream : AVStream) : Option StreamInfo :=
  let c := stream.codec
  match c.codecType with
  | .audio => some {
      index := .ofNat n
      codecType := SMemMediaType.audio.value
      codecId := av2smemCodecId c.codecId
      streamId := stream.id
      timeBase := c.timeBase
      first := c.sampleRate
      second := c.channels
      format := av2smemSampleFmt c.sampleFmt
      extradataSize := c.extradata.size }
  | .video => some {
      index := .ofNat n
      codecType := SMemMediaType.video.value
      codecId := av2smemCodecId c.codecId
      streamId := stream.id
      timeBase := c.timeBase
      first := c.width
      second := c.height
      format := av2smemPixFmt c.pixFmt
      extradataSize := c.extradata.size }
  | _ => none

/-- Record number `n` and its extradata are written into the table. -/
def writeStreamInfo (n : ℕ) (info : StreamInfo) (extradata : Buffer) (table : List UInt8) :
    Option (List UInt8) := do
  let table ← store table (n * sizeofStreamInfo) info.bytes
  if 0 < extradata.size then
    store table (n * sizeofStreamInfo + extradataOffset) extradata.bytes
  else return table

section Header

-- `av_image_get_buffer_size` of `libavutil`, for the alignment 1
variable (avImageGetBufferSize : AVPixelFormat → Int32 → Int32 → Int32)

/-- The loop of `ff_smem_write_header`, from stream number `n` on. -/
def writeStreamInfos : ℕ → List AVStream → SmemEncCtx → Option (Except AVError SmemEncCtx)
  | _, [], ctx => some (.ok ctx)
  | n, stream :: streams, ctx =>
    match streamInfoOf n stream with
    | none => do
      -- `index` and `stream_id` are written before the type is looked at
      let _ ← load ctx.streamInfos (n * sizeofStreamInfo) 16
      return .error .eio
    | some info => do
      let c := stream.codec
      let table ← writeStreamInfo n info c.extradata ctx.streamInfos
      let picSize := if c.codecType = .video then avImageGetBufferSize c.pixFmt c.width c.height
        else ctx.picSize
      writeStreamInfos (n + 1) streams { ctx with streamInfos := table, picSize := picSize }

/-- `ff_smem_write_header`, on a connection that succeeds.  The table is cleared before the test
whether `av_malloc` returned one. -/
def ffSmemWriteHeader (avctx : AVFormatContext) : Option (Except AVError SmemEncCtx) :=
  if avctx.filename = "" then some (.error .eio)
  else
    let streamNumber := Int32.ofNat avctx.streams.length
    if 0 < streamNumber then do
      let streamInfos ← avMalloc (tableSize streamNumber)
      writeStreamInfos avImageGetBufferSize 0 avctx.streams
        ⟨streamNumber, streamInfos, tableSize streamNumber, 0⟩
    else writeStreamInfos avImageGetBufferSize 0 avctx.streams ⟨streamNumber, [], 0, 0⟩

end Header

/-! ## Packets -/

/-- What the muxer calls: the server, and the attachment of segments. -/
structure MuxerEnv where
  /-- The reply to `SMEMGET size`. -/
  redisCommand : Int32 → Option Reply
  /-- The bytes of a segment, if it can be attached. -/
  shmat : Int32 → Option (List UInt8)
  /-- Whether the segment could be detached. -/
  shmdt : Int32 → Bool

/-- What became of a packet. -/
inductive Written
  | skipped
  | kept
  | published (memId : Int32) (segment : List UInt8)

/-- The bytes the muxer asks the server for. -/
def memSizeOf (ctx : SmemEncCtx) (bufSize : Int32) : Int32 :=
  Int32.ofNat sizeofMemoryInfo + ctx.streamInfoSize + bufSize

/-- The header of the segment of a packet. -/
def memoryInfoOf (memId bufSize : Int32) (ctx : SmemEncCtx) (pkt : AVPacket) : MemoryInfo where
  id := memId
  index := pkt.streamIndex
  pts := pkt.pts
  dts := pkt.dts
  streamInfoOffset := Int32.ofNat sizeofMemoryInfo
  streamInfoNumber := ctx.streamNumber
  dataOffset := Int32.ofNat sizeofMemoryInfo + ctx.streamInfoSize
  dataSize := bufSize
  isKey := if pkt.key then 1 else 0

/-- The segment after the header, the table and `bufSize` bytes of the packet were written into the
part of it that the muxer asked for. -/
def fillSegment (memId bufSize : Int32) (ctx : SmemEncCtx) (pkt : AVPacket)
    (segment : List UInt8) : Option (List UInt8) := do
  let memSize := memSizeOf ctx bufSize
  -- `memset`
  let _ ← memcpyFrom segment 0 memSize
  let region := List.replicate memSize.toInt.toNat 0
  let info := memoryInfoOf memId bufSize ctx pkt
  let region ← store region 0 info.bytes
  let streamInfos ← memcpyFrom ctx.streamInfos 0 ctx.streamInfoSize
  let region ← memcpyTo region info.streamInfoOffset streamInfos
  let data ← memcpyFrom pkt.data.bytes 0 info.dataSize
  let region ← memcpyTo region info.dataOffset data
  -- the log line prints the time base of the stream
  let _ ← streamInfoAt ctx.streamInfos pkt.streamIndex
  return region ++ segment.drop memSize.toInt.toNat

/-- `ff_smem_write_video_packet` and `ff_smem_write_audio_packet`, which differ in the size they
take for the payload. -/
def writePacketOf (bufSize : Int32) (env : MuxerEnv) (ctx : SmemEncCtx) (pkt : AVPacket) :
    Option Written :=
  let memId :=
    (smemGetShareMemory env.redisCommand smemCreateProducer (memSizeOf ctx bufSize)).1
  if memId = -1 then some .skipped
  else match env.shmat memId with
    | none => some .skipped
    | some segment =>
      (fillSegment memId bufSize ctx pkt segment).map fun segment =>
        if env.shmdt memId then .published memId segment else .kept

def ffSmemWriteVideoPacket (env : MuxerEnv) (ctx : SmemEncCtx) (pkt : AVPacket) : Option Written :=
  writePacketOf ctx.picSize env ctx pkt

def ffSmemWriteAudioPacket (env : MuxerEnv) (ctx : SmemEncCtx) (pkt : AVPacket) : Option Written :=
  writePacketOf pkt.data.size env ctx pkt

/-- `ff_smem_write_packet`. -/
def ffSmemWritePacket (env : MuxerEnv) (avctx : AVFormatContext) (ctx : SmemEncCtx)
    (pkt : AVPacket) : Option (Except AVError Written) := do
  let st ← if 0 ≤ pkt.streamIndex then avctx.streams[pkt.streamIndex.toInt.toNat]? else none
  match st.codec.codecType with
  | .video =>
    if st.codec.codecId = .rawvideo then (ffSmemWriteVideoPacket env ctx pkt).map .ok
    else (ffSmemWriteAudioPacket env ctx pkt).map .ok
  | .audio => (ffSmemWriteAudioPacket env ctx pkt).map .ok
  | _ => return .error .eio

/-! ## One record -/

section Record

variable {n : ℕ} {info : StreamInfo} {extradata : Buffer} {table table' : List UInt8}

/-- A record stands where it was written, with its extradata, and nothing before it changes. -/
lemma writeStreamInfo_spec (h : writeStreamInfo n info extradata table = some table') :
    table'.length = table.length ∧
      Holds table' (n * sizeofStreamInfo) (info.bytes ++ extradata.bytes) ∧
      ∀ off data, Holds table off data → off + data.length ≤ n * sizeofStreamInfo →
        Holds table' off data := by
  obtain ⟨table₁, h₁, h₂⟩ := Option.bind_eq_some_iff.mp h
  have hinfo := Holds.of_store h₁
  split at h₂
  · refine ⟨(store_length h₂).trans (store_length h₁), ?_, ?_⟩
    · apply Holds.append
      · apply hinfo.store_after h₂
        rw [StreamInfo.length_bytes]
      · rw [StreamInfo.length_bytes]
        exact Holds.of_store h₂
    · intro off data hold hle
      exact (hold.store_after h₁ hle).store_after h₂ (Nat.le_add_right_of_le hle)
  · rename_i hempty
    obtain rfl : table₁ = table' := Option.some.inj h₂
    have hnil : extradata.bytes = [] := by
      rw [Int32.lt_iff_toInt_lt, Buffer.toInt_size] at hempty
      rw [← List.length_eq_zero_iff]
      have h0 : (0 : Int32).toInt = 0 := rfl
      omega
    refine ⟨store_length h₁, ?_, ?_⟩
    · rw [hnil, List.append_nil]
      exact hinfo
    · intro off data hold hle
      exact hold.store_after h₁ hle

/-- A record that ends inside the table can be written. -/
lemma exists_writeStreamInfo
    (h : n * sizeofStreamInfo + extradataOffset + extradata.bytes.length ≤ table.length) :
    ∃ table', writeStreamInfo n info extradata table = some table' := by
  have hfit : n * sizeofStreamInfo + info.bytes.length ≤ table.length := by
    rw [StreamInfo.length_bytes]
    omega
  obtain ⟨table₁, h₁⟩ := exists_store hfit
  rw [writeStreamInfo, h₁, Option.bind_eq_bind, Option.bind_some]
  split
  · apply exists_store
    rw [store_length h₁]
    exact h
  · exact ⟨table₁, rfl⟩

end Record

/-! ## The table -/

/-- What the header loop leaves in the table for `streams`, from record number `n` on.  The `int`s
of a record are written behind the extradata of the records before it and last; the extradata
lasts if it ends with its record. -/
structure Filled (n : ℕ) (streams : List AVStream) (before after : List UInt8) : Prop where
  length : after.length = before.length
  frame : ∀ off data, Holds before off data → off + data.length ≤ n * sizeofStreamInfo →
    Holds after off data
  record : ∀ k st, streams[k]? = some st → ∃ info, streamInfoOf (n + k) st = some info ∧
    Holds after ((n + k) * sizeofStreamInfo) info.bytes
  extradata : ∀ k st, streams[k]? = some st → st.codec.extradata.bytes.length ≤ extradataRoom →
    Holds after ((n + k) * sizeofStreamInfo + extradataOffset) st.codec.extradata.bytes

/-- The size of the picture that `ff_smem_write_header` ends up with: that of the last video
stream. -/
def lastPicSize (avImageGetBufferSize : AVPixelFormat → Int32 → Int32 → Int32)
    (streams : List AVStream) (default : Int32) : Int32 :=
  ((streams.filter fun st => st.codec.codecType = .video).getLast?).elim default fun st =>
    avImageGetBufferSize st.codec.pixFmt st.codec.width st.codec.height

section Table

variable {size : AVPixelFormat → Int32 → Int32 → Int32} {streams : List AVStream} {n : ℕ}
  {ctx ctx' : SmemEncCtx}

lemma lastPicSize_cons (st : AVStream) (default : Int32) :
    lastPicSize size (st :: streams) default = lastPicSize size streams
      (if st.codec.codecType = .video then size st.codec.pixFmt st.codec.width st.codec.height
        else default) := by
  unfold lastPicSize
  by_cases hv : st.codec.codecType = .video
  · rw [List.filter_cons_of_pos (by simpa using hv), List.getLast?_cons, if_pos hv]
    cases (streams.filter fun st => st.codec.codecType = .video).getLast? <;> rfl
  · rw [List.filter_cons_of_neg (by simpa using hv), if_neg hv]

/-- One turn of the loop, on a type it supports. -/
lemma writeStreamInfos_cons {st : AVStream} {info : StreamInfo}
    (hinfo : streamInfoOf n st = some info) :
    writeStreamInfos size n (st :: streams) ctx =
      (writeStreamInfo n info st.codec.extradata ctx.streamInfos).bind fun table =>
        writeStreamInfos size (n + 1) streams { ctx with
          streamInfos := table
          picSize := if st.codec.codecType = .video then
            size st.codec.pixFmt st.codec.width st.codec.height else ctx.picSize } := by
  rw [writeStreamInfos, hinfo]
  rfl

lemma writeStreamInfos_spec (h : writeStreamInfos size n streams ctx = some (.ok ctx')) :
    Filled n streams ctx.streamInfos ctx'.streamInfos ∧ ctx'.streamNumber = ctx.streamNumber ∧
      ctx'.streamInfoSize = ctx.streamInfoSize ∧
      ctx'.picSize = lastPicSize size streams ctx.picSize := by
  induction streams generalizing n ctx with
  | nil =>
    obtain rfl : ctx = ctx' := Except.ok.inj (Option.some.inj h)
    refine ⟨⟨rfl, fun _ _ hold _ => hold, ?_, ?_⟩, rfl, rfl, rfl⟩
    · intro _ _ hk
      cases hk
    · intro _ _ hk
      cases hk
  | cons st streams ih =>
    cases hinfo : streamInfoOf n st with
    | none =>
      rw [writeStreamInfos, hinfo] at h
      obtain ⟨_, -, herr⟩ := Option.bind_eq_some_iff.mp h
      cases Option.some.inj herr
    | some info =>
      rw [writeStreamInfos_cons hinfo, Option.bind_eq_some_iff] at h
      obtain ⟨table, htable, hrest⟩ := h
      obtain ⟨hlength, hrecord, hframe⟩ := writeStreamInfo_spec htable
      obtain ⟨hfilled, hnumber, hsize, hpic⟩ := ih hrest
      refine ⟨⟨hfilled.length.trans hlength, ?_, ?_, ?_⟩, hnumber, hsize, ?_⟩
      · intro off data hold hle
        refine hfilled.frame off data (hframe off data hold hle) (hle.trans ?_)
        exact Nat.mul_le_mul_right _ (Nat.le_succ n)
      · -- the rest of the loop begins behind the record
        rintro (_ | k) st' hk
        · obtain rfl : st = st' := Option.some.inj hk
          refine ⟨info, hinfo, hfilled.frame _ _ hrecord.left ?_⟩
          rw [StreamInfo.length_bytes, Nat.add_zero, extradataOffset, sizeofStreamInfo]
          omega
        · obtain ⟨info', hinfo', hold⟩ := hfilled.record k st' hk
          rw [show n + 1 + k = n + (k + 1) by omega] at hinfo' hold
          exact ⟨info', hinfo', hold⟩
      · rintro (_ | k) st' hk hroom
        · obtain rfl : st = st' := Option.some.inj hk
          have hright := hrecord.right
          rw [StreamInfo.length_bytes] at hright
          refine hfilled.frame _ _ hright ?_
          unfold extradataRoom at hroom
          rw [extradataOffset, sizeofStreamInfo]
          omega
        · have hold := hfilled.extradata k st' hk hroom
          rwa [show n + 1 + k = n + (k + 1) by omega] at hold
      · rw [hpic, lastPicSize_cons]

/-- The loop comes to its end if no extradata reaches over the end of the table. -/
lemma exists_writeStreamInfos
    (htype : ∀ st ∈ streams, st.codec.codecType = .audio ∨ st.codec.codecType = .video)
    (hfit : ∀ k st, streams[k]? = some st →
      (n + k) * sizeofStreamInfo + extradataOffset + st.codec.extradata.bytes.length
        ≤ ctx.streamInfos.length) :
    ∃ ctx', writeStreamInfos size n streams ctx = some (.ok ctx') := by
  induction streams generalizing n ctx with
  | nil => exact ⟨ctx, rfl⟩
  | cons st streams ih =>
    obtain ⟨info, hinfo⟩ : ∃ info, streamInfoOf n st = some info := by
      rcases htype st List.mem_cons_self with hty | hty <;> simp only [streamInfoOf, hty] <;>
        exact ⟨_, rfl⟩
    obtain ⟨table, htable⟩ := exists_writeStreamInfo (hfit 0 st rfl)
    rw [Nat.add_zero] at htable
    rw [writeStreamInfos_cons hinfo, htable, Option.bind_some]
    apply ih
    · intro st' hst'
      exact htype st' (List.mem_cons_of_mem _ hst')
    · intro k st' hk
      have hlength : table.length = ctx.streamInfos.length := (writeStreamInfo_spec htable).1
      rw [hlength, show n + 1 + k = n + (k + 1) by omega]
      exact hfit (k + 1) st' hk

end Table

/-- The context of a header that was accepted. -/
structure Accepted (avImageGetBufferSize : AVPixelFormat → Int32 → Int32 → Int32)
    (streams : List AVStream) (ctx : SmemEncCtx) : Prop where
  bound : streams.length * sizeofStreamInfo ≤ 2147483615
  streamNumber : ctx.streamNumber = Int32.ofNat streams.length
  streamInfoSize : ctx.streamInfoSize = Int32.ofNat (streams.length * sizeofStreamInfo)
  length : ctx.streamInfos.length = streams.length * sizeofStreamInfo
  filled : ∃ before, Filled 0 streams before ctx.streamInfos
  picSize : ctx.picSize = lastPicSize avImageGetBufferSize streams 0

section Accepted

variable {size : AVPixelFormat → Int32 → Int32 → Int32} {avctx : AVFormatContext}
  {ctx : SmemEncCtx}

lemma avMalloc_eq_some {x : Int32} {table : List UInt8} (h : avMalloc x = some table) :
    0 ≤ x.toInt ∧ x.toInt ≤ 2147483615 ∧ table.length = x.toInt.toNat := by
  rw [avMalloc, Option.ite_none_right_eq_some] at h
  obtain ⟨⟨hnonneg, hle⟩, htable⟩ := h
  refine ⟨Int32.le_iff_toInt_le.mp hnonneg, Int32.le_iff_toInt_le.mp hle, ?_⟩
  rw [← Option.some.inj htable, List.length_replicate]

lemma toInt_tableSize {N : ℕ} (h : N * sizeofStreamInfo < 2 ^ 31) :
    (tableSize (.ofNat N)).toInt = ((N * sizeofStreamInfo : ℕ) : ℤ) := by
  unfold sizeofStreamInfo at h
  rw [tableSize, Int32.toInt_ofInt, toInt_ofNat (by omega), ← Nat.cast_mul]
  apply Int.bmod_eq_of_le
  · omega
  · simp only [sizeofStreamInfo, Int32.size]
    omega

lemma avMalloc_tableSize {N : ℕ} (h : N * sizeofStreamInfo ≤ 2147483615) :
    avMalloc (tableSize (.ofNat N)) = some (List.replicate (N * sizeofStreamInfo) 0) := by
  have hvalue := toInt_tableSize (N := N) (by omega)
  have hnonneg : 0 ≤ tableSize (.ofNat N) := by
    rw [Int32.le_iff_toInt_le, hvalue]
    exact Int.natCast_nonneg _
  have hmax : tableSize (.ofNat N) ≤ 2147483615 := by
    rw [Int32.le_iff_toInt_le, hvalue]
    exact Int.ofNat_le.mpr h
  rw [avMalloc, if_pos ⟨hnonneg, hmax⟩, hvalue, Int.toNat_natCast]

/-- A size that holds the last record was not cut off. -/
lemma tableSize_of_record {N : ℕ} (hnonneg : 0 ≤ (tableSize (.ofNat N)).toInt)
    (hend : (N - 1) * sizeofStreamInfo + extradataOffset ≤ (tableSize (.ofNat N)).toInt.toNat) :
    N * sizeofStreamInfo < 2 ^ 31 := by
  have hlt := (tableSize (.ofNat N)).toInt_lt
  simp only [sizeofStreamInfo, extradataOffset] at hend ⊢
  by_contra hge
  have hN : N < 2 ^ 31 := by omega
  rw [tableSize, Int32.toInt_ofInt, toInt_ofNat hN, ← Nat.cast_mul] at hnonneg
  simp only [sizeofStreamInfo, Int.bmod_def, Int32.size] at hnonneg
  split at hnonneg <;> omega

/-- All records were written inside the table, so its size is the one the code meant to compute:
neither the number of streams nor the product was cut off. -/
lemma accepted_of_ffSmemWriteHeader (h : ffSmemWriteHeader size avctx = some (.ok ctx)) :
    Accepted size avctx.streams ctx := by
  rw [ffSmemWriteHeader] at h
  have hname : avctx.filename ≠ "" := by
    intro hname
    rw [if_pos hname] at h
    cases Option.some.inj h
  rw [if_neg hname] at h
  have hlast : ∀ {before : List UInt8}, Filled 0 avctx.streams before ctx.streamInfos →
      0 < avctx.streams.length →
      (avctx.streams.length - 1) * sizeofStreamInfo + extradataOffset
        ≤ ctx.streamInfos.length := by
    intro before hfilled hpos
    obtain ⟨st, hst⟩ : ∃ st, avctx.streams[avctx.streams.length - 1]? = some st :=
      ⟨_, List.getElem?_eq_getElem (by omega)⟩
    obtain ⟨info, -, hold⟩ := hfilled.record (avctx.streams.length - 1) st hst
    have hle := hold.le_length
    rwa [StreamInfo.length_bytes, Nat.zero_add] at hle
  dsimp only at h
  split at h
  · rename_i hgt
    obtain ⟨table, htable, hloop⟩ := Option.bind_eq_some_iff.mp h
    obtain ⟨hfilled, hnumber, hsize, hpic⟩ := writeStreamInfos_spec hloop
    obtain ⟨hnonneg, hmax, hlength⟩ := avMalloc_eq_some htable
    have hpos : 0 < avctx.streams.length := by
      by_contra hzero
      rw [Nat.eq_zero_of_not_pos hzero] at hgt
      exact absurd hgt (by decide)
    have hend := hlast hfilled hpos
    rw [hfilled.length, hlength] at hend
    have hlt := tableSize_of_record hnonneg hend
    have hvalue := toInt_tableSize hlt
    refine ⟨?_, hnumber, hsize.trans ?_, ?_, ⟨_, hfilled⟩, hpic⟩
    · change (tableSize (.ofNat avctx.streams.length)).toInt ≤ 2147483615 at hmax
      omega
    · rw [← Int32.toInt_inj, toInt_ofNat hlt]
      exact hvalue
    · rw [hfilled.length, hlength]
      exact (congrArg Int.toNat hvalue).trans (Int.toNat_natCast _)
  · obtain ⟨hfilled, hnumber, hsize, hpic⟩ := writeStreamInfos_spec h
    have hzero : avctx.streams.length = 0 := by
      by_contra hne
      have hend := hlast hfilled (Nat.pos_of_ne_zero hne)
      rw [hfilled.length] at hend
      simp only [extradataOffset, List.length_nil] at hend
      omega
    refine ⟨?_, hnumber, ?_, ?_, ⟨_, hfilled⟩, hpic⟩
    · rw [hzero, Nat.zero_mul]
      exact Nat.zero_le _
    · rw [hsize, hzero, Nat.zero_mul]
      rfl
    · rw [hfilled.length, hzero, Nat.zero_mul]
      rfl

/-- A header is accepted if no extradata reaches over the end of the table. -/
lemma exists_ffSmemWriteHeader (hname : avctx.filename ≠ "")
    (hbound : avctx.streams.length * sizeofStreamInfo ≤ 2147483615)
    (htype : ∀ st ∈ avctx.streams, st.codec.codecType = .audio ∨ st.codec.codecType = .video)
    (hfit : ∀ k st, avctx.streams[k]? = some st →
      k * sizeofStreamInfo + extradataOffset + st.codec.extradata.bytes.length
        ≤ avctx.streams.length * sizeofStreamInfo) :
    ∃ ctx, ffSmemWriteHeader size avctx = some (.ok ctx) := by
  have hN : avctx.streams.length < 2 ^ 31 := by
    unfold sizeofStreamInfo at hbound
    omega
  rw [ffSmemWriteHeader, if_neg hname]
  dsimp only
  split
  · rw [avMalloc_tableSize hbound, Option.bind_eq_bind, Option.bind_some]
    apply exists_writeStreamInfos htype
    intro k st hk
    rw [Nat.zero_add, List.length_replicate]
    exact hfit k st hk
  · rename_i hneg
    have hzero : avctx.streams.length = 0 := by
      rw [Int32.lt_iff_toInt_lt, toInt_ofNat hN] at hneg
      have h0 : (0 : Int32).toInt = 0 := rfl
      omega
    apply exists_writeStreamInfos htype
    intro k st hk
    rw [List.eq_nil_of_length_eq_zero hzero] at hk
    cases hk

end Accepted

/-! ## One packet -/

/-- The muxer has got a segment for a payload of this size: the server has answered with an id,
and the segment of that id can be attached and detached and is as large as was asked. -/
structure Obtained (env : MuxerEnv) (ctx : SmemEncCtx) (bufSize memId : Int32)
    (segment : List UInt8) : Prop where
  asked : (smemGetShareMemory env.redisCommand smemCreateProducer (memSizeOf ctx bufSize)).1 = memId
  answered : memId ≠ -1
  attached : env.shmat memId = some segment
  detached : env.shmdt memId = true
  large : (memSizeOf ctx bufSize).toInt ≤ segment.length

section Packet

variable {size : AVPixelFormat → Int32 → Int32 → Int32} {streams : List AVStream}
  {ctx : SmemEncCtx} {env : MuxerEnv} {pkt : AVPacket} {bufSize memId : Int32}
  {segment : List UInt8}

/-- Only a positive size is answered with an id, so the sum of the sizes was not cut off. -/
lemma Obtained.memSize_pos (h : Obtained env ctx bufSize memId segment) :
    0 < memSizeOf ctx bufSize := by
  by_contra hle
  apply h.answered
  rw [← h.asked]
  have hle' : memSizeOf ctx bufSize ≤ 0 := Int32.not_lt.mp hle
  simp only [smemGetShareMemory, smemCreateProducer, Client.smemProducerGetShareMemory, hle',
    if_true]

lemma Accepted.toInt_streamInfoSize (ha : Accepted size streams ctx) :
    ctx.streamInfoSize.toInt = ((streams.length * sizeofStreamInfo : ℕ) : ℤ) := by
  have hbound := ha.bound
  rw [ha.streamInfoSize, toInt_ofNat (by omega)]

lemma Accepted.toInt_dataOffset (ha : Accepted size streams ctx) :
    (Int32.ofNat sizeofMemoryInfo + ctx.streamInfoSize).toInt
      = ((sizeofMemoryInfo + streams.length * sizeofStreamInfo : ℕ) : ℤ) := by
  have hbound := ha.bound
  simp only [sizeofStreamInfo] at hbound
  rw [Int32.toInt_add, ha.toInt_streamInfoSize, toInt_ofNat (by decide), ← Nat.cast_add]
  apply Int.bmod_eq_of_le
  · omega
  · simp only [sizeofMemoryInfo, sizeofStreamInfo]
    omega

lemma Accepted.toInt_memSize (ha : Accepted size streams ctx)
    (ho : Obtained env ctx bufSize memId segment) (hbuf : 0 ≤ bufSize.toInt) :
    (memSizeOf ctx bufSize).toInt
      = ((sizeofMemoryInfo + streams.length * sizeofStreamInfo + bufSize.toInt.toNat : ℕ) : ℤ) := by
  have hbound := ha.bound
  have hpos := Int32.lt_iff_toInt_lt.mp ho.memSize_pos
  have hlt := bufSize.toInt_lt
  have h0 : (0 : Int32).toInt = 0 := rfl
  have hoff := ha.toInt_dataOffset
  rw [memSizeOf, Int32.toInt_add, hoff] at hpos ⊢
  simp only [sizeofMemoryInfo, sizeofStreamInfo, Int.bmod_def] at hbound hpos ⊢
  push_cast at hpos ⊢
  split at hpos
  · rename_i hhalf
    rw [if_pos hhalf]
    omega
  · omega

lemma memcpyFrom_eq_some_iff {src data : List UInt8} {off n : Int32} :
    memcpyFrom src off n = some data ↔
      0 ≤ off.toInt ∧ 0 ≤ n.toInt ∧ load src off.toInt.toNat n.toInt.toNat = some data := by
  rw [memcpyFrom, Option.ite_none_right_eq_some, Int32.le_iff_toInt_le, Int32.le_iff_toInt_le,
    and_assoc]
  rfl

lemma memcpyTo_eq_some_iff {dst dst' data : List UInt8} {off : Int32} :
    memcpyTo dst off data = some dst' ↔
      0 ≤ off.toInt ∧ store dst off.toInt.toNat data = some dst' := by
  rw [memcpyTo, Option.ite_none_right_eq_some, Int32.le_iff_toInt_le]
  rfl

/-- A record of the table can be read exactly when the index is that of a stream. -/
lemma Accepted.streamInfoAt_isSome (ha : Accepted size streams ctx) (index : Int32) :
    (streamInfoAt ctx.streamInfos index).isSome = true ↔
      0 ≤ index.toInt ∧ index.toInt < streams.length := by
  have h0 : (0 : Int32).toInt = 0 := rfl
  unfold streamInfoAt
  split
  · rename_i hnonneg
    rw [Int32.le_iff_toInt_le, h0] at hnonneg
    rw [Option.isSome_iff_ne_none, Ne, load_eq_none_iff, ha.length]
    simp only [sizeofStreamInfo]
    omega
  · rename_i hneg
    rw [Int32.le_iff_toInt_le, h0] at hneg
    simp only [Option.isSome_none, Bool.false_eq_true, false_iff]
    omega

/-- What a segment has for a packet with the payload `data`. -/
structure Carries (streams : List AVStream) (ctx : SmemEncCtx) (pkt : AVPacket)
    (bufSize memId : Int32) (data segment : List UInt8) : Prop where
  header : Holds segment 0 (memoryInfoOf memId bufSize ctx pkt).bytes
  table : Holds segment sizeofMemoryInfo ctx.streamInfos
  payload : Holds segment (sizeofMemoryInfo + streams.length * sizeofStreamInfo) data

lemma Accepted.of_fillSegment (ha : Accepted size streams ctx) {filled : List UInt8}
    (h : fillSegment memId bufSize ctx pkt segment = some filled) :
    (memSizeOf ctx bufSize).toInt ≤ segment.length ∧ 0 ≤ bufSize.toInt ∧
      (0 ≤ pkt.streamIndex.toInt ∧ pkt.streamIndex.toInt < streams.length) ∧
      ∃ data, load pkt.data.bytes 0 bufSize.toInt.toNat = some data ∧
        Carries streams ctx pkt bufSize memId data filled := by
  simp only [fillSegment, Option.bind_eq_bind, Option.bind_eq_some_iff] at h
  obtain ⟨cleared, hcleared, region₁, h₁, infos, hinfos, region₂, h₂, data, hdata, region₃, h₃,
    info, hinfo, hfilled⟩ := h
  obtain ⟨-, hset, hcleared⟩ := memcpyFrom_eq_some_iff.mp hcleared
  obtain ⟨-, -, hinfos⟩ := memcpyFrom_eq_some_iff.mp hinfos
  obtain ⟨-, h₂⟩ := memcpyTo_eq_some_iff.mp h₂
  obtain ⟨-, hbuf, hdata⟩ := memcpyFrom_eq_some_iff.mp hdata
  obtain ⟨-, h₃⟩ := memcpyTo_eq_some_iff.mp h₃
  obtain rfl : region₃ ++ segment.drop (memSizeOf ctx bufSize).toInt.toNat = filled :=
    Option.some.inj hfilled
  refine ⟨?_, hbuf, ?_, data, hdata, ?_⟩
  · obtain ⟨hold, hlen⟩ := load_eq_some_iff.mp hcleared
    have hle := hold.le_length
    rw [hlen] at hle
    have h0 : (0 : Int32).toInt = 0 := rfl
    omega
  · rw [← ha.streamInfoAt_isSome, hinfo]
    rfl
  · -- the three stores follow one another
    have hwhole : infos = ctx.streamInfos := by
      rw [ha.toInt_streamInfoSize, Int.toNat_natCast, ← ha.length] at hinfos
      exact Option.some.inj (hinfos.symm.trans (holds_self ctx.streamInfos).load)
    subst hwhole
    have hoff : (memoryInfoOf memId bufSize ctx pkt).streamInfoOffset.toInt.toNat
        = sizeofMemoryInfo := rfl
    have hdoff : (memoryInfoOf memId bufSize ctx pkt).dataOffset.toInt.toNat
        = sizeofMemoryInfo + streams.length * sizeofStreamInfo := by
      rw [← Int.toNat_natCast (sizeofMemoryInfo + streams.length * sizeofStreamInfo),
        ← ha.toInt_dataOffset]
      rfl
    rw [hoff] at h₂
    rw [hdoff] at h₃
    have hheader := (Holds.of_store h₁).store_after h₂ (by simp [sizeofMemoryInfo])
    refine ⟨?_, ?_, ?_⟩
    · apply Holds.extend
      apply hheader.store_after h₃
      rw [MemoryInfo.length_bytes, sizeofMemoryInfo]
      omega
    · apply Holds.extend
      apply (Holds.of_store h₂).store_after h₃
      rw [ha.length]
    · exact (Holds.of_store h₃).extend _

/-- A packet that was published was given a segment, its data has as many bytes as were copied,
and its stream is in the table. -/
lemma Accepted.of_published (ha : Accepted size streams ctx) {filled : List UInt8}
    (h : writePacketOf bufSize env ctx pkt = some (.published memId filled)) :
    0 ≤ bufSize.toInt ∧ (0 ≤ pkt.streamIndex.toInt ∧ pkt.streamIndex.toInt < streams.length) ∧
      ∃ data, load pkt.data.bytes 0 bufSize.toInt.toNat = some data ∧
        Carries streams ctx pkt bufSize memId data filled := by
  rw [writePacketOf] at h
  split at h
  · cases h
  · split at h
    · cases h
    · obtain ⟨filled', hfilled, hpublished⟩ := Option.map_eq_some_iff.mp h
      split at hpublished
      · cases hpublished
        exact (ha.of_fillSegment hfilled).2
      · cases hpublished

/-- In a segment that is as large as was asked, a packet with enough data is published. -/
lemma Accepted.exists_published (ha : Accepted size streams ctx)
    (ho : Obtained env ctx bufSize memId segment) (hbuf : 0 ≤ bufSize.toInt)
    (hdata : bufSize.toInt.toNat ≤ pkt.data.bytes.length)
    (hindex : 0 ≤ pkt.streamIndex.toInt ∧ pkt.streamIndex.toInt < streams.length) :
    ∃ filled, writePacketOf bufSize env ctx pkt = some (.published memId filled) := by
  have hmem := ha.toInt_memSize ho hbuf
  have hlarge := ho.large
  have h0 : (0 : Int32).toInt = 0 := rfl
  set info := memoryInfoOf memId bufSize ctx pkt with hinfo
  set M := (memSizeOf ctx bufSize).toInt.toNat with hM
  have hM' : M = sizeofMemoryInfo + streams.length * sizeofStreamInfo + bufSize.toInt.toNat := by
    rw [hM, hmem, Int.toNat_natCast]
  have hdoff : info.dataOffset.toInt
      = ((sizeofMemoryInfo + streams.length * sizeofStreamInfo : ℕ) : ℤ) := ha.toInt_dataOffset
  obtain ⟨cleared, hcleared⟩ : ∃ cleared, memcpyFrom segment 0 (memSizeOf ctx bufSize)
      = some cleared := by
    have hfit : 0 + M ≤ segment.length := by omega
    obtain ⟨cleared, hload⟩ := exists_load hfit
    exact ⟨cleared, memcpyFrom_eq_some_iff.mpr ⟨le_rfl, by omega, hload⟩⟩
  obtain ⟨region₁, h₁⟩ : ∃ r, store (List.replicate M 0) 0 info.bytes = some r := by
    apply exists_store
    rw [MemoryInfo.length_bytes, List.length_replicate, hM', sizeofMemoryInfo]
    omega
  have hlen₁ : region₁.length = M := (store_length h₁).trans List.length_replicate
  have hinfos : memcpyFrom ctx.streamInfos 0 ctx.streamInfoSize = some ctx.streamInfos := by
    rw [memcpyFrom_eq_some_iff, ha.toInt_streamInfoSize, Int.toNat_natCast, ← ha.length]
    exact ⟨le_rfl, Int.natCast_nonneg _, (holds_self ctx.streamInfos).load⟩
  obtain ⟨region₂, h₂⟩ : ∃ r, memcpyTo region₁ info.streamInfoOffset ctx.streamInfos = some r := by
    obtain ⟨r, hr⟩ : ∃ r, store region₁ sizeofMemoryInfo ctx.streamInfos = some r := by
      apply exists_store
      rw [ha.length, hlen₁, hM']
      omega
    have hoff : info.streamInfoOffset.toInt = 48 := rfl
    exact ⟨r, memcpyTo_eq_some_iff.mpr ⟨by omega, hr⟩⟩
  have hlen₂ : region₂.length = M := (store_length (memcpyTo_eq_some_iff.mp h₂).2).trans hlen₁
  have hfit : 0 + bufSize.toInt.toNat ≤ pkt.data.bytes.length := by omega
  obtain ⟨data, hload⟩ := exists_load hfit
  have hcopy : memcpyFrom pkt.data.bytes 0 info.dataSize = some data :=
    memcpyFrom_eq_some_iff.mpr ⟨le_rfl, hbuf, hload⟩
  obtain ⟨region₃, h₃⟩ : ∃ r, memcpyTo region₂ info.dataOffset data = some r := by
    obtain ⟨r, hr⟩ : ∃ r, store region₂ info.dataOffset.toInt.toNat data = some r := by
      apply exists_store
      rw [hdoff, Int.toNat_natCast, (load_eq_some_iff.mp hload).2, hlen₂, hM']
    exact ⟨r, memcpyTo_eq_some_iff.mpr ⟨by omega, hr⟩⟩
  obtain ⟨record, hrecord⟩ := Option.isSome_iff_exists.mp ((ha.streamInfoAt_isSome _).mpr hindex)
  have hfill : fillSegment memId bufSize ctx pkt segment = some (region₃ ++ segment.drop M) := by
    simp only [fillSegment, Option.bind_eq_bind, hcleared, Option.bind_some, ← hM, ← hinfo, h₁,
      hinfos, h₂, hcopy, h₃, hrecord]
    rfl
  refine ⟨region₃ ++ segment.drop M, ?_⟩
  rw [writePacketOf, ho.asked, if_neg ho.answered, ho.attached]
  dsimp only
  rw [hfill, Option.map_some, if_pos ho.detached]

end Packet

end SelfTestCode.Device
