import SelfTestCode.Device.Muxer

/-!
# The demuxer

`smem_dec.c` of `ffmpeg-3.0.1`.  `ff_smem_read_header` takes the table of streams from the first
segment that arrives; `ff_smem_read_packet` then turns one segment after the other into packets,
with timestamps rebuilt on the clock of stream 0, and may drop raw video under pressure of the
queue.

As for the muxer, a result of `none` is an access outside an object.  The arrays of
`struct smem_dec_ctx` have 64 entries, and the extradata of a stream are looked for inside its own
record.  The functions here begin where the queue has given a segment that could be attached; the
wait before that changes nothing.  Timestamps are integers.
-/

namespace SelfTestCode.Device

/-! ## The context -/

/-- `SMEM_MAX_STREAM`. -/
abbrev smemMaxStream : ℕ := 64

-- stream 0, which the clock of all streams follows
instance : NeZero smemMaxStream := ⟨Nat.succ_ne_zero 63⟩

/-- `SMEM_TIME_BASE`. -/
def smemTimeBase : ℤ := 1000000

/-- `SMEM_TIME_BASE_Q`. -/
def smemTimeBaseQ : AVRational := ⟨1, 1000000⟩

/-- `SMEM_NUM_IN_RANGE`. -/
def smemNumInRange (n min max : ℤ) : ℤ := if n > max then max else if n < min then min else n

/-- `SMEM_NUM_IF_OUT_RANGE`. -/
def smemNumIfOutRange (n min max : ℤ) : Bool := n > max || n < min

/-- The fields of `struct smem_dec_ctx` that the functions below read. -/
structure SmemDecCtx where
  streamNumber : Int32
  streamInfos : List UInt8
  baseStreamStart : Bool
  lastOutTs : Fin smemMaxStream → ℤ
  lastInTs : Fin smemMaxStream → ℤ
  shouldDuration : Fin smemMaxStream → ℤ
  inTimebase : Fin smemMaxStream → AVRational
  hasEncodedVideoStream : Bool
  freeCnt : Fin smemMaxStream → ℤ

/-- The context as FFmpeg allocates it, with all bytes zero. -/
def SmemDecCtx.zero : SmemDecCtx where
  streamNumber := 0
  streamInfos := []
  baseStreamStart := false
  lastOutTs := fun _ => 0
  lastInTs := fun _ => 0
  shouldDuration := fun _ => 0
  inTimebase := fun _ => ⟨0, 0⟩
  hasEncodedVideoStream := false
  freeCnt := fun _ => 0

/-- An index into the arrays. -/
def slotOf (i : ℤ) : Option (Fin smemMaxStream) :=
  if h : 0 ≤ i ∧ i < smemMaxStream then some ⟨i.toNat, by omega⟩ else none

/-! ## The header -/

/-- `get_stream_info` on a segment. -/
def getStreamInfo (ctx : SmemDecCtx) (segment : List UInt8) : Option SmemDecCtx := do
  let info ← MemoryInfo.read segment
  let _ ← avMalloc (tableSize info.streamInfoNumber)
  let streamInfos ← memcpyFrom segment info.streamInfoOffset (tableSize info.streamInfoNumber)
  return { ctx with streamNumber := info.streamInfoNumber, streamInfos := streamInfos }

/-- What both kinds of streams do to the arrays. -/
def SmemDecCtx.startStream (ctx : SmemDecCtx) (i : Fin smemMaxStream) (shouldDuration : ℤ)
    (timeBase : AVRational) : SmemDecCtx :=
  { ctx with
    shouldDuration := Function.update ctx.shouldDuration i shouldDuration
    inTimebase := Function.update ctx.inTimebase i timeBase
    lastInTs := Function.update ctx.lastInTs i 0
    lastOutTs := Function.update ctx.lastOutTs i 0 }

/-- The video stream that a record describes. -/
def videoStream (info : StreamInfo) (extradata : Buffer) : AVStream where
  id := info.streamId
  codec := {
    codecType := .video
    codecId := smem2avCodecId info.codecId
    timeBase := smemTimeBaseQ
    width := info.first
    height := info.second
    pixFmt := smem2avPixFmt info.format
    sampleRate := 0
    channels := 0
    sampleFmt := .none
    extradata := extradata }

/-- The audio stream that a record describes. -/
def audioStream (info : StreamInfo) (extradata : Buffer) : AVStream where
  id := info.streamId
  codec := {
    codecType := .audio
    codecId := smem2avCodecId info.codecId
    timeBase := smemTimeBaseQ
    width := 0
    height := 0
    pixFmt := .none
    sampleRate := info.first
    channels := info.second
    sampleFmt := smem2avSampleFmt info.format
    extradata := extradata }

/-- One turn of the loop of `ff_smem_read_header`; `avformat_new_stream` succeeds. -/
def readStream (i : ℕ) (ctx : SmemDecCtx) (streams : List AVStream) :
    Option (SmemDecCtx × List AVStream) := do
  let record ← load ctx.streamInfos (i * sizeofStreamInfo) sizeofStreamInfo
  let info ← StreamInfo.read record
  if info.codecType = SMemMediaType.video.value then
    let ctx := if info.codecId = SMemCodecID.rawvideo.value then ctx
      else { ctx with hasEncodedVideoStream := true }
    let extradata ← loadBuffer record extradataOffset info.extradataSize
    let slot ← slotOf i
    return (ctx.startStream slot (smemTimeBase / smemNumInRange 25 1 60) info.timeBase,
      streams ++ [videoStream info extradata])
  else if info.codecType = SMemMediaType.audio.value then
    let slot ← slotOf i
    let extradata ← loadBuffer record extradataOffset info.extradataSize
    return (ctx.startStream slot
        (smemTimeBase * 1024 / smemNumInRange info.first.toInt 11025 48000) info.timeBase,
      streams ++ [audioStream info extradata])
  else return (ctx, streams)

/-- The loop, for the `n` records from number `i` on. -/
def readStreams : ℕ → ℕ → SmemDecCtx → List AVStream → Option (SmemDecCtx × List AVStream)
  | _, 0, ctx, streams => some (ctx, streams)
  | i, n + 1, ctx, streams => do
    let (ctx, streams) ← readStream i ctx streams
    readStreams (i + 1) n ctx streams

/-- `ff_smem_read_header` on a segment. -/
def ffSmemReadHeader (filename : String) (segment : List UInt8) :
    Option (Except AVError (SmemDecCtx × List AVStream)) :=
  if filename = "" then some (.error .eio)
  else do
    let ctx ← getStreamInfo .zero segment
    let result ← readStreams 0 ctx.streamNumber.toInt.toNat ctx []
    return .ok result

/-! ## Timestamps -/

section Packets

-- `av_rescale_q` of `libavutil`
variable (avRescaleQ : Int64 → AVRational → AVRational → Int64)

/-- `rebuild_timestamp`: the timestamps it gives the frame, if it does not reject it. -/
def rebuildTimestamp (ctx : SmemDecCtx) (info : MemoryInfo) :
    Option (SmemDecCtx × Option (ℤ × ℤ)) := do
  let i ← slotOf info.index.toInt
  let pts := (avRescaleQ info.pts (ctx.inTimebase i) smemTimeBaseQ).toInt
  let dts := (avRescaleQ info.dts (ctx.inTimebase i) smemTimeBaseQ).toInt
  if i = 0 then
    let outDts :=
      if smemNumIfOutRange (dts - ctx.lastInTs i) 0 (5 * ctx.shouldDuration i) then
        ctx.lastOutTs i + ctx.shouldDuration i
      else ctx.lastOutTs i + (dts - ctx.lastInTs i)
    return ({ ctx with
        baseStreamStart := true
        lastInTs := Function.update ctx.lastInTs i dts
        lastOutTs := Function.update ctx.lastOutTs i outDts },
      some (outDts + (pts - dts) + 2 * ctx.shouldDuration i, outDts))
  else if ctx.baseStreamStart then
    let maybeOutDts := ctx.lastOutTs 0 + (dts - ctx.lastInTs 0)
    let seen := { ctx with lastInTs := Function.update ctx.lastInTs i dts }
    if maybeOutDts ≤ ctx.lastOutTs i then return (seen, none)
    else if smemNumIfOutRange (maybeOutDts - ctx.lastOutTs i) 0 (5 * smemTimeBase) then
      return (seen, none)
    else
      return ({ seen with lastOutTs := Function.update ctx.lastOutTs i maybeOutDts },
        some (maybeOutDts + (pts - dts) + 2 * ctx.shouldDuration i, maybeOutDts))
  else return (ctx, none)

/-- `if_free_frame`, with `smem_queue_size` ids in the queue. -/
def ifFreeFrame (smemQueueSize : ℤ) (ctx : SmemDecCtx) (info : MemoryInfo) :
    Option (SmemDecCtx × Bool) :=
  if info.index < ctx.streamNumber then do
    let record ← streamInfoAt ctx.streamInfos info.index
    let streamInfo ← StreamInfo.read record
    if streamInfo.codecType = SMemMediaType.video.value ∧
        streamInfo.codecId = SMemCodecID.rawvideo.value ∧
        Client.smemMaxQueueLength / 2 ≤ smemQueueSize then
      let i ← slotOf info.index.toInt
      if 0 ≤ ctx.freeCnt i ∧ ctx.freeCnt i < 1 then
        return ({ ctx with freeCnt := Function.update ctx.freeCnt i (ctx.freeCnt i + 1) }, true)
      else return ({ ctx with freeCnt := Function.update ctx.freeCnt i 0 }, false)
    else return (ctx, false)
  else some (ctx, false)

/-! ## Packets -/

/-- What `ff_smem_read_packet` makes of a segment. -/
inductive Received
  | skipped
  | dropped
  | emitted (pkt : AVPacket)

/-- The bytes that the `AVBuffer` of a packet points to. -/
def payloadOf (info : MemoryInfo) (segment : List UInt8) : Option Buffer :=
  if 0 ≤ info.dataOffset ∧ 0 ≤ info.dataSize then
    loadBuffer segment info.dataOffset.toInt.toNat info.dataSize
  else none

/-- One turn of the loop of `ff_smem_read_packet`, on a segment. -/
def receive (smemQueueSize : ℤ) (ctx : SmemDecCtx) (segment : List UInt8) :
    Option (SmemDecCtx × Received) := do
  let info ← MemoryInfo.read segment
  match ← rebuildTimestamp avRescaleQ ctx info with
  | (ctx, none) => return (ctx, .skipped)
  | (ctx, some (outPts, outDts)) =>
    let (ctx, free) ← ifFreeFrame smemQueueSize ctx info
    if free then return (ctx, .dropped)
    else
      let data ← payloadOf info segment
      return (ctx, .emitted {
        streamIndex := info.index
        pts := .ofInt outPts
        dts := .ofInt outDts
        key := info.isKey != 0
        data := data })

end Packets

/-! ## What stays -/

/-- The context has a table with as many records as it says. -/
def Ready (ctx : SmemDecCtx) : Prop :=
  ctx.streamInfos.length = ctx.streamNumber.toInt.toNat * sizeofStreamInfo

/-- `b` is `a` with other timestamps and counters. -/
structure SameTable (a b : SmemDecCtx) : Prop where
  streamNumber : b.streamNumber = a.streamNumber
  streamInfos : b.streamInfos = a.streamInfos

lemma SameTable.refl (a : SmemDecCtx) : SameTable a a := ⟨rfl, rfl⟩

lemma SameTable.trans {a b c : SmemDecCtx} (hab : SameTable a b) (hbc : SameTable b c) :
    SameTable a c :=
  ⟨hbc.streamNumber.trans hab.streamNumber, hbc.streamInfos.trans hab.streamInfos⟩

lemma Ready.same {a b : SmemDecCtx} (h : Ready a) (hs : SameTable a b) : Ready b := by
  rw [Ready, hs.streamInfos, hs.streamNumber]
  exact h

lemma readStream_sameTable {i : ℕ} {ctx : SmemDecCtx} {acc : List AVStream}
    {r : SmemDecCtx × List AVStream} (h : readStream i ctx acc = some r) : SameTable ctx r.1 := by
  obtain ⟨record, -, h⟩ := Option.bind_eq_some_iff.mp h
  obtain ⟨info, -, h⟩ := Option.bind_eq_some_iff.mp h
  split at h
  · obtain ⟨b, -, h⟩ := Option.bind_eq_some_iff.mp h
    obtain ⟨slot, -, h⟩ := Option.bind_eq_some_iff.mp h
    obtain rfl := Option.some.inj h
    constructor <;> dsimp only [SmemDecCtx.startStream] <;> split <;> rfl
  · split at h
    · obtain ⟨slot, -, h⟩ := Option.bind_eq_some_iff.mp h
      obtain ⟨b, -, h⟩ := Option.bind_eq_some_iff.mp h
      obtain rfl := Option.some.inj h
      exact ⟨rfl, rfl⟩
    · obtain rfl := Option.some.inj h
      exact SameTable.refl ctx

lemma readStreams_sameTable {i n : ℕ} {ctx : SmemDecCtx} {acc : List AVStream}
    {r : SmemDecCtx × List AVStream} (h : readStreams i n ctx acc = some r) :
    SameTable ctx r.1 := by
  induction n generalizing i ctx acc with
  | zero =>
    obtain rfl := Option.some.inj h
    exact SameTable.refl ctx
  | succ n ih =>
    obtain ⟨r₁, hone, hrest⟩ := Option.bind_eq_some_iff.mp h
    exact (readStream_sameTable hone).trans (ih hrest)

/-! ## One record of the table -/

section Record

variable {ctx : SmemDecCtx} {acc : List AVStream} {st : AVStream} {info : StreamInfo} {i : ℕ}

lemma slotOf_eq_some {i : ℤ} {slot : Fin smemMaxStream} (h : slotOf i = some slot) :
    0 ≤ i ∧ i < smemMaxStream := by
  by_contra hout
  rw [slotOf, dif_neg hout] at h
  cases h

lemma slotOf_natCast (i : ℕ) :
    slotOf (i : ℤ) = if h : i < smemMaxStream then some ⟨i, h⟩ else none := by
  by_cases h : i < smemMaxStream
  · rw [slotOf, dif_pos ⟨Int.natCast_nonneg i, by omega⟩, dif_pos h]
    rfl
  · rw [slotOf, dif_neg (by omega), dif_neg h]

/-- The two kinds of records the muxer writes. -/
lemma streamInfoOf_eq_some (h : streamInfoOf i st = some info) :
    info.codecId = av2smemCodecId st.codec.codecId ∧ info.streamId = st.id ∧
      info.extradataSize = st.codec.extradata.size ∧
      ((st.codec.codecType = .video ∧ info.codecType = SMemMediaType.video.value ∧
          info.first = st.codec.width ∧ info.second = st.codec.height ∧
          info.format = av2smemPixFmt st.codec.pixFmt) ∨
        (st.codec.codecType = .audio ∧ info.codecType = SMemMediaType.audio.value ∧
          info.first = st.codec.sampleRate ∧ info.second = st.codec.channels ∧
          info.format = av2smemSampleFmt st.codec.sampleFmt)) := by
  unfold streamInfoOf at h
  dsimp only at h
  split at h
  · rename_i htype
    obtain rfl := Option.some.inj h
    exact ⟨rfl, rfl, rfl, Or.inr ⟨htype, rfl, rfl, rfl, rfl⟩⟩
  · rename_i htype
    obtain rfl := Option.some.inj h
    exact ⟨rfl, rfl, rfl, Or.inl ⟨htype, rfl, rfl, rfl, rfl⟩⟩
  · cases h

/-- The reader finds the `int`s that stand in the table. -/
lemma read_record (hfit : (i + 1) * sizeofStreamInfo ≤ ctx.streamInfos.length)
    (hold : Holds ctx.streamInfos (i * sizeofStreamInfo) info.bytes) :
    ∃ record, load ctx.streamInfos (i * sizeofStreamInfo) sizeofStreamInfo = some record ∧
      Holds ctx.streamInfos (i * sizeofStreamInfo) record ∧ record.length = sizeofStreamInfo ∧
      StreamInfo.read record = some info := by
  rw [Nat.succ_mul] at hfit
  obtain ⟨record, hload⟩ := exists_load hfit
  obtain ⟨hrecord, hlength⟩ := load_eq_some_iff.mp hload
  refine ⟨record, hload, hrecord, hlength, ?_⟩
  apply StreamInfo.read_of_holds
  rw [← Nat.add_zero (i * sizeofStreamInfo)] at hold
  refine hrecord.inside hold ?_
  rw [StreamInfo.length_bytes, hlength, extradataOffset, sizeofStreamInfo]
  omega

/-- The stream that a record of the muxer describes. -/
def streamOf (st : AVStream) (info : StreamInfo) (extradata : Buffer) : AVStream :=
  if st.codec.codecType = .video then videoStream info extradata else audioStream info extradata

/-- A turn of the loop on a record of the muxer ends only if the arrays have an entry for the
stream and the extradata end with the record. -/
lemma readStream_inv (hinfo : streamInfoOf i st = some info)
    (hfit : (i + 1) * sizeofStreamInfo ≤ ctx.streamInfos.length)
    (hold : Holds ctx.streamInfos (i * sizeofStreamInfo) info.bytes)
    {r : SmemDecCtx × List AVStream} (h : readStream i ctx acc = some r) :
    i < smemMaxStream ∧ st.codec.extradata.bytes.length ≤ extradataRoom := by
  obtain ⟨record, hload, hrecord, hlength, hread⟩ := read_record hfit hold
  obtain ⟨-, -, hsize, hkind⟩ := streamInfoOf_eq_some hinfo
  -- a read of the extradata stays inside the record
  have hroom : ∀ {b : Buffer}, loadBuffer record extradataOffset info.extradataSize = some b →
      st.codec.extradata.bytes.length ≤ extradataRoom := by
    intro b hb
    obtain ⟨hholds, hlen⟩ := load_eq_some_iff.mp (loadBuffer_eq_some_iff.mp hb)
    have hle := hholds.le_length
    rw [hlen, hlength, hsize, Buffer.toInt_size, Int.toNat_natCast] at hle
    simp only [extradataOffset, sizeofStreamInfo] at hle
    unfold extradataRoom
    omega
  have hslot : ∀ {slot : Fin smemMaxStream}, slotOf (i : ℤ) = some slot → i < smemMaxStream := by
    intro slot hs
    exact Int.ofNat_lt.mp (slotOf_eq_some hs).2
  simp only [readStream, hload, hread, Option.bind_eq_bind, Option.bind_some] at h
  rcases hkind with ⟨-, hvideo, -⟩ | ⟨-, haudio, -⟩
  · rw [if_pos hvideo] at h
    obtain ⟨b, hb, h⟩ := Option.bind_eq_some_iff.mp h
    obtain ⟨slot, hs, -⟩ := Option.bind_eq_some_iff.mp h
    exact ⟨hslot hs, hroom hb⟩
  · have hne : info.codecType ≠ SMemMediaType.video.value := by
      rw [haudio]
      decide
    rw [if_neg hne, if_pos haudio] at h
    obtain ⟨slot, hs, h⟩ := Option.bind_eq_some_iff.mp h
    obtain ⟨b, hb, -⟩ := Option.bind_eq_some_iff.mp h
    exact ⟨hslot hs, hroom hb⟩

/-- Then the stream it adds has the data of the record. -/
lemma exists_readStream (hinfo : streamInfoOf i st = some info)
    (hfit : (i + 1) * sizeofStreamInfo ≤ ctx.streamInfos.length)
    (hold : Holds ctx.streamInfos (i * sizeofStreamInfo) info.bytes)
    (hextra : Holds ctx.streamInfos (i * sizeofStreamInfo + extradataOffset)
      st.codec.extradata.bytes)
    (hi : i < smemMaxStream) (hroom : st.codec.extradata.bytes.length ≤ extradataRoom)
    (acc : List AVStream) :
    ∃ ctx', readStream i ctx acc
        = some (ctx', acc ++ [streamOf st info st.codec.extradata]) := by
  obtain ⟨record, hload, hrecord, hlength, hread⟩ := read_record hfit hold
  obtain ⟨-, -, hsize, hkind⟩ := streamInfoOf_eq_some hinfo
  have hbuffer : loadBuffer record extradataOffset info.extradataSize
      = some st.codec.extradata := by
    rw [hsize]
    apply loadBuffer_of_holds
    refine hrecord.inside hextra ?_
    unfold extradataRoom at hroom
    rw [hlength, extradataOffset, sizeofStreamInfo]
    omega
  have hslot : slotOf (i : ℤ) = some ⟨i, hi⟩ := by
    rw [slotOf_natCast, dif_pos hi]
  simp only [readStream, hload, hread, Option.bind_eq_bind, Option.bind_some, hbuffer, hslot]
  rcases hkind with ⟨htype, hvideo, -⟩ | ⟨htype, haudio, -⟩
  · rw [if_pos hvideo, streamOf, if_pos htype]
    exact ⟨_, rfl⟩
  · have hne : info.codecType ≠ SMemMediaType.video.value := by
      rw [haudio]
      decide
    have hne' : st.codec.codecType ≠ .video := by
      rw [htype]
      decide
    rw [if_neg hne, if_pos haudio, streamOf, if_neg hne']
    exact ⟨_, rfl⟩

end Record

/-! ## The whole table -/

section Table

variable {before : List UInt8} {streams : List AVStream}

/-- The reader gets to the end of the table only if there are entries for all streams, and the
extradata of each end with its record. -/
lemma readStreams_inv {ctx : SmemDecCtx} (hfilled : Filled 0 streams before ctx.streamInfos)
    (hlength : ctx.streamInfos.length = streams.length * sizeofStreamInfo) {i n : ℕ}
    (hn : i + n = streams.length) {acc : List AVStream} {r : SmemDecCtx × List AVStream}
    (h : readStreams i n ctx acc = some r) :
    ∀ k st, i ≤ k → streams[k]? = some st →
      k < smemMaxStream ∧ st.codec.extradata.bytes.length ≤ extradataRoom := by
  induction n generalizing i ctx acc with
  | zero =>
    intro k st hik hk
    have hlt := (List.getElem?_eq_some_iff.mp hk).1
    omega
  | succ n ih =>
    obtain ⟨⟨ctx', acc'⟩, hone, hrest⟩ := Option.bind_eq_some_iff.mp h
    obtain ⟨st, hst⟩ : ∃ st, streams[i]? = some st := ⟨_, List.getElem?_eq_getElem (by omega)⟩
    obtain ⟨info, hinfo, hold⟩ := hfilled.record i st hst
    rw [Nat.zero_add] at hinfo hold
    have hfit : (i + 1) * sizeofStreamInfo ≤ ctx.streamInfos.length := by
      rw [hlength]
      exact Nat.mul_le_mul_right _ (by omega)
    obtain ⟨hslot, hroom⟩ := readStream_inv hinfo hfit hold hone
    have htable : ctx'.streamInfos = ctx.streamInfos := (readStream_sameTable hone).streamInfos
    intro k st' hik hk
    rcases Nat.eq_or_lt_of_le hik with rfl | hlt
    · rw [hst] at hk
      obtain rfl := Option.some.inj hk
      exact ⟨hslot, hroom⟩
    · rw [← htable] at hfilled hlength
      exact ih hfilled hlength (by omega) hrest k st' hlt hk

/-- The streams that the reader makes of the rest of the table. -/
lemma exists_readStreams {ctx : SmemDecCtx} (hfilled : Filled 0 streams before ctx.streamInfos)
    (hlength : ctx.streamInfos.length = streams.length * sizeofStreamInfo)
    (hmax : streams.length ≤ smemMaxStream)
    (hroom : ∀ st ∈ streams, st.codec.extradata.bytes.length ≤ extradataRoom) {i n : ℕ}
    (hn : i + n = streams.length) (acc : List AVStream) :
    ∃ ctx' made, readStreams i n ctx acc = some (ctx', acc ++ made) ∧
      List.Forall₂ (fun st st' => ∃ j info, streamInfoOf j st = some info ∧
        st' = streamOf st info st.codec.extradata) (streams.drop i) made := by
  induction n generalizing i ctx acc with
  | zero =>
    refine ⟨ctx, [], ?_, ?_⟩
    · rw [readStreams, List.append_nil]
    · rw [List.drop_eq_nil_of_le (by omega)]
      exact List.Forall₂.nil
  | succ n ih =>
    have hi : i < streams.length := by omega
    have hst : streams[i]? = some streams[i] := List.getElem?_eq_getElem hi
    obtain ⟨info, hinfo, hold⟩ := hfilled.record i _ hst
    have hextra := hfilled.extradata i _ hst (hroom _ (List.getElem_mem hi))
    rw [Nat.zero_add] at hinfo hold hextra
    have hfit : (i + 1) * sizeofStreamInfo ≤ ctx.streamInfos.length := by
      rw [hlength]
      exact Nat.mul_le_mul_right _ hi
    obtain ⟨ctx₁, hone⟩ := exists_readStream hinfo hfit hold hextra
      (lt_of_lt_of_le hi hmax) (hroom _ (List.getElem_mem hi)) acc
    have htable : ctx₁.streamInfos = ctx.streamInfos := (readStream_sameTable hone).streamInfos
    rw [← htable] at hfilled hlength
    obtain ⟨ctx', made, hrest, hmade⟩ := ih (i := i + 1) hfilled hlength
      (by omega) (acc ++ [streamOf streams[i] info streams[i].codec.extradata])
    refine ⟨ctx', streamOf streams[i] info streams[i].codec.extradata :: made, ?_, ?_⟩
    · rw [readStreams, hone, Option.bind_eq_bind, Option.bind_some]
      dsimp only
      rw [hrest, List.append_assoc]
      rfl
    · rw [List.drop_eq_getElem_cons hi]
      exact List.Forall₂.cons ⟨i, info, hinfo, rfl⟩ hmade

end Table

/-! ## Segments -/

section Segment

variable {rescale : Int64 → AVRational → AVRational → Int64} {ctx : SmemDecCtx}
  {info : MemoryInfo} {i : Fin smemMaxStream}

/-- `rebuild_timestamp` ends for every stream that has an entry in the arrays. -/
lemma rebuildTimestamp_spec (rescale : Int64 → AVRational → AVRational → Int64)
    (ctx : SmemDecCtx) (hi : slotOf info.index.toInt = some i) :
    ∃ ctx' ts, rebuildTimestamp rescale ctx info = some (ctx', ts) ∧ SameTable ctx ctx' := by
  rw [rebuildTimestamp, hi, Option.bind_eq_bind, Option.bind_some]
  dsimp only
  split
  · exact ⟨_, _, rfl, rfl, rfl⟩
  · split
    · split
      · exact ⟨_, _, rfl, rfl, rfl⟩
      · split
        · exact ⟨_, _, rfl, rfl, rfl⟩
        · exact ⟨_, _, rfl, rfl, rfl⟩
    · exact ⟨_, _, rfl, rfl, rfl⟩

/-- So does `if_free_frame`. -/
lemma ifFreeFrame_spec (h : Ready ctx) (hi : slotOf info.index.toInt = some i)
    (smemQueueSize : ℤ) :
    ∃ ctx' free, ifFreeFrame smemQueueSize ctx info = some (ctx', free) ∧ SameTable ctx ctx' := by
  unfold ifFreeFrame
  split
  · rename_i hlt
    obtain ⟨hnonneg, -⟩ := slotOf_eq_some hi
    rw [Int32.lt_iff_toInt_lt] at hlt
    have hfit : info.index.toInt.toNat * sizeofStreamInfo + sizeofStreamInfo
        ≤ ctx.streamInfos.length := by
      rw [h, ← Nat.succ_mul]
      exact Nat.mul_le_mul_right _ (by omega)
    obtain ⟨record, hload⟩ := exists_load hfit
    have hlength : record.length = sizeofStreamInfo := (load_eq_some_iff.mp hload).2
    have hrecord : streamInfoAt ctx.streamInfos info.index = some record := by
      have hle : 0 ≤ info.index := by
        rw [Int32.le_iff_toInt_le]
        exact hnonneg
      rw [streamInfoAt, if_pos hle]
      exact hload
    obtain ⟨streamInfo, hread⟩ := StreamInfo.exists_read (m := record) (by rw [hlength]; decide)
    simp only [hrecord, hread, hi, Option.bind_eq_bind, Option.bind_some]
    split
    · split
      · exact ⟨_, _, rfl, rfl, rfl⟩
      · exact ⟨_, _, rfl, rfl, rfl⟩
    · exact ⟨_, _, rfl, SameTable.refl ctx⟩
  · exact ⟨_, _, rfl, SameTable.refl ctx⟩

variable {segment : List UInt8} {data : Buffer}

/-- A segment whose stream has an entry in the arrays and whose payload lies inside it is taken,
and what is emitted is what its header says. -/
lemma receive_spec (rescale : Int64 → AVRational → AVRational → Int64) (h : Ready ctx)
    (hread : MemoryInfo.read segment = some info) (hi : slotOf info.index.toInt = some i)
    (hdata : payloadOf info segment = some data)
    (smemQueueSize : ℤ) :
    ∃ ctx' received, receive rescale smemQueueSize ctx segment = some (ctx', received) ∧
      ∀ pkt, received = .emitted pkt →
        pkt.streamIndex = info.index ∧ pkt.key = (info.isKey != 0) ∧ pkt.data = data := by
  obtain ⟨ctx₁, ts, hts, hsame₁⟩ := rebuildTimestamp_spec rescale ctx hi
  simp only [receive, hread, hts, Option.bind_eq_bind, Option.bind_some]
  cases ts with
  | none =>
    refine ⟨ctx₁, .skipped, rfl, ?_⟩
    intro pkt hpkt
    cases hpkt
  | some ts =>
    obtain ⟨outPts, outDts⟩ := ts
    obtain ⟨ctx₂, free, hfree, -⟩ := ifFreeFrame_spec (h.same hsame₁) hi smemQueueSize
    simp only [hfree, hdata, Option.bind_some]
    cases free with
    | true =>
      refine ⟨ctx₂, .dropped, rfl, ?_⟩
      intro pkt hpkt
      cases hpkt
    | false =>
      refine ⟨ctx₂, _, rfl, ?_⟩
      intro pkt hpkt
      cases hpkt
      exact ⟨rfl, rfl, rfl⟩

/-- Only streams that have an entry in the arrays are taken. -/
lemma slotOf_of_receive (hread : MemoryInfo.read segment = some info) {smemQueueSize : ℤ}
    {r : SmemDecCtx × Received} (h : receive rescale smemQueueSize ctx segment = some r) :
    ∃ i, slotOf info.index.toInt = some i := by
  rw [receive, hread, Option.bind_eq_bind, Option.bind_some] at h
  obtain ⟨r₁, hr₁, -⟩ := Option.bind_eq_some_iff.mp h
  obtain ⟨i, hi, -⟩ := Option.bind_eq_some_iff.mp hr₁
  exact ⟨i, hi⟩

lemma Ready.receive_sameTable (h : Ready ctx) {smemQueueSize : ℤ} {r : SmemDecCtx × Received}
    (hr : receive rescale smemQueueSize ctx segment = some r) : SameTable ctx r.1 := by
  obtain ⟨info, hread, hr'⟩ := Option.bind_eq_some_iff.mp hr
  obtain ⟨i, hi⟩ := slotOf_of_receive hread hr
  obtain ⟨ctx₁, ts, hts, hsame₁⟩ := rebuildTimestamp_spec rescale ctx hi
  simp only [hts, Option.bind_eq_bind, Option.bind_some] at hr'
  cases ts with
  | none =>
    obtain rfl := Option.some.inj hr'
    exact hsame₁
  | some ts =>
    obtain ⟨ctx₂, free, hfree, hsame₂⟩ := ifFreeFrame_spec (h.same hsame₁) hi smemQueueSize
    simp only [hfree, Option.bind_some] at hr'
    split at hr'
    · obtain rfl := Option.some.inj hr'
      exact hsame₁.trans hsame₂
    · obtain ⟨data, -, hr'⟩ := Option.bind_eq_some_iff.mp hr'
      obtain rfl := Option.some.inj hr'
      exact hsame₁.trans hsame₂

/-- A context without streams of its own, in which the frame follows the base stream by a
microsecond. -/
def following (dts : ℤ) : SmemDecCtx :=
  { SmemDecCtx.zero with
    baseStreamStart := true
    lastOutTs := fun j => if j = 0 then 1 else 0
    lastInTs := fun _ => dts
    inTimebase := fun _ => smemTimeBaseQ }

/-- Every such segment is emitted in some state of the demuxer. -/
lemma exists_emitted (rescale : Int64 → AVRational → AVRational → Int64)
    (hread : MemoryInfo.read segment = some info)
    (hi : slotOf info.index.toInt = some i) (hdata : payloadOf info segment = some data) :
    ∃ ctx ctx' pkt, Ready ctx ∧ receive rescale 0 ctx segment = some (ctx', .emitted pkt) := by
  set dts := (rescale info.dts smemTimeBaseQ smemTimeBaseQ).toInt with hdts
  obtain ⟨ctx₁, ts, hts, hsame⟩ : ∃ ctx₁ ts, rebuildTimestamp rescale (following dts) info
      = some (ctx₁, some ts) ∧ SameTable (following dts) ctx₁ := by
    rw [rebuildTimestamp, hi, Option.bind_eq_bind, Option.bind_some]
    dsimp only [following]
    rw [← hdts]
    by_cases hzero : i = 0
    · rw [if_pos hzero]
      exact ⟨_, _, rfl, rfl, rfl⟩
    · have hlate : ¬ (1 : ℤ) + 0 ≤ 0 := by decide
      have hnear : ¬ smemNumIfOutRange (1 + 0 - 0) 0 (5 * smemTimeBase) = true := by decide
      simp only [if_neg hzero, if_true, sub_self, if_neg hlate, if_neg hnear]
      exact ⟨_, _, rfl, rfl, rfl⟩
  have hfree : ifFreeFrame 0 ctx₁ info = some (ctx₁, false) := by
    have hneg : ¬ info.index < ctx₁.streamNumber := by
      have hnonneg := (slotOf_eq_some hi).1
      rw [hsame.streamNumber, Int32.lt_iff_toInt_lt]
      exact not_lt.mpr hnonneg
    rw [ifFreeFrame, if_neg hneg]
  have hready : Ready (following dts) := (Nat.zero_mul sizeofStreamInfo).symm
  have hreceive : receive rescale 0 (following dts) segment = some (ctx₁, .emitted {
      streamIndex := info.index
      pts := .ofInt ts.1
      dts := .ofInt ts.2
      key := info.isKey != 0
      data := data }) := by
    simp only [receive, hread, hts, hfree, hdata, Option.bind_eq_bind, Option.bind_some]
    rfl
  exact ⟨following dts, ctx₁, _, hready, hreceive⟩

end Segment

end SelfTestCode.Device
