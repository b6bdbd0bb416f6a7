import SelfTestCode.Device.Demuxer

/-!
# What the demuxer recovers

Muxer and demuxer at the two ends of a segment.  `TableRecovered` says that the streams the
demuxer makes are those the muxer was given; it holds exactly for at most 64 streams whose
extradata fit in the 2032 bytes a record has for them.  `PacketRecovered` says that a packet the
demuxer emits is the packet that was written; for raw video that needs a packet of the size of a
picture of the last video stream, because that is how many bytes the muxer copies.
-/

namespace SelfTestCode.Device

open Broker (Reply)

/-! ## Streams -/

/-- A stream of a type and with a codec and a format that the mapping functions list. -/
structure Listed (st : AVStream) : Prop where
  type : st.codec.codecType = .audio ∨ st.codec.codecType = .video
  codecId : st.codec.codecId ∈ av2smemCodecIdCases.map Prod.fst
  pixFmt : st.codec.codecType = .video → st.codec.pixFmt ∈ av2smemPixFmtCases.map Prod.fst
  sampleFmt : st.codec.codecType = .audio →
    st.codec.sampleFmt ∈ av2smemSampleFmtCases.map Prod.fst

/-- The demuxer's stream `b` is the muxer's stream `a`. -/
structure SameStream (a b : AVStream) : Prop where
  id : b.id = a.id
  codecType : b.codec.codecType = a.codec.codecType
  codecId : b.codec.codecId = a.codec.codecId
  video : a.codec.codecType = .video →
    b.codec.width = a.codec.width ∧ b.codec.height = a.codec.height ∧
      b.codec.pixFmt = a.codec.pixFmt
  audio : a.codec.codecType = .audio →
    b.codec.sampleRate = a.codec.sampleRate ∧ b.codec.channels = a.codec.channels ∧
      b.codec.sampleFmt = a.codec.sampleFmt
  extradata : b.codec.extradata = a.codec.extradata

lemma Listed.sameStream {st : AVStream} (h : Listed st) {i : ℕ} {info : StreamInfo}
    (hinfo : streamInfoOf i st = some info) :
    SameStream st (streamOf st info st.codec.extradata) := by
  obtain ⟨hcodec, hid, -, ⟨htype, -, hfirst, hsecond, hformat⟩ |
    ⟨htype, -, hfirst, hsecond, hformat⟩⟩ := streamInfoOf_eq_some hinfo
  · have hcodecId : smem2avCodecId info.codecId = st.codec.codecId := by
      rw [hcodec, smem2avCodecId_av2smemCodecId h.codecId]
    have hpixFmt : smem2avPixFmt info.format = st.codec.pixFmt := by
      rw [hformat, smem2avPixFmt_av2smemPixFmt (h.pixFmt htype)]
    rw [streamOf, if_pos htype]
    refine ⟨hid, htype.symm, hcodecId, fun _ => ⟨hfirst, hsecond, hpixFmt⟩, ?_, rfl⟩
    intro haudio
    rw [htype] at haudio
    cases haudio
  · have hcodecId : smem2avCodecId info.codecId = st.codec.codecId := by
      rw [hcodec, smem2avCodecId_av2smemCodecId h.codecId]
    have hsampleFmt : smem2avSampleFmt info.format = st.codec.sampleFmt := by
      rw [hformat, smem2avSampleFmt_av2smemSampleFmt (h.sampleFmt htype)]
    have hne : st.codec.codecType ≠ .video := by
      rw [htype]
      decide
    rw [streamOf, if_neg hne]
    exact ⟨hid, htype.symm, hcodecId, fun hvideo => absurd hvideo hne,
      fun _ => ⟨hfirst, hsecond, hsampleFmt⟩, rfl⟩

/-! ## The table of streams -/

/-- A segment into which one of the two functions has copied the table. -/
def Published (ctx : SmemEncCtx) (segment : List UInt8) : Prop :=
  ∃ env pkt memId, ffSmemWriteVideoPacket env ctx pkt = some (.published memId segment) ∨
    ffSmemWriteAudioPacket env ctx pkt = some (.published memId segment)

/-- The header is written, and from every segment with its table the demuxer makes the same
streams in the same order, inside the bounds of its objects. -/
def TableRecovered (avImageGetBufferSize : AVPixelFormat → Int32 → Int32 → Int32)
    (avctx : AVFormatContext) : Prop :=
  ∃ ctx, ffSmemWriteHeader avImageGetBufferSize avctx = some (.ok ctx) ∧
    ∀ segment, Published ctx segment →
      ∃ dec streams, ffSmemReadHeader avctx.filename segment = some (.ok (dec, streams)) ∧
        List.Forall₂ SameStream avctx.streams streams

section Table

variable {size : AVPixelFormat → Int32 → Int32 → Int32} {avctx : AVFormatContext}
  {streams : List AVStream} {ctx : SmemEncCtx} {segment : List UInt8}

lemma Published.carries (ha : Accepted size streams ctx) (h : Published ctx segment) :
    ∃ pkt bufSize memId data, Carries streams ctx pkt bufSize memId data segment := by
  obtain ⟨env, pkt, memId, hvideo | haudio⟩ := h
  · obtain ⟨-, -, data, -, hcarries⟩ := ha.of_published hvideo
    exact ⟨pkt, _, memId, data, hcarries⟩
  · obtain ⟨-, -, data, -, hcarries⟩ := ha.of_published haudio
    exact ⟨pkt, _, memId, data, hcarries⟩

/-- The demuxer takes the table of the muxer. -/
lemma getStreamInfo_of_published (ha : Accepted size streams ctx) (h : Published ctx segment)
    (dec : SmemDecCtx) :
    getStreamInfo dec segment = some { dec with
      streamNumber := ctx.streamNumber
      streamInfos := ctx.streamInfos } := by
  obtain ⟨pkt, bufSize, memId, data, hcarries⟩ := h.carries ha
  have hbound := ha.bound
  have hsize : (tableSize ctx.streamNumber).toInt
      = ((streams.length * sizeofStreamInfo : ℕ) : ℤ) := by
    rw [ha.streamNumber]
    exact toInt_tableSize (by omega)
  have hread := MemoryInfo.read_of_holds hcarries.header
  have hmalloc : avMalloc (tableSize ctx.streamNumber)
      = some (List.replicate (streams.length * sizeofStreamInfo) 0) := by
    rw [ha.streamNumber]
    exact avMalloc_tableSize hbound
  have hcopy : memcpyFrom segment (Int32.ofNat sizeofMemoryInfo) (tableSize ctx.streamNumber)
      = some ctx.streamInfos := by
    rw [memcpyFrom_eq_some_iff, hsize, Int.toNat_natCast, ← ha.length]
    exact ⟨by decide, Int.natCast_nonneg _, hcarries.table.load⟩
  rw [getStreamInfo, hread, Option.bind_eq_bind, Option.bind_some]
  show (avMalloc (tableSize ctx.streamNumber)).bind _ = _
  rw [hmalloc, Option.bind_some]
  show (memcpyFrom segment (Int32.ofNat sizeofMemoryInfo) (tableSize ctx.streamNumber)).bind _ = _
  rw [hcopy]
  rfl

/-- The demuxer reads the header of a published segment as far as the loop over the table goes. -/
lemma ffSmemReadHeader_of_published (ha : Accepted size streams ctx) (h : Published ctx segment)
    {filename : String} (hname : filename ≠ "") :
    ffSmemReadHeader filename segment = (readStreams 0 streams.length
      { SmemDecCtx.zero with
        streamNumber := ctx.streamNumber
        streamInfos := ctx.streamInfos } []).map .ok := by
  have hbound := ha.bound
  unfold sizeofStreamInfo at hbound
  have hnumber : ctx.streamNumber.toInt.toNat = streams.length := by
    rw [ha.streamNumber, toInt_ofNat (by omega), Int.toNat_natCast]
  rw [ffSmemReadHeader, if_neg hname, getStreamInfo_of_published ha h, Option.bind_eq_bind,
    Option.bind_some]
  dsimp only
  rw [hnumber]
  cases readStreams 0 streams.length _ [] <;> rfl

/-- A server that always has a segment. -/
def generousEnv (bytes : ℕ) : MuxerEnv where
  redisCommand := fun _ => some (.integer 1)
  shmat := fun _ => some (List.replicate bytes 0)
  shmdt := fun _ => true

lemma Accepted.obtained_generous (ha : Accepted size streams ctx) {bufSize : Int32}
    (hbuf : 0 ≤ bufSize.toInt)
    (hsmall : sizeofMemoryInfo + streams.length * sizeofStreamInfo + bufSize.toInt.toNat < 2 ^ 31) :
    Obtained
      (generousEnv (sizeofMemoryInfo + streams.length * sizeofStreamInfo + bufSize.toInt.toNat))
      ctx bufSize 1 (List.replicate
        (sizeofMemoryInfo + streams.length * sizeofStreamInfo + bufSize.toInt.toNat) 0) := by
  have hvalue : (memSizeOf ctx bufSize).toInt
      = ((sizeofMemoryInfo + streams.length * sizeofStreamInfo + bufSize.toInt.toNat : ℕ) : ℤ) := by
    rw [memSizeOf, Int32.toInt_add, ha.toInt_dataOffset, Nat.cast_add _ bufSize.toInt.toNat,
      Int.toNat_of_nonneg hbuf]
    apply Int.bmod_eq_of_le
    · omega
    · have hle := Int.toNat_of_nonneg hbuf
      omega
  have hmem : ¬ memSizeOf ctx bufSize ≤ 0 := by
    rw [Int32.le_iff_toInt_le, hvalue, show (0 : Int32).toInt = 0 from rfl, sizeofMemoryInfo]
    omega
  refine ⟨?_, by decide, rfl, rfl, ?_⟩
  · simp only [Client.smemGetShareMemory, Client.smemCreateProducer, if_true,
      Client.smemProducerGetShareMemory, hmem, if_false]
    rfl
  · rw [hvalue, List.length_replicate]

/-- A packet without data is published in one of its segments, so every table with a stream in it
reaches the demuxer. -/
lemma Accepted.exists_segment (ha : Accepted size streams ctx) (hpos : 0 < streams.length) :
    ∃ segment, Published ctx segment := by
  set pkt : AVPacket := ⟨0, 0, 0, true, Buffer.empty⟩ with hpkt
  have hbound := ha.bound
  have hempty : pkt.data.size.toInt = 0 := rfl
  have hobtained := ha.obtained_generous hempty.ge (by
    rw [hempty]
    simp only [sizeofMemoryInfo, sizeofStreamInfo] at hbound ⊢
    omega)
  have hindex : 0 ≤ pkt.streamIndex.toInt ∧ pkt.streamIndex.toInt < streams.length := by
    rw [show pkt.streamIndex.toInt = 0 from rfl]
    omega
  obtain ⟨segment, hsegment⟩ := ha.exists_published hobtained (by decide) (Nat.zero_le _) hindex
  exact ⟨segment, _, pkt, 1, Or.inr hsegment⟩

end Table

lemma TableRecovered.bounds {avImageGetBufferSize : AVPixelFormat → Int32 → Int32 → Int32}
    {avctx : AVFormatContext} (h : TableRecovered avImageGetBufferSize avctx)
    (hname : avctx.filename ≠ "") :
    avctx.streams.length ≤ smemMaxStream ∧
      ∀ st ∈ avctx.streams, st.codec.extradata.bytes.length ≤ extradataRoom := by
  obtain ⟨ctx, hheader, hrecovered⟩ := h
  have ha := accepted_of_ffSmemWriteHeader hheader
  obtain ⟨before, hfilled⟩ := ha.filled
  rcases Nat.eq_zero_or_pos avctx.streams.length with hzero | hpos
  · have hnil := List.eq_nil_of_length_eq_zero hzero
    rw [hnil]
    exact ⟨Nat.zero_le _, fun st hst => absurd hst List.not_mem_nil⟩
  obtain ⟨segment, hsegment⟩ := ha.exists_segment hpos
  obtain ⟨dec, made, hread, -⟩ := hrecovered segment hsegment
  rw [ffSmemReadHeader_of_published ha hsegment hname, Option.map_eq_some_iff] at hread
  obtain ⟨r, hr, -⟩ := hread
  have hall := readStreams_inv hfilled ha.length (Nat.zero_add _) hr
  constructor
  · have hlast := (hall (avctx.streams.length - 1) _ (Nat.zero_le _)
      (List.getElem?_eq_getElem (by omega))).1
    omega
  · intro st hst
    obtain ⟨k, hk⟩ := List.getElem?_of_mem hst
    exact (hall k st (Nat.zero_le k) hk).2

/-- The demuxer recovers the streams of the muxer exactly when it has array entries for all of them
and the extradata of each fit in a record. -/
theorem table_recovered_iff (avImageGetBufferSize : AVPixelFormat → Int32 → Int32 → Int32)
    (avctx : AVFormatContext) (hname : avctx.filename ≠ "")
    (hlisted : ∀ st ∈ avctx.streams, Listed st) :
    TableRecovered avImageGetBufferSize avctx ↔
      avctx.streams.length ≤ smemMaxStream ∧
        ∀ st ∈ avctx.streams, st.codec.extradata.bytes.length ≤ extradataRoom := by
  constructor
  · intro h
    exact h.bounds hname
  · rintro ⟨hmax, hroom⟩
    have hbound : avctx.streams.length * sizeofStreamInfo ≤ 2147483615 := by
      have h64 : smemMaxStream = 64 := rfl
      unfold sizeofStreamInfo
      omega
    have hfit : ∀ k st, avctx.streams[k]? = some st →
        k * sizeofStreamInfo + extradataOffset + st.codec.extradata.bytes.length
          ≤ avctx.streams.length * sizeofStreamInfo := by
      intro k st hk
      have hlt := (List.getElem?_eq_some_iff.mp hk).1
      have hlen := hroom st (List.mem_of_getElem? hk)
      simp only [extradataRoom, extradataOffset, sizeofStreamInfo] at hlen ⊢
      omega
    obtain ⟨ctx, hheader⟩ := exists_ffSmemWriteHeader hname hbound
      (fun st hst => (hlisted st hst).type) hfit
    have ha := accepted_of_ffSmemWriteHeader hheader
    obtain ⟨before, hfilled⟩ := ha.filled
    refine ⟨ctx, hheader, ?_⟩
    intro segment hsegment
    set start : SmemDecCtx := { SmemDecCtx.zero with
      streamNumber := ctx.streamNumber
      streamInfos := ctx.streamInfos } with hstart
    have htable : Filled 0 avctx.streams before start.streamInfos := hfilled
    obtain ⟨dec, made, hread, hmade⟩ :=
      exists_readStreams htable ha.length hmax hroom (Nat.zero_add _) []
    refine ⟨dec, made, ?_, ?_⟩
    · rw [ffSmemReadHeader_of_published ha hsegment hname, ← hstart, hread]
      rfl
    · rw [List.drop_zero] at hmade
      refine List.Forall₂.imp ?_ ((List.forall₂_and_left _ _).mpr ⟨hlisted, hmade⟩)
      rintro st st' ⟨hst, i, info, hinfo, rfl⟩
      exact hst.sameStream hinfo

/-! ## A camera with sound -/

/-- The size of a picture in the format YUV420P. -/
def yuv420pSize : AVPixelFormat → Int32 → Int32 → Int32 := fun _ width height =>
  width * height * 3 / 2

def h264Stream (extradata : Buffer) : AVStream where
  id := 256
  codec := {
    codecType := .video
    codecId := .h264
    timeBase := ⟨1, 25⟩
    width := 1280
    height := 720
    pixFmt := .yuv420p
    sampleRate := 0
    channels := 0
    sampleFmt := .none
    extradata := extradata }

def aacStream : AVStream where
  id := 257
  codec := {
    codecType := .audio
    codecId := .aac
    timeBase := ⟨1, 44100⟩
    width := 0
    height := 0
    pixFmt := .none
    sampleRate := 44100
    channels := 2
    sampleFmt := .fltp
    extradata := ⟨[0x12, 0x10], by decide⟩ }

def camera (extradata : Buffer) : AVFormatContext where
  filename := "camera"
  streams := [h264Stream extradata, aacStream]

lemma camera_listed (extradata : Buffer) : ∀ st ∈ (camera extradata).streams, Listed st := by
  intro st hst
  rcases List.mem_cons.mp hst with rfl | hst
  · have hcodec : AVCodecID.h264 ∈ av2smemCodecIdCases.map Prod.fst := by decide
    have hformat : AVPixelFormat.yuv420p ∈ av2smemPixFmtCases.map Prod.fst := by decide
    refine ⟨Or.inr rfl, hcodec, fun _ => hformat, ?_⟩
    intro haudio
    cases haudio
  · obtain rfl := List.mem_singleton.mp hst
    have hcodec : AVCodecID.aac ∈ av2smemCodecIdCases.map Prod.fst := by decide
    have hformat : AVSampleFormat.fltp ∈ av2smemSampleFmtCases.map Prod.fst := by decide
    refine ⟨Or.inl rfl, hcodec, ?_, fun _ => hformat⟩
    intro hvideo
    cases hvideo

theorem table_recovered_iff_camera :
    TableRecovered yuv420pSize (camera ⟨[0x01, 0x64, 0x00, 0x1f], by decide⟩) := by
  refine (table_recovered_iff yuv420pSize _ (by decide) (camera_listed _)).mpr ⟨by decide, ?_⟩
  intro st hst
  rcases List.mem_cons.mp hst with rfl | hst
  · decide
  · obtain rfl := List.mem_singleton.mp hst
    decide

/-- One byte more than a record has room for. -/
def longExtradata : Buffer := ⟨List.replicate 2033 0xff, by rw [List.length_replicate]; decide⟩

/-- The muxer accepts it, and writes the `index` of the second record over its last byte; the
demuxer does not recover the streams. -/
theorem table_not_recovered :
    (∃ ctx, ffSmemWriteHeader yuv420pSize (camera longExtradata) = some (.ok ctx) ∧
      ¬ Holds ctx.streamInfos extradataOffset longExtradata.bytes) ∧
    ¬ TableRecovered yuv420pSize (camera longExtradata) := by
  have hlength : longExtradata.bytes.length = 2033 := List.length_replicate
  constructor
  · have hfit : ∀ k st, (camera longExtradata).streams[k]? = some st →
        k * sizeofStreamInfo + extradataOffset + st.codec.extradata.bytes.length
          ≤ (camera longExtradata).streams.length * sizeofStreamInfo := by
      have htwo : (camera longExtradata).streams.length = 2 := rfl
      rw [htwo]
      rintro (_ | _ | k) st hk
      · obtain rfl := Option.some.inj hk
        have hlong : (h264Stream longExtradata).codec.extradata.bytes.length = 2033 := hlength
        rw [hlong]
        decide
      · obtain rfl := Option.some.inj hk
        decide
      · cases hk
    obtain ⟨ctx, hheader⟩ : ∃ ctx, ffSmemWriteHeader yuv420pSize (camera longExtradata)
        = some (.ok ctx) :=
      exists_ffSmemWriteHeader (by decide) (by decide)
        (fun st hst => (camera_listed longExtradata st hst).type) hfit
    refine ⟨ctx, hheader, ?_⟩
    intro hold
    obtain ⟨before, hfilled⟩ := (accepted_of_ffSmemWriteHeader hheader).filled
    obtain ⟨info, hinfo, hrecord⟩ := hfilled.record 1 aacStream rfl
    obtain rfl := Option.some.inj hinfo
    have hindex : Holds ctx.streamInfos 2072 [1] := hrecord.left.left
    have hlast : Holds ctx.streamInfos 2072 [0xff] := by
      have hsplit : longExtradata.bytes = List.replicate 2032 0xff ++ [0xff] :=
        List.replicate_succ'
      rw [hsplit] at hold
      have hright := hold.right
      rwa [List.length_replicate] at hright
    cases hindex.unique hlast rfl
  · intro h
    have hroom := (h.bounds (by decide)).2 _ List.mem_cons_self
    have hlong : (h264Stream longExtradata).codec.extradata.bytes.length = 2033 := hlength
    rw [hlong] at hroom
    exact absurd hroom (by decide)

/-! ## The states of the demuxer -/

section States

variable {size : AVPixelFormat → Int32 → Int32 → Int32} {streams : List AVStream}
  {ctx : SmemEncCtx} {segment : List UInt8}

/-- The header of a published segment leaves the demuxer with a table of the length it says. -/
lemma ready_of_ffSmemReadHeader (ha : Accepted size streams ctx) (hp : Published ctx segment)
    {filename : String} {dec : SmemDecCtx} {made : List AVStream}
    (h : ffSmemReadHeader filename segment = some (.ok (dec, made))) : Ready dec := by
  have hname : filename ≠ "" := by
    intro hname
    rw [ffSmemReadHeader, if_pos hname] at h
    cases Option.some.inj h
  rw [ffSmemReadHeader_of_published ha hp hname, Option.map_eq_some_iff] at h
  obtain ⟨r, hr, hok⟩ := h
  obtain rfl := Except.ok.inj hok
  refine Ready.same ?_ (readStreams_sameTable hr)
  have hbound := ha.bound
  unfold sizeofStreamInfo at hbound
  rw [Ready]
  dsimp only
  rw [ha.length, ha.streamNumber, toInt_ofNat (by omega), Int.toNat_natCast]

/-- Segment after segment, with the size of the queue at each. -/
def receiveAll (avRescaleQ : Int64 → AVRational → AVRational → Int64) :
    List (ℤ × List UInt8) → SmemDecCtx → Option SmemDecCtx
  | [], dec => some dec
  | (smemQueueSize, segment) :: rest, dec => do
    let (dec, _) ← receive avRescaleQ smemQueueSize dec segment
    receiveAll avRescaleQ rest dec

/-- So the table is there in every state the demuxer gets to. -/
lemma ready_of_receiveAll {rescale : Int64 → AVRational → AVRational → Int64}
    {arrivals : List (ℤ × List UInt8)} {dec dec' : SmemDecCtx} (h : Ready dec)
    (hrun : receiveAll rescale arrivals dec = some dec') : Ready dec' := by
  induction arrivals generalizing dec with
  | nil =>
    obtain rfl := Option.some.inj hrun
    exact h
  | cons arrival rest ih =>
    obtain ⟨r, hr, hrest⟩ := Option.bind_eq_some_iff.mp hrun
    exact ih (h.same (h.receive_sameTable hr)) hrest

end States

/-! ## Packets -/

/-- Raw video, which `ff_smem_write_packet` hands to `ff_smem_write_video_packet`. -/
def IsRawVideo (st : AVStream) : Prop := st.codec.codecType = .video ∧ st.codec.codecId = .rawvideo

instance (st : AVStream) : Decidable (IsRawVideo st) :=
  inferInstanceAs (Decidable (st.codec.codecType = .video ∧ st.codec.codecId = .rawvideo))

/-- The bytes of a packet of the stream that the muxer copies. -/
def copiedSize (ctx : SmemEncCtx) (st : AVStream) (pkt : AVPacket) : Int32 :=
  if IsRawVideo st then ctx.picSize else pkt.data.size

/-- The packet is published, with all accesses inside the packet and inside the bytes that were
asked for; and in every state of the demuxer its segment is taken, and gives back the packet if it
gives one. -/
def PacketRecovered (avRescaleQ : Int64 → AVRational → AVRational → Int64) (env : MuxerEnv)
    (avctx : AVFormatContext) (ctx : SmemEncCtx) (pkt : AVPacket) : Prop :=
  ∃ memId segment, ffSmemWritePacket env avctx ctx pkt = some (.ok (.published memId segment)) ∧
    ∀ smemQueueSize dec, Ready dec → ∃ dec' received,
      receive avRescaleQ smemQueueSize dec segment = some (dec', received) ∧
      ∀ p, received = .emitted p →
        p.streamIndex = pkt.streamIndex ∧ p.key = pkt.key ∧ p.data = pkt.data

section Packet

variable {size : AVPixelFormat → Int32 → Int32 → Int32}
  {rescale : Int64 → AVRational → AVRational → Int64} {avctx : AVFormatContext}
  {ctx : SmemEncCtx} {pkt : AVPacket} {env : MuxerEnv} {st : AVStream}

/-- An accepted stream is audio or video, and its packets take one of the two ways. -/
lemma ffSmemWritePacket_eq (ha : Accepted size avctx.streams ctx) (hindex : 0 ≤ pkt.streamIndex)
    (hst : avctx.streams[pkt.streamIndex.toInt.toNat]? = some st) :
    ffSmemWritePacket env avctx ctx pkt
      = (writePacketOf (copiedSize ctx st pkt) env ctx pkt).map .ok := by
  obtain ⟨before, hfilled⟩ := ha.filled
  obtain ⟨info, hinfo, -⟩ := hfilled.record _ st hst
  obtain ⟨-, -, -, hkind⟩ := streamInfoOf_eq_some hinfo
  rw [ffSmemWritePacket, if_pos hindex, hst, Option.bind_eq_bind, Option.bind_some, copiedSize]
  dsimp only
  rcases hkind with ⟨htype, -⟩ | ⟨htype, -⟩
  · rw [htype]
    dsimp only
    by_cases hraw : st.codec.codecId = .rawvideo
    · rw [if_pos hraw, if_pos ⟨htype, hraw⟩]
      rfl
    · rw [if_neg hraw, if_neg fun h => hraw h.2]
      rfl
  · have hnot : ¬ IsRawVideo st := by
      intro hraw
      rw [hraw.1] at htype
      cases htype
    rw [htype, if_neg hnot]
    rfl

variable {bufSize memId : Int32} {data segment : List UInt8}

/-- The demuxer finds the payload where the muxer has put it. -/
lemma payload_of_carries (ha : Accepted size avctx.streams ctx) (hbuf : 0 ≤ bufSize.toInt)
    (hlength : data.length = bufSize.toInt.toNat)
    (hc : Carries avctx.streams ctx pkt bufSize memId data segment) :
    ∃ b : Buffer, b.bytes = data ∧
      payloadOf (memoryInfoOf memId bufSize ctx pkt) segment = some b := by
  have hlt := bufSize.toInt_lt
  have hdata : data.length < 2 ^ 31 := by omega
  have hoff := ha.toInt_dataOffset
  refine ⟨⟨data, hdata⟩, rfl, ?_⟩
  have hnonneg : 0 ≤ (memoryInfoOf memId bufSize ctx pkt).dataOffset ∧
      0 ≤ (memoryInfoOf memId bufSize ctx pkt).dataSize := by
    constructor
    · rw [Int32.le_iff_toInt_le]
      exact le_of_le_of_eq (Int.natCast_nonneg _) hoff.symm
    · rw [Int32.le_iff_toInt_le]
      exact hbuf
  rw [payloadOf, if_pos hnonneg, loadBuffer_eq_some_iff]
  change load segment (Int32.ofNat sizeofMemoryInfo + ctx.streamInfoSize).toInt.toNat
    bufSize.toInt.toNat = some data
  rw [hoff, Int.toNat_natCast, ← hlength]
  exact hc.payload.load

lemma isKey_memoryInfoOf : ((memoryInfoOf memId bufSize ctx pkt).isKey != 0) = pkt.key := by
  rw [memoryInfoOf]
  dsimp only
  cases pkt.key <;> rfl

/-- A segment that carries the payload of a packet gives the packet back exactly when its stream
has an entry in the arrays of the demuxer and the payload is all of its data. -/
lemma Carries.recovered_iff (ha : Accepted size avctx.streams ctx) (hbuf : 0 ≤ bufSize.toInt)
    (hlength : data.length = bufSize.toInt.toNat) (hindex : 0 ≤ pkt.streamIndex.toInt)
    (hc : Carries avctx.streams ctx pkt bufSize memId data segment) :
    (∀ smemQueueSize dec, Ready dec → ∃ dec' received,
      receive rescale smemQueueSize dec segment = some (dec', received) ∧
      ∀ p, received = .emitted p →
        p.streamIndex = pkt.streamIndex ∧ p.key = pkt.key ∧ p.data = pkt.data) ↔
      pkt.streamIndex.toInt < smemMaxStream ∧ data = pkt.data.bytes := by
  have hread := MemoryInfo.read_of_holds hc.header
  obtain ⟨b, hb, hpayload⟩ := payload_of_carries ha hbuf hlength hc
  constructor
  · intro h
    have hready : Ready SmemDecCtx.zero := (Nat.zero_mul sizeofStreamInfo).symm
    obtain ⟨dec', received, hreceive, -⟩ := h 0 SmemDecCtx.zero hready
    obtain ⟨i, hi⟩ := slotOf_of_receive hread hreceive
    refine ⟨(slotOf_eq_some hi).2, ?_⟩
    obtain ⟨dec, dec', p, hdec, hemitted⟩ := exists_emitted rescale hread hi hpayload
    obtain ⟨_, _, hreceive', hp'⟩ := h 0 dec hdec
    obtain ⟨_, _, hspec, hp⟩ := receive_spec rescale hdec hread hi hpayload 0
    rw [hemitted] at hreceive' hspec
    cases hreceive'
    cases hspec
    have hsame : b = pkt.data := (hp p rfl).2.2.symm.trans (hp' p rfl).2.2
    rw [← hb, hsame]
  · rintro ⟨hlt, hdata⟩ smemQueueSize dec hdec
    have hi : slotOf pkt.streamIndex.toInt = some ⟨pkt.streamIndex.toInt.toNat, by omega⟩ :=
      dif_pos ⟨hindex, hlt⟩
    obtain ⟨dec', received, hreceive, hp⟩ :=
      receive_spec rescale hdec hread hi hpayload smemQueueSize
    refine ⟨dec', received, hreceive, ?_⟩
    intro p hemitted
    obtain ⟨hstream, hkey, hdata'⟩ := hp p hemitted
    refine ⟨hstream, hkey.trans isKey_memoryInfoOf, hdata'.trans ?_⟩
    exact Buffer.ext (hb.trans hdata)

/-- A packet that is recovered was copied whole. -/
lemma PacketRecovered.copied (h : PacketRecovered rescale env avctx ctx pkt)
    (ha : Accepted size avctx.streams ctx) (hindex : 0 ≤ pkt.streamIndex)
    (hst : avctx.streams[pkt.streamIndex.toInt.toNat]? = some st) :
    pkt.streamIndex.toInt < smemMaxStream ∧ copiedSize ctx st pkt = pkt.data.size := by
  obtain ⟨memId, filled, hwrite, hrecovered⟩ := h
  rw [ffSmemWritePacket_eq ha hindex hst, Option.map_eq_some_iff] at hwrite
  obtain ⟨written, hwritten, hok⟩ := hwrite
  obtain rfl := Except.ok.inj hok
  obtain ⟨hbuf, -, data, hload, hc⟩ := ha.of_published hwritten
  have hlength := (load_eq_some_iff.mp hload).2
  have hnonneg : 0 ≤ pkt.streamIndex.toInt := Int32.le_iff_toInt_le.mp hindex
  obtain ⟨hslot, hdata⟩ := (hc.recovered_iff ha hbuf hlength hnonneg).mp hrecovered
  refine ⟨hslot, ?_⟩
  rw [← Int32.toInt_inj, Buffer.toInt_size, ← hdata, hlength]
  omega

end Packet

/-- The demuxer recovers a packet for which the muxer has got a segment exactly when its stream is
one of the first 64 and, for raw video, its size is that of a picture of the last video stream. -/
theorem packet_recovered_iff (avImageGetBufferSize : AVPixelFormat → Int32 → Int32 → Int32)
    (avRescaleQ : Int64 → AVRational → AVRational → Int64) (avctx : AVFormatContext)
    (ctx : SmemEncCtx) (pkt : AVPacket) (env : MuxerEnv) (st : AVStream) (memId : Int32)
    (segment : List UInt8)
    (hheader : ffSmemWriteHeader avImageGetBufferSize avctx = some (.ok ctx))
    (hindex : 0 ≤ pkt.streamIndex)
    (hst : avctx.streams[pkt.streamIndex.toInt.toNat]? = some st)
    (hsegment : Obtained env ctx (copiedSize ctx st pkt) memId segment) :
    PacketRecovered avRescaleQ env avctx ctx pkt ↔
      pkt.streamIndex.toInt < smemMaxStream ∧
        (IsRawVideo st → pkt.data.size = lastPicSize avImageGetBufferSize avctx.streams 0) := by
  have ha := accepted_of_ffSmemWriteHeader hheader
  have hnonneg : 0 ≤ pkt.streamIndex.toInt := Int32.le_iff_toInt_le.mp hindex
  have hlt : pkt.streamIndex.toInt < avctx.streams.length := by
    have hlt := (List.getElem?_eq_some_iff.mp hst).1
    omega
  -- the condition says that all data are copied
  have hcopied : (IsRawVideo st → pkt.data.size = lastPicSize avImageGetBufferSize avctx.streams 0)
      ↔ copiedSize ctx st pkt = pkt.data.size := by
    rw [copiedSize, ← ha.picSize]
    split
    · rename_i hraw
      exact ⟨fun h => (h hraw).symm, fun h _ => h.symm⟩
    · rename_i hraw
      exact ⟨fun _ => rfl, fun _ h => absurd h hraw⟩
  rw [hcopied]
  constructor
  · intro h
    exact h.copied ha hindex hst
  · rintro ⟨hslot, hall⟩
    have hsize : (copiedSize ctx st pkt).toInt = pkt.data.bytes.length := by
      rw [hall, Buffer.toInt_size]
    obtain ⟨filled, hfilled⟩ :=
      ha.exists_published hsegment (by omega) (by omega) ⟨hnonneg, hlt⟩
    obtain ⟨hbuf, -, data, hload, hc⟩ := ha.of_published hfilled
    have hlength := (load_eq_some_iff.mp hload).2
    have hdata : data = pkt.data.bytes := by
      rw [hsize, Int.toNat_natCast, (holds_self pkt.data.bytes).load] at hload
      exact (Option.some.inj hload).symm
    refine ⟨memId, filled, ?_, (hc.recovered_iff ha hbuf hlength hnonneg).mpr ⟨hslot, hdata⟩⟩
    rw [ffSmemWritePacket_eq ha hindex hst, hfilled, Option.map_some]

/-! ## Two raw pictures -/

/-- Raw video of the given width, two rows high. -/
def rawStream (width : Int32) : AVStream where
  id := 256
  codec := {
    codecType := .video
    codecId := .rawvideo
    timeBase := ⟨1, 25⟩
    width := width
    height := 2
    pixFmt := .yuv420p
    sampleRate := 0
    channels := 0
    sampleFmt := .none
    extradata := Buffer.empty }

/-- A large picture and a small one. -/
def pictures : AVFormatContext where
  filename := "pictures"
  streams := [rawStream 4, rawStream 2]

lemma exists_pictures : ∃ ctx, ffSmemWriteHeader yuv420pSize pictures = some (.ok ctx) := by
  apply exists_ffSmemWriteHeader (by decide) (by decide)
  · intro st hst
    rcases List.mem_cons.mp hst with rfl | hst
    · exact Or.inr rfl
    · obtain rfl := List.mem_singleton.mp hst
      exact Or.inr rfl
  · rintro (_ | _ | k) st hk
    · obtain rfl := Option.some.inj hk
      decide
    · obtain rfl := Option.some.inj hk
      decide
    · cases hk

/-- A packet of the given size. -/
def picture (index : Int32) (data : Buffer) : AVPacket where
  streamIndex := index
  pts := 0
  dts := 0
  key := true
  data := data

/-- A picture of the second stream. -/
def smallPicture : AVPacket := picture 1 ⟨[1, 2, 3, 4, 5, 6], by decide⟩

/-- A picture of the first stream. -/
def largePicture : AVPacket := picture 0 ⟨[1, 2, 3, 4, 5, 6, 7, 8, 9, 10, 11, 12], by decide⟩

/-- `av_rescale_q`, which rounds to the nearest value. -/
def avRescaleQ (a : Int64) (bq cq : AVRational) : Int64 :=
  let b := bq.num.toInt * cq.den.toInt
  let c := cq.num.toInt * bq.den.toInt
  if c ≤ 0 ∨ b < 0 then Int64.minValue
  else if a < 0 then Int64.ofInt (-((-a.toInt * b + c / 2) / c))
  else Int64.ofInt ((a.toInt * b + c / 2) / c)

/-- The muxer copies six bytes of any packet of the two streams. -/
lemma pictures_copied {ctx : SmemEncCtx} (ha : Accepted yuv420pSize pictures.streams ctx)
    (width : Int32) (pkt : AVPacket) : copiedSize ctx (rawStream width) pkt = 6 := by
  rw [copiedSize, if_pos ⟨rfl, rfl⟩, ha.picSize]
  decide

theorem packet_recovered_iff_smallPicture :
    ∃ ctx env memId segment, ffSmemWriteHeader yuv420pSize pictures = some (.ok ctx) ∧
      Obtained env ctx (copiedSize ctx (rawStream 2) smallPicture) memId segment ∧
      PacketRecovered avRescaleQ env pictures ctx smallPicture := by
  obtain ⟨ctx, hheader⟩ := exists_pictures
  have ha := accepted_of_ffSmemWriteHeader hheader
  have hcopied := pictures_copied ha 2 smallPicture
  have hnonneg : 0 ≤ (copiedSize ctx (rawStream 2) smallPicture).toInt := by
    rw [hcopied]
    decide
  have hobtained := ha.obtained_generous hnonneg (by rw [hcopied]; decide)
  refine ⟨ctx, _, _, _, hheader, hobtained, ?_⟩
  refine (packet_recovered_iff yuv420pSize avRescaleQ pictures ctx smallPicture _ (rawStream 2) _ _
    hheader (by decide) rfl hobtained).mpr ⟨by decide, fun _ => by decide⟩

/-- Of a picture of the first stream, twelve bytes, the muxer copies six. -/
theorem packet_not_recovered :
    ∃ ctx env memId segment, ffSmemWriteHeader yuv420pSize pictures = some (.ok ctx) ∧
      Obtained env ctx (copiedSize ctx (rawStream 4) largePicture) memId segment ∧
      ¬ PacketRecovered avRescaleQ env pictures ctx largePicture := by
  obtain ⟨ctx, hheader⟩ := exists_pictures
  have ha := accepted_of_ffSmemWriteHeader hheader
  have hcopied := pictures_copied ha 4 largePicture
  have hnonneg : 0 ≤ (copiedSize ctx (rawStream 4) largePicture).toInt := by
    rw [hcopied]
    decide
  have hobtained := ha.obtained_generous hnonneg (by rw [hcopied]; decide)
  refine ⟨ctx, _, _, _, hheader, hobtained, ?_⟩
  intro h
  have hsize := (h.copied ha (by decide) rfl).2
  rw [hcopied] at hsize
  exact absurd hsize (by decide)

end SelfTestCode.Device
