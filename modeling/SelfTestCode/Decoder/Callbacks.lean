import SelfTestCode.Framework.Ring
import SelfTestCode.Framework.Transition
import Mathlib.Logic.Function.Basic

/-!
# The hardware decoder

`nvenc_dec.c`.  `nvenc_decode_frame` hands a packet to the parser of the driver, which calls back
on the same thread: `HandleVideoSequence` when it knows the format, `HandlePictureDecode` when a
picture can be decoded, `HandlePictureDisplay` when one is to be shown.  The last one copies the
picture to host memory and queues it as a frame; the next call of `nvenc_decode_frame` returns the
oldest frame of the queue before it parses anything.

The parser and the driver are not part of the repository.  A packet here comes with the list of
callbacks that the parser makes for it, and a callback with the answers of the driver and of the
allocator.  The waiting loops sleep until some other thread has changed the context; there is none,
and so they get a number of turns, their `patience`, after which they are `asleep`.  An array
index out of range is `outside`.
-/

namespace SelfTestCode.Decoder

/-! ## The context -/

/-- `NVDEC_MAX_QUEUE_SIZE`. -/
abbrev nvdecMaxQueueSize : ℕ := 20

/-- Memory from `av_malloc`: the size that was asked for, and the bytes written from its start. -/
structure Block where
  size : Int32
  bytes : List UInt8
  deriving DecidableEq

structure DecodeFrame where
  decodeWidth : Int32
  decodeHeight : Int32
  decodeLinesize : Int32
  data : Block
  dataSize : Int32
  pts : Int64
  deriving DecidableEq

/-- The fields of `CUVIDPARSERDISPINFO` that the callback reads itself. -/
structure CuvidParserDispInfo where
  pictureIndex : Int32
  timestamp : Int64
  deriving DecidableEq

/-- The fields of `CUVIDDECODECREATEINFO` that are read again. -/
structure CuvidDecodeCreateInfo where
  codecType : Int32
  ulWidth : UInt64
  ulHeight : UInt64
  chromaFormat : Int32
  deriving DecidableEq

/-- The part of the context that makes the pictures; `pFrameYUV` is the first of the host buffers,
the only one that is used. -/
structure PictureSource where
  videoCodec : Int32
  hDecoder : Bool
  videoDecodeCreateInfo : CuvidDecodeCreateInfo
  pFrameYUV : Option (ℕ → UInt8)

/-- `NvencDecContext`, with the two queues. -/
structure NvencDecContext extends PictureSource where
  aFrameQueue : List DecodeFrame
  nFrameQueueReadPosition : ℕ
  nFramesInFrameQueue : ℕ
  nReadPosition : ℕ
  nFramesInQueue : ℕ
  aDisplayQueue : List CuvidParserDispInfo
  aIsFrameInUse : Fin nvdecMaxQueueSize → Bool
  bEndOfDecode : Bool
  haveDecodedFrames : Bool

/-- The context after `nvenc_decode_init`; FFmpeg has cleared it, and nothing sets
`bEndOfDecode`. -/
def nvencDecodeInit (videoCodec : Int32) : NvencDecContext where
  videoCodec := videoCodec
  hDecoder := false
  videoDecodeCreateInfo := ⟨0, 0, 0, 0⟩
  pFrameYUV := none
  aFrameQueue := List.replicate nvdecMaxQueueSize ⟨0, 0, 0, ⟨0, []⟩, 0, 0⟩
  nFrameQueueReadPosition := 0
  nFramesInFrameQueue := 0
  nReadPosition := 0
  nFramesInQueue := 0
  aDisplayQueue := List.replicate nvdecMaxQueueSize ⟨0, 0⟩
  aIsFrameInUse := fun _ => false
  bEndOfDecode := false
  haveDecodedFrames := false

/-- Why a call does not return. -/
inductive Stuck
  | outside
  | asleep
  deriving DecidableEq

/-- An index into `aIsFrameInUse`. -/
def pictureSlot (pictureIndex : Int32) : Except Stuck (Fin nvdecMaxQueueSize) :=
  if h : 0 ≤ pictureIndex.toInt ∧ pictureIndex.toInt < nvdecMaxQueueSize then
    .ok ⟨pictureIndex.toInt.toNat, by omega⟩
  else .error .outside

/-! ## The queues -/

/-- The loop of `frame_enqueue` and `pic_enqueue`: it places its entry as soon as there is room, or
sleeps until `bEndOfDecode`. -/
def placeOrSleep (place : NvencDecContext → Option NvencDecContext) :
    ℕ → NvencDecContext → Except Stuck NvencDecContext
  | 0, _ => .error .asleep
  | patience + 1, ctx =>
    match place ctx with
    | some ctx' => .ok ctx'
    | none => if ctx.bEndOfDecode then .ok ctx else placeOrSleep place patience ctx

def placeFrame (pFrame : DecodeFrame) (ctx : NvencDecContext) : Option NvencDecContext :=
  if ctx.nFramesInFrameQueue < nvdecMaxQueueSize then
    let iWritePosition :=
      (ctx.nFrameQueueReadPosition + ctx.nFramesInFrameQueue) % nvdecMaxQueueSize
    some { ctx with
      aFrameQueue := ctx.aFrameQueue.set iWritePosition pFrame
      nFramesInFrameQueue := ctx.nFramesInFrameQueue + 1 }
  else none

def frameEnqueue (patience : ℕ) (ctx : NvencDecContext) (pFrame : DecodeFrame) :
    Except Stuck NvencDecContext :=
  placeOrSleep (placeFrame pFrame) patience ctx

def frameDequeue (ctx : NvencDecContext) : Option DecodeFrame × NvencDecContext :=
  if 0 < ctx.nFramesInFrameQueue then
    let iEntry := ctx.nFrameQueueReadPosition
    (ctx.aFrameQueue[iEntry]?, { ctx with
      nFrameQueueReadPosition := (iEntry + 1) % nvdecMaxQueueSize
      nFramesInFrameQueue := ctx.nFramesInFrameQueue - 1 })
  else (none, ctx)

def placePicture (pPicParams : CuvidParserDispInfo) (ctx : NvencDecContext) :
    Option NvencDecContext :=
  if ctx.nFramesInQueue < nvdecMaxQueueSize then
    let iWritePosition := (ctx.nReadPosition + ctx.nFramesInQueue) % nvdecMaxQueueSize
    some { ctx with
      aDisplayQueue := ctx.aDisplayQueue.set iWritePosition pPicParams
      nFramesInQueue := ctx.nFramesInQueue + 1 }
  else none

def picEnqueue (patience : ℕ) (ctx : NvencDecContext) (pPicParams : CuvidParserDispInfo) :
    Except Stuck NvencDecContext := do
  let i ← pictureSlot pPicParams.pictureIndex
  placeOrSleep (placePicture pPicParams) patience
    { ctx with aIsFrameInUse := Function.update ctx.aIsFrameInUse i true }

/-- `pic_dequeue`; the index of an empty queue is −1, its timestamp is never read. -/
def picDequeue (ctx : NvencDecContext) : CuvidParserDispInfo × NvencDecContext :=
  if 0 < ctx.nFramesInQueue then
    let iEntry := ctx.nReadPosition
    ((ctx.aDisplayQueue[iEntry]?).getD ⟨-1, 0⟩, { ctx with
      nReadPosition := (iEntry + 1) % nvdecMaxQueueSize
      nFramesInQueue := ctx.nFramesInQueue - 1 })
  else (⟨-1, 0⟩, ctx)

def picRelease (ctx : NvencDecContext) (pPicParams : CuvidParserDispInfo) :
    Except Stuck NvencDecContext := do
  let i ← pictureSlot pPicParams.pictureIndex
  return { ctx with aIsFrameInUse := Function.update ctx.aIsFrameInUse i false }

/-- `pic_wait_frame_available`: whether the picture is free now. -/
def picWaitFrameAvailable (ctx : NvencDecContext) (nPictureIndex : Fin nvdecMaxQueueSize) :
    ℕ → Except Stuck Bool
  | 0 => .error .asleep
  | patience + 1 =>
    if ctx.aIsFrameInUse nPictureIndex then
      if ctx.bEndOfDecode then .ok false else picWaitFrameAvailable ctx nPictureIndex patience
    else .ok true

/-! ## Pictures -/

/-- `FFALIGN(x, 16)`. -/
def ffalign16 (x : Int32) : Int32 := (x + 15) &&& ~~~15

/-- `cudaVideoChromaFormat_420`. -/
def cudaVideoChromaFormat420 : Int32 := 1

/-- The fields of `CUVIDEOFORMAT` that the callback reads. -/
structure CuVideoFormat where
  codec : Int32
  codedWidth : UInt32
  codedHeight : UInt32
  chromaFormat : Int32

/-- What the driver answers when a decoder is opened. -/
structure OpenAnswers where
  cuCtxCreate : Bool
  cuvidLockCreate : Bool
  cuvidCreateDecoder : Bool

def nvencOpenDecoder (s : PictureSource) (width height : Int32) (answers : OpenAnswers) :
    PictureSource :=
  if answers.cuCtxCreate then
    let s := { s with videoDecodeCreateInfo := {
      codecType := s.videoCodec
      ulWidth := (ffalign16 width).toInt64.toUInt64
      ulHeight := (ffalign16 height).toInt64.toUInt64
      chromaFormat := cudaVideoChromaFormat420 } }
    if answers.cuvidLockCreate ∧ answers.cuvidCreateDecoder then { s with hDecoder := true } else s
  else s

/-- `HandleVideoSequence`: its result, and the decoder if it opens one. -/
def handleVideoSequence (s : PictureSource) (pFormat : CuVideoFormat) (answers : OpenAnswers) :
    Int32 × PictureSource :=
  let s := if s.hDecoder then s
    else nvencOpenDecoder s pFormat.codedWidth.toInt32 pFormat.codedHeight.toInt32 answers
  if pFormat.codec ≠ s.videoDecodeCreateInfo.codecType ∨
      pFormat.codedWidth.toUInt64 ≠ s.videoDecodeCreateInfo.ulWidth ∨
      pFormat.codedHeight.toUInt64 ≠ s.videoDecodeCreateInfo.ulHeight ∨
      pFormat.chromaFormat ≠ s.videoDecodeCreateInfo.chromaFormat then (0, s)
  else (1, s)

/-- What the driver and the allocator answer when a picture is shown. -/
structure DisplayAnswers where
  /-- What `cuvid_map_video_frame` maps for a picture: its pitch and its bytes. -/
  cuvidMapVideoFrame : Int32 → Option (UInt32 × (ℕ → UInt8))
  /-- The host memory, as it comes. -/
  cuMemAllocHost : Option (ℕ → UInt8)
  cuMemcpyDtoh : Bool
  avMalloc : Bool

def PictureSource.nWidth (s : PictureSource) : UInt32 := s.videoDecodeCreateInfo.ulWidth.toUInt32

def PictureSource.nHeight (s : PictureSource) : UInt32 := s.videoDecodeCreateInfo.ulHeight.toUInt32

/-- Map the picture and copy it to host memory, which is allocated the first time: the pitch of the
picture, and the host memory after it; `none` if there is none. -/
def PictureSource.copyPicture (s : PictureSource) (pictureIndex : Int32)
    (answers : DisplayAnswers) : Option (UInt32 × (ℕ → UInt8)) :=
  let mapped := answers.cuvidMapVideoFrame pictureIndex
  let nDecodedPitch := (mapped.map Prod.fst).getD 0
  let nPicSize := nDecodedPitch * s.nHeight * 3 / 2
  (s.pFrameYUV.or answers.cuMemAllocHost).map fun host =>
    (nDecodedPitch, match mapped, answers.cuMemcpyDtoh with
      | some (_, image), true => fun n => if n < nPicSize.toNat then image n else host n
      | _, _ => host)

/-- One of the row loops: `n` rows from the source at `src`, each appended to what is written. -/
def copyRows (host : ℕ → UInt8) (nWidth nDecodedPitch : ℕ) : ℕ → ℕ × List UInt8 → ℕ × List UInt8
  | 0, acc => acc
  | n + 1, (src, dst) => copyRows host nWidth nDecodedPitch n
      (src + nDecodedPitch, dst ++ (List.range nWidth).map fun x => host (src + x))

/-- The frame of a picture in host memory. -/
def PictureSource.decodedFrame (s : PictureSource) (nDecodedPitch : UInt32) (host : ℕ → UInt8)
    (timestamp : Int64) : DecodeFrame :=
  let dataSize := (s.nWidth * s.nHeight * 3 / 2).toInt32
  let luma := copyRows host s.nWidth.toNat nDecodedPitch.toNat s.nHeight.toNat (0, [])
  let chroma := copyRows host s.nWidth.toNat nDecodedPitch.toNat (s.nHeight.toNat / 2) luma
  { decodeWidth := s.nWidth.toInt32
    decodeHeight := s.nHeight.toInt32
    decodeLinesize := s.nWidth.toInt32
    data := ⟨dataSize, chroma.2⟩
    dataSize := dataSize
    pts := timestamp }

/-! ## The callbacks -/

/-- `HandlePictureDecode`, which leaves the context alone. -/
def handlePictureDecode (patience : ℕ) (ctx : NvencDecContext) (currPicIdx : Int32) :
    Except Stuck Int32 :=
  if ctx.hDecoder then do
    let i ← pictureSlot currPicIdx
    let bFrameAvailable ← picWaitFrameAvailable ctx i patience
    return if bFrameAvailable then 1 else 0
  else .ok 1

/-- The context with a picture in host memory. -/
def NvencDecContext.setHost (ctx : NvencDecContext) (host : ℕ → UInt8) : NvencDecContext :=
  { ctx with pFrameYUV := some host }

/-- The end of `HandlePictureDisplay`: the frame goes to the queue, if there was memory for it, and
the picture is released. -/
def queueAndRelease (patience : ℕ) (ctx : NvencDecContext) (oDisplayInfo : CuvidParserDispInfo)
    (avMalloc : Bool) (decodedFrame : DecodeFrame) : Except Stuck NvencDecContext := do
  let ctx ← (if avMalloc then frameEnqueue patience ctx decodedFrame else .ok ctx :)
  let ctx ← picRelease ctx oDisplayInfo
  return { ctx with haveDecodedFrames := true }

/-- `HandlePictureDisplay`: its result, and the context after it. -/
def handlePictureDisplay (patience : ℕ) (ctx : NvencDecContext) (pPicParams : CuvidParserDispInfo)
    (answers : DisplayAnswers) : Except Stuck (Int32 × NvencDecContext) := do
  let ctx ← picEnqueue patience ctx pPicParams
  let (oDisplayInfo, ctx) := picDequeue ctx
  match ctx.copyPicture oDisplayInfo.pictureIndex answers with
  | none => return (-1, ctx)
  | some (nDecodedPitch, host) =>
    let ctx ← queueAndRelease patience (ctx.setHost host) oDisplayInfo answers.avMalloc
      (ctx.decodedFrame nDecodedPitch host pPicParams.timestamp)
    return (1, ctx)

/-- What the parser calls. -/
inductive Callback
  | sequence (pFormat : CuVideoFormat) (answers : OpenAnswers)
  | decode (currPicIdx : Int32)
  | display (pPicParams : CuvidParserDispInfo) (answers : DisplayAnswers)

def handle (patience : ℕ) (ctx : NvencDecContext) : Callback → Except Stuck NvencDecContext
  | .sequence pFormat answers =>
    .ok { ctx with toPictureSource := (handleVideoSequence ctx.toPictureSource pFormat answers).2 }
  | .decode currPicIdx => do
    let _ ← handlePictureDecode patience ctx currPicIdx
    return ctx
  | .display pPicParams answers => do
    let (_, ctx) ← handlePictureDisplay patience ctx pPicParams answers
    return ctx

/-- `cuvid_parse_video_data`: the callbacks, one after the other. -/
def cuvidParseVideoData (patience : ℕ) :
    NvencDecContext → List Callback → Except Stuck NvencDecContext
  | ctx, [] => .ok ctx
  | ctx, callback :: callbacks => do
    let ctx ← handle patience ctx callback
    cuvidParseVideoData patience ctx callbacks

/-! ## Frames -/

/-- The fields of `AVFrame` that are set; `data1` is the offset of `data[1]` in the block, and
`bufSize` the size given to `av_buffer_create` for `buf[0]`. -/
structure AVFrame where
  data : Block
  data1 : Int32
  linesize0 : Int32
  linesize1 : Int32
  width : Int32
  height : Int32
  pts : Int64
  bufSize : Int32
  deriving DecidableEq

/-- What `nvenc_decode_frame` makes of a frame of the queue. -/
def outputFrame (decodedFrame : DecodeFrame) : AVFrame where
  data := decodedFrame.data
  data1 := decodedFrame.decodeLinesize * decodedFrame.decodeHeight
  linesize0 := decodedFrame.decodeLinesize
  linesize1 := decodedFrame.decodeLinesize
  width := decodedFrame.decodeWidth
  height := decodedFrame.decodeHeight
  pts := decodedFrame.pts
  bufSize := decodedFrame.decodeWidth * decodedFrame.decodeLinesize * 3 / 2

/-- The first part of `nvenc_decode_frame`: the frame it returns. -/
def takeFrame (ctx : NvencDecContext) : Option AVFrame × NvencDecContext :=
  if ctx.haveDecodedFrames then
    ((frameDequeue ctx).1.map outputFrame, (frameDequeue ctx).2)
  else (none, ctx)

/-- A packet, with the callbacks that the parser makes for it. -/
structure Packet where
  size : Int32
  callbacks : List Callback

/-- `nvenc_decode_frame`; its result is always the size of the packet. -/
def nvencDecodeFrame (patience : ℕ) (ctx : NvencDecContext) (avpkt : Packet) :
    Except Stuck (Option AVFrame × NvencDecContext) := do
  let (frame, ctx) := takeFrame ctx
  let ctx ← (if 0 < avpkt.size then cuvidParseVideoData patience ctx avpkt.callbacks else .ok ctx :)
  return (frame, ctx)

/-- Packet after packet: the frames that are returned, and the context after it. -/
def decodePackets (patience : ℕ) :
    NvencDecContext → List Packet → Except Stuck (List AVFrame × NvencDecContext)
  | ctx, [] => .ok ([], ctx)
  | ctx, avpkt :: avpkts => do
    let (frame, ctx) ← nvencDecodeFrame patience ctx avpkt
    let (frames, ctx) ← decodePackets patience ctx avpkts
    return (frame.toList ++ frames, ctx)

end SelfTestCode.Decoder
