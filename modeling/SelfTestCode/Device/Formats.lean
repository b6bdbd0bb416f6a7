import Mathlib.Data.List.Basic

/-!
# Codec ids and formats

Muxer and demuxer exchange codec ids, pixel formats and sample formats as the values of the
enumerations of `smem.h`, so that the two sides may be built against different versions of FFmpeg.
`smem_com.c` translates: `av2smem_*` on the writing side, `smem2av_*` on the reading side, each a
`switch` of its own.  The two directions agree on every id that the writing side has a case for.
-/

namespace SelfTestCode.Device

/-- A `switch` whose cases all return. -/
def switch {κ β : Type*} [BEq κ] (cases : List (κ × β)) (default : β) (x : κ) : β :=
  (cases.lookup x).getD default

/-! ## Media types -/

/-- `enum AVMediaType`. -/
inductive AVMediaType
  | unknown | video | audio | data | subtitle | attachment | nb
  deriving DecidableEq, Repr

/-- `enum SMemMediaType`. -/
inductive SMemMediaType
  | unknown | video | audio | data | subtitle
  deriving DecidableEq, Repr

def SMemMediaType.value : SMemMediaType → Int32
  | .unknown => -1 | .video => 0 | .audio => 1 | .data => 2 | .subtitle => 3

/-! ## Codec ids -/

/-- The codec ids of FFmpeg that the mapping functions name, and the others. -/
inductive AVCodecID
  | none | mpeg1video | mpeg2video | h261 | h263 | mjpeg | mpeg4 | rawvideo | h264 | png
  | jpeg2000 | vp9 | hevc | pcmS16le | pcmS16be | pcmU16le | pcmU16be | pcmS8 | pcmU8 | pcmMulaw
  | pcmAlaw | pcmS32le | pcmS32be | pcmU32le | pcmU32be | pcmS24le | pcmS24be | pcmU24le
  | pcmU24be | pcmS24daud | pcmZork | pcmS16lePlanar | pcmDvd | pcmF32be | pcmF32le | pcmF64be
  | pcmF64le | pcmBluray | pcmLxf | s302m | pcmS8Planar | pcmS24lePlanar | pcmS32lePlanar
  | pcmS16bePlanar | mp2 | mp3 | aac | ac3 | dts | vorbis | wmav1 | wmav2 | flac
  | other (value : Int32)
  deriving DecidableEq, Repr

/-- `enum SMemCodecID`. -/
inductive SMemCodecID
  | none | mpeg1video | mpeg2video | h261 | h263 | mjpeg | mpeg4 | rawvideo | h264 | png
  | jpeg2000 | vp9 | hevc | pcmS16le | pcmS16be | pcmU16le | pcmU16be | pcmS8 | pcmU8 | pcmMulaw
  | pcmAlaw | pcmS32le | pcmS32be | pcmU32le | pcmU32be | pcmS24le | pcmS24be | pcmU24le
  | pcmU24be | pcmS24daud | pcmZork | pcmS16lePlanar | pcmDvd | pcmF32be | pcmF32le | pcmF64be
  | pcmF64le | pcmBluray | pcmLxf | s302m | pcmS8Planar | pcmS24lePlanar | pcmS32lePlanar
  | pcmS16bePlanar | mp2 | mp3 | aac | ac3 | dts | vorbis | wmav1 | wmav2 | flac
  deriving DecidableEq, Repr

def SMemCodecID.value : SMemCodecID → Int32
  | .none => 0 | .mpeg1video => 1 | .mpeg2video => 2 | .h261 => 3 | .h263 => 4 | .mjpeg => 5
  | .mpeg4 => 6 | .rawvideo => 7 | .h264 => 8 | .png => 9 | .jpeg2000 => 10 | .vp9 => 11
  | .hevc => 12 | .pcmS16le => 0x10000 | .pcmS16be => 0x10001 | .pcmU16le => 0x10002
  | .pcmU16be => 0x10003 | .pcmS8 => 0x10004 | .pcmU8 => 0x10005 | .pcmMulaw => 0x10006
  | .pcmAlaw => 0x10007 | .pcmS32le => 0x10008 | .pcmS32be => 0x10009 | .pcmU32le => 0x1000a
  | .pcmU32be => 0x1000b | .pcmS24le => 0x1000c | .pcmS24be => 0x1000d | .pcmU24le => 0x1000e
  | .pcmU24be => 0x1000f | .pcmS24daud => 0x10010 | .pcmZork => 0x10011
  | .pcmS16lePlanar => 0x10012 | .pcmDvd => 0x10013 | .pcmF32be => 0x10014 | .pcmF32le => 0x10015
  | .pcmF64be => 0x10016 | .pcmF64le => 0x10017 | .pcmBluray => 0x10018 | .pcmLxf => 0x10019
  | .s302m => 0x1001a | .pcmS8Planar => 0x1001b | .pcmS24lePlanar => 0x1001c
  | .pcmS32lePlanar => 0x1001d | .pcmS16bePlanar => 0x1001e | .mp2 => 0x15000 | .mp3 => 0x15001
  | .aac => 0x15002 | .ac3 => 0x15003 | .dts => 0x15004 | .vorbis => 0x15005 | .wmav1 => 0x15006
  | .wmav2 => 0x15007 | .flac => 0x15008

/-- The cases of `av2smem_codec_id`. -/
def av2smemCodecIdCases : List (AVCodecID × SMemCodecID) := [
  (.mpeg1video, .mpeg1video), (.mpeg2video, .mpeg2video), (.h261, .h261), (.h263, .h263),
  (.mjpeg, .mjpeg), (.mpeg4, .mpeg4), (.rawvideo, .rawvideo), (.h264, .h264), (.png, .png),
  (.jpeg2000, .jpeg2000), (.vp9, .vp9), (.hevc, .hevc), (.pcmS16le, .pcmS16le),
  (.pcmS16be, .pcmS16be), (.pcmU16le, .pcmU16le), (.pcmU16be, .pcmU16be), (.pcmS8, .pcmS8),
  (.pcmU8, .pcmU8), (.pcmMulaw, .pcmMulaw), (.pcmAlaw, .pcmAlaw), (.pcmS32le, .pcmS32le),
  (.pcmS32be, .pcmS32be), (.pcmU32le, .pcmU32le), (.pcmU32be, .pcmU32be), (.pcmS24le, .pcmS24le),
  (.pcmS24be, .pcmS24be), (.pcmU24le, .pcmU24le), (.pcmU24be, .pcmU24be),
  (.pcmS24daud, .pcmS24daud), (.pcmZork, .pcmZork), (.pcmS16lePlanar, .pcmS16lePlanar),
  (.pcmDvd, .pcmDvd), (.pcmF32be, .pcmF32be), (.pcmF32le, .pcmF32le), (.pcmF64be, .pcmF64be),
  (.pcmF64le, .pcmF64le), (.pcmBluray, .pcmBluray), (.pcmLxf, .pcmLxf), (.s302m, .s302m),
  (.pcmS8Planar, .pcmS8Planar), (.pcmS24lePlanar, .pcmS24lePlanar),
  (.pcmS32lePlanar, .pcmS32lePlanar), (.pcmS16bePlanar, .pcmS16bePlanar), (.mp2, .mp2),
  (.mp3, .mp3), (.aac, .aac), (.ac3, .ac3), (.dts, .dts), (.vorbis, .vorbis), (.wmav1, .wmav1),
  (.wmav2, .wmav2), (.flac, .flac)]

def av2smemCodecId (x : AVCodecID) : Int32 := (switch av2smemCodecIdCases .none x).value

/-- The cases of `smem2av_codec_id`. -/
def smem2avCodecIdCases : List (SMemCodecID × AVCodecID) := [
  (.mpeg1video, .mpeg1video), (.mpeg2video, .mpeg2video), (.h261, .h261), (.h263, .h263),
  (.mjpeg, .mjpeg), (.mpeg4, .mpeg4), (.rawvideo, .rawvideo), (.h264, .h264), (.png, .png),
  (.jpeg2000, .jpeg2000), (.vp9, .vp9), (.hevc, .hevc), (.pcmS16le, .pcmS16le),
  (.pcmS16be, .pcmS16be), (.pcmU16le, .pcmU16le), (.pcmU16be, .pcmU16be), (.pcmS8, .pcmS8),
  (.pcmU8, .pcmU8), (.pcmMulaw, .pcmMulaw), (.pcmAlaw, .pcmAlaw), (.pcmS32le, .pcmS32le),
  (.pcmS32be, .pcmS32be), (.pcmU32le, .pcmU32le), (.pcmU32be, .pcmU32be), (.pcmS24le, .pcmS24le),
  (.pcmS24be, .pcmS24be), (.pcmU24le, .pcmU24le), (.pcmU24be, .pcmU24be),
  (.pcmS24daud, .pcmS24daud), (.pcmZork, .pcmZork), (.pcmS16lePlanar, .pcmS16lePlanar),
  (.pcmDvd, .pcmDvd), (.pcmF32be, .pcmF32be), (.pcmF32le, .pcmF32le), (.pcmF64be, .pcmF64be),
  (.pcmF64le, .pcmF64le), (.pcmBluray, .pcmBluray), (.pcmLxf, .pcmLxf), (.s302m, .s302m),
  (.pcmS8Planar, .pcmS8Planar), (.pcmS24lePlanar, .pcmS24lePlanar),
  (.pcmS32lePlanar, .pcmS32lePlanar), (.pcmS16bePlanar, .pcmS16bePlanar), (.mp2, .mp2),
  (.mp3, .mp3), (.aac, .aac), (.ac3, .ac3), (.dts, .dts), (.vorbis, .vorbis), (.wmav1, .wmav1),
  (.wmav2, .wmav2), (.flac, .flac)]

def smem2avCodecId (x : Int32) : AVCodecID :=
  switch (smem2avCodecIdCases.map fun c => (c.1.value, c.2)) .none x

/-- The ids `av2smem_codec_id` has a case for come back. -/
lemma smem2avCodecId_av2smemCodecId {x : AVCodecID} (hx : x ∈ av2smemCodecIdCases.map Prod.fst) :
    smem2avCodecId (av2smemCodecId x) = x := by
  revert x
  decide

/-! ## Pixel formats -/

/-- The pixel formats of FFmpeg that the mapping functions name, and the others. -/
inductive AVPixelFormat
  | none | yuv420p | yuyv422 | rgb24 | bgr24 | yuv422p | yuv444p | yuv410p | yuv411p | gray8
  | monowhite | monoblack | pal8 | yuvj420p | yuvj422p | yuvj444p | uyvy422 | uyyvyy411 | bgr8
  | bgr4 | bgr4Byte | rgb8 | rgb4 | rgb4Byte | nv12 | nv21 | argb | rgba | abgr | bgra | gray16be
  | gray16le | yuv440p | yuvj440p | yuva420p | rgb48be | rgb48le | rgb565be | rgb565le | rgb555be
  | rgb555le | bgr565be | bgr565le | bgr555be | bgr555le
  | other (value : Int32)
  deriving DecidableEq, Repr

/-- `enum SMemPixelFormat`. -/
inductive SMemPixelFormat
  | none | yuv420p | yuyv422 | rgb24 | bgr24 | yuv422p | yuv444p | yuv410p | yuv411p | gray8
  | monowhite | monoblack | pal8 | yuvj420p | yuvj422p | yuvj444p | uyvy422 | uyyvyy411 | bgr8
  | bgr4 | bgr4Byte | rgb8 | rgb4 | rgb4Byte | nv12 | nv21 | argb | rgba | abgr | bgra | gray16be
  | gray16le | yuv440p | yuvj440p | yuva420p | rgb48be | rgb48le | rgb565be | rgb565le | rgb555be
  | rgb555le | bgr565be | bgr565le | bgr555be | bgr555le
  deriving DecidableEq, Repr

def SMemPixelFormat.value : SMemPixelFormat → Int32
  | .none => -1 | .yuv420p => 0 | .yuyv422 => 1 | .rgb24 => 2 | .bgr24 => 3 | .yuv422p => 4
  | .yuv444p => 5 | .yuv410p => 6 | .yuv411p => 7 | .gray8 => 8 | .monowhite => 9
  | .monoblack => 10 | .pal8 => 11 | .yuvj420p => 12 | .yuvj422p => 13 | .yuvj444p => 14
  | .uyvy422 => 15 | .uyyvyy411 => 16 | .bgr8 => 17 | .bgr4 => 18 | .bgr4Byte => 19 | .rgb8 => 20
  | .rgb4 => 21 | .rgb4Byte => 22 | .nv12 => 23 | .nv21 => 24 | .argb => 25 | .rgba => 26
  | .abgr => 27 | .bgra => 28 | .gray16be => 29 | .gray16le => 30 | .yuv440p => 31
  | .yuvj440p => 32 | .yuva420p => 33 | .rgb48be => 34 | .rgb48le => 35 | .rgb565be => 36
  | .rgb565le => 37 | .rgb555be => 38 | .rgb555le => 39 | .bgr565be => 40 | .bgr565le => 41
  | .bgr555be => 42 | .bgr555le => 43

/-- The cases of `av2smem_pix_fmt`. -/
def av2smemPixFmtCases : List (AVPixelFormat × SMemPixelFormat) := [
  (.none, .none), (.yuv420p, .yuv420p), (.yuyv422, .yuyv422), (.rgb24, .rgb24), (.bgr24, .bgr24),
  (.yuv422p, .yuv422p), (.yuv444p, .yuv444p), (.yuv410p, .yuv410p), (.yuv411p, .yuv411p),
  (.gray8, .gray8), (.monowhite, .monowhite), (.monoblack, .monoblack), (.pal8, .pal8),
  (.yuvj420p, .yuvj420p), (.yuvj422p, .yuvj422p), (.yuvj444p, .yuvj444p), (.uyvy422, .uyvy422),
  (.uyyvyy411, .uyyvyy411), (.bgr8, .bgr8), (.bgr4, .bgr4), (.bgr4Byte, .bgr4Byte),
  (.rgb8, .rgb8), (.rgb4, .rgb4), (.rgb4Byte, .rgb4Byte), (.nv12, .nv12), (.nv21, .nv21),
  (.argb, .argb), (.rgba, .rgba), (.abgr, .abgr), (.bgra, .bgra), (.gray16be, .gray16be),
  (.gray16le, .gray16le), (.yuv440p, .yuv440p), (.yuvj440p, .yuvj440p), (.yuva420p, .yuva420p),
  (.rgb48be, .rgb48be), (.rgb48le, .rgb48le), (.rgb565be, .rgb565be), (.rgb565le, .rgb565le),
  (.rgb555be, .rgb555be), (.rgb555le, .rgb555le), (.bgr565be, .bgr565be), (.bgr565le, .bgr565le),
  (.bgr555be, .bgr555be), (.bgr555le, .bgr555le)]

def av2smemPixFmt (x : AVPixelFormat) : Int32 := (switch av2smemPixFmtCases .none x).value

/-- The cases of `smem2av_pix_fmt`. -/
def smem2avPixFmtCases : List (SMemPixelFormat × AVPixelFormat) := [
  (.none, .none), (.yuv420p, .yuv420p), (.yuyv422, .yuyv422), (.rgb24, .rgb24), (.bgr24, .bgr24),
  (.yuv422p, .yuv422p), (.yuv444p, .yuv444p), (.yuv410p, .yuv410p), (.yuv411p, .yuv411p),
  (.gray8, .gray8), (.monowhite, .monowhite), (.monoblack, .monoblack), (.pal8, .pal8),
  (.yuvj420p, .yuvj420p), (.yuvj422p, .yuvj422p), (.yuvj444p, .yuvj444p), (.uyvy422, .uyvy422),
  (.uyyvyy411, .uyyvyy411), (.bgr8, .bgr8), (.bgr4, .bgr4), (.bgr4Byte, .bgr4Byte),
  (.rgb8, .rgb8), (.rgb4, .rgb4), (.rgb4Byte, .rgb4Byte), (.nv12, .nv12), (.nv21, .nv21),
  (.argb, .argb), (.rgba, .rgba), (.abgr, .abgr), (.bgra, .bgra), (.gray16be, .gray16be),
  (.gray16le, .gray16le), (.yuv440p, .yuv440p), (.yuvj440p, .yuvj440p), (.yuva420p, .yuva420p),
  (.rgb48be, .rgb48be), (.rgb48le, .rgb48le), (.rgb565be, .rgb565be), (.rgb565le, .rgb565le),
  (.rgb555be, .rgb555be), (.rgb555le, .rgb555le), (.bgr565be, .bgr565be), (.bgr565le, .bgr565le),
  (.bgr555be, .bgr555be), (.bgr555le, .bgr555le)]

def smem2avPixFmt (x : Int32) : AVPixelFormat :=
  switch (smem2avPixFmtCases.map fun c => (c.1.value, c.2)) .none x

/-- The ids `av2smem_pix_fmt` has a case for come back. -/
lemma smem2avPixFmt_av2smemPixFmt {x : AVPixelFormat} (hx : x ∈ av2smemPixFmtCases.map Prod.fst) :
    smem2avPixFmt (av2smemPixFmt x) = x := by
  revert x
  decide

/-! ## Sample formats -/

/-- The sample formats of FFmpeg that the mapping functions name, and the others. -/
inductive AVSampleFormat
  | none | u8 | s16 | s32 | flt | dbl | u8p | s16p | s32p | fltp | dblp | nb
  | other (value : Int32)
  deriving DecidableEq, Repr

/-- `enum SMemSampleFormat`. -/
inductive SMemSampleFormat
  | none | u8 | s16 | s32 | flt | dbl | u8p | s16p | s32p | fltp | dblp | nb
  deriving DecidableEq, Repr

def SMemSampleFormat.value : SMemSampleFormat → Int32
  | .none => -1 | .u8 => 0 | .s16 => 1 | .s32 => 2 | .flt => 3 | .dbl => 4 | .u8p => 5
  | .s16p => 6 | .s32p => 7 | .fltp => 8 | .dblp => 9 | .nb => 10

/-- The cases of `av2smem_sample_fmt`. -/
def av2smemSampleFmtCases : List (AVSampleFormat × SMemSampleFormat) := [
  (.none, .none), (.u8, .u8), (.s16, .s16), (.s32, .s32), (.flt, .flt), (.dbl, .dbl),
  (.u8p, .u8p), (.s16p, .s16p), (.s32p, .s32p), (.fltp, .fltp), (.dblp, .dblp), (.nb, .nb)]

def av2smemSampleFmt (x : AVSampleFormat) : Int32 := (switch av2smemSampleFmtCases .none x).value

/-- The cases of `smem2av_sample_fmt`. -/
def smem2avSampleFmtCases : List (SMemSampleFormat × AVSampleFormat) := [
  (.none, .none), (.u8, .u8), (.s16, .s16), (.s32, .s32), (.flt, .flt), (.dbl, .dbl),
  (.u8p, .u8p), (.s16p, .s16p), (.s32p, .s32p), (.fltp, .fltp), (.dblp, .dblp), (.nb, .nb)]

def smem2avSampleFmt (x : Int32) : AVSampleFormat :=
  switch (smem2avSampleFmtCases.map fun c => (c.1.value, c.2)) .none x

/-- The ids `av2smem_sample_fmt` has a case for come back. -/
lemma smem2avSampleFmt_av2smemSampleFmt {x : AVSampleFormat}
    (hx : x ∈ av2smemSampleFmtCases.map Prod.fst) :
    smem2avSampleFmt (av2smemSampleFmt x) = x := by
  revert x
  decide

end SelfTestCode.Device
