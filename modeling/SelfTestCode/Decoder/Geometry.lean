import SelfTestCode.Decoder.Delivery
import Mathlib.Data.Int.GCD
import Mathlib.Data.Nat.Prime.Basic
import Mathlib.Tactic.Ring
import Mathlib.Tactic.Zify

/-!
# The geometry of a frame

`HandlePictureDisplay` copies a picture row by row, from lines of `nDecodedPitch` bytes to lines of
`nWidth` bytes, and allocates width times height and a half for it.  `nvenc_decode_frame` puts the
second plane behind the first and wraps the memory in a buffer, but for the size of that it
multiplies the width by the line size.  Both are the width, so the size is right for a square
picture and for no other (`faithful_iff`).
-/

namespace SelfTestCode.Decoder

/-! ## Sizes -/

/-- Modulo a power of two, a width cannot be cancelled; but it can if the products are small. -/
lemma eq_of_two_pow_dvd {w h n : ℕ} (hw : 0 < w) (hh : 0 < h) (hlt : w * h < 2 ^ n)
    (hdvd : (2 ^ n : ℤ) ∣ w * (w - h)) : w = h := by
  set k := (w - h : ℤ).natAbs with hk
  have hdvd' : 2 ^ n ∣ w * k := by
    have habs := Int.natAbs_dvd_natAbs.mpr hdvd
    rwa [Int.natAbs_mul, Int.natAbs_natCast, Int.natAbs_pow] at habs
  obtain ⟨y, z, hy, hz, hyz⟩ := Nat.dvd_mul.mp hdvd'
  by_contra hne
  have hkpos : 0 < k := by omega
  have hyle : y ≤ w := Nat.le_of_dvd hw hy
  have hzle : z ≤ k := Nat.le_of_dvd hkpos hz
  obtain ⟨i, -, rfl⟩ := (Nat.dvd_prime_pow Nat.prime_two).mp (Dvd.intro _ hyz)
  obtain ⟨j, -, rfl⟩ := (Nat.dvd_prime_pow Nat.prime_two).mp (Dvd.intro_left _ hyz)
  -- a divisor of the width and of the difference divides the height
  have hheight : ∀ {m : ℕ}, m ∣ w → m ∣ k → m ≤ h := by
    intro m hmw hmk
    have hmh : (m : ℤ) ∣ (w : ℤ) - (w - h) :=
      Int.dvd_sub (Int.natCast_dvd_natCast.mpr hmw) (Int.ofNat_dvd_left.mpr hmk)
    rw [sub_sub_cancel] at hmh
    exact Nat.le_of_dvd hh (Int.natCast_dvd_natCast.mp hmh)
  have hge : 2 ^ i * 2 ^ j ≤ w * h := by
    rcases le_total i j with hij | hij
    · have hle : 2 ^ i ≤ h := hheight hy ((pow_dvd_pow 2 hij).trans hz)
      rcases le_total w h with hwh | hwh
      · exact Nat.mul_le_mul hyle (by omega)
      · rw [mul_comm w]
        exact Nat.mul_le_mul hle (by omega)
    · exact Nat.mul_le_mul hyle (hheight ((pow_dvd_pow 2 hij).trans hy) hz)
  omega

/-- A square picture whose size is an `int`; or one without pixels, with a width whose square is
zero in an `int`. -/
def SquareOrEmpty (w h : ℕ) : Prop :=
  w = 0 ∨ (h = 0 ∧ 2 ^ 16 ∣ w) ∨ (w = h ∧ 3 * (w * w) < 2 ^ 31)

instance (w h : ℕ) : Decidable (SquareOrEmpty w h) :=
  inferInstanceAs (Decidable (w = 0 ∨ (h = 0 ∧ 2 ^ 16 ∣ w) ∨ (w = h ∧ 3 * (w * w) < 2 ^ 31)))

lemma bmod_square_eq_iff {w h : ℕ} (hlt : 3 * (w * h) < 2 ^ 32) :
    (3 * (w * w) : ℤ).bmod (2 ^ 32) = 3 * (w * h) ↔ SquareOrEmpty w h := by
  constructor
  · intro hwrap
    have hdvd : (2 ^ 32 : ℤ) ∣ w * (w - h) := by
      have hthree : (2 ^ 32 : ℤ) ∣ 3 * (w * w) - 3 * (w * h) := Int.dvd_self_sub_of_bmod_eq hwrap
      rw [← mul_sub, ← mul_sub] at hthree
      exact Int.dvd_of_dvd_mul_right_of_gcd_one hthree rfl
    rcases Nat.eq_zero_or_pos w with rfl | hw
    · exact Or.inl rfl
    rcases Nat.eq_zero_or_pos h with rfl | hh
    · have hsquare : (2 ^ 16) ^ 2 ∣ w ^ 2 := by
        rw [Nat.cast_zero, sub_zero] at hdvd
        rw [← pow_mul, pow_two w]
        exact_mod_cast hdvd
      exact Or.inr (Or.inl ⟨rfl, (Nat.pow_dvd_pow_iff two_ne_zero).mp hsquare⟩)
    · obtain rfl := eq_of_two_pow_dvd hw hh (by omega) hdvd
      have hint : (3 * (w * w) : ℤ) < (2 ^ 32 + 1) / 2 := by
        rw [← hwrap]
        exact Int.bmod_lt (by decide)
      refine Or.inr (Or.inr ⟨rfl, ?_⟩)
      zify
      exact hint
  · rintro (rfl | ⟨rfl, v, rfl⟩ | ⟨rfl, hint⟩)
    · simp
    · rw [Int.bmod_eq_zero_of_dvd]
      · simp
      · exact ⟨3 * (v * v), by push_cast; ring⟩
    · zify at hint
      have hpos : (0 : ℤ) ≤ w * w := by exact_mod_cast Nat.zero_le (w * w)
      apply Int.bmod_eq_of_le_mul_two <;> push_cast <;> omega

/-- Half of an even `int`. -/
lemma tdiv_bmod_eq_iff {a b : ℤ} (ha : 2 ∣ a) (hb : 2 ∣ b) :
    (a.bmod (2 ^ 32)).tdiv 2 = b / 2 ↔ a.bmod (2 ^ 32) = b := by
  have hsub : (2 : ℤ) ∣ a.bmod (2 ^ 32) - a :=
    (show (2 : ℤ) ∣ 2 ^ 32 from ⟨2 ^ 31, rfl⟩).trans Int.dvd_bmod_sub_self
  obtain ⟨c, hc⟩ := (Int.dvd_iff_dvd_of_dvd_sub hsub).mpr ha
  obtain ⟨d, rfl⟩ := hb
  rw [hc, Int.mul_tdiv_cancel_left _ two_ne_zero, Int.mul_ediv_cancel_left _ two_ne_zero]
  omega

/-! ## Rows -/

/-- A pixel lies inside the lines of its plane. -/
lemma pixel_lt {w h p x y : ℕ} (hy : y < h) (hx : x < w) (hp : w ≤ p) : y * p + x < h * p :=
  calc y * p + x < y * p + p := by omega
    _ = (y + 1) * p := (Nat.succ_mul y p).symm
    _ ≤ h * p := Nat.mul_le_mul_right p hy

section Rows

variable {host : ℕ → UInt8} {nWidth nDecodedPitch n x y : ℕ} {acc : ℕ × List UInt8}

lemma copyRows_fst : (copyRows host nWidth nDecodedPitch n acc).1 = acc.1 + n * nDecodedPitch := by
  induction n generalizing acc with
  | zero => simp [copyRows]
  | succ n ih =>
    rw [copyRows, ih, Nat.succ_mul]
    dsimp only
    omega

lemma length_copyRows :
    (copyRows host nWidth nDecodedPitch n acc).2.length = acc.2.length + n * nWidth := by
  induction n generalizing acc with
  | zero => simp [copyRows]
  | succ n ih =>
    rw [copyRows, ih, List.length_append, List.length_map, List.length_range, Nat.succ_mul]
    omega

/-- What is written stays. -/
lemma getElem?_copyRows_of_lt {k : ℕ} (hk : k < acc.2.length) :
    (copyRows host nWidth nDecodedPitch n acc).2[k]? = acc.2[k]? := by
  induction n generalizing acc with
  | zero => rfl
  | succ n ih =>
    rw [copyRows, ih (by rw [List.length_append]; omega), List.getElem?_append_left hk]

/-- The source advances by its pitch and the destination by the width. -/
lemma getElem?_copyRows (hy : y < n) (hx : x < nWidth) :
    (copyRows host nWidth nDecodedPitch n acc).2[acc.2.length + y * nWidth + x]?
      = some (host (acc.1 + y * nDecodedPitch + x)) := by
  induction n generalizing acc y with
  | zero => omega
  | succ n ih =>
    rw [copyRows]
    cases y with
    | zero =>
      rw [getElem?_copyRows_of_lt (by simp [hx])]
      simp [hx]
    | succ y =>
      set row := (List.range nWidth).map fun x => host (acc.1 + x) with hrow
      have hcell : acc.2.length + (y + 1) * nWidth + x
          = (acc.2 ++ row).length + y * nWidth + x := by
        rw [List.length_append, hrow, List.length_map, List.length_range, Nat.succ_mul]
        omega
      have hsource : acc.1 + (y + 1) * nDecodedPitch + x
          = acc.1 + nDecodedPitch + y * nDecodedPitch + x := by
        rw [Nat.succ_mul]
        omega
      rw [hcell, hsource]
      exact ih (Nat.lt_of_succ_lt_succ hy)

end Rows

/-! ## Frames -/

/-- The byte at an offset from `data[0]`. -/
def Block.read (block : Block) (offset : ℤ) : Option UInt8 :=
  if 0 ≤ offset then block.bytes[offset.toNat]? else none

/-- The frame shows the picture in `image`, of `w` times `h` pixels and a line every `p` bytes: the
pixels are there, both planes lie inside `buf[0]`, and `buf[0]` is as large as the memory. -/
structure Faithful (frame : AVFrame) (image : ℕ → UInt8) (w h p : ℕ) : Prop where
  luma : ∀ y < h, ∀ x < w,
    frame.data.read (y * frame.linesize0.toInt + x) = some (image (y * p + x))
  chroma : ∀ y < h / 2, ∀ x < w,
    frame.data.read (frame.data1.toInt + y * frame.linesize1.toInt + x)
      = some (image ((h + y) * p + x))
  lumaInside : h * frame.linesize0.toInt ≤ frame.bufSize.toInt
  chromaInside : 0 ≤ frame.data1.toInt ∧
    frame.data1.toInt + (h / 2 : ℕ) * frame.linesize1.toInt ≤ frame.bufSize.toInt
  size : frame.bufSize = frame.data.size

lemma toInt_toInt32 (a : UInt32) : a.toInt32.toInt = (a.toNat : ℤ).bmod (2 ^ 32) := by
  rw [← Int32.toInt_toBitVec, UInt32.toBitVec_toInt32, BitVec.toInt_eq_toNat_bmod,
    UInt32.toNat_toBitVec]

lemma toInt_mul_toInt32 (a b : UInt32) :
    (a.toInt32 * b.toInt32).toInt = (a.toNat * b.toNat : ℤ).bmod (2 ^ 32) := by
  rw [Int32.toInt_mul, toInt_toInt32, toInt_toInt32, Int.bmod_mul_bmod, Int.mul_bmod_bmod]

/-- `nPicSize` and `data_size`. -/
lemma toNat_pictureSize (a b : UInt32) :
    (a * b * 3 / 2).toNat = 3 * (a.toNat * b.toNat) % 2 ^ 32 / 2 := by
  have hthree : (3 : UInt32).toNat = 3 := rfl
  have htwo : (2 : UInt32).toNat = 2 := rfl
  rw [UInt32.toNat_div, UInt32.toNat_mul, UInt32.toNat_mul, hthree, htwo, Nat.mod_mul_mod, mul_comm]

section Frame

variable {s : PictureSource} {pitch : UInt32} {host image : ℕ → UInt8} {timestamp : Int64}

lemma toInt_bufSize : (outputFrame (s.decodedFrame pitch host timestamp)).bufSize.toInt
    = ((3 * (s.nWidth.toNat * s.nWidth.toNat) : ℤ).bmod (2 ^ 32)).tdiv 2 := by
  have hthree : (3 : Int32).toInt = 3 := rfl
  have htwo : (2 : Int32).toInt = 2 := rfl
  rw [outputFrame, PictureSource.decodedFrame]
  dsimp only
  rw [Int32.toInt_div_of_ne_right _ _ (by decide), Int32.toInt_mul, toInt_mul_toInt32, hthree, htwo,
    Int.bmod_mul_bmod, mul_comm]

lemma toInt_dataSize (hlt : 3 * (s.nWidth.toNat * s.nHeight.toNat) < 2 ^ 32) :
    (s.decodedFrame pitch host timestamp).data.size.toInt
      = 3 * (s.nWidth.toNat * s.nHeight.toNat) / 2 := by
  rw [PictureSource.decodedFrame]
  dsimp only
  rw [toInt_toInt32, toNat_pictureSize, Nat.mod_eq_of_lt hlt]
  apply Int.bmod_eq_of_le_mul_two <;> push_cast <;> omega

lemma getElem?_luma {x y : ℕ} (hy : y < s.nHeight.toNat) (hx : x < s.nWidth.toNat) :
    (s.decodedFrame pitch host timestamp).data.bytes[y * s.nWidth.toNat + x]?
      = some (host (y * pitch.toNat + x)) := by
  have hrow : (copyRows host s.nWidth.toNat pitch.toNat s.nHeight.toNat (0, [])).2[
      0 + y * s.nWidth.toNat + x]? = some (host (0 + y * pitch.toNat + x)) :=
    getElem?_copyRows hy hx
  rw [Nat.zero_add, Nat.zero_add] at hrow
  rw [← hrow]
  apply getElem?_copyRows_of_lt
  rw [length_copyRows, List.length_nil, Nat.zero_add]
  exact pixel_lt hy hx le_rfl

lemma getElem?_chroma {x y : ℕ} (hy : y < s.nHeight.toNat / 2) (hx : x < s.nWidth.toNat) :
    (s.decodedFrame pitch host timestamp).data.bytes[
        s.nWidth.toNat * s.nHeight.toNat + y * s.nWidth.toNat + x]?
      = some (host ((s.nHeight.toNat + y) * pitch.toNat + x)) := by
  have hrow : (copyRows host s.nWidth.toNat pitch.toNat (s.nHeight.toNat / 2)
      (copyRows host s.nWidth.toNat pitch.toNat s.nHeight.toNat (0, []))).2[_]? = some (host _) :=
    getElem?_copyRows hy hx
  rw [length_copyRows, copyRows_fst, List.length_nil, Nat.zero_add, Nat.zero_add,
    Nat.mul_comm s.nHeight.toNat s.nWidth.toNat] at hrow
  rw [Nat.add_mul]
  exact hrow

lemma toInt_linesize (hheight : 0 < s.nHeight.toNat)
    (hlt : 3 * (s.nWidth.toNat * s.nHeight.toNat) < 2 ^ 32) :
    s.nWidth.toInt32.toInt = s.nWidth.toNat := by
  have hle : s.nWidth.toNat ≤ s.nWidth.toNat * s.nHeight.toNat := Nat.le_mul_of_pos_right _ hheight
  rw [toInt_toInt32]
  apply Int.bmod_eq_of_le_mul_two <;> push_cast <;> omega

lemma toInt_data1 (hlt : 3 * (s.nWidth.toNat * s.nHeight.toNat) < 2 ^ 32) :
    (outputFrame (s.decodedFrame pitch host timestamp)).data1.toInt
      = (s.nWidth.toNat * s.nHeight.toNat : ℕ) := by
  rw [outputFrame, PictureSource.decodedFrame]
  dsimp only
  rw [toInt_mul_toInt32, ← Nat.cast_mul]
  apply Int.bmod_eq_of_le_mul_two <;> push_cast <;> omega

variable (pitch host timestamp) in
/-- The size of `buf[0]` is the size of the memory only for a square. -/
lemma bufSize_eq_iff (hwidth : 2 ∣ s.nWidth.toNat)
    (hlt : 3 * (s.nWidth.toNat * s.nHeight.toNat) < 2 ^ 32) :
    (outputFrame (s.decodedFrame pitch host timestamp)).bufSize
        = (s.decodedFrame pitch host timestamp).data.size ↔
      SquareOrEmpty s.nWidth.toNat s.nHeight.toNat := by
  have heven : ∀ n : ℕ, (2 : ℤ) ∣ 3 * (s.nWidth.toNat * n) := by
    intro n
    exact ((Int.natCast_dvd_natCast.mpr hwidth).mul_right _).mul_left _
  rw [← Int32.toInt_inj, toInt_bufSize, toInt_dataSize hlt, tdiv_bmod_eq_iff (heven _) (heven _),
    bmod_square_eq_iff hlt]

lemma read_natCast (block : Block) (n : ℕ) : block.read n = block.bytes[n]? := by
  simp [Block.read]

section Pixels

variable (timestamp) (hpitch : s.nWidth.toNat ≤ pitch.toNat)
  (hlt : 3 * (s.nWidth.toNat * s.nHeight.toNat) < 2 ^ 32)
  (himage : ∀ n < 3 * (pitch.toNat * s.nHeight.toNat) / 2, host n = image n)

include hpitch hlt himage

lemma read_luma {x y : ℕ} (hy : y < s.nHeight.toNat) (hx : x < s.nWidth.toNat) :
    (s.decodedFrame pitch host timestamp).data.read (y * s.nWidth.toInt32.toInt + x)
      = some (image (y * pitch.toNat + x)) := by
  have hoffset : (y * s.nWidth.toInt32.toInt + x : ℤ) = (y * s.nWidth.toNat + x : ℕ) := by
    rw [toInt_linesize (by omega) hlt]
    push_cast
    rfl
  have hpixel := pixel_lt hy hx hpitch
  rw [Nat.mul_comm s.nHeight.toNat] at hpixel
  rw [hoffset, read_natCast, getElem?_luma hy hx, himage _ (by omega)]

lemma read_chroma {x y : ℕ} (hy : y < s.nHeight.toNat / 2) (hx : x < s.nWidth.toNat) :
    (s.decodedFrame pitch host timestamp).data.read
        ((s.nWidth.toNat * s.nHeight.toNat : ℕ) + y * s.nWidth.toInt32.toInt + x)
      = some (image ((s.nHeight.toNat + y) * pitch.toNat + x)) := by
  have hoffset : ((s.nWidth.toNat * s.nHeight.toNat : ℕ) + y * s.nWidth.toInt32.toInt + x : ℤ)
      = (s.nWidth.toNat * s.nHeight.toNat + y * s.nWidth.toNat + x : ℕ) := by
    rw [toInt_linesize (by omega) hlt]
    push_cast
    rfl
  have hpixel := pixel_lt (Nat.add_lt_add_left hy s.nHeight.toNat) hx hpitch
  have hlines : 2 * (s.nHeight.toNat + s.nHeight.toNat / 2) ≤ 3 * s.nHeight.toNat := by omega
  have hbytes := Nat.mul_le_mul_right pitch.toNat hlines
  rw [hoffset, read_natCast, getElem?_chroma hy hx, himage]
  rw [Nat.mul_comm pitch.toNat, ← Nat.mul_assoc]
  rw [Nat.mul_assoc] at hbytes
  omega

/-- A frame shows its picture exactly if the picture is a square: the pixels are right in any case,
the size of `buf[0]` is not. -/
lemma faithful_iff (hwidth : 2 ∣ s.nWidth.toNat) :
    Faithful (outputFrame (s.decodedFrame pitch host timestamp)) image s.nWidth.toNat
      s.nHeight.toNat pitch.toNat ↔ SquareOrEmpty s.nWidth.toNat s.nHeight.toNat := by
  have hsize := bufSize_eq_iff pitch host timestamp hwidth hlt
  constructor
  · intro hfaithful
    exact hsize.mp hfaithful.size
  · intro hsquare
    have hbuf : (outputFrame (s.decodedFrame pitch host timestamp)).bufSize.toInt
        = 3 * (s.nWidth.toNat * s.nHeight.toNat) / 2 := by
      rw [hsize.mpr hsquare, toInt_dataSize hlt]
    have hlines : ∀ n ≤ s.nHeight.toNat,
        (n : ℤ) * s.nWidth.toInt32.toInt = (s.nWidth.toNat * n : ℕ) := by
      intro n hn
      rcases Nat.eq_zero_or_pos n with rfl | hpos
      · simp
      · rw [toInt_linesize (hpos.trans_le hn) hlt, Nat.cast_mul, mul_comm]
    refine ⟨?_, ?_, ?_, ?_, hsize.mpr hsquare⟩
    · intro y hy x hx
      exact read_luma timestamp hpitch hlt himage hy hx
    · intro y hy x hx
      rw [toInt_data1 hlt]
      exact read_chroma timestamp hpitch hlt himage hy hx
    · rw [hbuf]
      refine (hlines _ le_rfl).trans_le ?_
      push_cast
      omega
    · rw [hbuf, toInt_data1 hlt]
      refine ⟨Int.natCast_nonneg _, ?_⟩
      refine (congrArg _ (hlines _ (Nat.div_le_self _ _))).trans_le ?_
      have hhalf := Nat.mul_le_mul_left s.nWidth.toNat (Nat.div_mul_le_self s.nHeight.toNat 2)
      rw [← Nat.mul_assoc] at hhalf
      zify at hhalf
      push_cast
      omega

end Pixels

end Frame

/-! ## Alignment -/

lemma dvd_ffalign16 (x : Int32) : 16 ∣ (ffalign16 x).toInt64.toUInt64.toUInt32.toNat := by
  have hbits : (ffalign16 x).toInt64.toUInt64.toUInt32.toBitVec = (ffalign16 x).toBitVec := by
    rw [UInt64.toBitVec_toUInt32, Int64.toBitVec_toUInt64, Int32.toBitVec_toInt64]
    ext i hi
    rw [BitVec.getElem_setWidth, BitVec.getLsbD_signExtend, if_pos hi, BitVec.getLsbD_eq_getElem hi]
    simp [Nat.lt_of_lt_of_le hi (by decide : 32 ≤ 64)]
  have hmask : (~~~15 : Int32).toBitVec.toNat % 2 ^ 4 = 0 := rfl
  rw [← UInt32.toNat_toBitVec, hbits, ffalign16, Int32.toBitVec_and, BitVec.toNat_and]
  apply Nat.dvd_of_mod_eq_zero
  rw [show 16 = 2 ^ 4 from rfl, Nat.and_mod_two_pow, hmask, Nat.and_zero]

/-- A decoder is only opened for an aligned width. -/
lemma dvd_nWidth_show {s : PictureSource} (h : 16 ∣ s.nWidth.toNat) (callback : Callback) :
    16 ∣ (s.show callback).1.nWidth.toNat := by
  cases callback with
  | sequence pFormat answers =>
    rw [PictureSource.show, handleVideoSequence_snd]
    split
    · exact h
    · unfold nvencOpenDecoder
      split
      · dsimp only
        split <;> exact dvd_ffalign16 _
      · exact h
  | decode currPicIdx => exact h
  | display info answers =>
    rw [PictureSource.show]
    split <;> exact h

section Output

variable {ctx ctx' : NvencDecContext} {patience : ℕ} {info : CuvidParserDispInfo}
  {answers : DisplayAnswers} {pitch : UInt32} {image : ℕ → UInt8} {avpkts : List Packet}
  {outputs : List AVFrame}

lemma dvd_nWidth_of_reachable {ok : NvencDecContext → Event → Prop}
    (h : (decoder patience).Reachable ok ctx) : 16 ∣ ctx.nWidth.toNat := by
  refine h.invariant (I := fun ctx => 16 ∣ ctx.nWidth.toNat) ?_ ?_
  · rintro ctx ⟨videoCodec, rfl⟩
    exact dvd_zero 16
  · rintro ctx event ctx' hreach hwidth - hstep
    have hidle := idle_of_reachable hreach
    cases event with
    | callback callback =>
      obtain ⟨-, hsource, -⟩ := hidle.handle (except_toOption_eq_some.mp hstep)
      rw [hsource]
      exact dvd_nWidth_show hwidth callback
    | take =>
      obtain rfl := Option.some.inj hstep
      obtain ⟨-, -, -, hsource, -⟩ := hidle.takeFrame
      rw [hsource]
      exact hwidth

/-! ## The frame of a picture -/

/-- Each call returns one of the frames that wait. -/
lemma Idle.getElem?_outputs (h : Idle ctx)
    (hreturn : Decoder.decodePackets patience ctx avpkts = .ok (outputs, ctx'))
    {k : ℕ} {f : DecodeFrame} (hk : k < avpkts.length) (hf : (frames ctx)[k]? = some f) :
    outputs[k]? = some (outputFrame f) := by
  induction avpkts generalizing ctx outputs k with
  | nil => exact absurd hk (Nat.not_lt_zero k)
  | cons avpkt avpkts ih =>
    obtain ⟨⟨frame, ctx₁⟩, hone, hreturn⟩ := except_bind_eq_ok.mp hreturn
    obtain ⟨⟨rest, ctx₂⟩, hrest, hreturn⟩ := except_bind_eq_ok.mp hreturn
    obtain ⟨rfl, rfl⟩ := Prod.mk.inj (Except.ok.inj hreturn)
    obtain ⟨hidle, -, hframe, hframes⟩ := h.nvencDecodeFrame hone
    cases hwait : frames ctx with
    | nil =>
      rw [hwait] at hf
      cases hf
    | cons first others =>
      rw [hwait] at hf hframe hframes
      rw [hframe]
      cases k with
      | zero =>
        obtain rfl := Option.some.inj hf
        rfl
      | succ k =>
        refine ih hidle hrest (Nat.lt_of_succ_lt_succ hk) ?_
        rw [List.getElem?_cons_succ] at hf
        rw [hframes, List.tail_cons,
          List.getElem?_append_left (List.getElem?_eq_some_iff.mp hf).1, hf]

/-- A picture is mapped and copied to the host, and there is memory and room for its frame. -/
structure Shown (ctx : NvencDecContext) (info : CuvidParserDispInfo) (answers : DisplayAnswers)
    (pitch : UInt32) (image : ℕ → UInt8) : Prop where
  slot : ∃ i, pictureSlot info.pictureIndex = .ok i
  mapped : answers.cuvidMapVideoFrame info.pictureIndex = some (pitch, image)
  host : ctx.pFrameYUV.isSome ∨ answers.cuMemAllocHost.isSome
  copied : answers.cuMemcpyDtoh = true
  memory : answers.avMalloc = true
  room : (frames ctx).length < nvdecMaxQueueSize

/-- The host memory holds the picture, as far as it was copied. -/
lemma Shown.copyPicture (h : Shown ctx info answers pitch image) :
    ∃ host, ctx.copyPicture info.pictureIndex answers = some (pitch, host) ∧
      ∀ n < (pitch * ctx.nHeight * 3 / 2).toNat, host n = image n := by
  obtain ⟨host, hhost⟩ : ∃ host, ctx.pFrameYUV.or answers.cuMemAllocHost = some host := by
    rw [← Option.isSome_iff_exists, Option.isSome_or]
    simpa using h.host
  refine ⟨fun n => if n < (pitch * ctx.nHeight * 3 / 2).toNat then image n else host n, ?_, ?_⟩
  · rw [PictureSource.copyPicture, h.mapped, h.copied, hhost]
    rfl
  · intro n hn
    exact if_pos hn

lemma Shown.exists_frame (h : Shown ctx info answers pitch image) (hidle : Idle ctx)
    (hpos : 0 < patience) :
    ∃ ctx₁ host, handlePictureDisplay patience ctx info answers = .ok (1, ctx₁) ∧ Idle ctx₁ ∧
      frames ctx₁ = frames ctx ++ [ctx.decodedFrame pitch host info.timestamp] ∧
      ∀ n < (pitch * ctx.nHeight * 3 / 2).toNat, host n = image n := by
  obtain ⟨i, hi⟩ := h.slot
  obtain ⟨host, hcopy, himage⟩ := h.copyPicture
  obtain ⟨ret, ctx₁, hdisplay⟩ : ∃ ret ctx₁,
      handlePictureDisplay patience ctx info answers = .ok (ret, ctx₁) :=
    hidle.exists_display hi hpos h.room
  have hret : ret = 1 := by
    obtain ⟨-, ⟨hnone, -⟩ | ⟨-, -, -, hret, -⟩⟩ := (hidle.handlePictureDisplay hi).mp hdisplay
    · rw [hcopy] at hnone
      cases hnone
    · exact hret
  obtain ⟨hidle₁, ⟨hnone, -⟩ | ⟨pitch', host', hsome, -, -, hcase⟩⟩ := hidle.display hi hdisplay
  · rw [hcopy] at hnone
    cases hnone
  · rw [hcopy] at hsome
    obtain ⟨rfl, rfl⟩ := Prod.mk.inj (Option.some.inj hsome)
    rcases hcase with ⟨hmalloc, -⟩ | ⟨-, -, hframes⟩
    · rw [h.memory] at hmalloc
      cases hmalloc
    · exact ⟨ctx₁, host, hret ▸ hdisplay, hidle₁, hframes, himage⟩

/-- In every state that the decoder can reach, for every picture that is shown there, of any width,
height and pitch: the frame that `nvenc_decode_frame` returns for it, after those that wait already,
shows the picture exactly if it is a square. -/
theorem output_faithful_iff (hreach : (decoder patience).Reachable (fun _ _ => True) ctx)
    (hpos : 0 < patience) (hshown : Shown ctx info answers pitch image)
    (hpitch : ctx.nWidth.toNat ≤ pitch.toNat)
    (hbytes : (pitch * ctx.nHeight * 3 / 2).toNat = 3 * (pitch.toNat * ctx.nHeight.toNat) / 2) :
    ∃ ctx₁, handlePictureDisplay patience ctx info answers = .ok (1, ctx₁) ∧
      ∀ callbacks ctx₂, cuvidParseVideoData patience ctx₁ callbacks = .ok ctx₂ →
      ∀ avpkts outputs ctx₃, decodePackets patience ctx₂ avpkts = .ok (outputs, ctx₃) →
        (frames ctx).length < avpkts.length →
        ∃ frame, outputs[(frames ctx).length]? = some frame ∧
          (Faithful frame image ctx.nWidth.toNat ctx.nHeight.toNat pitch.toNat ↔
            SquareOrEmpty ctx.nWidth.toNat ctx.nHeight.toNat) := by
  obtain ⟨ctx₁, host, hdisplay, hidle₁, hframes₁, himage⟩ :=
    hshown.exists_frame (idle_of_reachable hreach) hpos
  refine ⟨ctx₁, hdisplay, ?_⟩
  intro callbacks ctx₂ hparse avpkts outputs ctx₃ hreturn hcalls
  obtain ⟨hidle₂, -, hframes₂⟩ := hidle₁.cuvidParseVideoData hparse
  have hwaits : (frames ctx₂)[(frames ctx).length]?
      = some (ctx.decodedFrame pitch host info.timestamp) := by
    rw [hframes₂, hframes₁, List.append_assoc, List.getElem?_append_right le_rfl, Nat.sub_self]
    rfl
  refine ⟨_, hidle₂.getElem?_outputs hreturn hcalls hwaits, ?_⟩
  have hlt : 3 * (pitch.toNat * ctx.nHeight.toNat) < 2 ^ 32 := by
    rw [toNat_pictureSize] at hbytes
    omega
  have hlt' : 3 * (ctx.nWidth.toNat * ctx.nHeight.toNat) < 2 ^ 32 :=
    (Nat.mul_le_mul_left 3 (Nat.mul_le_mul_right _ hpitch)).trans_lt hlt
  apply faithful_iff info.timestamp hpitch hlt'
  · rw [hbytes] at himage
    exact himage
  · exact (by decide : 2 ∣ 16).trans (dvd_nWidth_of_reachable hreach)

end Output

/-- The decoder for small pictures. -/
def opened : NvencDecContext :=
  { nvencDecodeInit 4 with toPictureSource :=
      (handleVideoSequence (nvencDecodeInit 4).toPictureSource ⟨4, 16, 16, 1⟩
        ⟨true, true, true⟩).2 }

/-- What the driver answers for a grey picture. -/
def greyAnswers (pitch : UInt32) : DisplayAnswers :=
  ⟨fun _ => some (pitch, fun _ => 128), some fun _ => 0, true, true⟩

theorem output_faithful_iff_square :
    ∃ ctx₁ frame ctx₂, handlePictureDisplay 1 opened ⟨3, 40⟩ (greyAnswers 16) = .ok (1, ctx₁) ∧
      decodePackets 1 ctx₁ [⟨0, []⟩] = .ok ([frame], ctx₂) ∧
      Faithful frame (fun _ => 128) 16 16 16 := by
  have hreach : (decoder 1).Reachable (fun _ _ => True) opened :=
    .step (a := .callback openSmall) (.init ⟨4, rfl⟩) trivial rfl
  have hshown : Shown opened ⟨3, 40⟩ (greyAnswers 16) 16 (fun _ => 128) :=
    ⟨⟨3, rfl⟩, rfl, Or.inr rfl, rfl, rfl, by decide⟩
  obtain ⟨ctx₁, hdisplay, hall⟩ :=
    output_faithful_iff hreach Nat.one_pos hshown (by decide) (by decide)
  have hcall : decodePackets 1 ctx₁ [⟨0, []⟩]
      = .ok ((takeFrame ctx₁).1.toList ++ [], (takeFrame ctx₁).2) := rfl
  obtain ⟨frame, hframe, hiff⟩ := hall [] ctx₁ rfl _ _ _ hcall (by decide)
  have htaken : (takeFrame ctx₁).1 = some frame := by
    rw [← Option.head?_toList (o := (takeFrame ctx₁).1), List.head?_eq_getElem?]
    rw [List.append_nil] at hframe
    exact hframe
  rw [htaken] at hcall
  exact ⟨ctx₁, frame, _, hdisplay, hcall, hiff.mpr (by decide)⟩

/-- A picture of 1920 by 1088 pixels, and an empty packet that asks for its frame. -/
def widePicture : List Packet :=
  [⟨1, [.sequence ⟨4, 1920, 1088, 1⟩ ⟨true, true, true⟩, .display ⟨3, 40⟩ (greyAnswers 2048)]⟩,
    ⟨0, []⟩]

/-- The buffer of its frame is said to be larger than the memory. -/
theorem not_faithful_widePicture :
    ∃ frame ctx, decodePackets 1 (nvencDecodeInit 4) widePicture = .ok ([frame], ctx) ∧
      frame.bufSize = 5529600 ∧ frame.data.size = 3133440 ∧
      ¬ Faithful frame (fun _ => 128) 1920 1088 2048 := by
  have hrun : (decodePackets 1 (nvencDecodeInit 4) widePicture).toOption.map
      (fun r => r.1.map fun frame => (frame.bufSize, frame.data.size))
      = some [(5529600, 3133440)] := by decide
  obtain ⟨⟨outputs, ctx⟩, hreturn, hsizes⟩ := Option.map_eq_some_iff.mp hrun
  obtain ⟨frame, rfl, hframe⟩ := List.map_eq_singleton_iff.mp hsizes
  obtain ⟨hbuf, hdata⟩ := Prod.mk.inj hframe
  refine ⟨frame, ctx, except_toOption_eq_some.mp hreturn, hbuf, hdata, ?_⟩
  intro hfaithful
  have hsize := hfaithful.size
  rw [hbuf, hdata] at hsize
  cases hsize

end SelfTestCode.Decoder
