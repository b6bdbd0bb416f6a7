import SelfTestCode.Decoder.Queues

/-!
# What the decoder delivers

`PictureSource.show` is what a callback means without any queue: the frame of the picture that it
names, with the timestamp that it names.  The decoder delivers these frames in their order, one
for each call of `nvenc_decode_frame`, as long as there is memory and as long as no more than twenty
wait: nobody else empties the queue, so a twenty-first waits for room forever.
-/

namespace SelfTestCode.Decoder

/-! ## What is shown -/

/-- The source after a callback, and the frame of the picture that it shows. -/
def PictureSource.show (s : PictureSource) : Callback → PictureSource × Option DecodeFrame
  | .sequence pFormat answers => ((handleVideoSequence s pFormat answers).2, none)
  | .decode _ => (s, none)
  | .display pPicParams answers =>
    match s.copyPicture pPicParams.pictureIndex answers with
    | none => (s, none)
    | some (nDecodedPitch, host) => ({ s with pFrameYUV := some host },
        some (s.decodedFrame nDecodedPitch host pPicParams.timestamp))

/-- The allocator has memory for the frame of the callback. -/
def Callback.avMalloc : Callback → Bool
  | .display _ answers => answers.avMalloc
  | _ => true

/-- The frames of a sequence of callbacks for which there is memory, and the source after it. -/
def PictureSource.showAll : PictureSource → List Callback → PictureSource × List DecodeFrame
  | s, [] => (s, [])
  | s, callback :: callbacks =>
    let rest := (s.show callback).1.showAll callbacks
    (rest.1, ((s.show callback).2.filter fun _ => callback.avMalloc).toList ++ rest.2)

lemma PictureSource.showAll_append (s : PictureSource) (callbacks callbacks' : List Callback) :
    s.showAll (callbacks ++ callbacks') = (((s.showAll callbacks).1.showAll callbacks').1,
      (s.showAll callbacks).2 ++ ((s.showAll callbacks).1.showAll callbacks').2) := by
  induction callbacks generalizing s with
  | nil => simp [PictureSource.showAll]
  | cons callback callbacks ih => simp [PictureSource.showAll, ih, List.append_assoc]

/-- The picture indices that the parser uses: it was told that there are twenty. -/
def Callback.InRange : Callback → Prop
  | .sequence _ _ => True
  | .decode currPicIdx => ∃ i, pictureSlot currPicIdx = .ok i
  | .display pPicParams _ => ∃ i, pictureSlot pPicParams.pictureIndex = .ok i

/-- Whether the callback shows a picture. -/
def Callback.isDisplay : Callback → Bool
  | .display _ _ => true
  | _ => false

/-! ## One callback -/

section Handle

variable {ctx ctx' : NvencDecContext} {callback : Callback} {patience : ℕ}

lemma pictureSlot_of_display {info : CuvidParserDispInfo} {answers : DisplayAnswers}
    {r : Int32 × NvencDecContext}
    (hdisplay : handlePictureDisplay patience ctx info answers = .ok r) :
    ∃ i, pictureSlot info.pictureIndex = .ok i := by
  obtain ⟨ctx₁, henqueue, -⟩ := except_bind_eq_ok.mp hdisplay
  obtain ⟨i, hi, -⟩ := except_bind_eq_ok.mp henqueue
  exact ⟨i, hi⟩

/-- A callback that returns has queued the frame it shows. -/
lemma Idle.handle (h : Idle ctx) (hreturn : handle patience ctx callback = .ok ctx') :
    Idle ctx' ∧ ctx'.toPictureSource = (ctx.show callback).1 ∧
      frames ctx' = frames ctx
        ++ ((ctx.show callback).2.filter fun _ => callback.avMalloc).toList := by
  cases callback with
  | sequence pFormat answers =>
    obtain rfl := Except.ok.inj hreturn
    exact ⟨{ h with }, rfl, (List.append_nil _).symm⟩
  | decode currPicIdx =>
    obtain ⟨-, -, hreturn⟩ := except_bind_eq_ok.mp hreturn
    obtain rfl := Except.ok.inj hreturn
    exact ⟨h, rfl, (List.append_nil _).symm⟩
  | display info answers =>
    obtain ⟨⟨ret, ctx₁⟩, hdisplay, hreturn⟩ := except_bind_eq_ok.mp hreturn
    obtain rfl := Except.ok.inj hreturn
    obtain ⟨i, hi⟩ := pictureSlot_of_display hdisplay
    obtain ⟨hidle, ⟨hnone, hframes, hsource, -⟩ | ⟨pitch, host, hsome, hsource, -, hcase⟩⟩ :=
      h.display hi hdisplay
    · simp only [PictureSource.show, hnone]
      exact ⟨hidle, hsource, by rw [hframes]; simp⟩
    · simp only [PictureSource.show, hsome, Callback.avMalloc]
      refine ⟨hidle, hsource, ?_⟩
      rcases hcase with ⟨hmalloc, hframes⟩ | ⟨hmalloc, -, hframes⟩
      · rw [hframes, hmalloc]
        simp
      · rw [hframes, hmalloc]
        rfl

/-- A callback returns if no picture is in use and there is room for its frame. -/
lemma Idle.exists_handle (h : Idle ctx) (hunused : Unused ctx) (hrange : callback.InRange)
    (hpos : 0 < patience)
    (hroom : callback.isDisplay = true → (frames ctx).length < nvdecMaxQueueSize) :
    ∃ ctx', Decoder.handle patience ctx callback = .ok ctx' := by
  cases callback with
  | sequence pFormat answers => exact ⟨_, rfl⟩
  | decode currPicIdx =>
    obtain ⟨i, hi⟩ := hrange
    have hwait := picWaitFrameAvailable_eq_ok hpos (hunused i)
    refine ⟨ctx, ?_⟩
    rw [Decoder.handle, handlePictureDecode]
    split
    · rw [hi]
      simp only [bind, Except.bind, hwait]
      rfl
    · rfl
  | display info answers =>
    obtain ⟨i, hi⟩ := hrange
    obtain ⟨ret, ctx', hdisplay⟩ : ∃ ret ctx',
        Decoder.handlePictureDisplay patience ctx info answers = .ok (ret, ctx') :=
      h.exists_display hi hpos (hroom rfl)
    exact ⟨ctx', except_bind_eq_ok.mpr ⟨(ret, ctx'), hdisplay, rfl⟩⟩

/-- There is host memory for the picture that the callback shows. -/
def Callback.HasHost (s : PictureSource) : Callback → Prop
  | .display _ answers => s.pFrameYUV.isSome ∨ answers.cuMemAllocHost.isSome
  | _ => True

instance (s : PictureSource) : (callback : Callback) → Decidable (callback.HasHost s)
  | .sequence _ _ | .decode _ => isTrue trivial
  | .display _ answers =>
    inferInstanceAs (Decidable (s.pFrameYUV.isSome ∨ answers.cuMemAllocHost.isSome))

lemma copyPicture_eq_none_iff {s : PictureSource} {index : Int32} {answers : DisplayAnswers} :
    s.copyPicture index answers = none ↔
      ¬ (s.pFrameYUV.isSome ∨ answers.cuMemAllocHost.isSome) := by
  unfold PictureSource.copyPicture
  cases s.pFrameYUV <;> cases answers.cuMemAllocHost <;> simp

/-- A picture that is shown is released exactly if there is host memory for it. -/
lemma Idle.unused_iff (h : Idle ctx) (hunused : Unused ctx)
    (hreturn : Decoder.handle patience ctx callback = .ok ctx') :
    Unused ctx' ↔ callback.HasHost ctx.toPictureSource := by
  cases callback with
  | sequence pFormat answers =>
    obtain rfl := Except.ok.inj hreturn
    exact iff_of_true hunused trivial
  | decode currPicIdx =>
    obtain ⟨-, -, hreturn⟩ := except_bind_eq_ok.mp hreturn
    obtain rfl := Except.ok.inj hreturn
    exact iff_of_true hunused trivial
  | display info answers =>
    obtain ⟨⟨ret, ctx₁⟩, hdisplay, hreturn⟩ := except_bind_eq_ok.mp hreturn
    obtain rfl := Except.ok.inj hreturn
    obtain ⟨i, hi⟩ := pictureSlot_of_display hdisplay
    obtain ⟨-, ⟨hnone, -, -, huse⟩ | ⟨pitch, host, hsome, -, huse, -⟩⟩ := h.display hi hdisplay
    · refine iff_of_false ?_ (copyPicture_eq_none_iff.mp hnone)
      intro hunused'
      have hi' := hunused' i
      rw [huse, Function.update_self] at hi'
      cases hi'
    · refine iff_of_true ?_ ?_
      · intro j
        rw [huse, Function.update_apply, hunused j, ite_self]
      · by_contra hnot
        rw [copyPicture_eq_none_iff.mpr hnot] at hsome
        cases hsome

end Handle

/-! ## Pictures in use -/

/-- The parser calls back, or `nvenc_decode_frame` takes a frame. -/
inductive Event
  | callback (callback : Callback)
  | take

/-- The decoder between two callbacks, from `nvenc_decode_init` on. -/
def decoder (patience : ℕ) : System NvencDecContext Event where
  Init ctx := ∃ videoCodec, ctx = nvencDecodeInit videoCodec
  step ctx
    | .callback callback => (handle patience ctx callback).toOption
    | .take => some (takeFrame ctx).2

/-- Each picture that is shown finds host memory. -/
def HostFound (ctx : NvencDecContext) : Event → Prop
  | .callback callback => callback.HasHost ctx.toPictureSource
  | .take => True

instance (ctx : NvencDecContext) : (event : Event) → Decidable (HostFound ctx event)
  | .callback callback => inferInstanceAs (Decidable (callback.HasHost ctx.toPictureSource))
  | .take => isTrue trivial

section Release

variable {ctx : NvencDecContext} {patience : ℕ}

lemma idle_of_reachable {ok : NvencDecContext → Event → Prop}
    (h : (decoder patience).Reachable ok ctx) : Idle ctx := by
  refine h.invariant ?_ ?_
  · rintro ctx ⟨videoCodec, rfl⟩
    exact idle_nvencDecodeInit videoCodec
  · rintro ctx event ctx' - hidle - hstep
    cases event with
    | callback callback => exact (hidle.handle (except_toOption_eq_some.mp hstep)).1
    | take =>
      obtain rfl := Option.some.inj hstep
      exact hidle.takeFrame.2.1

lemma unused_of_reachable (h : (decoder patience).Reachable HostFound ctx) : Unused ctx := by
  refine h.invariant ?_ ?_
  · rintro ctx ⟨videoCodec, rfl⟩
    exact fun _ => rfl
  · rintro ctx event ctx' hreach hunused hok hstep
    have hidle := idle_of_reachable hreach
    cases event with
    | callback callback =>
      exact (hidle.unused_iff hunused (except_toOption_eq_some.mp hstep)).mpr hok
    | take =>
      obtain rfl := Option.some.inj hstep
      obtain ⟨-, -, -, -, huse⟩ := hidle.takeFrame
      intro i
      rw [huse]
      exact hunused i

/-- In every run of callbacks in which each picture that is shown finds host memory: between two
callbacks no picture is in use and the display queue is empty, so that `pic_wait_frame_available`
returns at once.  The next callback leaves it so exactly if it meets the same condition. -/
theorem pictures_released (h : (decoder patience).Reachable HostFound ctx) :
    Unused ctx ∧ ctx.nFramesInQueue = 0 ∧
    (∀ i turns, 0 < turns → picWaitFrameAvailable ctx i turns = .ok true) ∧
    ∀ turns callback ctx', handle turns ctx callback = .ok ctx' →
      (Unused ctx' ∧ ctx'.nFramesInQueue = 0 ↔ callback.HasHost ctx.toPictureSource) := by
  have hidle := idle_of_reachable h
  have hunused := unused_of_reachable h
  refine ⟨hunused, hidle.displayEmpty, ?_, ?_⟩
  · intro i turns hpos
    exact picWaitFrameAvailable_eq_ok hpos (hunused i)
  · intro turns callback ctx' hreturn
    rw [← hidle.unused_iff hunused hreturn]
    exact and_iff_left (hidle.handle hreturn).1.displayEmpty

end Release

/-- The format of small H.264 pictures, for which a decoder can be opened. -/
def openSmall : Callback := .sequence ⟨4, 16, 16, 1⟩ ⟨true, true, true⟩

/-- A grey picture is shown, with the given host memory. -/
def grey (pictureIndex : Int32) (timestamp : Int64) (host : Option (ℕ → UInt8)) : Callback :=
  .display ⟨pictureIndex, timestamp⟩ ⟨fun _ => some (16, fun _ => 128), host, true, true⟩

theorem pictures_released_grey :
    ∃ ctx, (decoder 1).run (nvencDecodeInit 4)
        [.callback openSmall, .callback (.decode 3), .callback (grey 3 40 (some fun _ => 0))]
        = some ctx ∧
      ctx.nFramesInFrameQueue = 1 ∧ Unused ctx := by
  have hrun : ((decoder 1).run (nvencDecodeInit 4)
      [.callback openSmall, .callback (.decode 3), .callback (grey 3 40 (some fun _ => 0))]).map
      NvencDecContext.nFramesInFrameQueue = some 1 := by decide
  obtain ⟨ctx, hctx, hone⟩ := Option.map_eq_some_iff.mp hrun
  have hreach : (decoder 1).Reachable HostFound ctx :=
    .of_run (.init ⟨4, rfl⟩) (by decide) hctx
  exact ⟨ctx, hctx, hone, (pictures_released hreach).1⟩

/-- Picture 3 is shown, and there is no host memory for it: it stays in use, and the parser waits
forever when it wants to decode into it again. -/
theorem picture_stays_in_use :
    ∃ ctx, (decoder 1).run (nvencDecodeInit 4) [.callback openSmall, .callback (grey 3 40 none)]
        = some ctx ∧
      ¬ Unused ctx ∧ ∀ patience, handle patience ctx (.decode 3) = .error .asleep := by
  have hrun : ((decoder 1).run (nvencDecodeInit 4)
      [.callback openSmall, .callback (grey 3 40 none)]).map
      (fun ctx => (ctx.hDecoder, ctx.aIsFrameInUse 3, ctx.bEndOfDecode))
      = some (true, true, false) := by decide
  obtain ⟨ctx, hctx, hall⟩ := Option.map_eq_some_iff.mp hrun
  simp only [Prod.mk.injEq] at hall
  obtain ⟨hdecoder, huse, hend⟩ := hall
  refine ⟨ctx, hctx, ?_, ?_⟩
  · intro hunused
    have hfree := hunused 3
    rw [huse] at hfree
    cases hfree
  · intro patience
    have hslot : pictureSlot 3 = .ok 3 := rfl
    have hwait := picWaitFrameAvailable_asleep hend huse patience
    simp [handle, handlePictureDecode, hdecoder, hslot, hwait, bind, Except.bind]

/-! ## Packets -/

/-- The callbacks that are made for a packet; an empty packet is not parsed. -/
def Packet.made (avpkt : Packet) : List Callback := if 0 < avpkt.size then avpkt.callbacks else []

/-- The callbacks of a sequence of packets. -/
def made (avpkts : List Packet) : List Callback := avpkts.flatMap Packet.made

section Run

variable {ctx ctx' : NvencDecContext} {patience : ℕ} {callbacks : List Callback} {avpkt : Packet}
  {avpkts : List Packet} {frame : Option AVFrame} {outputs : List AVFrame}

lemma Idle.cuvidParseVideoData (h : Idle ctx)
    (hreturn : cuvidParseVideoData patience ctx callbacks = .ok ctx') :
    Idle ctx' ∧ ctx'.toPictureSource = (ctx.showAll callbacks).1 ∧
      frames ctx' = frames ctx ++ (ctx.showAll callbacks).2 := by
  induction callbacks generalizing ctx with
  | nil =>
    obtain rfl := Except.ok.inj hreturn
    exact ⟨h, rfl, (List.append_nil _).symm⟩
  | cons callback callbacks ih =>
    obtain ⟨ctx₁, hone, hrest⟩ := except_bind_eq_ok.mp hreturn
    obtain ⟨hidle, hsource, hframes⟩ := h.handle hone
    obtain ⟨hidle', hsource', hframes'⟩ := ih hidle hrest
    rw [hsource] at hsource' hframes'
    refine ⟨hidle', hsource', ?_⟩
    rw [hframes', hframes, List.append_assoc]
    rfl

/-- A call takes a frame, and then the parser makes its callbacks. -/
lemma nvencDecodeFrame_eq_ok_iff :
    nvencDecodeFrame patience ctx avpkt = .ok (frame, ctx') ↔ frame = (takeFrame ctx).1 ∧
      cuvidParseVideoData patience (takeFrame ctx).2 avpkt.made = .ok ctx' := by
  have hmade : (if 0 < avpkt.size
      then cuvidParseVideoData patience (takeFrame ctx).2 avpkt.callbacks
      else .ok (takeFrame ctx).2)
      = cuvidParseVideoData patience (takeFrame ctx).2 avpkt.made := by
    unfold Packet.made
    split <;> rfl
  rw [nvencDecodeFrame]
  dsimp only
  rw [hmade, except_bind_eq_ok]
  constructor
  · rintro ⟨ctx₁, hparse, hreturn⟩
    obtain ⟨rfl, rfl⟩ := Prod.mk.inj (Except.ok.inj hreturn)
    exact ⟨rfl, hparse⟩
  · rintro ⟨rfl, hparse⟩
    exact ⟨ctx', hparse, rfl⟩

/-- A call that returns has taken the oldest frame and queued those that were shown. -/
lemma Idle.nvencDecodeFrame (h : Idle ctx)
    (hreturn : nvencDecodeFrame patience ctx avpkt = .ok (frame, ctx')) :
    Idle ctx' ∧ ctx'.toPictureSource = (ctx.showAll avpkt.made).1 ∧
      frame = (frames ctx).head?.map outputFrame ∧
      frames ctx' = (frames ctx).tail ++ (ctx.showAll avpkt.made).2 := by
  obtain ⟨hframe, hidle, hframes, hsource, -⟩ := h.takeFrame
  obtain ⟨rfl, hparse⟩ := nvencDecodeFrame_eq_ok_iff.mp hreturn
  obtain ⟨hidle', hsource', hframes'⟩ := hidle.cuvidParseVideoData hparse
  rw [hsource] at hsource' hframes'
  rw [hframes] at hframes'
  exact ⟨hidle', hsource', hframe, hframes'⟩

/-- What was returned and what still waits is what waited and what was shown. -/
lemma Idle.decodePackets (h : Idle ctx)
    (hreturn : decodePackets patience ctx avpkts = .ok (outputs, ctx')) :
    Idle ctx' ∧ ∃ taken, outputs = taken.map outputFrame ∧
      taken ++ frames ctx' = frames ctx ++ (ctx.showAll (made avpkts)).2 := by
  induction avpkts generalizing ctx outputs with
  | nil =>
    obtain ⟨rfl, rfl⟩ := Prod.mk.inj (Except.ok.inj hreturn)
    exact ⟨h, [], rfl, (List.append_nil _).symm⟩
  | cons avpkt avpkts ih =>
    obtain ⟨⟨frame, ctx₁⟩, hone, hreturn⟩ := except_bind_eq_ok.mp hreturn
    obtain ⟨⟨rest, ctx₂⟩, hrest, hreturn⟩ := except_bind_eq_ok.mp hreturn
    obtain ⟨rfl, rfl⟩ := Prod.mk.inj (Except.ok.inj hreturn)
    obtain ⟨hidle, hsource, hframe, hframes⟩ := h.nvencDecodeFrame hone
    obtain ⟨hidle', taken, htaken, heq⟩ := ih hidle hrest
    refine ⟨hidle', (frames ctx).head?.toList ++ taken, ?_, ?_⟩
    · rw [hframe, htaken, List.map_append, Option.toList_map]
    · have hsplit : (frames ctx).head?.toList ++ (frames ctx).tail = frames ctx := by
        cases frames ctx <;> rfl
      have hshow : (ctx.showAll (made (avpkt :: avpkts))).2
          = (ctx.showAll avpkt.made).2 ++ (ctx₁.showAll (made avpkts)).2 := by
        rw [made, List.flatMap_cons, PictureSource.showAll_append, hsource]
        rfl
      rw [List.append_assoc, heq, hframes, hshow, ← List.append_assoc, ← List.append_assoc, hsplit,
        List.append_assoc]

end Run

/-! ## Memory -/

/-- The answers to the pictures that are shown. -/
def displayAnswers (callbacks : List Callback) : List DisplayAnswers :=
  callbacks.filterMap fun
    | .display _ answers => some answers
    | _ => none

/-- There is host memory when the first picture is shown, and memory for each frame. -/
structure MemoryFound (callbacks : List Callback) : Prop where
  host : ∀ answers, (displayAnswers callbacks).head? = some answers →
    answers.cuMemAllocHost.isSome
  frame : ∀ answers ∈ displayAnswers callbacks, answers.avMalloc = true

/-- Every picture that is shown gives a frame. -/
def PictureSource.Keeps : PictureSource → List Callback → Prop
  | _, [] => True
  | s, callback :: callbacks =>
    (callback.isDisplay = true → ((s.show callback).2.filter fun _ => callback.avMalloc).isSome) ∧
      (s.show callback).1.Keeps callbacks

section Memory

variable {s : PictureSource} {callbacks callbacks' : List Callback}

lemma isDisplay_of_show {callback : Callback}
    (h : ((s.show callback).2.filter fun _ => callback.avMalloc).isSome) :
    callback.isDisplay = true := by
  cases callback with
  | sequence pFormat answers => cases h
  | decode currPicIdx => cases h
  | display info answers => rfl

/-- A picture that gives a frame has found host memory. -/
lemma hasHost_of_show {callback : Callback}
    (h : callback.isDisplay = true →
      ((s.show callback).2.filter fun _ => callback.avMalloc).isSome) : callback.HasHost s := by
  cases callback with
  | sequence pFormat answers => trivial
  | decode currPicIdx => trivial
  | display info answers =>
    by_contra hnot
    have hnone : s.copyPicture info.pictureIndex answers = none :=
      copyPicture_eq_none_iff.mpr hnot
    have hshow := h rfl
    simp [PictureSource.show, hnone] at hshow

/-- A callback gives a frame at most if it shows a picture. -/
lemma length_show_le (s : PictureSource) (callback : Callback) :
    ((s.show callback).2.filter fun _ => callback.avMalloc).toList.length
      ≤ if callback.isDisplay = true then 1 else 0 := by
  cases hkept : (s.show callback).2.filter fun _ => callback.avMalloc with
  | none => simp
  | some frame =>
    rw [if_pos (isDisplay_of_show (s := s) (by rw [hkept]; rfl))]
    simp

/-- A frame for each picture, or fewer. -/
lemma length_showAll_le (s : PictureSource) (callbacks : List Callback) :
    (s.showAll callbacks).2.length ≤ callbacks.countP Callback.isDisplay ∧
      ((s.showAll callbacks).2.length = callbacks.countP Callback.isDisplay ↔
        s.Keeps callbacks) := by
  induction callbacks generalizing s with
  | nil => simp [PictureSource.showAll, PictureSource.Keeps]
  | cons callback callbacks ih =>
    obtain ⟨hle, hiff⟩ := ih (s.show callback).1
    simp only [PictureSource.showAll, PictureSource.Keeps, List.length_append, List.countP_cons]
    cases hkept : (s.show callback).2.filter fun _ => callback.avMalloc with
    | none =>
      rw [← hiff]
      cases callback.isDisplay with
      | true =>
        simp
        omega
      | false => simp [hle]
    | some frame =>
      rw [if_pos (isDisplay_of_show (s := s) (by rw [hkept]; rfl)), ← hiff]
      simp
      omega

lemma PictureSource.keeps_append : s.Keeps (callbacks ++ callbacks') ↔
    s.Keeps callbacks ∧ (s.showAll callbacks).1.Keeps callbacks' := by
  induction callbacks generalizing s with
  | nil => simp [PictureSource.Keeps, PictureSource.showAll]
  | cons callback callbacks ih =>
    simp [PictureSource.Keeps, PictureSource.showAll, ih, and_assoc]

/-- A format opens a decoder, unless there is one. -/
lemma handleVideoSequence_snd (s : PictureSource) (pFormat : CuVideoFormat)
    (answers : OpenAnswers) :
    (handleVideoSequence s pFormat answers).2 = if s.hDecoder then s
      else nvencOpenDecoder s pFormat.codedWidth.toInt32 pFormat.codedHeight.toInt32 answers := by
  unfold handleVideoSequence
  dsimp only
  generalize (if s.hDecoder then s else nvencOpenDecoder s _ _ answers) = s'
  split <;> rfl

/-- Opening a decoder leaves the host memory alone. -/
lemma handleVideoSequence_pFrameYUV (s : PictureSource) (pFormat : CuVideoFormat)
    (answers : OpenAnswers) :
    (handleVideoSequence s pFormat answers).2.pFrameYUV = s.pFrameYUV := by
  rw [handleVideoSequence_snd]
  split
  · rfl
  · unfold nvencOpenDecoder
    split
    · dsimp only
      split <;> rfl
    · rfl

/-- With host memory, the frames need their own memory only. -/
lemma keeps_iff_of_host (hhost : s.pFrameYUV.isSome) :
    s.Keeps callbacks ↔ ∀ answers ∈ displayAnswers callbacks, answers.avMalloc = true := by
  induction callbacks generalizing s with
  | nil => simp [PictureSource.Keeps, displayAnswers]
  | cons callback callbacks ih =>
    rw [PictureSource.Keeps]
    cases callback with
    | sequence pFormat answers =>
      have hhost' : (s.show (.sequence pFormat answers)).1.pFrameYUV.isSome := by
        rw [PictureSource.show, handleVideoSequence_pFrameYUV]
        exact hhost
      rw [ih hhost']
      simp [Callback.isDisplay, displayAnswers]
    | decode currPicIdx =>
      rw [ih (by exact hhost)]
      simp [Callback.isDisplay, displayAnswers]
    | display info answers =>
      obtain ⟨picture, hpicture⟩ : ∃ picture, s.copyPicture info.pictureIndex answers
          = some picture := by
        rw [← Option.ne_none_iff_exists', Ne, copyPicture_eq_none_iff, not_not]
        exact Or.inl hhost
      simp only [PictureSource.show, hpicture]
      rw [ih rfl]
      simp [Callback.isDisplay, Callback.avMalloc, displayAnswers, Option.filter_some]

lemma memoryFound_congr (h : displayAnswers callbacks = displayAnswers callbacks') :
    MemoryFound callbacks ↔ MemoryFound callbacks' := by
  constructor
  · rintro ⟨hhost, hframe⟩
    rw [h] at hhost hframe
    exact ⟨hhost, hframe⟩
  · rintro ⟨hhost, hframe⟩
    rw [← h] at hhost hframe
    exact ⟨hhost, hframe⟩

lemma memoryFound_display {info : CuvidParserDispInfo} {answers : DisplayAnswers} :
    MemoryFound (.display info answers :: callbacks) ↔ answers.cuMemAllocHost.isSome ∧
      answers.avMalloc = true ∧
      ∀ answers' ∈ displayAnswers callbacks, answers'.avMalloc = true := by
  have hcons : displayAnswers (.display info answers :: callbacks)
      = answers :: displayAnswers callbacks := rfl
  constructor
  · rintro ⟨hhost, hframe⟩
    rw [hcons] at hhost hframe
    exact ⟨hhost answers rfl, List.forall_mem_cons.mp hframe⟩
  · rintro ⟨hhost, hframe⟩
    refine ⟨?_, ?_⟩
    · rintro answers' hhead
      obtain rfl := Option.some.inj hhead
      exact hhost
    · rw [hcons]
      exact List.forall_mem_cons.mpr hframe

/-- Without it, the first picture has to find it. -/
lemma keeps_iff (hhost : s.pFrameYUV = none) : s.Keeps callbacks ↔ MemoryFound callbacks := by
  induction callbacks generalizing s with
  | nil => exact iff_of_true trivial ⟨by simp [displayAnswers], by simp [displayAnswers]⟩
  | cons callback callbacks ih =>
    rw [PictureSource.Keeps]
    cases callback with
    | sequence pFormat answers =>
      have hhost' : (s.show (.sequence pFormat answers)).1.pFrameYUV = none := by
        rw [PictureSource.show, handleVideoSequence_pFrameYUV]
        exact hhost
      rw [ih hhost']
      simp only [Callback.isDisplay, Bool.false_eq_true, false_implies, true_and]
      exact memoryFound_congr rfl
    | decode currPicIdx =>
      rw [ih (by exact hhost)]
      simp only [Callback.isDisplay, Bool.false_eq_true, false_implies, true_and]
      exact memoryFound_congr rfl
    | display info answers =>
      rw [memoryFound_display]
      cases hpicture : s.copyPicture info.pictureIndex answers with
      | none =>
        have hnot := copyPicture_eq_none_iff.mp hpicture
        simp only [PictureSource.show, hpicture, Callback.isDisplay]
        refine iff_of_false (fun hkeeps => ?_) fun hfound => hnot (Or.inr hfound.1)
        cases hkeeps.1 trivial
      | some picture =>
        have hfound : answers.cuMemAllocHost.isSome := by
          by_contra hnot
          have hnone : s.copyPicture info.pictureIndex answers = none := by
            rw [copyPicture_eq_none_iff, hhost]
            simpa using hnot
          rw [hpicture] at hnone
          cases hnone
        simp only [PictureSource.show, hpicture]
        rw [keeps_iff_of_host rfl]
        simp [Callback.isDisplay, Callback.avMalloc, Option.filter_some, hfound]

end Memory

/-! ## Room -/

/-- The pictures that are shown for a packet. -/
def Packet.displays (avpkt : Packet) : ℕ := avpkt.made.countP Callback.isDisplay

/-- No more frames wait than the queue holds, when `b` wait at first and each call takes one and
adds some. -/
def Fits : ℕ → List ℕ → Prop
  | _, [] => True
  | b, n :: ns => b - 1 + n ≤ nvdecMaxQueueSize ∧ Fits (b - 1 + n) ns

/-- Every call returns, and each picture that was shown was returned or waits. -/
def Delivers (videoCodec : Int32) (avpkts : List Packet) : Prop :=
  ∃ patience outputs ctx,
    decodePackets patience (nvencDecodeInit videoCodec) avpkts = .ok (outputs, ctx) ∧
    (made avpkts).countP Callback.isDisplay = outputs.length + (frames ctx).length

section Room

variable {ctx ctx' : NvencDecContext} {patience : ℕ} {callbacks : List Callback}
  {avpkts : List Packet} {outputs : List AVFrame}

/-- A call takes one frame and adds one for each picture. -/
lemma Idle.length_nvencDecodeFrame (h : Idle ctx) {avpkt : Packet} {frame : Option AVFrame}
    (hkeeps : ctx.Keeps avpkt.made)
    (hreturn : Decoder.nvencDecodeFrame patience ctx avpkt = .ok (frame, ctx')) :
    (frames ctx').length = (frames ctx).length - 1 + avpkt.displays := by
  obtain ⟨-, -, -, hframes⟩ := h.nvencDecodeFrame hreturn
  rw [hframes, List.length_append, List.length_tail,
    (length_showAll_le ctx.toPictureSource avpkt.made).2.mpr hkeeps]
  rfl

/-- A run that returns without a loss has had room for all frames. -/
lemma Idle.fits (h : Idle ctx) (hkeeps : ctx.Keeps (made avpkts))
    (hreturn : Decoder.decodePackets patience ctx avpkts = .ok (outputs, ctx')) :
    Fits (frames ctx).length (avpkts.map Packet.displays) := by
  induction avpkts generalizing ctx outputs with
  | nil => trivial
  | cons avpkt avpkts ih =>
    obtain ⟨⟨frame, ctx₁⟩, hone, hreturn⟩ := except_bind_eq_ok.mp hreturn
    obtain ⟨⟨rest, ctx₂⟩, hrest, hreturn⟩ := except_bind_eq_ok.mp hreturn
    obtain ⟨-, rfl⟩ := Prod.mk.inj (Except.ok.inj hreturn)
    obtain ⟨hidle, hsource, -, -⟩ := h.nvencDecodeFrame hone
    rw [made, List.flatMap_cons, PictureSource.keeps_append, ← hsource] at hkeeps
    have hlength := h.length_nvencDecodeFrame hkeeps.1 hone
    rw [List.map_cons, Fits, ← hlength]
    refine ⟨?_, ih hidle hkeeps.2 hrest⟩
    rw [hidle.length_frames]
    exact hidle.frameCount

/-- Callbacks with memory and room return. -/
lemma Idle.exists_cuvidParseVideoData (h : Idle ctx) (hunused : Unused ctx) (hpos : 0 < patience)
    (hrange : ∀ callback ∈ callbacks, callback.InRange) (hkeeps : ctx.Keeps callbacks)
    (hroom : (frames ctx).length + callbacks.countP Callback.isDisplay ≤ nvdecMaxQueueSize) :
    ∃ ctx', Decoder.cuvidParseVideoData patience ctx callbacks = .ok ctx' ∧ Unused ctx' := by
  induction callbacks generalizing ctx with
  | nil => exact ⟨ctx, rfl, hunused⟩
  | cons callback callbacks ih =>
    rw [List.countP_cons] at hroom
    have hfirst : callback.isDisplay = true → (frames ctx).length < nvdecMaxQueueSize := by
      intro hdisplay
      rw [if_pos hdisplay] at hroom
      omega
    obtain ⟨ctx₁, hone⟩ := h.exists_handle hunused (hrange callback List.mem_cons_self) hpos hfirst
    obtain ⟨hidle, hsource, hframes⟩ := h.handle hone
    rw [PictureSource.Keeps, ← hsource] at hkeeps
    have hhost := hasHost_of_show hkeeps.1
    have hroom₁ : (frames ctx₁).length + callbacks.countP Callback.isDisplay
        ≤ nvdecMaxQueueSize := by
      have hle := length_show_le ctx.toPictureSource callback
      rw [hframes, List.length_append]
      omega
    obtain ⟨ctx', hrest, hunused'⟩ := ih hidle ((h.unused_iff hunused hone).mpr hhost)
      (fun callback' h' => hrange callback' (List.mem_cons_of_mem _ h')) hkeeps.2 hroom₁
    exact ⟨ctx', except_bind_eq_ok.mpr ⟨ctx₁, hone, hrest⟩, hunused'⟩

/-- So do the calls. -/
lemma Idle.exists_decodePackets (h : Idle ctx) (hunused : Unused ctx) (hpos : 0 < patience)
    (hrange : ∀ callback ∈ made avpkts, callback.InRange) (hkeeps : ctx.Keeps (made avpkts))
    (hfits : Fits (frames ctx).length (avpkts.map Packet.displays)) :
    ∃ outputs ctx', Decoder.decodePackets patience ctx avpkts = .ok (outputs, ctx') := by
  induction avpkts generalizing ctx with
  | nil => exact ⟨[], ctx, rfl⟩
  | cons avpkt avpkts ih =>
    rw [made, List.flatMap_cons] at hrange hkeeps
    rw [PictureSource.keeps_append] at hkeeps
    obtain ⟨hroom, hfits⟩ := hfits
    obtain ⟨-, hidle₀, hframes₀, hsource₀, huse₀⟩ := h.takeFrame
    have hunused₀ : Unused (Decoder.takeFrame ctx).2 := by
      intro i
      rw [huse₀]
      exact hunused i
    obtain ⟨ctx₁, hparse, hunused₁⟩ := hidle₀.exists_cuvidParseVideoData hunused₀ hpos
      (fun callback hc => hrange callback (List.mem_append_left _ hc))
      (by rw [hsource₀]; exact hkeeps.1)
      (by rw [hframes₀, List.length_tail]; exact hroom)
    have hone := nvencDecodeFrame_eq_ok_iff.mpr ⟨rfl, hparse⟩
    obtain ⟨hidle₁, hsource₁, -, -⟩ := h.nvencDecodeFrame hone
    have hlength := h.length_nvencDecodeFrame hkeeps.1 hone
    obtain ⟨rest, ctx', hrest⟩ := ih hidle₁ hunused₁
      (fun callback hc => hrange callback (List.mem_append_right _ hc))
      (by rw [hsource₁]; exact hkeeps.2) (by rw [hlength]; exact hfits)
    exact ⟨_, ctx', except_bind_eq_ok.mpr ⟨_, hone, except_bind_eq_ok.mpr ⟨_, hrest, rfl⟩⟩⟩

end Room

/-! ## Delivery -/

section Delivery

variable (videoCodec : Int32) (avpkts : List Packet)

/-- For every sequence of packets, and every number of pictures that the parser shows for each:
all calls return and no frame is lost exactly if there is memory, and never more than twenty
frames wait. -/
theorem delivers_iff (hrange : ∀ callback ∈ made avpkts, callback.InRange) :
    Delivers videoCodec avpkts ↔
      MemoryFound (made avpkts) ∧ Fits 0 (avpkts.map Packet.displays) := by
  have hidle := idle_nvencDecodeInit videoCodec
  have hempty : frames (nvencDecodeInit videoCodec) = [] := rfl
  have hiff : (nvencDecodeInit videoCodec).Keeps (made avpkts) ↔ MemoryFound (made avpkts) :=
    keeps_iff rfl
  have hcount := length_showAll_le (nvencDecodeInit videoCodec).toPictureSource (made avpkts)
  rw [hiff] at hcount
  -- what was shown is what was returned and what waits
  have hshown : ∀ {patience outputs ctx},
      decodePackets patience (nvencDecodeInit videoCodec) avpkts = .ok (outputs, ctx) →
      ((nvencDecodeInit videoCodec).showAll (made avpkts)).2.length
        = outputs.length + (frames ctx).length := by
    intro patience outputs ctx hreturn
    obtain ⟨-, taken, rfl, heq⟩ := hidle.decodePackets hreturn
    rw [hempty, List.nil_append] at heq
    rw [← heq, List.length_append, List.length_map]
  constructor
  · rintro ⟨patience, outputs, ctx, hreturn, hlost⟩
    have hfound := hcount.2.mp ((hshown hreturn).trans hlost.symm)
    exact ⟨hfound, hidle.fits (hiff.mpr hfound) hreturn⟩
  · rintro ⟨hfound, hfits⟩
    obtain ⟨outputs, ctx, hreturn⟩ := hidle.exists_decodePackets (fun _ => rfl) Nat.one_pos hrange
      (hiff.mpr hfound) hfits
    exact ⟨1, outputs, ctx, hreturn, (hcount.2.mpr hfound).symm.trans (hshown hreturn)⟩

/-- A packet for which the parser opens the decoder and shows `n` pictures. -/
def burst (n : ℕ) : Packet where
  size := 1
  callbacks := openSmall :: List.replicate n (grey 3 40 (some fun _ => 0))

lemma burst_inRange {n : ℕ} : ∀ callback ∈ made [burst n], callback.InRange := by
  intro callback hmem
  rw [made, List.flatMap_singleton, Packet.made, if_pos (by exact Int32.zero_lt_one)] at hmem
  rcases List.mem_cons.mp hmem with rfl | hmem
  · trivial
  · rw [List.eq_of_mem_replicate hmem]
    exact ⟨3, rfl⟩

theorem delivers_iff_burst :
    (∀ callback ∈ made [burst 2], callback.InRange) ∧ Delivers 4 [burst 2] := by
  refine ⟨burst_inRange, (delivers_iff 4 [burst 2] burst_inRange).mpr ⟨⟨?_, ?_⟩, ?_⟩⟩
  · intro answers hhead
    obtain rfl := Option.some.inj hhead
    rfl
  · intro answers hmem
    obtain rfl : answers = _ := List.eq_of_mem_replicate (n := 2) hmem
    rfl
  · exact ⟨by decide, trivial⟩

/-- For twenty-one pictures of one packet the call does not return. -/
theorem not_delivers_burst :
    (∀ callback ∈ made [burst 21], callback.InRange) ∧ ¬ Delivers 4 [burst 21] := by
  refine ⟨burst_inRange, ?_⟩
  rintro ⟨patience, outputs, ctx, hreturn, -⟩
  obtain ⟨⟨frame, ctx₁⟩, hone, -⟩ := except_bind_eq_ok.mp hreturn
  obtain ⟨hidle, -, -, hframes⟩ := (idle_nvencDecodeInit 4).nvencDecodeFrame hone
  have hshown : ((nvencDecodeInit 4).showAll (burst 21).made).2.length = 21 := by decide
  have hlength := congrArg List.length hframes
  rw [List.length_append, hshown, hidle.length_frames] at hlength
  have hcount : ctx₁.nFramesInFrameQueue ≤ 20 := hidle.frameCount
  omega

/-- The pictures that are shown. -/
def displayInfos (callbacks : List Callback) : List CuvidParserDispInfo :=
  callbacks.filterMap fun
    | .display pPicParams _ => some pPicParams
    | _ => none

/-- The same, with the answers of the driver. -/
def displays (callbacks : List Callback) : List (CuvidParserDispInfo × DisplayAnswers) :=
  callbacks.filterMap fun
    | .display pPicParams answers => some (pPicParams, answers)
    | _ => none

lemma displays_fst (callbacks : List Callback) :
    (displays callbacks).map Prod.fst = displayInfos callbacks := by
  rw [displays, displayInfos, List.map_filterMap]
  refine List.filterMap_congr fun callback _ => ?_
  cases callback <;> rfl

/-- The frame is made of what is mapped for the index of the picture, and has the timestamp of the
picture. -/
def DecodeFrame.Shows (frame : DecodeFrame) (display : CuvidParserDispInfo × DisplayAnswers) :
    Prop :=
  ∃ (s : PictureSource) (nDecodedPitch : UInt32) (host : ℕ → UInt8),
    s.copyPicture display.1.pictureIndex display.2 = some (nDecodedPitch, host) ∧
      frame = s.decodedFrame nDecodedPitch host display.1.timestamp

/-- Each picture gives a frame of its own. -/
lemma shows_showAll {s : PictureSource} {callbacks : List Callback} (h : s.Keeps callbacks) :
    List.Forall₂ DecodeFrame.Shows (s.showAll callbacks).2 (displays callbacks) := by
  induction callbacks generalizing s with
  | nil => exact .nil
  | cons callback callbacks ih =>
    obtain ⟨hone, hrest⟩ := h
    have htail := ih hrest
    cases callback with
    | sequence pFormat answers => exact htail
    | decode currPicIdx => exact htail
    | display info answers =>
      have hkept := hone rfl
      cases hpicture : s.copyPicture info.pictureIndex answers with
      | none => simp [PictureSource.show, hpicture] at hkept
      | some picture =>
        simp only [PictureSource.show, hpicture, Callback.avMalloc, Option.isSome_filter,
          Option.any_some] at hkept
        simp only [PictureSource.showAll, PictureSource.show, hpicture, Callback.avMalloc, hkept,
          Option.filter_some, if_true, Option.toList_some, displays, List.filterMap_cons]
        simp only [PictureSource.show, hpicture] at htail
        exact .cons ⟨s, picture.1, picture.2, hpicture, rfl⟩ htail

/-- The frame of a picture has its timestamp. -/
lemma pts_showAll {s : PictureSource} {callbacks : List Callback} (h : s.Keeps callbacks) :
    (s.showAll callbacks).2.map DecodeFrame.pts
      = (displayInfos callbacks).map CuvidParserDispInfo.timestamp := by
  rw [← displays_fst, ← List.forall₂_eq_eq_eq, List.forall₂_map_left_iff,
    List.forall₂_map_right_iff, List.forall₂_map_right_iff]
  refine (shows_showAll h).imp ?_
  rintro _ display ⟨s', nDecodedPitch, host, -, rfl⟩
  rfl

/-- With memory and room, the frames that were returned are the first of the pictures that were
shown, in their order: each with the bytes of the picture that its callback names, and with the
timestamp that its callback names.  The others wait in the queue.  `Shows` says it of each frame
and its callback. -/
theorem frames_in_display_order (hrange : ∀ callback ∈ made avpkts, callback.InRange)
    (hmemory : MemoryFound (made avpkts)) (hfits : Fits 0 (avpkts.map Packet.displays))
    {patience : ℕ} (hpos : 0 < patience) :
    ∃ outputs ctx, decodePackets patience (nvencDecodeInit videoCodec) avpkts = .ok (outputs, ctx) ∧
      outputs ++ (frames ctx).map outputFrame
        = ((nvencDecodeInit videoCodec).showAll (made avpkts)).2.map outputFrame ∧
      outputs.map AVFrame.pts ++ (frames ctx).map DecodeFrame.pts
        = (displayInfos (made avpkts)).map CuvidParserDispInfo.timestamp ∧
      List.Forall₂ DecodeFrame.Shows ((nvencDecodeInit videoCodec).showAll (made avpkts)).2
        (displays (made avpkts)) := by
  have hidle := idle_nvencDecodeInit videoCodec
  have hempty : frames (nvencDecodeInit videoCodec) = [] := rfl
  have hkeeps := (keeps_iff (s := (nvencDecodeInit videoCodec).toPictureSource) rfl).mpr hmemory
  obtain ⟨outputs, ctx, hreturn⟩ :=
    hidle.exists_decodePackets (fun _ => rfl) hpos hrange hkeeps hfits
  obtain ⟨-, taken, rfl, heq⟩ := hidle.decodePackets hreturn
  rw [hempty, List.nil_append] at heq
  refine ⟨_, ctx, hreturn, ?_, ?_, shows_showAll hkeeps⟩
  · rw [← heq, List.map_append]
  · rw [← pts_showAll hkeeps, ← heq, List.map_append, List.map_map]
    rfl

/-- A picture is shown for which the driver maps memory that is full of its index. -/
def numbered (pictureIndex : Int32) (timestamp : Int64) (host : Option (ℕ → UInt8)) : Callback :=
  .display ⟨pictureIndex, timestamp⟩
    ⟨fun index => some (16, fun _ => UInt8.ofNat index.toInt.toNat), host, true, true⟩

/-- Two pictures, and an empty packet that asks for a frame. -/
def twoPictures : List Packet :=
  [⟨1, [openSmall, numbered 3 40 (some fun _ => 0), numbered 5 80 none]⟩, ⟨0, []⟩]

theorem frames_in_display_order_twoPictures :
    ∃ outputs ctx, decodePackets 1 (nvencDecodeInit 4) twoPictures = .ok (outputs, ctx) ∧
      outputs.map AVFrame.pts ++ (frames ctx).map DecodeFrame.pts = [40, 80] ∧
      (outputs ++ (frames ctx).map outputFrame).map (fun frame => frame.data.bytes)
        = [List.replicate 384 3, List.replicate 384 5] ∧
      (displays (made twoPictures)).map (fun display => display.1.pictureIndex) = [3, 5] := by
  have hmade : made twoPictures
      = [openSmall, numbered 3 40 (some fun _ => 0), numbered 5 80 none] := rfl
  have hrange : ∀ callback ∈ made twoPictures, callback.InRange := by
    rw [hmade]
    simp only [List.forall_mem_cons, List.not_mem_nil, false_implies, implies_true, and_true]
    exact ⟨trivial, ⟨3, rfl⟩, ⟨5, rfl⟩⟩
  have hmemory : MemoryFound (made twoPictures) := by
    refine ⟨?_, ?_⟩
    · intro answers hhead
      obtain rfl := Option.some.inj hhead
      rfl
    · have hanswers : (displayAnswers (made twoPictures)).map DisplayAnswers.avMalloc
          = [true, true] := rfl
      intro answers hmem
      have hmem' := List.mem_map_of_mem (f := DisplayAnswers.avMalloc) hmem
      rw [hanswers] at hmem'
      simpa using hmem'
  have hfits : Fits 0 (twoPictures.map Packet.displays) :=
    ⟨by decide, by decide, trivial⟩
  have hbytes : (((nvencDecodeInit 4).showAll (made twoPictures)).2.map outputFrame).map
      (fun frame => frame.data.bytes) = [List.replicate 384 3, List.replicate 384 5] := by
    decide +kernel
  obtain ⟨outputs, ctx, hreturn, hshown, hpts, -⟩ :=
    frames_in_display_order 4 twoPictures hrange hmemory hfits Nat.one_pos
  exact ⟨outputs, ctx, hreturn, hpts, hshown ▸ hbytes, rfl⟩

end Delivery

end SelfTestCode.Decoder
