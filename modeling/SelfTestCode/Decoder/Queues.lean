import SelfTestCode.Decoder.Callbacks

/-!
# The two queues of the decoder

`frames` is the queue of decoded frames, oldest first.  The display queue is empty between two
callbacks: what `pic_enqueue` puts in, `pic_dequeue` takes out at once.  `Idle` collects what holds
of the context between two callbacks, and each function has one lemma that says what it does then.
-/

namespace SelfTestCode.Decoder

/-- The frames that wait to be returned. -/
def frames (ctx : NvencDecContext) : List DecodeFrame :=
  window ctx.aFrameQueue ctx.nFrameQueueReadPosition ctx.nFramesInFrameQueue

/-- The context between two callbacks. -/
structure Idle (ctx : NvencDecContext) : Prop where
  frameCells : ctx.aFrameQueue.length = nvdecMaxQueueSize
  frameHead : ctx.nFrameQueueReadPosition < nvdecMaxQueueSize
  frameCount : ctx.nFramesInFrameQueue ≤ nvdecMaxQueueSize
  displayCells : ctx.aDisplayQueue.length = nvdecMaxQueueSize
  displayHead : ctx.nReadPosition < nvdecMaxQueueSize
  displayEmpty : ctx.nFramesInQueue = 0
  running : ctx.bEndOfDecode = false
  announced : 0 < ctx.nFramesInFrameQueue → ctx.haveDecodedFrames = true

/-- No picture is marked in use. -/
def Unused (ctx : NvencDecContext) : Prop := ∀ i, ctx.aIsFrameInUse i = false

section

variable {ctx ctx' : NvencDecContext} {patience : ℕ}

lemma idle_nvencDecodeInit (videoCodec : Int32) : Idle (nvencDecodeInit videoCodec) where
  frameCells := List.length_replicate
  frameHead := by simp [nvencDecodeInit, nvdecMaxQueueSize]
  frameCount := by simp [nvencDecodeInit]
  displayCells := List.length_replicate
  displayHead := by simp [nvencDecodeInit, nvdecMaxQueueSize]
  displayEmpty := rfl
  running := rfl
  announced h := by simp [nvencDecodeInit] at h

lemma Idle.length_frames (h : Idle ctx) : (frames ctx).length = ctx.nFramesInFrameQueue :=
  length_window (by rw [h.frameCells]; exact h.frameCount)

/-! ## Waiting -/

/-- A loop that has to wait for room waits forever. -/
lemma placeOrSleep_eq_ok_iff {place : NvencDecContext → Option NvencDecContext}
    (hend : ctx.bEndOfDecode = false) :
    placeOrSleep place patience ctx = .ok ctx' ↔ 0 < patience ∧ place ctx = some ctx' := by
  induction patience with
  | zero => simp [placeOrSleep]
  | succ patience ih =>
    rw [placeOrSleep]
    cases hplace : place ctx with
    | some ctx₁ => simp
    | none =>
      dsimp only
      rw [hend, if_neg Bool.false_ne_true, ih, hplace]
      simp

lemma picWaitFrameAvailable_eq_ok {i : Fin nvdecMaxQueueSize} (hpos : 0 < patience)
    (hfree : ctx.aIsFrameInUse i = false) :
    picWaitFrameAvailable ctx i patience = .ok true := by
  obtain ⟨n, rfl⟩ := Nat.exists_eq_succ_of_ne_zero hpos.ne'
  simp [picWaitFrameAvailable, hfree]

lemma picWaitFrameAvailable_asleep {i : Fin nvdecMaxQueueSize} (hend : ctx.bEndOfDecode = false)
    (huse : ctx.aIsFrameInUse i = true) (patience : ℕ) :
    picWaitFrameAvailable ctx i patience = .error .asleep := by
  induction patience with
  | zero => rfl
  | succ patience ih => simp [picWaitFrameAvailable, huse, hend, ih]

/-! ## Frames -/

/-- There is room for a frame exactly if fewer than twenty wait. -/
lemma Idle.placeFrame (h : Idle ctx) (f : DecodeFrame) :
    (nvdecMaxQueueSize ≤ (frames ctx).length ∧ placeFrame f ctx = none) ∨
    ∃ ctx', placeFrame f ctx = some ctx' ∧ (frames ctx).length < nvdecMaxQueueSize ∧
      frames ctx' = frames ctx ++ [f] ∧
      ctx' = { ctx with
        aFrameQueue := ctx'.aFrameQueue
        nFramesInFrameQueue := ctx.nFramesInFrameQueue + 1 } ∧
      ctx'.aFrameQueue.length = nvdecMaxQueueSize := by
  rw [h.length_frames]
  by_cases hroom : ctx.nFramesInFrameQueue < nvdecMaxQueueSize
  · right
    refine ⟨_, if_pos hroom, hroom, ?_, rfl, ?_⟩
    · have hhead : ctx.nFrameQueueReadPosition < ctx.aFrameQueue.length := by
        rw [h.frameCells]
        exact h.frameHead
      have hset := window_set hhead (by rw [h.frameCells]; exact hroom) f
      rw [h.frameCells] at hset
      exact hset
    · rw [List.length_set]
      exact h.frameCells
  · left
    exact ⟨not_lt.mp hroom, if_neg hroom⟩

lemma Idle.frameDequeue (h : Idle ctx) :
    (frameDequeue ctx).1 = (frames ctx).head? ∧ Idle (frameDequeue ctx).2 ∧
      frames (frameDequeue ctx).2 = (frames ctx).tail ∧
      (frameDequeue ctx).2.toPictureSource = ctx.toPictureSource ∧
      (frameDequeue ctx).2.aIsFrameInUse = ctx.aIsFrameInUse := by
  by_cases hpos : 0 < ctx.nFramesInFrameQueue
  · have hhead : ctx.nFrameQueueReadPosition < ctx.aFrameQueue.length := by
      rw [h.frameCells]
      exact h.frameHead
    have hcount := h.frameCount
    have hsplit : frames ctx = ctx.aFrameQueue.get ⟨_, hhead⟩ :: window ctx.aFrameQueue
        ((ctx.nFrameQueueReadPosition + 1) % nvdecMaxQueueSize)
        (ctx.nFramesInFrameQueue - 1) := by
      have hsucc := window_succ (n := ctx.nFramesInFrameQueue - 1) hhead
        (by rw [h.frameCells]; omega)
      have hmod : (ctx.nFrameQueueReadPosition + 1) % ctx.aFrameQueue.length
          = (ctx.nFrameQueueReadPosition + 1) % nvdecMaxQueueSize := by rw [h.frameCells]
      rw [Nat.sub_add_cancel hpos, hmod] at hsucc
      exact hsucc
    rw [Decoder.frameDequeue, if_pos hpos, hsplit]
    refine ⟨List.getElem?_eq_getElem hhead, ?_, rfl, rfl, rfl⟩
    exact {
      frameCells := h.frameCells
      frameHead := Nat.mod_lt _ (by decide)
      frameCount := Nat.le_trans (Nat.sub_le _ _) hcount
      displayCells := h.displayCells
      displayHead := h.displayHead
      displayEmpty := h.displayEmpty
      running := h.running
      announced := fun _ => h.announced hpos }
  · have hempty : frames ctx = [] := by
      rw [← List.length_eq_zero_iff, h.length_frames]
      omega
    rw [Decoder.frameDequeue, if_neg hpos, hempty]
    exact ⟨rfl, h, rfl, rfl, rfl⟩

/-- `nvenc_decode_frame` returns the oldest frame, if there is one. -/
lemma Idle.takeFrame (h : Idle ctx) :
    (takeFrame ctx).1 = (frames ctx).head?.map outputFrame ∧ Idle (takeFrame ctx).2 ∧
      frames (takeFrame ctx).2 = (frames ctx).tail ∧
      (takeFrame ctx).2.toPictureSource = ctx.toPictureSource ∧
      (takeFrame ctx).2.aIsFrameInUse = ctx.aIsFrameInUse := by
  unfold Decoder.takeFrame
  split
  · obtain ⟨hframe, hidle, hrest, hsource, huse⟩ := h.frameDequeue
    dsimp only
    rw [hframe]
    exact ⟨rfl, hidle, hrest, hsource, huse⟩
  · rename_i hnot
    have hempty : frames ctx = [] := by
      rw [← List.length_eq_zero_iff, h.length_frames]
      by_contra hne
      exact hnot (h.announced (Nat.pos_of_ne_zero hne))
    rw [hempty]
    exact ⟨rfl, h, rfl, rfl, rfl⟩

/-! ## Pictures -/

/-- The context after `pic_enqueue`. -/
def queued (ctx : NvencDecContext) (i : Fin nvdecMaxQueueSize) (info : CuvidParserDispInfo) :
    NvencDecContext :=
  { ctx with
    aDisplayQueue := ctx.aDisplayQueue.set ctx.nReadPosition info
    nFramesInQueue := 1
    aIsFrameInUse := Function.update ctx.aIsFrameInUse i true }

/-- The context after `pic_dequeue`. -/
def showing (ctx : NvencDecContext) (i : Fin nvdecMaxQueueSize) (info : CuvidParserDispInfo) :
    NvencDecContext :=
  { queued ctx i info with
    nReadPosition := (ctx.nReadPosition + 1) % nvdecMaxQueueSize
    nFramesInQueue := 0 }

/-- The context at the end of `HandlePictureDisplay`. -/
def released (ctx : NvencDecContext) (i : Fin nvdecMaxQueueSize) : NvencDecContext :=
  { ctx with
    aIsFrameInUse := Function.update ctx.aIsFrameInUse i false
    haveDecodedFrames := true }

section Display

variable {i : Fin nvdecMaxQueueSize} {info : CuvidParserDispInfo} {answers : DisplayAnswers}
  {ret : Int32} (hi : pictureSlot info.pictureIndex = .ok i)

lemma Idle.showing (h : Idle ctx) (i : Fin nvdecMaxQueueSize) (info : CuvidParserDispInfo) :
    Idle (showing ctx i info) :=
  { h with
    displayCells := by
      rw [Decoder.showing, queued, List.length_set]
      exact h.displayCells
    displayHead := Nat.mod_lt _ (by decide)
    displayEmpty := rfl }

lemma Idle.released (h : Idle ctx) (i : Fin nvdecMaxQueueSize) : Idle (released ctx i) :=
  { h with announced := fun _ => rfl }

include hi in
lemma Idle.picEnqueue (h : Idle ctx) :
    picEnqueue patience ctx info = .ok ctx' ↔ 0 < patience ∧ ctx' = queued ctx i info := by
  have hhead := h.displayHead
  have hplace : placePicture info
      { ctx with aIsFrameInUse := Function.update ctx.aIsFrameInUse i true }
      = some (queued ctx i info) := by
    have hwrite : (ctx.nReadPosition + 0) % nvdecMaxQueueSize = ctx.nReadPosition :=
      Nat.mod_eq_of_lt hhead
    rw [placePicture]
    dsimp only
    rw [h.displayEmpty, if_pos (by decide), hwrite]
    rfl
  have hloop : placeOrSleep (placePicture info) patience
      { ctx with aIsFrameInUse := Function.update ctx.aIsFrameInUse i true } = .ok ctx' ↔ _ :=
    placeOrSleep_eq_ok_iff h.running
  rw [hplace, Option.some.injEq, eq_comm (a := queued ctx i info)] at hloop
  rw [Decoder.picEnqueue, hi]
  exact hloop

/-- The display queue hands the picture through. -/
lemma Idle.picDequeue_queued (h : Idle ctx) :
    picDequeue (queued ctx i info) = (info, Decoder.showing ctx i info) := by
  have hcell : (queued ctx i info).aDisplayQueue[(queued ctx i info).nReadPosition]? = some info :=
    List.getElem?_set_self (by rw [h.displayCells]; exact h.displayHead)
  have hpos : 0 < (queued ctx i info).nFramesInQueue := Nat.one_pos
  rw [picDequeue, if_pos hpos]
  dsimp only
  rw [hcell]
  rfl

include hi in
lemma Idle.queueAndRelease (h : Idle ctx) {avMalloc : Bool} {f : DecodeFrame} :
    queueAndRelease patience ctx info avMalloc f = .ok ctx' ↔
      (avMalloc = false ∧ ctx' = Decoder.released ctx i) ∨
      (avMalloc = true ∧ 0 < patience ∧
        ∃ ctx₁, Decoder.placeFrame f ctx = some ctx₁ ∧ ctx' = Decoder.released ctx₁ i) := by
  have hrelease : ∀ ctx₁ : NvencDecContext, (do
      let ctx₂ ← picRelease ctx₁ info
      return { ctx₂ with haveDecodedFrames := true }) = .ok (Decoder.released ctx₁ i) := by
    intro ctx₁
    rw [picRelease, hi]
    rfl
  rw [Decoder.queueAndRelease, except_bind_eq_ok]
  simp only [hrelease, Except.ok.injEq]
  cases avMalloc with
  | false => simp [eq_comm]
  | true =>
    simp only [if_true, frameEnqueue, placeOrSleep_eq_ok_iff h.running, and_assoc,
      exists_and_left, eq_comm (b := ctx')]
    simp

include hi in
/-- All that `HandlePictureDisplay` can do between two callbacks. -/
lemma Idle.handlePictureDisplay (h : Idle ctx) :
    handlePictureDisplay patience ctx info answers = .ok (ret, ctx') ↔ 0 < patience ∧
      ((ctx.copyPicture info.pictureIndex answers = none ∧ ret = -1 ∧
          ctx' = Decoder.showing ctx i info) ∨
        ∃ pitch host, ctx.copyPicture info.pictureIndex answers = some (pitch, host) ∧ ret = 1 ∧
          Decoder.queueAndRelease patience ((Decoder.showing ctx i info).setHost host) info
            answers.avMalloc (ctx.decodedFrame pitch host info.timestamp) = .ok ctx') := by
  have hcopy : (Decoder.showing ctx i info).copyPicture info.pictureIndex answers
      = ctx.copyPicture info.pictureIndex answers := rfl
  have hframe : (Decoder.showing ctx i info).decodedFrame = ctx.decodedFrame := rfl
  rw [Decoder.handlePictureDisplay, except_bind_eq_ok]
  simp only [h.picEnqueue hi, and_assoc, exists_and_left, exists_eq_left, h.picDequeue_queued,
    hcopy, hframe]
  refine and_congr_right fun hpos => ?_
  cases hpicture : ctx.copyPicture info.pictureIndex answers with
  | none => simp [pure, Except.pure, eq_comm]
  | some picture =>
    obtain ⟨pitch, host⟩ := picture
    simp only [except_bind_eq_ok, pure, Except.pure, Except.ok.injEq, Prod.mk.injEq]
    constructor
    · rintro ⟨ctx₁, hqueue, rfl, rfl⟩
      exact Or.inr ⟨pitch, host, rfl, rfl, hqueue⟩
    · rintro (⟨hnone, -⟩ | ⟨pitch', host', heq, rfl, hqueue⟩)
      · cases hnone
      · obtain ⟨rfl, rfl⟩ := Prod.mk.inj (Option.some.inj heq)
        exact ⟨ctx', hqueue, rfl, rfl⟩

include hi in
/-- The frame of a picture that is shown comes last in the queue, if there is host memory for the
picture and memory for the frame; without host memory the picture stays in use. -/
lemma Idle.display (h : Idle ctx)
    (hdisplay : Decoder.handlePictureDisplay patience ctx info answers = .ok (ret, ctx')) :
    Idle ctx' ∧
      ((ctx.copyPicture info.pictureIndex answers = none ∧ frames ctx' = frames ctx ∧
          ctx'.toPictureSource = ctx.toPictureSource ∧
          ctx'.aIsFrameInUse = Function.update ctx.aIsFrameInUse i true) ∨
        ∃ pitch host, ctx.copyPicture info.pictureIndex answers = some (pitch, host) ∧
          ctx'.toPictureSource = { ctx.toPictureSource with pFrameYUV := some host } ∧
          ctx'.aIsFrameInUse = Function.update ctx.aIsFrameInUse i false ∧
          ((answers.avMalloc = false ∧ frames ctx' = frames ctx) ∨
            (answers.avMalloc = true ∧ (frames ctx).length < nvdecMaxQueueSize ∧
              frames ctx' = frames ctx ++ [ctx.decodedFrame pitch host info.timestamp]))) := by
  obtain ⟨-, ⟨hnone, -, rfl⟩ | ⟨pitch, host, hsome, -, hqueue⟩⟩ :=
    (h.handlePictureDisplay hi).mp hdisplay
  · exact ⟨h.showing i info, Or.inl ⟨hnone, rfl, rfl, rfl⟩⟩
  · have hset : Idle ((Decoder.showing ctx i info).setHost host) := { h.showing i info with }
    have huse : Function.update (Function.update ctx.aIsFrameInUse i true) i false
        = Function.update ctx.aIsFrameInUse i false := Function.update_idem _ _ _
    rcases (hset.queueAndRelease hi).mp hqueue with ⟨hmalloc, rfl⟩ | ⟨hmalloc, -, ctx₁, hplace, rfl⟩
    · exact ⟨hset.released i, Or.inr ⟨pitch, host, hsome, rfl, huse, Or.inl ⟨hmalloc, rfl⟩⟩⟩
    · rcases hset.placeFrame (ctx.decodedFrame pitch host info.timestamp) with
        ⟨-, hfull⟩ | ⟨ctx₂, hplace₂, hroom, hframes, hctx₂, hcells⟩
      · rw [hfull] at hplace
        cases hplace
      · rw [hplace] at hplace₂
        obtain rfl := Option.some.inj hplace₂
        have hidle : Idle (Decoder.released ctx₁ i) := by
          rw [hctx₂]
          exact {
            frameCells := hcells
            frameHead := hset.frameHead
            frameCount := by
              rw [hset.length_frames] at hroom
              exact hroom
            displayCells := hset.displayCells
            displayHead := hset.displayHead
            displayEmpty := hset.displayEmpty
            running := hset.running
            announced := fun _ => rfl }
        refine ⟨hidle, Or.inr ⟨pitch, host, hsome, ?_, ?_, Or.inr ⟨hmalloc, hroom, hframes⟩⟩⟩
        · rw [hctx₂]
          rfl
        · rw [hctx₂]
          exact huse

include hi in
/-- The callback returns unless it has a frame and no room for it. -/
lemma Idle.exists_display (h : Idle ctx) (hpos : 0 < patience)
    (hroom : (frames ctx).length < nvdecMaxQueueSize) :
    ∃ ret ctx', Decoder.handlePictureDisplay patience ctx info answers = .ok (ret, ctx') := by
  cases hpicture : ctx.copyPicture info.pictureIndex answers with
  | none =>
    exact ⟨-1, _, (h.handlePictureDisplay hi).mpr ⟨hpos, Or.inl ⟨hpicture, rfl, rfl⟩⟩⟩
  | some picture =>
    obtain ⟨pitch, host⟩ := picture
    have hset : Idle ((Decoder.showing ctx i info).setHost host) := { h.showing i info with }
    have hreturn : ∀ ctx', Decoder.queueAndRelease patience
        ((Decoder.showing ctx i info).setHost host) info answers.avMalloc
        (ctx.decodedFrame pitch host info.timestamp) = .ok ctx' →
        Decoder.handlePictureDisplay patience ctx info answers = .ok (1, ctx') := fun ctx' hqueue =>
      (h.handlePictureDisplay hi).mpr ⟨hpos, Or.inr ⟨pitch, host, hpicture, rfl, hqueue⟩⟩
    cases hmalloc : answers.avMalloc with
    | false =>
      exact ⟨1, _, hreturn _ ((hset.queueAndRelease hi).mpr (Or.inl ⟨hmalloc, rfl⟩))⟩
    | true =>
      rcases hset.placeFrame (ctx.decodedFrame pitch host info.timestamp) with
        ⟨hfull, -⟩ | ⟨ctx₁, hplace, -⟩
      · exact absurd hroom (not_lt.mpr hfull)
      · exact ⟨1, _, hreturn _ ((hset.queueAndRelease hi).mpr
          (Or.inr ⟨hmalloc, hpos, ctx₁, hplace, rfl⟩))⟩

end Display

end

end SelfTestCode.Decoder
