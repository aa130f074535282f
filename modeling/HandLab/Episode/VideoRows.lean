import HandLab.Episode.EpisodeWriters
import HandLab.Lib.Ensures

/-!
# Videos and rows

`append_sample` writes the workspace image, then the wrist image, then the row. What
fails after the first write leaves a video that is longer than the rows.

* `appendSample_refused`, `appendSample_eq`: what a call does.
* `step_keeps_iff`: a call keeps the videos and the rows in step exactly if it completes
  what it begins.
* `videos_in_step`: the same for every run of each writer.
* `wrist_of_another_size`: a wrist image of another size leaves the workspace image behind.
-/

namespace HandLab.Episode

open HandLab.Lib Double

variable {δ α ρ : Type}

/-! ## What the parts do -/

section Parts

variable {published : Published δ α} {outside : Outside} {camera : CameraRecord δ (NDArray α)}

/-- The frame that `_get_camera` returns. -/
def selected (published : Published δ α) (outside : Outside)
    (cache : List (CameraKey × CameraSample δ (NDArray α)))
    (camera : CameraRecord δ (NDArray α)) : Except WriterError (CameraSample δ (NDArray α)) :=
  match cache.lookup camera.key with
  | some sample => .ok sample
  | none => materializeCamera published outside camera

namespace WriterState

variable {w : WriterState δ α ρ}

/-- The writer without the cached frame of the record. -/
def forget (w : WriterState δ α ρ) (camera : CameraRecord δ (NDArray α)) :
    WriterState δ α ρ :=
  { w with cameraCache := dictPop camera.key w.cameraCache }

/-- The cached frame of the record is forgotten, whatever is selected. -/
theorem getCamera_eq (camera : CameraRecord δ (NDArray α)) :
    getCamera published outside camera w =
      match selected published outside w.cameraCache camera with
      | .ok sample => .ok sample (w.forget camera)
      | .error e => .error e (w.forget camera) := by
  simp only [getCamera, selected, bind_apply, get_apply, modify_apply]
  cases w.cameraCache.lookup camera.key with
  | some cached => rfl
  | none =>
    dsimp only
    cases materializeCamera published outside camera <;> rfl

theorem getCamera_ok {sample : CameraSample δ (NDArray α)}
    (h : selected published outside w.cameraCache camera = .ok sample) :
    getCamera published outside camera w = .ok sample (w.forget camera) := by
  rw [getCamera_eq, h]

theorem getCamera_error {e : WriterError}
    (h : selected published outside w.cameraCache camera = .error e) :
    getCamera published outside camera w = .error e (w.forget camera) := by
  rw [getCamera_eq, h]

/-- The image can be written to the video of the role. -/
structure CanWrite (w : WriterState δ α ρ) (outside : Outside) (role : CameraRole)
    (rgb : NDArray α) : Prop where
  size : ∃ size, videoSize rgb = some size ∧ ∀ shape ∈ w.videoShape, shape = size
  opens : (w.videos role).isSome = true ∨ outside.opens role = true

/-- An image of the size of the videos is written if its video can be opened. -/
theorem writeVideo_sized {role : CameraRole} {rgb : NDArray α} {size : ℕ × ℕ}
    (hsize : videoSize rgb = some size) (hshape : ∀ shape ∈ w.videoShape, shape = size) :
    writeVideo outside role rgb w =
      if (w.videos role).isNone && !outside.opens role then
        .error (.cannotOpen role) { w with videoShape := some size }
      else .ok () ({ w with videoShape := some size }.written role rgb) := by
  cases hw : w.videoShape with
  | none =>
    simp only [writeVideo, hsize, bind_apply, get_apply, hw, modify_apply]
    split <;> rfl
  | some shape =>
    obtain rfl := hshape shape hw
    simp only [writeVideo, hsize, bind_apply, get_apply, hw, ne_eq, not_true_eq_false, if_false]
    rw [← hw]
    split <;> rfl

theorem writeVideo_ok {role : CameraRole} {rgb : NDArray α} (h : w.CanWrite outside role rgb) :
    writeVideo outside role rgb w =
      .ok () ({ w with videoShape := videoSize rgb }.written role rgb) := by
  obtain ⟨⟨size, hsize, hshape⟩, hopens⟩ := h
  rw [writeVideo_sized hsize hshape, if_neg, hsize]
  rcases hopens with h | h
  · simp [Option.isSome_iff_ne_none.mp h]
  · simp [h]

theorem writeVideo_error {role : CameraRole} {rgb : NDArray α}
    (h : ¬w.CanWrite outside role rgb) :
    ∃ e shape, writeVideo outside role rgb w = .error e { w with videoShape := shape } := by
  cases hsize : videoSize rgb with
  | none => exact ⟨_, w.videoShape, by simp only [writeVideo, hsize]; rfl⟩
  | some size =>
    by_cases hshape : ∀ shape ∈ w.videoShape, shape = size
    · refine ⟨.cannotOpen role, some size, ?_⟩
      rw [writeVideo_sized hsize hshape, if_pos]
      by_contra hopen
      refine h ⟨⟨size, hsize, hshape⟩, ?_⟩
      cases hvideo : w.videos role with
      | none => simpa [hvideo] using hopen
      | some video => exact .inl rfl
    · push Not at hshape
      obtain ⟨shape, hw, hne⟩ := hshape
      have hsame : { w with videoShape := some shape } = w := by
        rw [← Option.mem_def.mp hw]
      refine ⟨.anotherSize, some shape, ?_⟩
      rw [hsame]
      simp only [writeVideo, hsize, bind_apply, get_apply, Option.mem_def.mp hw, hne, ne_eq,
        not_false_eq_true, if_true]
      rfl

end WriterState

end Parts

/-! ## What a call does -/

section Calls

variable [Double δ] {format : WriterFormat δ α ρ} {published : Published δ α}
  {outside : Outside} {sample : CanonicalSample δ (NDArray α)} {w : WriterState δ α ρ}
  {workspace wrist : CameraSample δ (NDArray α)}

/-- The call gets as far as the image of the workspace. -/
structure Reaches (format : WriterFormat δ α ρ) (published : Published δ α) (outside : Outside)
    (sample : CanonicalSample δ (NDArray α)) (w : WriterState δ α ρ)
    (workspace wrist : CameraSample δ (NDArray α)) : Prop where
  active : w.active = true
  checks : format.check w sample = .ok ()
  selectsWorkspace : selected published outside w.cameraCache sample.workspace = .ok workspace
  selectsWrist : selected published outside (w.forget sample.workspace).cameraCache sample.wrist =
    .ok wrist
  writes : w.CanWrite outside .workspace workspace.rgb

/-- The writer with the image of the workspace. -/
def WriterState.torn (w : WriterState δ α ρ) (sample : CanonicalSample δ (NDArray α))
    (workspace : CameraSample δ (NDArray α)) : WriterState δ α ρ :=
  { (w.forget sample.workspace).forget sample.wrist with
    videoShape := WriterState.videoSize workspace.rgb }.written .workspace workspace.rgb

/-- The writer with both images. -/
def WriterState.filmed (w : WriterState δ α ρ) (sample : CanonicalSample δ (NDArray α))
    (workspace wrist : CameraSample δ (NDArray α)) : WriterState δ α ρ :=
  { w.torn sample workspace with
    videoShape := WriterState.videoSize wrist.rgb }.written .wrist wrist.rgb

/-- The writer with both images and the row. -/
def WriterState.appended (w : WriterState δ α ρ) (sample : CanonicalSample δ (NDArray α))
    (workspace wrist : CameraSample δ (NDArray α)) (row : ρ) : WriterState δ α ρ :=
  { w.filmed sample workspace wrist with
    rows := w.rows ++ [row]
    sampleCount := w.sampleCount + 1
    lastTimestampNs := some sample.timestampNs }

/-- A call that does not reach the videos raises and writes nothing. -/
theorem appendSample_refused
    (h : ¬∃ workspace wrist, Reaches format published outside sample w workspace wrist) :
    ∃ e cache shape, (cache = w.cameraCache ∨ cache = (w.forget sample.workspace).cameraCache ∨
        cache = ((w.forget sample.workspace).forget sample.wrist).cameraCache) ∧
      format.appendSample published outside sample w =
        .error e { w with cameraCache := cache, videoShape := shape } := by
  unfold WriterFormat.appendSample
  simp only [bind_apply, get_apply]
  by_cases hactive : (!w.active) = true
  · rw [if_pos hactive]
    exact ⟨.noActiveEpisode, w.cameraCache, w.videoShape, .inl rfl, rfl⟩
  · rw [if_neg hactive]
    cases hchecks : format.check w sample with
    | error e => exact ⟨e, w.cameraCache, w.videoShape, .inl rfl, rfl⟩
    | ok u =>
      cases hworkspace : selected published outside w.cameraCache sample.workspace with
      | error e =>
        refine ⟨e, (w.forget sample.workspace).cameraCache, w.videoShape, .inr (.inl rfl), ?_⟩
        simp only [bind_apply, WriterState.getCamera_error hworkspace]
        rfl
      | ok workspace =>
        cases hwrist : selected published outside (w.forget sample.workspace).cameraCache
            sample.wrist with
        | error e =>
          refine ⟨e, _, w.videoShape, .inr (.inr rfl), ?_⟩
          simp only [bind_apply, WriterState.getCamera_ok hworkspace,
            WriterState.getCamera_error hwrist]
          rfl
        | ok wrist =>
          have hwrites : ¬((w.forget sample.workspace).forget sample.wrist).CanWrite outside
              .workspace workspace.rgb := by
            intro hwrites
            exact h ⟨workspace, wrist, by simpa using hactive, hchecks, hworkspace, hwrist,
              ⟨hwrites.size, hwrites.opens⟩⟩
          obtain ⟨e, shape, herror⟩ := WriterState.writeVideo_error hwrites
          refine ⟨e, _, shape, .inr (.inr rfl), ?_⟩
          simp only [bind_apply, WriterState.getCamera_ok hworkspace,
            WriterState.getCamera_ok hwrist, WriterFormat.writeSample, herror]
          rfl

/-- The wrist image can be written after that of the workspace. -/
structure Pairs (outside : Outside) (w : WriterState δ α ρ)
    (workspace wrist : CameraSample δ (NDArray α)) : Prop where
  size : WriterState.videoSize wrist.rgb = WriterState.videoSize workspace.rgb
  opens : (w.videos .wrist).isSome = true ∨ outside.opens .wrist = true

theorem canWrite_wrist_iff (sample : CanonicalSample δ (NDArray α))
    (h : w.CanWrite outside .workspace workspace.rgb) :
    (w.torn sample workspace).CanWrite outside .wrist wrist.rgb ↔
      Pairs outside w workspace wrist := by
  obtain ⟨size, hsize, -⟩ := h.size
  have hvideos : (w.torn sample workspace).videos .wrist = w.videos .wrist := rfl
  have hshape : (w.torn sample workspace).videoShape = some size := hsize
  constructor
  · intro hwrite
    obtain ⟨size', hsize', hall⟩ := hwrite.size
    obtain rfl := hall size hshape
    exact ⟨hsize'.trans hsize.symm, hvideos ▸ hwrite.opens⟩
  · intro hpairs
    refine ⟨⟨size, hpairs.size.trans hsize, ?_⟩, hvideos.symm ▸ hpairs.opens⟩
    intro shape hmem
    rw [hshape] at hmem
    exact (Option.some.inj hmem).symm

/-- A call that reaches the videos goes on with them. -/
theorem appendSample_eq (h : Reaches format published outside sample w workspace wrist) :
    format.appendSample published outside sample w =
      format.writeSample outside sample workspace wrist
        ((w.forget sample.workspace).forget sample.wrist) := by
  unfold WriterFormat.appendSample
  simp only [bind_apply, get_apply, h.active, Bool.not_true, Bool.false_eq_true, if_false,
    h.checks, WriterState.getCamera_ok h.selectsWorkspace,
    WriterState.getCamera_ok h.selectsWrist]

/-- Only the image of the workspace is written. -/
theorem appendSample_torn (h : Reaches format published outside sample w workspace wrist)
    (hpairs : ¬Pairs outside w workspace wrist) :
    ∃ e shape, format.appendSample published outside sample w =
      .error e { w.torn sample workspace with videoShape := shape } := by
  have hwrites : ((w.forget sample.workspace).forget sample.wrist).CanWrite outside .workspace
      workspace.rgb := ⟨h.writes.size, h.writes.opens⟩
  obtain ⟨e, shape, herror⟩ := WriterState.writeVideo_error
    (mt (canWrite_wrist_iff sample h.writes).mp hpairs)
  refine ⟨e, shape, ?_⟩
  rw [appendSample_eq h, WriterFormat.writeSample, bind_apply, WriterState.writeVideo_ok hwrites]
  show (WriterState.writeVideo outside .wrist wrist.rgb >>= _) (w.torn sample workspace) = _
  rw [bind_apply, herror]

/-- Both images are written, and then the row. -/
theorem appendSample_filmed (h : Reaches format published outside sample w workspace wrist)
    (hpairs : Pairs outside w workspace wrist) :
    format.appendSample published outside sample w =
      match format.row (format.count w.rows w.sampleCount) w.startNs sample workspace wrist with
      | .error e => .error e (w.filmed sample workspace wrist)
      | .ok row => .ok () (w.appended sample workspace wrist row) := by
  have hwrites : ((w.forget sample.workspace).forget sample.wrist).CanWrite outside .workspace
      workspace.rgb := ⟨h.writes.size, h.writes.opens⟩
  rw [appendSample_eq h, WriterFormat.writeSample, bind_apply, WriterState.writeVideo_ok hwrites]
  show (WriterState.writeVideo outside .wrist wrist.rgb >>= _) (w.torn sample workspace) = _
  rw [bind_apply, WriterState.writeVideo_ok ((canWrite_wrist_iff sample h.writes).mpr hpairs)]
  simp only [bind_apply, get_apply]
  have hfilmed : format.row (format.count (w.filmed sample workspace wrist).rows
      (w.filmed sample workspace wrist).sampleCount) (w.filmed sample workspace wrist).startNs
        sample workspace wrist =
      format.row (format.count w.rows w.sampleCount) w.startNs sample workspace wrist := rfl
  simp only [WriterState.filmed] at hfilmed
  simp only [hfilmed]
  cases format.row (format.count w.rows w.sampleCount) w.startNs sample workspace wrist with
  | error e => rfl
  | ok row => rfl

end Calls

/-! ## Runs -/

section Runs

variable [Double δ] (format : WriterFormat δ α ρ) (published : Published δ α)

inductive AppendCall (δ α : Type) [Double δ]
  | appendRawCamera (outside : Outside) (camera : CameraRecord δ (NDArray α))
  | appendSample (outside : Outside) (sample : CanonicalSample δ (NDArray α))

/-- A writer with the samples whose calls have returned. -/
structure Recorded (δ α ρ : Type) [Double δ] where
  writer : WriterState δ α ρ
  accepted : List (CanonicalSample δ (NDArray α)) := []

def AppendCall.program : AppendCall δ α → EStateM WriterError (WriterState δ α ρ) Unit
  | .appendRawCamera outside camera => WriterState.appendRawCamera published outside camera
  | .appendSample outside sample => format.appendSample published outside sample

/-- The samples that a call adds if it returns. -/
def AppendCall.samples : AppendCall δ α → List (CanonicalSample δ (NDArray α))
  | .appendRawCamera _ _ => []
  | .appendSample _ sample => [sample]

/-- One call. -/
def Recorded.step (s : Recorded δ α ρ) (call : AppendCall δ α) : Recorded δ α ρ :=
  match call.program format published s.writer with
  | .ok _ w => ⟨w, s.accepted ++ call.samples⟩
  | .error _ w => ⟨w, s.accepted⟩

section Step

variable {format published} {s : Recorded δ α ρ} {w : WriterState δ α ρ}

theorem step_of_ok (call : AppendCall δ α)
    (h : call.program format published s.writer = .ok () w) :
    s.step format published call = ⟨w, s.accepted ++ call.samples⟩ := by
  rw [Recorded.step, h]

theorem step_of_error (call : AppendCall δ α) {e : WriterError}
    (h : call.program format published s.writer = .error e w) :
    s.step format published call = ⟨w, s.accepted⟩ := by
  rw [Recorded.step, h]

end Step

/-- The camera record of a role. -/
def CanonicalSample.camera (sample : CanonicalSample δ (NDArray α)) :
    CameraRole → CameraRecord δ (NDArray α)
  | .workspace => sample.workspace
  | .wrist => sample.wrist

/-- The row was made of the sample and of the frames that it selects. -/
def RowOf (row : ρ) (sample : CanonicalSample δ (NDArray α)) : Prop :=
  ∃ count startNs workspace wrist, format.row count startNs sample workspace wrist = .ok row ∧
    workspace.rgb = sample.workspace.image published ∧ wrist.rgb = sample.wrist.image published

/-- The videos and the rows are in step. -/
structure InStep (s : Recorded δ α ρ) : Prop where
  rows : List.Forall₂ (RowOf format published) s.writer.rows s.accepted
  count : format.count s.writer.rows s.writer.sampleCount = s.accepted.length
  videoFrameCounts : ∀ role, s.writer.videoFrameCounts role = s.accepted.length
  frames : ∀ role, s.writer.frames role =
    s.accepted.map fun sample => (sample.camera role).image published

/-- After the call the videos and the rows are in step, and if it raised, they are
    unchanged. -/
structure Keeps (s : Recorded δ α ρ) (call : AppendCall δ α) : Prop where
  inStep : InStep format published (s.step format published call)
  raised : (raisedBy (call.program format published) s.writer).isSome = true →
    (s.step format published call).writer.rows = s.writer.rows ∧
      ∀ role, (s.step format published call).writer.frames role = s.writer.frames role

/-! ## The condition -/

/-- What the cache holds for a sample is its image. -/
def Unmixed (cache : List (CameraKey × CameraSample δ (NDArray α)))
    (camera : CameraRecord δ (NDArray α)) : Prop :=
  ∀ recorded cached, camera = .sample recorded → cache.lookup camera.key = some cached →
    cached.rgb = recorded.rgb

/-- A call that reaches the videos completes: the wrist image has the size of the workspace
    image, its video opens, the row can be written, and the cache has not mixed up two
    samples. -/
def Completes (s : Recorded δ α ρ) : AppendCall δ α → Prop
  | .appendRawCamera _ _ => True
  | .appendSample outside sample => ∀ workspace wrist,
      Reaches format published outside sample s.writer workspace wrist →
        Pairs outside s.writer workspace wrist ∧
        (∃ row, format.row (format.count s.writer.rows s.writer.sampleCount) s.writer.startNs
          sample workspace wrist = .ok row) ∧
        Unmixed s.writer.cameraCache sample.workspace ∧
        Unmixed (s.writer.forget sample.workspace).cameraCache sample.wrist

/-! ## The cache -/

/-- What the cache holds under a sequence number was published under it. -/
def CacheOk (w : WriterState δ α ρ) : Prop :=
  ∀ role sequence cached, (CameraKey.sequence role sequence, cached) ∈ w.cameraCache →
    cached.rgb = (published role sequence).rgb

variable {format published} {w : WriterState δ α ρ}

omit [Double δ] in
theorem CacheOk.subset (h : CacheOk published w) {w' : WriterState δ α ρ}
    (hsub : w'.cameraCache ⊆ w.cameraCache) : CacheOk published w' :=
  fun role sequence cached hmem => h role sequence cached (hsub hmem)

omit [Double δ] in
theorem dictPop_subset (key : CameraKey) (cache : List (CameraKey × CameraSample δ (NDArray α))) :
    dictPop key cache ⊆ cache := by
  intro item hmem
  exact (List.mem_filter.mp hmem).1

omit [Double δ] in
theorem mem_of_lookup {cache : List (CameraKey × CameraSample δ (NDArray α))} {key : CameraKey}
    {cached : CameraSample δ (NDArray α)} (h : cache.lookup key = some cached) :
    (key, cached) ∈ cache := by
  induction cache with
  | nil => exact nomatch h
  | cons item rest ih =>
    rw [List.lookup_cons] at h
    cases hkey : key == item.1 with
    | true =>
      rw [hkey] at h
      obtain rfl := eq_of_beq hkey
      obtain rfl := Option.some.inj h
      exact List.mem_cons_self
    | false =>
      rw [hkey] at h
      exact List.mem_cons_of_mem _ (ih h)

omit [Double δ] in
theorem materializeCamera_rgb {outside : Outside} {camera : CameraRecord δ (NDArray α)}
    {frame : CameraSample δ (NDArray α)}
    (h : materializeCamera published outside camera = .ok frame) :
    frame.rgb = camera.image published := by
  unfold materializeCamera at h
  cases camera with
  | sample recorded =>
    obtain rfl := Except.ok.inj h
    rfl
  | reference header sequence =>
    dsimp only at h
    split_ifs at h
    obtain rfl := Except.ok.inj h
    rfl

omit [Double δ] in
/-- **The selected image** is that of the record, unless the cache mixes up two samples. -/
theorem selected_rgb_iff (hcache : CacheOk published w) {outside : Outside}
    {camera : CameraRecord δ (NDArray α)} {frame : CameraSample δ (NDArray α)}
    (h : selected published outside w.cameraCache camera = .ok frame) :
    frame.rgb = camera.image published ↔ Unmixed w.cameraCache camera := by
  unfold selected at h
  cases hcached : w.cameraCache.lookup camera.key with
  | some cached =>
    rw [hcached] at h
    obtain rfl := Except.ok.inj h
    cases camera with
    | sample recorded =>
      constructor
      · intro heq recorded' cached' hrecorded hlookup
        obtain rfl := CameraRecord.sample.inj hrecorded
        obtain rfl := Option.some.inj (hlookup.symm.trans hcached)
        exact heq
      · intro hunmixed
        exact hunmixed recorded cached rfl hcached
    | reference header sequence =>
      have heq := hcache header.role sequence cached (mem_of_lookup hcached)
      simp [CameraRecord.image, heq, Unmixed]
  | none =>
    rw [hcached] at h
    have hunmixed : Unmixed w.cameraCache camera := by
      intro recorded cached _ hlookup
      rw [hcached] at hlookup
      exact nomatch hlookup
    simp only [hunmixed, iff_true]
    exact materializeCamera_rgb h

omit [Double δ] in
/-- What `append_raw_camera` does. -/
theorem appendRawCamera_cases (hcache : CacheOk published w) (outside : Outside)
    (camera : CameraRecord δ (NDArray α)) :
    (∃ e, WriterState.appendRawCamera published outside camera w = .error e w) ∨
      ∃ cache, WriterState.appendRawCamera published outside camera w =
        .ok () { w with cameraCache := cache } ∧
        CacheOk published { w with cameraCache := cache } := by
  unfold WriterState.appendRawCamera
  simp only [bind_apply, get_apply]
  by_cases hactive : (!w.active) = true
  · rw [if_pos hactive]
    exact .inl ⟨.noActiveEpisode, rfl⟩
  · rw [if_neg hactive]
    cases hframe : materializeCamera published outside camera with
    | error e => exact .inl ⟨e, rfl⟩
    | ok frame =>
      refine .inr ⟨_, rfl, ?_⟩
      intro role sequence cached hmem
      rcases List.mem_append.mp (List.mem_of_mem_drop hmem) with hold | hnew
      · exact hcache role sequence cached (dictPop_subset _ _ hold)
      · obtain ⟨hkey, rfl⟩ := Prod.mk.inj (List.mem_singleton.mp hnew)
        have himage := materializeCamera_rgb hframe
        cases camera with
        | sample recorded => exact nomatch hkey
        | reference header number =>
          obtain ⟨rfl, rfl⟩ := CameraKey.sequence.inj hkey
          exact himage

end Runs

/-! ## One call -/

section Step

variable [Double δ] {format : WriterFormat δ α ρ} {published : Published δ α}

/-- The image of a role. -/
def shot (workspace wrist : CameraSample δ (NDArray α)) : CameraRole → NDArray α
  | .workspace => workspace.rgb
  | .wrist => wrist.rgb

section Appended

variable (w : WriterState δ α ρ) (sample : CanonicalSample δ (NDArray α))
  (workspace wrist : CameraSample δ (NDArray α)) (row : ρ) (role : CameraRole)

theorem frames_filmed : (w.filmed sample workspace wrist).frames role =
    w.frames role ++ [shot workspace wrist role] := by
  cases role with
  | workspace => rfl
  | wrist => rfl

theorem frames_torn : (w.torn sample workspace).frames .workspace =
    w.frames .workspace ++ [workspace.rgb] := rfl

theorem videoFrameCounts_filmed : (w.filmed sample workspace wrist).videoFrameCounts role =
    w.videoFrameCounts role + 1 := by
  cases role with
  | workspace => rfl
  | wrist => rfl

end Appended

variable {s : Recorded δ α ρ} {outside : Outside} {sample : CanonicalSample δ (NDArray α)}
  {workspace wrist : CameraSample δ (NDArray α)}

/-- A call that raises and leaves rows and videos alone keeps them in step. -/
theorem keeps_of_error {call : AppendCall δ α} {e : WriterError} {w : WriterState δ α ρ}
    (hs : InStep format published s) (h : call.program format published s.writer = .error e w)
    (hrows : w.rows = s.writer.rows) (hcount : w.sampleCount = s.writer.sampleCount)
    (hcounts : w.videoFrameCounts = s.writer.videoFrameCounts)
    (hvideos : w.videos = s.writer.videos) : Keeps format published s call := by
  have hstep := step_of_error _ h
  have hframes : ∀ role, w.frames role = s.writer.frames role := by
    intro role
    rw [WriterState.frames, hvideos, WriterState.frames]
  refine ⟨?_, ?_⟩
  · rw [hstep]
    refine ⟨hrows ▸ hs.rows, ?_, ?_, ?_⟩
    · rw [hrows, hcount]
      exact hs.count
    · rw [hcounts]
      exact hs.videoFrameCounts
    · intro role
      exact (hframes role).trans (hs.frames role)
  · rw [hstep]
    exact fun _ => ⟨hrows, hframes⟩

/-- A call that raises after the workspace image does not keep the videos. -/
theorem not_keeps_of_written {call : AppendCall δ α} {e : WriterError}
    {w : WriterState δ α ρ} {rgb : NDArray α}
    (h : call.program format published s.writer = .error e w)
    (hframes : w.frames .workspace = s.writer.frames .workspace ++ [rgb]) :
    ¬Keeps format published s call := by
  intro hkeeps
  have hraised : (raisedBy (call.program format published) s.writer).isSome = true := by
    rw [raisedBy, h]
    rfl
  have hsame := (hkeeps.raised hraised).2 .workspace
  rw [step_of_error _ h] at hsame
  have hlength := congrArg List.length (hframes.symm.trans hsame)
  simp at hlength

/-- A call that returns keeps the videos in step exactly if it wrote the selected images. -/
theorem keeps_iff_of_appended (hs : InStep format published s) {row : ρ}
    (hrow : format.row (format.count s.writer.rows s.writer.sampleCount) s.writer.startNs sample
      workspace wrist = .ok row)
    (h : format.appendSample published outside sample s.writer =
      .ok () (s.writer.appended sample workspace wrist row)) :
    Keeps format published s (.appendSample outside sample) ↔
      workspace.rgb = sample.workspace.image published ∧
        wrist.rgb = sample.wrist.image published := by
  have hstep : s.step format published (.appendSample outside sample) =
      ⟨s.writer.appended sample workspace wrist row, s.accepted ++ [sample]⟩ := step_of_ok _ h
  have hframes : ∀ role, (s.writer.appended sample workspace wrist row).frames role =
      s.writer.frames role ++ [shot workspace wrist role] :=
    frames_filmed s.writer sample workspace wrist
  constructor
  · intro hkeeps
    have himages := hkeeps.inStep.frames
    rw [hstep] at himages
    have hrole : ∀ role, shot workspace wrist role = (sample.camera role).image published := by
      intro role
      have heq := himages role
      rw [hframes, hs.frames, List.map_append] at heq
      simpa using List.append_cancel_left heq
    exact ⟨hrole .workspace, hrole .wrist⟩
  · rintro ⟨hworkspace, hwrist⟩
    refine ⟨?_, ?_⟩
    · rw [hstep]
      refine ⟨?_, ?_, ?_, ?_⟩
      · exact List.rel_append hs.rows (.cons ⟨_, _, workspace, wrist, hrow, hworkspace, hwrist⟩ .nil)
      · show format.count (s.writer.rows ++ [row]) (s.writer.sampleCount + 1) = _
        rw [format.count_append, hs.count, List.length_append]
        rfl
      · intro role
        show (s.writer.filmed sample workspace wrist).videoFrameCounts role = _
        rw [videoFrameCounts_filmed, hs.videoFrameCounts, List.length_append]
        rfl
      · intro role
        rw [hframes, hs.frames, List.map_append]
        cases role with
        | workspace => simp [shot, hworkspace, CanonicalSample.camera]
        | wrist => simp [shot, hwrist, CanonicalSample.camera]
    · intro hraised
      have hreturned : raisedBy ((AppendCall.appendSample outside sample).program format published)
          s.writer = none := by
        rw [raisedBy, show (AppendCall.appendSample outside sample).program format published
          s.writer = .ok () _ from h]
      rw [hreturned] at hraised
      exact nomatch hraised

theorem Reaches.unique {w : WriterState δ α ρ} {workspace' wrist' : CameraSample δ (NDArray α)}
    (h : Reaches format published outside sample w workspace wrist)
    (h' : Reaches format published outside sample w workspace' wrist') :
    workspace' = workspace ∧ wrist' = wrist :=
  ⟨Except.ok.inj (h'.selectsWorkspace.symm.trans h.selectsWorkspace),
    Except.ok.inj (h'.selectsWrist.symm.trans h.selectsWrist)⟩

/-- **One call** keeps the videos and the rows in step exactly if it completes what it
    begins. -/
theorem step_keeps_iff (hcache : CacheOk published s.writer) (hs : InStep format published s)
    (call : AppendCall δ α) :
    Keeps format published s call ↔ Completes format published s call := by
  cases call with
  | appendRawCamera outside camera =>
    refine iff_of_true ?_ trivial
    rcases appendRawCamera_cases hcache outside camera with ⟨e, h⟩ | ⟨cache, h, -⟩
    · exact keeps_of_error hs h rfl rfl rfl rfl
    · have hstep : s.step format published (.appendRawCamera outside camera) =
          ⟨{ s.writer with cameraCache := cache }, s.accepted⟩ := by
        rw [step_of_ok (.appendRawCamera outside camera) h, AppendCall.samples,
          List.append_nil]
      refine ⟨?_, ?_⟩
      · rw [hstep]
        exact ⟨hs.rows, hs.count, hs.videoFrameCounts, hs.frames⟩
      · rw [hstep]
        exact fun _ => ⟨rfl, fun _ => rfl⟩
  | appendSample outside sample =>
    by_cases hreach : ∃ workspace wrist,
        Reaches format published outside sample s.writer workspace wrist
    · obtain ⟨workspace, wrist, hreach⟩ := hreach
      have hcompletes : Completes format published s (.appendSample outside sample) ↔
          Pairs outside s.writer workspace wrist ∧
          (∃ row, format.row (format.count s.writer.rows s.writer.sampleCount) s.writer.startNs
            sample workspace wrist = .ok row) ∧
          Unmixed s.writer.cameraCache sample.workspace ∧
          Unmixed (s.writer.forget sample.workspace).cameraCache sample.wrist := by
        constructor
        · intro hall
          exact hall workspace wrist hreach
        · intro hone workspace' wrist' hreach'
          obtain ⟨rfl, rfl⟩ := hreach.unique hreach'
          exact hone
      rw [hcompletes]
      by_cases hpairs : Pairs outside s.writer workspace wrist
      · have happend := appendSample_filmed hreach hpairs
        cases hrow : format.row (format.count s.writer.rows s.writer.sampleCount)
            s.writer.startNs sample workspace wrist with
        | error e =>
          rw [hrow] at happend
          refine iff_of_false (not_keeps_of_written happend
            (frames_filmed s.writer sample workspace wrist .workspace)) ?_
          rintro ⟨-, ⟨row, hok⟩, -⟩
          exact nomatch hok
        | ok row =>
          rw [hrow] at happend
          have hforget : CacheOk published (s.writer.forget sample.workspace) :=
            hcache.subset (dictPop_subset _ _)
          rw [keeps_iff_of_appended hs hrow happend,
            selected_rgb_iff hcache hreach.selectsWorkspace,
            selected_rgb_iff hforget hreach.selectsWrist]
          simp [hpairs]
      · obtain ⟨e, shape, happend⟩ := appendSample_torn hreach hpairs
        refine iff_of_false (not_keeps_of_written happend
          (frames_torn s.writer sample workspace)) ?_
        exact fun h => hpairs h.1
    · refine iff_of_true ?_ fun workspace wrist h => absurd ⟨workspace, wrist, h⟩ hreach
      obtain ⟨e, cache, shape, -, happend⟩ := appendSample_refused hreach
      exact keeps_of_error hs happend rfl rfl rfl rfl

/-- The cache stays in order. -/
theorem step_cacheOk (hcache : CacheOk published s.writer) (call : AppendCall δ α) :
    CacheOk published (s.step format published call).writer := by
  cases call with
  | appendRawCamera outside camera =>
    rcases appendRawCamera_cases hcache outside camera with ⟨e, h⟩ | ⟨cache, h, hok⟩
    · rw [step_of_error (.appendRawCamera outside camera) h]
      exact hcache
    · rw [step_of_ok (.appendRawCamera outside camera) h]
      exact hok
  | appendSample outside sample =>
    have hfirst : (s.writer.forget sample.workspace).cameraCache ⊆ s.writer.cameraCache :=
      dictPop_subset _ _
    have hboth : ((s.writer.forget sample.workspace).forget sample.wrist).cameraCache ⊆
        s.writer.cameraCache := fun item hmem => hfirst (dictPop_subset _ _ hmem)
    by_cases hreach : ∃ workspace wrist,
        Reaches format published outside sample s.writer workspace wrist
    · obtain ⟨workspace, wrist, hreach⟩ := hreach
      by_cases hpairs : Pairs outside s.writer workspace wrist
      · have happend := appendSample_filmed hreach hpairs
        cases hrow : format.row (format.count s.writer.rows s.writer.sampleCount)
            s.writer.startNs sample workspace wrist with
        | error e =>
          rw [hrow] at happend
          rw [step_of_error (.appendSample outside sample) happend]
          exact hcache.subset hboth
        | ok row =>
          rw [hrow] at happend
          rw [step_of_ok (.appendSample outside sample) happend]
          exact hcache.subset hboth
      · obtain ⟨e, shape, happend⟩ := appendSample_torn hreach hpairs
        rw [step_of_error (.appendSample outside sample) happend]
        exact hcache.subset hboth
    · obtain ⟨e, cache, shape, hcaches, happend⟩ := appendSample_refused hreach
      rw [step_of_error (.appendSample outside sample) happend]
      rcases hcaches with rfl | rfl | rfl
      · exact hcache
      · exact hcache.subset hfirst
      · exact hcache.subset hboth

/-- A writer after `begin`. -/
def Recorded.started (startNs : ℤ) : Recorded δ α ρ where
  writer := { startNs }

/-- **Every run.** -/
theorem run_keeps_iff (format : WriterFormat δ α ρ) (hempty : format.count [] 0 = 0)
    (published : Published δ α) (startNs : ℤ) (calls : List (AppendCall δ α)) :
    Meets (Recorded.step format published) (Keeps format published) (.started startNs) calls ↔
      Meets (Recorded.step format published) (Completes format published) (.started startNs)
        calls := by
  refine meets_iff_of_invariant
    (P := fun s => CacheOk published s.writer ∧ InStep format published s) ?_ ?_ ?_ calls
  · rintro s call ⟨hcache, hs⟩
    exact step_keeps_iff hcache hs call
  · rintro s call ⟨hcache, -⟩ hkeeps
    exact ⟨step_cacheOk hcache call, hkeeps.inStep⟩
  · exact ⟨fun role sequence cached h => absurd h List.not_mem_nil, .nil, hempty, fun _ => rfl,
      fun _ => rfl⟩

end Step

/-! ## The writers -/

section Writers

variable [Double δ]

/-- **Videos and rows.** For each writer, every call of a run keeps the videos and the rows in
    step if and only if every call that reaches the videos completes. -/
theorem videos_in_step (published : Published δ α) (startNs : ℤ)
    (calls : List (AppendCall δ α)) :
    (Meets (Recorded.step stagingFormat published) (Keeps stagingFormat published)
        (.started startNs) calls ↔
      Meets (Recorded.step stagingFormat published) (Completes stagingFormat published)
        (.started startNs) calls) ∧
    (Meets (Recorded.step rawFormat published) (Keeps rawFormat published)
        (.started startNs) calls ↔
      Meets (Recorded.step rawFormat published) (Completes rawFormat published)
        (.started startNs) calls) :=
  ⟨run_keeps_iff stagingFormat rfl published startNs calls,
    run_keeps_iff rawFormat rfl published startNs calls⟩

end Writers

/-! ## A wrist image of another size -/

section AnotherSize

/-- A frame of so many columns. -/
def columns (role : CameraRole) (width : ℕ) : CameraRecord ℚ (NDArray ℕ) :=
  .sample {
    header := ⟨role, 5, 0, 0, 1, 1, "global_time", "global_time"⟩
    rgb := ⟨[1, width, 3], List.replicate (width * 3) 0⟩
    depthRaw := ⟨[1, width], List.replicate width 0⟩ }

theorem zeros_finite (_ : Fin 6) : isFinite (0 : ℚ) = true := rfl

def sixZeros : FiniteVector 6 ℚ := ⟨fun _ => 0, zeros_finite⟩

/-- A sample with frames of one and of two columns. -/
def unequalSample : CanonicalSample ℚ (NDArray ℕ) where
  frameIndex := 0
  timestampNs := 10
  control := {
    hostMonotonicNs := 5
    acceptedArmQ := some sixZeros
    armQMeasured := some sixZeros
    armDqMeasured := none
    tcpPoseXyzw := none
    handObservation := some sixZeros
    handSource := .measured
    handTarget := some sixZeros
    armTrigger := true
    handGrip := false }
  workspace := columns .workspace 1
  wrist := columns .wrist 2
  sourceOffsetsNs := []
  synchronizationValid := true

/-- The call with the sample. -/
def unequalCall : AppendCall ℚ ℕ :=
  .appendSample ⟨fun _ _ => true, fun _ => true⟩ unequalSample

/-- No frame is published. -/
def nothingPublished : Published ℚ ℕ := fun role _ =>
  { header := ⟨role, 0, 0, 0, 0, 0, "", ""⟩, rgb := ⟨[], []⟩, depthRaw := ⟨[], []⟩ }

/-- **A wrist image of another size** raises in both writers, and leaves an image without
    a row in the workspace video. -/
theorem wrist_of_another_size :
    ¬Meets (Recorded.step stagingFormat nothingPublished) (Keeps stagingFormat nothingPublished)
        (.started 1) [unequalCall] ∧
      ¬Meets (Recorded.step rawFormat nothingPublished) (Keeps rawFormat nothingPublished)
        (.started 1) [unequalCall] := by
  have hstaging : ((Recorded.started 1).step stagingFormat nothingPublished
      unequalCall).writer.videoFrameCounts .workspace = 1 := by decide +kernel
  have hraw : ((Recorded.started 1).step rawFormat nothingPublished
      unequalCall).writer.videoFrameCounts .workspace = 1 := by decide +kernel
  have hstagingRows : ((Recorded.started 1).step stagingFormat nothingPublished
      unequalCall).accepted.length = 0 := by decide +kernel
  have hrawRows : ((Recorded.started 1).step rawFormat nothingPublished
      unequalCall).accepted.length = 0 := by decide +kernel
  constructor
  · rintro ⟨hkeeps, -⟩
    have hcount := hkeeps.inStep.videoFrameCounts .workspace
    rw [hstaging, hstagingRows] at hcount
    exact absurd hcount (by decide)
  · rintro ⟨hkeeps, -⟩
    have hcount := hkeeps.inStep.videoFrameCounts .workspace
    rw [hraw, hrawRows] at hcount
    exact absurd hcount (by decide)

end AnotherSize

end HandLab.Episode
