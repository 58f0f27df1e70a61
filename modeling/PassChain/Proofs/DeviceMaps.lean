import PassChain.Proofs.Observing

/-! Devices that do the same under a map of their states, and the chains on them. -/
namespace PassChain

namespace Attempt

variable {σ τ δ δ' ε α β : Type} {f : σ → τ}

/-- Through `f`, the second call does what the first one does. -/
def Mirrors (f : σ → τ) (x : Attempt σ α) (y : Attempt τ α) : Prop :=
  ∀ s, x.Ends s (fun a t => y (f s) = .ok a (f t)) (fun e t => y (f s) = .error e (f t))

variable {x x' : Attempt σ α} {y y' : Attempt τ α}

theorem Mirrors.refl (x : Attempt σ α) : Mirrors id x x := fun s => ends_self x s

theorem mirrors_pure (a : α) : Mirrors f (pure a) (pure a) := fun _ => rfl

theorem mirrors_throw (e : Error) : Mirrors f (throw e : Attempt σ α) (throw e) := fun _ => rfl

theorem mirrors_modify {g : σ → σ} {g' : τ → τ} (h : ∀ s, g' (f s) = f (g s)) :
    Mirrors f (modify g) (modify g') :=
  fun s => congrArg (EStateM.Result.ok PUnit.unit) (h s)

theorem mirrors_ofExcept (wrap : ε → Error) (r : Except ε α) :
    Mirrors f (ofExcept wrap r) (ofExcept wrap r) := by
  cases r <;> exact fun _ => rfl

theorem Mirrors.bind {next : α → Attempt σ β} {next' : α → Attempt τ β} (h : Mirrors f x y)
    (hnext : ∀ a, Mirrors f (next a) (next' a)) : Mirrors f (x >>= next) (y >>= next') := by
  intro s
  refine ends_bind.mpr ((h s).mono ?_ ?_)
  · intro a t hy
    have hbind : (y >>= next') (f s) = next' a (f t) := by
      simp only [Bind.bind, EStateM.bind, hy]
    rw [hbind]
    exact hnext a t
  · intro e t hy
    simp only [Bind.bind, EStateM.bind, hy]

/-- What is done with the state is done with what is seen of it. -/
theorem mirrors_get_bind {next : σ → Attempt σ β} {next' : τ → Attempt τ β}
    (h : ∀ s, Mirrors f (next s) (next' (f s))) : Mirrors f (get >>= next) (get >>= next') :=
  fun s => h s s

theorem Mirrors.tryCatch {handler : Error → Attempt σ α} {handler' : Error → Attempt τ α}
    (h : Mirrors f x y) (hhandler : ∀ e, Mirrors f (handler e) (handler' e)) :
    Mirrors f (MonadExcept.tryCatch x handler) (MonadExcept.tryCatch y handler') := by
  intro s
  refine ends_tryCatch.mpr ((h s).mono ?_ ?_)
  · intro a t hy
    exact tryCatch_of_ok hy handler'
  · intro e t hy
    rw [tryCatch_of_error hy handler']
    exact hhandler e t

theorem mirrors_ite {c : Prop} [Decidable c] (h : Mirrors f x y) (h' : Mirrors f x' y') :
    Mirrors f (if c then x else x') (if c then y else y') := by
  split
  · exact h
  · exact h'

theorem Mirrors.on {g : δ → δ'} {part : σ → δ} {part' : τ → δ'} {replace : δ → σ → σ}
    {replace' : δ' → τ → τ} {call : Attempt δ α} {call' : Attempt δ' α}
    (h : Mirrors g call call') (hpart : ∀ s, part' (f s) = g (part s))
    (hreplace : ∀ d s, replace' (g d) (f s) = f (replace d s)) :
    Mirrors f (call.on part replace) (call'.on part' replace') := by
  intro s
  refine ends_on.mpr ((h (part s)).mono ?_ ?_)
  · intro a d hcall
    simp only [Attempt.on, hpart, hcall, hreplace]
  · intro e d hcall
    simp only [Attempt.on, hpart, hcall, hreplace]

end Attempt

open Attempt

/-- A map between devices under which all calls do the same. -/
structure DeviceMap (δ δ' : Type) [GpuDevice δ] [GpuDevice δ'] where
  map : δ → δ'
  createTexture : ∀ desc, Mirrors map (GpuDevice.createTexture desc) (GpuDevice.createTexture desc)
  releaseTexture : ∀ id d, GpuDevice.releaseTexture id (map d) = map (GpuDevice.releaseTexture id d)
  writeTexture : ∀ id size data,
    Mirrors map (GpuDevice.writeTexture id size data) (GpuDevice.writeTexture id size data)
  clearTexture : ∀ id, Mirrors map (GpuDevice.clearTexture id) (GpuDevice.clearTexture id)
  createBuffer : ∀ label kind size,
    Mirrors map (GpuDevice.createBuffer label kind size) (GpuDevice.createBuffer label kind size)
  writeBuffer : ∀ id data,
    Mirrors map (GpuDevice.writeBuffer id data) (GpuDevice.writeBuffer id data)
  createProgram : ∀ label text program, Mirrors map
    (GpuDevice.createProgram label text program) (GpuDevice.createProgram label text program)
  beginFrame : Mirrors map GpuDevice.beginFrame GpuDevice.beginFrame
  draw : ∀ call, Mirrors map (GpuDevice.draw call) (GpuDevice.draw call)
  endFrame : Mirrors map GpuDevice.endFrame GpuDevice.endFrame
  abortFrame : ∀ d, GpuDevice.abortFrame (map d) = map (GpuDevice.abortFrame d)
  bindResting : ∀ id d, GpuDevice.bindResting id (map d) = map (GpuDevice.bindResting id d)
  maxDimension : ∀ d, GpuDevice.maxDimension (map d) = GpuDevice.maxDimension d

namespace Observed

variable {ν δ : Type} [Observer ν]

omit [Observer ν] in
theorem onInner_mirrors {α : Type} (call : Attempt δ α) :
    Mirrors (fun w : Observed ν δ => w.inner) (onInner call) call :=
  fun w => ends_onInner.mpr (ends_self call w.inner)

theorem watch_mirrors [Unobtrusive ν] {α : Type} (before : DeviceEvent) (call : Attempt δ α)
    (after : α → DeviceEvent) :
    Mirrors (fun w : Observed ν δ => w.inner) (watch before call after) call :=
  fun w => ends_watch.mpr (ends_self call w.inner)

/-- A device does under the eyes of an observer what it does without one. -/
def unobserved [Unobtrusive ν] [GpuDevice δ] : DeviceMap (Observed ν δ) δ where
  map := Observed.inner
  createTexture _ := watch_mirrors _ _ _
  releaseTexture _ _ := rfl
  writeTexture _ _ _ := watch_mirrors _ _ _
  clearTexture _ := watch_mirrors _ _ _
  createBuffer _ _ _ := onInner_mirrors _
  writeBuffer _ _ := onInner_mirrors _
  createProgram _ _ _ := onInner_mirrors _
  beginFrame := watch_mirrors _ _ _
  draw _ := watch_mirrors _ _ _
  endFrame := onInner_mirrors _
  abortFrame _ := rfl
  bindResting _ _ := rfl
  maxDimension _ := rfl

end Observed

section

variable {δ δ' : Type} [GpuDevice δ] [GpuDevice δ'] (m : DeviceMap δ δ')

namespace TexturePool

theorem createHistory_mirrors (size : Size) (n : Nat) :
    Mirrors m.map (createHistory size n) (createHistory size n) := by
  induction n with
  | zero => exact mirrors_pure _
  | succ n ih => exact ih.bind fun _ => (m.createTexture _).bind fun _ => mirrors_pure _

theorem create_mirrors (targetCount : Nat) (maxInput : Size) (pow2 : Bool) :
    Mirrors m.map (create targetCount maxInput pow2) (create targetCount maxInput pow2) := by
  refine mirrors_get_bind fun d => ?_
  rw [m.maxDimension]
  refine mirrors_ite (fun _ => rfl) ?_
  exact (createHistory_mirrors m _ _).bind fun _ => (m.createTexture _).bind fun _ =>
    (m.writeTexture _ _ _).bind fun _ => mirrors_pure _

theorem ensureTarget_mirrors (pool : TexturePool) (pass : Nat) (logical : Size)
    (format : TexelFormat) :
    Mirrors m.map (pool.ensureTarget pass logical format)
      (pool.ensureTarget pass logical format) := by
  unfold ensureTarget
  split
  · exact mirrors_throw _
  · rename_i held _
    split
    · exact mirrors_pure _
    · split
      · exact mirrors_throw _
      · refine mirrors_get_bind fun d => ?_
        rw [m.maxDimension]
        refine mirrors_ite (fun _ => rfl) ((m.createTexture _).bind fun _ => ?_)
        cases held with
        | none => exact mirrors_pure _
        | some old =>
          exact (mirrors_modify (m.releaseTexture old.texture)).bind fun _ => mirrors_pure _

theorem writeFrame_mirrors (pool : TexturePool) (frame : Frame) :
    Mirrors m.map (pool.writeFrame frame) (pool.writeFrame frame) := by
  unfold writeFrame
  refine mirrors_ite (fun _ => rfl) ((mirrors_ofExcept _ _).bind fun rows => ?_)
  refine mirrors_ite ((m.clearTexture _).bind fun _ => ?_) ?_ <;>
    exact (m.writeTexture _ _ _).bind fun _ => mirrors_pure _

theorem insertLookup_mirrors (pool : TexturePool) (description : LookupImage) (image : Image) :
    Mirrors m.map (pool.insertLookup description image) (pool.insertLookup description image) := by
  unfold insertLookup
  refine mirrors_ite (fun _ => rfl) (mirrors_get_bind fun d => ?_)
  rw [m.maxDimension]
  refine mirrors_ite (fun _ => rfl) ((m.createTexture _).bind fun id => ?_)
  refine Mirrors.bind ((m.writeTexture _ _ _).tryCatch fun e => ?_) fun _ => mirrors_pure _
  exact (mirrors_modify (m.releaseTexture id)).bind fun _ => mirrors_throw e

theorem loadLookup_mirrors (pool : TexturePool) (files : FileSystem) (description : LookupImage) :
    Mirrors m.map (pool.loadLookup files description) (pool.loadLookup files description) := by
  unfold loadLookup
  split
  · exact mirrors_throw _
  · exact insertLookup_mirrors m pool description _

end TexturePool

namespace Assembly

/-- The assembly with another device in place of its own. -/
def through (f : δ → δ') (a : Assembly δ) : Assembly δ' :=
  ⟨f a.device, a.programs, a.buffers, a.pool⟩

variable {m} in
theorem onDevice_mirrors {α : Type} {call : Attempt δ α} {call' : Attempt δ' α}
    (h : Mirrors m.map call call') : Mirrors (through m.map) (onDevice call) (onDevice call') :=
  h.on (fun _ => rfl) (fun _ _ => rfl)

theorem link_mirrors (label text : String) :
    Mirrors (through m.map) (link label text) (link label text) :=
  (mirrors_ofExcept _ _).bind fun _ => (onDevice_mirrors (m.createProgram _ _ _)).bind fun _ =>
    .bind (mirrors_modify fun _ => rfl) fun _ => mirrors_pure _

theorem linkPass_mirrors (files : FileSystem) (smooth : Bool) (pass : Pass) (last : Bool) :
    Mirrors (through m.map) (linkPass files smooth pass last) (linkPass files smooth pass last) :=
  (mirrors_ofExcept _ _).bind fun _ => (link_mirrors m _ _).bind fun _ =>
    (mirrors_ofExcept _ _).bind fun _ => mirrors_pure _

theorem linkPasses_mirrors (files : FileSystem) (smooth : Bool) (passes : List Pass) :
    Mirrors (through m.map) (linkPasses files smooth passes) (linkPasses files smooth passes) := by
  induction passes with
  | nil => exact mirrors_pure _
  | cons pass rest ih =>
    exact (linkPass_mirrors m files smooth pass _).bind fun _ => ih.bind fun _ => mirrors_pure _

theorem loadLookups_mirrors (files : FileSystem) (images : List LookupImage) (pool : TexturePool) :
    Mirrors (through m.map) (loadLookups files images pool) (loadLookups files images pool) := by
  induction images generalizing pool with
  | nil => exact mirrors_pure _
  | cons image rest ih =>
    exact (onDevice_mirrors (TexturePool.loadLookup_mirrors m pool files image)).bind fun pool' =>
      .bind (mirrors_modify fun _ => rfl) fun _ => ih pool'

theorem createBuffer_mirrors (label : String) (kind : BufferKind) (size : Nat) :
    Mirrors (through m.map) (createBuffer label kind size) (createBuffer label kind size) :=
  (onDevice_mirrors (m.createBuffer _ _ _)).bind fun _ =>
    .bind (mirrors_modify fun _ => rfl) fun _ => mirrors_pure _

theorem compilePasses_mirrors (context : BindContext) (align : Bool) (index : Nat)
    (linked : List LinkedPass) :
    Mirrors (through m.map) (compilePasses context align index linked)
      (compilePasses context align index linked) := by
  induction linked generalizing index with
  | nil => exact mirrors_pure _
  | cons l rest ih =>
    refine Mirrors.bind ?_ fun _ => (ih (index + 1)).bind fun _ => mirrors_pure _
    exact (createBuffer_mirrors m _ _ _).bind fun _ => (createBuffer_mirrors m _ _ _).bind fun _ =>
      mirrors_pure _

theorem build_mirrors (files : FileSystem) (preset : Preset) (settings : ChainSettings) :
    Mirrors (through m.map) (build files preset settings) (build files preset settings) := by
  unfold build
  generalize (Wgsl.Bundled.text? stockName).getD "" = stockText
  refine (mirrors_ofExcept _ _).bind fun _ => mirrors_ite (fun _ => rfl) ?_
  refine (link_mirrors m _ _).bind fun _ => (linkPasses_mirrors m _ _ _).bind fun linked => ?_
  refine (onDevice_mirrors (TexturePool.create_mirrors m _ _ _)).bind fun pool => ?_
  refine .bind (mirrors_modify fun _ => rfl) fun _ => ?_
  refine (loadLookups_mirrors m files _ _).bind fun _ => ?_
  exact (compilePasses_mirrors m _ _ _ linked).bind fun _ => mirrors_pure _

end Assembly

namespace PassState

/-- The state of a pass on another device. -/
def through (f : δ → δ') (s : PassState δ) : PassState δ' := ⟨f s.device, s.pool, s.pass⟩

variable {m} in
theorem onDevice_mirrors {α : Type} {call : Attempt δ α} {call' : Attempt δ' α}
    (h : Mirrors m.map call call') : Mirrors (through m.map) (onDevice call) (onDevice call') :=
  h.on (fun _ => rfl) (fun _ _ => rfl)

theorem canvas_mirrors (inputs : FrameInputs) (index : Nat) (final : Bool)
    (source : TextureState) :
    Mirrors (through m.map) (canvas inputs index final source)
      (canvas inputs index final source) := by
  refine mirrors_ite (mirrors_pure _) (mirrors_get_bind fun s => ?_)
  refine (mirrors_ofExcept _ _).bind fun size => ?_
  refine (onDevice_mirrors (TexturePool.ensureTarget_mirrors m _ _ _ _)).bind ?_
  rintro ⟨target, status, pool⟩
  exact .bind (mirrors_modify fun _ => rfl) fun _ => mirrors_pure _

theorem uploadQuad_mirrors (key : QuadKey) :
    Mirrors (through m.map) (uploadQuad key) (uploadQuad key) := by
  refine mirrors_get_bind fun s => .bind (mirrors_modify fun _ => rfl) fun _ => ?_
  refine mirrors_ite ?_ (mirrors_pure _)
  refine (onDevice_mirrors (m.writeBuffer _ _)).tryCatch fun e => ?_
  exact .bind (mirrors_modify fun _ => rfl) fun _ => mirrors_throw e

theorem draw_mirrors (inputs : FrameInputs) (textures : FrameTextures) (index : Nat) (final : Bool)
    (source : TextureState) (outputs : List TextureState) :
    Mirrors (through m.map) (draw inputs textures index final source outputs)
      (draw inputs textures index final source outputs) := by
  refine (canvas_mirrors m inputs index final source).bind fun _ => ?_
  refine (uploadQuad_mirrors m _).bind fun _ => mirrors_get_bind fun s => ?_
  refine .bind (mirrors_modify fun _ => rfl) fun _ => ?_
  refine (onDevice_mirrors (m.writeBuffer _ _)).bind fun _ => ?_
  exact (onDevice_mirrors (m.draw _)).bind fun _ => mirrors_pure _

end PassState

/-- What has been drawn of a frame, on another device. -/
def DrawnPasses.through (f : δ → δ') (d : DrawnPasses δ) : DrawnPasses δ' :=
  ⟨f d.device, d.pool, d.passes, d.drawn, d.phase, d.failure⟩

theorem drawPasses_through (inputs : FrameInputs) (textures : FrameTextures) (index : Nat)
    (source : TextureState) (outputs : List TextureState) (phase : Phase)
    (passes : List CompiledPass) (pool : TexturePool) (device : δ) :
    drawPasses inputs textures index source outputs phase passes pool (m.map device) =
      (drawPasses inputs textures index source outputs phase passes pool device).through m.map := by
  induction passes generalizing index source outputs phase pool device with
  | nil => rfl
  | cons pass rest ih =>
    have hdraw := PassState.draw_mirrors m inputs textures index rest.isEmpty source outputs
      ⟨device, pool, pass⟩
    unfold Ends at hdraw
    simp only [drawPasses]
    split at hdraw <;> rename_i hresult <;> rw [hresult]
    · rename_i produced s
      have hthere : PassState.draw inputs textures index rest.isEmpty source outputs
        ⟨m.map device, pool, pass⟩ = _ := hdraw
      rw [hthere]
      simp only [PassState.through, ih]
      rfl
    · have hthere : PassState.draw inputs textures index rest.isEmpty source outputs
        ⟨m.map device, pool, pass⟩ = _ := hdraw
      rw [hthere]
      rfl

namespace Sequencer

theorem drawFrame_through (s : Sequencer) (inputs : FrameInputs) (passes : List CompiledPass)
    (pool : TexturePool) (device : δ) :
    s.drawFrame inputs passes pool (m.map device) =
      (s.drawFrame inputs passes pool device).through m.map := by
  unfold drawFrame
  split
  · rfl
  · exact drawPasses_through m _ _ _ _ _ _ _ _ _

theorem run_through (s : Sequencer) (inputs : FrameInputs) (stock : ProgramId)
    (passes : List CompiledPass) (pool : TexturePool) (device : δ) :
    s.run inputs stock passes pool (m.map device) =
      let r := s.run inputs stock passes pool device
      (r.1, r.2.1, r.2.2.through m.map) := by
  have hbegin := m.beginFrame device
  unfold run
  unfold Ends at hbegin
  split at hbegin <;> rename_i hopened <;> rw [hbegin, hopened]
  · rename_i opened
    simp only [drawFrame_through]
    cases hfail : (s.drawFrame inputs passes pool opened).failure with
    | some e => simp [DrawnPasses.through, hfail, m.abortFrame, m.bindResting]
    | none =>
      have hend := m.endFrame (s.drawFrame inputs passes pool opened).device
      unfold Ends at hend
      split at hend <;> rename_i hended <;>
        simp [DrawnPasses.through, hfail, hend, hended, m.abortFrame, m.bindResting]
  · simp [DrawnPasses.through, m.abortFrame, m.bindResting]

end Sequencer

namespace Chain

/-- The chain on another device. -/
def through (f : δ → δ') (c : Chain δ) : Chain δ' := { c with device := f c.device }

theorem build_through {device : δ} {files : FileSystem} {preset : Preset}
    {settings : ChainSettings} {c' : Chain δ'} :
    build (m.map device) files preset settings = .ok c' ↔
      ∃ c, build device files preset settings = .ok c ∧ c.through m.map = c' := by
  have h := Assembly.build_mirrors m files preset settings { device }
  unfold build
  unfold Ends at h
  split at h
  · rename_i hhere
    have hthere : Assembly.build files preset settings { device := m.map device } = _ := h
    rw [hthere, hhere]
    simp [through, Assembly.through, m.bindResting]
  · rename_i hhere
    have hthere : Assembly.build files preset settings { device := m.map device } = _ := h
    rw [hthere, hhere]
    simp

theorem submit_mirrors (frame : Frame) :
    Mirrors (through m.map) (submit frame) (submit frame) := by
  refine mirrors_get_bind fun c => ?_
  refine Mirrors.bind ?_ fun _ => mirrors_modify fun _ => rfl
  exact (TexturePool.writeFrame_mirrors m c.pool frame).on (fun _ => rfl) (fun _ _ => rfl)

omit [GpuDevice δ] [GpuDevice δ'] in
theorem refreshTracked_through (f : δ → δ') (c : Chain δ) :
    (c.through f).refreshTracked = c.refreshTracked.through f := by
  unfold refreshTracked
  cases htracker : c.tracker <;> simp only [through, htracker]

theorem render_through (c : Chain δ) :
    (c.through m.map).render = (c.render.1, c.render.2.through m.map) := by
  unfold render
  rw [show (c.through m.map).pending = c.pending from rfl, refreshTracked_through]
  cases c.pending with
  | false => rfl
  | true =>
    generalize c.refreshTracked = t
    have hrun : (t.through m.map).sequencer.run (t.through m.map).inputs (t.through m.map).stock
        (t.through m.map).passes (t.through m.map).pool (t.through m.map).device = _ :=
      t.sequencer.run_through m t.inputs t.stock t.passes t.pool t.device
    simp only [Bool.not_true, Bool.false_eq_true, if_false, hrun]
    split <;> rfl

end Chain

end

/-- A map between devices under which calls do the same, and their hosts as well. -/
structure HostMap (δ δ' : Type) [GpuDevice δ] [GpuDevice δ'] [Adjustable δ] [Adjustable δ']
    extends DeviceMap δ δ' where
  change : Adjustable.Change δ → Adjustable.Change δ'
  adjust : ∀ upset d, Adjustable.adjust (change upset) (map d) = map (Adjustable.adjust upset d)

/-- Any device does the same as itself. -/
def HostMap.refl (δ : Type) [GpuDevice δ] [Adjustable δ] : HostMap δ δ where
  map := id
  createTexture _ := .refl _
  releaseTexture _ _ := rfl
  writeTexture _ _ _ := .refl _
  clearTexture _ := .refl _
  createBuffer _ _ _ := .refl _
  writeBuffer _ _ := .refl _
  createProgram _ _ _ := .refl _
  beginFrame := .refl _
  draw _ := .refl _
  endFrame := .refl _
  abortFrame _ := rfl
  bindResting _ _ := rfl
  maxDimension _ := rfl
  change := id
  adjust _ _ := rfl

/-- An observer changes nothing about what a device does, and what its host does to it. -/
def Observed.inside {ν δ : Type} [Observer ν] [Unobtrusive ν] [GpuDevice δ] [Adjustable δ] :
    HostMap (Observed ν δ) δ where
  toDeviceMap := Observed.unobserved
  change := id
  adjust _ _ := rfl

section

variable {δ δ' : Type} [GpuDevice δ] [GpuDevice δ'] [Adjustable δ] [Adjustable δ']
  (m : HostMap δ δ')

/-- The call as it is made on the other device. -/
def HostCall.through : HostCall δ → HostCall δ'
  | .submit frame => .submit frame
  | .setViewport viewport => .setViewport viewport
  | .setRotation turns => .setRotation turns
  | .setDirection direction => .setDirection direction
  | .setTracker tracker => .setTracker tracker
  | .setMemory memory => .setMemory memory
  | .adjust change => .adjust (m.change change)
  | .render => .render

namespace Session

/-- The session on the other device. -/
def through (s : Session δ) : Session δ' := ⟨s.chain.through m.map, s.accepted, s.shown⟩

theorem step_through (s : Session δ) (call : HostCall δ) :
    (s.step call).through m = (s.through m).step (call.through m) := by
  cases call with
  | submit frame =>
    have hsubmit := Chain.submit_mirrors m.toDeviceMap frame s.chain
    unfold Ends at hsubmit
    simp only [HostCall.through, step]
    split at hsubmit
    · rename_i hhere
      have hthere : Chain.submit frame (s.through m).chain = _ := hsubmit
      rw [hhere, hthere]
      rfl
    · rename_i hhere
      have hthere : Chain.submit frame (s.through m).chain = _ := hsubmit
      rw [hhere, hthere]
      rfl
  | setMemory memory =>
    simp only [HostCall.through, step, Chain.changeMemory, through, Chain.through]
    split <;> simp_all
  | adjust change =>
    simp only [HostCall.through, step, through, Chain.through, Chain.mapDevice, m.adjust]
  | render =>
    have hrender : (s.through m).chain.render = _ := Chain.render_through m.toDeviceMap s.chain
    simp only [HostCall.through, step, hrender]
    rfl
  | setViewport | setRotation | setDirection | setTracker => rfl

/-- The same calls lead to the same on both devices. -/
theorem run_through (s : Session δ) (calls : List (HostCall δ)) :
    (s.run calls).through m = (s.through m).run (calls.map (·.through m)) := by
  induction calls generalizing s with
  | nil => rfl
  | cons call calls ih => exact (ih (s.step call)).trans (by rw [step_through]; rfl)

/-- A chain built on the one device is built on the other, and there it goes on, call by call and
through the next frame, as here. -/
theorem render_run_through {device : δ} {files : FileSystem} {preset : Preset}
    {settings : ChainSettings} {c₀ : Chain δ}
    (hbuild : Chain.build device files preset settings = .ok c₀) (calls : List (HostCall δ)) :
    let s := (start c₀).run calls
    let s' := (start (c₀.through m.map)).run (calls.map (·.through m))
    Chain.build (m.map device) files preset settings = .ok (c₀.through m.map) ∧
      s' = s.through m ∧
      s'.chain.render = (s.chain.render.1, s.chain.render.2.through m.map) := by
  intro s s'
  have hrun : s' = s.through m := ((start c₀).run_through m calls).symm
  refine ⟨(Chain.build_through m.toDeviceMap).mpr ⟨c₀, hbuild, rfl⟩, hrun, ?_⟩
  rw [hrun]
  exact s.chain.render_through m.toDeviceMap

end Session

end

end PassChain
