import PassChain.Proofs.Targets
import PassChain.Sequencer

/-! What the drawing of a frame leaves alone, over any device. -/
namespace PassChain

open Attempt

/-- The target as later passes sample it. -/
def RenderTarget.state (t : RenderTarget) : TextureState := ⟨t.texture, t.logical, t.texel⟩

theorem length_putBytes (out : List UInt8) (start : Nat) (bytes : List UInt8) :
    (putBytes out start bytes).length = out.length := by
  unfold putBytes
  split
  · simp only [List.length_append, List.length_take, List.length_drop]
    omega
  · rfl

theorem BindingTable.length_write (t : BindingTable) (p : FrameParams) (out : List UInt8) :
    (t.write p out).length = out.length := by
  unfold write
  induction t.uniforms generalizing out with
  | nil => rfl
  | cons w rest ih => rw [List.foldl_cons, ih, length_putBytes]

namespace CompiledPass

variable {p q : CompiledPass}

/-- A pass without what changes from frame to frame. -/
def plan (p : CompiledPass) : CompiledPass :=
  { p with
    geometry := { align := p.geometry.align }
    uniforms := List.replicate p.uniforms.length 0 }

/-- The pass with its uniform block written. -/
def withWritten (p : CompiledPass) (params : FrameParams) : CompiledPass :=
  { p with uniforms := p.table.write params p.uniforms }

theorem plan_withWritten (params : FrameParams) : (p.withWritten params).plan = p.plan := by
  simp [plan, withWritten, BindingTable.length_write]

theorem table_of_plan (h : p.plan = q.plan) : p.table = q.table :=
  show p.plan.table = q.plan.table by rw [h]

theorem uniformBuffer_of_plan (h : p.plan = q.plan) : p.uniformBuffer = q.uniformBuffer :=
  show p.plan.uniformBuffer = q.plan.uniformBuffer by rw [h]

theorem vertexBuffer_of_plan (h : p.plan = q.plan) : p.vertexBuffer = q.vertexBuffer :=
  show p.plan.vertexBuffer = q.plan.vertexBuffer by rw [h]

theorem program_of_plan (h : p.plan = q.plan) : p.program = q.program :=
  show p.plan.program = q.plan.program by rw [h]

theorem format_of_plan (h : p.plan = q.plan) : p.format = q.format :=
  show p.plan.format = q.plan.format by rw [h]

theorem label_of_plan (h : p.plan = q.plan) : p.label = q.label :=
  show p.plan.label = q.plan.label by rw [h]

theorem length_uniforms_of_plan (h : p.plan = q.plan) : p.uniforms.length = q.uniforms.length := by
  simpa [plan] using congrArg (·.uniforms.length) h

end CompiledPass

namespace TexturePool

variable {pool pool' pool'' : TexturePool} {orig : TextureState} {i j first : Nat}
  {t : RenderTarget}

/-- `pool'` differs from `pool` at most in targets of passes from `first` on. -/
structure Retargeted (pool pool' : TexturePool) (first : Nat) : Prop where
  history : pool'.history = pool.history
  lookups : pool'.lookups = pool.lookups
  fallback : pool'.fallback = pool.fallback
  pow2 : pool'.pow2 = pool.pow2
  length : pool'.targets.length = pool.targets.length
  earlier : ∀ i < first, pool'.target? i = pool.target? i

theorem Retargeted.refl (pool : TexturePool) (first : Nat) : Retargeted pool pool first :=
  ⟨rfl, rfl, rfl, rfl, rfl, fun _ _ => rfl⟩

theorem Retargeted.trans (h : Retargeted pool pool' i) (h' : Retargeted pool' pool'' j)
    (hij : i ≤ j) : Retargeted pool pool'' i where
  history := h'.history.trans h.history
  lookups := h'.lookups.trans h.lookups
  fallback := h'.fallback.trans h.fallback
  pow2 := h'.pow2.trans h.pow2
  length := h'.length.trans h.length
  earlier k hk := (h'.earlier k (by omega)).trans (h.earlier k hk)

theorem withTarget_retargeted : Retargeted pool (pool.withTarget i t) i where
  history := rfl
  lookups := rfl
  fallback := rfl
  pow2 := rfl
  length := by simp [withTarget]
  earlier j hj := by
    have hne : i ≠ j := by omega
    simp [target?, withTarget, hne]

/-- What the first `i` passes have drawn. -/
def outputs (pool : TexturePool) : Nat → List TextureState
  | 0 => []
  | i + 1 => pool.outputs i ++ ((pool.target? i).map (·.state)).toList

/-- What pass `i` draws from: the target of the pass before it, and the input frame if it is the
first. -/
def source (pool : TexturePool) (orig : TextureState) : Nat → TextureState
  | 0 => orig
  | i + 1 => ((pool.target? i).map (·.state)).getD orig

theorem outputs_succ (h : pool.target? i = some t) :
    pool.outputs (i + 1) = pool.outputs i ++ [t.state] := by
  simp [outputs, h]

theorem source_succ (h : pool.target? i = some t) : pool.source orig (i + 1) = t.state := by
  simp [source, h]

theorem Retargeted.outputs (h : Retargeted pool pool' first) (hi : i ≤ first) :
    pool'.outputs i = pool.outputs i := by
  induction i with
  | zero => rfl
  | succ i ih => simp only [TexturePool.outputs, ih (by omega), h.earlier i hi]

theorem Retargeted.source (h : Retargeted pool pool' first) (hi : i ≤ first) :
    pool'.source orig i = pool.source orig i := by
  cases i with
  | zero => rfl
  | succ i => simp only [TexturePool.source, h.earlier i hi]

end TexturePool

variable {δ : Type} [GpuDevice δ]

/-- A property of devices that the passes of a frame keep, as long as they write only into
buffers of `uploads` and make only draws of `draws`. -/
structure KeptByPasses (uploads : BufferId → Prop) (draws : DrawCall → Prop) (I : δ → Prop) :
    Prop where
  create : ∀ desc d, I d → (GpuDevice.createTexture desc).Ends d (fun _ => I) (fun _ => I)
  release : ∀ id d, I d → I (GpuDevice.releaseTexture id d)
  upload : ∀ id bytes d, uploads id → I d →
    (GpuDevice.writeBuffer id bytes).Ends d (fun _ => I) (fun _ => I)
  draw : ∀ call d, draws call → I d → (GpuDevice.draw call).Ends d (fun _ => I) (fun _ => I)

namespace TexturePool

theorem ensureTarget_ends (pool : TexturePool) (pass : Nat) (logical : Size)
    (format : TexelFormat) (d : δ) :
    (pool.ensureTarget pass logical format).Ends d
      (fun r _ => pass < pool.targets.length ∧ r.2.2 = pool.withTarget pass r.1 ∧
        r.1.logical = logical ∧ r.1.format = format)
      (fun _ _ => True) := by
  refine ensureTarget_cases (fun _ => trivial) ?_ (fun _ _ => trivial) (fun _ _ _ _ => trivial)
    ?_ ?_
  · intro t hlt ht hserves
    exact ⟨hlt, (withTarget_of_target? ht).symm, hserves⟩
  · intro texel hlt _ _ _
    exact (ends_true _).mono_ok fun _ _ _ => ⟨hlt, rfl, rfl, rfl⟩
  · intro texel old hlt _ _ _ _
    exact (ends_true _).mono_ok fun _ _ _ => ⟨hlt, rfl, rfl, rfl⟩

theorem ensureTarget_keeps {uploads : BufferId → Prop} {draws : DrawCall → Prop} {I : δ → Prop}
    (hI : KeptByPasses uploads draws I) (pool : TexturePool) (pass : Nat) (logical : Size)
    (format : TexelFormat) {d : δ} (hd : I d) :
    (pool.ensureTarget pass logical format).Ends d (fun _ => I) (fun _ => I) := by
  refine ensureTarget_cases (fun _ => hd) (fun _ _ _ _ => hd) (fun _ _ => hd) (fun _ _ _ _ => hd)
    ?_ ?_
  · intro texel _ _ _ _
    exact hI.create _ d hd
  · intro texel old _ _ _ _ _
    exact (hI.create _ d hd).mono_ok fun _ d' hd' => hI.release old.texture d' hd'

end TexturePool

namespace PassState

variable {inputs : FrameInputs} {textures : FrameTextures} {index : Nat} {final : Bool}
  {source : TextureState} {outputs : List TextureState} {s t : PassState δ}
  {uploads : BufferId → Prop} {draws : DrawCall → Prop} {I : δ → Prop}

/-- The size, projection and canvas that a pass is given, and the pool it leaves. -/
structure Placed (inputs : FrameInputs) (index : Nat) (final : Bool) (source : TextureState)
    (pass : CompiledPass) (pool pool' : TexturePool) (size : Size) (mvp : Matrix4 Single)
    (canvas : Canvas) : Prop where
  mvp : mvp = projection size (if final then inputs.rotation else 0)
  last : final = true → pool' = pool ∧ size = inputs.viewport.size ∧
    canvas = ⟨.backbuffer, inputs.viewport.rect, false, none⟩
  inner : final = false → index < pool.targets.length ∧
    pass.scale.resolve source.content inputs.viewport.size = .ok size ∧
    ∃ t clear, pool' = pool.withTarget index t ∧ t.logical = size ∧ t.format = pass.format ∧
      canvas = ⟨.texture t.texture, ⟨0, 0, size.width, size.height⟩, clear, some t.state⟩

theorem Placed.retargeted {pass : CompiledPass} {pool pool' : TexturePool} {size : Size}
    {mvp : Matrix4 Single} {c : Canvas}
    (h : Placed inputs index final source pass pool pool' size mvp c) :
    pool.Retargeted pool' index := by
  cases final with
  | true => rw [(h.last rfl).1]; exact .refl _ _
  | false =>
    obtain ⟨_, _, t, _, hp, _⟩ := h.inner rfl
    rw [hp]
    exact TexturePool.withTarget_retargeted

/-- What the next pass draws from. -/
theorem Placed.source_next {pass : CompiledPass} {pool pool' : TexturePool} {size : Size}
    {mvp : Matrix4 Single} {c : Canvas}
    (h : Placed inputs index false source pass pool pool' size mvp c) (orig : TextureState) :
    c.produced.getD source = pool'.source orig (index + 1) := by
  obtain ⟨hlt, _, t, _, rfl, _, _, rfl⟩ := h.inner rfl
  rw [TexturePool.source_succ ((TexturePool.target?_withTarget hlt _).trans (if_pos rfl))]
  rfl

/-- What the next pass can sample. -/
theorem Placed.outputs_next {pass : CompiledPass} {pool pool' : TexturePool} {size : Size}
    {mvp : Matrix4 Single} {c : Canvas}
    (h : Placed inputs index false source pass pool pool' size mvp c) :
    pool.outputs index ++ c.produced.toList = pool'.outputs (index + 1) := by
  have hbefore := h.retargeted.outputs (Nat.le_refl index)
  obtain ⟨hlt, _, t, _, rfl, _, _, rfl⟩ := h.inner rfl
  rw [TexturePool.outputs_succ ((TexturePool.target?_withTarget hlt _).trans (if_pos rfl)), hbefore]
  rfl

theorem canvas_ends :
    (canvas inputs index final source).Ends s
      (fun r t => t.pass = s.pass ∧
        Placed inputs index final source s.pass s.pool t.pool r.1 r.2.1 r.2.2)
      (fun _ t => t.pass = s.pass ∧ t.pool = s.pool) := by
  unfold canvas
  cases final with
  | true => exact ⟨rfl, rfl, fun _ => ⟨rfl, rfl, rfl⟩, fun h => absurd h.symm Bool.false_ne_true⟩
  | false =>
    simp only [Bool.false_eq_true, if_false, ends_bind, ends_get, ends_ofExcept, onDevice, ends_on]
    refine ⟨?_, fun _ _ => ⟨trivial, trivial⟩⟩
    intro size hsize
    refine (TexturePool.ensureTarget_ends s.pool index size s.pass.format s.device).mono
      ?_ (fun _ _ _ => ⟨trivial, trivial⟩)
    intro r _ hr
    obtain ⟨hlt, hpool, rfl, hformat⟩ := hr
    exact ⟨rfl, rfl, fun h => absurd h Bool.false_ne_true,
      fun _ => ⟨hlt, hsize, r.1, _, hpool, rfl, hformat, rfl⟩⟩

theorem canvas_keeps (hI : KeptByPasses uploads draws I) (hs : I s.device) :
    (canvas inputs index final source).Ends s (fun _ t => I t.device) (fun _ t => I t.device) := by
  unfold canvas
  cases final with
  | true => exact hs
  | false =>
    simp only [Bool.false_eq_true, if_false, ends_bind, ends_get, ends_ofExcept, onDevice, ends_on]
    refine ⟨?_, fun _ _ => hs⟩
    intro size _
    exact (TexturePool.ensureTarget_keeps hI s.pool index size s.pass.format hs).mono
      (fun _ _ h => h) (fun _ _ h => h)

theorem uploadQuad_ends {key : QuadKey} :
    (uploadQuad key).Ends s (fun _ t => t.pool = s.pool ∧ t.pass.plan = s.pass.plan)
      (fun _ t => t.pool = s.pool ∧ t.pass.plan = s.pass.plan) := by
  have halign (c : GeometryCache) : (c.update key).2.align = c.align := by
    unfold GeometryCache.update
    split <;> rfl
  unfold uploadQuad
  simp only [ends_bind, ends_get, ends_set, ends_ite, ends_tryCatch, ends_modify, ends_throw,
    onDevice, ends_on, ends_pure]
  refine ⟨fun _ => (ends_true _).mono (fun _ _ _ => ?_) (fun _ _ _ => ?_), fun _ => ?_⟩ <;>
    simp [CompiledPass.plan, GeometryCache.invalidate, halign]

theorem uploadQuad_keeps (hI : ∀ id bytes d, uploads id → I d →
      (GpuDevice.writeBuffer id bytes).Ends d (fun _ => I) (fun _ => I))
    (hup : uploads s.pass.vertexBuffer) (hs : I s.device) {key : QuadKey} :
    (uploadQuad key).Ends s (fun _ t => I t.device) (fun _ t => I t.device) := by
  unfold uploadQuad
  simp only [ends_bind, ends_get, ends_set, ends_ite, ends_tryCatch, ends_modify, ends_throw,
    onDevice, ends_on, ends_pure]
  exact ⟨fun _ => (hI _ _ _ hup hs).mono (fun _ _ h => h) (fun _ _ h => h), fun _ => hs⟩

/-- Over any device, a pass moves its own target and what it keeps between frames, no more. -/
theorem draw_ends :
    (draw inputs textures index final source outputs).Ends s
      (fun produced t => t.pass.plan = s.pass.plan ∧ ∃ size mvp c, produced = c.produced ∧
        Placed inputs index final source s.pass s.pool t.pool size mvp c)
      (fun _ t => t.pass.plan = s.pass.plan ∧ s.pool.Retargeted t.pool index) := by
  unfold draw
  simp only [ends_bind, ends_get, ends_set, onDevice, ends_on, ends_pure]
  refine canvas_ends.mono ?_
    (fun _ t h => ⟨by rw [h.1], by rw [h.2]; exact .refl _ _⟩)
  rintro r t ⟨hpass, hr⟩
  refine uploadQuad_ends.mono ?_
    (fun _ u h => ⟨by rw [h.2, hpass], by rw [h.1]; exact hr.retargeted⟩)
  rintro _ u ⟨hpool, hplan⟩
  have hplan' (p : FrameParams) : (u.pass.withWritten p).plan = s.pass.plan := by
    rw [CompiledPass.plan_withWritten, hplan, hpass]
  refine (ends_true _).mono (fun _ _ _ => (ends_true _).mono ?_ ?_) ?_
  · intro _ _ _
    exact ⟨hplan' _, r.1, r.2.1, r.2.2, rfl, by rw [hpool]; exact hr⟩
  · intro _ _ _
    exact ⟨hplan' _, by rw [hpool]; exact hr.retargeted⟩
  · intro _ _ _
    exact ⟨hplan' _, by rw [hpool]; exact hr.retargeted⟩

theorem draw_keeps (hI : KeptByPasses uploads draws I)
    (hup : uploads s.pass.vertexBuffer ∧ uploads s.pass.uniformBuffer)
    (hdraw : ∀ call, draws call) (hs : I s.device) :
    (draw inputs textures index final source outputs).Ends s (fun _ t => I t.device)
      (fun _ t => I t.device) := by
  unfold draw
  simp only [ends_bind, ends_get, ends_set, onDevice, ends_on, ends_pure]
  refine ((canvas_keeps hI hs).and canvas_ends).mono ?_ (fun _ _ h => h.1)
  rintro r t ⟨ht, hpass, _⟩
  refine ((uploadQuad_keeps hI.upload (by rw [hpass]; exact hup.1) ht).and uploadQuad_ends).mono
    ?_ (fun _ _ h => h.1)
  rintro _ u ⟨hu, _, hplan⟩
  rw [hpass] at hplan
  have huniforms : uploads u.pass.uniformBuffer := by
    rw [CompiledPass.uniformBuffer_of_plan hplan]
    exact hup.2
  refine (hI.upload _ _ _ huniforms hu).mono_ok ?_
  intro _ d hd
  exact (hI.draw _ d (hdraw _) hd).mono (fun _ _ h => h) (fun _ _ h => h)

end PassState

section

variable {inputs : FrameInputs} {textures : FrameTextures} {uploads : BufferId → Prop}
  {draws : DrawCall → Prop} {I : δ → Prop} {passes : List CompiledPass} {pool : TexturePool}
  {device : δ}

theorem drawPasses_moves (index : Nat) (source : TextureState) (outputs : List TextureState)
    (phase : Phase) :
    let d := drawPasses inputs textures index source outputs phase passes pool device
    pool.Retargeted d.pool index ∧ d.passes.map (·.plan) = passes.map (·.plan) := by
  induction passes generalizing index source outputs phase pool device with
  | nil => exact ⟨.refl _ _, rfl⟩
  | cons pass rest ih =>
    have hdraw : (PassState.draw inputs textures index rest.isEmpty source outputs).Ends
        ⟨device, pool, pass⟩ _ _ := PassState.draw_ends
    unfold drawPasses
    simp only
    split
    · rename_i e t ht
      obtain ⟨hplan, hpool⟩ := hdraw.of_error ht
      exact ⟨hpool, by simp [hplan]⟩
    · rename_i produced t ht
      obtain ⟨hplan, _, _, _, _, hplaced⟩ := hdraw.of_ok ht
      obtain ⟨hpool, hrest⟩ := ih (index + 1) (produced.getD source) (outputs ++ produced.toList)
        (if rest.isEmpty then .renderingFinalPass else .renderingPass index)
      exact ⟨hplaced.retargeted.trans hpool (by omega), by simp only [List.map_cons, hplan, hrest]⟩

theorem drawPasses_keeps (hI : KeptByPasses uploads draws I)
    (hup : ∀ p ∈ passes, uploads p.vertexBuffer ∧ uploads p.uniformBuffer)
    (hdraw : ∀ call, draws call) (hd : I device) (index : Nat) (source : TextureState)
    (outputs : List TextureState)
    (phase : Phase) :
    I (drawPasses inputs textures index source outputs phase passes pool device).device := by
  induction passes generalizing index source outputs phase pool device with
  | nil => exact hd
  | cons pass rest ih =>
    have hpass : (PassState.draw inputs textures index rest.isEmpty source outputs).Ends
        ⟨device, pool, pass⟩ _ _ := PassState.draw_keeps hI (hup pass (by simp)) hdraw hd
    unfold drawPasses
    simp only
    split
    · rename_i ht
      exact hpass.of_error ht
    · rename_i ht
      exact ih (fun p hp => hup p (by simp [hp])) (hpass.of_ok ht) _ _ _ _

/-- Passes are drawn in order until one fails, and all of them if none does. -/
theorem drawPasses_drawn (index : Nat) (source : TextureState) (outputs : List TextureState)
    (phase : Phase) :
    let d := drawPasses inputs textures index source outputs phase passes pool device
    (d.failure = none → d.drawn = index + passes.length) ∧
      (d.failure.isSome → index ≤ d.drawn ∧ d.drawn < index + passes.length) := by
  induction passes generalizing index source outputs phase pool device with
  | nil => simp [drawPasses]
  | cons pass rest ih =>
    unfold drawPasses
    simp only
    split
    · simp
    · rename_i produced t _
      obtain ⟨hall, hsome⟩ := @ih t.pool t.device (index + 1)
        (produced.getD source) (outputs ++ produced.toList)
        (if rest.isEmpty then .renderingFinalPass else .renderingPass index)
      simp only [List.length_cons]
      exact ⟨fun h => by rw [hall h]; omega, fun h => by have := hsome h; omega⟩

end

end PassChain
