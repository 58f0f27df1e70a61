import PassChain.Proofs.Compiling
import PassChain.Proofs.RecorderCalls
import PassChain.Proofs.Rendering

/-! What every call to a device keeps is kept by whatever a chain does with the device. -/
namespace PassChain

open Attempt

namespace Attempt

variable {σ α β : Type} {I : σ → Prop}

/-- The call keeps `I`, whether it succeeds or fails. -/
def Keeps (I : σ → Prop) (call : Attempt σ α) : Prop :=
  ∀ s, I s → call.Ends s (fun _ => I) (fun _ => I)

theorem keeps_pure (a : α) : Keeps I (pure a) := fun _ h => h

theorem Keeps.bind {call : Attempt σ α} {next : α → Attempt σ β} (hcall : Keeps I call)
    (hnext : ∀ a, Keeps I (next a)) : Keeps I (call >>= next) :=
  fun s h => ends_bind.mpr ((hcall s h).mono_ok fun a t ht => hnext a t ht)

end Attempt

/-- A property of devices that no call to a device breaks. -/
structure KeptByCalls {δ : Type} [GpuDevice δ] (I : δ → Prop) : Prop where
  createTexture : ∀ desc, Keeps I (GpuDevice.createTexture desc)
  releaseTexture : ∀ id d, I d → I (GpuDevice.releaseTexture id d)
  writeTexture : ∀ id size data, Keeps I (GpuDevice.writeTexture id size data)
  clearTexture : ∀ id, Keeps I (GpuDevice.clearTexture id)
  createBuffer : ∀ label kind size, Keeps I (GpuDevice.createBuffer label kind size)
  writeBuffer : ∀ id data, Keeps I (GpuDevice.writeBuffer id data)
  releaseBuffer : ∀ id d, I d → I (GpuDevice.releaseBuffer id d)
  createProgram : ∀ label text program, Keeps I (GpuDevice.createProgram label text program)
  releaseProgram : ∀ id d, I d → I (GpuDevice.releaseProgram id d)
  beginFrame : Keeps I GpuDevice.beginFrame
  draw : ∀ call, Keeps I (GpuDevice.draw call)
  endFrame : Keeps I GpuDevice.endFrame
  abortFrame : ∀ d, I d → I (GpuDevice.abortFrame d)
  bindResting : ∀ id d, I d → I (GpuDevice.bindResting id d)

/-- A property of devices that no call in the course of a frame breaks. -/
structure KeptByFrames {δ : Type} [GpuDevice δ] (I : δ → Prop) : Prop where
  passes : KeptByPasses (fun _ => True) (fun _ => True) I
  beginFrame : Keeps I GpuDevice.beginFrame
  endFrame : Keeps I GpuDevice.endFrame
  abortFrame : ∀ d, I d → I (GpuDevice.abortFrame d)
  bindResting : ∀ id d, I d → I (GpuDevice.bindResting id d)

section

variable {δ : Type} [GpuDevice δ] {I : δ → Prop} {files : FileSystem}

theorem KeptByCalls.frames (hI : KeptByCalls I) : KeptByFrames I where
  passes := {
    create := hI.createTexture
    release := hI.releaseTexture
    upload := fun id bytes d _ => hI.writeBuffer id bytes d
    draw := fun call d _ => hI.draw call d }
  beginFrame := hI.beginFrame
  endFrame := hI.endFrame
  abortFrame := hI.abortFrame
  bindResting := hI.bindResting

namespace TexturePool

theorem createHistory_kept (hI : KeptByCalls I) (size : Size) (n : Nat) :
    Keeps I (createHistory size n : Attempt δ _) := by
  induction n with
  | zero => exact keeps_pure _
  | succ n ih => exact ih.bind fun _ => (hI.createTexture _).bind fun _ => keeps_pure _

theorem create_kept (hI : KeptByCalls I) (targetCount : Nat) (maxInput : Size) (pow2 : Bool) :
    Keeps I (create targetCount maxInput pow2 : Attempt δ _) := by
  intro d hd
  unfold create
  simp only [ends_bind, ends_get, ends_ite, ends_throw, ends_pure]
  refine ⟨fun _ => hd, fun _ => (createHistory_kept hI _ _ d hd).mono_ok ?_⟩
  intro slots d₁ h₁
  exact (hI.createTexture _ d₁ h₁).mono_ok fun id d₂ h₂ => hI.writeTexture _ _ _ d₂ h₂

theorem insertLookup_kept (hI : KeptByCalls I) (pool : TexturePool) (description : LookupImage)
    (image : Image) : Keeps I (pool.insertLookup description image : Attempt δ _) := by
  intro d hd
  unfold insertLookup
  simp only [ends_bind, ends_get, ends_ite, ends_throw, ends_tryCatch, ends_modify, ends_pure]
  refine ⟨fun _ => hd, fun _ => ⟨fun _ => hd, fun _ => (hI.createTexture _ d hd).mono_ok ?_⟩⟩
  intro id d₁ h₁
  exact (hI.writeTexture _ _ _ d₁ h₁).mono (fun _ _ h₂ => h₂)
    (fun _ d₂ h₂ => hI.releaseTexture id d₂ h₂)

theorem loadLookup_kept (hI : KeptByCalls I) (pool : TexturePool) (description : LookupImage) :
    Keeps I (pool.loadLookup files description : Attempt δ _) := by
  intro d hd
  unfold loadLookup
  split
  · exact hd
  · exact insertLookup_kept hI pool description _ d hd

theorem releaseAll_kept (hI : KeptByCalls I) (pool : TexturePool) {d : δ} (hd : I d) :
    I (pool.releaseAll d).2 := by
  unfold releaseAll
  induction pool.textures generalizing d with
  | nil => exact hd
  | cons id rest ih => exact ih (hI.releaseTexture id d hd)

theorem writeFrame_kept (hI : KeptByCalls I) (pool : TexturePool) (frame : Frame) :
    Keeps I (pool.writeFrame frame : Attempt δ _) := by
  intro d hd
  unfold writeFrame
  simp only [ends_bind, ends_ite, ends_throw, ends_ofExcept, ends_pure]
  refine ⟨fun _ => hd, fun _ => ⟨fun rows _ => ⟨fun _ => ?_, fun _ => ?_⟩, fun _ _ => hd⟩⟩
  · exact (hI.clearTexture _ d hd).mono_ok fun _ d₁ h₁ => hI.writeTexture _ _ _ d₁ h₁
  · exact hI.writeTexture _ _ _ d hd

end TexturePool

namespace Assembly

omit [GpuDevice δ] in
/-- A call on the device keeps what is said of the device. -/
theorem onDevice_kept {α : Type} {call : Attempt δ α} (hcall : Keeps I call) :
    Keeps (fun a => I a.device) (onDevice call : Attempt (Assembly δ) α) := by
  intro a ha
  simp only [onDevice, ends_on]
  exact hcall a.device ha

theorem link_kept (hI : KeptByCalls I) (label text : String) :
    Keeps (fun a => I a.device) (link label text : Attempt (Assembly δ) _) := by
  intro a ha
  unfold link
  simp only [ends_bind, ends_ofExcept, ends_modify, ends_pure]
  exact ⟨fun program _ => onDevice_kept (hI.createProgram label text program) a ha, fun _ _ => ha⟩

theorem linkPass_kept (hI : KeptByCalls I) (smooth : Bool) (pass : Pass) (last : Bool) :
    Keeps (fun a => I a.device) (linkPass files smooth pass last : Attempt (Assembly δ) _) := by
  intro a ha
  unfold linkPass
  simp only [ends_bind, ends_ofExcept, ends_pure]
  refine ⟨fun text _ => (link_kept hI text.1 text.2 a ha).mono_ok ?_, fun _ _ => ha⟩
  exact fun _ _ h₁ => ⟨fun _ _ => h₁, fun _ _ => h₁⟩

theorem linkPasses_kept (hI : KeptByCalls I) (smooth : Bool) (passes : List Pass) :
    Keeps (fun a => I a.device) (linkPasses files smooth passes : Attempt (Assembly δ) _) := by
  induction passes with
  | nil => exact keeps_pure _
  | cons pass rest ih =>
    exact (linkPass_kept hI smooth pass _).bind fun _ => ih.bind fun _ => keeps_pure _

theorem loadLookups_kept (hI : KeptByCalls I) (images : List LookupImage) (pool : TexturePool) :
    Keeps (fun a => I a.device) (loadLookups files images pool : Attempt (Assembly δ) _) := by
  induction images generalizing pool with
  | nil => exact keeps_pure _
  | cons image rest ih =>
    intro a ha
    simp only [loadLookups, ends_bind, ends_modify]
    exact (onDevice_kept (TexturePool.loadLookup_kept hI pool image) a ha).mono_ok
      fun pool' a₁ h₁ => ih pool' { a₁ with pool := some pool' } h₁

theorem createBuffer_kept (hI : KeptByCalls I) (label : String) (kind : BufferKind) (size : Nat) :
    Keeps (fun a => I a.device) (createBuffer label kind size : Attempt (Assembly δ) _) := by
  intro a ha
  unfold createBuffer
  simp only [ends_bind, ends_modify, ends_pure]
  exact onDevice_kept (hI.createBuffer label kind size) a ha

theorem compilePass_kept (hI : KeptByCalls I) (context : BindContext) (align : Bool) (index : Nat)
    (l : LinkedPass) :
    Keeps (fun a => I a.device)
      (compilePass context align index l : Attempt (Assembly δ) _) :=
  (createBuffer_kept hI _ _ _).bind fun _ => (createBuffer_kept hI _ _ _).bind fun _ =>
    keeps_pure _

theorem compilePasses_kept (hI : KeptByCalls I) (context : BindContext) (align : Bool)
    (index : Nat) (linked : List LinkedPass) :
    Keeps (fun a => I a.device)
      (compilePasses context align index linked : Attempt (Assembly δ) _) := by
  induction linked generalizing index with
  | nil => exact keeps_pure _
  | cons l rest ih =>
    exact (compilePass_kept hI context align index l).bind fun _ =>
      (ih (index + 1)).bind fun _ => keeps_pure _

theorem build_kept (hI : KeptByCalls I) (preset : Preset) (settings : ChainSettings) :
    Keeps (fun a => I a.device)
      (Assembly.build files preset settings : Attempt (Assembly δ) _) := by
  intro a ha
  unfold Assembly.build
  generalize (Wgsl.Bundled.text? stockName).getD "" = stockText
  simp only [ends_bind, ends_ofExcept, ends_ite, ends_throw, ends_pure, ends_modify]
  refine ⟨fun _ _ => ⟨fun _ => ha, fun _ => (link_kept hI _ _ a ha).mono_ok ?_⟩, fun _ _ => ha⟩
  intro _ a₁ h₁
  refine (linkPasses_kept hI _ _ a₁ h₁).mono_ok ?_
  intro linked a₂ h₂
  refine (onDevice_kept (TexturePool.create_kept hI _ _ _) a₂ h₂).mono_ok ?_
  intro pool a₃ h₃
  refine (loadLookups_kept hI _ pool { a₃ with pool := some pool } h₃).mono_ok ?_
  intro pool' a₄ h₄
  exact compilePasses_kept hI _ _ 0 linked a₄ h₄

end Assembly

namespace Chain

theorem build_kept (hI : KeptByCalls I) {device : δ} (hdevice : I device) {preset : Preset}
    {settings : ChainSettings} {c : Chain δ} (h : build device files preset settings = .ok c) :
    I c.device := by
  obtain ⟨a, ha, hc⟩ := build_eq_ok h
  rw [hc]
  exact hI.bindResting _ _ ((Assembly.build_kept hI preset settings _ hdevice).of_ok ha)

theorem submit_kept (hI : KeptByCalls I) (frame : Frame) :
    Keeps (fun c => I c.device) (submit frame : Attempt (Chain δ) _) := by
  intro c hc
  unfold submit
  simp only [ends_bind, ends_get, ends_modify, ends_on]
  exact TexturePool.writeFrame_kept hI c.pool frame c.device hc

theorem render_kept (hI : KeptByFrames I) {c : Chain δ} (hc : I c.device) :
    I c.render.2.device := by
  cases hpending : c.pending with
  | false => rw [c.render_repeated hpending]; exact hc
  | true =>
    obtain ⟨r, hr, hrender⟩ := c.render_pending hpending
    -- However far the frame comes, no call has broken what is kept.
    have hdrawn {opened : δ} (hbegin : GpuDevice.beginFrame c.device = .ok () opened) :
        I (c.sequencer.drawFrame c.refreshTracked.inputs c.passes c.pool opened).device :=
      Sequencer.drawFrame_keeps hI.passes (fun _ _ => ⟨trivial, trivial⟩) (fun _ => trivial)
        ((hI.beginFrame _ hc).of_ok hbegin)
    have hdrew : I (c.drew r).device := by
      cases hr with
      | refused e opened hbegin =>
        exact hI.bindResting _ _ (hI.abortFrame _ ((hI.beginFrame _ hc).of_error hbegin))
      | failed e opened d hbegin hd =>
        exact hI.bindResting _ _ (hI.abortFrame _ (hd ▸ hdrawn hbegin))
      | unshown e opened ended d hbegin hd _ hend =>
        have hended := (hI.endFrame d.device (hd ▸ hdrawn hbegin)).of_error hend
        exact hI.bindResting _ _ (hI.abortFrame _ hended)
      | shown opened ended d hbegin hd _ hend =>
        exact hI.bindResting _ _ ((hI.endFrame d.device (hd ▸ hdrawn hbegin)).of_ok hend)
    rw [hrender]
    split <;> exact hdrew

end Chain

/-- As long as its host does not break it either, it holds however long a chain is used. -/
theorem Session.run_kept [Adjustable δ] (hI : KeptByCalls I)
    (hhost : ∀ (change : Adjustable.Change δ) (d : δ), I d → I (Adjustable.adjust change d))
    {s : Session δ} (hs : I s.chain.device) (calls : List (HostCall δ)) :
    I (s.run calls).chain.device := by
  refine run_induction (P := fun t => I t.chain.device) ?_ hs calls
  intro t call ht
  cases call with
  | submit frame =>
    have hsubmit := Chain.submit_kept hI frame t.chain ht
    simp only [step]
    split
    · rename_i c hc
      exact hsubmit.of_ok hc
    · rename_i c hc
      exact hsubmit.of_error hc
  | setMemory memory =>
    simp only [step, Chain.changeMemory]
    split <;> exact ht
  | adjust change => exact hhost change _ ht
  | render => exact Chain.render_kept hI.frames ht
  | setViewport | setRotation | setDirection | setTracker => exact ht

end

namespace Recorder

variable {r : Recorder}

theorem exec_ends (r : Recorder) (call : RecorderCall) :
    (exec call).Ends r (fun _ r' => r' = r.after call) (fun _ r' => r' = r.after call) := by
  unfold after outcome
  refine (ends_self _ r).mono ?_ ?_
  · intro a t ht
    rw [ht]
  · intro e t ht
    rw [ht]

/-- What every call to a recorder keeps, the calls of a chain keep. -/
theorem kept_of_after {I : Recorder → Prop} (hI : ∀ call r, I r → I (r.after call)) :
    KeptByCalls I := by
  have hexec (call : RecorderCall) (r : Recorder) (h : I r) :
      (exec call).Ends r (fun _ => I) (fun _ => I) :=
    (r.exec_ends call).mono (fun _ _ hr => hr ▸ hI call r h) (fun _ _ hr => hr ▸ hI call r h)
  exact {
    createTexture := fun desc r h => by
      simpa only [exec, ends_map] using hexec (.createTexture desc) r h
    releaseTexture := fun id => hI (.releaseTexture id)
    writeTexture := fun id size data r h => by
      simpa only [exec, ends_bind, ends_pure] using hexec (.writeTexture id size data) r h
    clearTexture := fun id r h => by
      simpa only [exec, ends_bind, ends_pure] using hexec (.clearTexture id) r h
    createBuffer := fun label kind size r h => by
      simpa only [exec, ends_map] using hexec (.createBuffer label kind size) r h
    writeBuffer := fun id data r h => by
      simpa only [exec, ends_bind, ends_pure] using hexec (.writeBuffer id data) r h
    releaseBuffer := fun id => hI (.releaseBuffer id)
    createProgram := fun label text program r h => by
      simpa only [exec, ends_map] using hexec (.createProgram label text program) r h
    releaseProgram := fun id => hI (.releaseProgram id)
    beginFrame := fun r h => by
      simpa only [exec, ends_bind, ends_pure] using hexec .beginFrame r h
    draw := fun call r h => by
      simpa only [exec, ends_bind, ends_pure] using hexec (.draw call) r h
    endFrame := fun r h => by
      simpa only [exec, ends_bind, ends_pure] using hexec .endFrame r h
    abortFrame := hI .abortFrame
    bindResting := fun id => hI (.bindResting id) }

/-- What a recorder can come to, it can come to from there on. -/
theorem reachable_kept : KeptByCalls Recorder.Reachable :=
  kept_of_after fun call _ h => h.after call

end Recorder

/-- The recorder of a chain never comes to a state that no recorder can come to. -/
theorem Session.run_reachable {device : Recorder} (hdevice : device.Reachable) {files : FileSystem}
    {preset : Preset} {settings : ChainSettings} {c : Chain Recorder}
    (h : Chain.build device files preset settings = .ok c) (calls : List (HostCall Recorder)) :
    ((start c).run calls).chain.device.Reachable := by
  refine run_kept Recorder.reachable_kept ?_
    (Chain.build_kept Recorder.reachable_kept hdevice h) calls
  intro change r hr
  cases change with
  | failAllocations pattern => exact hr.after (.failAllocations pattern)
  | failUploads pattern => exact hr.after (.failUploads pattern)
  | clear => exact hr.after .clearFaults

end PassChain
