import PassChain.Proofs.FramePictures
import PassChain.Proofs.Uploads

/-! No call of a host, however it upsets its device, meets an error that is the chain's own
fault. -/
namespace PassChain

open Attempt Recorder

/-- A call that succeeds, or fails for another reason than that it breaks a rule of the device. -/
def Attempt.Legal {σ α : Type} (call : Attempt σ α) (s : σ) : Prop :=
  call.Ends s (fun _ _ => True) (fun e _ => e.kind ≠ .internal)

/-- What is known of a legal call that succeeds, when all that matters of its errors is their
kind. -/
theorem Attempt.Legal.ends {σ α : Type} {call : Attempt σ α} {s : σ} {ok : α → σ → Prop}
    {err : Error → σ → Prop} (h : call.Legal s) (hends : call.Ends s ok err) :
    call.Ends s ok (fun e _ => e.kind ≠ .internal) :=
  (hends.and h).mono (fun _ _ h => h.1) (fun _ _ h => h.2)

/-- Decoded images hold four bytes for each pixel. -/
def FileSystem.Decodes (files : FileSystem) : Prop :=
  ∀ path image, files.readImage path = some image →
    image.rgba.length = image.size.width.toNat * image.size.height.toNat * 4

namespace Recorder

theorem createTexture_legal (r : Recorder) (desc : TextureDesc) :
    (GpuDevice.createTexture desc).Legal r := by
  refine (createTexture_ends r desc).mono (fun _ _ _ => trivial) ?_
  rintro e _ ⟨_, ⟨_, _, rfl⟩ | ⟨rfl, _⟩⟩ <;> nofun

theorem createBuffer_legal (r : Recorder) (label : String) (kind : BufferKind) (size : Nat) :
    (GpuDevice.createBuffer label kind size).Legal r := by
  refine (createBuffer_ends r label kind size).mono (fun _ _ _ => trivial) ?_
  rintro e _ ⟨_, _, _, rfl⟩
  nofun

end Recorder

namespace TexturePool

variable {r : Recorder} {pool : TexturePool} {files : FileSystem}

theorem createHistory_legal (size : Size) (n : Nat) : (createHistory size n).Legal r := by
  induction n with
  | zero => trivial
  | succ n ih =>
    simp only [Legal, createHistory, ends_bind, ends_pure]
    exact ih.mono_ok fun _ _ _ => createTexture_legal _ _

theorem create_legal (h : r.Issued) (targetCount : Nat) (maxInput : Size) (pow2 : Bool) :
    (create targetCount maxInput pow2).Ends r (fun _ _ => r.Fits maxInput)
      (fun e _ => e.kind ≠ .internal) := by
  unfold create
  simp only [ends_bind, ends_get, ends_ite, ends_throw, ends_pure]
  refine ⟨fun _ => by simp [Error.kind], fun hwithin => ?_⟩
  refine ((createHistory_legal _ _).ends (createHistory_alive h maxInput historySlots)).mono_ok ?_
  rintro slots r₁ ⟨h₁, _⟩
  refine ((createTexture_legal _ _).ends (createTexture_grows h₁.issued _)).mono_ok ?_
  rintro id r₂ ⟨_, hid, _⟩
  refine (writeTexture_fits hid (UInt32.le_refl _) (UInt32.le_refl _) rfl (by decide)).mono ?_
    (fun _ _ h => h.elim)
  intro _ _ _
  exact Size.within_iff.mp (by simpa using hwithin)

theorem loadLookup_legal (h : r.Issued) (hlimit : r.maxDimension ≤ 16384) (hfiles : files.Decodes)
    (pool : TexturePool) (description : LookupImage) :
    (pool.loadLookup files description).Legal r := by
  unfold loadLookup insertLookup
  split
  · nofun
  · rename_i image himage
    simp only [Legal, ends_bind, ends_get, ends_ite, ends_throw, ends_tryCatch, ends_modify,
      ends_pure]
    refine ⟨fun _ => by simp [Error.kind], fun _ => ⟨fun _ => by simp [Error.kind], fun _ => ?_⟩⟩
    refine ((createTexture_legal _ _).ends (createTexture_grows h _)).mono_ok ?_
    rintro id r₁ ⟨_, hid, hfits⟩
    have hcount := Size.bytes_lt (UInt32.le_trans hfits.1.2 hlimit)
      (UInt32.le_trans hfits.2.2 hlimit)
    have hdata := hfiles _ image himage
    exact (writeTexture_fits hid (UInt32.le_refl _) (UInt32.le_refl _) hdata
      (hdata ▸ hcount)).mono (fun _ _ _ => trivial) (fun _ _ h => h.elim)

theorem writeFrame_legal (h : pool.Alive r) (hwidth : pool.history.texel.width ≤ 16384)
    (hheight : pool.history.texel.height ≤ 16384) (frame : Frame) :
    (pool.writeFrame frame).Legal r := by
  refine (h.writeFrame_refuses hwidth hheight frame).mono (fun _ _ _ => trivial) ?_
  rintro _ _ ⟨_, rfl | ⟨fault, _, rfl⟩⟩ <;> simp [Error.kind]

end TexturePool

namespace Assembly

variable {a : Assembly Recorder} {files : FileSystem}

theorem link_legal (label text : String) : (link label text).Legal a := by
  unfold link
  simp only [Legal, ends_bind, ends_ofExcept, onDevice, ends_on, ends_modify, ends_pure]
  refine ⟨fun program _ => ?_, fun _ _ => by simp [Error.kind]⟩
  exact (createProgram_ends a.device label text program).mono (fun _ _ _ => trivial)
    (fun _ _ h => h.elim)

theorem linkPasses_legal (smooth : Bool) (passes : List Pass) :
    (linkPasses files smooth passes).Legal a := by
  induction passes generalizing a with
  | nil => trivial
  | cons pass rest ih =>
    simp only [Legal, linkPasses, linkPass, ends_bind, ends_ofExcept, ends_pure]
    refine ⟨fun _ _ => ?_, fun _ _ => by simp [Error.kind]⟩
    refine (link_legal _ _).mono_ok ?_
    intro _ _ _
    exact ⟨fun _ _ => ih.mono_ok fun _ _ _ => trivial, fun _ _ => by simp [Error.kind]⟩

theorem loadLookups_legal {pool : TexturePool} (h : pool.Alive a.device)
    (hlimit : a.device.maxDimension ≤ 16384) (hfiles : files.Decodes) (images : List LookupImage) :
    (loadLookups files images pool).Legal a := by
  induction images generalizing pool a with
  | nil => trivial
  | cons image rest ih =>
    simp only [Legal, loadLookups, ends_bind, onDevice, ends_on, ends_modify]
    refine ((TexturePool.loadLookup_legal h.issued hlimit hfiles pool image).ends
      (TexturePool.loadLookup_alive h files image)).mono_ok ?_
    rintro pool₁ r₁ ⟨h₁, hpool⟩
    exact ih hpool (h₁.maxDimension ▸ hlimit)

theorem compilePasses_legal (context : BindContext) (align : Bool) (index : Nat)
    (linked : List LinkedPass) : (compilePasses context align index linked).Legal a := by
  induction linked generalizing index a with
  | nil => trivial
  | cons l rest ih =>
    simp only [Legal, compilePasses, compilePass, createBuffer, ends_bind, onDevice, ends_on,
      ends_modify, ends_pure]
    refine (createBuffer_legal _ _ _ _).mono_ok ?_
    intro _ _ _
    refine (createBuffer_legal _ _ _ _).mono_ok ?_
    intro _ _ _
    exact (ih (index + 1)).mono_ok fun _ _ _ => trivial

/-- Building breaks no rule of the device, and what it builds takes frames that fit the device. -/
theorem build_legal (h : a.device.Issued) (hlimit : a.device.maxDimension ≤ 16384)
    (hfiles : files.Decodes) (preset : Preset) (settings : ChainSettings) :
    (Assembly.build files preset settings).Ends a (fun _ _ => a.device.Fits settings.maxInput)
      (fun e _ => e.kind ≠ .internal) := by
  unfold Assembly.build
  generalize (Wgsl.Bundled.text? stockName).getD "" = stockText
  simp only [ends_bind, ends_ofExcept, ends_ite, ends_throw, ends_pure, ends_modify, onDevice,
    ends_on]
  refine ⟨fun _ _ => ⟨fun _ => by simp [Error.kind], fun _ => ?_⟩, fun _ _ => by simp [Error.kind]⟩
  refine ((link_legal _ _).ends (link_alive h _ _)).mono_ok ?_
  rintro _ a₁ ⟨h₁, _⟩
  refine ((linkPasses_legal _ _).ends (linkPasses_alive h₁.issued _ _)).mono_ok ?_
  rintro linked a₂ ⟨h₂, _⟩
  refine ((TexturePool.create_legal h₂.issued _ _ _).and
    (TexturePool.create_alive h₂.issued _ _ _)).mono ?_ (fun _ _ h => h.1)
  rintro pool r₃ ⟨hfits, h₃, hpool⟩
  have hsame := h₁.trans (h₂.trans h₃)
  refine (loadLookups_legal hpool (hsame.maxDimension ▸ hlimit) hfiles _).mono_ok ?_
  intro _ _ _
  refine (compilePasses_legal _ _ 0 linked).mono_ok ?_
  intro _ _ _
  exact hfits.of_limit (h₁.trans h₂).maxDimension.symm

end Assembly

theorem Recorder.Injected.kind {r : Recorder} {e : Error} (h : r.Injected e) :
    e.kind = .resource := by
  obtain ⟨_, _, _, rfl⟩ | ⟨_, _, _, rfl⟩ := h <;> rfl

theorem TexturePool.Misfit.kind {pool : TexturePool} {r : Recorder} {pass : Nat} {logical : Size}
    {e : Error} (h : pool.Misfit r pass logical e) : e.kind = .config ∨ e.kind = .resource := by
  cases h with
  | overflow => exact .inl rfl
  | unfit _ _ _ he => obtain ⟨_, rfl⟩ | ⟨_, rfl⟩ := he <;> exact .inr rfl

theorem CompiledPass.Misfit.kind {pass : CompiledPass} {index : Nat} {pool : TexturePool}
    {r : Recorder} {source viewport : Size} {e : Error}
    (h : pass.Misfit index pool r source viewport e) : e.kind = .config ∨ e.kind = .resource := by
  obtain ⟨_, _, rfl⟩ | ⟨_, _, hmisfit⟩ := h
  · exact .inl rfl
  · exact hmisfit.kind

/-- A draw that its pass, the one at `i`, could make again on `r`. -/
def RecordedDraw.Repeatable (draw : RecordedDraw) (r : Recorder) (i : Nat) (pass : CompiledPass) :
    Prop :=
  ∃ canvas params label uniforms vertices,
    draw = Recorder.record (pass.call i canvas params) label uniforms vertices ∧
      r.Drawable (pass.call i canvas params)

namespace Chain

variable {c : Chain Recorder} {device : Recorder} {files : FileSystem} {preset : Preset}
  {settings : ChainSettings}

/-- Nothing that stops the drawing of a frame is the chain's own fault. -/
theorem drawing_legal (h : c.Sound) {e : Error} (hfail : c.drawing.failure = some e) :
    e.kind ≠ .internal := by
  rcases (drawing_alive h).2 e hfail with ⟨_, _, rfl⟩ | ⟨_, hinjected | ⟨_, _, _, hmisfit⟩⟩
  · nofun
  · simp [hinjected.kind]
  · rcases hmisfit.kind with hkind | hkind <;> simp [hkind]

/-- A frame is dropped for a reason that lies outside the chain. -/
theorem render_legal (h : c.Sound) (hclosed : c.device.inFrame = false) {drawn k : Nat} {e : Error}
    (hreport : c.render.2.report = some ⟨drawn, .aborted k e⟩) : e.kind ≠ .internal := by
  cases hpending : c.pending with
  | false => simp [render_repeated c hpending, FrameReport.repeated] at hreport
  | true =>
    cases hrender : c.render with | mk answer c' =>
    have hrendered := render_rendered hpending
    rw [hrender] at hrendered hreport
    cases hrendered with
    | refused hopen => simp [hclosed] at hopen
    | failed e' _ hfail =>
      simp only [dropped, Option.some.injEq, FrameReport.mk.injEq, FrameOutcome.aborted.injEq]
        at hreport
      obtain ⟨_, _, rfl⟩ := hreport
      exact drawing_legal h hfail
    | shown => simp [presented] at hreport

theorem submit_legal (h : c.pool.Alive c.device) (hwidth : c.pool.history.texel.width ≤ 16384)
    (hheight : c.pool.history.texel.height ≤ 16384) (frame : Frame) : (submit frame).Legal c := by
  unfold submit
  simp only [Legal, ends_bind, ends_get, ends_modify, ends_on]
  exact TexturePool.writeFrame_legal h hwidth hheight frame

theorem build_error_legal (hdevice : device.Issued) (hlimit : device.maxDimension ≤ 16384)
    (hfiles : files.Decodes) {b : BuildError Recorder}
    (h : build device files preset settings = .error b) : b.error.kind ≠ .internal := by
  unfold build at h
  split at h
  · rename_i e a ha
    simp only [Except.error.injEq] at h
    subst h
    exact (Assembly.build_legal hdevice hlimit hfiles preset settings).of_error ha
  · simp at h

/-- The frames that a new chain takes fit its device. -/
theorem build_texel (hdevice : device.Issued) (hlimit : device.maxDimension ≤ 16384)
    (hfiles : files.Decodes) (h : build device files preset settings = .ok c) :
    c.pool.history.texel.width ≤ 16384 ∧ c.pool.history.texel.height ≤ 16384 := by
  obtain ⟨a, ha, _⟩ := build_eq_ok h
  have hfits : device.Fits settings.maxInput :=
    (Assembly.build_legal hdevice hlimit hfiles preset settings).of_ok ha
  rw [(build_builtFrom h).texel]
  exact ⟨UInt32.le_trans hfits.1.2 hlimit, UInt32.le_trans hfits.2.2 hlimit⟩

/-- What a frame has been drawn with is not given up before its drawing ends. -/
theorem drawing_repeatable (h : c.Sound) {i : Nat} {draw : RecordedDraw}
    (hdraw : c.drawing.device.pending[i]? = some draw) :
    ∃ pass, c.passes[i]? = some pass ∧ draw.Repeatable c.drawing.device i pass := by
  have hi : i < c.passes.length := by
    refine Nat.lt_of_lt_of_le ?_ (drawn_le_length h)
    rw [← c.drawing_draws.1]
    exact (List.getElem?_eq_some_iff.mp hdraw).1
  obtain ⟨pass, hpass⟩ : ∃ pass, c.passes[i]? = some pass := ⟨_, List.getElem?_eq_getElem hi⟩
  obtain ⟨size, canvas, hdrawn⟩ := c.drawing_draws.2 i pass draw hpass hdraw
  obtain ⟨label, uniforms, vertices, hrecord⟩ := hdrawn.draw
  refine ⟨pass, hpass, canvas, _, label, uniforms, vertices, hrecord, ?_⟩
  have halive := (drawing_alive h).1
  have horig := halive.orig
  have hprevious := halive.previous
  have hsource := halive.source i
  rw [c.drawing_moves.1.history] at horig hprevious hsource
  have hpassAlive := drawing_passes_alive h (List.mem_of_getElem? hpass)
  refine hpassAlive.drawable halive ⟨hsource, horig, hprevious, halive.outputs i,
    Option.isSome_iff_exists.mpr ⟨_, halive.fallback⟩⟩ c.drawing_steady.inFrame ?_
  intro id hid
  by_cases hlast : i + 1 < c.passes.length
  · obtain ⟨_, t, clear, ht, _, _, hcanvas⟩ := hdrawn.inner hlast
    simp only [hcanvas, Destination.texture.injEq] at hid
    exact ⟨i, t, ht, hid.symm⟩
  · have hcanvas := (hdrawn.last (by omega)).2
    simp [hcanvas] at hid

end Chain

/-- What a pass writes to its buffers fills them, and they are of the right kinds. -/
structure CompiledPass.FillsBuffers (pass : CompiledPass) (r : Recorder) : Prop where
  vertices : ∃ b, r.buffer? pass.vertexBuffer = some b ∧ b.kind = .vertex ∧
    ∀ quad : Quad Single, quad.toBytes.length = b.data.length
  uniforms : ∃ b, r.buffer? pass.uniformBuffer = some b ∧ b.kind = .uniform ∧
    ∀ params, (pass.table.write params pass.uniforms).length = b.data.length

theorem CompiledPass.Alive.fillsBuffers {pass : CompiledPass} {lookups : List LookupTexture}
    {r : Recorder} (h : pass.Alive lookups r) : pass.FillsBuffers r := by
  obtain ⟨vb, hvb, hvertex, hquad⟩ := h.vertices
  obtain ⟨ub, hub, huniform, hblock⟩ := h.uniforms
  refine ⟨⟨vb, hvb, hvertex, fun quad => ?_⟩, ⟨ub, hub, huniform, fun params => ?_⟩⟩
  · rw [quad.length_toBytes, hquad]
  · rw [BindingTable.length_write, h.block, hblock]

theorem Chain.Rendered.idle {c : Chain Recorder} {r : Bool × Chain Recorder} (h : c.Rendered r) :
    r.2.sequencer.phase = .idle := by
  cases h <;> rfl

/-- Between calls nothing is being drawn. -/
theorem Chain.Moves.idle {c c' : Chain Recorder} (h : c.sequencer.phase = .idle)
    (hmoves : c.Moves c') : c'.sequencer.phase = .idle := by
  cases hmoves with
  | accepted | refused | asked | upset => exact h
  | rendered =>
    cases hpending : c.pending with
    | false => rw [c.render_repeated hpending]; exact h
    | true => exact (render_rendered hpending).idle

theorem Session.run_idle {s : Session Recorder} (h : s.chain.sequencer.phase = .idle)
    (calls : List (HostCall Recorder)) : (s.run calls).chain.sequencer.phase = .idle :=
  run_keeps (P := fun c => c.sequencer.phase = .idle) (fun _ _ hc hmoves => hmoves.idle hc) h calls

variable {device : Recorder} {files : FileSystem}

/-- On a device of common size that has no frame open, neither building a chain nor any call after
that meets an internal error, whatever faults come and go. Between calls nothing is being drawn, all
that the chain draws with is alive, and its passes fill their buffers; and when a frame has been
drawn, as far as it can be, all that its draws name is still alive and of the right kind. -/
theorem no_internal_errors (hdevice : device.Reachable) (hclosed : device.inFrame = false)
    (hlimit : device.maxDimension ≤ 16384) (hfiles : files.Decodes) (preset : Preset)
    (settings : ChainSettings) :
    (∀ b, Chain.build device files preset settings = .error b → b.error.kind ≠ .internal) ∧
    ∀ c₀, Chain.build device files preset settings = .ok c₀ → ∀ calls : List (HostCall Recorder),
      let c := ((Session.start c₀).run calls).chain
      c.sequencer.phase = .idle ∧ c.Sound ∧ (∀ p ∈ c.passes, p.FillsBuffers c.device) ∧
      (∀ frame e c', Chain.submit frame c = .error e c' → e.kind ≠ .internal) ∧
      (∀ drawn k e, c.render.2.report = some ⟨drawn, .aborted k e⟩ → e.kind ≠ .internal) ∧
      ∀ (i : Nat) (draw : RecordedDraw), c.drawing.device.pending[i]? = some draw →
        ∃ pass, c.passes[i]? = some pass ∧ draw.Repeatable c.drawing.device i pass := by
  have hissued := Recorder.issued_reachable hdevice
  refine ⟨fun b hb => Chain.build_error_legal hissued hlimit hfiles hb, ?_⟩
  intro c₀ hbuild calls c
  obtain ⟨_, hcontinues, hs, _⟩ := Session.run_built hdevice hbuild calls
  have hidle : c₀.sequencer.phase = .idle := by
    obtain ⟨_, _, hc⟩ := Chain.build_eq_ok hbuild
    rw [hc]
  have hstill : c.device.inFrame = false :=
    Session.run_closed ((Chain.build_grows hissued hbuild).1.inFrame.trans hclosed) calls
  obtain ⟨hwidth, hheight⟩ := Chain.build_texel hissued hlimit hfiles hbuild
  rw [← hcontinues.texel] at hwidth hheight
  refine ⟨Session.run_idle hidle calls, hs, fun p hp => (hs.passes p hp).fillsBuffers, ?_, ?_, ?_⟩
  · intro frame e c' hsubmit
    exact (Chain.submit_legal hs.pool hwidth hheight frame).of_error hsubmit
  · intro drawn k e hreport
    exact Chain.render_legal hs hstill hreport
  · intro i draw hdraw
    exact Chain.drawing_repeatable hs hdraw

theorem first_frame_meets_no_internal_error :
    ∃ c₀, Chain.build ({} : Recorder) .empty .twoStock {} = .ok c₀ ∧
      let c := ((Session.start c₀).run HostCall.firstFrame).chain
      c.render.1 = true ∧ c.sequencer.phase = .idle ∧ c.Sound ∧
      (∀ frame e c', Chain.submit frame c = .error e c' → e.kind ≠ .internal) ∧
      ∀ (i : Nat) (draw : RecordedDraw), c.drawing.device.pending[i]? = some draw →
        ∃ pass, c.passes[i]? = some pass ∧ draw.Repeatable c.drawing.device i pass := by
  obtain ⟨c₀, hbuild, _, _, _, hyes⟩ := Session.first_frame_shown
  have hfiles : FileSystem.empty.Decodes := by
    intro path image himage
    simp [FileSystem.empty] at himage
  obtain ⟨hidle, hsound, _, hsubmit, _, hdraws⟩ :=
    (no_internal_errors (.fresh 8192) rfl (by decide) hfiles .twoStock {}).2 c₀ hbuild
      HostCall.firstFrame
  exact ⟨c₀, hbuild, hyes, hidle, hsound, hsubmit, hdraws⟩

end PassChain
