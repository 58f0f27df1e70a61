import PassChain.Proofs.BufferContents
import PassChain.Proofs.Soundness

/-! However a chain is used, its passes stay in step with their buffers. -/
namespace PassChain

open Attempt Recorder

/-- Each pass of a chain is in step with its buffers, and draws from a vertex buffer of its own. -/
structure Chain.InStep (c : Chain Recorder) : Prop where
  passes : ∀ p ∈ c.passes, p.InStep c.device
  apart : (c.passes.map (·.vertexBuffer)).Nodup

theorem Chain.InStep.of_same {c c' : Chain Recorder} (h : c.InStep)
    (hbuffers : c'.device.buffers = c.device.buffers) (hpasses : c'.passes = c.passes) :
    c'.InStep where
  passes p hp := (h.passes p (hpasses ▸ hp)).of_buffer (by unfold Recorder.buffer?; rw [hbuffers])
  apart := by rw [hpasses]; exact h.apart

namespace Assembly

variable {a : Assembly Recorder} {files : FileSystem}

/-- The vertex buffer of a pass is new. -/
theorem compilePass_fresh (h : a.device.Issued) (context : BindContext) (align : Bool)
    (index : Nat) (l : LinkedPass) :
    (compilePass context align index l).Ends a
      (fun p _ => a.device.buffer? p.vertexBuffer = none) (fun _ _ => True) := by
  unfold compilePass createBuffer
  simp only [ends_bind, onDevice, ends_on, ends_modify, ends_pure]
  refine (createBuffer_ends a.device _ _ _).mono ?_ (fun _ _ _ => trivial)
  rintro id _ ⟨rfl, _⟩
  exact (ends_true _).mono_ok (fun _ _ _ => h.buffer?_next)

theorem compilePasses_apart (h : a.device.Issued) (context : BindContext) (align : Bool)
    (index : Nat) {linked : List LinkedPass}
    (hlinked : ∀ l ∈ linked, a.device.programLabel? l.id = some l.label) :
    (compilePasses context align index linked).Ends a
      (fun passes _ => (∀ p ∈ passes, a.device.buffer? p.vertexBuffer = none) ∧
        (passes.map (·.vertexBuffer)).Nodup) (fun _ _ => True) := by
  induction linked generalizing index a with
  | nil => simp [compilePasses]
  | cons l rest ih =>
    simp only [compilePasses, ends_bind, ends_pure]
    refine ((compilePass_alive h context align index (hlinked l (by simp))).and
      (compilePass_fresh h context align index l)).mono ?_ (fun _ _ _ => trivial)
    rintro p a₁ ⟨⟨hgrows, hp⟩, hfresh⟩
    have hrest (m) (hm : m ∈ rest) : a₁.device.programLabel? m.id = some m.label :=
      hgrows.programs _ _ (hlinked m (by simp [hm]))
    refine (ih hgrows.issued (index + 1) hrest).mono_ok ?_
    rintro later _ ⟨hlater, hapart⟩
    have hbefore (q) (hq : q ∈ later) : a.device.buffer? q.vertexBuffer = none := by
      rw [Option.eq_none_iff_forall_ne_some]
      intro b hb
      have hsome := hgrows.buffers _ _ hb
      simp [hlater q hq] at hsome
    have hnew : p.vertexBuffer ∉ later.map (·.vertexBuffer) := by
      intro hmem
      obtain ⟨q, hq, hsame⟩ := List.mem_map.mp hmem
      obtain ⟨b, hb, _⟩ := hp.vertices
      rw [← hsame, hlater q hq] at hb
      simp at hb
    exact ⟨List.forall_mem_cons.mpr ⟨hfresh, hbefore⟩, List.nodup_cons.mpr ⟨hnew, hapart⟩⟩

theorem build_apart (h : a.device.Issued) (preset : Preset) (settings : ChainSettings) :
    (Assembly.build files preset settings).Ends a
      (fun r _ => (r.2.2.map (·.vertexBuffer)).Nodup) (fun _ _ => True) := by
  unfold Assembly.build
  generalize (Wgsl.Bundled.text? stockName).getD "" = stockText
  simp only [ends_bind, ends_ofExcept, ends_ite, ends_throw, ends_pure, ends_modify, onDevice,
    ends_on, implies_true, and_true, true_and]
  intro _ _ _
  refine (link_alive h _ _).mono_ok ?_
  rintro _ a₁ ⟨h₁, _⟩
  refine (linkPasses_alive h₁.issued _ _).mono_ok ?_
  rintro linked a₂ ⟨h₂, hlinked⟩
  refine (TexturePool.create_alive h₂.issued _ _ _).mono_ok ?_
  rintro pool r₃ ⟨h₃, hpool⟩
  refine (loadLookups_alive hpool _).mono_ok ?_
  rintro pool' a₄ ⟨h₄, hpool'⟩
  exact (compilePasses_apart h₄.issued _ _ 0
    fun l hl => (h₃.trans h₄).programs _ _ (hlinked l hl)).mono_ok (fun _ _ hpasses => hpasses.2)

end Assembly

namespace Chain

variable {device : Recorder} {files : FileSystem} {preset : Preset} {settings : ChainSettings}
  {c : Chain Recorder}

/-- A new pass remembers nothing. -/
theorem build_inStep (hdevice : device.Issued) (h : build device files preset settings = .ok c) :
    c.InStep := by
  have hfrom := build_builtFrom h
  obtain ⟨a, ha, _⟩ := build_eq_ok h
  refine ⟨?_, (Assembly.build_apart hdevice preset settings).of_ok ha⟩
  intro p hp
  obtain ⟨i, hi⟩ := List.getElem?_of_mem hp
  obtain ⟨pass, hpass⟩ : ∃ pass, preset.passes[i]? = some pass := by
    refine ⟨_, List.getElem?_eq_getElem ?_⟩
    rw [← hfrom.count]
    exact (List.getElem?_eq_some_iff.mp hi).1
  obtain ⟨l, _, hcompiled⟩ := hfrom.passes i pass p hpass hi
  refine ⟨?_, ?_⟩
  · intro key hkey
    simp [hcompiled.geometry] at hkey
  · intro params
    rw [hcompiled.uniforms]

theorem drawing_inStep (hs : c.Sound) (h : c.InStep) :
    (∀ p ∈ c.drawing.passes, p.InStep c.drawing.device) ∧
      ∀ i pass draw, c.passes[i]? = some pass → c.drawing.device.pending[i]? = some draw →
        FilledDraw c.refreshTracked.inputs c.pool.history.frameTextures c.drawing.pool
          c.passes.length i pass draw := by
  have hopened (p) (hp : p ∈ c.passes) : p.InStep c.device.opened :=
    (h.passes p hp).of_buffer rfl
  unfold drawing Sequencer.drawFrame
  split
  · exact ⟨hopened, fun i pass draw _ hdraw => by simp [Recorder.opened] at hdraw⟩
  · obtain ⟨hsteps, draws, hpending, hfilled⟩ := @drawPasses_fills c.refreshTracked.inputs
      c.pool.history.frameTextures c.passes c.pool c.device.opened c.pool.lookups
      (fun p hp => c.device.sameResources_opened.pass (hs.passes p hp)) hopened h.apart 0
        c.sequencer.phase
    simp only [Nat.zero_add] at hfilled
    refine ⟨hsteps, fun i pass draw hpass hdraw => hfilled i pass draw hpass ?_⟩
    rw [← hdraw]
    exact congrArg (·[i]?) hpending.symm

/-- Whether a frame is shown or dropped, its passes stay in step. -/
theorem render_inStep (hs : c.Sound) (h : c.InStep) : c.render.2.InStep := by
  cases hpending : c.pending with
  | false => rw [render_repeated c hpending]; exact h.of_same rfl rfl
  | true =>
    obtain ⟨hsteps, _⟩ := drawing_inStep hs h
    have hapart : (c.drawing.passes.map (·.vertexBuffer)).Nodup := by
      have hplans := congrArg (List.map (·.vertexBuffer)) c.drawing_moves.2
      simp only [List.map_map] at hplans
      exact hplans ▸ h.apart
    have hdrawn : ({ c with device := c.drawing.device, passes := c.drawing.passes } :
        Chain Recorder).InStep := ⟨hsteps, hapart⟩
    cases hrender : c.render with | mk answer c' =>
    have hrendered := render_rendered hpending
    rw [hrender] at hrendered
    cases hrendered with
    | refused => exact h.of_same (sameResources_dropped _ _).buffers rfl
    | failed => exact hdrawn.of_same (sameResources_dropped _ _).buffers rfl
    | shown => exact hdrawn.of_same rfl rfl

end Chain

/-- So do passes whose host does anything else. -/
theorem Chain.Moves.inStep {c c' : Chain Recorder} (hs : c.Sound) (h : c.InStep)
    (hmoves : c.Moves c') : c'.InStep := by
  cases hmoves with
  | accepted _ _ hwritten | refused _ hwritten => exact h.of_same hwritten.sameResources.buffers rfl
  | asked | upset => exact h.of_same rfl rfl
  | rendered => exact Chain.render_inStep hs h

/-- A chain whose passes start in step keeps them in step, whatever faults come and go. -/
theorem Session.run_inStep {s : Session Recorder} (hs : s.chain.Sound) (h : s.chain.InStep)
    (calls : List (HostCall Recorder)) : (s.run calls).chain.InStep :=
  (run_keeps (P := fun c => c.Sound ∧ c.InStep)
    (fun _ _ hc hmoves => ⟨hmoves.sound hc.1, hmoves.inStep hc.1 hc.2⟩) ⟨hs, h⟩ calls).2

/-- What holds of a chain that has been built, however it has been used. -/
theorem Session.run_built {device : Recorder} {files : FileSystem} {preset : Preset}
    {settings : ChainSettings} {c₀ : Chain Recorder} (hdevice : device.Reachable)
    (hbuild : Chain.build device files preset settings = .ok c₀)
    (calls : List (HostCall Recorder)) :
    let c := ((start c₀).run calls).chain
    BuiltFrom Recorder files preset settings c₀.pool c₀.passes ∧ c₀.Continues c ∧
      c.Sound ∧ c.InStep := by
  have hissued := Recorder.issued_reachable hdevice
  have hsound := (Chain.build_grows hissued hbuild).2
  refine ⟨Chain.build_builtFrom hbuild, (start c₀).run_continues calls, ?_, ?_⟩
  · exact run_sound hsound calls
  · exact run_inStep hsound (Chain.build_inStep hissued hbuild) calls

end PassChain
