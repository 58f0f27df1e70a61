import PassChain.Proofs.Building
import PassChain.Proofs.Failures
import PassChain.Proofs.RecordedFrames

/-! However a chain is used, all that it draws with stays alive. -/
namespace PassChain

open Attempt Recorder

/-- Both recorders hold the same textures, buffers and programs. -/
structure Recorder.SameResources (r r' : Recorder) : Prop where
  nextId : r'.nextId = r.nextId
  textures : r'.textures = r.textures
  buffers : r'.buffers = r.buffers
  programs : r'.programs = r.programs
  maxDimension : r'.maxDimension = r.maxDimension

theorem Recorder.Written.sameResources {r r' : Recorder} (h : r.Written r') :
    r.SameResources r' := by
  obtain ⟨_, _, rfl⟩ := h
  exact ⟨rfl, rfl, rfl, rfl, rfl⟩

theorem Recorder.sameResources_opened (r : Recorder) : r.SameResources r.opened :=
  ⟨rfl, rfl, rfl, rfl, rfl⟩

theorem Recorder.sameResources_dropped (r : Recorder) (id : ProgramId) :
    r.SameResources (r.abortFrame.bindResting id) := by
  unfold Recorder.abortFrame
  split <;> exact ⟨rfl, rfl, rfl, rfl, rfl⟩

namespace Recorder.SameResources

variable {r r' : Recorder}

theorem issued (h : r.SameResources r') (hr : r.Issued) : r'.Issued :=
  ⟨by rw [h.textures, h.nextId]; exact hr.textures, by rw [h.buffers, h.nextId]; exact hr.buffers,
    by rw [h.programs, h.nextId]; exact hr.programs⟩

theorem pool (h : r.SameResources r') {pool : TexturePool} (hpool : pool.Alive r) : pool.Alive r' :=
  hpool.of_textures (h.issued hpool.issued) h.textures h.maxDimension

theorem pass (h : r.SameResources r') {pass : CompiledPass} {lookups : List LookupTexture}
    (hpass : pass.Alive lookups r) : pass.Alive lookups r' := by
  obtain ⟨hprogram, hvertices, huniforms, hblock, hlookups⟩ := hpass
  unfold Recorder.programLabel? at hprogram
  unfold Recorder.buffer? at hvertices huniforms
  rw [← h.programs] at hprogram
  rw [← h.buffers] at hvertices huniforms
  exact ⟨hprogram, hvertices, huniforms, hblock, hlookups⟩

end Recorder.SameResources

theorem Chain.Sound.of_same {c c' : Chain Recorder} (hc : c.Sound)
    (h : c.device.SameResources c'.device) (hpool : c'.pool = c.pool)
    (hpasses : c'.passes = c.passes) : c'.Sound := by
  refine ⟨?_, ?_, ?_⟩
  · rw [hpool]; exact h.pool hc.pool
  · rw [hpool, hpasses]; exact fun p hp => h.pass (hc.passes p hp)
  · rw [hpool, hpasses]; exact hc.count

theorem Chain.Sound.passes_ne_nil {c : Chain Recorder} (h : c.Sound) : c.passes ≠ [] := by
  rw [← List.length_pos_iff, h.count]
  exact Nat.succ_pos _

theorem TexturePool.Alive.of_history {pool : TexturePool} {r : Recorder} {history : History}
    (h : pool.Alive r) (hslots : ∀ (i : Nat) (hi : i < historySlots),
      history.slots[i].texture = pool.history.slots[i].texture)
    (htexel : history.texel = pool.history.texel) : TexturePool.Alive { pool with history } r where
  issued := h.issued
  history i hi := by rw [hslots, htexel]; exact h.history i hi
  fallback := h.fallback
  lookups := h.lookups
  targets := h.targets
  distinct := h.distinct

namespace Chain

variable {c : Chain Recorder}

/-- The waiting frame leaves the textures alive wherever its drawing stops, and a failure has one
of three causes: there is nowhere to draw, the device refuses on demand, or a target cannot be made
in the size that the pass asks for. -/
theorem drawing_alive (h : c.Sound) :
    c.drawing.pool.Alive c.drawing.device ∧
    ∀ e, c.drawing.failure = some e →
      (c.viewport.width = 0 ∨ c.viewport.height = 0) ∧ c.drawing.drawn = 0 ∧ e = .emptyViewport ∨
      (c.viewport.width ≠ 0 ∧ c.viewport.height ≠ 0) ∧ (c.device.Injected e ∨
        ∃ pass, c.passes[c.drawing.drawn]? = some pass ∧ c.drawing.drawn + 1 < c.passes.length ∧
          pass.Misfit c.drawing.drawn c.pool c.device
            (c.drawing.pool.source c.pool.history.frameTextures.orig c.drawing.drawn).content
            c.viewport.size e) := by
  have hsame := c.device.sameResources_opened
  unfold drawing Sequencer.drawFrame
  rw [c.viewport_inputs]
  split
  · rename_i hempty
    exact ⟨hsame.pool h.pool, fun e he => .inl ⟨hempty, rfl, by simpa using he.symm⟩⟩
  · rename_i hempty
    obtain ⟨halive, hfail⟩ := @drawPasses_alive c.refreshTracked.inputs
      c.pool.history.frameTextures c.passes c.pool c.device.opened (hsame.pool h.pool)
      (fun p hp => hsame.pass (h.passes p hp)) rfl rfl 0 c.sequencer.phase
      (Nat.le_of_eq (by rw [h.count, Nat.zero_add]))
    refine ⟨halive, fun e he => .inr ⟨not_or.mp hempty, ?_⟩⟩
    rcases hfail e he with hinjected | ⟨i, pass, hi, hpass, hlt, hmisfit⟩
    · exact .inl hinjected
    · rw [Nat.zero_add] at hi
      subst hi
      rw [c.viewport_inputs] at hmisfit
      exact .inr ⟨pass, hpass, hlt, hmisfit.congr rfl rfl⟩

/-- So are the passes. -/
theorem drawing_passes_alive (h : c.Sound) {p : CompiledPass} (hp : p ∈ c.passes) :
    p.Alive c.drawing.pool.lookups c.drawing.device := by
  rw [c.drawing_moves.1.lookups]
  exact (c.device.sameResources_opened.pass (h.passes p hp)).steady c.drawing_steady

/-- What a frame leaves is sound, on any recorder that holds what was drawn with. -/
theorem drawn_sound (h : c.Sound) {c' : Chain Recorder}
    (hdevice : c.drawing.device.SameResources c'.device) (history : History)
    (hslots : ∀ (i : Nat) (hi : i < historySlots),
      history.slots[i].texture = c.drawing.pool.history.slots[i].texture)
    (htexel : history.texel = c.drawing.pool.history.texel)
    (hpool : c'.pool = { c.drawing.pool with history }) (hpasses : c'.passes = c.drawing.passes) :
    c'.Sound := by
  obtain ⟨hmoves, hplans⟩ := c.drawing_moves
  have hlength : c.drawing.passes.length = c.passes.length := by
    simpa using congrArg List.length hplans
  refine ⟨?_, ?_, ?_⟩
  · rw [hpool]
    exact hdevice.pool ((drawing_alive h).1.of_history hslots htexel)
  · intro p hp
    rw [hpasses] at hp
    have hplan : p.plan ∈ c.passes.map (·.plan) := hplans ▸ List.mem_map_of_mem hp
    obtain ⟨q, hq, hqp⟩ := List.mem_map.mp hplan
    rw [hpool]
    exact hdevice.pass ((drawing_passes_alive h hq).of_plan hqp.symm)
  · rw [hpool, hpasses, hlength, hmoves.length]
    exact h.count

theorem render_sound (h : c.Sound) : c.render.2.Sound := by
  cases hpending : c.pending with
  | false => rw [render_repeated c hpending]; exact ⟨h.pool, h.passes, h.count⟩
  | true =>
    obtain ⟨tracker, tracked, hc⟩ := c.refreshTracked_eq
    cases hrender : c.render with | mk answer c' =>
    have hrendered := render_rendered hpending
    rw [hrender] at hrendered
    cases hrendered with
    | refused hframe => exact h.of_same (sameResources_dropped _ _) rfl rfl
    | failed e hframe hfail =>
      exact drawn_sound h (sameResources_dropped _ _) c.drawing.pool.history (fun _ _ => rfl) rfl
        rfl rfl
    | shown hframe hfail =>
      exact drawn_sound h ⟨rfl, rfl, rfl, rfl, rfl⟩ c.drawing.pool.history.advance (fun _ _ => rfl)
        rfl rfl rfl

end Chain

/-- What a host can do to a sound chain leaves it sound. -/
theorem Chain.Moves.sound {c c' : Chain Recorder} (h : c.Sound) (hmoves : c.Moves c') :
    c'.Sound := by
  cases hmoves with
  | accepted frame device hwritten =>
    have hpool := h.pool.of_history (History.texture_resizeCurrent frame.size) rfl
    have hsame := hwritten.sameResources
    exact ⟨hsame.pool hpool, fun p hp => hsame.pass (h.passes p hp), h.count⟩
  | refused device hwritten => exact h.of_same hwritten.sameResources rfl rfl
  | asked | upset => exact h.of_same ⟨rfl, rfl, rfl, rfl, rfl⟩ rfl rfl
  | rendered => exact Chain.render_sound h

/-- A chain that starts sound stays sound. -/
theorem Session.run_sound {s : Session Recorder} (h : s.chain.Sound)
    (calls : List (HostCall Recorder)) : (s.run calls).chain.Sound :=
  run_keeps (fun _ _ hc hmoves => hmoves.sound hc) h calls

end PassChain
