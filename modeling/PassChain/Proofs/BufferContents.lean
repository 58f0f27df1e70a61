import PassChain.Proofs.Failures
import PassChain.Proofs.UniformWrites

/-! What the buffers of a pass hold when it is drawn. -/
namespace PassChain

open Attempt Recorder

/-- The size of the picture that a draw makes. -/
def RecordedDraw.size (d : RecordedDraw) : Size := ⟨d.viewport.width, d.viewport.height⟩

/-- What a pass remembers of its last frames agrees with its buffers: if it remembers sizes, its
vertex buffer holds their quad, and what is left of old values in its block does not show. -/
structure CompiledPass.InStep (pass : CompiledPass) (r : Recorder) : Prop where
  quad : ∀ key, pass.geometry.key = some key → ∃ b, r.buffer? pass.vertexBuffer = some b ∧
    b.data = (Quad.build key.content key.allocated key.output pass.geometry.align).toBytes
  block : ∀ params, pass.table.write params pass.uniforms =
    pass.table.write params (List.replicate pass.table.uniformSize 0)

namespace CompiledPass

variable {pass : CompiledPass} {r r' : Recorder}

theorem InStep.of_buffer (h : pass.InStep r)
    (hbuffer : r'.buffer? pass.vertexBuffer = r.buffer? pass.vertexBuffer) : pass.InStep r' where
  quad key hkey := by rw [hbuffer]; exact h.quad key hkey
  block := h.block

theorem InStep.withWritten (h : pass.InStep r) (params : FrameParams) :
    (pass.withWritten params).InStep r where
  quad := h.quad
  block params' := (BindingTable.write_write _ _ _ _).trans (h.block params')

/-- The two buffers of a pass are of different kinds. -/
theorem Alive.ne_uniformBuffer {other : CompiledPass} {lookups lookups' : List LookupTexture}
    (h : pass.Alive lookups r) (hother : other.Alive lookups' r) :
    pass.vertexBuffer ≠ other.uniformBuffer := by
  intro hsame
  obtain ⟨b, hb, hvertex, _⟩ := h.vertices
  obtain ⟨b', hb', huniform, _⟩ := hother.uniforms
  rw [hsame, hb', Option.some.injEq] at hb
  rw [hb, hvertex] at huniform
  simp at huniform

end CompiledPass

namespace Recorder

variable {r : Recorder}

/-- A buffer changes only when it is written to. -/
theorem buffer?_kept (id : BufferId) (b : Option Buffer) (draws : DrawCall → Prop) :
    KeptByPasses (· ≠ id) draws fun r : Recorder => r.buffer? id = b where
  create desc r hr := (createTexture_ends r desc).mono
    (fun _ _ h => by rw [h.2.1]; exact hr) (fun _ _ h => by rw [h.1]; exact hr)
  release other r hr := by
    simp only [GpuDevice.releaseTexture, releaseTexture]
    split <;> exact hr
  upload other bytes r hne hr := by
    refine (writeBuffer_ends r other bytes).mono ?_ (fun _ _ h => by rw [h.1]; exact hr)
    rintro _ _ ⟨_, _, _, h⟩
    rw [h, buffer?_withBytes, if_neg (Ne.symm hne), hr]
  draw call r _ hr := by
    refine (draw_ends r call).mono ?_ (fun _ _ h => by rw [h.1]; exact hr)
    rintro _ _ ⟨_, _, _, _, _, _, h⟩
    rw [h]
    exact hr

/-- Bytes that fill a buffer are what it holds. -/
theorem data_withBytes {id : BufferId} {b : Buffer} {bytes : List UInt8}
    (hb : r.buffer? id = some b) (hlen : b.data.length = bytes.length) :
    ∃ b', (r.withBytes id b bytes).buffer? id = some b' ∧ b'.data = bytes := by
  refine ⟨_, by rw [buffer?_withBytes, if_pos rfl, hb]; rfl, ?_⟩
  rw [← hlen, List.drop_length, List.append_nil]

end Recorder

namespace PassState

variable {inputs : FrameInputs} {textures : FrameTextures} {index : Nat} {final : Bool}
  {source : TextureState} {outputs : List TextureState} {s t : PassState Recorder}
  {lookups : List LookupTexture}

theorem Placed.size_rect {pass : CompiledPass} {pool pool' : TexturePool} {size : Size}
    {mvp : Matrix4 Single} {c : Canvas}
    (h : Placed inputs index final source pass pool pool' size mvp c) :
    size = ⟨c.rect.width, c.rect.height⟩ := by
  cases final with
  | true =>
    obtain ⟨_, rfl, rfl⟩ := h.last rfl
    rfl
  | false =>
    obtain ⟨_, _, _, _, _, _, _, rfl⟩ := h.inner rfl
    rfl

/-- After an upload that succeeds the pass remembers the sizes that it was asked for; after one that
fails it remembers none. -/
theorem uploadQuad_inStep {key : QuadKey} (hpass : s.pass.Alive lookups s.device)
    (h : s.pass.InStep s.device) :
    (uploadQuad key).Ends s
      (fun _ t => t.pass.InStep t.device ∧ t.pass.geometry.key = some key ∧
        t.pass.geometry.align = s.pass.geometry.align)
      (fun _ t => t.pass.InStep t.device) := by
  by_cases hkey : s.pass.geometry.key = some key
  · have hhit : s.pass.geometry.update key = (false, s.pass.geometry) := if_pos hkey
    unfold uploadQuad
    simp only [ends_bind, ends_get, ends_set, hhit, Bool.false_eq_true, if_false, ends_pure]
    exact ⟨h, hkey, trivial⟩
  · have hmiss : s.pass.geometry.update key = (true, { s.pass.geometry with
        key := some key
        quad := Quad.build key.content key.allocated key.output s.pass.geometry.align }) :=
      if_neg hkey
    obtain ⟨b, hb, _, hlen⟩ := hpass.vertices
    unfold uploadQuad
    simp only [ends_bind, ends_get, ends_set, hmiss, if_true, ends_tryCatch, ends_modify,
      ends_throw, onDevice, ends_on]
    refine (writeBuffer_ends _ _ _).mono ?_ ?_
    · rintro _ r ⟨b', hb', _, hr⟩
      obtain rfl : b' = b := Option.some.inj (hb'.symm.trans hb)
      subst hr
      refine ⟨⟨?_, h.block⟩, trivial, trivial⟩
      intro key' hkey'
      obtain rfl : key = key' := Option.some.inj hkey'
      exact data_withBytes hb (hlen.trans (Quad.length_toBytes _).symm)
    · rintro e r ⟨rfl, _⟩
      exact ⟨fun _ hkey' => absurd hkey' (Option.some_ne_none _).symm, h.block⟩

/-- A pass in step writes its block over the old one and is drawn with both buffers as they should
be. Its vertex buffer stays as it is. -/
theorem writeBlock_draws {pass : CompiledPass} {r : Recorder} {key : QuadKey}
    (hpass : pass.Alive lookups r) (h : pass.InStep r) (hkey : pass.geometry.key = some key)
    (p : FrameParams) (canvas : Canvas) :
    (do
      GpuDevice.writeBuffer pass.uniformBuffer (pass.table.write p pass.uniforms)
      GpuDevice.draw (pass.call index canvas p) : Attempt Recorder Unit).Ends r
      (fun _ r' => r'.buffer? pass.vertexBuffer = r.buffer? pass.vertexBuffer ∧
        ∃ label, r'.pending = r.pending ++ [Recorder.record (pass.call index canvas p) label
          (pass.table.write p (List.replicate pass.table.uniformSize 0))
          (Quad.build key.content key.allocated key.output pass.geometry.align).toBytes])
      (fun _ r' => r'.buffer? pass.vertexBuffer = r.buffer? pass.vertexBuffer) := by
  simp only [ends_bind]
  refine (writeBuffer_ends _ _ _).mono ?_ (fun _ _ he => by rw [he.1])
  rintro _ d ⟨b, hb, _, rfl⟩
  have hvertices : (r.withBytes pass.uniformBuffer b (pass.table.write p pass.uniforms)).buffer?
      pass.vertexBuffer = r.buffer? pass.vertexBuffer := by
    rw [buffer?_withBytes, if_neg (hpass.ne_uniformBuffer hpass)]
  refine (Recorder.draw_ends _ _).mono ?_ (fun _ _ he => he.1 ▸ hvertices)
  rintro _ e ⟨label, ub, vb, _, hub, hvb, rfl⟩
  refine ⟨hvertices, label, ?_⟩
  obtain ⟨qb, hqb, hquad⟩ := h.quad key hkey
  obtain rfl : qb = vb := Option.some.inj (hqb.symm.trans (hvertices.symm.trans hvb))
  obtain ⟨b', hb', _, hlen⟩ := hpass.uniforms
  obtain rfl : b' = b := Option.some.inj (hb'.symm.trans hb)
  have hfull : b'.data.length = (pass.table.write p pass.uniforms).length := by
    rw [hlen, BindingTable.length_write, hpass.block]
  obtain ⟨fb, hfb, hdata⟩ := data_withBytes hb hfull
  obtain rfl : fb = ub := Option.some.inj (hfb.symm.trans hub)
  rw [← h.block p, ← hdata, ← hquad]
  rfl

/-- A pass that is drawn finds the quad of its own sizes and the block of its own frame. However the
drawing ends, the pass stays in step with its buffers. -/
theorem draw_fills (hpass : s.pass.Alive lookups s.device) (h : s.pass.InStep s.device) :
    (draw inputs textures index final source outputs).Ends s
      (fun _ t => t.pass.InStep t.device ∧ ∃ draw, t.device.pending = s.device.pending ++ [draw] ∧
        draw.vertices = (Quad.build source.content source.allocated draw.size
          s.pass.geometry.align).toBytes ∧
        draw.uniforms = s.pass.table.write
          (inputs.params textures s.pool.fallback source outputs final draw.size)
          (List.replicate s.pass.table.uniformSize 0))
      (fun _ t => t.pass.InStep t.device) := by
  have hsteady := Recorder.steady_kept s.device (fun _ => True) (fun _ => False)
  have hpending := Recorder.pending_kept s.device.pending (fun _ => True)
  have hbuffer := Recorder.buffer?_kept s.pass.vertexBuffer
    (s.device.buffer? s.pass.vertexBuffer) (fun _ => False)
  unfold draw
  simp only [ends_bind, ends_get, ends_set, onDevice, ends_on, ends_pure]
  refine (canvas_ends.and ((canvas_keeps hsteady (.refl _)).and
    ((canvas_keeps hpending rfl).and (canvas_keeps hbuffer rfl)))).mono ?_ ?_
  · rintro r t ⟨⟨hpass', hr⟩, hts, htp, htb⟩
    have htalive : t.pass.Alive lookups t.device := hpass' ▸ hpass.steady hts
    have htstep : t.pass.InStep t.device := hpass' ▸ h.of_buffer htb
    refine ((uploadQuad_inStep htalive htstep).and (uploadQuad_ends.and
      ((uploadQuad_keeps hsteady.upload trivial hts).and
        (uploadQuad_keeps hpending.upload trivial htp)))).mono ?_ (fun _ _ he => he.1)
    rintro _ u ⟨⟨hustep, hkey, halign⟩, ⟨hpool, hplan⟩, hus, hup⟩
    rw [hpass'] at hplan halign
    have hwritten (p : FrameParams) : (u.pass.withWritten p).InStep u.device := hustep.withWritten p
    refine ends_bind.mp ((writeBlock_draws ((hpass.steady hus).of_plan hplan) hustep hkey _
      r.2.2).mono ?_ (fun _ d hd => (hwritten _).of_buffer hd))
    rintro _ d ⟨hvertices, label, hdraw⟩
    refine ⟨(hwritten _).of_buffer hvertices, _, hup ▸ hdraw, ?_, ?_⟩
    · rw [← halign]
      exact congrArg (fun size => (Quad.build _ _ size _).toBytes) hr.size_rect
    · have htable := CompiledPass.table_of_plan hplan
      have hfallback : u.pool.fallback = s.pool.fallback := by
        rw [hpool]
        exact hr.retargeted.fallback
      rw [hr.mvp, hfallback, htable, hr.size_rect]
      rfl
  · rintro e t ⟨⟨hpass', _⟩, _, _, htb⟩
    rw [hpass']
    exact h.of_buffer htb

end PassState

/-- Pass `i` of `count` was drawn with the quad of its sizes and the block of its frame, in a frame
that left `pool`. -/
structure FilledDraw (inputs : FrameInputs) (textures : FrameTextures) (pool : TexturePool)
    (count i : Nat) (pass : CompiledPass) (draw : RecordedDraw) : Prop where
  vertices : draw.vertices = (Quad.build (pool.source textures.orig i).content
    (pool.source textures.orig i).allocated draw.size pass.geometry.align).toBytes
  uniforms : draw.uniforms = pass.table.write (inputs.params textures pool.fallback
      (pool.source textures.orig i) (pool.outputs i) (i + 1 == count) draw.size)
    (List.replicate pass.table.uniformSize 0)

section

variable {inputs : FrameInputs} {textures : FrameTextures} {passes : List CompiledPass}
  {pool : TexturePool} {device : Recorder} {lookups : List LookupTexture}

/-- Drawing a pass leaves other passes in step. -/
theorem CompiledPass.InStep.draw {pass : CompiledPass} {s : PassState Recorder}
    (h : pass.InStep s.device) (hpass : pass.Alive lookups s.device)
    (hdrawn : s.pass.Alive lookups s.device) (hne : pass.vertexBuffer ≠ s.pass.vertexBuffer)
    (index : Nat) (final : Bool) (source : TextureState) (outputs : List TextureState) :
    (PassState.draw inputs textures index final source outputs).Ends s
      (fun _ t => pass.InStep t.device) (fun _ t => pass.InStep t.device) := by
  have hbuffer := Recorder.buffer?_kept pass.vertexBuffer (s.device.buffer? pass.vertexBuffer)
    (fun _ => True)
  exact (PassState.draw_keeps hbuffer ⟨hne.symm, (hpass.ne_uniformBuffer hdrawn).symm⟩
    (fun _ => trivial) rfl).mono (fun _ _ hb => h.of_buffer hb) (fun _ _ hb => h.of_buffer hb)

/-- So do several. -/
theorem CompiledPass.InStep.drawPasses {pass : CompiledPass} (h : pass.InStep device)
    (hpass : pass.Alive lookups device) (hpasses : ∀ p ∈ passes, p.Alive lookups device)
    (hother : pass.vertexBuffer ∉ passes.map (·.vertexBuffer)) (index : Nat)
    (source : TextureState) (outputs : List TextureState) (phase : Phase) :
    pass.InStep
      (PassChain.drawPasses inputs textures index source outputs phase passes pool device).device
        := by
  have hbuffer := Recorder.buffer?_kept pass.vertexBuffer (device.buffer? pass.vertexBuffer)
    (fun _ => True)
  refine h.of_buffer (drawPasses_keeps hbuffer ?_ (fun _ => trivial) rfl _ _ _ _)
  intro p hp
  refine ⟨fun hsame => hother (hsame ▸ List.mem_map_of_mem hp), ?_⟩
  exact (hpass.ne_uniformBuffer (hpasses p hp)).symm

/-- Passes that are in step with buffers of their own are drawn with the right contents, and stay in
step. -/
theorem drawPasses_fills (hpasses : ∀ p ∈ passes, p.Alive lookups device)
    (hstep : ∀ p ∈ passes, p.InStep device) (hapart : (passes.map (·.vertexBuffer)).Nodup)
    (index : Nat) (phase : Phase) :
    let d := drawPasses inputs textures index (pool.source textures.orig index)
      (pool.outputs index) phase passes pool device
    (∀ p ∈ d.passes, p.InStep d.device) ∧
      ∃ draws, d.device.pending = device.pending ++ draws ∧ ∀ i pass draw,
        passes[i]? = some pass → draws[i]? = some draw →
          FilledDraw inputs textures d.pool (index + passes.length) (index + i) pass draw := by
  induction passes generalizing index phase pool device with
  | nil => simp [drawPasses]
  | cons pass rest ih =>
    have hpass := hpasses pass (by simp)
    have hrest (p) (hp : p ∈ rest) : p.Alive lookups device := hpasses p (by simp [hp])
    obtain ⟨hfirst, hlater⟩ := List.nodup_cons.mp hapart
    have hfills : (PassState.draw inputs textures index rest.isEmpty
        (pool.source textures.orig index) (pool.outputs index)).Ends ⟨device, pool, pass⟩ _ _ :=
      (PassState.draw_fills hpass (hstep pass (by simp))).and PassState.draw_records
    have hkept (p) (hp : p ∈ rest) : (PassState.draw inputs textures index rest.isEmpty
        (pool.source textures.orig index) (pool.outputs index)).Ends ⟨device, pool, pass⟩
        (fun _ t => p.InStep t.device) (fun _ t => p.InStep t.device) :=
      (hstep p (by simp [hp])).draw (hrest p hp) hpass
        (fun hsame => hfirst (List.mem_map.mpr ⟨p, hp, hsame⟩)) _ _ _ _
    unfold drawPasses
    simp only
    split
    · rename_i e t ht
      obtain ⟨hin, hsteady, hpending⟩ := hfills.of_error ht
      refine ⟨List.forall_mem_cons.mpr ⟨hin, fun p hp => (hkept p hp).of_error ht⟩, [], ?_, ?_⟩
      · rw [List.append_nil]
        exact hpending
      · intro i p draw _ hdraw
        simp at hdraw
    · rename_i produced t ht
      obtain ⟨⟨hin, draw, hpending, hvertices, huniforms⟩, size, canvas, _, _, _, rfl, hr⟩ :=
        hfills.of_ok ht
      have hst := hr.placed.retargeted
      have hfilled (pool' : TexturePool) (count : Nat)
          (hfinal : rest.isEmpty = (index + 1 == count)) (hpool : pool.Retargeted pool' index) :
          FilledDraw inputs textures pool' count index pass draw := by
        refine ⟨?_, ?_⟩
        · rw [hpool.source (Nat.le_refl _)]
          exact hvertices
        · rw [hpool.source (Nat.le_refl _), hpool.outputs (Nat.le_refl _), hpool.fallback, ← hfinal]
          exact huniforms
      cases rest with
      | nil =>
        exact ⟨List.forall_mem_singleton.mpr hin, [draw], hpending,
          forall_getElem?_cons (hfilled _ _ (by simp) hst) (by simp)⟩
      | cons next rest =>
        rw [hr.placed.source_next textures.orig, hr.placed.outputs_next]
        have hdrest (p) (hp : p ∈ next :: rest) : p.Alive lookups t.device :=
          (hrest p hp).steady hr.steady
        obtain ⟨hsteps, draws, hpending', hdraws⟩ := ih hdrest
          (fun p hp => (hkept p hp).of_ok ht) hlater (index + 1) _
        have hhead : t.pass.vertexBuffer ∉ (next :: rest).map (·.vertexBuffer) := by
          rw [CompiledPass.vertexBuffer_of_plan hr.plan]
          exact hfirst
        refine ⟨List.forall_mem_cons.mpr ⟨?_, hsteps⟩, draw :: draws, ?_,
          forall_getElem?_cons ?_ ?_⟩
        · exact hin.drawPasses ((hpass.steady hr.steady).of_plan hr.plan) hdrest hhead _ _ _ _
        · rw [hpending', hpending, List.append_assoc]
          rfl
        · exact hfilled _ _ (beq_eq_false_iff_ne.mpr (by simp)).symm
            (hst.trans (drawPasses_moves _ _ _ _).1 (Nat.le_succ index))
        · intro i p draw' hp hdraw
          simpa [Nat.add_assoc, Nat.add_comm 1] using hdraws i p draw' hp hdraw

end

end PassChain
