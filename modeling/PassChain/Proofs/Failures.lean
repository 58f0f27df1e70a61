import PassChain.Proofs.Resources

/-! Why a pass can fail on a recorder that holds all that the pass needs. -/
namespace PassChain

open Attempt Recorder

theorem Recorder.Injected.of_sameFrames {r r' : Recorder} {e : Error} (h : r'.Injected e)
    (hr : r.SameFrames r') : r.Injected e := by
  unfold Recorder.Injected at h ⊢
  rwa [hr.allocationFaults, hr.uploadFaults] at h

/-- Why `pass` has no size that a target can have, drawn from `source` for `viewport`. -/
def CompiledPass.Misfit (pass : CompiledPass) (index : Nat) (pool : TexturePool) (r : Recorder)
    (source viewport : Size) (e : Error) : Prop :=
  (∃ fault, pass.scale.resolve source viewport = .error fault ∧ e = .scale fault) ∨
    ∃ size, pass.scale.resolve source viewport = .ok size ∧ pool.Misfit r index size e

theorem CompiledPass.Misfit.congr {pass : CompiledPass} {index : Nat} {pool pool' : TexturePool}
    {r r' : Recorder} {source viewport : Size} {e : Error}
    (h : pass.Misfit index pool r source viewport e) (hpow2 : pool.pow2 = pool'.pow2)
    (hlimit : r.maxDimension = r'.maxDimension) :
    pass.Misfit index pool' r' source viewport e := by
  have htexel (size) : pool'.texelSize? size = pool.texelSize? size := by
    simp only [TexturePool.texelSize?, hpow2]
  refine h.imp_right ?_
  rintro ⟨size, hsize, hmisfit⟩
  refine ⟨size, hsize, ?_⟩
  cases hmisfit with
  | overflow hnone => exact .overflow ((htexel size).trans hnone)
  | unfit texel hsome hunfit he =>
    exact .unfit texel ((htexel size).trans hsome) (fun hf => hunfit (hf.of_limit hlimit)) he

/-- An upload that fits its buffer fails only on demand. -/
theorem TexturePool.Alive.writeBuffer {pool : TexturePool} {r : Recorder} (h : pool.Alive r)
    {id : BufferId} {b : Buffer} (hb : r.buffer? id = some b) {bytes : List UInt8}
    (hle : bytes.length ≤ b.data.length) :
    (GpuDevice.writeBuffer id bytes).Ends r (fun _ r' => pool.Alive r')
      (fun e r' => pool.Alive r' ∧ r.Injected e) := by
  refine (writeBuffer_ends r id bytes).mono ?_ ?_
  · rintro _ r' ⟨b, _, _, hr'⟩
    subst hr'
    exact h.of_textures (h.issued.withBytes id b bytes) rfl rfl
  · rintro e r' ⟨hr', he⟩
    obtain ⟨pattern, hp, he⟩ := he b hb hle
    exact ⟨hr' ▸ h, .inr ⟨_, pattern, hp, he⟩⟩

namespace PassState

variable {inputs : FrameInputs} {textures : FrameTextures} {index : Nat} {final : Bool}
  {source : TextureState} {outputs : List TextureState} {s t : PassState Recorder}

theorem canvas_alive (h : s.pool.Alive s.device)
    (hindex : final = false → index < s.pool.targets.length) :
    (canvas inputs index final source).Ends s (fun _ t => t.pool.Alive t.device)
      (fun e t => t.pool.Alive t.device ∧ (s.device.Injected e ∨ final = false ∧
        s.pass.Misfit index s.pool s.device source.content inputs.viewport.size e)) := by
  unfold canvas
  cases final with
  | true => exact h
  | false =>
    simp only [Bool.false_eq_true, if_false, ends_bind, ends_get, ends_ofExcept, onDevice, ends_on]
    refine ⟨?_, fun fault hfault => ⟨h, .inr ⟨trivial, .inl ⟨fault, hfault, rfl⟩⟩⟩⟩
    intro size hsize
    refine (h.ensureTarget index size s.pass.format).mono (fun _ _ h' => h') ?_
    rintro e r ⟨hr, he⟩
    refine ⟨hr ▸ h, ?_⟩
    rcases he with hlt | hinjected | hmisfit
    · exact absurd (hindex rfl) (Nat.not_lt.mpr hlt)
    · exact .inl hinjected
    · exact .inr ⟨trivial, .inr ⟨size, hsize, hmisfit⟩⟩

theorem uploadQuad_alive {key : QuadKey} (h : s.pool.Alive s.device)
    (hpass : s.pass.Alive s.pool.lookups s.device) :
    (uploadQuad key).Ends s (fun _ t => t.pool.Alive t.device)
      (fun e t => t.pool.Alive t.device ∧ s.device.Injected e) := by
  obtain ⟨b, hb, _, hlen⟩ := hpass.vertices
  unfold uploadQuad
  simp only [ends_bind, ends_get, ends_set, ends_ite, ends_tryCatch, ends_modify, ends_throw,
    onDevice, ends_on, ends_pure]
  exact ⟨fun _ => h.writeBuffer hb (Nat.le_of_eq (by rw [hlen, Quad.length_toBytes])), fun _ => h⟩

/-- A pass whose resources are alive fails only on demand, or because it has no usable size. Either
way the textures stay alive. -/
theorem draw_alive (h : s.pool.Alive s.device) (hpass : s.pass.Alive s.pool.lookups s.device)
    (hframe : s.device.inFrame = true) (hindex : final = false → index < s.pool.targets.length)
    (htextures : textures = s.pool.history.frameTextures)
    (hsource : source = s.pool.source textures.orig index)
    (houtputs : outputs = s.pool.outputs index) :
    (draw inputs textures index final source outputs).Ends s
      (fun _ t => t.pool.Alive t.device)
      (fun e t => t.pool.Alive t.device ∧ (s.device.Injected e ∨ final = false ∧
        s.pass.Misfit index s.pool s.device source.content inputs.viewport.size e)) := by
  have hsteady := Recorder.steady_kept s.device (fun _ => True) (fun _ => True)
  unfold draw
  simp only [ends_bind, ends_get, ends_set, onDevice, ends_on, ends_pure]
  refine ((canvas_alive h hindex).and (canvas_ends.and (canvas_keeps hsteady (.refl _)))).mono
    ?_ (fun e t he => he.1)
  rintro r t ⟨ht, ⟨htpass, hplaced⟩, hts⟩
  have htalive : t.pass.Alive t.pool.lookups t.device := by
    rw [htpass, hplaced.retargeted.lookups]
    exact hpass.steady hts
  refine ((uploadQuad_alive ht htalive).and
    (uploadQuad_ends.and (uploadQuad_keeps hsteady.upload trivial hts))).mono ?_
    (fun e u h => ⟨h.1.1, .inl (h.1.2.of_sameFrames hts.toSameFrames)⟩)
  rintro _ u ⟨hu, ⟨hupool, huplan⟩, hus⟩
  rw [htpass] at huplan
  have hualive : u.pass.Alive u.pool.lookups u.device := by
    rw [hupool, hplaced.retargeted.lookups]
    exact (hpass.steady hus).of_plan huplan
  obtain ⟨ub, hub, _, hlen⟩ := hualive.uniforms
  have hle (p : FrameParams) : (u.pass.table.write p u.pass.uniforms).length ≤ ub.data.length :=
    Nat.le_of_eq (by rw [BindingTable.length_write, hualive.block, hlen])
  refine ((hu.writeBuffer hub (hle _)).and (hsteady.upload _ _ _ trivial hus)).mono ?_
    (fun e d h => ⟨h.1.1, .inl (h.1.2.of_sameFrames hus.toSameFrames)⟩)
  rintro _ d ⟨hd, hds⟩
  refine (Recorder.draw_ends _ _).mono ?_ (fun _ e he => absurd ?_ he.2)
  · rintro _ e ⟨_, _, _, _, _, _, he⟩
    subst he
    exact hd.of_textures ⟨hd.issued.textures, hd.issued.buffers, hd.issued.programs⟩ rfl rfl
  · have hdalive : u.pass.Alive u.pool.lookups d := by
      rw [hupool, hplaced.retargeted.lookups]
      exact (hpass.steady hds).of_plan huplan
    have hpool : s.pool.Retargeted u.pool index := by rw [hupool]; exact hplaced.retargeted
    have hinputs : textures = u.pool.history.frameTextures := by rw [hpool.history, htextures]
    have hfrom := hd.source index
    have hafter := hd.outputs index
    rw [← hinputs, hpool.source (Nat.le_refl _), ← hsource] at hfrom
    rw [hpool.outputs (Nat.le_refl _), ← houtputs] at hafter
    refine hdalive.drawable hd ⟨hfrom, ?_, ?_, hafter, ?_⟩ (hds.inFrame.trans hframe) ?_
    · rw [hinputs]; exact hd.orig
    · rw [hinputs]; exact hd.previous
    · simp [hd.fallback]
    · intro id hid
      cases final with
      | true => simp [(hplaced.last rfl).2.2] at hid
      | false =>
        obtain ⟨hlt, _, t', _, hp, _, _, hcanvas⟩ := hplaced.inner rfl
        have ht' : u.pool.target? index = some t' := by
          rw [hupool, hp, TexturePool.target?_withTarget hlt, if_pos rfl]
        simp only [hcanvas, Destination.texture.injEq] at hid
        exact ⟨index, t', ht', hid.symm⟩

end PassState

section

variable {inputs : FrameInputs} {textures : FrameTextures} {passes : List CompiledPass}
  {pool : TexturePool} {device : Recorder}

/-- The textures stay alive while passes are drawn, and what stops the passes is a refusal on
demand or a pass without a usable size. -/
theorem drawPasses_alive (h : pool.Alive device)
    (hpasses : ∀ p ∈ passes, p.Alive pool.lookups device) (hframe : device.inFrame = true)
    (htextures : textures = pool.history.frameTextures) (index : Nat) (phase : Phase)
    (hcount : index + passes.length ≤ pool.targets.length + 1) :
    let d := drawPasses inputs textures index (pool.source textures.orig index)
      (pool.outputs index) phase passes pool device
    d.pool.Alive d.device ∧ ∀ e, d.failure = some e → device.Injected e ∨
      ∃ i pass, d.drawn = index + i ∧ passes[i]? = some pass ∧ i + 1 < passes.length ∧
        pass.Misfit d.drawn pool device (d.pool.source textures.orig d.drawn).content
          inputs.viewport.size e := by
  induction passes generalizing index phase pool device with
  | nil => exact ⟨h, nofun⟩
  | cons pass rest ih =>
    have hindex : rest.isEmpty = false → index < pool.targets.length := by
      cases rest <;> simp at hcount ⊢; omega
    have hkept : (PassState.draw inputs textures index rest.isEmpty
        (pool.source textures.orig index) (pool.outputs index)).Ends ⟨device, pool, pass⟩ _ _ :=
      PassState.draw_alive h (hpasses pass (by simp)) hframe hindex htextures rfl rfl
    have hmoves : (PassState.draw inputs textures index rest.isEmpty
        (pool.source textures.orig index) (pool.outputs index)).Ends ⟨device, pool, pass⟩ _ _ :=
      PassState.draw_ends
    have hrecords : (PassState.draw inputs textures index rest.isEmpty
        (pool.source textures.orig index) (pool.outputs index)).Ends ⟨device, pool, pass⟩ _ _ :=
      PassState.draw_records
    unfold drawPasses
    simp only
    split
    · rename_i e t ht
      obtain ⟨halive, he⟩ := hkept.of_error ht
      have hpool := (hmoves.of_error ht).2
      refine ⟨halive, ?_⟩
      intro e' he'
      simp only [Option.some.injEq] at he'
      subst he'
      refine he.imp_right ?_
      rintro ⟨hfinal, hmisfit⟩
      refine ⟨0, pass, rfl, rfl, ?_, ?_⟩
      · cases rest <;> simp at hfinal ⊢
      · rwa [hpool.source (Nat.le_refl _)]
    · rename_i produced t ht
      have halive := hkept.of_ok ht
      obtain ⟨size, canvas, label, ub, vb, hproduced, hr⟩ := hrecords.of_ok ht
      have hpool := hr.placed.retargeted
      cases rest with
      | nil => exact ⟨halive, nofun⟩
      | cons next rest =>
        rw [hproduced, hr.placed.source_next textures.orig, hr.placed.outputs_next]
        obtain ⟨hd, hfail⟩ := ih halive
          (fun p hp => hpool.lookups ▸ (hpasses p (by simp [hp])).steady hr.steady)
          (hr.steady.inFrame.trans hframe) (by rw [htextures, hpool.history]) (index + 1) _
          (by rw [hpool.length]; simp at hcount ⊢; omega)
        refine ⟨hd, ?_⟩
        intro e he
        rcases hfail e he with hinjected | ⟨i, p, hi, hp, hlt, hmisfit⟩
        · exact .inl (hinjected.of_sameFrames hr.steady.toSameFrames)
        · exact .inr ⟨i + 1, p, by rw [hi]; omega, by simpa using hp, by simpa using hlt,
            hmisfit.congr hpool.pow2 hr.steady.maxDimension⟩

end

end PassChain
