import PassChain.Proofs.FieldPlaces

/-! Uniform blocks never carry stale data. -/
namespace PassChain

open Recorder

namespace HostCall

variable {δ : Type} [Adjustable δ]

/-- The quarter turns that a call sets. -/
def turns? : HostCall δ → Option UInt32
  | .setRotation turns => some turns
  | _ => none

/-- The direction that a call sets. -/
def direction? : HostCall δ → Option Direction
  | .setDirection direction => some direction
  | _ => none

/-- The quarter turns set last, none if none were ever set. -/
def lastTurns (calls : List (HostCall δ)) : UInt32 := (calls.filterMap turns?).getLast?.getD 0

/-- The direction set last, forward if none was ever set. -/
def lastDirection (calls : List (HostCall δ)) : Direction :=
  (calls.filterMap direction?).getLast?.getD .forward

end HostCall

namespace Session

variable {δ : Type} [GpuDevice δ] [Adjustable δ]

/-- Nothing but its setter changes what is set. -/
theorem step_settings (s : Session δ) (call : HostCall δ) :
    (s.step call).chain.rotation = (call.turns?.map (· % 4)).getD s.chain.rotation ∧
      (s.step call).chain.direction = call.direction?.getD s.chain.direction := by
  cases call with
  | submit frame =>
    simp only [step]
    split
    · rename_i c hc
      obtain ⟨device, rfl⟩ := (Chain.submit_ends frame s.chain).of_ok hc
      exact ⟨rfl, rfl⟩
    · rename_i c hc
      obtain ⟨device, rfl⟩ := (Chain.submit_ends frame s.chain).of_error hc
      exact ⟨rfl, rfl⟩
  | setMemory memory =>
    simp only [step, Chain.changeMemory]
    split <;> exact ⟨rfl, rfl⟩
  | render =>
    cases hpending : s.chain.pending with
    | false =>
      simp only [step, s.chain.render_repeated hpending]
      exact ⟨rfl, rfl⟩
    | true =>
      obtain ⟨r, _, hrender⟩ := s.chain.render_pending hpending
      obtain ⟨tracker, tracked, hc⟩ := s.chain.refreshTracked_eq
      simp only [step, hrender, Chain.drew, hc]
      split <;> exact ⟨rfl, rfl⟩
  | setViewport | setRotation | setDirection | setTracker | adjust => exact ⟨rfl, rfl⟩

/-- A chain is turned and directed as the host has asked last. -/
theorem run_settings {s : Session δ} (hrotation : s.chain.rotation = 0)
    (hdirection : s.chain.direction = .forward) (calls : List (HostCall δ)) :
    (s.run calls).chain.rotation = HostCall.lastTurns calls % 4 ∧
      (s.run calls).chain.direction = HostCall.lastDirection calls := by
  induction calls using List.reverseRecOn with
  | nil => exact ⟨hrotation, hdirection⟩
  | append_singleton calls call ih =>
    obtain ⟨hturned, hdirected⟩ := ih
    obtain ⟨hturns, hdirects⟩ := (s.run calls).step_settings call
    rw [run_append]
    refine ⟨hturns.trans ?_, hdirects.trans ?_⟩
    · cases hcall : call.turns? with
      | none => simp [HostCall.lastTurns, hcall, hturned]
      | some turns => simp [HostCall.lastTurns, hcall]
    · cases hcall : call.direction? with
      | none => simp [HostCall.lastDirection, hcall, hdirected]
      | some direction => simp [HostCall.lastDirection, hcall]

end Session

/-- Bytes that belong to no field with a value stay as they were. -/
theorem BindingTable.getElem?_write_ofProgram {p : Program} {index : Nat} {frameCountMod : UInt32}
    {sampler : Sampler} {c : BindContext} {params : FrameParams} {out : List UInt8} {k : Nat}
    (h : ∀ f ∈ p.fields, (valueOf? c index f.role).isSome → ¬ (f.offset ≤ k ∧ k < f.stop)) :
    ((ofProgram p index frameCountMod sampler c).write params out)[k]? = out[k]? := by
  refine getElem?_write_of_unreached _ _ _ fun w hw hreaches => ?_
  obtain ⟨f, hf, hvalue, hoffset, hstop⟩ := field_of_write hw
  obtain ⟨_, hstart, hend⟩ := hreaches
  refine h f hf (by rw [hvalue]; rfl) ⟨?_, ?_⟩
  · rw [← hoffset]
    exact hstart
  · rw [← hstop]
    exact hend

variable {device : Recorder} {files : FileSystem} {preset : Preset} {settings : ChainSettings}
  {c₀ : Chain Recorder}

/-- Four bytes of a word, put together again. -/
theorem toUInt32_bytes_or (w : UInt32) : w.toUInt8.toUInt32 ||| (w >>> 8).toUInt8.toUInt32 <<< 8 |||
    (w >>> 16).toUInt8.toUInt32 <<< 16 ||| (w >>> 24).toUInt8.toUInt32 <<< 24 = w := by
  have hbyte (w : UInt32) (i : Nat) :
      w.toUInt8.toUInt32.toNat.testBit i = (decide (i < 8) && w.toNat.testBit i) := by
    rw [UInt8.toNat_toUInt32, UInt32.toNat_toUInt8, Nat.testBit_mod_two_pow]
  have hhigh (i : Nat) (h : 32 ≤ i) : w.toNat.testBit i = false :=
    Nat.testBit_lt_two_pow (Nat.lt_of_lt_of_le w.toNat_lt (Nat.pow_le_pow_right (by decide) h))
  have hshift (k : UInt32) (hk : k.toNat < 32) (i : Nat) :
      ((w >>> k).toUInt8.toUInt32 <<< k).toNat.testBit i =
        (decide (i < 32) && decide (k.toNat ≤ i ∧ i < k.toNat + 8) && w.toNat.testBit i) := by
    rw [UInt32.toNat_shiftLeft, Nat.mod_eq_of_lt hk, Nat.testBit_mod_two_pow, Nat.testBit_shiftLeft,
      hbyte, UInt32.toNat_shiftRight, Nat.mod_eq_of_lt hk, Nat.testBit_shiftRight]
    by_cases hi : k.toNat ≤ i
    · rw [Nat.add_sub_cancel' hi]
      simp [hi, Nat.sub_lt_iff_lt_add hi, Bool.and_assoc, Nat.add_comm]
    · simp [hi]
  rw [← UInt32.toNat_inj]
  refine Nat.eq_of_testBit_eq fun i => ?_
  simp only [UInt32.toNat_or, Nat.testBit_or, hbyte, hshift 8 (by decide), hshift 16 (by decide),
    hshift 24 (by decide)]
  cases hbit : w.toNat.testBit i with
  | false => simp
  | true =>
    have hi : i < 32 := by
      by_contra hge
      exact absurd ((hhigh i (not_lt.mp hge)).symm.trans hbit) nofun
    have hplace : i < 8 ∨ 8 ≤ i ∧ i < 16 ∨ 16 ≤ i ∧ i < 24 ∨ 24 ≤ i := by omega
    simpa [hi, or_assoc] using hplace

/-- A number is read from where its bytes are. -/
theorem RecordedDraw.uniformAt_of_bytes {draw : RecordedDraw} {offset : Nat} {x : Single}
    (h : (draw.uniforms.drop offset).take 4 = x.toBytes) : draw.uniformAt offset = some x := by
  unfold uniformAt
  rw [h]
  exact congrArg some (congrArg Single.mk (toUInt32_bytes_or x.bits))

/-- In a frame that is shown, every field that has a value has received it. -/
theorem Session.shown_members (hdevice : device.Reachable)
    (hbuild : Chain.build device files preset settings = .ok c₀)
    (calls : List (HostCall Recorder)) :
    let s := (start c₀).run calls
    let c := s.chain
    let context := preset.bindContext settings c₀.pool.lookups
    c.pending = true → c.render.1 = true →
      ∃ draws, c.render.2.device.frames = c.device.frames ++ [draws] ∧
        draws.length = preset.passes.length ∧
        let pictures := s.pictures (fun i => (c₀.pool.history.slotAt i).texture) settings.maxInput
          c.render.2.device draws
        ∀ i draw, draws[i]? = some draw → ∃ pass program source,
          preset.Runs files i pass program ∧ pictures.source? i = some source ∧
          ∀ f ∈ program.fields, ∀ v, BindingTable.valueOf? context i f.role = some v →
            (draw.uniforms.drop f.offset).take f.role.byteSize =
              (pass.table program i settings context).bytesOf
                (s.params pictures preset.passes.length i source draw.size) v := by
  intro s c context hpending hyes
  obtain ⟨draws, hframes, hlength, hdraws⟩ := run_shown hdevice hbuild calls hpending hyes
  refine ⟨draws, hframes, hlength, ?_⟩
  intro pictures i draw hdraw
  obtain ⟨pass, program, source, hruns, hsource, hmade⟩ := hdraws i draw hdraw
  obtain ⟨_, _, _, hprogram⟩ := hruns.interface
  refine ⟨pass, program, source, hruns, hsource, fun f hf v hv => ?_⟩
  rw [hmade.uniforms]
  exact (Program.laid_ofText hprogram).value_write hf hv _ List.length_replicate

/-- Whatever has been drawn or dropped before, each draw of a frame that is shown has the block that
its pass fills from zeros by what it is handed in this frame: the projection of its own size, turned
as asked last if it is the last one, the pictures of the frame, the number of frames shown before,
the direction asked for last, and the tracked values that all passes share. Bytes of no field that
has a value are zero. -/
theorem shown_blocks_are_fresh (hdevice : device.Reachable)
    (hbuild : Chain.build device files preset settings = .ok c₀)
    (calls : List (HostCall Recorder)) :
    let s := (Session.start c₀).run calls
    let c := s.chain
    let count := preset.passes.length
    let context := preset.bindContext settings c₀.pool.lookups
    c.pending = true → c.render.1 = true →
      ∃ draws, c.render.2.device.frames = c.device.frames ++ [draws] ∧ draws.length = count ∧
        let pictures := s.pictures (fun i => (c₀.pool.history.slotAt i).texture) settings.maxInput
          c.render.2.device draws
        ∀ i draw, draws[i]? = some draw → ∃ pass program source,
          preset.Runs files i pass program ∧ pictures.source? i = some source ∧
          draw.uniforms = (pass.table program i settings context).write {
              mvp := projection draw.size
                (if i + 1 = count then HostCall.lastTurns calls % 4 else 0)
              source, outputSize := draw.size
              frameCount := s.shown.length
              direction := (HostCall.lastDirection calls).sign
              orig := pictures.input, history := pictures.earlier
              outputs := pictures.outputs.take i
              tracked := c.render.2.tracked, fallback := c₀.pool.fallback }
            (List.replicate program.uniformSize 0) ∧
          ∀ k < program.uniformSize,
            (∀ f ∈ program.fields, (BindingTable.valueOf? context i f.role).isSome →
              ¬ (f.offset ≤ k ∧ k < f.stop)) → draw.uniforms[k]? = some 0 := by
  intro s c count context hpending hyes
  obtain ⟨draws, hframes, hlength, hdraws⟩ :=
    Session.run_shown hdevice hbuild calls hpending hyes
  have hcontinues : c₀.Continues c := (Session.start c₀).run_continues calls
  have hnew : c₀.rotation = 0 ∧ c₀.direction = .forward := by
    obtain ⟨_, _, hc⟩ := Chain.build_eq_ok hbuild
    rw [hc]
    exact ⟨rfl, rfl⟩
  obtain ⟨hrotation, hdirection⟩ :=
    Session.run_settings (s := Session.start c₀) hnew.1 hnew.2 calls
  refine ⟨draws, hframes, hlength, ?_⟩
  intro pictures i draw hdraw
  obtain ⟨pass, program, source, hruns, hsource, hmade⟩ := hdraws i draw hdraw
  have hblock := hmade.uniforms
  refine ⟨pass, program, source, hruns, hsource, ?_, ?_⟩
  · rw [hblock, Session.params, hrotation, hdirection, hcontinues.fallback]
    rfl
  · intro k hk hfields
    rw [hblock]
    refine (BindingTable.getElem?_write_ofProgram hfields).trans ?_
    exact List.getElem?_replicate_of_lt hk

theorem first_blocks_are_fresh :
    ∃ c₀, Chain.build ({} : Recorder) .empty .twoStock {} = .ok c₀ ∧
      let s := (Session.start c₀).run HostCall.firstFrame
      let c := s.chain
      let context := Preset.twoStock.bindContext {} c₀.pool.lookups
      c.pending = true ∧ c.render.1 = true ∧
      ∃ draws, c.render.2.device.frames = c.device.frames ++ [draws] ∧ draws.length = 2 ∧
        let pictures := s.pictures (fun i => (c₀.pool.history.slotAt i).texture) ⟨1024, 1024⟩
          c.render.2.device draws
        ∀ i draw, draws[i]? = some draw → ∃ pass program source,
          Preset.twoStock.Runs .empty i pass program ∧ pictures.source? i = some source ∧
          draw.uniforms = (pass.table program i {} context).write {
              mvp := projection draw.size 0
              source, outputSize := draw.size, frameCount := s.shown.length, direction := 1
              orig := pictures.input, history := pictures.earlier
              outputs := pictures.outputs.take i
              tracked := c.render.2.tracked, fallback := c₀.pool.fallback }
            (List.replicate program.uniformSize 0) := by
  obtain ⟨c₀, hbuild, hpending, _, _, hyes⟩ := Session.first_frame_shown
  obtain ⟨draws, hframes, hlength, hdraws⟩ :=
    shown_blocks_are_fresh (.fresh 8192) hbuild HostCall.firstFrame hpending hyes
  refine ⟨c₀, hbuild, hpending, hyes, draws, hframes, hlength, ?_⟩
  intro pictures i draw hdraw
  obtain ⟨pass, program, source, hruns, hsource, hblock, _⟩ := hdraws i draw hdraw
  have hturns : (if i + 1 = Preset.twoStock.passes.length then
      HostCall.lastTurns (HostCall.firstFrame : List (HostCall Recorder)) % 4 else 0) = 0 := by
    split <;> rfl
  rw [hturns] at hblock
  exact ⟨pass, program, source, hruns, hsource, hblock⟩

end PassChain
