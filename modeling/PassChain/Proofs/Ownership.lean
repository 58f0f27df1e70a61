import PassChain.Proofs.FailedBuild
import PassChain.Proofs.Naming

/-! Of what has come to its recorder since it was built, a chain owns each piece once, and it
releases all of it in the end. -/
namespace PassChain

open Attempt Recorder

section

variable {α β : Type} {f : α → Option β} {l : List α} {i : Nat} {a : α}

/-- What a list gives at one place, and what it gives whatever stands there. -/
theorem filterMap_set_perm (h : l[i]? = some a) :
    ∃ rest, (l.filterMap f).Perm ((f a).toList ++ rest) ∧
      ∀ x, ((l.set i x).filterMap f).Perm ((f x).toList ++ rest) := by
  obtain ⟨hi, hget⟩ := List.getElem?_eq_some_iff.mp h
  have hset (x : α) : ((l.set i x).filterMap f).Perm
      ((f x).toList ++ ((l.take i).filterMap f ++ (l.drop (i + 1)).filterMap f)) := by
    rw [List.set_eq_take_append_cons_drop, if_pos hi, List.filterMap_append, filterMap_cons_toList]
    exact List.perm_append_comm_assoc _ _ _
  refine ⟨_, ?_, hset⟩
  have hself := hset a
  rwa [← hget, List.set_getElem_self, hget] at hself

end

namespace TexturePool

variable {base r : Recorder} {pool : TexturePool} {buffers : List BufferId}
  {programs : List ProgramId}

/-- The textures of a pool apart from the target of one pass. -/
theorem textures_withTarget {pass : Nat} {held : Option RenderTarget}
    (h : pool.targets[pass]? = some held) :
    ∃ others, pool.textures.Perm ((held.map (·.texture)).toList ++ others) ∧
      ∀ t, (pool.withTarget pass t).textures.Perm (t.texture :: others) := by
  obtain ⟨rest, hheld, hset⟩ := filterMap_set_perm (f := (·.map (·.texture))) h
  have hpool {targets : List (Option RenderTarget)} {target : List TextureId}
      (htargets : (targets.filterMap (·.map (·.texture))).Perm (target ++ rest)) :
      TexturePool.textures { pool with targets } |>.Perm (target ++
        (pool.history.slots.toList.map (·.texture) ++ rest ++ pool.lookups.map (·.texture) ++
          [pool.fallback])) := by
    have hfront := (htargets.append_left (pool.history.slots.toList.map (·.texture))).trans
      (List.perm_append_comm_assoc _ _ _)
    have hall := (hfront.append_right (pool.lookups.map (·.texture))).append_right [pool.fallback]
    simpa only [TexturePool.textures, List.append_assoc] using hall
  exact ⟨_, hpool hheld, fun t => hpool (hset (some t))⟩

/-- A pass's old target is released as soon as its new one is there, and not before. -/
theorem ensureTarget_holds (h : base.Holds r pool.textures buffers programs) (pass : Nat)
    (logical : Size) (format : TexelFormat) :
    (pool.ensureTarget pass logical format).Ends r
      (fun res r' => base.Holds r' res.2.2.textures buffers programs)
      (fun _ r' => base.Holds r' pool.textures buffers programs) := by
  refine ensureTarget_cases (fun _ => h) (fun _ _ _ _ => h) (fun _ _ => h) (fun _ _ _ _ => h) ?_ ?_
  · intro texel hlt hempty _ _
    obtain ⟨others, hpool, hnew⟩ := textures_withTarget (target?_eq_none hlt hempty)
    refine (h.createTexture _).mono_ok ?_
    intro id r₁ h₁
    refine h₁.perm ?_ (.refl _) (.refl _)
    refine (List.perm_append_singleton id pool.textures).trans ?_
    exact (hpool.cons id).trans (hnew ⟨id, logical, texel, format⟩).symm
  · intro texel old _ hheld _ _ _
    obtain ⟨others, hpool, hnew⟩ := textures_withTarget (target?_eq_some hheld)
    refine (h.createTexture _).mono_ok ?_
    intro id r₁ h₁
    have hold : old.texture ∈ pool.textures ++ [id] :=
      List.mem_append_left _ (hpool.mem_iff.mpr (by simp))
    refine (h₁.releaseTexture hold).perm ?_ (.refl _) (.refl _)
    have herase := (hpool.append_right [id]).erase old.texture
    rw [Option.map_some, Option.toList_some, List.singleton_append, List.cons_append,
      List.erase_cons_head] at herase
    refine herase.trans ((List.perm_append_singleton id others).trans ?_)
    exact (hnew ⟨id, logical, texel, format⟩).symm

end TexturePool

namespace PassState

variable {inputs : FrameInputs} {textures : FrameTextures} {index : Nat} {final : Bool}
  {source : TextureState} {outputs : List TextureState} {s : PassState Recorder} {base : Recorder}
  {buffers : List BufferId} {programs : List ProgramId}

/-- The recorder of a pass that draws holds what the pool of the pass names. -/
def Holds (base : Recorder) (buffers : List BufferId) (programs : List ProgramId)
    (s : PassState Recorder) : Prop := base.Holds s.device s.pool.textures buffers programs

theorem canvas_holds (h : s.Holds base buffers programs) :
    (canvas inputs index final source).Ends s (fun _ t => t.Holds base buffers programs)
      (fun _ t => t.Holds base buffers programs) := by
  unfold canvas
  cases final with
  | true => exact h
  | false =>
    simp only [Bool.false_eq_true, if_false, ends_bind, ends_get, ends_ofExcept, onDevice, ends_on]
    refine ⟨?_, fun _ _ => h⟩
    intro size _
    exact (TexturePool.ensureTarget_holds h index size s.pass.format).mono (fun _ _ ht => ht)
      (fun _ _ ht => ht)

theorem upload_holds {T : List TextureId} :
    ∀ id bytes d, id ∈ buffers → base.Holds d T buffers programs →
      (GpuDevice.writeBuffer id bytes).Ends d (fun _ d' => base.Holds d' T buffers programs)
        (fun _ d' => base.Holds d' T buffers programs) := by
  intro id bytes d hid hd
  refine (writeBuffer_ends d id bytes).mono ?_ (fun _ _ he => he.1 ▸ hd)
  rintro _ _ ⟨b, _, _, rfl⟩
  exact hd.withBytes hid b bytes

theorem draw_holds (h : s.Holds base buffers programs)
    (hpass : s.pass.vertexBuffer ∈ buffers ∧ s.pass.uniformBuffer ∈ buffers) :
    (draw inputs textures index final source outputs).Ends s
      (fun _ t => t.Holds base buffers programs) (fun _ t => t.Holds base buffers programs) := by
  unfold draw
  simp only [ends_bind, ends_get, ends_set, onDevice, ends_on, ends_pure]
  refine ((canvas_holds h).and canvas_ends).mono ?_ (fun _ _ he => he.1)
  rintro r t ⟨ht, htpass, _⟩
  have hvertices : t.pass.vertexBuffer ∈ buffers := htpass ▸ hpass.1
  refine ((uploadQuad_keeps upload_holds hvertices ht).and uploadQuad_ends).mono ?_ ?_
  · rintro _ u ⟨hu, hpool, hplan⟩
    have huniforms : u.pass.uniformBuffer ∈ buffers := by
      rw [CompiledPass.uniformBuffer_of_plan hplan, htpass]
      exact hpass.2
    rw [← hpool] at hu
    refine (upload_holds _ _ _ huniforms hu).mono_ok ?_
    intro _ d hd
    refine (Recorder.draw_ends _ _).mono ?_ (fun _ e he => he.1 ▸ hd)
    rintro _ e ⟨_, _, _, _, _, _, rfl⟩
    exact hd.of_same rfl rfl rfl rfl
  · rintro _ u ⟨hu, hpool, _⟩
    unfold Holds
    rw [hpool]
    exact hu

end PassState

section

variable {inputs : FrameInputs} {textures : FrameTextures} {passes : List CompiledPass}
  {pool : TexturePool} {device base : Recorder} {buffers : List BufferId}
  {programs : List ProgramId}

theorem drawPasses_holds (h : base.Holds device pool.textures buffers programs)
    (hpasses : ∀ p ∈ passes, p.vertexBuffer ∈ buffers ∧ p.uniformBuffer ∈ buffers)
    (index : Nat) (source : TextureState) (outputs : List TextureState) (phase : Phase) :
    let d := drawPasses inputs textures index source outputs phase passes pool device
    base.Holds d.device d.pool.textures buffers programs := by
  induction passes generalizing index source outputs phase pool device with
  | nil => exact h
  | cons pass rest ih =>
    have hpass : (PassState.draw inputs textures index rest.isEmpty source outputs).Ends
        ⟨device, pool, pass⟩ _ _ := PassState.draw_holds h (hpasses pass (by simp))
    unfold drawPasses
    simp only
    split
    · rename_i ht
      exact hpass.of_error ht
    · rename_i ht
      exact ih (hpass.of_ok ht) (fun p hp => hpasses p (by simp [hp])) _ _ _ _

end

/-- Lookup textures go by the ids of their images. -/
theorem lookups_ids {files : FileSystem} {images : List LookupImage} {lookups : List LookupTexture}
    (h : List.Forall₂ (fun description l => LookupTexture.Of files description l) images lookups) :
    lookups.map (·.id) = images.map (·.id) := by
  induction h with
  | nil => rfl
  | cons hl _ ih => rw [List.map_cons, List.map_cons, hl.id, ih]

namespace Chain

variable {base : Recorder} {c c' : Chain Recorder}

/-- What has come to the recorder of `c` since it was `base` is what `c` owns. -/
structure Owns (base : Recorder) (c : Chain Recorder) : Prop where
  holds : base.Holds c.device c.pool.textures (c.passes.flatMap (·.buffers)) c.programs
  programs : c.programs = c.stock :: c.passes.map (·.program)

/-- It does when it has the same parts and the recorder the same resources. -/
theorem Owns.of_holds (h : c.Owns base) (hcontinues : c.Continues c')
    (hholds : base.Holds c'.device c'.pool.textures (c.passes.flatMap (·.buffers)) c.programs) :
    c'.Owns base := by
  have hbuffers : c'.passes.flatMap (·.buffers) = c.passes.flatMap (·.buffers) := by
    have hplans := congrArg (List.flatMap (·.buffers)) hcontinues.plans
    rw [List.flatMap_map, List.flatMap_map] at hplans
    exact hplans
  have hids : c'.passes.map (·.program) = c.passes.map (·.program) := by
    have hplans := congrArg (List.map (·.program)) hcontinues.plans
    rw [List.map_map, List.map_map] at hplans
    exact hplans
  refine ⟨?_, ?_⟩
  · rw [hbuffers, hcontinues.programs]
    exact hholds
  · rw [hcontinues.programs, hcontinues.stock, hids]
    exact h.programs

variable {device : Recorder} {files : FileSystem} {preset : Preset} {settings : ChainSettings}

theorem build_owns (hdevice : device.Issued)
    (h : build device files preset settings = .ok c) : c.Owns device := by
  obtain ⟨a, ha, hc⟩ := build_eq_ok h
  obtain ⟨haccounts, hpool, hbuffers, hprograms⟩ :=
    (Assembly.build_accounts hdevice files preset settings).of_ok ha
  unfold Assembly.Accounts at haccounts
  rw [hpool, hbuffers] at haccounts
  rw [hc]
  exact ⟨haccounts.of_same rfl rfl rfl rfl, hprograms⟩

/-- Drawing a frame takes no more than the targets that it leaves in the pool. -/
theorem drawing_holds (h : c.Owns base) :
    base.Holds c.drawing.device c.drawing.pool.textures (c.passes.flatMap (·.buffers))
      c.programs := by
  have hopened : base.Holds c.device.opened c.pool.textures (c.passes.flatMap (·.buffers))
      c.programs :=
    h.holds.of_same rfl rfl rfl rfl
  have hmem (p) (hp : p ∈ c.passes) : p.vertexBuffer ∈ c.passes.flatMap (·.buffers) ∧
      p.uniformBuffer ∈ c.passes.flatMap (·.buffers) :=
    ⟨List.mem_flatMap.mpr ⟨p, hp, by simp [CompiledPass.buffers]⟩,
      List.mem_flatMap.mpr ⟨p, hp, by simp [CompiledPass.buffers]⟩⟩
  unfold drawing Sequencer.drawFrame
  split
  · exact hopened
  · exact drawPasses_holds hopened hmem 0 _ _ _

theorem render_owns (h : c.Owns base) : c.render.2.Owns base := by
  have hdropped {r : Recorder} {T : List TextureId}
      (hr : base.Holds r T (c.passes.flatMap (·.buffers)) c.programs) :
      base.Holds (r.abortFrame.bindResting c.stock) T (c.passes.flatMap (·.buffers))
        c.programs := by
    have hsame := sameResources_dropped r c.stock
    exact hr.of_same hsame.nextId hsame.textures hsame.buffers hsame.programs
  refine h.of_holds c.render_continues ?_
  cases hpending : c.pending with
  | false => rw [render_repeated c hpending]; exact h.holds
  | true =>
    cases hrender : c.render with | mk answer c' =>
    have hrendered := render_rendered hpending
    rw [hrender] at hrendered
    cases hrendered with
    | refused => exact hdropped h.holds
    | failed => exact hdropped (drawing_holds h)
    | shown => exact (drawing_holds h).of_same rfl rfl rfl rfl

/-- Whatever its host does, a chain goes on owning just what has come to its recorder. -/
theorem Moves.owns (h : c.Owns base) (hmoves : c.Moves c') : c'.Owns base := by
  cases hmoves with
  | accepted frame device hwritten =>
    obtain ⟨_, _, rfl⟩ := hwritten
    have htextures : TexturePool.textures
        { c.pool with history := c.pool.history.resizeCurrent frame.size } = c.pool.textures := by
      rw [TexturePool.textures, History.textures_eq (History.texture_resizeCurrent frame.size)]
      rfl
    refine ⟨?_, h.programs⟩
    rw [htextures]
    exact h.holds.of_same rfl rfl rfl rfl
  | refused device hwritten =>
    obtain ⟨_, _, rfl⟩ := hwritten
    exact ⟨h.holds.of_same rfl rfl rfl rfl, h.programs⟩
  | asked => exact ⟨h.holds, h.programs⟩
  | upset => exact ⟨h.holds.of_same rfl rfl rfl rfl, h.programs⟩
  | rendered => exact render_owns h

/-- Closing a chain gives back all that it owns and nothing else. -/
theorem Owns.close (h : c.Owns base) : c.close.textures = base.textures ∧
    c.close.buffers = base.buffers ∧ c.close.programs = base.programs := by
  have hbuffers := h.holds.releaseBuffers
  rw [List.foldl_flatMap] at hbuffers
  exact hbuffers.releasePrograms.releaseTextures.restored

end Chain

/-- Since it was built, the recorder of a chain has come to hold exactly the textures of the chain's
ring, of its targets, of its lookup images and the one that stands in, two buffers for each pass,
and the program of each pass besides the stock program; no id stands for two things. What was there
before is there still, and closing the chain leaves just that. -/
theorem chain_owns_exactly {device : Recorder} {files : FileSystem} {preset : Preset}
    {settings : ChainSettings} {c₀ : Chain Recorder} (hdevice : device.Reachable)
    (hbuild : Chain.build device files preset settings = .ok c₀)
    (calls : List (HostCall Recorder)) :
    let c := ((Session.start c₀).run calls).chain
    (∃ textures buffers programs, c.device.textures = device.textures ++ textures ∧
      c.device.buffers = device.buffers ++ buffers ∧
      c.device.programs = device.programs ++ programs ∧
      (textures.map (·.1)).Perm (c.pool.history.slots.toList.map (·.texture) ++
        c.pool.targets.filterMap (·.map (·.texture)) ++ c.pool.lookups.map (·.texture) ++
        [c.pool.fallback]) ∧
      (buffers.map (·.1)).Perm (c.passes.flatMap fun p => [p.vertexBuffer, p.uniformBuffer]) ∧
      (programs.map (·.1)).Perm (c.stock :: c.passes.map (·.program))) ∧
    ((c.device.textures.map (·.1)).Nodup ∧ (c.device.buffers.map (·.1)).Nodup ∧
      (c.device.programs.map (·.1)).Nodup) ∧
    (c.passes.length = preset.passes.length ∧
      c.pool.targets.length = preset.passes.length - 1 ∧
      c.pool.lookups.map (·.id) = preset.lookups.map (·.id)) ∧
    (c.device.Reachable ∧ ∀ r : Recorder, r.Reachable →
      r.textures.length + r.stats.texturesReleased = r.stats.texturesCreated) ∧
    (c.close.textures = device.textures ∧ c.close.buffers = device.buffers ∧
      c.close.programs = device.programs) := by
  intro c
  have howns : c.Owns device := Session.run_keeps (fun _ _ h hmoves => hmoves.owns h)
    (Chain.build_owns (issued_reachable hdevice) hbuild) calls
  have hreachable : c.device.Reachable := Session.run_reachable hdevice hbuild calls
  have hcounted := counted_reachable hreachable
  have hcontinues : c₀.Continues c := (Session.start c₀).run_continues calls
  have hfrom := Chain.build_builtFrom hbuild
  obtain ⟨textures, htextures, htexturesOwn⟩ := howns.holds.textures.entries
  obtain ⟨buffers, hbuffers, hbuffersOwn⟩ := howns.holds.buffers.entries
  obtain ⟨programs, hprograms, hprogramsOwn⟩ := howns.holds.programs.entries
  rw [howns.programs] at hprogramsOwn
  refine ⟨⟨textures, buffers, programs, htextures, hbuffers, hprograms, htexturesOwn, hbuffersOwn,
    hprogramsOwn⟩, ⟨hcounted.textures, hcounted.buffers, hcounted.programs⟩, ⟨?_, ?_, ?_⟩,
    ⟨hreachable, fun r hr => (counted_reachable hr).balance⟩, howns.close⟩
  · rw [hcontinues.length_passes, hfrom.count]
  · rw [hcontinues.targets, hfrom.targets, List.length_replicate]
  · rw [hcontinues.lookups]
    exact lookups_ids (Chain.build_lookups hbuild)

theorem first_chain_owns_exactly :
    ∃ c₀, Chain.build ({} : Recorder) .empty .twoStock {} = .ok c₀ ∧
      let c := ((Session.start c₀).run (HostCall.firstFrame ++ [.render])).chain
      (c.device.textures.map (·.1)).Perm (c.pool.history.slots.toList.map (·.texture) ++
        c.pool.targets.filterMap (·.map (·.texture)) ++ c.pool.lookups.map (·.texture) ++
        [c.pool.fallback]) ∧
      (c.device.textures.map (·.1)).Nodup ∧ c.pool.targets.length = 1 ∧
      c.close.textures = [] ∧ c.close.buffers = [] ∧ c.close.programs = [] := by
  obtain ⟨c₀, hbuild, _⟩ := Session.first_frame_shown
  obtain ⟨⟨textures, _, _, htextures, _, _, howned, _⟩, ⟨hnodup, _⟩, ⟨_, htargets, _⟩, _, hclose⟩ :=
    chain_owns_exactly (.fresh 8192) hbuild (HostCall.firstFrame ++ [.render])
  refine ⟨c₀, hbuild, ?_, hnodup, htargets, hclose⟩
  rw [htextures]
  exact howned

end PassChain
