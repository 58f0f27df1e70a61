import PassChain.Proofs.DeviceMaps
import PassChain.Proofs.FramePictures
import PassChain.Proofs.Settling

/-! No draw samples the texture it draws into, nor one that has not been drawn yet or is gone. -/
namespace PassChain

open Attempt

/-- No pass draws into the textures of the input frames. -/
def FrameTextures.Stand (textures : FrameTextures) (standing : List TextureId) : Prop :=
  textures.orig.texture ∈ standing ∧ ∀ state ∈ textures.history, state.texture ∈ standing

/-- No pass draws into the textures that a table looks up. -/
def BindingTable.Stands (table : BindingTable) (standing : List TextureId) : Prop :=
  ∀ w ∈ table.textures, ∀ id size, w.source = .lookup id size → id ∈ standing

/-- Whatever names a program uses, its pass is given targets of earlier passes, or textures that no
pass draws into. -/
theorem BindingTable.mem_bindings {table : BindingTable} {pool : TexturePool} {params : FrameParams}
    {textures : FrameTextures} {index : Nat} (hlookups : table.Stands pool.standing)
    (hframes : textures.Stand pool.standing) (horig : params.orig = textures.orig)
    (hhistory : params.history = textures.history)
    (hsource : params.source = pool.source textures.orig index)
    (houtputs : params.outputs = pool.outputs index) (hfallback : params.fallback = pool.fallback)
    {b : TextureBinding} (hb : b ∈ table.bindings params) :
    b.texture ∈ pool.standing ∨
      ∃ i < index, ∃ t, pool.target? i = some t ∧ b.texture = t.texture := by
  obtain ⟨w, hw, rfl⟩ := List.mem_map.mp hb
  have hmissing : params.fallback ∈ pool.standing := hfallback ▸ pool.fallback_standing
  cases hfrom : w.source with
  | source =>
    simp only [TextureSource.resolve?, Option.map_some, Option.getD_some, hsource]
    cases index with
    | zero => exact .inl hframes.1
    | succ i =>
      cases ht : pool.target? i with
      | none =>
        simp only [TexturePool.source, ht]
        exact .inl hframes.1
      | some t =>
        rw [TexturePool.source_succ ht]
        exact .inr ⟨i, Nat.lt_succ_self i, t, ht, rfl⟩
  | orig =>
    simp only [TextureSource.resolve?, Option.map_some, Option.getD_some, horig]
    exact .inl hframes.1
  | history n =>
    simp only [TextureSource.resolve?]
    cases hn : params.history[n]? with
    | none => exact .inl hmissing
    | some state => exact .inl (hframes.2 state (hhistory ▸ List.mem_of_getElem? hn))
  | output n =>
    simp only [TextureSource.resolve?]
    cases hn : params.outputs[n]? with
    | none => exact .inl hmissing
    | some state =>
      have hmem : state ∈ pool.outputs index := houtputs ▸ List.mem_of_getElem? hn
      obtain ⟨i, hi, t, ht, rfl⟩ := TexturePool.mem_outputs hmem
      exact .inr ⟨i, hi, t, ht, rfl⟩
  | lookup id size => exact .inl (hlookups w hw id size hfrom)
  | missing => exact .inl hmissing

section

variable {δ : Type} [GpuDevice δ] [Adjustable δ] [LastingTextures δ] {base past : List DeviceEvent}
  {inputs : FrameInputs} {textures : FrameTextures} {index : Nat} {pool : TexturePool}
  {w : Traced δ}

open Traced

/-- Once all passes before it have been drawn, a pass can be drawn into its target. -/
theorem Traced.Tracks.settles (h : Tracks base past index pool w) {call : DrawCall}
    (hpass : call.pass = index)
    (htextures : ∀ b ∈ call.textures, b.texture ∈ pool.standing ∨
      ∃ i < index, ∃ t, pool.target? i = some t ∧ b.texture = t.texture)
    (hdestination : ∀ id, call.destination = .texture id →
      ∃ t, pool.target? index = some t ∧ id = t.texture) :
    call.Settled pool.standing past := by
  intro b hb
  rcases htextures b hb with hstands | ⟨i, hi, u, hu, hbu⟩
  · constructor
    · intro hsame
      obtain ⟨t, ht, hbt⟩ := hdestination _ hsame
      exact (h.apart.targets index t ht).2 (hbt ▸ hstands)
    · exact .inl ⟨hstands, h.standing _ hstands⟩
  · constructor
    · intro hsame
      obtain ⟨t, ht, hbt⟩ := hdestination _ hsame
      have heq := h.apart.distinct i index u t hu ht (hbu.symm.trans hbt)
      omega
    · obtain ⟨_, hu', hdrawn⟩ := h.drawn i hi
      cases hu'.symm.trans hu
      exact .inr ⟨i, hpass ▸ hi, hbu ▸ hdrawn⟩

namespace PassState

variable {final : Bool} {source : TextureState} {outputs : List TextureState}
  {s : PassState (Traced δ)}

theorem canvas_tracks (h : Tracks base past index s.pool s.device) :
    (canvas inputs index final source).Ends s
      (fun _ t => ∃ past', Tracks base past' index t.pool t.device)
      (fun _ t => Tracks base past index t.pool t.device) := by
  unfold canvas
  cases final with
  | true => exact ⟨past, h⟩
  | false =>
    simp only [Bool.false_eq_true, if_false, ends_bind, ends_get, ends_ofExcept, onDevice, ends_on]
    refine ⟨?_, fun _ _ => h⟩
    intro size _
    exact (ensureTarget_tracks h size s.pass.format).mono (fun _ _ ht => ht) (fun _ _ ht => ht)

theorem uploadQuad_tracks (h : Tracks base past index pool s.device) {key : QuadKey} :
    (uploadQuad key).Ends s (fun _ t => Tracks base past index pool t.device)
      (fun _ t => Tracks base past index pool t.device) :=
  @uploadQuad_keeps _ _ s (fun _ => True) _ (fun id bytes _ _ hd => hd.upload id bytes) trivial h
    key

/-- A texture that a pass is drawn into is its target. -/
theorem Placed.target {pass : CompiledPass} {pool' : TexturePool} {size : Size}
    {mvp : Matrix4 Single} {c : Canvas}
    (h : Placed inputs index final source pass pool pool' size mvp c) {id : TextureId}
    (hid : c.destination = .texture id) : ∃ t, pool'.target? index = some t ∧ id = t.texture := by
  cases final with
  | true =>
    obtain ⟨_, _, rfl⟩ := h.last rfl
    cases hid
  | false =>
    obtain ⟨hlt, _, t, _, rfl, _, _, rfl⟩ := h.inner rfl
    cases hid
    exact ⟨t, (TexturePool.target?_withTarget hlt _).trans (if_pos rfl), rfl⟩

/-- The draw of a pass is settled, and from then on later passes may sample its target. -/
theorem draw_tracks (h : Tracks base past index s.pool s.device)
    (hsource : source = s.pool.source textures.orig index)
    (houtputs : outputs = s.pool.outputs index)
    (hlookups : s.pass.table.Stands s.pool.standing) (hframes : textures.Stand s.pool.standing) :
    (draw inputs textures index final source outputs).Ends s
      (fun _ t => ∃ past', Tracks base past' (if final then index else index + 1) t.pool t.device)
      (fun _ t => ∃ past', Tracks base past' index t.pool t.device) := by
  unfold draw
  simp only [ends_bind, ends_get, ends_set, onDevice, ends_on, ends_pure]
  refine ((canvas_tracks h).and canvas_ends).mono ?_ (fun _ _ he => ⟨past, he.1⟩)
  rintro ⟨size, mvp, canvas⟩ t ⟨⟨past₁, ht⟩, hpass, hplaced⟩
  refine ((uploadQuad_tracks ht).and uploadQuad_ends).mono ?_ ?_
  · rintro _ u ⟨hu, hpool, hplan⟩
    rw [← hpool] at hu hplaced
    refine (hu.upload _ _).mono ?_ (fun _ d hd => ⟨past₁, hd⟩)
    intro _ d hd
    have hmoves := hplaced.retargeted
    have htable : u.pass.table = s.pass.table := by
      rw [CompiledPass.table_of_plan hplan, hpass]
    refine (Traced.draw_tracks hd (hd.settles rfl ?_ ?_) rfl).mono ?_ (fun _ _ he => he)
    · intro b hb
      rw [htable] at hb
      refine BindingTable.mem_bindings ?_ ?_ rfl rfl ?_ ?_ rfl hb
      · exact hmoves.standing ▸ hlookups
      · exact hmoves.standing ▸ hframes
      · exact hsource.trans (hmoves.source (Nat.le_refl index)).symm
      · exact houtputs.trans (hmoves.outputs (Nat.le_refl index)).symm
    · exact fun id hid => hplaced.target hid
    · rintro _ e ⟨past₂, he, hdrawn⟩
      refine ⟨past₂, ?_⟩
      cases final with
      | true => exact he
      | false =>
        obtain ⟨_, _, _, _, _, _, _, hcanvas⟩ := hplaced.inner rfl
        have hid := congrArg Canvas.destination hcanvas
        obtain ⟨_, htarget, hsame⟩ := hplaced.target hid
        exact he.next htarget (hsame ▸ hdrawn _ hid)
  · rintro _ u ⟨hu, hpool, _⟩
    exact ⟨past₁, hpool ▸ hu⟩

end PassState

/-- Passes are drawn in order, so each finds the targets of those before it drawn and left alone. -/
theorem drawPasses_tracks {passes : List CompiledPass} (h : Tracks base past index pool w)
    (hlookups : ∀ p ∈ passes, p.table.Stands pool.standing)
    (hframes : textures.Stand pool.standing) (phase : Phase) :
    let d := drawPasses inputs textures index (pool.source textures.orig index)
      (pool.outputs index) phase passes pool w
    ∃ past', Tracks base past' index d.pool d.device := by
  induction passes generalizing past index phase pool w with
  | nil => exact ⟨past, h⟩
  | cons pass rest ih =>
    have htracks : (PassState.draw inputs textures index rest.isEmpty _ _).Ends _ _ _ :=
      PassState.draw_tracks (s := ⟨w, pool, pass⟩) h rfl rfl (hlookups pass (by simp)) hframes
    have hdraw := htracks.and PassState.draw_ends
    unfold drawPasses
    simp only
    split
    · rename_i ht
      exact (hdraw.of_error ht).1
    · rename_i produced t ht
      obtain ⟨⟨past₁, h₁⟩, _, size, mvp, canvas, hproduced, hplaced⟩ := hdraw.of_ok ht
      cases rest with
      | nil => exact ⟨past₁, h₁⟩
      | cons next rest =>
        have hstanding := hplaced.retargeted.standing
        rw [hproduced, hplaced.source_next textures.orig, hplaced.outputs_next]
        obtain ⟨past₂, h₂⟩ := ih h₁
          (fun p hp => hstanding ▸ hlookups p (by simp [hp])) (hstanding ▸ hframes)
          (.renderingPass index)
        exact ⟨past₂, h₂.earlier (Nat.le_succ index)⟩

end

namespace History

theorem frameTextures_stand (pool : TexturePool) :
    pool.history.frameTextures.Stand pool.standing := by
  constructor
  · exact pool.slot_standing _ pool.history.cursor.isLt
  · intro state hstate
    obtain ⟨slot, hslot, rfl⟩ := List.mem_map.mp hstate
    obtain ⟨i, _, hi⟩ := List.mem_filterMap.mp hslot
    obtain ⟨j, _, rfl⟩ := Option.map_eq_some_iff.mp hi
    exact pool.slot_standing j j.isLt

end History

namespace Chain

variable {δ : Type} {c c' : Chain δ}

theorem Continues.standing (h : c.Continues c') : c'.pool.standing = c.pool.standing := by
  unfold TexturePool.standing
  rw [History.textures_eq h.slots, h.lookups, h.fallback]

/-- No pass of a chain draws into what its passes look up. -/
def LooksUp (c : Chain δ) : Prop := ∀ p ∈ c.passes, p.table.Stands c.pool.standing

theorem LooksUp.continues (h : c.LooksUp) (hc : c.Continues c') : c'.LooksUp := by
  intro p hp
  obtain ⟨i, hi⟩ := List.mem_iff_getElem?.mp hp
  obtain ⟨q, hq, hplan⟩ := hc.plan hi
  rw [CompiledPass.table_of_plan hplan, hc.standing]
  exact h q (List.mem_of_getElem? hq)

end Chain

namespace Chain

variable {δ : Type} [GpuDevice δ] [Adjustable δ] [LastingTextures δ] {base : List DeviceEvent}
  {c : Chain (Traced δ)}

theorem render_settled (h : Traced.Settled base c.pool c.device) (hlookups : c.LooksUp) :
    Traced.Settled base c.render.2.pool c.render.2.device := by
  cases hpending : c.pending with
  | false => rw [c.render_repeated hpending]; exact h
  | true =>
    obtain ⟨r, hr, hrender⟩ := c.render_pending hpending
    -- Opening the frame forgets what earlier frames have drawn, so its passes start from nothing.
    have hdrawn {opened : Traced δ} {d : DrawnPasses (Traced δ)}
        (hbegin : GpuDevice.beginFrame c.device = .ok () opened)
        (hd : c.sequencer.drawFrame c.refreshTracked.inputs c.passes c.pool opened = d) :
        Traced.Settled base d.pool d.device := by
      obtain ⟨past, hopened⟩ := h.beginFrame.of_ok hbegin
      subst hd
      unfold Sequencer.drawFrame
      split
      · exact ⟨past, hopened⟩
      · exact drawPasses_tracks hopened hlookups (History.frameTextures_stand c.pool) _
    have hdrew : Traced.Settled base (c.drew r).pool (c.drew r).device := by
      cases hr with
      | refused e opened hbegin => exact (h.beginFrame.of_error hbegin).abortFrame.bindResting _
      | failed e opened d hbegin hd => exact (hdrawn hbegin hd).abortFrame.bindResting _
      | unshown e opened ended d hbegin hd _ hend =>
        exact ((hdrawn hbegin hd).endFrame.of_error hend).abortFrame.bindResting _
      | shown opened ended d hbegin hd _ hend =>
        have hended := (hdrawn hbegin hd).endFrame.of_ok hend
        exact (hended.bindResting c.stock).of_pool rfl rfl
    rw [hrender]
    split <;> exact hdrew

end Chain

namespace Session

variable {δ : Type} [GpuDevice δ] [Adjustable δ] [LastingTextures δ] {base : List DeviceEvent}
  {s : Session (Traced δ)}

theorem step_settled (h : Traced.Settled base s.chain.pool s.chain.device)
    (hlookups : s.chain.LooksUp) (call : HostCall (Traced δ)) :
    Traced.Settled base (s.step call).chain.pool (s.step call).chain.device := by
  cases call with
  | submit frame =>
    have hsubmit : (Chain.submit frame).Ends s.chain
        (fun _ c => Traced.Settled base s.chain.pool c.device)
        (fun _ c => Traced.Settled base s.chain.pool c.device) := by
      unfold Chain.submit
      simp only [ends_bind, ends_get, ends_modify, ends_on]
      exact h.writeFrame s.chain.pool frame
    have hends := hsubmit.and (Chain.submit_ends frame s.chain)
    simp only [step]
    split
    · rename_i c hc
      obtain ⟨hsettled, device, rfl⟩ := hends.of_ok hc
      refine hsettled.of_pool ?_ rfl
      unfold TexturePool.standing
      rw [History.textures_eq (History.texture_resizeCurrent frame.size)]
    · rename_i c hc
      obtain ⟨hsettled, device, rfl⟩ := hends.of_error hc
      exact hsettled
  | setMemory memory =>
    simp only [step, Chain.changeMemory]
    split <;> exact h
  | adjust change =>
    exact h.lasts (LastingTextures.lasts_adjust change s.chain.device) rfl
  | render => exact Chain.render_settled h hlookups
  | setViewport | setRotation | setDirection | setTracker => exact h

theorem run_settled (h : Traced.Settled base s.chain.pool s.chain.device)
    (hlookups : s.chain.LooksUp) (calls : List (HostCall (Traced δ))) :
    Traced.Settled base (s.run calls).chain.pool (s.run calls).chain.device := by
  have hkept : Traced.Settled base (s.run calls).chain.pool (s.run calls).chain.device ∧
      (s.run calls).chain.LooksUp := by
    refine run_induction (P := fun t => Traced.Settled base t.chain.pool t.chain.device ∧
      t.chain.LooksUp) ?_ ⟨h, hlookups⟩ calls
    rintro t call ⟨ht, hlooks⟩
    exact ⟨step_settled ht hlooks call, hlooks.continues (t.step_continues call)⟩
  exact hkept.1

end Session

section

variable {δ : Type} [GpuDevice δ] [Adjustable δ] [LastingTextures δ] {files : FileSystem}

namespace TexturePool

theorem create_inUse (targetCount : Nat) (maxInput : Size) (pow2 : Bool) (d : δ) :
    (create targetCount maxInput pow2).Ends d (fun pool d' => pool.InUse d') (fun _ _ => True) := by
  unfold create
  simp only [ends_bind, ends_get, ends_ite, ends_throw, implies_true, true_and, ends_pure]
  refine fun _ => (createHistory_distinct maxInput historySlots d).mono_ok ?_
  rintro slots d₁ ⟨hslots, _⟩
  refine (FreshTextures.createTexture_ends _ d₁).mono_ok ?_
  rintro id d₂ ⟨_, hid, hkeep⟩
  have hkept := (LastingTextures.lasts_kept d₂).writeTexture id ⟨1, 1⟩ [0, 0, 0, 0xff] d₂
    fun _ h => h
  refine hkept.mono (fun _ d₃ h₃ => InUse.lasts ?_ h₃) (fun _ _ _ => trivial)
  intro other hother
  simp only [standing, History.ofTextures, List.mem_append, List.mem_map, List.mem_singleton,
    List.not_mem_nil, false_and, exists_false, or_false] at hother
  rcases hother with ⟨slot, hslot, rfl⟩ | rfl
  · obtain ⟨i, hi, rfl⟩ := List.getElem_of_mem hslot
    rw [Vector.length_toList] at hi
    rw [Vector.getElem_toList, Vector.getElem_map]
    exact hkeep _ (hslots i hi)
  · exact hid

theorem loadLookup_inUse {pool : TexturePool} {d : δ} (h : pool.InUse d)
    (description : LookupImage) :
    (pool.loadLookup files description).Ends d (fun pool' d' => pool'.InUse d')
      (fun _ _ => True) := by
  unfold loadLookup insertLookup
  split
  · trivial
  · simp only [ends_bind, ends_get, ends_ite, ends_throw, ends_tryCatch, ends_modify, ends_pure,
      implies_true, true_and]
    refine fun _ _ => (FreshTextures.createTexture_ends _ d).mono_ok ?_
    rintro id d₁ ⟨_, hid, hkeep⟩
    refine ((LastingTextures.lasts_kept d₁).writeTexture _ _ _ d₁ fun _ h => h).mono
      (fun _ d₂ h₂ => InUse.lasts ?_ h₂) (fun _ _ _ => trivial)
    intro other hother
    rcases mem_standing_withLookup.mp hother with hother | rfl
    · exact hkeep other (h other hother)
    · exact hid

end TexturePool

namespace Assembly

theorem loadLookups_inUse {a : Assembly δ} (images : List LookupImage) {pool : TexturePool}
    (h : pool.InUse a.device) :
    (loadLookups files images pool).Ends a (fun pool' a' => pool'.InUse a'.device)
      (fun _ _ => True) := by
  induction images generalizing pool a with
  | nil => exact h
  | cons image rest ih =>
    simp only [loadLookups, ends_bind, onDevice, ends_on, ends_modify]
    exact (TexturePool.loadLookup_inUse h image).mono_ok fun pool' d hd => ih hd

theorem build_inUse (a : Assembly δ) (preset : Preset) (settings : ChainSettings) :
    (Assembly.build files preset settings).Ends a (fun r a' => r.2.1.InUse a'.device)
      (fun _ _ => True) := by
  unfold Assembly.build
  generalize (Wgsl.Bundled.text? stockName).getD "" = stockText
  simp only [ends_bind, ends_ofExcept, ends_ite, ends_throw, ends_pure, ends_modify, onDevice,
    ends_on, implies_true, and_true, true_and]
  intro _ _ _
  refine (ends_true _).mono_ok (fun _ a₁ _ => (ends_true _).mono_ok ?_)
  intro linked a₂ _
  refine (TexturePool.create_inUse _ _ _ a₂.device).mono_ok ?_
  intro pool d₃ h₃
  refine (loadLookups_inUse (a := { a₂ with device := d₃, pool := some pool }) preset.lookups
    h₃).mono_ok ?_
  intro pool' a₄ h₄
  have hkept := LastingTextures.lasts_kept a₄.device
  exact (compilePasses_kept hkept _ _ 0 linked a₄ fun _ h => h).mono (fun _ _ h₅ => h₄.lasts h₅)
    (fun _ _ _ => trivial)

end Assembly

namespace Chain

variable {preset : Preset} {settings : ChainSettings}

/-- A new chain has no targets, so nothing is in their way. -/
theorem build_apart {device : δ} {c : Chain δ}
    (h : build device files preset settings = .ok c) : c.pool.Apart c.device := by
  have hnone (i : Nat) (t : RenderTarget) : c.pool.target? i ≠ some t := by
    rw [TexturePool.target?, (build_builtFrom h).targets, List.getElem?_replicate]
    split <;> simp
  obtain ⟨a, ha, hc⟩ := build_eq_ok h
  have hused : c.pool.InUse a.device := (Assembly.build_inUse _ preset settings).of_ok ha
  refine ⟨?_, fun i t ht => absurd ht (hnone i t), fun i _ t _ ht => absurd ht (hnone i t)⟩
  rw [hc]
  have hkept := LastingTextures.lasts_kept a.device
  exact hused.lasts (hkept.bindResting c.stock a.device fun _ h => h)

omit [Adjustable δ] [LastingTextures δ] in
theorem build_looksUp {device : δ} {c : Chain δ}
    (h : build device files preset settings = .ok c) : c.LooksUp := by
  intro p hp
  obtain ⟨i, hi⟩ := List.mem_iff_getElem?.mp hp
  obtain ⟨pass, program, _, htable, _⟩ := (build_builtFrom h).runs hi
  rw [htable]
  intro w hw id size hsource
  obtain ⟨slot, _, rfl⟩ := List.mem_map.mp hw
  obtain ⟨l, hl, rfl⟩ := BindContext.lookup_of_sourceOf hsource
  exact TexturePool.lookup_standing hl

end Chain

/-- However a chain is used: whatever draw it asks its device for, the draw samples no texture that
it draws into. Each texture that it samples is a slot of the ring, a lookup texture or the one that
stands in for missing ones, as the chain was built with them, and has never been made anew or
released; or else a pass of smaller index has been drawn into it in the same frame, and since then
it has been neither made anew nor released. -/
theorem no_draw_feeds_back {device : Traced δ} {preset : Preset} {settings : ChainSettings}
    {c₀ : Chain (Traced δ)} (hbuild : Chain.build device files preset settings = .ok c₀)
    (calls : List (HostCall (Traced δ))) :
    ∃ events,
      ((Session.start c₀).run calls).chain.device.notes.events = c₀.device.notes.events ++ events ∧
      ∀ past call rest, events = past ++ .asked call :: rest →
        ∀ b ∈ call.textures, call.destination ≠ .texture b.texture ∧
          (b.texture ∈ c₀.pool.history.slots.toList.map (·.texture) ++
              c₀.pool.lookups.map (·.texture) ++ [c₀.pool.fallback] ∧ LeftAlone b.texture past ∨
            ∃ before earlier after, past = before ++ .drew earlier :: after ∧
              earlier.pass < call.pass ∧ earlier.destination = .texture b.texture ∧
              .began ∉ after ∧ LeftAlone b.texture after) := by
  have hnew : Traced.Settled c₀.device.notes.events c₀.pool c₀.device :=
    ⟨[], (List.append_nil _).symm, Chain.build_apart hbuild, allSettled_nil,
      fun id _ => leftAlone_nil id, fun i hi => absurd hi (Nat.not_lt_zero i)⟩
  obtain ⟨events, htracks⟩ :=
    Session.run_settled (s := .start c₀) hnew (Chain.build_looksUp hbuild) calls
  have hstanding : ((Session.start c₀).run calls).chain.pool.standing = c₀.pool.standing :=
    ((Session.start c₀).run_continues calls).standing
  refine ⟨events, htracks.events, ?_⟩
  intro past call rest hevents b hb
  obtain ⟨hdestination, hsampled⟩ := htracks.settled past call rest hevents b hb
  refine ⟨hdestination, ?_⟩
  rcases hsampled with ⟨hstands, halone⟩ | ⟨pass, hpass, before, earlier, after, hpast, rfl, hdrawn⟩
  · rw [hstanding] at hstands
    exact .inl ⟨hstands, halone⟩
  · exact .inr ⟨before, earlier, after, hpast, hpass, hdrawn⟩

end

theorem first_frame_feeds_nothing_back :
    ∃ c₀, Chain.build (⟨{}, {}⟩ : Traced Recorder) .empty .twoStock {} = .ok c₀ ∧
      ((Session.start c₀).run HostCall.firstFrame).chain.pending = true ∧
      ∃ events,
        ((Session.start c₀).run (HostCall.firstFrame ++ [.render])).chain.device.notes.events =
          c₀.device.notes.events ++ events ∧
        ∀ past call rest, events = past ++ .asked call :: rest → ∀ b ∈ call.textures,
          call.destination ≠ .texture b.texture := by
  obtain ⟨c, hshown, hpending, _⟩ := Session.first_frame_shown
  have hunobserved : Chain.build (Observed.unobserved.map (⟨{}, {}⟩ : Traced Recorder)) .empty
    .twoStock {} = .ok c := hshown
  obtain ⟨c₀, hbuild, rfl⟩ := (Chain.build_through _).mp hunobserved
  have hrun := (Session.start c₀).run_through Observed.inside HostCall.firstFrame
  obtain ⟨events, hevents, hdraws⟩ :=
    no_draw_feeds_back hbuild (HostCall.firstFrame ++ [.render])
  refine ⟨c₀, hbuild, ?_, events, hevents, ?_⟩
  · exact (congrArg (·.chain.pending) hrun).trans hpending
  · intro past call rest hasked b hb
    exact (hdraws past call rest hasked b hb).1

end PassChain
