import PassChain.Proofs.Continuing
import PassChain.Proofs.Observing

/-! The ring of input frames, over any device and any length of use. -/
namespace PassChain

open Attempt

namespace History

variable {h : History}

theorem historySlots_pos : 0 < historySlots := by decide

/-- The slot that receives frame `i`, as long as frames are counted from the first slot on. -/
def slotAt (h : History) (i : Nat) : HistorySlot :=
  getElem h.slots (i % historySlots) (Nat.mod_lt i historySlots_pos)

theorem current_eq {n : Nat} (hn : h.cursor.val = n % historySlots) : h.current = h.slotAt n := by
  simp only [current, slotAt, Fin.getElem_fin, hn]

theorem slotAt_congr {i j : Nat} (hij : i % historySlots = j % historySlots) :
    h.slotAt i = h.slotAt j := by
  simp only [slotAt, hij]

theorem slotAt_advance (i : Nat) : h.advance.slotAt i = h.slotAt i := rfl

/-- The frames before frame `n` stand in the slots that received them. -/
theorem previous_eq {n : Nat} (hn : h.cursor.val = n % historySlots) :
    h.previous = (List.range previousFrames).map fun k => h.slotAt (n + previousFrames - k) := by
  have hback (k : Nat) (hk : k ∈ List.range previousFrames) :
      h.back k = some (h.slotAt (n + previousFrames - k)) := by
    have hlt := List.mem_range.mp hk
    have hi : (h.cursor + Fin.ofNat historySlots (previousFrames - k)).val =
        (n + previousFrames - k) % historySlots := by
      rw [Fin.val_add, hn, Fin.val_ofNat, ← Nat.add_mod, Nat.add_sub_assoc (by omega)]
    simp only [back, backIndex, if_pos hlt, Option.map_some, slotAt, Fin.getElem_fin, hi]
  rw [previous, List.filterMap_congr hback, List.filterMap_eq_map']

/-- What passes are shown of frame `n` and the frames before it. -/
theorem frameTextures_eq {n : Nat} (hn : h.cursor.val = n % historySlots) :
    h.frameTextures = ⟨⟨(h.slotAt n).texture, (h.slotAt n).size, h.texel⟩,
      (List.range previousFrames).map fun k => ⟨(h.slotAt (n + previousFrames - k)).texture,
        (h.slotAt (n + previousFrames - k)).size, h.texel⟩⟩ := by
  simp only [frameTextures, current_eq hn, previous_eq hn, List.map_map]
  rfl

/-- The slot of a frame and those of the frames before are all the slots, one turn back. -/
theorem slots_before (n : Nat) : h.slotAt n :: ((List.range previousFrames).map fun k =>
    h.slotAt (n + previousFrames - k)) =
      (List.range historySlots).map fun k => h.slotAt (n + historySlots - k) := by
  have hfirst : h.slotAt (n + historySlots - 0) = h.slotAt n := slotAt_congr (by simp)
  have hrest (k : Nat) : n + historySlots - (k + 1) = n + previousFrames - k := by
    simp only [historySlots, previousFrames]
    omega
  rw [show List.range historySlots = 0 :: _ from List.range_succ_eq_map]
  simp only [List.map_cons, List.map_map, hfirst]
  refine congrArg _ (List.map_congr_left fun k _ => ?_)
  simp only [Function.comp_apply, Nat.succ_eq_add_one, hrest]

/-- A frame is noted in its own slot only. -/
theorem slotAt_resizeCurrent {n i : Nat} (hn : h.cursor.val = n % historySlots) (size : Size) :
    (h.resizeCurrent size).slotAt i =
      if i % historySlots = n % historySlots then { h.slotAt n with size } else h.slotAt i := by
  simp only [slotAt, resizeCurrent, current_eq hn]
  split
  · rename_i hi
    simp [hi, hn]
  · rename_i hi
    simp [hn, Ne.symm hi]

end History

namespace Session

variable {δ : Type}

/-- The ring has taken in the frames shown so far, and still holds the last seven of them. -/
structure RingHolds (s : Session δ) : Prop where
  count : s.chain.frameCount = s.shown.length
  cursor : s.chain.pool.history.cursor.val = s.shown.length % historySlots
  sizes : ∀ k < previousFrames,
    (s.chain.pool.history.slotAt (s.shown.length + previousFrames - k)).size =
      s.shown.reverse[k]?.getD ⟨0, 0⟩

/-- The size of the frame shown `k` frames before the last one. -/
theorem size_shown_before (shown : List Size) (k : Nat) :
    shown.reverse[k]?.getD ⟨0, 0⟩ =
      if k < shown.length then shown.getD (shown.length - 1 - k) ⟨0, 0⟩ else ⟨0, 0⟩ := by
  split
  · rename_i hk
    rw [List.getElem?_reverse hk, List.getD_eq_getElem?_getD]
  · rename_i hk
    rw [List.getElem?_eq_none (by simpa using hk)]
    rfl

theorem RingHolds.of_same {s t : Session δ} (h : s.RingHolds) (hshown : t.shown = s.shown)
    (hcount : t.chain.frameCount = s.chain.frameCount)
    (hhistory : t.chain.pool.history = s.chain.pool.history) : t.RingHolds :=
  ⟨by rw [hcount, hshown]; exact h.count, by rw [hhistory, hshown]; exact h.cursor,
    by rw [hhistory, hshown]; exact h.sizes⟩

variable [GpuDevice δ] [Adjustable δ]

omit [Adjustable δ] in
theorem start_ringHolds {files : FileSystem} {preset : Preset} {settings : ChainSettings}
    {c : Chain δ} (h : BuiltFrom δ files preset settings c.pool c.passes)
    (hcount : c.frameCount = 0) : (start c).RingHolds := by
  obtain ⟨slots, hhistory, _⟩ := h.history
  refine ⟨hcount, ?_, ?_⟩
  · simp [start, hhistory, History.ofTextures]
  · intro k hk
    simp [start, hhistory, History.ofTextures, History.slotAt]

theorem step_ringHolds {s : Session δ} (hwaiting : s.Waiting) (h : s.RingHolds)
    (call : HostCall δ) : (s.step call).RingHolds := by
  cases call with
  | submit frame =>
    have hsubmit := Chain.submit_ends frame s.chain
    simp only [step]
    split
    · rename_i c hc
      obtain ⟨device, rfl⟩ := hsubmit.of_ok hc
      refine ⟨h.count, h.cursor, ?_⟩
      intro k hk
      have hne : (s.shown.length + previousFrames - k) % historySlots ≠
          s.shown.length % historySlots := by
        simp only [previousFrames, historySlots] at hk ⊢
        omega
      rw [← h.sizes k hk]
      exact congrArg _ ((History.slotAt_resizeCurrent h.cursor _).trans (if_neg hne))
    · rename_i c hc
      obtain ⟨device, rfl⟩ := hsubmit.of_error hc
      exact h.of_same rfl rfl rfl
  | setMemory memory =>
    simp only [step, Chain.changeMemory]
    split <;> exact h.of_same rfl rfl rfl
  | render =>
    rcases s.chain.render_history with
      ⟨hno, hhistory, hcount, _⟩ | ⟨hyes, hpending, hhistory, hcount, _⟩
    · exact h.of_same (by simp [step, hno]) hcount hhistory
    · have hcurrent := hwaiting hpending
      rw [History.current_eq h.cursor] at hcurrent
      simp only [step, hyes, if_true]
      refine ⟨?_, ?_, ?_⟩
      · simp [hcount, h.count]
      · rw [hhistory, History.advance, Fin.val_add, h.cursor]
        simp
      · intro k hk
        rw [hhistory, History.slotAt_advance]
        cases k with
        | zero =>
          rw [List.reverse_concat, List.getElem?_cons_zero, Option.getD_some, ← hcurrent,
            History.slotAt_congr]
          simp only [List.length_append, List.length_singleton, previousFrames, historySlots]
          omega
        | succ k =>
          have hindex : (s.shown ++ [s.lastAccepted]).length + previousFrames - (k + 1) =
              s.shown.length + previousFrames - k := by simp; omega
          rw [hindex, List.reverse_concat, List.getElem?_cons_succ, h.sizes k (by omega)]
  | setViewport | setRotation | setDirection | setTracker | adjust => exact h.of_same rfl rfl rfl

theorem run_ringHolds {s : Session δ} (hwaiting : s.Waiting) (h : s.RingHolds)
    (calls : List (HostCall δ)) : (s.run calls).RingHolds := by
  refine (run_induction (P := fun t => t.Waiting ∧ t.RingHolds) ?_ ⟨hwaiting, h⟩ calls).2
  rintro _ call ⟨hw, hr⟩
  exact ⟨step_waiting hw call, step_ringHolds hw hr call⟩

end Session

/-- The textures that a device has been told to write or to clear, in order and whatever came of
it. -/
structure Touches where
  ids : List TextureId := []

namespace Touches

/-- The textures that a device is about to write or to clear. -/
def touched : DeviceEvent → List TextureId
  | .writes id | .clears id => [id]
  | _ => []

instance : Observer Touches where
  note event t := ⟨t.ids ++ touched event⟩
  refusal? _ _ := none

instance : Unobtrusive Touches := ⟨fun _ _ => rfl⟩

end Touches

/-- A device of which it is noted which textures it is told to write or to clear. -/
abbrev Watched (δ : Type) := Observed Touches δ

namespace Watched

variable {δ : Type}

/-- Since `w` no textures but these have been touched. -/
def TouchedOnly (ids : TextureId → Prop) (w w' : Watched δ) : Prop :=
  ∃ new, w'.notes.ids = w.notes.ids ++ new ∧ ∀ id ∈ new, ids id

variable {ids ids' : TextureId → Prop} {w w' w'' : Watched δ}

theorem TouchedOnly.of_eq (h : w'.notes = w.notes) : TouchedOnly ids w w' :=
  ⟨[], by simp [h], nofun⟩

theorem TouchedOnly.trans (h : TouchedOnly ids w w') (h' : TouchedOnly ids w' w'') :
    TouchedOnly ids w w'' := by
  obtain ⟨new, hnew, hids⟩ := h
  obtain ⟨new', hnew', hids'⟩ := h'
  refine ⟨new ++ new', by rw [hnew', hnew, List.append_assoc], ?_⟩
  intro id hid
  exact (List.mem_append.mp hid).elim (hids id) (hids' id)

theorem TouchedOnly.mono (h : TouchedOnly ids w w') (hids : ∀ id, ids id → ids' id) :
    TouchedOnly ids' w w' := by
  obtain ⟨new, hnew, hmem⟩ := h
  exact ⟨new, hnew, fun id hid => hids id (hmem id hid)⟩

/-- A call that touches no other textures, whether it succeeds or fails. -/
theorem watch_touches {α : Type} {before : DeviceEvent} (call : Attempt δ α)
    {after : α → DeviceEvent} (hafter : ∀ a, Touches.touched (after a) = [])
    (hbefore : ∀ id ∈ Touches.touched before, ids id) (w : Watched δ) :
    (Observed.watch before call after).Ends w (fun _ => TouchedOnly ids w)
      (fun _ => TouchedOnly ids w) := by
  refine Observed.ends_watch.mpr ((ends_true call).mono ?_ ?_)
  · intro a d _
    refine ⟨Touches.touched before, ?_, hbefore⟩
    show w.notes.ids ++ _ ++ Touches.touched (after a) = _
    rw [hafter, List.append_nil]
  · exact fun e d _ => ⟨Touches.touched before, rfl, hbefore⟩

variable [GpuDevice δ]

/-- A frame is written to the current slot, whether or not that succeeds. -/
theorem writeFrame_touches (pool : TexturePool) (frame : Frame) (w : Watched δ) :
    (pool.writeFrame frame).Ends w
      (fun _ => TouchedOnly (· = pool.history.current.texture) w)
      (fun _ => TouchedOnly (· = pool.history.current.texture) w) := by
  have hsame : TouchedOnly (· = pool.history.current.texture) w w := .of_eq rfl
  have hwrite (rows : List UInt8) (w' : Watched δ)
      (h : TouchedOnly (· = pool.history.current.texture) w w') :
      (GpuDevice.writeTexture pool.history.current.texture frame.size rows).Ends w'
        (fun _ => TouchedOnly (· = pool.history.current.texture) w)
        (fun _ => TouchedOnly (· = pool.history.current.texture) w) :=
    (watch_touches _ (fun _ => rfl) (by simp [Touches.touched]) w').mono
      (fun _ _ h' => h.trans h') (fun _ _ h' => h.trans h')
  unfold TexturePool.writeFrame
  simp only [ends_bind, ends_ite, ends_throw, ends_ofExcept, ends_pure]
  refine ⟨fun _ => hsame, fun _ => ⟨fun rows _ => ⟨?_, fun _ => hwrite rows w hsame⟩,
    fun _ _ => hsame⟩⟩
  intro _
  exact (watch_touches _ (fun _ => rfl) (by simp [Touches.touched]) w).mono_ok
    fun _ w' h => hwrite rows w' h

/-- A frame is drawn without touching any texture. -/
theorem untouched_kept (w : Watched δ) : KeptByFrames (TouchedOnly (fun _ => False) w) := by
  have hinner {α : Type} (call : Attempt δ α) :
      Keeps (TouchedOnly (fun _ => False) w) (Observed.onInner call) :=
    fun w' h => Observed.ends_onInner.mpr ((ends_true call).mono (fun _ _ _ => h) (fun _ _ _ => h))
  have hwatch {α : Type} {before : DeviceEvent} (call : Attempt δ α) {after : α → DeviceEvent}
      (hbefore : Touches.touched before = []) (hafter : ∀ a, Touches.touched (after a) = []) :
      Keeps (TouchedOnly (fun _ => False) w) (Observed.watch before call after) :=
    fun w' h => (watch_touches call hafter (by simp [hbefore]) w').mono
      (fun _ _ h' => h.trans h') (fun _ _ h' => h.trans h')
  have hreleased (id : TextureId) (w' : Watched δ) (h : TouchedOnly (fun _ => False) w w') :
      TouchedOnly (fun _ => False) w (GpuDevice.releaseTexture id w') :=
    h.trans ⟨[], rfl, nofun⟩
  exact {
    passes := {
      create := fun _ => hwatch _ rfl fun _ => rfl
      release := hreleased
      upload := fun _ _ w' _ h => hinner _ w' h
      draw := fun _ w' _ h => hwatch _ rfl (fun _ => rfl) w' h }
    beginFrame := hwatch _ rfl fun _ => rfl
    endFrame := hinner _
    abortFrame := fun _ h => h
    bindResting := fun _ _ h => h }

end Watched

namespace Chain

variable {δ : Type} [GpuDevice δ] {c c' c'' : Chain (Watched δ)}

/-- Handing in a frame touches the current slot only. -/
theorem submit_touches (frame : Frame) (c : Chain (Watched δ)) :
    (submit frame).Ends c
      (fun _ c' => Watched.TouchedOnly (· = c.pool.history.current.texture) c.device c'.device)
      (fun _ c' =>
        Watched.TouchedOnly (· = c.pool.history.current.texture) c.device c'.device) := by
  unfold submit
  simp only [ends_bind, ends_get, ends_modify, ends_on]
  exact Watched.writeFrame_touches c.pool frame c.device

/-- A call to render touches no texture. -/
theorem render_untouched (c : Chain (Watched δ)) :
    Watched.TouchedOnly (fun _ => False) c.device c.render.2.device :=
  render_kept (Watched.untouched_kept c.device) (.of_eq rfl)

/-- From `c` to `c'`, no textures have been touched but those of the slots whose turn it was. -/
def TouchedInTurn (c c' : Chain (Watched δ)) : Prop :=
  c.frameCount ≤ c'.frameCount ∧
    Watched.TouchedOnly (fun id => ∃ j, c.frameCount ≤ j ∧ j ≤ c'.frameCount ∧
      id = (c.pool.history.slotAt j).texture) c.device c'.device

omit [GpuDevice δ] in
theorem TouchedInTurn.of_eq (hcount : c.frameCount ≤ c'.frameCount)
    (hnotes : c'.device.notes = c.device.notes) : c.TouchedInTurn c' :=
  ⟨hcount, .of_eq hnotes⟩

omit [GpuDevice δ] in
theorem Continues.texture_slotAt (h : c.Continues c') (i : Nat) :
    (c'.pool.history.slotAt i).texture = (c.pool.history.slotAt i).texture :=
  h.slots (i % historySlots) (Nat.mod_lt i History.historySlots_pos)

omit [GpuDevice δ] in
theorem TouchedInTurn.trans (h : c.TouchedInTurn c') (hc : c.Continues c')
    (h' : c'.TouchedInTurn c'') : c.TouchedInTurn c'' := by
  obtain ⟨hcount, htouched⟩ := h
  obtain ⟨hcount', htouched'⟩ := h'
  refine ⟨Nat.le_trans hcount hcount', (htouched.mono ?_).trans (htouched'.mono ?_)⟩
  · rintro id ⟨j, hj, hj', hid⟩
    exact ⟨j, hj, Nat.le_trans hj' hcount', hid⟩
  · rintro id ⟨j, hj, hj', hid⟩
    exact ⟨j, Nat.le_trans hcount hj, hj', hid.trans (hc.texture_slotAt j)⟩

end Chain

namespace Session

variable {δ : Type} [GpuDevice δ] [Adjustable δ]

theorem step_touchedInTurn {s : Session (Watched δ)} (h : s.RingHolds)
    (call : HostCall (Watched δ)) : s.chain.TouchedInTurn (s.step call).chain := by
  cases call with
  | submit frame =>
    have hturn (w : Watched δ) (hw : Watched.TouchedOnly
        (· = s.chain.pool.history.current.texture) s.chain.device w) :
        Watched.TouchedOnly (fun id => ∃ j, s.chain.frameCount ≤ j ∧ j ≤ s.chain.frameCount ∧
          id = (s.chain.pool.history.slotAt j).texture) s.chain.device w := by
      refine hw.mono fun id hid => ⟨s.chain.frameCount, Nat.le_refl _, Nat.le_refl _, ?_⟩
      rw [hid, History.current_eq (h.count ▸ h.cursor)]
    have hsubmit := (Chain.submit_ends frame s.chain).and (Chain.submit_touches frame s.chain)
    simp only [step]
    split
    · rename_i c hc
      obtain ⟨⟨device, rfl⟩, htouched⟩ := hsubmit.of_ok hc
      exact ⟨Nat.le_refl _, hturn device htouched⟩
    · rename_i c hc
      obtain ⟨⟨device, rfl⟩, htouched⟩ := hsubmit.of_error hc
      exact ⟨Nat.le_refl _, hturn device htouched⟩
  | setMemory memory =>
    simp only [step, Chain.changeMemory]
    split <;> exact .of_eq (Nat.le_refl _) rfl
  | render =>
    refine ⟨?_, s.chain.render_untouched.mono fun _ => False.elim⟩
    rcases s.chain.render_history with ⟨_, _, hcount, _⟩ | ⟨_, _, _, hcount, _⟩
    · exact Nat.le_of_eq hcount.symm
    · exact hcount ▸ Nat.le_succ _
  | setViewport | setRotation | setDirection | setTracker | adjust =>
    exact .of_eq (Nat.le_refl _) rfl

/-- Whatever is called in which order, each frame is written where its turn comes. -/
theorem run_touchedInTurn {s : Session (Watched δ)} (hwaiting : s.Waiting) (h : s.RingHolds)
    (calls : List (HostCall (Watched δ))) : s.chain.TouchedInTurn (s.run calls).chain := by
  induction calls generalizing s with
  | nil => exact .of_eq (Nat.le_refl _) rfl
  | cons call calls ih =>
    exact (step_touchedInTurn h call).trans (s.step_continues call)
      (ih (step_waiting hwaiting call) (step_ringHolds hwaiting h call))

end Session

variable {δ : Type} [GpuDevice δ] [FreshTextures δ]

/-- The slots of a new ring have textures of their own. -/
theorem BuiltFrom.texture_slotAt_inj {files : FileSystem} {preset : Preset}
    {settings : ChainSettings} {pool : TexturePool} {passes : List CompiledPass}
    (h : BuiltFrom δ files preset settings pool passes) {i j : Nat}
    (hij : (pool.history.slotAt i).texture = (pool.history.slotAt j).texture) :
    i % historySlots = j % historySlots := by
  obtain ⟨slots, hhistory, d, d', hcreate⟩ := h.history
  obtain ⟨_, hdistinct⟩ :=
    (TexturePool.createHistory_distinct settings.maxInput historySlots d).of_ok hcreate
  rw [hhistory] at hij
  simp only [History.slotAt, History.ofTextures, Vector.getElem_map] at hij
  exact hdistinct _ _ (Nat.mod_lt i History.historySlots_pos)
    (Nat.mod_lt j History.historySlots_pos) hij

/-- No texture is both that of a frame and of one of the seven before it, or of two of those. -/
theorem BuiltFrom.textures_nodup {files : FileSystem} {preset : Preset}
    {settings : ChainSettings} {pool : TexturePool} {passes : List CompiledPass}
    (h : BuiltFrom δ files preset settings pool passes) (n : Nat) :
    ((pool.history.slotAt n :: (List.range previousFrames).map fun k =>
      pool.history.slotAt (n + previousFrames - k)).map (·.texture)).Nodup := by
  rw [History.slots_before, List.map_map]
  refine List.Nodup.map_on ?_ List.nodup_range
  intro i hi j hj hij
  have hmod := h.texture_slotAt_inj hij
  have hi := List.mem_range.mp hi
  have hj := List.mem_range.mp hj
  simp only [historySlots] at hi hj hmod
  omega

end PassChain
