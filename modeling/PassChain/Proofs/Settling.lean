import PassChain.Proofs.Observing
import PassChain.Proofs.PassDraws

/-! What a draw may sample, told from the log of its device, and what each step of a frame does to
the log. -/
namespace PassChain

open Attempt

/-- The texture that has been made or released, if any. -/
@[simp] def DeviceEvent.texture? : DeviceEvent → Option TextureId
  | created id => some id
  | released id => some id
  | _ => none

/-- What has happened on a device, the oldest first: frames have been opened, textures made and
released, and draws asked for and made. -/
structure Trace where
  events : List DeviceEvent := []

namespace Trace

/-- Whether an event is one to be logged. -/
def keeps : DeviceEvent → Bool
  | .created _ | .released _ | .began | .asked _ | .drew _ => true
  | _ => false

instance : Observer Trace where
  note event t := ⟨if keeps event then t.events ++ [event] else t.events⟩
  refusal? _ _ := none

instance : Unobtrusive Trace := ⟨fun _ _ => rfl⟩

end Trace

/-- A device beside a log. -/
abbrev Traced (δ : Type) := Observed Trace δ

section

variable {id : TextureId} {past : List DeviceEvent} {event : DeviceEvent} {pass : Nat}
  {standing : List TextureId}

/-- The texture has been neither made nor released. -/
def LeftAlone (id : TextureId) (events : List DeviceEvent) : Prop :=
  ∀ event ∈ events, event.texture? ≠ some id

/-- A pass of the frame opened last has drawn into the texture, which has been left alone since. -/
def DrawnBy (pass : Nat) (id : TextureId) (past : List DeviceEvent) : Prop :=
  ∃ before call after, past = before ++ .drew call :: after ∧ call.pass = pass ∧
    call.destination = .texture id ∧ .began ∉ after ∧ LeftAlone id after

/-- When `past` has happened, the draw samples nothing but `standing` textures, which have been
left alone, and what earlier passes of its frame have drawn. It draws into none of these. -/
def DrawCall.Settled (standing : List TextureId) (past : List DeviceEvent) (call : DrawCall) :
    Prop :=
  ∀ b ∈ call.textures, call.destination ≠ .texture b.texture ∧
    (b.texture ∈ standing ∧ LeftAlone b.texture past ∨
      ∃ pass < call.pass, DrawnBy pass b.texture past)

/-- It is so with each draw that a log tells of. -/
def AllSettled (standing : List TextureId) (log : List DeviceEvent) : Prop :=
  ∀ past call rest, log = past ++ .asked call :: rest → call.Settled standing past

theorem leftAlone_nil (id : TextureId) : LeftAlone id [] := fun _ h => absurd h List.not_mem_nil

theorem LeftAlone.concat (h : LeftAlone id past) (hevent : event.texture? ≠ some id) :
    LeftAlone id (past ++ [event]) := by
  intro other hother
  rcases List.mem_append.mp hother with hother | hother
  · exact h other hother
  · exact List.mem_singleton.mp hother ▸ hevent

theorem DrawnBy.concat (h : DrawnBy pass id past) (hbegan : event ≠ .began)
    (hevent : event.texture? ≠ some id) : DrawnBy pass id (past ++ [event]) := by
  obtain ⟨before, call, after, rfl, hpass, hdestination, hafter, halone⟩ := h
  refine ⟨before, call, after ++ [event], by simp, hpass, hdestination, ?_, halone.concat hevent⟩
  simp [hafter, hbegan.symm]

theorem allSettled_nil : AllSettled standing [] := by
  intro past call rest h
  simp at h

theorem AllSettled.concat (h : AllSettled standing past)
    (hevent : ∀ call, event = .asked call → call.Settled standing past) :
    AllSettled standing (past ++ [event]) := by
  intro before call rest hlog
  rcases List.eq_nil_or_concat rest with rfl | ⟨rest, last, rfl⟩
  · obtain ⟨rfl, hcall⟩ := List.append_inj' hlog rfl
    exact hevent call (List.cons.inj hcall).1
  · rw [List.concat_eq_append, ← List.cons_append, ← List.append_assoc] at hlog
    exact h before call rest (List.append_inj' hlog rfl).1

end

namespace TexturePool

/-- The textures that no pass draws into. -/
def standing (pool : TexturePool) : List TextureId :=
  pool.history.slots.toList.map (·.texture) ++ pool.lookups.map (·.texture) ++ [pool.fallback]

theorem slot_standing (pool : TexturePool) (i : Nat) (hi : i < historySlots) :
    pool.history.slots[i].texture ∈ pool.standing := by
  have hslot : pool.history.slots[i] ∈ pool.history.slots.toList := by simp
  simp only [standing, List.mem_append, List.mem_map]
  exact .inl (.inl ⟨_, hslot, rfl⟩)

theorem lookup_standing {pool : TexturePool} {l : LookupTexture} (hl : l ∈ pool.lookups) :
    l.texture ∈ pool.standing := by
  simp only [standing, List.mem_append, List.mem_map]
  exact .inl (.inr ⟨l, hl, rfl⟩)

theorem fallback_standing (pool : TexturePool) : pool.fallback ∈ pool.standing := by
  simp [standing]

theorem mem_standing_withLookup {pool : TexturePool} {l : LookupTexture} {id : TextureId} :
    id ∈ TexturePool.standing { pool with lookups := pool.lookups ++ [l] } ↔
      id ∈ pool.standing ∨ id = l.texture := by
  simp only [standing, List.map_append, List.map_cons, List.map_nil, List.mem_append,
    List.mem_singleton]
  grind

theorem Retargeted.standing {pool pool' : TexturePool} {first : Nat}
    (h : Retargeted pool pool' first) : pool'.standing = pool.standing := by
  unfold TexturePool.standing
  rw [h.history, h.lookups, h.fallback]

/-- Of what earlier passes draw, a pass samples their targets. -/
theorem mem_outputs {pool : TexturePool} {i : Nat} {state : TextureState}
    (h : state ∈ pool.outputs i) : ∃ j < i, ∃ t, pool.target? j = some t ∧ state = t.state := by
  induction i with
  | zero => simp [outputs] at h
  | succ i ih =>
    simp only [outputs, List.mem_append, Option.mem_toList, Option.map_eq_some_iff] at h
    rcases h with h | ⟨t, ht, rfl⟩
    · obtain ⟨j, hj, ht⟩ := ih h
      exact ⟨j, Nat.lt_succ_of_lt hj, ht⟩
    · exact ⟨i, Nat.lt_succ_self i, t, ht, rfl⟩

section

variable {δ : Type} [GpuDevice δ] [FreshTextures δ] {pool : TexturePool} {d d' : δ}
  {t : RenderTarget} {pass : Nat}

/-- The textures of a pool that no pass draws into are in use. -/
def InUse (pool : TexturePool) (d : δ) : Prop := ∀ id ∈ pool.standing, FreshTextures.used d id

theorem InUse.lasts (h : pool.InUse d) (hlasts : FreshTextures.Lasts d d') : pool.InUse d' :=
  fun id hid => hlasts id (h id hid)

/-- All textures of a pool are in use, and the target of a pass is no other texture of the pool. -/
structure Apart (pool : TexturePool) (d : δ) : Prop where
  standing : pool.InUse d
  targets : ∀ i t, pool.target? i = some t →
    FreshTextures.used d t.texture ∧ t.texture ∉ pool.standing
  distinct : ∀ i j t u, pool.target? i = some t → pool.target? j = some u →
    t.texture = u.texture → i = j

theorem Apart.lasts (h : pool.Apart d) (hlasts : FreshTextures.Lasts d d') : pool.Apart d' where
  standing := h.standing.lasts hlasts
  targets i t ht := ⟨hlasts _ (h.targets i t ht).1, (h.targets i t ht).2⟩
  distinct := h.distinct

/-- A pass may be given a texture that was in no use. -/
theorem Apart.withTarget (h : pool.Apart d) (hpass : pass < pool.targets.length)
    (hfresh : ¬ FreshTextures.used d t.texture) (hnew : FreshTextures.used d' t.texture)
    (hlasts : FreshTextures.Lasts d d') : (pool.withTarget pass t).Apart d' where
  standing := h.standing.lasts hlasts
  targets i u hu := by
    rw [target?_withTarget hpass] at hu
    split at hu
    · cases hu
      exact ⟨hnew, fun hid => hfresh (h.standing _ hid)⟩
    · exact (h.lasts hlasts).targets i u hu
  distinct i j u v hu hv huv := by
    have hne {k w} (hw : pool.target? k = some w) : w.texture ≠ t.texture := by
      intro heq
      exact hfresh (heq ▸ (h.targets k w hw).1)
    rw [target?_withTarget hpass] at hu hv
    split at hu <;> split at hv
    · omega
    · cases hu
      exact absurd huv.symm (hne hv)
    · cases hv
      exact absurd huv (hne hu)
    · exact h.distinct i j u v hu hv huv

end

end TexturePool

namespace Traced

variable {δ : Type} [GpuDevice δ] [Adjustable δ] [LastingTextures δ] {base past : List DeviceEvent}
  {index : Nat} {pool : TexturePool} {w w' : Traced δ} {t : RenderTarget}

/-- Since `base`, it is `past` that has happened to a device, all draws of it settled. Of the frame
opened last the passes before `index` have been drawn, and what they drew has been left alone. -/
structure Tracks (base past : List DeviceEvent) (index : Nat) (pool : TexturePool)
    (w : Traced δ) : Prop where
  events : w.notes.events = base ++ past
  apart : pool.Apart w
  settled : AllSettled pool.standing past
  standing : ∀ id ∈ pool.standing, LeftAlone id past
  drawn : ∀ i < index, ∃ t, pool.target? i = some t ∧ DrawnBy i t.texture past

theorem Tracks.lasts (h : Tracks base past index pool w) (hlasts : FreshTextures.Lasts w w')
    (hevents : w'.notes.events = w.notes.events) : Tracks base past index pool w' :=
  ⟨hevents.trans h.events, h.apart.lasts hlasts, h.settled, h.standing, h.drawn⟩

/-- A pass that has been drawn into its target counts as drawn. -/
theorem Tracks.next (h : Tracks base past index pool w) (ht : pool.target? index = some t)
    (hdrawn : DrawnBy index t.texture past) : Tracks base past (index + 1) pool w := by
  refine ⟨h.events, h.apart, h.settled, h.standing, ?_⟩
  intro i hi
  rcases Nat.lt_succ_iff_lt_or_eq.mp hi with hlt | rfl
  · exact h.drawn i hlt
  · exact ⟨t, ht, hdrawn⟩

theorem Tracks.earlier (h : Tracks base past index pool w) {first : Nat} (hle : first ≤ index) :
    Tracks base past first pool w :=
  ⟨h.events, h.apart, h.settled, h.standing, fun i hi => h.drawn i (by omega)⟩

/-- One more event, which leaves alone what the passes of the frame may still sample. -/
theorem Tracks.log (h : Tracks base past index pool w) (event : DeviceEvent)
    (hlasts : FreshTextures.Lasts w w') (hevents : w'.notes.events = w.notes.events ++ [event])
    (hframe : event = .began → index = 0)
    (hdraw : ∀ call, event = .asked call → call.Settled pool.standing past)
    (hremade : ∀ id, event.texture? = some id → id ∉ pool.standing ∧
      ∀ i < index, ∀ t, pool.target? i = some t → t.texture ≠ id) :
    Tracks base (past ++ [event]) index pool w' where
  events := by rw [hevents, h.events, List.append_assoc]
  apart := h.apart.lasts hlasts
  settled := h.settled.concat hdraw
  standing id hid := (h.standing id hid).concat fun hsame => (hremade id hsame).1 hid
  drawn i hi := by
    obtain ⟨t, ht, hdrawn⟩ := h.drawn i hi
    refine ⟨t, ht, hdrawn.concat ?_ ?_⟩
    · intro hbegan
      have hzero := hframe hbegan
      omega
    · intro hsame
      exact (hremade _ hsame).2 i hi t ht rfl

/-- A call that the log takes no notice of. -/
theorem Tracks.onInner {α : Type} {call : Attempt δ α} (h : Tracks base past index pool w)
    (hcall : ∀ d, Keeps (FreshTextures.Lasts d) call) :
    (Observed.onInner call).Ends w (fun _ => Tracks base past index pool)
      (fun _ => Tracks base past index pool) :=
  Observed.ends_onInner.mpr ((hcall w.inner w.inner fun _ hid => hid).mono
    (fun _ _ hlasts => h.lasts hlasts rfl) (fun _ _ hlasts => h.lasts hlasts rfl))

theorem Tracks.watch {α : Type} {call : Attempt δ α} {before : DeviceEvent}
    {after : α → DeviceEvent} (h : Tracks base past index pool w)
    (hcall : ∀ d, Keeps (FreshTextures.Lasts d) call) (hbefore : Trace.keeps before = false)
    (hafter : ∀ a, Trace.keeps (after a) = false) :
    (Observed.watch before call after).Ends w (fun _ => Tracks base past index pool)
      (fun _ => Tracks base past index pool) := by
  have hunlogged {event : DeviceEvent} (hevent : Trace.keeps event = false) (w : Traced δ) :
      (w.tell event).notes.events = w.notes.events := by
    simp [Observed.tell, Observer.note, hevent]
  refine Observed.ends_watch.mpr ((hcall w.inner w.inner fun _ hid => hid).mono ?_ ?_)
  · intro a d hlasts
    exact h.lasts hlasts ((hunlogged (hafter a) _).trans (hunlogged hbefore w))
  · intro _ d hlasts
    exact h.lasts hlasts (hunlogged hbefore w)

theorem Tracks.upload (h : Tracks base past index pool w) (id : BufferId) (bytes : List UInt8) :
    (GpuDevice.writeBuffer id bytes).Ends w (fun _ => Tracks base past index pool)
      (fun _ => Tracks base past index pool) :=
  h.onInner fun d => (LastingTextures.lasts_kept d).writeBuffer id bytes

theorem Tracks.withTarget (h : Tracks base past index pool w)
    (hapart : (pool.withTarget index t).Apart w) :
    Tracks base past index (pool.withTarget index t) w where
  events := h.events
  apart := hapart
  settled := h.settled
  standing := h.standing
  drawn i hi := by
    rw [TexturePool.withTarget_retargeted.earlier i hi]
    exact h.drawn i hi

theorem createTexture_logs (desc : TextureDesc) (w : Traced δ) :
    (GpuDevice.createTexture desc).Ends w
      (fun id w' => w'.notes.events = w.notes.events ++ [.created id] ∧ ¬ FreshTextures.used w id ∧
        FreshTextures.used w' id ∧ FreshTextures.Lasts w w')
      (fun _ w' => w'.notes.events = w.notes.events ∧ FreshTextures.Lasts w w') := by
  have hkept := (LastingTextures.lasts_kept w.inner).createTexture desc w.inner fun _ hid => hid
  refine Observed.ends_watch.mpr (((FreshTextures.createTexture_ends desc w.inner).and hkept).mono
    ?_ (fun _ _ herr => ⟨rfl, herr.2⟩))
  rintro id d ⟨hnew, _⟩
  exact ⟨rfl, hnew⟩

/-- A texture that has been in no use is none that passes may sample. -/
theorem Tracks.created (h : Tracks base past index pool w) {id : TextureId}
    (hfresh : ¬ FreshTextures.used w id) (hlasts : FreshTextures.Lasts w w')
    (hevents : w'.notes.events = w.notes.events ++ [.created id]) :
    Tracks base (past ++ [.created id]) index pool w' := by
  refine h.log (.created id) hlasts hevents (by simp) (by simp) ?_
  rintro _ ⟨⟩
  constructor
  · intro hid
    exact hfresh (h.apart.standing id hid)
  · rintro i _ t ht rfl
    exact hfresh (h.apart.targets i t ht).1

/-- Nor is the target of the next pass, which may be released. -/
theorem Tracks.released (h : Tracks base past index pool w) (ht : pool.target? index = some t) :
    Tracks base (past ++ [.released t.texture]) index pool
      (GpuDevice.releaseTexture t.texture w) := by
  have hlasts := (LastingTextures.lasts_kept w).releaseTexture t.texture w fun _ hid => hid
  refine h.log (.released t.texture) hlasts rfl (by simp) (by simp) ?_
  rintro _ ⟨⟩
  constructor
  · exact (h.apart.targets index t ht).2
  · intro i hi u hu hsame
    have heq := h.apart.distinct i index u t hu ht hsame
    omega

/-- While a pass gets its target, what it may sample is left alone. -/
theorem ensureTarget_tracks (h : Tracks base past index pool w) (logical : Size)
    (format : TexelFormat) :
    (pool.ensureTarget index logical format).Ends w
      (fun r w' => ∃ past', Tracks base past' index r.2.2 w')
      (fun _ w' => Tracks base past index pool w') := by
  refine TexturePool.ensureTarget_cases (fun _ => h) (fun _ _ _ _ => ⟨past, h⟩) (fun _ _ => h)
    (fun _ _ _ _ => h) ?_ ?_
  · intro texel hlt _ _ _
    refine (createTexture_logs _ w).mono ?_ (fun _ _ hw => h.lasts hw.2 hw.1)
    rintro id w₁ ⟨hevents, hfresh, hnew, hlasts⟩
    have hapart := h.apart.withTarget (t := ⟨id, logical, texel, format⟩) hlt hfresh hnew hlasts
    exact ⟨_, (h.created hfresh hlasts hevents).withTarget hapart⟩
  · intro texel old hlt hold _ _ _
    refine (createTexture_logs _ w).mono ?_ (fun _ _ hw => h.lasts hw.2 hw.1)
    rintro id w₁ ⟨hevents, hfresh, hnew, hlasts⟩
    have hapart := h.apart.withTarget (t := ⟨id, logical, texel, format⟩) hlt hfresh hnew hlasts
    have hkept := (LastingTextures.lasts_kept w₁).releaseTexture old.texture w₁ fun _ hid => hid
    exact ⟨_, ((h.created hfresh hlasts hevents).released hold).withTarget (hapart.lasts hkept)⟩

/-- A draw that is settled may be asked for, and is noted for later ones. -/
theorem draw_tracks {call : DrawCall} (h : Tracks base past index pool w)
    (hcall : call.Settled pool.standing past) (hpass : call.pass = index) :
    (GpuDevice.draw call).Ends w
      (fun _ w' => ∃ past', Tracks base past' index pool w' ∧
        ∀ id, call.destination = .texture id → DrawnBy index id past')
      (fun _ w' => ∃ past', Tracks base past' index pool w') := by
  have hasked : Tracks base (past ++ [.asked call]) index pool (w.tell (.asked call)) := by
    refine h.log (.asked call) (fun _ hid => hid) rfl (by simp) ?_ (by simp)
    rintro _ ⟨⟩
    exact hcall
  have hkept := (LastingTextures.lasts_kept w.inner).draw call w.inner fun _ hid => hid
  refine Observed.ends_watch.mpr (hkept.mono ?_ (fun _ _ hlasts => ⟨_, hasked.lasts hlasts rfl⟩))
  intro _ d hlasts
  refine ⟨_, hasked.log (.drew call) hlasts rfl (by simp) (by simp) (by simp), ?_⟩
  intro id hid
  exact ⟨_, call, [], rfl, hpass, hid, List.not_mem_nil, leftAlone_nil id⟩

variable {pool' : TexturePool}

/-- Since `base`, all draws of the device have been settled. -/
def Settled (base : List DeviceEvent) (pool : TexturePool) (w : Traced δ) : Prop :=
  ∃ past, Tracks base past 0 pool w

theorem Settled.of_pool (h : Settled base pool w) (hstanding : pool'.standing = pool.standing)
    (htargets : pool'.targets = pool.targets) : Settled base pool' w := by
  obtain ⟨past, h⟩ := h
  have htarget (i : Nat) : pool'.target? i = pool.target? i := by
    unfold TexturePool.target?
    rw [htargets]
  refine ⟨past, h.events, ⟨?_, ?_, ?_⟩, hstanding ▸ h.settled, hstanding ▸ h.standing, by simp⟩
  · exact fun id hid => h.apart.standing id (hstanding ▸ hid)
  · simpa only [htarget, hstanding] using h.apart.targets
  · simpa only [htarget] using h.apart.distinct

theorem Settled.lasts (h : Settled base pool w) (hlasts : FreshTextures.Lasts w w')
    (hevents : w'.notes.events = w.notes.events) : Settled base pool w' := by
  obtain ⟨past, h⟩ := h
  exact ⟨past, h.lasts hlasts hevents⟩

theorem Settled.onInner {α : Type} {call : Attempt δ α} (h : Settled base pool w)
    (hcall : ∀ d, Keeps (FreshTextures.Lasts d) call) :
    (Observed.onInner call).Ends w (fun _ => Settled base pool) (fun _ => Settled base pool) := by
  obtain ⟨past, h⟩ := h
  exact (h.onInner hcall).mono (fun _ _ hw => ⟨past, hw⟩) (fun _ _ hw => ⟨past, hw⟩)

theorem Settled.abortFrame (h : Settled base pool w) : Settled base pool (GpuDevice.abortFrame w) :=
  h.lasts ((LastingTextures.lasts_kept w).abortFrame w fun _ hid => hid) rfl

theorem Settled.bindResting (h : Settled base pool w) (stock : ProgramId) :
    Settled base pool (GpuDevice.bindResting stock w) :=
  h.lasts ((LastingTextures.lasts_kept w).bindResting stock w fun _ hid => hid) rfl

theorem Settled.beginFrame (h : Settled base pool w) :
    GpuDevice.beginFrame.Ends w (fun _ => Settled base pool) (fun _ => Settled base pool) := by
  obtain ⟨past, h⟩ := h
  have hkept := (LastingTextures.lasts_kept w.inner).beginFrame w.inner fun _ hid => hid
  refine Observed.ends_watch.mpr (hkept.mono ?_ (fun _ _ hlasts => ⟨_, h.lasts hlasts rfl⟩))
  intro _ d hlasts
  exact ⟨_, h.log .began hlasts rfl (fun _ => rfl) (by simp) (by simp)⟩

theorem Settled.endFrame (h : Settled base pool w) :
    GpuDevice.endFrame.Ends w (fun _ => Settled base pool) (fun _ => Settled base pool) :=
  h.onInner fun d => (LastingTextures.lasts_kept d).endFrame

theorem Settled.watch {α : Type} {call : Attempt δ α} {before : DeviceEvent}
    {after : α → DeviceEvent} (h : Settled base pool w)
    (hcall : ∀ d, Keeps (FreshTextures.Lasts d) call) (hbefore : Trace.keeps before = false)
    (hafter : ∀ a, Trace.keeps (after a) = false) :
    (Observed.watch before call after).Ends w (fun _ => Settled base pool)
      (fun _ => Settled base pool) := by
  obtain ⟨past, h⟩ := h
  exact (h.watch hcall hbefore hafter).mono (fun _ _ hw => ⟨past, hw⟩) (fun _ _ hw => ⟨past, hw⟩)

/-- Handing in a frame draws nothing. -/
theorem Settled.writeFrame (h : Settled base pool w) (pool₁ : TexturePool) (frame : Frame) :
    (pool₁.writeFrame frame).Ends w (fun _ => Settled base pool) (fun _ => Settled base pool) := by
  have hwrite (id size data) (w : Traced δ) (h : Settled base pool w) :
      (GpuDevice.writeTexture id size data).Ends w (fun _ => Settled base pool)
        (fun _ => Settled base pool) :=
    h.watch (fun d => (LastingTextures.lasts_kept d).writeTexture id size data) rfl fun _ => rfl
  have hclear (id) : (GpuDevice.clearTexture id).Ends w (fun _ => Settled base pool)
      (fun _ => Settled base pool) :=
    h.watch (fun d => (LastingTextures.lasts_kept d).clearTexture id) rfl fun _ => rfl
  unfold TexturePool.writeFrame
  simp only [ends_bind, ends_ite, ends_throw, ends_ofExcept, ends_pure]
  refine ⟨fun _ => h, fun _ => ⟨fun rows _ => ⟨fun _ => ?_, fun _ => ?_⟩, fun _ _ => h⟩⟩
  · exact (hclear _).mono_ok fun _ w₁ h₁ => hwrite _ _ _ w₁ h₁
  · exact hwrite _ _ _ w h

end Traced

end PassChain
