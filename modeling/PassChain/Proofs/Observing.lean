import PassChain.Proofs.DeviceCalls
import PassChain.Proofs.RecorderHistory

/-! Any device under the eyes of an observer. -/
namespace PassChain

open Attempt

/-- What an observer is told: what a device is about to be asked for, and what it has done. -/
inductive DeviceEvent where
  | wants (desc : TextureDesc)
  | created (id : TextureId)
  | released (id : TextureId)
  | writes (id : TextureId)
  | wrote (id : TextureId) (size : Size) (data : List UInt8)
  | clears (id : TextureId)
  | cleared (id : TextureId)
  | begins
  /-- a frame has been opened -/
  | began
  /-- a draw is asked for, whatever comes of it -/
  | asked (call : DrawCall)
  /-- a draw has been made -/
  | drew (call : DrawCall)
deriving DecidableEq

/-- Notes of what happens to a device. -/
class Observer (ν : Type) where
  note : DeviceEvent → ν → ν
  /-- The error with which the device is kept from what it is about to be asked for. -/
  refusal? : DeviceEvent → ν → Option Error

/-- An observer that keeps the device from nothing. -/
class Unobtrusive (ν : Type) [Observer ν] : Prop where
  refusal?_eq : ∀ (event : DeviceEvent) (notes : ν), Observer.refusal? event notes = none

/-- A device, and the notes of its observer. -/
structure Observed (ν δ : Type) where
  inner : δ
  notes : ν

namespace Observed

variable {ν δ : Type} [Observer ν]

/-- The observer is told of an event. -/
def tell (event : DeviceEvent) (w : Observed ν δ) : Observed ν δ :=
  { w with notes := Observer.note event w.notes }

omit [Observer ν] in
/-- A call to the device itself. -/
def onInner {α : Type} (call : Attempt δ α) : Attempt (Observed ν δ) α :=
  call.on (·.inner) fun inner w => { w with inner }

/-- A call that the observer is told of. It may not allow it. -/
def watch {α : Type} (before : DeviceEvent) (call : Attempt δ α) (after : α → DeviceEvent) :
    Attempt (Observed ν δ) α := do
  let w ← get
  set (w.tell before)
  match Observer.refusal? before w.notes with
  | some e => throw e
  | none =>
    let a ← onInner call
    modify (tell (after a))
    pure a

instance [GpuDevice δ] : GpuDevice (Observed ν δ) where
  createTexture desc := watch (.wants desc) (GpuDevice.createTexture desc) .created
  releaseTexture id w :=
    tell (.released id) { w with inner := GpuDevice.releaseTexture id w.inner }
  writeTexture id size data :=
    watch (.writes id) (GpuDevice.writeTexture id size data) fun _ => .wrote id size data
  clearTexture id := watch (.clears id) (GpuDevice.clearTexture id) fun _ => .cleared id
  createBuffer label kind size := onInner (GpuDevice.createBuffer label kind size)
  writeBuffer id data := onInner (GpuDevice.writeBuffer id data)
  releaseBuffer id w := { w with inner := GpuDevice.releaseBuffer id w.inner }
  createProgram label text program := onInner (GpuDevice.createProgram label text program)
  releaseProgram id w := { w with inner := GpuDevice.releaseProgram id w.inner }
  beginFrame := watch .begins GpuDevice.beginFrame fun _ => .began
  draw call := watch (.asked call) (GpuDevice.draw call) fun _ => .drew call
  endFrame := onInner GpuDevice.endFrame
  abortFrame w := { w with inner := GpuDevice.abortFrame w.inner }
  bindResting id w := { w with inner := GpuDevice.bindResting id w.inner }
  maxDimension w := GpuDevice.maxDimension w.inner

/-- The host does to the device what it does when nobody looks. -/
instance [Adjustable δ] : Adjustable (Observed ν δ) where
  Change := Adjustable.Change δ
  adjust change w := { w with inner := Adjustable.adjust change w.inner }

variable {α : Type} {call : Attempt δ α} {before : DeviceEvent} {after : α → DeviceEvent}
  {w : Observed ν δ} {ok : α → Observed ν δ → Prop} {err : Error → Observed ν δ → Prop}

omit [Observer ν] in
theorem ends_onInner : (onInner call).Ends w ok err ↔
    call.Ends w.inner (fun a d => ok a ⟨d, w.notes⟩) (fun e d => err e ⟨d, w.notes⟩) :=
  ends_on

/-- What may follow when the observer is told of a call. -/
theorem watch_ends (hrefused : ∀ e, Observer.refusal? before w.notes = some e →
      err e (w.tell before))
    (hcall : Observer.refusal? before w.notes = none → call.Ends w.inner
      (fun a d => ok a (tell (after a) ⟨d, (w.tell before).notes⟩))
      (fun e d => err e ⟨d, (w.tell before).notes⟩)) :
    (watch before call after).Ends w ok err := by
  simp only [watch, ends_bind, ends_get, ends_set]
  split
  · rename_i e he
    exact hrefused e he
  · rename_i hnone
    simp only [ends_bind, ends_modify, ends_pure, ends_onInner]
    exact hcall hnone

theorem ends_watch [Unobtrusive ν] : (watch before call after).Ends w ok err ↔
    call.Ends w.inner (fun a d => ok a (tell (after a) ⟨d, (w.tell before).notes⟩))
      (fun e d => err e ⟨d, (w.tell before).notes⟩) := by
  simp only [watch, ends_bind, ends_get, ends_set, Unobtrusive.refusal?_eq, ends_modify, ends_pure,
    ends_onInner]
  rfl

/-- An observer breaks nothing that the device keeps. -/
theorem keeps_inner [GpuDevice δ] {I : δ → Prop} (hI : KeptByCalls I) :
    KeptByCalls fun w : Observed ν δ => I w.inner := by
  have hinner {α : Type} {call : Attempt δ α} (hcall : Keeps I call) :
      Keeps (fun w : Observed ν δ => I w.inner) (onInner call) :=
    fun w h => ends_onInner.mpr (hcall w.inner h)
  have hwatch {α : Type} {before : DeviceEvent} {call : Attempt δ α} {after : α → DeviceEvent}
      (hcall : Keeps I call) :
      Keeps (fun w : Observed ν δ => I w.inner) (watch before call after) :=
    fun w h => watch_ends (fun _ _ => h) (fun _ => hcall w.inner h)
  exact {
    createTexture := fun desc => hwatch (hI.createTexture desc)
    releaseTexture := fun id w => hI.releaseTexture id w.inner
    writeTexture := fun id size data => hwatch (hI.writeTexture id size data)
    clearTexture := fun id => hwatch (hI.clearTexture id)
    createBuffer := fun label kind size => hinner (hI.createBuffer label kind size)
    writeBuffer := fun id data => hinner (hI.writeBuffer id data)
    releaseBuffer := fun id w => hI.releaseBuffer id w.inner
    createProgram := fun label text program => hinner (hI.createProgram label text program)
    releaseProgram := fun id w => hI.releaseProgram id w.inner
    beginFrame := hwatch hI.beginFrame
    draw := fun call => hwatch (hI.draw call)
    endFrame := hinner hI.endFrame
    abortFrame := fun w => hI.abortFrame w.inner
    bindResting := fun id w => hI.bindResting id w.inner }

end Observed

/-- A device that gives each new texture an id which is in no use. -/
class FreshTextures (δ : Type) [GpuDevice δ] where
  /-- the ids that new textures keep clear of -/
  used : δ → TextureId → Prop
  createTexture_ends : ∀ desc d, (GpuDevice.createTexture desc).Ends d
    (fun id d' => ¬ used d id ∧ used d' id ∧ ∀ other, used d other → used d' other)
    (fun _ _ => True)

/-- The textures in use on `d` are in use on `d'`. -/
def FreshTextures.Lasts {δ : Type} [GpuDevice δ] [FreshTextures δ] (d d' : δ) : Prop :=
  ∀ id, used d id → used d' id

/-- A device whose textures stay in use, whatever it is asked for and whatever its host does. -/
class LastingTextures (δ : Type) [GpuDevice δ] [Adjustable δ] extends FreshTextures δ where
  lasts_kept : ∀ d : δ, KeptByCalls (FreshTextures.Lasts d)
  lasts_adjust : ∀ (change : Adjustable.Change δ) (d : δ),
    FreshTextures.Lasts d (Adjustable.adjust change d)

instance : FreshTextures Recorder where
  used r id := id.index < r.nextId
  createTexture_ends desc r := by
    refine (Recorder.createTexture_ends r desc).mono ?_ (fun _ _ _ => trivial)
    rintro id r' ⟨hid, hr', _⟩
    subst hid hr'
    exact ⟨Nat.lt_irrefl _, Nat.lt_succ_self _, fun _ => Nat.lt_succ_of_lt⟩

instance : LastingTextures Recorder where
  lasts_kept r := by
    apply Recorder.kept_of_after
    intro call r' hlasts id hid
    have hused : id.index < r'.nextId := hlasts id hid
    show id.index < (r'.after call).nextId
    rcases r'.step_index? call with ⟨_, hnext⟩ | ⟨_, hnext⟩ <;> omega
  lasts_adjust change r id hid := by
    cases change <;> exact hid

namespace Observed

variable {ν δ : Type} [Observer ν] [GpuDevice δ]

instance [FreshTextures δ] : FreshTextures (Observed ν δ) where
  used w id := FreshTextures.used w.inner id
  createTexture_ends desc w := by
    exact watch_ends (fun _ _ => trivial) (fun _ => FreshTextures.createTexture_ends desc w.inner)

instance [Adjustable δ] [LastingTextures δ] : LastingTextures (Observed ν δ) where
  lasts_kept w := keeps_inner (LastingTextures.lasts_kept w.inner)
  lasts_adjust change w := LastingTextures.lasts_adjust (δ := δ) change w.inner

end Observed

/-- The textures of a new ring are distinct. -/
theorem TexturePool.createHistory_distinct {δ : Type} [GpuDevice δ] [FreshTextures δ] (size : Size)
    (n : Nat) (d : δ) :
    (createHistory size n).Ends d
      (fun slots d' => (∀ (i : Nat) (hi : i < n), FreshTextures.used d' slots[i]) ∧
        ∀ (i j : Nat) (hi : i < n) (hj : j < n), slots[i] = slots[j] → i = j)
      (fun _ _ => True) := by
  induction n with
  | zero =>
    exact ⟨fun i hi => absurd hi (Nat.not_lt_zero i), fun i _ hi => absurd hi (Nat.not_lt_zero i)⟩
  | succ n ih =>
    simp only [createHistory, ends_bind, ends_pure]
    refine ih.mono_ok ?_
    rintro slots d₁ ⟨hused, hslots⟩
    refine (FreshTextures.createTexture_ends _ d₁).mono_ok ?_
    rintro id d₂ ⟨hfresh, hid, hkeep⟩
    have hne (i : Nat) (hi : i < n) : slots[i] ≠ id := fun h => hfresh (h ▸ hused i hi)
    constructor
    · intro i hi
      by_cases hlt : i < n
      · rw [Vector.getElem_push_lt hlt]
        exact hkeep _ (hused i hlt)
      · have heq : i = n := by omega
        subst heq
        simpa using hid
    · intro i j hi hj h
      by_cases hi' : i < n <;> by_cases hj' : j < n
      · rw [Vector.getElem_push_lt hi', Vector.getElem_push_lt hj'] at h
        exact hslots i j hi' hj' h
      · have heq : j = n := by omega
        subst heq
        rw [Vector.getElem_push_lt hi', Vector.getElem_push_eq] at h
        exact absurd h (hne i hi')
      · have heq : i = n := by omega
        subst heq
        rw [Vector.getElem_push_lt hj', Vector.getElem_push_eq] at h
        exact absurd h.symm (hne j hj')
      · omega

end PassChain
