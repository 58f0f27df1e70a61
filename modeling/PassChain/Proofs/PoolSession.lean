import PassChain.Pool
import PassChain.Proofs.DeviceCalls

/-! A pool at work on a device: what can be asked of it, in any order and number. -/
namespace PassChain

open Attempt

/-- What can be asked of a pool. -/
inductive PoolCall where
  | ensureTarget (pass : Nat) (logical : Size) (format : TexelFormat)
  | writeFrame (frame : Frame)
  | advance
  | insertLookup (description : LookupImage) (image : Image)
  | loadLookup (files : FileSystem) (description : LookupImage)
  | releaseAll

/-- Whether a call concerns the ring of input frames. -/
def PoolCall.isInput : PoolCall → Bool
  | writeFrame _ | advance => true
  | _ => false

/-- What a pool answers. -/
inductive PoolReply where
  | done
  | target (target : RenderTarget) (status : TargetStatus)
deriving DecidableEq, Repr

/-- A pool and the device that its textures are on. -/
structure PoolSession (δ : Type) where
  pool : TexturePool
  device : δ

namespace PoolSession

variable {δ : Type} [GpuDevice δ]

/-- Carries out a call on the device; the pool is replaced if it succeeds. -/
def renew {α : Type} (call : TexturePool → Attempt δ α) (pool : α → TexturePool) :
    Attempt (PoolSession δ) α := do
  let s ← get
  let a ← (call s.pool).on (·.device) fun device s => { s with device }
  modify fun s => { s with pool := pool a }
  pure a

/-- Carries out a call. -/
def exec : PoolCall → Attempt (PoolSession δ) PoolReply
  | .ensureTarget pass logical format => do
    let (target, status, _) ← renew (·.ensureTarget pass logical format) (·.2.2)
    pure (.target target status)
  | .writeFrame frame => do
    let _ ← renew (·.writeFrame frame) id
    pure .done
  | .advance => do
    modify fun s => { s with pool := s.pool.advance }
    pure .done
  | .insertLookup description image => do
    let _ ← renew (·.insertLookup description image) id
    pure .done
  | .loadLookup files description => do
    let _ ← renew (·.loadLookup files description) id
    pure .done
  | .releaseAll => do
    modify fun s => ⟨(s.pool.releaseAll s.device).1, (s.pool.releaseAll s.device).2⟩
    pure .done

/-- The pool and the device after a call, whatever came of it. -/
def after (s : PoolSession δ) (call : PoolCall) : PoolSession δ := ((exec call).outcome s).2

/-- Calls one after another. -/
def run (s : PoolSession δ) (calls : List PoolCall) : PoolSession δ := calls.foldl after s

omit [GpuDevice δ] in
@[simp] theorem ends_renew {α : Type} {call : TexturePool → Attempt δ α} {pool : α → TexturePool}
    {s : PoolSession δ} {ok : α → PoolSession δ → Prop} {err : Error → PoolSession δ → Prop} :
    (renew call pool).Ends s ok err ↔
      (call s.pool).Ends s.device (fun a d => ok a ⟨pool a, d⟩) (fun e d => err e ⟨s.pool, d⟩) := by
  simp only [renew, ends_bind, ends_get, ends_on, ends_modify, ends_pure]

/-- What holds in both endings of a call holds after it. -/
theorem after_of_ends {P : PoolSession δ → Prop} {s : PoolSession δ} {call : PoolCall}
    (h : (exec call).Ends s (fun _ => P) (fun _ => P)) : P (s.after call) := h.outcome

omit [GpuDevice δ] in
theorem renew_kept {I : δ → Prop} {α : Type} {call : TexturePool → Attempt δ α}
    {pool : α → TexturePool} (hcall : ∀ p, Keeps I (call p)) :
    Keeps (fun s : PoolSession δ => I s.device) (renew call pool) :=
  fun s hs => ends_renew.mpr (hcall s.pool s.device hs)

/-- What the calls of a device keep, the calls of a pool keep. -/
theorem exec_kept {I : δ → Prop} (hI : KeptByCalls I) (call : PoolCall) :
    Keeps (fun s : PoolSession δ => I s.device) (exec call) := by
  cases call with
  | ensureTarget pass logical format =>
    refine (renew_kept fun pool d hd => ?_).bind fun _ => keeps_pure _
    exact TexturePool.ensureTarget_keeps hI.frames.passes pool pass logical format hd
  | writeFrame frame =>
    exact (renew_kept fun pool => pool.writeFrame_kept hI frame).bind fun _ => keeps_pure _
  | insertLookup description image =>
    refine (renew_kept fun pool => ?_).bind fun _ => keeps_pure _
    exact pool.insertLookup_kept hI description image
  | loadLookup files description =>
    exact (renew_kept fun pool => pool.loadLookup_kept hI description).bind fun _ => keeps_pure _
  | advance => exact fun _ hs => hs
  | releaseAll => exact fun s hs => s.pool.releaseAll_kept hI hs

end PoolSession

end PassChain
