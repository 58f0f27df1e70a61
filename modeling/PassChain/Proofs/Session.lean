import PassChain.Chain
import PassChain.Recorder

/-! A host at work: the calls it makes, in any order and number, and an account of the frames
that went in and came out. -/
namespace PassChain

/-- A device that its host can change between frames. -/
class Adjustable (δ : Type) where
  Change : Type
  adjust : Change → δ → δ

/-- How a host upsets a recorder. -/
inductive FaultChange where
  | failAllocations (pattern : String)
  | failUploads (pattern : String)
  | clear

instance : Adjustable Recorder where
  Change := FaultChange
  adjust
    | .failAllocations pattern, r => r.failAllocations pattern
    | .failUploads pattern, r => r.failUploads pattern
    | .clear, r => r.clearFaults

/-- What a host can ask of a chain. -/
inductive HostCall (δ : Type) [Adjustable δ] where
  | submit (frame : Frame)
  | setViewport (viewport : Viewport)
  | setRotation (turns : UInt32)
  | setDirection (direction : Direction)
  | setTracker (tracker : Tracker)
  /-- new contents of the memory that variables are tracked in -/
  | setMemory (memory : List UInt8)
  | adjust (change : Adjustable.Change δ)
  | render

/-- A chain, and the sizes of the frames it has accepted and shown, the first ones first. -/
structure Session (δ : Type) where
  chain : Chain δ
  accepted : List Size := []
  shown : List Size := []

namespace Chain

variable {δ : Type}

/-- Whether the last call to render showed a frame. -/
def hasPresented (c : Chain δ) : Bool := c.report.any (·.isPresented)

end Chain

namespace Session

variable {δ : Type} [GpuDevice δ] [Adjustable δ]

/-- A chain before its host has asked anything of it. -/
def start (c : Chain δ) : Session δ := { chain := c }

/-- The size of the frame accepted last. -/
def lastAccepted (s : Session δ) : Size := s.accepted.getLast?.getD ⟨0, 0⟩

/-- One call. A frame counts as accepted when handing it in succeeds, and as shown when a call to
render presents it. -/
def step (s : Session δ) : HostCall δ → Session δ
  | .submit frame =>
    match Chain.submit frame s.chain with
    | .ok () c => { s with chain := c, accepted := s.accepted ++ [frame.size] }
    | .error _ c => { s with chain := c }
  | .setViewport viewport => { s with chain := s.chain.setViewport viewport }
  | .setRotation turns => { s with chain := s.chain.setRotation turns }
  | .setDirection direction => { s with chain := s.chain.setDirection direction }
  | .setTracker tracker => { s with chain := s.chain.setTracker tracker }
  | .setMemory memory => { s with chain := s.chain.changeMemory fun m => { m with memory } }
  | .adjust change => { s with chain := s.chain.mapDevice (Adjustable.adjust change) }
  | .render =>
    let c := s.chain.render.2
    { s with chain := c, shown := if c.hasPresented then s.shown ++ [s.lastAccepted] else s.shown }

/-- Calls one after another. -/
def run (s : Session δ) (calls : List (HostCall δ)) : Session δ := calls.foldl step s

theorem run_append (s : Session δ) (xs ys : List (HostCall δ)) :
    s.run (xs ++ ys) = (s.run xs).run ys := by
  simp [run]

/-- What holds at first and is kept by every call holds after any calls. -/
theorem run_induction {P : Session δ → Prop} (hstep : ∀ s call, P s → P (s.step call))
    {s : Session δ} (h : P s) (calls : List (HostCall δ)) : P (s.run calls) := by
  induction calls generalizing s with
  | nil => exact h
  | cons call calls ih => exact ih (hstep s call h)

end Session

end PassChain
