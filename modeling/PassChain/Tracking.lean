import PassChain.Variable

/-!
Tracked variables: values taken from memory once per frame, and the two sources that supply
them, memory itself and a prepared script.
-/

namespace PassChain

/-- A variable's value in one frame. -/
structure TrackedValue where
  id : String
  value : Single
deriving DecidableEq, Repr

/-- A variable that reads outside the memory it is tracked in. -/
structure TrackingFault where
  id : String
  address : UInt32
  memorySize : Nat
deriving DecidableEq, Repr

def TrackingFault.message (f : TrackingFault) : String :=
  s!"variable `{f.id}` address {hexText f.address.toNat} out of bounds " ++
    s!"({f.memorySize} bytes of memory)"

namespace Variable

/-- The value in memory, least significant byte first; bytes outside memory read as zero. -/
def raw (v : Variable) (memory : List UInt8) : UInt32 :=
  let byte (address : Nat) : UInt32 := (memory[address]?.getD 0).toUInt32
  let lo := byte v.address.toNat
  match v.width with
  | .u8 => lo
  | .u16 => lo ||| byte (v.address.toNat + 1) <<< 8

/-- The value after mask and comparison. -/
def read (v : Variable) (memory : List UInt8) : UInt32 :=
  let raw := v.raw memory
  let masked := if v.mask ≠ 0 then raw &&& v.mask else raw
  if v.equal ≠ 0 then if masked = v.equal then 1 else 0 else masked

end Variable

/-- What is remembered of a variable between refreshes. Frames and changes are counted as far as
they go; a run that passes `2 ^ 64` of either is out of reach. -/
structure VariableState where
  seen : Bool := false
  last : UInt32 := 0
  previous : UInt32 := 0
  transition : Nat := 0
  transitionPrev : Nat := 0
  transitionCount : Nat := 0
deriving DecidableEq, Repr

namespace VariableState

/-- Takes in the value of frame `frame`. The first value is no change. -/
def observe (s : VariableState) (frame : Nat) (value : UInt32) : VariableState :=
  if s.seen then
    if value = s.last then { s with previous := s.last }
    else { s with
      previous := s.last
      last := value
      transitionPrev := s.transition
      transition := frame
      transitionCount := s.transitionCount + 1 }
  else { s with seen := true, last := value, previous := value }

/-- The number that a variable of this kind reports. -/
def report (s : VariableState) : VariableKind → Nat
  | .capture => s.last.toNat
  | .capturePrev => s.previous.toNat
  | .transition => s.transition
  | .transitionCount => s.transitionCount
  | .transitionPrev => s.transitionPrev

end VariableState

/-- Variables tracked in a memory that its host may change between frames. -/
structure MemoryTracker where
  memory : List UInt8
  vars : List (Variable × VariableState)
deriving DecidableEq, Repr

namespace MemoryTracker

/-- Refuses the first variable that does not fit the memory. -/
def checkBounds (memorySize : Nat) : List Variable → Except TrackingFault Unit
  | [] => .ok ()
  | v :: rest =>
    if v.address.toNat + v.width.byteSize ≤ memorySize then checkBounds memorySize rest
    else .error ⟨v.id, v.address, memorySize⟩

/-- A tracker that has seen no frame yet. -/
def start (memory : List UInt8) (vars : List Variable) :
    Except TrackingFault MemoryTracker := do
  checkBounds memory.length vars
  pure ⟨memory, vars.map fun v => (v, {})⟩

/-- One frame's values, in the order of the variables. -/
def refresh (t : MemoryTracker) (frame : Nat) : List TrackedValue × MemoryTracker :=
  let seen := t.vars.map fun (v, s) => (v, s.observe frame (v.read t.memory))
  (seen.map fun (v, s) => ⟨v.id, .ofNat (s.report v.kind)⟩, { t with vars := seen })

/-- Overwrites memory from `start` on, as far as it reaches. -/
def poke (t : MemoryTracker) (start : Nat) (bytes : List UInt8) : MemoryTracker :=
  let kept := bytes.take (t.memory.length - start)
  if t.memory.length < start then t
  else { t with memory := t.memory.take start ++ kept ++ t.memory.drop (start + kept.length) }

def truncate (t : MemoryTracker) (length : Nat) : MemoryTracker :=
  { t with memory := t.memory.take length }

end MemoryTracker

/-- A prepared list of values per refresh, and the frames it has been asked for. -/
structure Script where
  frames : List (List TrackedValue)
  calls : List Nat := []
deriving DecidableEq, Repr

/-- The next frame's values, none when the script has run out. -/
def Script.refresh (s : Script) (frame : Nat) : List TrackedValue × Script :=
  (s.frames.headD [], ⟨s.frames.tail, s.calls ++ [frame]⟩)

/-- A source of tracked values. -/
inductive Tracker where
  | memory (tracker : MemoryTracker)
  | script (script : Script)
deriving DecidableEq, Repr

/-- One frame's values. -/
def Tracker.refresh (t : Tracker) (frame : Nat) : List TrackedValue × Tracker :=
  match t with
  | memory m => let (values, m) := m.refresh frame; (values, .memory m)
  | script s => let (values, s) := s.refresh frame; (values, .script s)

end PassChain
