import PassChain.Scale

/-!
The ring of recent input frames. Its eight textures are made once; committing a frame only moves
the cursor that says which of them receives the next frame.
-/

namespace PassChain

structure TextureId where
  index : Nat
deriving DecidableEq, Repr, Inhabited

/-- A texture of the ring and the size of the frame last written to it, zero before the first. -/
structure HistorySlot where
  texture : TextureId
  size : Size
deriving DecidableEq, Repr, Inhabited

/-- Textures of the ring: the frame being written, and seven before it. -/
abbrev historySlots : Nat := 8

/-- How many earlier frames programs can refer to. -/
def previousFrames : Nat := historySlots - 1

/-- The ring: its slots, the slot that receives the current frame, and the size at which all
slots are allocated. -/
structure History where
  slots : Vector HistorySlot historySlots
  cursor : Fin historySlots
  texel : Size
deriving DecidableEq, Repr

namespace History

/-- A ring of textures that hold nothing yet. -/
def ofTextures (textures : Vector TextureId historySlots) (texel : Size) : History :=
  ⟨textures.map fun t => ⟨t, ⟨0, 0⟩⟩, 0, texel⟩

def current (h : History) : HistorySlot := h.slots[h.cursor]

/-- Notes the size of the frame in the current slot. -/
def resizeCurrent (h : History) (size : Size) : History :=
  { h with slots := h.slots.set h.cursor { h.current with size } }

/-- Commits the current slot and moves to the next one. -/
def advance (h : History) : History := { h with cursor := h.cursor + 1 }

/-- The slot committed `offset` advances ago, 0 being the last. -/
def backIndex (h : History) (offset : Nat) : Option (Fin historySlots) :=
  if offset < previousFrames then some (h.cursor + Fin.ofNat historySlots (previousFrames - offset))
  else none

/-- The frame committed `offset` advances ago. -/
def back (h : History) (offset : Nat) : Option HistorySlot :=
  (h.backIndex offset).map fun i => h.slots[i]

/-- The committed frames, the last one first. -/
def previous (h : History) : List HistorySlot :=
  (List.range previousFrames).filterMap h.back

end History

end PassChain
