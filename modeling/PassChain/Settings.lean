import PassChain.Path
import PassChain.Scale

/-!
Settings of a chain and of the demonstration that drives one.
-/

namespace PassChain

structure ChainSettings where
  /-- the preset to load; without one, frames pass through unchanged -/
  preset : Option Path := none
  /-- the filter of passes and lookup textures that leave it open -/
  smooth : Bool := false
  /-- how many passes a preset may have -/
  maxPasses : Nat := 16
  /-- the largest frame that can be submitted, and the size of the ring's textures -/
  maxInputWidth : UInt32 := 1024
  maxInputHeight : UInt32 := 1024
  /-- move quads by half a pixel, so that texel centres fall on pixel centres -/
  texelAlignment : Bool := true
  /-- allocate targets at powers of two -/
  pow2Targets : Bool := false
deriving DecidableEq, Repr

/-- The largest frame that can be submitted. -/
def ChainSettings.maxInput (s : ChainSettings) : Size := ⟨s.maxInputWidth, s.maxInputHeight⟩

/-- What the demonstration draws. -/
structure DemoSettings where
  /-- where the last picture goes -/
  output : Path := ⟨"postfx-out.png"⟩
  frames : UInt32 := 4
  inputWidth : UInt32 := 256
  inputHeight : UInt32 := 224
  viewportWidth : UInt32 := 1024
  viewportHeight : UInt32 := 768
deriving DecidableEq, Repr

structure Settings where
  chain : ChainSettings := {}
  demo : DemoSettings := {}
deriving DecidableEq, Repr

end PassChain
