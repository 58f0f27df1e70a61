/-!
How textures are sampled.
-/

namespace PassChain

/-- Smooth or sharp sampling; left open, the chain decides. -/
inductive Filter where
  | unspecified
  | linear
  | nearest
deriving DecidableEq, Repr, Inhabited

def Filter.description : Filter → String
  | unspecified => "Unspecified"
  | linear => "Linear"
  | nearest => "Nearest"

/-- What is sampled beyond the edges of a texture. -/
inductive Wrap where
  | border
  | edge
  | repeated
  | mirroredRepeat
deriving DecidableEq, Repr, Inhabited

def Wrap.description : Wrap → String
  | border => "Border"
  | edge => "Edge"
  | repeated => "Repeat"
  | mirroredRepeat => "MirroredRepeat"

/-- How a device reads beyond the edges of a texture. -/
inductive AddressMode where
  | clampToBorder
  | clampToEdge
  | repeated
  | mirrorRepeat
deriving DecidableEq, Repr

/-- The address mode of a wrap mode; a device without borders repeats the edge instead. -/
def Wrap.addressMode (borders : Bool) : Wrap → AddressMode
  | border => if borders then .clampToBorder else .clampToEdge
  | edge => .clampToEdge
  | repeated => .repeated
  | mirroredRepeat => .mirrorRepeat

/-- A sampler with nothing left open. -/
structure Sampler where
  linear : Bool
  wrap : Wrap
deriving DecidableEq, Repr

/-- Settles a filter that was left open by the chain's own choice. -/
def Sampler.resolve (filter : Filter) (wrap : Wrap) (smooth : Bool) : Sampler :=
  { wrap, linear := match filter with
      | .linear => true
      | .nearest => false
      | .unspecified => smooth }

end PassChain
