import PassChain.Device
import PassChain.History

/-!
All textures of a chain: the ring of input frames, one target for each pass that does not draw
on the screen, the lookup textures, and one black pixel for whatever is missing.
-/

namespace PassChain

structure RenderTarget where
  texture : TextureId
  /-- the size of the picture -/
  logical : Size
  /-- the size as allocated -/
  texel : Size
  format : TexelFormat
deriving DecidableEq, Repr

/-- How a target was come by. -/
inductive TargetStatus where
  | reused
  | created
  | resized
deriving DecidableEq, Repr

/-- Whether nothing has been drawn into the target yet. -/
def TargetStatus.isFresh : TargetStatus → Bool
  | reused => false
  | created | resized => true

structure TexturePool where
  history : History
  /-- one place per pass, empty until the pass first draws -/
  targets : List (Option RenderTarget)
  lookups : List LookupTexture
  /-- an opaque black pixel -/
  fallback : TextureId
  /-- allocate targets at powers of two -/
  pow2 : Bool
deriving DecidableEq, Repr

/-- The next power of two. Beyond `2 ^ 31` there is none in 32 bits. -/
def nextPowerOfTwo? (n : UInt32) : Option UInt32 :=
  if n ≤ 1 then some 1
  else if n ≤ 2147483648 then some (.ofNat (Nat.pow 2 ((n.toNat - 1).log2 + 1)))
  else none

/-- Whether both edges lie between one and a limit. -/
def Size.within (s limit : Size) : Bool :=
  1 ≤ s.width && 1 ≤ s.height && s.width ≤ limit.width && s.height ≤ limit.height

namespace TexturePool

section

variable {δ : Type} [GpuDevice δ]

/-- Creates the first `n` textures of the ring of input frames. -/
def createHistory (size : Size) : (n : Nat) → Attempt δ (Vector TextureId n)
  | 0 => pure #v[]
  | n + 1 => do
    let earlier ← createHistory size n
    let texture ← GpuDevice.createTexture ⟨s!"history{n}", size, .bgra8, false⟩
    pure (earlier.push texture)

/-- A pool with places for `targetCount` targets and input frames of up to `maxInput`. -/
def create (targetCount : Nat) (maxInput : Size) (pow2 : Bool) : Attempt δ TexturePool := do
  let limit := GpuDevice.maxDimension (← get)
  if !maxInput.within ⟨limit, limit⟩ then throw (.pool (.inputLimit maxInput limit))
  let slots ← createHistory maxInput historySlots
  let fallback ← GpuDevice.createTexture ⟨"fallback", ⟨1, 1⟩, .rgba8, false⟩
  GpuDevice.writeTexture fallback ⟨1, 1⟩ [0, 0, 0, 0xff]
  pure {
    history := .ofTextures slots maxInput
    targets := List.replicate targetCount none
    lookups := [], fallback, pow2 }

def target? (pool : TexturePool) (pass : Nat) : Option RenderTarget := (pool.targets[pass]?).join

/-- The size at which a target for a picture is allocated, unless padding overflows. -/
def texelSize? (pool : TexturePool) (logical : Size) : Option Size :=
  if pool.pow2 then
    match nextPowerOfTwo? logical.width, nextPowerOfTwo? logical.height with
    | some width, some height => some ⟨width, height⟩
    | _, _ => none
  else some logical

/-- Makes sure that a pass has a target for a picture of this size and format. A target is kept
while neither changes; an old one is released only once the new one is there. -/
def ensureTarget (pool : TexturePool) (pass : Nat) (logical : Size) (format : TexelFormat) :
    Attempt δ (RenderTarget × TargetStatus × TexturePool) := do
  match pool.targets[pass]? with
  | none => throw (.pool (.noTargetSlot pass))
  | some held =>
    match held.filter fun t => t.logical == logical && t.format == format with
    | some target => pure (target, .reused, pool)
    | none =>
      match pool.texelSize? logical with
      | none => throw (.pool (.paddingOverflow logical))
      | some texel =>
        let limit := GpuDevice.maxDimension (← get)
        if limit < texel.width ∨ limit < texel.height then
          throw (.pool (.targetSize pass texel limit))
        let texture ← GpuDevice.createTexture ⟨s!"pass{pass}-target", texel, format, true⟩
        let target : RenderTarget := { texture, logical, texel, format }
        let pool := { pool with targets := pool.targets.set pass (some target) }
        match held with
        | none => pure (target, .created, pool)
        | some old =>
          modify (GpuDevice.releaseTexture old.texture)
          pure (target, .resized, pool)

/-- Puts a frame into the current slot of the ring. A slot that held a frame of another size is
cleared first, so that nothing of that frame is left around the new one. -/
def writeFrame (pool : TexturePool) (frame : Frame) : Attempt δ TexturePool := do
  let limit := pool.history.texel
  if !frame.size.within limit then throw (.pool (.frameSize frame.size limit))
  let rows ← Attempt.ofExcept .frame frame.toBgra
  let slot := pool.history.current
  if slot.size ≠ frame.size then GpuDevice.clearTexture slot.texture
  GpuDevice.writeTexture slot.texture frame.size rows
  pure { pool with history := pool.history.resizeCurrent frame.size }

/-- Commits the current frame; the next one goes to the slot that is answered. -/
def advance (pool : TexturePool) : TexturePool := { pool with history := pool.history.advance }

def lookup? (pool : TexturePool) (id : String) : Option LookupTexture :=
  pool.lookups.find? (·.id == id)

/-- Adds a lookup texture. -/
def insertLookup (pool : TexturePool) (description : LookupImage) (image : Image) :
    Attempt δ TexturePool := do
  if (pool.lookup? description.id).isSome then
    throw (.pool (.duplicateLookup description.id))
  let limit := GpuDevice.maxDimension (← get)
  if !image.size.within ⟨limit, limit⟩ then
    throw (.pool (.lookupSize description.id image.size limit))
  let texture ← GpuDevice.createTexture ⟨s!"lut:{description.id}", image.size, .rgba8, false⟩
  try GpuDevice.writeTexture texture image.size image.rgba
  catch e =>
    modify (GpuDevice.releaseTexture texture)
    throw e
  let lookup : LookupTexture := {
    id := description.id, texture, size := image.size
    filter := description.filter, wrap := description.wrap }
  pure { pool with lookups := pool.lookups ++ [lookup] }

/-- Adds a lookup texture from its file. -/
def loadLookup (pool : TexturePool) (files : FileSystem) (description : LookupImage) :
    Attempt δ TexturePool :=
  match files.readImage description.path with
  | none => throw (.image description.path)
  | some image => pool.insertLookup description image

def textures (pool : TexturePool) : List TextureId :=
  pool.history.slots.toList.map (·.texture) ++ pool.targets.filterMap (·.map (·.texture)) ++
    pool.lookups.map (·.texture) ++ [pool.fallback]

def releaseAll (pool : TexturePool) (device : δ) : TexturePool × δ :=
  ({ pool with targets := pool.targets.map fun _ => none, lookups := [] },
    pool.textures.foldl (fun device id => GpuDevice.releaseTexture id device) device)

end

end TexturePool

end PassChain
