import PassChain.Geometry
import PassChain.Program
import PassChain.Sampling

/-!
What a pass hands to its program each frame. Every recognised member and texture is tied to its
source once, when the chain is built; each frame then fills the uniform buffer by a list of
writes and lists the textures to bind.
-/

namespace PassChain

/-- A texture as a pass sees it: its content's size and its allocated size. -/
structure TextureState where
  texture : TextureId
  content : Size
  allocated : Size
deriving DecidableEq, Repr, Inhabited

structure LookupTexture where
  id : String
  texture : TextureId
  size : Size
  filter : Filter
  wrap : Wrap
deriving DecidableEq, Repr

/-- What changes from frame to frame and from pass to pass. -/
structure FrameParams where
  mvp : Matrix4 Single
  source : TextureState
  outputSize : Size
  frameCount : Nat
  /-- forward is 1, rewinding −1 -/
  direction : Int
  /-- the input frame -/
  orig : TextureState
  /-- earlier input frames, the last one first -/
  history : List TextureState
  /-- outputs of the passes drawn so far -/
  outputs : List TextureState
  /-- tracked values, by variable -/
  tracked : List Single
  /-- bound where nothing else is -/
  fallback : TextureId
deriving DecidableEq, Repr

/-- Where a texture comes from. -/
inductive TextureSource where
  | source
  | orig
  | history (n : Nat)
  | output (pass : Nat)
  | lookup (texture : TextureId) (size : Size)
  | missing
deriving DecidableEq, Repr

namespace TextureSource

/-- The texture in a frame, if there is one. -/
def resolve? (s : TextureSource) (p : FrameParams) : Option TextureState :=
  match s with
  | source => some p.source
  | orig => some p.orig
  | history n => p.history[n]?
  | output i => p.outputs[i]?
  | lookup texture size => some ⟨texture, size, size⟩
  | missing => none

end TextureSource

/-- What is known of a chain when a pass is tied to its sources. -/
structure BindContext where
  lookups : List LookupTexture
  /-- the ids of the variables that are tracked -/
  varIds : List String
  /-- the chain's choice for filters left open -/
  smooth : Bool
deriving DecidableEq, Repr

namespace BindContext

/-- The first lookup texture of this id. -/
def lookup? (c : BindContext) (id : String) : Option LookupTexture :=
  c.lookups.find? (·.id == id)

/-- Where the pass at `index` finds a texture. A pass can be named only after it has drawn; one
step back past the first pass lies the input frame. -/
def sourceOf (c : BindContext) (index : Nat) : TextureRef → TextureSource
  | .source => .source
  | .orig => .orig
  | .prev n => if n < previousFrames then .history n else .missing
  | .pass n => if 1 ≤ n ∧ n - 1 < index then .output (n - 1) else .missing
  | .passPrev n =>
    if n = 0 ∨ index + 1 < n then .missing
    else if n = index + 1 then .orig
    else .output (index - n)
  | .lut id => match c.lookup? id with
    | some l => .lookup l.texture l.size
    | none => .missing

/-- The sampler of a texture: lookup textures have their own, all others that of the pass. -/
def samplerOf (c : BindContext) (own : Sampler) : TextureRef → Sampler
  | .lut id => match c.lookup? id with
    | some l => .resolve l.filter l.wrap c.smooth
    | none => own
  | _ => own

end BindContext

/-- What a write puts into the uniform buffer. -/
inductive UniformValue where
  | mvp
  | size (origin : TextureSource) (kind : SizeKind)
  | outputSize
  | frameCount
  | frameDirection
  | tracked (index : Nat)
deriving DecidableEq, Repr

structure UniformWrite where
  offset : Nat
  value : UniformValue
deriving DecidableEq, Repr

structure TextureWrite where
  binding : Nat
  samplerBinding : Option Nat
  source : TextureSource
  sampler : Sampler
deriving DecidableEq, Repr

structure TextureBinding where
  binding : Nat
  samplerBinding : Option Nat
  texture : TextureId
  sampler : Sampler
deriving DecidableEq, Repr

/-- The sources of one pass. -/
structure BindingTable where
  pass : Nat
  /-- the frame counter starts over after so many frames, never if this is 0 -/
  frameCountMod : UInt32
  uniformSize : Nat
  uniforms : List UniformWrite
  textures : List TextureWrite
deriving DecidableEq, Repr

/-- Overwrites bytes from `start` on; a value that does not fit is dropped whole. -/
def putBytes (out : List UInt8) (start : Nat) (bytes : List UInt8) : List UInt8 :=
  if start + bytes.length ≤ out.length then
    out.take start ++ bytes ++ out.drop (start + bytes.length)
  else out

def Size.toBytes (s : Size) : List UInt8 :=
  (Single.ofNat s.width.toNat).toBytes ++ (Single.ofNat s.height.toNat).toBytes

namespace BindingTable

/-- What a role puts into the buffer of the pass at `index`; nothing for variables that nobody
tracks. -/
def valueOf? (c : BindContext) (index : Nat) : Role → Option UniformValue
  | .mvp => some .mvp
  | .size texture kind => some (.size (c.sourceOf index texture) kind)
  | .outputSize => some .outputSize
  | .frameCount => some .frameCount
  | .frameDirection => some .frameDirection
  | .tracked id => (c.varIds.findIdx? (· == id)).map .tracked

/-- Ties a program to the pass at `index`, which samples with `sampler`. -/
def ofProgram (p : Program) (index : Nat) (frameCountMod : UInt32) (sampler : Sampler)
    (c : BindContext) : BindingTable where
  pass := index
  frameCountMod := frameCountMod
  uniformSize := p.uniformSize
  uniforms := p.fields.filterMap fun f => (valueOf? c index f.role).map (⟨f.offset, ·⟩)
  textures := p.textures.map fun s =>
    ⟨s.binding, s.sampler, c.sourceOf index s.texture, c.samplerOf sampler s.texture⟩

/-- The frame counter as the pass sees it. -/
def frameCount (t : BindingTable) (count : Nat) : Nat :=
  if t.frameCountMod = 0 then count else count % t.frameCountMod.toNat

/-- The bytes of a value in a frame. A size whose texture is missing is zero. -/
def bytesOf (t : BindingTable) (p : FrameParams) : UniformValue → List UInt8
  | .mvp => p.mvp.toBytes
  | .size origin kind =>
    let size := match origin.resolve? p, kind with
      | some s, .video => s.content
      | some s, .texture => s.allocated
      | none, _ => ⟨0, 0⟩
    size.toBytes
  | .outputSize => p.outputSize.toBytes
  | .frameCount => (Single.ofNat (t.frameCount p.frameCount)).toBytes
  | .frameDirection => (Single.ofInt p.direction).toBytes
  | .tracked index => (p.tracked[index]?.getD default).toBytes

/-- Fills a uniform buffer: all writes in order, each over what was there. -/
def write (t : BindingTable) (p : FrameParams) (out : List UInt8) : List UInt8 :=
  t.uniforms.foldl (fun out w => putBytes out w.offset (t.bytesOf p w.value)) out

/-- The textures of a frame, missing ones replaced by the fallback. -/
def bindings (t : BindingTable) (p : FrameParams) : List TextureBinding :=
  t.textures.map fun w =>
    ⟨w.binding, w.samplerBinding, ((w.source.resolve? p).map (·.texture)).getD p.fallback,
      w.sampler⟩

end BindingTable

end PassChain
