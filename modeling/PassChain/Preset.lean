import PassChain.Path
import PassChain.Sampling
import PassChain.Scale
import PassChain.Variable

/-!
A preset: the passes of a chain in order, the images they look things up in, and the variables
they are shown.
-/

namespace PassChain

/-- Where the program of a pass comes from. -/
inductive Shader where
  | file (path : Path)
  /-- a program that comes with the chain -/
  | builtin (name : String)
  | inline (text : String)
deriving DecidableEq, Repr, Inhabited

/-- One pass as a preset describes it. -/
structure Pass where
  shader : Shader
  /-- the scale of both axes -/
  scale : Option ScaleRule := none
  /-- overrides `scale` for the horizontal axis -/
  scaleX : Option ScaleRule := none
  /-- overrides `scale` for the vertical axis -/
  scaleY : Option ScaleRule := none
  filter : Filter := .unspecified
  wrap : Wrap := .border
  /-- the frame counter starts over after so many frames, never if this is 0 -/
  frameCountMod : UInt32 := 0
  /-- asks for an output of floating point numbers -/
  floatTarget : Bool := false
deriving DecidableEq, Repr

/-- The rules of both axes. A pass without a scale keeps the size of its input, except that the
last one fills the viewport. -/
def Pass.scaleRules (p : Pass) (last : Bool) : ScaleRules :=
  let one : Single := .ofNat 1
  let both := p.scale.getD (if last then .viewport one else .input one)
  ⟨p.scaleX.getD both, p.scaleY.getD both⟩

/-- An image that passes look things up in. -/
structure LookupImage where
  id : String
  path : Path
  filter : Filter := .unspecified
  wrap : Wrap := .border
deriving DecidableEq, Repr

structure Preset where
  passes : List Pass := []
  lookups : List LookupImage := []
  vars : List Variable := []
deriving DecidableEq, Repr

/-- Why a preset describes nothing usable. -/
inductive PresetFault where
  | noPasses
  | emptyLookupId (index : Nat)
  | duplicateLookupId (id : String)
  | emptyVariableId (index : Nat)
  | duplicateVariableId (id : String)
deriving DecidableEq, Repr

def PresetFault.message : PresetFault → String
  | noPasses => "preset declares no passes"
  | emptyLookupId index => s!"lut #{index} has an empty id"
  | duplicateLookupId id => s!"duplicate lut id `{id}`"
  | emptyVariableId index => s!"variable #{index} has an empty id"
  | duplicateVariableId id => s!"duplicate variable id `{id}`"

namespace Preset

/-- A preset of one pass that fills the viewport. -/
def single (shader : Shader) : Preset := { passes := [{ shader }] }

/-- Refuses the first id that is empty or has been `seen`. -/
def checkIds (empty : Nat → PresetFault) (duplicate : String → PresetFault) :
    List String → List String → Except PresetFault Unit
  | _, [] => .ok ()
  | seen, id :: rest =>
    if id = "" then .error (empty seen.length)
    else if seen.contains id then .error (duplicate id)
    else checkIds empty duplicate (seen ++ [id]) rest

/-- Refuses presets without passes, and ids that name nothing or two things. -/
def validate (p : Preset) : Except PresetFault Unit := do
  if p.passes.isEmpty then .error .noPasses
  checkIds .emptyLookupId .duplicateLookupId [] (p.lookups.map (·.id))
  checkIds .emptyVariableId .duplicateVariableId [] (p.vars.map (·.id))

/-- The preset with all files as seen from `base`. -/
def resolveAgainst (p : Preset) (base : Path) : Preset :=
  { p with
    passes := p.passes.map fun pass => match pass.shader with
      | .file path => { pass with shader := .file (base.resolveAgainst path) }
      | _ => pass
    lookups := p.lookups.map fun image =>
      { image with path := base.resolveAgainst image.path } }

end Preset

end PassChain
