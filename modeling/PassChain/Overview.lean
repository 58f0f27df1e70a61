import PassChain.Preset.Document
import PassChain.Settings.Document
import PassChain.Text.Quoted

/-!
An overview of the settings in force and of the preset they name, for people to read.
-/

namespace PassChain

/-- Text for the reader, and complaints about what could not be shown. -/
structure Overview where
  text : String
  complaints : List String
deriving DecidableEq, Repr

def unlines (lines : List String) : String := .join (lines.map (· ++ "\n"))

namespace ChainSettings

/-- The settings, a line each. -/
def overviewLines (s : ChainSettings) : List String :=
  let preset := match s.preset with
    | none => "None"
    | some path => s!"Some({quoted path.text})"
  ["Chain Settings:", s!"  Preset: {preset}", s!"  Smooth: {s.smooth}",
    s!"  Max Passes: {s.maxPasses}", s!"  Max Input: {s.maxInput.text}",
    s!"  Texel Alignment: {s.texelAlignment}", s!"  Pow2 Targets: {s.pow2Targets}"]

end ChainSettings

namespace DemoSettings

/-- The settings, a line each. -/
def overviewLines (s : DemoSettings) : List String :=
  ["Demo Settings:", s!"  Output: {quoted s.output.text}", s!"  Frames: {s.frames}",
    s!"  Input: {s.inputWidth}x{s.inputHeight}",
    s!"  Viewport: {s.viewportWidth}x{s.viewportHeight}"]

end DemoSettings

def Shader.description : Shader → String
  | file path => s!"File({quoted path.text})"
  | builtin name => s!"Builtin \x7b builtin: {quoted name} \x7d"
  | inline text => s!"Inline \x7b inline: {quoted text} \x7d"

namespace Preset

/-- The passes of a preset, a line each, the first of them at `index`. -/
def passLines (index : Nat) : List Pass → List String
  | [] => []
  | p :: rest =>
    let rules := p.scaleRules rest.isEmpty
    let scale := s!"scale=({rules.x.description}, {rules.y.description})"
    let sampling := s!"filter={p.filter.description} wrap={p.wrap.description}"
    s!"  pass {index}: {p.shader.description} {scale} {sampling}" :: passLines (index + 1) rest

/-- The preset, a line for each of its parts. -/
def overviewLines (p : Preset) : List String :=
  passLines 0 p.passes ++
    p.lookups.map (fun l => s!"  lut {l.id}: {quoted l.path.text}") ++
    p.vars.map fun v =>
      s!"  variable {v.id}: {v.kind.description} @ {hexText v.address.toNat}"

end Preset

/-- The overview of settings. -/
def Settings.overview (s : Settings) (files : FileSystem) : Overview :=
  let loaded := s.chain.preset.map fun path => (path, Preset.load files path)
  let (presetLines, presetComplaints) := match loaded with
    | none => ([], [])
    | some (path, .ok p) => ([s!"Preset {quoted path.text}:"] ++ p.overviewLines ++ [""], [])
    | some (_, .error fault) => ([], [s!"Failed to load preset: {fault.message}"])
  let (documentLines, documentComplaints) := match s.toText? with
    | some text => (["=== Serialized Configuration ===", text], [])
    | none => ([], ["Failed to serialize config: a number is out of range"])
  { text := unlines (["=== PostFX Configuration ===", ""] ++ s.chain.overviewLines ++ [""] ++
      s.demo.overviewLines ++ [""] ++ presetLines ++ documentLines)
    complaints := presetComplaints ++ documentComplaints }

/-- The overview of the settings of the current directory under an environment. -/
def overview (files : FileSystem) (env : Environment) : Overview :=
  (Settings.current files env).overview files

end PassChain
