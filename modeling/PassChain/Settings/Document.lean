import PassChain.Files
import PassChain.Settings
import PassChain.Toml.Document
import PassChain.Toml.Printer

/-!
Settings as configuration documents, and the variables of the environment that override them.
-/

namespace PassChain

open Toml (Value Table Record)

namespace ChainSettings

/-- The settings that a value holds; what it leaves out keeps its default. -/
def ofValue? (v : Value) : Option ChainSettings := do
  let r ← v.record?
  let d : ChainSettings := {}
  let path (v : Value) : Option (Option Path) := v.text?.map fun t => some ⟨t⟩
  pure {
    preset := ← r.optional 0 "preset" path d.preset
    smooth := ← r.optional 1 "smooth" Value.boolean? d.smooth
    maxPasses := ← r.optional 2 "max_passes" (Value.below? UInt64.size) d.maxPasses
    maxInputWidth := ← r.optional 3 "max_input_width" Value.word? d.maxInputWidth
    maxInputHeight := ← r.optional 4 "max_input_height" Value.word? d.maxInputHeight
    texelAlignment := ← r.optional 5 "texel_alignment" Value.boolean? d.texelAlignment
    pow2Targets := ← r.optional 6 "pow2_targets" Value.boolean? d.pow2Targets }

def toValue (s : ChainSettings) : Value :=
  .table ((s.preset.map fun p => ("preset", .text p.text)).toList ++
    [("smooth", .boolean s.smooth), ("max_passes", .integer s.maxPasses),
      ("max_input_width", .integer s.maxInputWidth.toNat),
      ("max_input_height", .integer s.maxInputHeight.toNat),
      ("texel_alignment", .boolean s.texelAlignment),
      ("pow2_targets", .boolean s.pow2Targets)])

end ChainSettings

namespace DemoSettings

/-- The settings that a value holds; what it leaves out keeps its default. -/
def ofValue? (v : Value) : Option DemoSettings := do
  let r ← v.record?
  let d : DemoSettings := {}
  pure {
    output := ← r.optional 0 "output" (fun v => v.text?.map .mk) d.output
    frames := ← r.optional 1 "frames" Value.word? d.frames
    inputWidth := ← r.optional 2 "input_width" Value.word? d.inputWidth
    inputHeight := ← r.optional 3 "input_height" Value.word? d.inputHeight
    viewportWidth := ← r.optional 4 "viewport_width" Value.word? d.viewportWidth
    viewportHeight := ← r.optional 5 "viewport_height" Value.word? d.viewportHeight }

def toValue (s : DemoSettings) : Value :=
  .table [("output", .text s.output.text), ("frames", .integer s.frames.toNat),
    ("input_width", .integer s.inputWidth.toNat), ("input_height", .integer s.inputHeight.toNat),
    ("viewport_width", .integer s.viewportWidth.toNat),
    ("viewport_height", .integer s.viewportHeight.toNat)]

end DemoSettings

inductive SettingsFault where
  | unreadable (fault : ReadFault)
  /-- the text is no document, or not one of settings -/
  | malformed
deriving DecidableEq, Repr

def SettingsFault.message : SettingsFault → String
  | unreadable fault => s!"Failed to read config file: {fault.message}"
  | malformed => "Failed to parse config file"

abbrev Environment := List (String × String)

/-- Whether the value of a variable switches something on. -/
def isSwitchedOn (value : String) : Bool := value == "1" || value.toLower == "true"

/-- The number that the value of a variable writes, if it fits 64 bits. -/
def countOf? (value : String) : Option Nat :=
  let digits := match value.toList with
    | '+' :: rest => rest
    | text => text
  (numberOfDigits? digits).filter (· < UInt64.size)

namespace Settings

def ofTable? (fields : Table) : Option Settings := do
  let r : Record := .named fields
  pure {
    chain := ← r.optional 0 "chain" ChainSettings.ofValue? {}
    demo := ← r.optional 1 "demo" DemoSettings.ofValue? {} }

def toTable (s : Settings) : Table := [("chain", s.chain.toValue), ("demo", s.demo.toValue)]

/-- The settings as a text. Documents have no numbers of 64 bits or more. -/
def toText? (s : Settings) : Option String :=
  if s.chain.maxPasses < UInt64.size / 2 then some (Toml.print s.toTable) else none

def load (files : FileSystem) (path : Path) : Except SettingsFault Settings :=
  match files.readText path with
  | .error fault => .error (.unreadable fault)
  | .ok text => match (Toml.parse text).bind ofTable? with
    | none => .error .malformed
    | some s => .ok s

/-- The file in which settings are looked for. -/
def defaultPath : Path := ⟨"postfx.toml"⟩

/-- The settings of the current directory, or the defaults where there are none to be had. -/
def loadOrDefault (files : FileSystem) : Settings :=
  match load files defaultPath with
  | .ok s => s
  | .error _ => {}

/-- The settings with those variables of the environment in force that are set. -/
def withEnvironment (s : Settings) (env : Environment) : Settings :=
  let flag (name : String) (default : Bool) : Bool :=
    ((env.lookup name).map isSwitchedOn).getD default
  let c := s.chain
  { s with
    chain := { c with
      preset := ((env.lookup "POSTFX_PRESET").map .mk).or c.preset
      smooth := flag "POSTFX_SMOOTH" c.smooth
      maxPasses := ((env.lookup "POSTFX_MAX_PASSES").bind countOf?).getD c.maxPasses
      texelAlignment := flag "POSTFX_TEXEL_ALIGN" c.texelAlignment
      pow2Targets := flag "POSTFX_POW2_TARGETS" c.pow2Targets }
    demo := { s.demo with
      output := ((env.lookup "POSTFX_OUTPUT").map .mk).getD s.demo.output } }

/-- The settings of the current directory under an environment. -/
def current (files : FileSystem) (env : Environment) : Settings :=
  (loadOrDefault files).withEnvironment env

end Settings

end PassChain
