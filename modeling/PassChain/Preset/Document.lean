import PassChain.Files
import PassChain.Preset
import PassChain.Toml.Document
import PassChain.Toml.Printer

/-!
Presets as configuration documents. The values of a document are apart from its text: a preset
becomes a table and is found again in one, whatever the text looks like.
-/

namespace PassChain

open Toml (Value Table Record)

namespace ScaleRule

/-- The rule of a type name, from the one value that such a rule has. -/
def ofType? (type : String) (field? : String → Option Value) : Option ScaleRule :=
  match type with
  | "input" => ((field? "factor").bind Value.single?).map input
  | "viewport" => ((field? "factor").bind Value.single?).map viewport
  | "absolute" => ((field? "size").bind Value.word?).map absolute
  | _ => none

/-- The rule that a value holds: a table with a type, or an array of the type and the one value
that goes with it. -/
def ofValue? : Value → Option ScaleRule
  | .table fields => do ofType? (← (← fields.lookup "type").text?) fun name => fields.lookup name
  | .array [type, v] => do ofType? (← type.text?) fun _ => some v
  | _ => none

def toValue : ScaleRule → Value
  | input factor => .table [("type", .text "input"), ("factor", .float (.ofSingle factor))]
  | viewport factor => .table [("type", .text "viewport"), ("factor", .float (.ofSingle factor))]
  | absolute size => .table [("type", .text "absolute"), ("size", .integer size.toNat)]

end ScaleRule

namespace Filter

def name : Filter → String
  | unspecified => "unspecified"
  | linear => "linear"
  | nearest => "nearest"

def ofName? : String → Option Filter
  | "unspecified" => some unspecified
  | "linear" => some linear
  | "nearest" => some nearest
  | _ => none

def ofValue? (v : Value) : Option Filter := v.choice?.bind ofName?

end Filter

namespace Wrap

def name : Wrap → String
  | border => "border"
  | edge => "edge"
  | repeated => "repeat"
  | mirroredRepeat => "mirrored_repeat"

def ofName? : String → Option Wrap
  | "border" => some border
  | "edge" => some edge
  | "repeat" => some repeated
  | "mirrored_repeat" => some mirroredRepeat
  | _ => none

def ofValue? (v : Value) : Option Wrap := v.choice?.bind ofName?

end Wrap

namespace VariableKind

def name : VariableKind → String
  | capture => "capture"
  | capturePrev => "capture_prev"
  | transition => "transition"
  | transitionCount => "transition_count"
  | transitionPrev => "transition_prev"

def ofName? : String → Option VariableKind
  | "capture" => some capture
  | "capture_prev" => some capturePrev
  | "transition" => some transition
  | "transition_count" => some transitionCount
  | "transition_prev" => some transitionPrev
  | _ => none

def ofValue? (v : Value) : Option VariableKind := v.choice?.bind ofName?

end VariableKind

namespace VariableWidth

def name : VariableWidth → String
  | u8 => "u8"
  | u16 => "u16"

def ofName? : String → Option VariableWidth
  | "u8" => some u8
  | "u16" => some u16
  | _ => none

def ofValue? (v : Value) : Option VariableWidth := v.choice?.bind ofName?

end VariableWidth

def Path.ofValue? (v : Value) : Option Path := v.text?.map .mk

namespace Shader

/-- The text of a field of a table, or of an array of this one element. -/
def onlyField? (name : String) : Value → Option String
  | .table fields => (fields.lookup name).bind Value.text?
  | .array [v] => v.text?
  | _ => none

/-- The shader that a value holds: a path, a table with the name of a bundled program, or one
with the text of a program. The first that fits is taken. -/
def ofValue? (v : Value) : Option Shader :=
  match v.text?, onlyField? "builtin" v, onlyField? "inline" v with
  | some path, _, _ => some (file ⟨path⟩)
  | none, some name, _ => some (builtin name)
  | none, none, some text => some (inline text)
  | none, none, none => none

def toValue : Shader → Value
  | file path => .text path.text
  | builtin name => .table [("builtin", .text name)]
  | inline text => .table [("inline", .text text)]

end Shader

namespace Pass

def ofValue? (v : Value) : Option Pass := do
  let r ← v.record?
  let rule (v : Value) : Option (Option ScaleRule) := (ScaleRule.ofValue? v).map some
  pure {
    shader := ← r.required 0 "shader" Shader.ofValue?
    scale := ← r.optional 1 "scale" rule none
    scaleX := ← r.optional 2 "scale_x" rule none
    scaleY := ← r.optional 3 "scale_y" rule none
    filter := ← r.optional 4 "filter" Filter.ofValue? .unspecified
    wrap := ← r.optional 5 "wrap" Wrap.ofValue? .border
    frameCountMod := ← r.optional 6 "frame_count_mod" Value.word? 0
    floatTarget := ← r.optional 7 "float_framebuffer" Value.boolean? false }

def ruleField (name : String) (rule : Option ScaleRule) : Table :=
  (rule.map fun r => (name, r.toValue)).toList

def toValue (p : Pass) : Value :=
  .table ([("shader", p.shader.toValue)] ++ ruleField "scale" p.scale ++
    ruleField "scale_x" p.scaleX ++ ruleField "scale_y" p.scaleY ++
    [("filter", .text p.filter.name), ("wrap", .text p.wrap.name),
      ("frame_count_mod", .integer p.frameCountMod.toNat),
      ("float_framebuffer", .boolean p.floatTarget)])

end Pass

namespace LookupImage

def ofValue? (v : Value) : Option LookupImage := do
  let r ← v.record?
  pure {
    id := ← r.required 0 "id" Value.text?
    path := ← r.required 1 "path" Path.ofValue?
    filter := ← r.optional 2 "filter" Filter.ofValue? .unspecified
    wrap := ← r.optional 3 "wrap" Wrap.ofValue? .border }

def toValue (l : LookupImage) : Value :=
  .table [("id", .text l.id), ("path", .text l.path.text), ("filter", .text l.filter.name),
    ("wrap", .text l.wrap.name)]

end LookupImage

namespace Variable

def ofValue? (v : Value) : Option Variable := do
  let r ← v.record?
  pure {
    id := ← r.required 0 "id" Value.text?
    kind := ← r.required 1 "kind" VariableKind.ofValue?
    address := ← r.required 2 "address" Value.word?
    width := ← r.optional 3 "width" VariableWidth.ofValue? .u8
    mask := ← r.optional 4 "mask" Value.word? 0
    equal := ← r.optional 5 "equal" Value.word? 0 }

def toValue (v : Variable) : Value :=
  .table [("id", .text v.id), ("kind", .text v.kind.name), ("address", .integer v.address.toNat),
    ("width", .text v.width.name), ("mask", .integer v.mask.toNat),
    ("equal", .integer v.equal.toNat)]

end Variable

inductive LoadFault where
  | unreadable (path : Path) (fault : ReadFault)
  /-- the text is no document, or not one of a preset -/
  | malformed
  | invalid (fault : PresetFault)
deriving DecidableEq, Repr

namespace LoadFault

def message : LoadFault → String
  | unreadable path fault => s!"failed to read preset {path.text}: {fault.message}"
  | malformed => "failed to parse preset"
  | invalid fault => s!"invalid preset: {fault.message}"

end LoadFault

namespace Preset

/-- The preset of a document's table, not yet validated. -/
def ofTable? (fields : Table) : Option Preset := do
  let r : Record := .named fields
  pure {
    passes := ← r.optional 0 "passes" (Value.list? Pass.ofValue?) []
    lookups := ← r.optional 1 "luts" (Value.list? LookupImage.ofValue?) []
    vars := ← r.optional 2 "variables" (Value.list? Variable.ofValue?) [] }

/-- The preset as a document's table. -/
def toTable (p : Preset) : Table :=
  [("passes", .array (p.passes.map Pass.toValue)),
    ("luts", .array (p.lookups.map LookupImage.toValue)),
    ("variables", .array (p.vars.map Variable.toValue))]

/-- The valid preset of a document's table. -/
def ofTable (fields : Table) : Except LoadFault Preset := do
  match ofTable? fields with
  | none => .error .malformed
  | some p => match p.validate with
    | .error fault => .error (.invalid fault)
    | .ok () => .ok p

def ofText (text : String) : Except LoadFault Preset :=
  match Toml.parse text with
  | none => .error .malformed
  | some fields => ofTable fields

def toText (p : Preset) : String := Toml.print p.toTable

/-- The preset of a file. Its own files are found from the directory of that file. -/
def load (files : FileSystem) (path : Path) : Except LoadFault Preset :=
  match files.readText path with
  | .error fault => .error (.unreadable path fault)
  | .ok text => do
    let p ← ofText text
    match path.parent? with
    | some directory => pure (p.resolveAgainst directory)
    | none => pure p

end Preset

end PassChain
