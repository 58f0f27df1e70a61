import PassChain.TextureRef
import PassChain.Wgsl.Module

/-!
What a chain knows of a pass program. A program has one uniform structure, whose members are
recognised by name, and textures that are recognised by name, each perhaps with a sampler. A
program that uses anything else, or uses these in another way, is refused.
-/

namespace PassChain

/-- Which size of a texture a member receives. -/
inductive SizeKind where
  /-- the size of the content -/
  | video
  /-- the size as allocated -/
  | texture
deriving DecidableEq, Repr

/-- What a uniform member receives each frame. -/
inductive Role where
  | mvp
  | size (texture : TextureRef) (kind : SizeKind)
  | outputSize
  | frameCount
  | frameDirection
  /-- the tracked variable of this id -/
  | tracked (id : String)
deriving DecidableEq, Repr

structure Field where
  name : String
  role : Role
  offset : Nat
deriving DecidableEq, Repr

/-- A texture of a program with its binding numbers. -/
structure TextureSlot where
  name : String
  texture : TextureRef
  binding : Nat
  sampler : Option Nat
deriving DecidableEq, Repr

structure Program where
  label : String
  uniformBinding : Nat
  /-- bytes of the uniform buffer, a multiple of 16 -/
  uniformSize : Nat
  fields : List Field
  textures : List TextureSlot
  /-- members that the chain leaves at zero -/
  ignored : List String
deriving DecidableEq, Repr

/-- Why a chain cannot use a program. -/
inductive ProgramFault where
  /-- the text is no program of the shading language -/
  | invalid
  | missingEntryPoint (name : String)
  | foreignGroup (name : String) (group : Nat)
  | secondUniform
  | unsupported (name : String) (binding : Nat)
  | noUniform
  | uniformNotStruct
  | memberType (name expected : String)
  | noMvp
  | orphanSampler (name : String)
deriving DecidableEq, Repr

def ProgramFault.message : ProgramFault → String
  | invalid => "not a valid program"
  | missingEntryPoint name => s!"missing entry point `{name}`"
  | foreignGroup name group =>
    s!"`{name}` is in bind group {group}; pass programs use group 0 only"
  | secondUniform => "more than one uniform buffer declared"
  | unsupported name binding => s!"unsupported resource `{name}` at binding {binding}"
  | noUniform => "no uniform buffer; `mvp` is required"
  | uniformNotStruct => "uniform buffer must be a struct"
  | memberType name expected => s!"uniform `{name}` must be {expected}"
  | noMvp => "uniform struct has no `mvp` member"
  | orphanSampler name => s!"sampler `{name}` has no matching texture"

inductive MemberKind where
  | matrix
  | pair
  | number
  | other
deriving DecidableEq, Repr

/-- The kind of a member, by its type. -/
def MemberKind.ofType : Wgsl.Ty → MemberKind
  | .matrix 4 4 k => if k.isFloat then matrix else other
  | .vector 2 k => if k.isFloat then pair else other
  | .scalar k => if k.isFloat then number else other
  | _ => other

namespace Role

/-- A role for a member of the right kind. -/
def expect (name : String) (kind wanted : MemberKind) (expected : String) (role : Role) :
    Except ProgramFault (Option Role) :=
  if kind = wanted then .ok (some role) else .error (.memberType name expected)

/-- The texture and size that a name asks for by its ending. -/
def sized? (name : String) : Option (TextureRef × SizeKind) :=
  let stemOf (ending : String) := (before? ending.toList name.toList).map String.ofList
  match stemOf "_video_size", stemOf "_texture_size" with
  | some stem, _ => some (TextureRef.ofName stem, .video)
  | none, some stem => some (TextureRef.ofName stem, .texture)
  | none, none => none

/-- The role of a member, if it has one. -/
def ofMember (name : String) (kind : MemberKind) : Except ProgramFault (Option Role) :=
  let pair := expect name kind .pair "vec2<f32>"
  let number := expect name kind .number "f32"
  match name with
  | "mvp" => expect name kind .matrix "mat4x4<f32>" mvp
  | "frame_count" => number frameCount
  | "frame_direction" => number frameDirection
  | "output_size" => pair outputSize
  | "video_size" => pair (size .source .video)
  | "texture_size" => pair (size .source .texture)
  | _ =>
    match (sized? name).filter (!·.1.isLut) with
    | some (texture, sizeKind) => pair (size texture sizeKind)
    | none => .ok (if kind = .number then some (tracked name) else none)

end Role

/-- The resources of a program by kind, as they are met. -/
structure Resources where
  uniform : Option (Nat × Wgsl.Ty) := none
  textures : List (String × Nat) := []
  samplers : List (String × Nat) := []

namespace Resources

/-- Takes in a variable of the program. -/
def add (r : Resources) (v : Wgsl.Variable) : Except ProgramFault Resources :=
  match v.binding with
  | none => .ok r
  | some (group, binding) =>
    if group ≠ 0 then .error (.foreignGroup v.name group)
    else match v.space, v.type with
      | .uniform, t =>
        if r.uniform.isSome then .error .secondUniform
        else .ok { r with uniform := some (binding, t) }
      | .handle, .image .d2 false _ => .ok { r with textures := r.textures ++ [(v.name, binding)] }
      | .handle, .sampler false => .ok { r with samplers := r.samplers ++ [(v.name, binding)] }
      | _, _ => .error (.unsupported v.name binding)

/-- Takes the element of a list at an index out and puts the last one in its place. -/
def swapRemove {α : Type} (xs : List α) (i : Nat) : List α :=
  match xs.getLast? with
  | none => xs
  | some last => if i + 1 = xs.length then xs.dropLast else (xs.set i last).dropLast

/-- Gives each texture the sampler that bears its name, and answers the samplers left over. -/
def pair : List (String × Nat) → List (String × Nat) → List TextureSlot × List (String × Nat)
  | [], samplers => ([], samplers)
  | (name, binding) :: rest, samplers =>
    let own := samplers.findIdx? (·.1 == name ++ "_sampler")
    let sampler := own.bind fun i => samplers[i]?.map (·.2)
    let left := (own.map (swapRemove samplers)).getD samplers
    let (slots, left) := pair rest left
    (⟨name, .ofName name, binding, sampler⟩ :: slots, left)

end Resources

/-- Sorts slots into a list that is sorted by binding, after those of the same binding. -/
def insertSlot (s : TextureSlot) : List TextureSlot → List TextureSlot
  | [] => [s]
  | t :: rest => if s.binding < t.binding then s :: t :: rest else t :: insertSlot s rest

/-- The slots in the order of their bindings; those of one binding stay in order. -/
def sortSlots (slots : List TextureSlot) : List TextureSlot :=
  slots.foldl (fun sorted s => insertSlot s sorted) []

namespace Program

/-- Splits members into those with a role and the names of the others. -/
def sortMembers : List Wgsl.StructMember → Except ProgramFault (List Field × List String)
  | [] => .ok ([], [])
  | m :: rest => do
    let role ← Role.ofMember m.name (.ofType m.type)
    let (fields, ignored) ← sortMembers rest
    match role with
    | some role => pure (⟨m.name, role, m.offset⟩ :: fields, ignored)
    | none => pure (fields, m.name :: ignored)

/-- Refuses programs without one of the two entry points. -/
def checkEntryPoints (m : Wgsl.Module) : Except ProgramFault Unit :=
  if !m.entryPoints.contains ("vs_main", .vertex) then .error (.missingEntryPoint "vs_main")
  else if !m.entryPoints.contains ("fs_main", .fragment) then .error (.missingEntryPoint "fs_main")
  else .ok ()

/-- The interface of a program of the shading language. -/
def ofModule (label : String) (m : Wgsl.Module) : Except ProgramFault Program := do
  checkEntryPoints m
  let resources ← m.globals.foldlM Resources.add {}
  let (uniformBinding, type) ← match resources.uniform with
    | some u => .ok u
    | none => .error .noUniform
  let struct ← match type with
    | .struct name => match m.structs.find? (·.name == name) with
      | some s => .ok s
      | none => .error .uniformNotStruct
    | _ => .error .uniformNotStruct
  let (fields, ignored) ← sortMembers struct.members
  if !fields.any (·.role == .mvp) then .error .noMvp
  let (slots, left) := Resources.pair resources.textures resources.samplers
  match left with
  | (name, _) :: _ => .error (.orphanSampler name)
  | [] => pure {
      label, uniformBinding, fields, ignored
      uniformSize := (struct.span + 15) / 16 * 16
      textures := sortSlots slots }

/-- The interface of the program that a text holds. -/
def ofText (label text : String) : Except ProgramFault Program :=
  match Wgsl.Module.ofText? text with
  | none => .error .invalid
  | some m => ofModule label m

/-- Where the projection matrix lies, 0 if there is none. -/
def mvpOffset (p : Program) : Nat :=
  ((p.fields.find? (·.role == .mvp)).map (·.offset)).getD 0

def texture? (p : Program) (name : String) : Option TextureSlot :=
  p.textures.find? (·.name == name)

end Program

end PassChain
