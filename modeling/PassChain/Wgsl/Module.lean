import PassChain.Wgsl.Parser
import PassChain.Wgsl.Types
import PassChain.Wgsl.Uses

/-!
Programs that follow the rules of the language, with what a pass needs to know of them: the
entry points, the variables of the module, and the layout of structures. Bodies of functions are
checked for names and for the type of what they return.
-/

namespace PassChain.Wgsl

structure Variable where
  name : String
  space : AddressSpace
  type : Ty
  /-- its group and its binding number -/
  binding : Option (Nat × Nat)
deriving DecidableEq, Repr

/-- A program that follows the rules of the language. -/
structure Module where
  structs : List StructType := []
  globals : List Variable := []
  entryPoints : List (String × Stage) := []
deriving Repr

/-- What a global name stands for. -/
inductive Meaning where
  | type (t : Ty)
  /-- a constant, with its type and, for whole numbers, its value -/
  | const (type : Option Ty) (value : Option Int)
  | var (v : Variable)
  /-- a function, with the variables that it and the functions it calls use -/
  | fn (params : Nat) (result : Option Ty) (globals : List Variable)

/-- What has been declared so far. -/
structure Scope where
  structs : List StructType := []
  meanings : List (String × Meaning) := []

namespace Scope

def meaning? (g : Scope) (name : String) : Option Meaning :=
  (g.meanings.find? (·.1 == name)).map (·.2)

def facts? (g : Scope) (t : Ty) : Option TypeFacts := t.facts g.structs

def struct? (g : Scope) (name : String) : Option StructType :=
  g.structs.find? (·.name == name)

end Scope

def scalarNamed? : String → Option Scalar
  | "bool" => some .bool
  | "i32" => some .i32
  | "u32" => some .u32
  | "f32" => some .f32
  | "f64" => some .f64
  | _ => none

/-- The size of a vector in a name, `2` to `4`. -/
def sizeOfDigit? : Char → Option Nat
  | '2' => some 2
  | '3' => some 3
  | '4' => some 4
  | _ => none

/-- The element type that a short name ends in. -/
def scalarOfLetter? : Char → Option Scalar
  | 'f' => some .f32
  | 'i' => some .i32
  | 'u' => some .u32
  | _ => none

/-- A vector or matrix name: its type over an element type, and the element type if the name
gives it. -/
def shapeNamed? (name : String) : Option ((Scalar → Ty) × Option Scalar) :=
  match name.toList with
  | ['v', 'e', 'c', n] => (fun n => (.vector n, none)) <$> sizeOfDigit? n
  | ['v', 'e', 'c', n, k] => do pure (.vector (← sizeOfDigit? n), some (← scalarOfLetter? k))
  | ['m', 'a', 't', c, 'x', r] => do pure (.matrix (← sizeOfDigit? c) (← sizeOfDigit? r), none)
  | ['m', 'a', 't', c, 'x', r, 'f'] => do
    pure (.matrix (← sizeOfDigit? c) (← sizeOfDigit? r), some .f32)
  | _ => none

/-- A sampled texture type, over the type of its samples. -/
def sampledImage? : String → Option (Scalar → Ty)
  | "texture_1d" => some fun k => .image .d1 false (.sampled k false)
  | "texture_1d_array" => some fun k => .image .d1 true (.sampled k false)
  | "texture_2d" => some fun k => .image .d2 false (.sampled k false)
  | "texture_2d_array" => some fun k => .image .d2 true (.sampled k false)
  | "texture_3d" => some fun k => .image .d3 false (.sampled k false)
  | "texture_cube" => some fun k => .image .cube false (.sampled k false)
  | "texture_cube_array" => some fun k => .image .cube true (.sampled k false)
  | "texture_multisampled_2d" => some fun k => .image .d2 false (.sampled k true)
  | "texture_multisampled_2d_array" => some fun k => .image .d2 true (.sampled k true)
  | _ => none

def plainType? : String → Option Ty
  | "sampler" => some (.sampler false)
  | "sampler_comparison" => some (.sampler true)
  | "texture_depth_2d" => some (.image .d2 false (.depth false))
  | "texture_depth_2d_array" => some (.image .d2 true (.depth false))
  | "texture_depth_cube" => some (.image .cube false (.depth false))
  | "texture_depth_cube_array" => some (.image .cube true (.depth false))
  | "texture_depth_multisampled_2d" => some (.image .d2 false (.depth true))
  | _ => none

def storageImage? : String → Option Ty
  | "texture_storage_1d" => some (.image .d1 false .storage)
  | "texture_storage_1d_array" => some (.image .d1 true .storage)
  | "texture_storage_2d" => some (.image .d2 false .storage)
  | "texture_storage_2d_array" => some (.image .d2 true .storage)
  | "texture_storage_3d" => some (.image .d3 false .storage)
  | _ => none

def storageFormats : List String := [
  "r8unorm", "r8snorm", "r8uint", "r8sint", "r16uint", "r16sint", "r16float", "rg8unorm",
  "rg8snorm", "rg8uint", "rg8sint", "r32uint", "r32sint", "r32float", "rg16uint", "rg16sint",
  "rg16float", "rgba8unorm", "rgba8snorm", "rgba8uint", "rgba8sint", "rgb10a2uint",
  "rgb10a2unorm", "rg11b10float", "rg32uint", "rg32sint", "rg32float", "rgba16uint",
  "rgba16sint", "rgba16float", "rgba32uint", "rgba32sint", "rgba32float", "r16unorm", "r16snorm",
  "rg16unorm", "rg16snorm", "rgba16unorm", "rgba16snorm", "bgra8unorm"]

def evaluate (g : Scope) : Expr → Option Int
  | .number (.int n _) => some n
  | .name id [] => match g.meaning? id with
    | some (.const _ value) => value
    | _ => none
  | .call id [] [e] => if id == "i32" || id == "u32" then evaluate g e else none
  | .unary "-" e => (- ·) <$> evaluate g e
  | .binary op a b => do
    let x ← evaluate g a
    let y ← evaluate g b
    match op with
    | "+" => some (x + y)
    | "-" => some (x - y)
    | "*" => some (x * y)
    | "/" => if y = 0 then none else some (x.tdiv y)
    | "%" => if y = 0 then none else some (x.tmod y)
    | "<<" => if 0 ≤ y ∧ y < 32 then some (x * (Nat.pow 2 y.toNat : Nat)) else none
    | ">>" => if 0 ≤ y ∧ y < 32 then some (x / (Nat.pow 2 y.toNat : Nat)) else none
    | _ => none
  | _ => none

/-- The value of a constant that must be a 32-bit number without a sign. -/
def evaluateIndex (g : Scope) (e : Expr) : Option Nat := do
  let n ← evaluate g e
  if 0 ≤ n ∧ n < UInt32.size then some n.toNat else none

/-- The type that an expression writes. -/
def resolveType (g : Scope) : Expr → Option Ty
  | .name id [] =>
    match scalarNamed? id, plainType? id, shapeNamed? id with
    | some k, _, _ => some (.scalar k)
    | _, some t, _ => some t
    | _, _, some (shape, some k) => some (shape k)
    | _, _, some (_, none) => none
    | _, _, none => match g.meaning? id with
      | some (.type t) => some t
      | _ => none
  | .name "array" [base] => do
    let t ← resolveType g base
    let _ ← g.facts? (.array t none)
    pure (.array t none)
  | .name "array" [base, count] => do
    let t ← resolveType g base
    let n ← match count with
      | .name id [] => match g.meaning? id with
        | some (.const _ (some n)) => some n
        | _ => none
      | e => evaluate g e
    let _ ← g.facts? (.array t none)
    if 0 < n ∧ n < UInt32.size then some (.array t (some n.toNat)) else none
  | .name "atomic" [base] => match resolveType g base with
    | some (.scalar .i32) => some (.atomic .i32)
    | some (.scalar .u32) => some (.atomic .u32)
    | _ => none
  | .name "ptr" (.name _ [] :: base :: _) => (fun _ => .pointer) <$> resolveType g base
  | .name "binding_array" (base :: _) => (fun _ => .bindingArray) <$> resolveType g base
  | .name id [.name format [], .name access []] => do
    let t ← storageImage? id
    if storageFormats.contains format && accessModes.contains access
    then some t else none
  | .name id [base] => match resolveType g base with
    | some (.scalar k) => match shapeNamed? id, sampledImage? id with
      | some (shape, none), _ => match shape k with
        | .matrix .. => if k.isFloat then some (shape k) else none
        | t => some t
      | _, some image => if k.isSample then some (image k) else none
      | _, _ => none
    | _ => none
  | _ => none

/-- The type of an expression as far as it is known. -/
abbrev Known := Option Ty

def components? : Ty → Option (Nat × Scalar)
  | .scalar k => some (1, k)
  | .vector n k => some (n, k)
  | _ => none

/-- Whether a value of the first type may stand where the second is asked for. -/
def Ty.convertsTo (a b : Ty) : Bool :=
  match a, b with
  | .scalar j, .scalar k => j.convertsTo k
  | .vector m j, .vector n k => m == n && j.convertsTo k
  | .matrix c r j, .matrix d s k => c == d && r == s && j.convertsTo k
  | a, b => a == b

/-- The type that a value takes when nothing asks for another. -/
def Ty.concrete : Ty → Ty
  | .scalar k => .scalar k.concrete
  | .vector n k => .vector n k.concrete
  | .matrix c r k => .matrix c r k.concrete
  | t => t

/-- The type of an arithmetic expression, from the types of its operands. -/
def arithmeticType (a b : Known) : Known := do
  let x ← a
  let y ← b
  if x.convertsTo y then some y
  else if y.convertsTo x then some x
  else match x, y with
    | .vector n j, .scalar k => if k.convertsTo j then some (.vector n j) else none
    | .scalar j, .vector n k => if j.convertsTo k then some (.vector n k) else none
    | _, _ => none

def comparisonType (a b : Known) : Known :=
  match a, b with
  | some (.scalar _), some (.scalar _) => some (.scalar .bool)
  | some (.vector n _), some (.vector _ _) => some (.vector n .bool)
  | _, _ => none

/-- The components that a swizzle picks, `none` if the word is no swizzle of so many. -/
def swizzleLength? (size : Nat) (word : String) : Option Nat :=
  let within (letters : String) := word.toList.all ((letters.toList.take size).contains ·)
  let n := word.toList.length
  if 1 ≤ n ∧ n ≤ 4 ∧ (within "xyzw" ∨ within "rgba") then some n else none

/-- The type of a member of a value; the outer `none` refuses. -/
def memberType (g : Scope) (field : String) : Known → Option Known
  | some (.struct name) => do
    let s ← g.struct? name
    let m ← s.members.find? (·.name == field)
    pure (some m.type)
  | some (.vector size k) => do
    let n ← swizzleLength? size field
    pure (some (if n = 1 then .scalar k else .vector n k))
  | some (.scalar _) | some (.matrix ..) => none
  | _ => some none

def elementType : Known → Known
  | some (.vector _ k) => some (.scalar k)
  | some (.matrix _ r k) => some (.vector r k)
  | some (.array t _) => some t
  | _ => none

/-- Whether so many components of known types make up a vector. -/
def fillsVector (size : Nat) (args : List Known) : Bool :=
  match args.mapM fun a => a.bind components? with
  | none => true
  | some [] => true
  | some [(n, _)] => n == 1 || n == size
  | some parts => parts.foldl (fun n part => n + part.1) 0 == size

/-- The elementary type of numbers that stand together: that of one with a settled type, else
that of the widest. -/
def commonScalar (args : List Known) : Option Scalar := do
  let kinds ← args.mapM fun a => (·.2) <$> a.bind components?
  let settled := kinds.find? fun k => k != .abstractInt && k != .abstractFloat
  match settled, kinds with
  | some k, _ => some k
  | none, [] => none
  | none, _ => some (if kinds.contains .abstractFloat then .abstractFloat else .abstractInt)

/-- The type that a constructor gives; the outer `none` refuses. -/
def constructedType (g : Scope) (id : String) (typeArgs : List Expr) (args : List Known) :
    Option Known :=
  match shapeNamed? id, typeArgs with
  | some (shape, none), [] => some (shape <$> commonScalar args)
  | _, _ =>
    if id == "array" && typeArgs.isEmpty then some none
    else if id == "bitcast" then match typeArgs with
      | [t] => some <$> resolveType g t
      | _ => none
    else do
      let t ← resolveType g (.name id typeArgs)
      match t with
      | .vector n _ => if fillsVector n args then some (some t) else none
      | .image .. | .sampler _ | .pointer | .bindingArray => none
      | _ => some (some t)

/-- The type of a call of a function that every program has. -/
def builtinType (id : String) (args : List Known) : Known :=
  if mappedFunctions.contains id then args.head?.join
  else if samplingFunctions.contains id then
    match args.head?.join with
    | some (.image _ _ (.sampled k _)) => some (.vector 4 k)
    | some (.image _ _ (.depth _)) => some (.scalar .f32)
    | _ => none
  else none

/-- Local names with their types, the innermost first. -/
abbrev Locals := List (String × Known)

def namesType (g : Scope) (id : String) : Bool :=
  (scalarNamed? id).isSome || (shapeNamed? id).isSome || id == "array" || id == "bitcast" ||
    match g.meaning? id with
    | some (.type _) => true
    | _ => false

mutual

/-- The type of an expression as far as it is known; the outer `none` refuses. -/
def typeOf (g : Scope) (locals : Locals) : Expr → Option Known
  | .number (.int _ .none) => some (some (.scalar .abstractInt))
  | .number (.int _ .i) => some (some (.scalar .i32))
  | .number (.int _ .u) => some (some (.scalar .u32))
  | .number (.float .none) => some (some (.scalar .abstractFloat))
  | .number (.float .single) => some (some (.scalar .f32))
  | .number (.float .double) => some (some (.scalar .f64))
  | .bool _ => some (some (.scalar .bool))
  | .name id _ => match locals.find? (·.1 == id) with
    | some (_, t) => some t
    | none => match g.meaning? id with
      | some (.var v) => some (some v.type)
      | some (.const t _) => some t
      | _ => none
  | .call id typeArgs args => do
    let known ← typesOf g locals args
    if namesType g id then constructedType g id typeArgs known
    else match g.meaning? id with
      | some (.fn params result _) => if known.length = params then some result else none
      | some _ => none
      | none => if builtinFunctions.contains id then some (builtinType id known) else none
  | .unary op e => do
    let t ← typeOf g locals e
    pure (if op == "&" || op == "*" then none else t)
  | .binary op a b => do
    let x ← typeOf g locals a
    let y ← typeOf g locals b
    if ["==", "!=", "<", ">", "<=", ">="].contains op then some (comparisonType x y)
    else if ["&&", "||"].contains op then some (some (.scalar .bool))
    else if ["<<", ">>"].contains op then some x
    else some (arithmeticType x y)
  | .index e i => do
    let t ← typeOf g locals e
    let _ ← typeOf g locals i
    pure (elementType t)
  | .member e field => do
    let t ← typeOf g locals e
    memberType g field t

def typesOf (g : Scope) (locals : Locals) : List Expr → Option (List Known)
  | [] => some []
  | e :: rest => do
    let t ← typeOf g locals e
    let ts ← typesOf g locals rest
    pure (t :: ts)

end

/-- Refuses expressions that use unknown names. -/
def checkExpr (g : Scope) (locals : Locals) (e : Expr) : Option Unit :=
  (fun _ => ()) <$> typeOf g locals e

/-- Whether a returned value fits the result of its function. An abstract number is settled before
it is returned, whatever the function asks for. -/
def returnFits (result : Option Ty) (value : Option Known) : Bool :=
  match result, value with
  | none, none => true
  | some t, some (some v) => v.concrete == t
  | some _, some none => true
  | _, _ => false

mutual

/-- Refuses statements that use unknown names or return the wrong type. Answers the local names
after the statement; `own` holds those of the same block. -/
def checkStmt (g : Scope) (result : Option Ty) (locals : Locals) (own : List String) :
    Stmt → Option (Locals × List String)
  | .declare _ name type value => do
    let declared ← match type with
      | none => some none
      | some t => some <$> resolveType g t
    let given ← match value with
      | none => some none
      | some e => typeOf g locals e
    if own.contains name then none
    else
      let known := match declared with
        | some t => some t
        | none => given.map Ty.concrete
      some ((name, known) :: locals, name :: own)
  | .assign target value => do
    match target with
    | some t => checkExpr g locals t
    | none => some ()
    checkExpr g locals value
    pure (locals, own)
  | .step e | .call e | .breakIf e => do
    checkExpr g locals e
    pure (locals, own)
  | .block body => do
    checkBody g result locals [] body
    pure (locals, own)
  | .branch c accept reject => do
    checkExpr g locals c
    checkBody g result locals [] accept
    checkBody g result locals [] reject
    pure (locals, own)
  | .switch e cases => do
    checkExpr g locals e
    checkCases g result locals cases
    pure (locals, own)
  | .loop body continuing => do
    checkBody g result locals [] body
    checkBody g result locals [] continuing
    pure (locals, own)
  | .returns value => do
    let known ← match value with
      | none => some none
      | some e => some <$> typeOf g locals e
    if returnFits result known then some (locals, own) else none
  | .breakLoop | .continueLoop | .discard => some (locals, own)

/-- Refuses a block that uses unknown names or returns the wrong type. -/
def checkBody (g : Scope) (result : Option Ty) (locals : Locals) (own : List String) :
    List Stmt → Option Unit
  | [] => some ()
  | s :: rest => do
    let (locals, own) ← checkStmt g result locals own s
    checkBody g result locals own rest

/-- Refuses cases that use unknown names or return the wrong type. -/
def checkCases (g : Scope) (result : Option Ty) (locals : Locals) :
    List (List Expr × List Stmt) → Option Unit
  | [] => some ()
  | (selectors, body) :: rest => do
    let _ ← typesOf g locals selectors
    checkBody g result locals [] body
    checkCases g result locals rest

end

mutual

/-- Whether a statement never passes control to the one after it. -/
def Stmt.ends : Stmt → Bool
  | .returns _ | .discard | .breakLoop | .continueLoop => true
  | .block body => endsOf body
  | .branch _ accept reject => endsOf accept && endsOf reject
  | .switch _ cases => endsOfCases cases
  | _ => false

/-- Whether the last statement never passes control on. -/
def endsOf : List Stmt → Bool
  | [] => false
  | [s] => s.ends
  | _ :: rest => endsOf rest

def endsOfCases : List (List Expr × List Stmt) → Bool
  | [] => true
  | (_, body) :: rest => endsOf body && endsOfCases rest

end

/-- How the values of a parameter or result pass between stages: its own binding, or those of the
members of a structure. `none` if one of them has no binding, or cannot pass at all. -/
def interface? (g : Scope) (t : Ty) (io : Option IoBinding) : Option (List IoBinding) :=
  match io, t with
  | some b, _ => do
    let f ← g.facts? t
    match b with
    | .location _ => if f.ioShareable then some [b] else none
    | .builtin _ => some [b]
  | none, .struct name => do
    let s ← g.struct? name
    s.io.mapM id
  | none, _ => none

def locationsDiffer (g : Scope) (bindings : List IoBinding) : Option Bool := do
  let locations ← (bindings.filterMap fun
    | .location e => some e
    | .builtin _ => none).mapM (evaluateIndex g)
  pure (locations.eraseDups.length == locations.length)

def givesPosition (bindings : List IoBinding) : Bool :=
  bindings.any fun
    | .builtin name => name == "position"
    | .location _ => false

/-- Refuses entry points whose values cannot pass between stages, that use two resources at one
binding, and vertex programs without a position. -/
def checkEntryPoint (g : Scope) (stage : Stage) (params : List (Ty × Option IoBinding))
    (result : Option (Ty × Option IoBinding)) (used : List Variable) : Option Unit := do
  let inputs ← params.mapM fun (t, io) => interface? g t io
  let outputs ← match result with
    | none => some []
    | some (t, io) => interface? g t io
  let inputsDiffer ← locationsDiffer g inputs.flatten
  let outputsDiffer ← locationsDiffer g outputs
  let bindings := used.eraseDups.filterMap (·.binding)
  if inputsDiffer && outputsDiffer && bindings.eraseDups.length == bindings.length &&
    (stage != .vertex || givesPosition outputs) then some () else none

/-- What each address space asks of the types of its variables. -/
def AddressSpace.admits (facts : TypeFacts) (t : Ty) : AddressSpace → Bool
  | .handle => match t with
    | .image .. | .sampler _ | .bindingArray => true
    | _ => false
  | .uniform => facts.data && facts.copyable && facts.sized && facts.hostShareable &&
      facts.uniformAlign.isSome
  | .storage => facts.data && facts.hostShareable && facts.storageAlign.isSome
  | .privateData => facts.constructible
  | .workgroup => facts.data && facts.sized
  | .pushConstant => facts.data && facts.copyable && facts.sized && facts.hostShareable
  | .functionLocal => false

/-- Whether the variables of an address space are bound from outside. -/
def AddressSpace.isResource : AddressSpace → Bool
  | .handle | .uniform | .storage => true
  | _ => false

/-- The size or alignment that an attribute asks for, or else the type's own; `none` if the
attribute asks for less than the type needs. -/
def attributeOr (g : Scope) (least : Nat) : Option Expr → Option Nat
  | none => some least
  | some e => do
    let n ← evaluateIndex g e
    if n < least then none else some n

def MemberDecl.sized (g : Scope) (m : MemberDecl) : Option SizedMember := do
  let type ← resolveType g m.type
  let facts ← g.facts? type
  let size ← attributeOr g facts.size m.size
  let align ← attributeOr g facts.align m.align
  if Nat.pow 2 align.log2 = align then pure { name := m.name, type, size, align, facts } else none

/-- Takes a declaration into the scope and the module, if it follows the rules. -/
def declare (state : Scope × Module) (d : Decl) : Option (Scope × Module) := do
  let (g, m) := state
  let means (x : Meaning) : Scope := { g with meanings := (d.name, x) :: g.meanings }
  match d.kind with
  | .alias type => do
    let t ← resolveType g type
    pure (means (.type t), m)
  | .struct members => do
    let sized ← members.mapM (·.sized g)
    let s ← StructType.ofMembers d.name sized (members.map (·.io))
    let g := means (.type (.struct d.name))
    pure ({ g with structs := g.structs ++ [s] }, { m with structs := m.structs ++ [s] })
  | .const type value => do
    let declared ← match type with
      | none => some none
      | some t => some <$> resolveType g t
    let given ← typeOf g [] value
    let known := match declared with
      | some t => some t
      | none => given.map Ty.concrete
    pure (means (.const known (evaluate g value)), m)
  | .var v => do
    let type ← resolveType g v.type
    let facts ← g.facts? type
    let group ← v.group.mapM (evaluateIndex g)
    let number ← v.binding.mapM (evaluateIndex g)
    let binding := do pure (← group, ← number)
    match v.value with
    | some e => checkExpr g [] e
    | none => some ()
    if v.space.admits facts type && v.space.isResource == binding.isSome then
      let declared : Variable := { name := d.name, space := v.space, type, binding }
      pure (means (.var declared), { m with globals := m.globals ++ [declared] })
    else none
  | .fn f => do
    let params ← f.params.mapM fun p => do pure (p.name, ← resolveType g p.type, p.io)
    let result ← f.result.mapM fun (t, io) => do pure (← resolveType g t, io)
    let _ ← f.workgroupSize.mapM (evaluateIndex g)
    let names := params.map (·.1)
    let locals : Locals := params.map fun (name, t, _) => (name, some t)
    if names.eraseDups.length ≠ names.length then none
    else do
      checkBody g (result.map (·.1)) locals.reverse names f.body
      if result.isSome && !endsOf f.body then none
      else
        let used := d.uses.flatMap fun u => match g.meaning? u with
          | some (.var v) => [v]
          | some (.fn _ _ vs) => vs
          | _ => []
        match f.stage with
        | none => pure (means (.fn params.length (result.map (·.1)) used), m)
        | some stage =>
          checkEntryPoint g stage (params.map (·.2)) result used
          pure (means (.fn params.length (result.map (·.1)) used),
            { m with entryPoints := m.entryPoints ++ [(d.name, stage)] })

/-- The program of a text, `none` if the text does not follow the rules of the language. -/
def Module.ofText? (text : String) : Option Module := do
  let decls ← parse text
  let names := decls.map (·.name)
  if names.eraseDups.length ≠ names.length then none
  else
    let ordered ← inOrder decls
    let (_, m) ← ordered.foldlM declare ({}, {})
    pure m

end PassChain.Wgsl
