import PassChain.Wgsl.Syntax

/-!
Types of the shading language and how their values lie in memory. Members of a structure follow
one another, each at the next multiple of its alignment; a structure ends at a multiple of the
largest alignment among its members.
-/

namespace PassChain.Wgsl

/-- The elementary types; the abstract ones belong to numbers without a suffix. -/
inductive Scalar where
  | bool
  | i32
  | u32
  | f32
  | f64
  | abstractInt
  | abstractFloat
deriving DecidableEq, Repr

namespace Scalar

def byteSize : Scalar → Nat
  | bool => 1
  | f64 | abstractInt | abstractFloat => 8
  | _ => 4

/-- Fractions of any size. -/
def isFloat : Scalar → Bool
  | f32 | f64 | abstractFloat => true
  | _ => false

/-- What texture samples are made of: numbers of four bytes. -/
def isSample : Scalar → Bool
  | f32 | i32 | u32 => true
  | _ => false

/-- The type that an abstract number takes when nothing asks for another. -/
def concrete : Scalar → Scalar
  | abstractInt => i32
  | abstractFloat => f32
  | s => s

/-- Whether a value of the first type may stand where the second is asked for. -/
def convertsTo : Scalar → Scalar → Bool
  | abstractInt, t => t != bool
  | abstractFloat, t => t.isFloat
  | s, t => s == t

end Scalar

inductive ImageShape where
  | d1
  | d2
  | d3
  | cube
deriving DecidableEq, Repr

inductive ImageClass where
  | sampled (kind : Scalar) (multisampled : Bool)
  | depth (multisampled : Bool)
  | storage
deriving DecidableEq, Repr

/-- A type. Structures are known by their names. -/
inductive Ty where
  | scalar (kind : Scalar)
  | vector (size : Nat) (kind : Scalar)
  | matrix (columns rows : Nat) (kind : Scalar)
  | atomic (kind : Scalar)
  | pointer
  /-- an array; without a count its length is known only when the program runs -/
  | array (base : Ty) (count : Option Nat)
  | struct (name : String)
  | image (shape : ImageShape) (arrayed : Bool) (content : ImageClass)
  | sampler (comparison : Bool)
  | bindingArray
deriving DecidableEq, Repr

/-- The least multiple of `align` that is at least `n`. -/
def roundUp (align n : Nat) : Nat := (n + align - 1) / align * align

/-- What a type allows and how it lies in memory. The last two fields give the alignment that the
type needs inside a uniform or storage buffer, `none` if it cannot lie in one. -/
structure TypeFacts where
  size : Nat
  align : Nat
  /-- has values that can be stored -/
  data : Bool := true
  /-- has a size that is known beforehand -/
  sized : Bool := true
  copyable : Bool := true
  constructible : Bool := true
  hostShareable : Bool := true
  /-- can pass between stages -/
  ioShareable : Bool := false
  uniformAlign : Option Nat
  storageAlign : Option Nat
deriving DecidableEq, Repr

/-- A member of a structure at its place. -/
structure StructMember where
  name : String
  type : Ty
  offset : Nat
deriving DecidableEq, Repr

structure StructType where
  name : String
  members : List StructMember
  span : Nat
  facts : TypeFacts
  /-- how each member passes between stages -/
  io : List (Option IoBinding)
deriving Repr

/-- The alignment of a vector of this many elements. -/
def vectorAlign (size : Nat) (kind : Scalar) : Nat :=
  (if size = 2 then 2 else 4) * kind.byteSize

def numericFacts (size align : Nat) (kind : Scalar) : TypeFacts :=
  let shareable := kind != .bool
  { size, align, hostShareable := shareable, ioShareable := shareable,
    uniformAlign := if shareable then some align else none
    storageAlign := if shareable then some align else none }

def handleFacts : TypeFacts :=
  { size := 0, align := 1, data := false, sized := false, copyable := false,
    constructible := false, hostShareable := false, uniformAlign := none, storageAlign := none }

/-- The alignment of arrays inside a buffer, if their elements stand at multiples of it. -/
def arrayAlign (least : Nat) (base : TypeFacts) (own : Option Nat) : Option Nat := do
  let align := max (max (← own) base.align) least
  if roundUp base.align base.size % align = 0 then some align else none

/-- Facts of a type, given the structures declared so far; `none` for types that cannot be. -/
def Ty.facts (structs : List StructType) : Ty → Option TypeFacts
  | scalar k => some (numericFacts k.byteSize k.byteSize k)
  | vector n k => some (numericFacts (n * k.byteSize) (vectorAlign n k) k)
  | matrix c r k =>
    let align := vectorAlign r k
    some { size := c * align, align, uniformAlign := some align, storageAlign := some align }
  | atomic k =>
    some { size := k.byteSize, align := k.byteSize, copyable := false, constructible := false,
           uniformAlign := some k.byteSize, storageAlign := some k.byteSize }
  | array base count => do
    let b ← base.facts structs
    if b.data && b.sized then
      let stride := roundUp b.align b.size
      some {
        size := count.getD 1 * stride, align := b.align, sized := count.isSome
        copyable := b.copyable, constructible := b.constructible && count.isSome
        hostShareable := b.hostShareable
        uniformAlign := arrayAlign 16 b b.uniformAlign
        storageAlign := arrayAlign 1 b b.storageAlign }
    else none
  | struct name => (structs.find? (·.name == name)).map (·.facts)
  | pointer | image .. | sampler _ | bindingArray => some handleFacts

/-- A member whose size and alignment are settled. -/
structure SizedMember where
  name : String
  type : Ty
  size : Nat
  align : Nat
  facts : TypeFacts
deriving Repr

/-- Members at their places, the first one not before `start`, and where the last one ends. -/
def placeMembers : Nat → List SizedMember → List StructMember × Nat
  | start, [] => ([], start)
  | start, m :: rest =>
    let offset := roundUp m.align start
    let (placed, stop) := placeMembers (offset + m.size) rest
    (⟨m.name, m.type, offset⟩ :: placed, stop)

/-- The alignment that placed members need inside a buffer, starting from `least`. -/
def membersAlign (of : TypeFacts → Option Nat) :
    Nat → List (SizedMember × StructMember) → Option Nat
  | least, [] => some least
  | least, (m, place) :: rest => do
    let align ← of m.facts
    if place.offset % align = 0 then membersAlign of (max least align) rest else none

/-- Whether inside a uniform buffer every structure among the members keeps its distance from
the member that follows it. -/
def keepsDistance : List (SizedMember × StructMember) → Bool
  | (m, place) :: next :: rest =>
    let apart := match m.type with
      | .struct _ => place.offset + roundUp 16 m.facts.size ≤ next.2.offset
      | _ => true
    apart && keepsDistance (next :: rest)
  | _ => true

/-- The structure of these members, `none` if they cannot form one: there are none, one of them
holds no data, or one before the last has no known size. -/
def StructType.ofMembers (name : String) (members : List SizedMember)
    (io : List (Option IoBinding)) : Option StructType :=
  let (placed, stop) := placeMembers 0 members
  let align := members.foldl (fun a m => max a m.align) 1
  let pairs := members.zip placed
  let all (p : TypeFacts → Bool) := members.all fun m => p m.facts
  let ownAlign := members.foldl (fun a m => max a m.facts.align) 1
  let span := roundUp align stop
  if members.isEmpty || !all (·.data) || !(members.dropLast.all (·.facts.sized)) then none
  else if span % ownAlign ≠ 0 then none
  else some {
    name, members := placed, span, io
    facts := {
      size := span, align := ownAlign, sized := all (·.sized), copyable := all (·.copyable)
      constructible := all (·.constructible), hostShareable := all (·.hostShareable)
      ioShareable := all (·.ioShareable)
      uniformAlign := if keepsDistance pairs then membersAlign (·.uniformAlign) 16 pairs else none
      storageAlign := membersAlign (·.storageAlign) 1 pairs } }

end PassChain.Wgsl
