import PassChain.Scale

/-!
The quad that a pass draws and the projection that places it. Quads lie in the pixels of the
output, `y` up; the projection maps those to the clip square and turns the picture, so that no
vertex changes when the display is rotated. Both are written over any numbers with the four
operations.
-/

namespace PassChain

/-- One corner of a quad: its place, its texture coordinates, and those of lookup textures. -/
structure Vertex (α : Type) where
  x : α
  y : α
  u : α
  v : α
  lutU : α
  lutV : α
deriving DecidableEq, Repr, Inhabited

/-- A textured rectangle, as a strip of four corners. -/
structure Quad (α : Type) where
  topLeft : Vertex α
  topRight : Vertex α
  bottomLeft : Vertex α
  bottomRight : Vertex α
deriving DecidableEq, Repr, Inhabited

structure Column (α : Type) where
  x : α
  y : α
  z : α
  w : α
deriving DecidableEq, Repr, Inhabited

/-- A four by four matrix, by columns. -/
structure Matrix4 (α : Type) where
  c0 : Column α
  c1 : Column α
  c2 : Column α
  c3 : Column α
deriving DecidableEq, Repr, Inhabited

section

variable {α : Type} [NatCast α] [Add α] [Sub α] [Mul α] [Div α] [Neg α]

/-- Moves a corner half a pixel left and up, so that texel centres fall on pixel centres. -/
def Vertex.aligned (c : Vertex α) : Vertex α :=
  let half : α := (1 : Nat) / (2 : Nat)
  { c with x := c.x - half, y := c.y + half }

def Quad.map (f : Vertex α → Vertex α) (q : Quad α) : Quad α :=
  ⟨f q.topLeft, f q.topRight, f q.bottomLeft, f q.bottomRight⟩

/-- The quad of a pass that samples `content` pixels of a texture of size `allocated` and fills
`output`. Texture coordinates end where the content ends; lookup textures are spanned whole. -/
def Quad.build (content allocated output : Size) (align : Bool) : Quad α :=
  let number (n : UInt32) : α := (n.toNat : α)
  let u := number content.width / number (max allocated.width 1)
  let v := number content.height / number (max allocated.height 1)
  let w := number output.width
  let h := number output.height
  let zero : α := (0 : Nat)
  let one : α := (1 : Nat)
  let quad : Quad α := {
    topLeft := ⟨zero, h, zero, zero, zero, zero⟩
    topRight := ⟨w, h, u, zero, one, zero⟩
    bottomLeft := ⟨zero, zero, zero, v, zero, one⟩
    bottomRight := ⟨w, zero, u, v, one, one⟩ }
  if align then quad.map Vertex.aligned else quad

/-- Cosine and sine of a number of quarter turns. -/
def quarterTurn (turns : UInt32) : α × α :=
  let zero : α := (0 : Nat)
  let one : α := (1 : Nat)
  if turns % 4 = 0 then (one, zero)
  else if turns % 4 = 1 then (zero, one)
  else if turns % 4 = 2 then (-one, zero)
  else (zero, -one)

/-- Maps `width` by `height` pixels to the clip square, turned counter-clockwise about its
centre by `turns` quarter turns. -/
def projection (size : Size) (turns : UInt32) : Matrix4 α :=
  let number (n : UInt32) : α := (n.toNat : α)
  let zero : α := (0 : Nat)
  let one : α := (1 : Nat)
  let sx := ((2 : Nat) : α) / number (max size.width 1)
  let sy := ((2 : Nat) : α) / number (max size.height 1)
  let (c, s) : α × α := quarterTurn turns
  { c0 := ⟨c * sx, s * sx, zero, zero⟩
    c1 := ⟨-s * sy, c * sy, zero, zero⟩
    c2 := ⟨zero, zero, one, zero⟩
    c3 := ⟨s - c, -s - c, zero, one⟩ }

/-- Where the matrix sends the point `(x, y)` of the picture plane. -/
def Matrix4.apply (m : Matrix4 α) (x y : α) : α × α :=
  (m.c0.x * x + m.c1.x * y + m.c3.x, m.c0.y * x + m.c1.y * y + m.c3.y)

end

def Vertex.toList {α : Type} (c : Vertex α) : List α := [c.x, c.y, c.u, c.v, c.lutU, c.lutV]

def Quad.toList {α : Type} (q : Quad α) : List (Vertex α) :=
  [q.topLeft, q.topRight, q.bottomLeft, q.bottomRight]

def Column.toList {α : Type} (c : Column α) : List α := [c.x, c.y, c.z, c.w]

def Matrix4.toList {α : Type} (m : Matrix4 α) : List (Column α) := [m.c0, m.c1, m.c2, m.c3]

/-- The quad as a vertex buffer holds it. -/
def Quad.toBytes (q : Quad Single) : List UInt8 :=
  q.toList.flatMap fun c => c.toList.flatMap Single.toBytes

/-- The matrix as a uniform buffer holds it. -/
def Matrix4.toBytes (m : Matrix4 Single) : List UInt8 :=
  m.toList.flatMap fun c => c.toList.flatMap Single.toBytes

/-- Bytes of a vertex buffer that holds one quad. -/
def Quad.byteSize : Nat := 96

theorem Quad.length_toBytes (q : Quad Single) : q.toBytes.length = Quad.byteSize := rfl

theorem Matrix4.length_toBytes (m : Matrix4 Single) : m.toBytes.length = 64 := rfl

/-- The sizes that a pass's quad was last built from. -/
structure QuadKey where
  content : Size
  allocated : Size
  output : Size
deriving DecidableEq, Repr

/-- The last quad of a pass, built anew only when its sizes change. -/
structure GeometryCache where
  align : Bool
  key : Option QuadKey := none
  quad : Quad Single := default
deriving DecidableEq, Repr

namespace GeometryCache

/-- Makes the cache hold the quad of these sizes; `true` if it had to be built. -/
def update (cache : GeometryCache) (key : QuadKey) : Bool × GeometryCache :=
  if cache.key = some key then (false, cache)
  else
    (true, { cache with
      key := some key
      quad := Quad.build key.content key.allocated key.output cache.align })

/-- Makes the next update build anew. -/
def invalidate (cache : GeometryCache) : GeometryCache := { cache with key := none }

end GeometryCache

end PassChain
