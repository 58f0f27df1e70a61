import Mathlib.Dynamics.PeriodicPts.Defs
import Mathlib.Tactic.FieldSimp
import Mathlib.Tactic.Linarith
import Mathlib.Tactic.Ring
import PassChain.Geometry

/-! Which way up a pass draws its source, in exact numbers. -/
namespace PassChain

/-- A quarter turn of clip space, counter-clockwise about its centre. -/
def turnLeft (p : ℚ × ℚ) : ℚ × ℚ := (-p.2, p.1)

/-- The column of a matrix that is followed by a quarter turn of clip space. -/
def Column.turned (c : Column ℚ) : Column ℚ := ⟨-c.y, c.x, c.z, c.w⟩

namespace Matrix4

/-- The matrix followed by a quarter turn of clip space. -/
def turned (m : Matrix4 ℚ) : Matrix4 ℚ := ⟨m.c0.turned, m.c1.turned, m.c2.turned, m.c3.turned⟩

/-- The matrix leaves depth and weight as they are, so the picture plane stays flat. -/
structure Planar (m : Matrix4 ℚ) : Prop where
  depth : (m.c0.z, m.c1.z, m.c2.z, m.c3.z) = (0, 0, 1, 0)
  weight : (m.c0.w, m.c1.w, m.c2.w, m.c3.w) = (0, 0, 0, 1)

theorem apply_turned (m : Matrix4 ℚ) (x y : ℚ) : m.turned.apply x y = turnLeft (m.apply x y) := by
  simp only [apply, turned, Column.turned, turnLeft]
  congr 1
  ring

theorem apply_iterate_turned (m : Matrix4 ℚ) (n : ℕ) (x y : ℚ) :
    (turned^[n] m).apply x y = turnLeft^[n] (m.apply x y) := by
  induction n with
  | zero => rfl
  | succ n ih =>
    rw [Function.iterate_succ_apply', Function.iterate_succ_apply', apply_turned, ih]

end Matrix4

section Turns

variable {α : Type} {f : α → α}

theorem iterate_mod_four (hf : ∀ a, f^[4] a = a) (n : ℕ) (a : α) : f^[n % 4] a = f^[n] a :=
  Function.IsPeriodicPt.iterate_mod_apply (hf a) n

theorem iterate_add_turns (hf : ∀ a, f^[4] a = a) (turns more : UInt32) (a : α) :
    f^[(turns + more).toNat] a = f^[more.toNat] (f^[turns.toNat] a) := by
  have hmod : (turns + more).toNat % 4 = (more.toNat + turns.toNat) % 4 := by
    rw [UInt32.toNat_add]
    omega
  rw [← iterate_mod_four hf, hmod, iterate_mod_four hf, Function.iterate_add_apply]

end Turns

theorem Matrix4.turned_four (m : Matrix4 ℚ) : turned^[4] m = m := by
  simp [turned, Column.turned]

/-- A number of turns counts by what four leave of it. -/
theorem quarterTurn_cases (turns : UInt32) :
    (turns.toNat % 4 = 0 ∧ (quarterTurn turns : ℚ × ℚ) = (1, 0)) ∨
      (turns.toNat % 4 = 1 ∧ (quarterTurn turns : ℚ × ℚ) = (0, 1)) ∨
      (turns.toNat % 4 = 2 ∧ (quarterTurn turns : ℚ × ℚ) = (-1, 0)) ∨
      (turns.toNat % 4 = 3 ∧ (quarterTurn turns : ℚ × ℚ) = (0, -1)) := by
  have hturns (k : UInt32) : turns % 4 = k ↔ turns.toNat % 4 = k.toNat := by
    rw [← UInt32.toNat_inj, UInt32.toNat_mod]
    rfl
  have hlt : turns.toNat % 4 < 4 := Nat.mod_lt _ (by decide)
  have hcases : turns.toNat % 4 = 0 ∨ turns.toNat % 4 = 1 ∨ turns.toNat % 4 = 2 ∨
      turns.toNat % 4 = 3 := by omega
  rcases hcases with h | h | h | h
  · exact .inl ⟨h, by simp [quarterTurn, hturns, h]⟩
  · exact .inr (.inl ⟨h, by simp [quarterTurn, hturns, h]⟩)
  · exact .inr (.inr (.inl ⟨h, by simp [quarterTurn, hturns, h]⟩))
  · exact .inr (.inr (.inr ⟨h, by simp [quarterTurn, hturns, h]⟩))

/-- A turned projection is the upright one, followed by so many quarter turns. -/
theorem projection_eq (size : Size) (turns : UInt32) : (projection size turns : Matrix4 ℚ) =
    Matrix4.turned^[turns.toNat] (projection size 0) := by
  have hupright : (quarterTurn 0 : ℚ × ℚ) = (1, 0) := by simp [quarterTurn]
  rw [← iterate_mod_four Matrix4.turned_four]
  rcases quarterTurn_cases turns with ⟨h, hturn⟩ | ⟨h, hturn⟩ | ⟨h, hturn⟩ | ⟨h, hturn⟩
  · simp [projection, hturn, hupright, h]
  · simp [projection, hturn, hupright, h, Matrix4.turned, Column.turned]
  · simp [projection, hturn, hupright, h, Matrix4.turned, Column.turned]
  · simp [projection, hturn, hupright, h, Matrix4.turned, Column.turned]

theorem projection_planar (size : Size) (turns : UInt32) :
    (projection size turns : Matrix4 ℚ).Planar := by
  constructor
  · simp [projection]
  · simp [projection]

/-- Both sides are at least a pixel long. -/
def Size.Proper (s : Size) : Prop := 1 ≤ s.width ∧ 1 ≤ s.height

theorem max_one {n : UInt32} (h : 1 ≤ n) : max n 1 = n := by
  show (if n ≤ 1 then 1 else n) = n
  split
  · rename_i hle
    exact UInt32.le_antisymm h hle
  · rfl

theorem cast_ne_zero {n : UInt32} (h : 1 ≤ n) : (n.toNat : ℚ) ≠ 0 := by
  have hpos : 1 ≤ n.toNat := UInt32.le_iff_toNat_le.mp h
  positivity

section Upright

variable {content allocated output : Size}

/-- Upright, the pixels of a picture fill the clip square, `y` up. -/
theorem projection_apply (h : output.Proper) (x y : ℚ) :
    (projection output 0 : Matrix4 ℚ).apply x y =
      (2 * x / output.width.toNat - 1, 2 * y / output.height.toNat - 1) := by
  have hturn : (quarterTurn 0 : ℚ × ℚ) = (1, 0) := by simp [quarterTurn]
  simp only [Matrix4.apply, projection, hturn, max_one h.1, max_one h.2]
  push_cast
  congr 1
  · ring
  · ring

/-- The point of a quad at a place of its picture, counted in parts of its width from the left and
of its height from the top. -/
def Quad.point (content allocated output : Size) (p : ℚ × ℚ) : Vertex ℚ where
  x := p.1 * output.width.toNat
  y := (1 - p.2) * output.height.toNat
  u := p.1 * (content.width.toNat / allocated.width.toNat)
  v := p.2 * (content.height.toNat / allocated.height.toNat)
  lutU := p.1
  lutV := p.2

/-- The corners of a quad are the points at the corners of its picture. -/
theorem Quad.build_eq (h : allocated.Proper) :
    let point := Quad.point content allocated output
    (Quad.build content allocated output false : Quad ℚ) =
      ⟨point (0, 0), point (1, 0), point (0, 1), point (1, 1)⟩ := by
  simp [Quad.build, Quad.point, max_one h.1, max_one h.2]

end Upright

/-- The point of clip space at a place of an upright picture that fills it. -/
def clipPoint (p : ℚ × ℚ) : ℚ × ℚ := (2 * p.1 - 1, 1 - 2 * p.2)

theorem clipPoint_injective : Function.Injective clipPoint := by
  intro p q h
  obtain ⟨hx, hy⟩ := Prod.ext_iff.mp h
  simp only [clipPoint] at hx hy
  exact Prod.ext (by linarith) (by linarith)

/-- The point of a quad at a place of its picture is drawn at this place, turned. -/
theorem projection_point (content allocated : Size) {output : Size} (h : output.Proper)
    (turns : UInt32) (p : ℚ × ℚ) : (projection output turns : Matrix4 ℚ).apply
        (Quad.point content allocated output p).x (Quad.point content allocated output p).y =
      turnLeft^[turns.toNat] (clipPoint p) := by
  have hw := cast_ne_zero h.1
  have hh := cast_ne_zero h.2
  rw [projection_eq, Matrix4.apply_iterate_turned, projection_apply h, clipPoint, Quad.point]
  congr 2
  · field_simp
  · field_simp
    ring

/-- The point of a triangle that is the mean of its corners by these weights. -/
def Vertex.mean (a b c : ℚ) (p q r : Vertex ℚ) : Vertex ℚ where
  x := a * p.x + b * q.x + c * r.x
  y := a * p.y + b * q.y + c * r.y
  u := a * p.u + b * q.u + c * r.u
  v := a * p.v + b * q.v + c * r.v
  lutU := a * p.lutU + b * q.lutU + c * r.lutU
  lutV := a * p.lutV + b * q.lutV + c * r.lutV

/-- The point is drawn in one of the two triangles of a strip, with what is interpolated there. -/
def Quad.Covers (quad : Quad ℚ) (point : Vertex ℚ) : Prop :=
  ∃ a b c : ℚ, 0 ≤ a ∧ 0 ≤ b ∧ 0 ≤ c ∧ a + b + c = 1 ∧
    (point = .mean a b c quad.topLeft quad.topRight quad.bottomLeft ∨
      point = .mean a b c quad.topRight quad.bottomLeft quad.bottomRight)

/-- A place inside of a picture. -/
structure InPicture (p : ℚ × ℚ) : Prop where
  left : 0 ≤ p.1
  right : p.1 ≤ 1
  top : 0 ≤ p.2
  bottom : p.2 ≤ 1

/-- The strip draws the points at the places of the picture, each of them. -/
theorem Quad.covers_iff {content allocated output : Size} (h : allocated.Proper)
    {point : Vertex ℚ} : (Quad.build content allocated output false : Quad ℚ).Covers point ↔
      ∃ p, InPicture p ∧ point = Quad.point content allocated output p := by
  rw [Quad.build_eq h]
  constructor
  · rintro ⟨a, b, c, ha, hb, hc, hsum, rfl | rfl⟩
    · refine ⟨(b, c), ⟨hb, by linarith, hc, by linarith⟩, ?_⟩
      have ha' : a = 1 - b - c := by linarith
      simp only [Vertex.mean, Quad.point, ha', Vertex.mk.injEq]
      refine ⟨?_, ?_, ?_, ?_, ?_, ?_⟩ <;> ring
    · refine ⟨(a + c, b + c), ⟨by linarith, by linarith, by linarith, by linarith⟩, ?_⟩
      have hc' : c = 1 - a - b := by linarith
      simp only [Vertex.mean, Quad.point, hc', Vertex.mk.injEq]
      refine ⟨?_, ?_, ?_, ?_, ?_, ?_⟩ <;> ring
  · rintro ⟨⟨s, t⟩, ⟨hs, hs', ht, ht'⟩, rfl⟩
    rcases le_total (s + t) 1 with hle | hge
    · refine ⟨1 - s - t, s, t, by linarith, hs, ht, by ring, .inl ?_⟩
      simp only [Vertex.mean, Quad.point, Vertex.mk.injEq]
      refine ⟨?_, ?_, ?_, ?_, ?_, ?_⟩ <;> ring
    · refine ⟨1 - t, 1 - s, s + t - 1, by linarith, by linarith, by linarith, by ring, .inr ?_⟩
      simp only [Vertex.mean, Quad.point, Vertex.mk.injEq]
      refine ⟨?_, ?_, ?_, ?_, ?_, ?_⟩ <;> ring

/-- The sides of all sizes of a pass are at least a pixel long. -/
structure QuadKey.Proper (key : QuadKey) : Prop where
  content : key.content.Proper
  allocated : key.allocated.Proper
  output : key.output.Proper

/-- A pass of these sizes, turned so far, shows at the place `q` of its output what is at the place
`p` of its source: a point that it draws there reads the texture there. -/
def QuadKey.Shows (key : QuadKey) (turns : UInt32) (p q : ℚ × ℚ) : Prop :=
  ∃ point, (Quad.build key.content key.allocated key.output false : Quad ℚ).Covers point ∧
    point.u * key.allocated.width.toNat = p.1 * key.content.width.toNat ∧
    point.v * key.allocated.height.toNat = p.2 * key.content.height.toNat ∧
    (projection key.output turns : Matrix4 ℚ).apply point.x point.y = clipPoint q

/-- What is at a place of the source is shown at this place, turned, and nowhere else. -/
theorem QuadKey.shows_iff {key : QuadKey} (h : key.Proper) {turns : UInt32} {p q : ℚ × ℚ} :
    key.Shows turns p q ↔ InPicture p ∧ clipPoint q = turnLeft^[turns.toNat] (clipPoint p) := by
  have hcw := cast_ne_zero h.content.1
  have hch := cast_ne_zero h.content.2
  have haw := cast_ne_zero h.allocated.1
  have hah := cast_ne_zero h.allocated.2
  constructor
  · rintro ⟨point, hcovers, hu, hv, hclip⟩
    obtain ⟨p', hp', rfl⟩ := (Quad.covers_iff h.allocated).mp hcovers
    rw [projection_point _ _ h.output] at hclip
    have hx : p'.1 = p.1 := by
      simp only [Quad.point] at hu
      field_simp at hu
      exact hu
    have hy : p'.2 = p.2 := by
      simp only [Quad.point] at hv
      field_simp at hv
      exact hv
    obtain rfl : p' = p := Prod.ext hx hy
    exact ⟨hp', hclip.symm⟩
  · rintro ⟨hp, hclip⟩
    refine ⟨_, (Quad.covers_iff h.allocated).mpr ⟨p, hp, rfl⟩, ?_, ?_, ?_⟩
    · simp only [Quad.point]
      field_simp
    · simp only [Quad.point]
      field_simp
    · rw [projection_point _ _ h.output, hclip]

/-- Passes that are not turned, one after the other, show at `q` what is at `p` of the first
source. -/
def ShownThrough : List QuadKey → ℚ × ℚ → ℚ × ℚ → Prop
  | [], p, q => p = q
  | key :: keys, p, q => ∃ between, key.Shows 0 p between ∧ ShownThrough keys between q

/-- Any number of passes that are not turned leaves every place of the picture where it is. -/
theorem shownThrough_iff {keys : List QuadKey} (h : ∀ key ∈ keys, key.Proper) {p q : ℚ × ℚ}
    (hp : InPicture p) : ShownThrough keys p q ↔ p = q := by
  induction keys with
  | nil => rfl
  | cons key keys ih =>
    have hkeys := ih fun key hkey => h key (List.mem_cons_of_mem _ hkey)
    have hstep (between : ℚ × ℚ) : key.Shows 0 p between ↔ p = between := by
      rw [QuadKey.shows_iff (h key List.mem_cons_self)]
      constructor
      · rintro ⟨_, hclip⟩
        exact (clipPoint_injective hclip).symm
      · rintro rfl
        exact ⟨hp, rfl⟩
    constructor
    · rintro ⟨between, hshows, hrest⟩
      obtain rfl := (hstep between).mp hshows
      exact hkeys.mp hrest
    · intro hq
      exact ⟨p, (hstep p).mpr rfl, hkeys.mpr hq⟩

/-- A turned pass after any number of others turns the picture, and does nothing else to it. -/
theorem turned_after_iff {keys : List QuadKey} (h : ∀ key ∈ keys, key.Proper) {last : QuadKey}
    (hlast : last.Proper) {turns : UInt32} {p q : ℚ × ℚ} :
    (∃ between, ShownThrough keys p between ∧ last.Shows turns between q) ↔
      InPicture p ∧ clipPoint q = turnLeft^[turns.toNat] (clipPoint p) := by
  constructor
  · rintro ⟨between, hthrough, hshows⟩
    have hp : InPicture p := by
      cases keys with
      | nil =>
        obtain rfl : p = between := hthrough
        exact ((QuadKey.shows_iff hlast).mp hshows).1
      | cons key keys =>
        obtain ⟨_, hfirst, _⟩ := hthrough
        exact ((QuadKey.shows_iff (h key List.mem_cons_self)).mp hfirst).1
    obtain rfl := (shownThrough_iff h hp).mp hthrough
    exact (QuadKey.shows_iff hlast).mp hshows
  · rintro ⟨hp, hclip⟩
    exact ⟨p, (shownThrough_iff h hp).mpr rfl, (QuadKey.shows_iff hlast).mpr ⟨hp, hclip⟩⟩

/-- The corner reads this point of the texture and is drawn at this point of clip space. -/
structure Vertex.Puts (corner : Vertex ℚ) (m : Matrix4 ℚ) (texture clip : ℚ × ℚ) : Prop where
  texture : (corner.u, corner.v) = texture
  clip : m.apply corner.x corner.y = clip

/-- A corner in place of another one: it is drawn so far away, and reads what that one reads. -/
structure Vertex.Moved (m : Matrix4 ℚ) (distance : ℚ × ℚ) (corner moved : Vertex ℚ) : Prop where
  clip : m.apply moved.x moved.y = m.apply corner.x corner.y + distance
  texture : (moved.u, moved.v) = (corner.u, corner.v)
  lookup : (moved.lutU, moved.lutV) = (corner.lutU, corner.lutV)

theorem Vertex.aligned_moved {output : Size} (h : output.Proper) (corner : Vertex ℚ) :
    Vertex.Moved (projection output 0) (-1 / output.width.toNat, 1 / output.height.toNat) corner
      corner.aligned where
  clip := by
    rw [projection_apply h, projection_apply h, Vertex.aligned, Prod.mk_add_mk]
    push_cast
    congr 1
    · ring
    · ring
  texture := rfl
  lookup := rfl

/-- The corners of an upright source are drawn at the corners of clip space, turned as asked for; so
passes that are not turned, in any number, neither mirror nor flip the picture, and turns add up.
Alignment moves all corners by half a pixel to the left and up, and what they read not at all. -/
theorem pictures_are_turned_only {content allocated output : Size} (hallocated : allocated.Proper)
    (houtput : output.Proper) (turns more : UInt32) :
    let quad : Quad ℚ := Quad.build content allocated output false
    let m : Matrix4 ℚ := projection output turns
    let u : ℚ := content.width.toNat / allocated.width.toNat
    let v : ℚ := content.height.toNat / allocated.height.toNat
    m.Planar ∧
    quad.topLeft.Puts m (0, 0) (turnLeft^[turns.toNat] (-1, 1)) ∧
    quad.topRight.Puts m (u, 0) (turnLeft^[turns.toNat] (1, 1)) ∧
    quad.bottomLeft.Puts m (0, v) (turnLeft^[turns.toNat] (-1, -1)) ∧
    quad.bottomRight.Puts m (u, v) (turnLeft^[turns.toNat] (1, -1)) ∧
    (∀ (keys : List QuadKey) (last : QuadKey) (p q : ℚ × ℚ), (∀ key ∈ keys, key.Proper) →
      last.Proper → ((∃ between, ShownThrough keys p between ∧ last.Shows turns between q) ↔
        InPicture p ∧ clipPoint q = turnLeft^[turns.toNat] (clipPoint p))) ∧
    (projection output (turns + more) : Matrix4 ℚ) = Matrix4.turned^[more.toNat] m ∧
    (∀ x y, (projection output (turns + more) : Matrix4 ℚ).apply x y =
      turnLeft^[more.toNat] (m.apply x y)) ∧
    List.Forall₂
      (Vertex.Moved (projection output 0) (-1 / output.width.toNat, 1 / output.height.toNat))
      quad.toList (Quad.build content allocated output true : Quad ℚ).toList := by
  intro quad m u v
  have hquad : quad = ⟨_, _, _, _⟩ := Quad.build_eq hallocated
  have hcorner (p texture clip : ℚ × ℚ) (htexture : (p.1 * u, p.2 * v) = texture)
      (hclip : clipPoint p = clip) :
      (Quad.point content allocated output p).Puts m texture (turnLeft^[turns.toNat] clip) :=
    ⟨htexture, by rw [projection_point _ _ houtput, hclip]⟩
  have hsum : (projection output (turns + more) : Matrix4 ℚ) = Matrix4.turned^[more.toNat] m := by
    rw [projection_eq, iterate_add_turns Matrix4.turned_four, ← projection_eq]
  refine ⟨projection_planar output turns, ?_, ?_, ?_, ?_, fun keys last p q hkeys hlast =>
    turned_after_iff hkeys hlast, hsum, fun x y => ?_, ?_⟩
  · rw [hquad]
    exact hcorner (0, 0) _ _ (by simp) (by norm_num [clipPoint])
  · rw [hquad]
    exact hcorner (1, 0) _ _ (by simp) (by norm_num [clipPoint])
  · rw [hquad]
    exact hcorner (0, 1) _ _ (by simp) (by norm_num [clipPoint])
  · rw [hquad]
    exact hcorner (1, 1) _ _ (by simp) (by norm_num [clipPoint])
  · rw [hsum, Matrix4.apply_iterate_turned]
  · have haligned : (Quad.build content allocated output true : Quad ℚ).toList =
        quad.toList.map Vertex.aligned := rfl
    rw [haligned, List.forall₂_map_right_iff, List.forall₂_same]
    intro corner _
    exact corner.aligned_moved houtput

/-- Turned once, a picture of 256 by 224 pixels has its last corner at the top right, and its first
one at the bottom left, also where another pass has drawn it before. -/
theorem picture_turned_once :
    let content : Size := ⟨256, 224⟩
    let allocated : Size := ⟨1024, 1024⟩
    let output : Size := ⟨640, 480⟩
    let key : QuadKey := ⟨content, allocated, output⟩
    allocated.Proper ∧ output.Proper ∧ key.Proper ∧
      (Quad.build content allocated output false : Quad ℚ).bottomRight.Puts (projection output 1)
        (256 / 1024, 224 / 1024) (1, 1) ∧
      ∃ between, ShownThrough [key] (0, 0) between ∧ key.Shows 1 between (0, 1) := by
  intro content allocated output key
  have hcontent : content.Proper := ⟨by decide, by decide⟩
  have hallocated : allocated.Proper := ⟨by decide, by decide⟩
  have houtput : output.Proper := ⟨by decide, by decide⟩
  have hkey : key.Proper := ⟨hcontent, hallocated, houtput⟩
  obtain ⟨_, _, _, _, hlast, hchain, _⟩ :=
    @pictures_are_turned_only content allocated output hallocated houtput 1 0
  have hkeys : ∀ k ∈ [key], k.Proper := by
    intro k hk
    rw [List.mem_singleton.mp hk]
    exact hkey
  have hturned : turnLeft^[(1 : UInt32).toNat] (1, -1) = (1, 1) := by simp [turnLeft]
  have hfirst : clipPoint (0, 1) = turnLeft^[(1 : UInt32).toNat] (clipPoint (0, 0)) := by
    rw [UInt32.toNat_one, Function.iterate_one]
    norm_num [turnLeft, clipPoint]
  rw [hturned] at hlast
  exact ⟨hallocated, houtput, hkey, hlast,
    (hchain [key] key (0, 0) (0, 1) hkeys hkey).mpr
      ⟨⟨le_rfl, zero_le_one, le_rfl, zero_le_one⟩, hfirst⟩⟩

end PassChain
