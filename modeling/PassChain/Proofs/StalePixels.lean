import PassChain.Proofs.Continuing
import PassChain.Proofs.ConvertedFrames
import PassChain.Proofs.Observing
import PassChain.Proofs.PoolSession

/-! What the textures of the ring hold around the frames in them: nothing. -/
namespace PassChain

open Attempt

/-- A picture of this size reaches the pixel in column `x` of row `y`. -/
def Size.Covers (size : Size) (x y : Nat) : Prop :=
  x < size.width.toNat ∧ y < size.height.toNat

instance (size : Size) (x y : Nat) : Decidable (size.Covers x y) :=
  inferInstanceAs (Decidable (_ ∧ _))

/-- All bytes of a pixel are zero. -/
def IsBlank (pixel : List UInt8) : Prop := ∀ b ∈ pixel, b = 0

/-- A device that keeps what its textures are given: the rows of a write, `n` bytes for each pixel,
in the top left, and zeros in a texture that is cleared. A call that fails changes no pixel, and new
textures may hold anything. -/
class HoldsPictures (δ : Type) [GpuDevice δ] where
  /-- the bytes of a texture in column `x` of row `y` -/
  pixel : δ → TextureId → Nat → Nat → List UInt8
  writeTexture_ends : ∀ id size data n d,
    data.length = size.width.toNat * size.height.toNat * n →
      (GpuDevice.writeTexture id size data).Ends d
        (fun _ d' =>
          (∀ x y, size.Covers x y →
            pixel d' id x y = (data.drop ((y * size.width.toNat + x) * n)).take n) ∧
          (∀ x y, ¬ size.Covers x y → pixel d' id x y = pixel d id x y) ∧
          ∀ other, other ≠ id → pixel d' other = pixel d other)
        (fun _ d' => pixel d' = pixel d)
  clearTexture_ends : ∀ id d,
    (GpuDevice.clearTexture id).Ends d
      (fun _ d' => (∀ x y, IsBlank (pixel d' id x y)) ∧
        ∀ other, other ≠ id → pixel d' other = pixel d other)
      (fun _ d' => pixel d' = pixel d)

open HoldsPictures

/-- The pixels of the textures of a device, and which writes and clears are going to be refused: for
each of the next ones, whether it is. -/
structure Painting where
  pixels : TextureId → Nat → Nat → List UInt8
  whims : List Bool := []

namespace Painting

/-- Puts rows of pixels, all of one length, into the top left. -/
def paint (size : Size) (data : List UInt8) (pixels : Nat → Nat → List UInt8) (x y : Nat) :
    List UInt8 :=
  let n := data.length / (size.width.toNat * size.height.toNat)
  if size.Covers x y then (data.drop ((y * size.width.toNat + x) * n)).take n else pixels x y

instance : Observer Painting where
  note event p := match event with
    | .writes _ | .clears _ => { p with whims := p.whims.tail }
    | .wrote id size data =>
      { p with pixels := Function.update p.pixels id (paint size data (p.pixels id)) }
    | .cleared id => { p with pixels := Function.update p.pixels id fun _ _ => [0, 0, 0, 0] }
    | _ => p
  refusal? event p := match event with
    | .writes _ | .clears _ =>
      if p.whims.head? = some true then some (.device (.upload "texture" "texture")) else none
    | _ => none

end Painting

/-- A device with the pixels of its textures. It refuses writes and clears at will. -/
abbrev Painted (δ : Type) := Observed Painting δ

instance {δ : Type} [GpuDevice δ] : HoldsPictures (Painted δ) where
  pixel p := p.notes.pixels
  writeTexture_ends id size data n p hdata := by
    refine Observed.watch_ends (fun _ _ => rfl) fun _ => (ends_true _).mono ?_ (fun _ _ _ => rfl)
    intro _ d _
    have hpixels : (Observed.tell (.wrote id size data) (⟨d, (p.tell (.writes id)).notes⟩ :
        Painted δ)).notes.pixels = Function.update p.notes.pixels id
          (Painting.paint size data (p.notes.pixels id)) := rfl
    rw [hpixels]
    refine ⟨?_, ?_, fun other hother => Function.update_of_ne hother _ _⟩
    · intro x y hxy
      have hsome : 0 < size.width.toNat * size.height.toNat :=
        Nat.mul_pos (Nat.zero_lt_of_lt hxy.1) (Nat.zero_lt_of_lt hxy.2)
      rw [Function.update_self, Painting.paint, if_pos hxy, hdata,
        Nat.mul_div_cancel_left n hsome]
    · intro x y hxy
      rw [Function.update_self, Painting.paint, if_neg hxy]
  clearTexture_ends id p := by
    refine Observed.watch_ends (fun _ _ => rfl) fun _ => (ends_true _).mono ?_ (fun _ _ _ => rfl)
    intro _ d _
    have hpixels : (Observed.tell (.cleared id) (⟨d, (p.tell (.clears id)).notes⟩ :
        Painted δ)).notes.pixels = Function.update p.notes.pixels id fun _ _ => [0, 0, 0, 0] := rfl
    rw [hpixels]
    refine ⟨?_, fun other hother => Function.update_of_ne hother _ _⟩
    intro x y b hb
    rw [Function.update_self] at hb
    simpa using hb

/-- A texture holds the converted frame in its top left, and is blank everywhere else. -/
def HoldsOnly {δ : Type} [GpuDevice δ] [HoldsPictures δ] (d : δ) (id : TextureId)
    (frame : Frame) : Prop :=
  ∃ rows, frame.toBgra = .ok rows ∧
    rows.length = frame.size.width.toNat * frame.size.height.toNat * 4 ∧ ∀ x y,
      (frame.size.Covers x y →
        pixel d id x y = (rows.drop ((y * frame.size.width.toNat + x) * 4)).take 4) ∧
      (¬ frame.size.Covers x y → IsBlank (pixel d id x y))

namespace TexturePool

variable {δ : Type} [GpuDevice δ] [HoldsPictures δ] {pool pool' : TexturePool} {d d' : δ}

/-- The slots of the ring have textures of their own, and each that has taken a frame is blank
around it. -/
structure BlankAround (pool : TexturePool) (d : δ) : Prop where
  distinct : ∀ (i j : Nat) (hi : i < historySlots) (hj : j < historySlots),
    pool.history.slots[i].texture = pool.history.slots[j].texture → i = j
  blank : ∀ (i : Nat) (hi : i < historySlots), pool.history.slots[i].size ≠ ⟨0, 0⟩ →
    ∀ x y, ¬ pool.history.slots[i].size.Covers x y →
      IsBlank (pixel d pool.history.slots[i].texture x y)

/-- What is done to the current slot does not bear on the others. -/
theorem BlankAround.change (h : pool.BlankAround d)
    (htextures : ∀ (i : Nat) (hi : i < historySlots),
      pool'.history.slots[i].texture = pool.history.slots[i].texture)
    (hsizes : ∀ (i : Nat) (hi : i < historySlots), i ≠ pool.history.cursor.val →
      pool'.history.slots[i].size = pool.history.slots[i].size)
    (hpixels : ∀ other, other ≠ pool.history.current.texture → pixel d' other = pixel d other)
    (hblank : ∀ x y, ¬ pool'.history.slots[pool.history.cursor].size.Covers x y →
      IsBlank (pixel d' pool.history.current.texture x y)) : pool'.BlankAround d' where
  distinct i j hi hj hij := by
    rw [htextures i hi, htextures j hj] at hij
    exact h.distinct i j hi hj hij
  blank i hi hsize x y hout := by
    by_cases hcursor : i = pool.history.cursor.val
    · subst hcursor
      rw [htextures]
      exact hblank x y hout
    · have hne : pool.history.slots[i].texture ≠ pool.history.current.texture := fun heq =>
        hcursor (h.distinct i _ hi pool.history.cursor.isLt heq)
      rw [htextures i hi, hpixels _ hne]
      rw [hsizes i hi hcursor] at hsize hout
      exact h.blank i hi hsize x y hout

theorem BlankAround.of_pixels (h : pool.BlankAround d) (hpixels : pixel d' = pixel d) :
    pool.BlankAround d' := by
  refine ⟨h.distinct, ?_⟩
  rw [hpixels]
  exact h.blank

/-- A texture that is cleared for a frame of another size is blank, should the frame not follow. -/
theorem BlankAround.clearTexture (h : pool.BlankAround d) :
    (GpuDevice.clearTexture pool.history.current.texture).Ends d
      (fun _ d' => pool.BlankAround d' ∧ ∀ x y, IsBlank (pixel d' pool.history.current.texture x y))
      (fun _ d' => pool.BlankAround d') := by
  refine (clearTexture_ends _ d).mono ?_ (fun _ _ => h.of_pixels)
  rintro _ d' ⟨hblank, hother⟩
  exact ⟨h.change (fun _ _ => rfl) (fun _ _ _ => rfl) hother (fun x y _ => hblank x y), hblank⟩

/-- Rows that are written where all is blank around them. -/
theorem BlankAround.writeTexture (h : pool.BlankAround d) {size : Size} {rows : List UInt8}
    (hrows : rows.length = size.width.toNat * size.height.toNat * 4)
    (hblank : ∀ x y, ¬ size.Covers x y → IsBlank (pixel d pool.history.current.texture x y)) :
    (GpuDevice.writeTexture pool.history.current.texture size rows).Ends d
      (fun _ d' =>
        BlankAround { pool with history := pool.history.resizeCurrent size } d' ∧ ∀ x y,
          (size.Covers x y → pixel d' pool.history.current.texture x y =
            (rows.drop ((y * size.width.toNat + x) * 4)).take 4) ∧
          (¬ size.Covers x y → IsBlank (pixel d' pool.history.current.texture x y)))
      (fun _ d' => pool.BlankAround d') := by
  refine (writeTexture_ends _ size rows 4 d hrows).mono ?_ (fun _ _ => h.of_pixels)
  rintro _ d' ⟨hin, hout, hother⟩
  have haround (x y : Nat) (hxy : ¬ size.Covers x y) :
      IsBlank (pixel d' pool.history.current.texture x y) := by
    rw [hout x y hxy]
    exact hblank x y hxy
  refine ⟨h.change (History.texture_resizeCurrent size) ?_ hother ?_, ?_⟩
  · intro i hi hne
    simp [History.resizeCurrent, hne.symm]
  · intro x y hxy
    simp only [History.resizeCurrent, Fin.getElem_fin, Vector.getElem_set_self] at hxy
    exact haround x y hxy
  · exact fun x y => ⟨hin x y, haround x y⟩

/-- A frame that is taken stands alone in its texture. One that is refused, whether by the pool or
half way by the device, leaves no frame with anything around it. -/
theorem BlankAround.writeFrame (h : pool.BlankAround d) (frame : Frame) :
    (pool.writeFrame frame).Ends d
      (fun pool' d' => pool'.BlankAround d' ∧
        pool'.history = pool.history.resizeCurrent frame.size ∧
        HoldsOnly d' pool.history.current.texture frame)
      (fun _ d' => pool.BlankAround d') := by
  unfold TexturePool.writeFrame
  simp only [ends_bind, ends_ite, ends_throw, ends_ofExcept, ends_pure]
  refine ⟨fun _ => h, fun hwithin => ⟨fun rows hconverted => ?_, fun _ _ => h⟩⟩
  have hlength := Frame.length_toBgra hconverted
  constructor
  · intro _
    refine h.clearTexture.mono_ok ?_
    rintro _ d₁ ⟨h₁, hblank⟩
    refine (h₁.writeTexture hlength fun x y _ => hblank x y).mono_ok ?_
    rintro _ d' ⟨hafter, hpixels⟩
    exact ⟨hafter, trivial, rows, hconverted, hlength, hpixels⟩
  · -- nothing is cleared: the slot is blank around a frame of this very size
    intro hsame
    have hsize : pool.history.current.size = frame.size := not_not.mp hsame
    have hsome : pool.history.current.size ≠ ⟨0, 0⟩ := by
      intro hzero
      rw [← hsize, hzero] at hwithin
      simp [Size.within] at hwithin
    have hblank := h.blank _ pool.history.cursor.isLt hsome
    refine (h.writeTexture hlength (hsize ▸ hblank)).mono_ok ?_
    rintro _ d' ⟨hafter, hpixels⟩
    exact ⟨hafter, trivial, rows, hconverted, hlength, hpixels⟩

/-- Moving on touches no texture. -/
theorem BlankAround.advance (h : pool.BlankAround d) : pool.advance.BlankAround d :=
  ⟨h.distinct, h.blank⟩

/-- The ring of a new pool has taken no frame yet, and its textures may hold anything. -/
theorem create_blankAround [FreshTextures δ] (targetCount : Nat) (maxInput : Size) (pow2 : Bool)
    (d₀ : δ) :
    (TexturePool.create targetCount maxInput pow2).Ends d₀
      (fun pool _ => ∀ d : δ, pool.BlankAround d) (fun _ _ => True) := by
  refine (create_ends targetCount maxInput pow2 d₀).mono_ok ?_
  rintro pool d₁ ⟨⟨slots, hhistory, d₂, d₃, hcreate⟩, _⟩ d
  obtain ⟨_, hdistinct⟩ := (createHistory_distinct maxInput historySlots d₂).of_ok hcreate
  refine ⟨?_, ?_⟩
  · intro i j hi hj hij
    simp only [hhistory, History.ofTextures, Vector.getElem_map] at hij
    exact hdistinct i j hi hj hij
  · intro i hi hsize
    simp [hhistory, History.ofTextures] at hsize

end TexturePool

namespace PoolSession

variable {δ : Type} [GpuDevice δ] [HoldsPictures δ]

theorem after_blankAround {s : PoolSession δ} (h : s.pool.BlankAround s.device) {call : PoolCall}
    (hcall : call.isInput = true) : (s.after call).pool.BlankAround (s.after call).device := by
  apply after_of_ends (P := fun t => t.pool.BlankAround t.device)
  cases call with
  | writeFrame frame =>
    simp only [exec, ends_bind, ends_renew, ends_pure]
    exact (h.writeFrame frame).mono (fun _ _ hafter => hafter.1) (fun _ _ hafter => hafter)
  | advance => exact h.advance
  | ensureTarget | insertLookup | loadLookup | releaseAll => simp [PoolCall.isInput] at hcall

theorem run_blankAround {s : PoolSession δ} (h : s.pool.BlankAround s.device)
    {calls : List PoolCall} (hcalls : ∀ call ∈ calls, call.isInput = true) :
    (s.run calls).pool.BlankAround (s.run calls).device := by
  induction calls generalizing s with
  | nil => exact h
  | cons call calls ih =>
    have hafter := after_blankAround h (hcalls call List.mem_cons_self)
    exact ih hafter fun later hlater => hcalls later (List.mem_cons_of_mem _ hlater)

/-- Over any device that keeps what its textures are given, in whatever state it is when the first
frame comes, and whichever writes and clears it refuses: each texture of the ring is blank around
the frame that is noted in it, and a frame that has just been taken stands alone in its texture. -/
theorem frames_stand_alone [FreshTextures δ] {targetCount : Nat} {maxInput : Size} {pow2 : Bool}
    {d₀ d₁ : δ} {pool : TexturePool}
    (hcreate : TexturePool.create targetCount maxInput pow2 d₀ = .ok pool d₁) (d : δ)
    (calls : List PoolCall) (hcalls : ∀ call ∈ calls, call.isInput = true) :
    let s := run ⟨pool, d⟩ calls
    (∀ (i : Nat) (hi : i < historySlots), s.pool.history.slots[i].size ≠ ⟨0, 0⟩ →
      ∀ x y, ¬ s.pool.history.slots[i].size.Covers x y →
        IsBlank (pixel s.device s.pool.history.slots[i].texture x y)) ∧
    ∀ frame reply t, exec (.writeFrame frame) s = .ok reply t →
      t.pool.history.current = { s.pool.history.current with size := frame.size } ∧
      ∃ rows, frame.toBgra = .ok rows ∧
        rows.length = frame.size.width.toNat * frame.size.height.toNat * 4 ∧ ∀ x y,
          (frame.size.Covers x y → pixel t.device t.pool.history.current.texture x y =
            (rows.drop ((y * frame.size.width.toNat + x) * 4)).take 4) ∧
          (¬ frame.size.Covers x y →
            IsBlank (pixel t.device t.pool.history.current.texture x y)) := by
  intro s
  have hstart := (TexturePool.create_blankAround targetCount maxInput pow2 d₀).of_ok hcreate d
  have hs : s.pool.BlankAround s.device := run_blankAround hstart hcalls
  refine ⟨hs.blank, ?_⟩
  intro frame reply t ht
  have hends : (exec (.writeFrame frame)).Ends s
      (fun _ t => t.pool.history = s.pool.history.resizeCurrent frame.size ∧
        HoldsOnly t.device s.pool.history.current.texture frame) (fun _ _ => True) := by
    simp only [exec, ends_bind, ends_renew, ends_pure]
    exact (hs.writeFrame frame).mono (fun _ _ hafter => hafter.2) (fun _ _ _ => trivial)
  obtain ⟨hhistory, hholds⟩ := hends.of_ok ht
  have hcurrent : t.pool.history.current =
      { s.pool.history.current with size := frame.size } := by
    simp [hhistory, History.resizeCurrent, History.current]
  rw [hcurrent]
  exact ⟨rfl, hholds⟩

end PoolSession

/-- Two pixels in a row. -/
def Frame.twoPixels : Frame := ⟨[1, 2, 3, 4, 5, 6, 7, 8], ⟨2, 1⟩, 8, .xrgb8888⟩

/-- A recorder with sevens in all textures. It is going to take three writes or clears, then to
clear a texture, and to refuse the write that comes after that. -/
def Painted.sevens : Painted Recorder :=
  ⟨{}, fun _ _ _ => [7, 7, 7, 7], [false, false, false, false, true]⟩

/-- Two pixels, then one. -/
def PoolCall.twoFrames : List PoolCall :=
  [.writeFrame .twoPixels, .writeFrame ⟨[1, 2, 3, 4], ⟨1, 1⟩, 4, .xrgb8888⟩]

theorem PoolSession.two_pixels_stand_alone :
    ∃ pool d, TexturePool.create 1 ⟨4, 4⟩ false Painted.sevens = .ok pool d ∧
      pixel d pool.history.current.texture 0 0 = [7, 7, 7, 7] ∧
      (run ⟨pool, d⟩ PoolCall.twoFrames).pool.history.current.size = ⟨2, 1⟩ ∧
      ∃ t, exec (.writeFrame .twoPixels) (run ⟨pool, d⟩ PoolCall.twoFrames) = .ok .done t ∧
        pixel t.device t.pool.history.current.texture 1 0 = [5, 6, 7, 255] ∧
        ∀ x y, ¬ Size.Covers ⟨2, 1⟩ x y →
          IsBlank (pixel t.device t.pool.history.current.texture x y) := by
  obtain ⟨pool, d, hcreate, hsevens, hsize, hdone⟩ : ∃ pool d,
      TexturePool.create 1 ⟨4, 4⟩ false Painted.sevens = .ok pool d ∧
      pixel d pool.history.current.texture 0 0 = [7, 7, 7, 7] ∧
      (run ⟨pool, d⟩ PoolCall.twoFrames).pool.history.current.size = ⟨2, 1⟩ ∧
      ((exec (.writeFrame .twoPixels)).outcome
        (run ⟨pool, d⟩ PoolCall.twoFrames)).1.toOption = some .done :=
    ⟨_, _, rfl, by decide +kernel⟩
  obtain ⟨t, ht⟩ := exists_eq_ok hdone
  obtain ⟨_, htaken⟩ := frames_stand_alone hcreate d PoolCall.twoFrames (by decide)
  obtain ⟨_, rows, hrows, _, hpixels⟩ := htaken .twoPixels .done t ht
  have hconverted : Frame.twoPixels.toBgra = .ok [1, 2, 3, 255, 5, 6, 7, 255] := by decide
  rw [hconverted] at hrows
  cases hrows
  exact ⟨pool, d, hcreate, hsevens, hsize, t, ht, (hpixels 1 0).1 (by decide),
    fun x y => (hpixels x y).2⟩

end PassChain
