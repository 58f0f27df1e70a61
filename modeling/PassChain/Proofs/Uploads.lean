import PassChain.Proofs.ConvertedFrames
import PassChain.Proofs.RecordedFrames
import PassChain.Proofs.RecorderCalls
import PassChain.Proofs.Resources

/-! What is written to a texture of a chain is as long as the pixels it is for, and fits into it. -/
namespace PassChain

open Attempt Recorder

/-- The bytes of an area that no texture exceeds can be counted in 32 bits. -/
theorem Size.bytes_lt {size : Size} (hwidth : size.width ≤ 16384) (hheight : size.height ≤ 16384) :
    size.width.toNat * size.height.toNat * 4 < UInt32.size := by
  rw [UInt32.le_iff_toNat_le] at hwidth hheight
  have harea : size.width.toNat * size.height.toNat ≤ 16384 * 16384 :=
    Nat.mul_le_mul hwidth hheight
  exact Nat.lt_of_le_of_lt (Nat.mul_le_mul_right 4 harea) (by norm_num)

/-- Rows of pixels that a live texture is large enough for are accepted. -/
theorem Recorder.writeTexture_fits {r : Recorder} {id : TextureId} {desc : TextureDesc}
    {size : Size} {data : List UInt8} (hid : r.texture? id = some desc)
    (hwidth : size.width ≤ desc.size.width) (hheight : size.height ≤ desc.size.height)
    (hdata : data.length = size.width.toNat * size.height.toNat * desc.format.byteSize.toNat)
    (hcount : data.length < UInt32.size) :
    (GpuDevice.writeTexture id size data).Ends r (fun _ _ => True) (fun _ _ => False) := by
  have hfits : ¬ (desc.size.width < size.width ∨ desc.size.height < size.height) :=
    not_or.mpr ⟨UInt32.not_lt.mpr hwidth, UInt32.not_lt.mpr hheight⟩
  simp only [GpuDevice.writeTexture, ends_ofStep, Recorder.writeTexture, hid, if_neg hfits, ← hdata,
    if_neg (Nat.not_le.mpr hcount), ne_eq, not_true_eq_false, if_false]
  exact ⟨fun _ _ _ => trivial, fun _ he => by cases he⟩

/-- A live texture can be cleared. -/
theorem Recorder.clearTexture_alive {r : Recorder} {id : TextureId} {desc : TextureDesc}
    (hid : r.texture? id = some desc) :
    (GpuDevice.clearTexture id).Ends r (fun _ r' => r'.textures = r.textures)
      (fun _ _ => False) := by
  simp [GpuDevice.clearTexture, ends_ofStep, clearTexture, hid]

theorem Size.within_iff {s limit : Size} : s.within limit = true ↔
    (1 ≤ s.width ∧ s.width ≤ limit.width) ∧ 1 ≤ s.height ∧ s.height ≤ limit.height := by
  simp only [within, Bool.and_eq_true, decide_eq_true_eq]
  tauto

namespace TexturePool.Alive

variable {pool : TexturePool} {r : Recorder}

/-- Frames are taken up to a size that the device can create. -/
theorem texel_fits (h : pool.Alive r) (hr : r.TexturesFit) : r.Fits pool.history.texel :=
  hr.texture? (h.history 0 (by decide))

/-- A frame is refused for its size or because it cannot be converted, and before anything is
done. -/
theorem writeFrame_refuses (h : pool.Alive r) (hwidth : pool.history.texel.width ≤ 16384)
    (hheight : pool.history.texel.height ≤ 16384) (frame : Frame) :
    (pool.writeFrame frame).Ends r (fun _ _ => True)
      (fun e r' => r' = r ∧ (e = .pool (.frameSize frame.size pool.history.texel) ∨
        ∃ fault, frame.toBgra = .error fault ∧ e = .frame fault)) := by
  have hcurrent : r.texture? pool.history.current.texture = _ :=
    h.history pool.history.cursor pool.history.cursor.isLt
  unfold writeFrame
  simp only [ends_bind, ends_ite, ends_throw, ends_ofExcept, ends_pure]
  refine ⟨fun _ => ⟨trivial, .inl trivial⟩, fun hwithin =>
    ⟨fun rows hrows => ?_, fun fault hfault => ⟨trivial, .inr ⟨fault, hfault, rfl⟩⟩⟩⟩
  obtain ⟨⟨_, hw⟩, _, hh⟩ := Size.within_iff.mp (by simpa using hwithin)
  have hcount := Size.bytes_lt (UInt32.le_trans hw hwidth) (UInt32.le_trans hh hheight)
  have hwrite {r' : Recorder} (hr' : r'.textures = r.textures) :
      (GpuDevice.writeTexture pool.history.current.texture frame.size rows).Ends r'
        (fun _ _ => True) (fun _ _ => False) := by
    have halive : r'.texture? pool.history.current.texture = _ :=
      (congrArg (List.lookup pool.history.current.texture) hr').trans hcurrent
    have hlength := Frame.length_toBgra hrows
    exact writeTexture_fits halive hw hh hlength (hlength ▸ hcount)
  constructor
  · intro _
    refine (clearTexture_alive hcurrent).mono ?_ (fun _ _ hfalse => hfalse.elim)
    intro _ r' hr'
    exact (hwrite hr').mono (fun _ _ _ => trivial) (fun _ _ hfalse => hfalse.elim)
  · intro _
    exact (hwrite rfl).mono (fun _ _ _ => trivial) (fun _ _ hfalse => hfalse.elim)

end TexturePool.Alive

end PassChain
