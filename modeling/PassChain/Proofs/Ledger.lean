import PassChain.Proofs.RecorderCalls

/-! What has come to a recorder since some earlier state, and what releasing it brings back. -/
namespace PassChain

open Attempt

/-- `entries` are those of `base` and further ones, which stand under exactly the keys of `ids`. -/
structure Gained {κ β : Type} (base entries : List (κ × β)) (ids : List κ) : Prop where
  entries : ∃ new, entries = base ++ new ∧ (new.map (·.1)).Perm ids
  nodup : ids.Nodup
  apart : ∀ e ∈ base, e.1 ∉ ids

namespace Gained

variable {κ β : Type} {base entries : List (κ × β)} {ids ids' : List κ} {k : κ} {b : β}

theorem refl (base : List (κ × β)) : Gained base base [] := ⟨⟨[], by simp⟩, .nil, by simp⟩

theorem perm (h : Gained base entries ids) (hids : ids.Perm ids') : Gained base entries ids' where
  entries := by
    obtain ⟨new, hnew, hperm⟩ := h.entries
    exact ⟨new, hnew, hperm.trans hids⟩
  nodup := hids.nodup h.nodup
  apart e he hmem := h.apart e he (hids.mem_iff.mpr hmem)

theorem mem (h : Gained base entries ids) (hk : k ∈ ids) : ∃ b, (k, b) ∈ entries := by
  obtain ⟨new, rfl, hperm⟩ := h.entries
  obtain ⟨e, he, rfl⟩ := List.mem_map.mp (hperm.mem_iff.mpr hk)
  exact ⟨e.2, List.mem_append_right _ he⟩

theorem concat (h : Gained base entries ids) (hk : ∀ e ∈ entries, e.1 ≠ k) :
    Gained base (entries ++ [(k, b)]) (ids ++ [k]) := by
  have hnew : k ∉ ids := by
    intro hmem
    obtain ⟨b, hb⟩ := h.mem hmem
    exact hk _ hb rfl
  obtain ⟨new, rfl, hperm⟩ := h.entries
  refine ⟨⟨new ++ [(k, b)], by simp, ?_⟩, ?_, ?_⟩
  · rw [List.map_append]
    exact hperm.append_right [k]
  · exact List.nodup_append.mpr ⟨h.nodup, List.nodup_singleton k, fun x hx y hy heq =>
      hnew (List.mem_singleton.mp hy ▸ heq ▸ hx)⟩
  · intro e he hmem
    rcases List.mem_append.mp hmem with hmem | hmem
    · exact h.apart e he hmem
    · exact hk e (List.mem_append_left _ he) (List.mem_singleton.mp hmem)

theorem of_nil (h : Gained base entries []) : entries = base := by
  obtain ⟨new, rfl, hperm⟩ := h.entries
  rw [List.map_eq_nil_iff.mp hperm.eq_nil, List.append_nil]

variable [DecidableEq κ]

/-- What is taken out again was not there before. -/
theorem erase (h : Gained base entries ids) (hk : k ∈ ids) :
    Gained base (entries.filter (·.1 != k)) (ids.erase k) := by
  obtain ⟨new, rfl, hperm⟩ := h.entries
  have hbase : base.filter (·.1 != k) = base :=
    List.filter_eq_self.mpr fun e he => bne_iff_ne.mpr fun heq => h.apart e he (heq ▸ hk)
  rw [h.nodup.erase_eq_filter]
  refine ⟨⟨new.filter (·.1 != k), by rw [List.filter_append, hbase], ?_⟩, h.nodup.filter _, ?_⟩
  · rw [Recorder.keys_filter]
    exact hperm.filter (· != k)
  · exact fun e he hmem => h.apart e he (List.mem_filter.mp hmem).1

theorem replaced (h : Gained base entries ids) (hk : k ∈ ids) :
    Gained base (entries.map fun e => if e.1 = k then (k, b) else e) ids := by
  obtain ⟨new, rfl, hperm⟩ := h.entries
  refine ⟨⟨new.map fun e => if e.1 = k then (k, b) else e, ?_, ?_⟩, h.nodup, h.apart⟩
  · have hbase : base.map (fun e => if e.1 = k then (k, b) else e) = base := by
      refine (List.map_congr_left fun e he => ?_).trans (List.map_id _)
      have hne : e.1 ≠ k := fun heq => h.apart e he (by rw [heq]; exact hk)
      exact if_neg hne
    rw [List.map_append, hbase]
  · have hkeys : (new.map fun e => if e.1 = k then (k, b) else e).map (·.1) = new.map (·.1) := by
      rw [List.map_map]
      refine List.map_congr_left fun e _ => ?_
      by_cases he : e.1 = k <;> simp [he]
    rw [hkeys]
    exact hperm

end Gained

namespace Recorder

variable {base r : Recorder} {textures textures' : List TextureId}
  {buffers buffers' : List BufferId}
  {programs programs' : List ProgramId}

/-- `r` holds what `base` held and, besides, exactly these textures, buffers and programs. -/
structure Holds (base r : Recorder) (textures : List TextureId) (buffers : List BufferId)
    (programs : List ProgramId) : Prop where
  issued : r.Issued
  textures : Gained base.textures r.textures textures
  buffers : Gained base.buffers r.buffers buffers
  programs : Gained base.programs r.programs programs

namespace Holds

theorem refl (h : base.Issued) : base.Holds base [] [] [] := ⟨h, .refl _, .refl _, .refl _⟩

theorem perm (h : base.Holds r textures buffers programs) (ht : textures.Perm textures')
    (hb : buffers.Perm buffers') (hp : programs.Perm programs') :
    base.Holds r textures' buffers' programs' :=
  ⟨h.issued, h.textures.perm ht, h.buffers.perm hb, h.programs.perm hp⟩

/-- No more than the resources of a recorder matters here. -/
theorem of_same (h : base.Holds r textures buffers programs) {r' : Recorder}
    (hid : r'.nextId = r.nextId) (ht : r'.textures = r.textures) (hb : r'.buffers = r.buffers)
    (hp : r'.programs = r.programs) : base.Holds r' textures buffers programs := by
  obtain ⟨hissued, htextures, hbuffers, hprograms⟩ := h
  refine ⟨⟨?_, ?_, ?_⟩, ht ▸ htextures, hb ▸ hbuffers, hp ▸ hprograms⟩
  · rw [ht, hid]; exact hissued.textures
  · rw [hb, hid]; exact hissued.buffers
  · rw [hp, hid]; exact hissued.programs

theorem withTexture (h : base.Holds r textures buffers programs) (desc : TextureDesc) :
    base.Holds (r.withTexture desc) (textures ++ [⟨r.nextId⟩]) buffers programs where
  issued := h.issued.withTexture desc
  textures := h.textures.concat fun e he heq => by
    have hlt := h.issued.textures e he
    simp [heq] at hlt
  buffers := h.buffers
  programs := h.programs

theorem withBuffer (h : base.Holds r textures buffers programs) (label : String)
    (kind : BufferKind) (size : Nat) :
    base.Holds (r.withBuffer label kind size) textures (buffers ++ [⟨r.nextId⟩]) programs where
  issued := h.issued.withBuffer label kind size
  textures := h.textures
  buffers := h.buffers.concat fun e he heq => by
    have hlt := h.issued.buffers e he
    simp [heq] at hlt
  programs := h.programs

theorem createProgram (h : base.Holds r textures buffers programs) (label : String) :
    base.Holds (r.createProgram label).2 textures buffers (programs ++ [⟨r.nextId⟩]) where
  issued := h.issued.createProgram label
  textures := h.textures
  buffers := h.buffers
  programs := h.programs.concat fun e he heq => by
    have hlt := h.issued.programs e he
    simp [heq] at hlt

theorem withBytes (h : base.Holds r textures buffers programs) {id : BufferId} (hid : id ∈ buffers)
    (buffer : Buffer) (bytes : List UInt8) :
    base.Holds (r.withBytes id buffer bytes) textures buffers programs where
  issued := h.issued.withBytes id buffer bytes
  textures := h.textures
  buffers := h.buffers.replaced hid
  programs := h.programs

end Holds

/-- Releasing a texture takes it out, if it is there. -/
theorem textures_releaseTexture (r : Recorder) (id : TextureId) :
    (r.releaseTexture id).textures = r.textures.filter (·.1 != id) := by
  unfold releaseTexture
  split
  · rfl
  · rename_i h
    have hnone : r.textures.lookup id = none := Option.not_isSome_iff_eq_none.mp h
    refine (List.filter_eq_self.mpr fun e he => ?_).symm
    rw [bne_comm]
    exact List.lookup_eq_none_iff.mp hnone e he

namespace Holds

theorem releaseTexture (h : base.Holds r textures buffers programs) {id : TextureId}
    (hid : id ∈ textures) :
    base.Holds (r.releaseTexture id) (textures.erase id) buffers programs where
  issued := h.issued.releaseTexture id
  textures := by
    rw [textures_releaseTexture]
    exact h.textures.erase hid
  buffers := by
    unfold Recorder.releaseTexture
    split <;> exact h.buffers
  programs := (releaseTexture_steady r id).programs ▸ h.programs

theorem releaseBuffer (h : base.Holds r textures buffers programs) {id : BufferId}
    (hid : id ∈ buffers) :
    base.Holds (r.releaseBuffer id) textures (buffers.erase id) programs where
  issued := ⟨h.issued.textures, fun e he => h.issued.buffers e (List.mem_filter.mp he).1,
    h.issued.programs⟩
  textures := h.textures
  buffers := h.buffers.erase hid
  programs := h.programs

theorem releaseProgram (h : base.Holds r textures buffers programs) {id : ProgramId}
    (hid : id ∈ programs) :
    base.Holds (r.releaseProgram id) textures buffers (programs.erase id) where
  issued := ⟨h.issued.textures, h.issued.buffers,
    fun e he => h.issued.programs e (List.mem_filter.mp he).1⟩
  textures := h.textures
  buffers := h.buffers
  programs := h.programs.erase hid

theorem releaseTextures (h : base.Holds r textures buffers programs) :
    base.Holds (textures.foldl (fun d id => GpuDevice.releaseTexture id d) r) [] buffers
      programs := by
  induction textures generalizing r with
  | nil => exact h
  | cons id rest ih =>
    have hnext := h.releaseTexture (List.mem_cons_self (a := id))
    rw [List.erase_cons_head] at hnext
    exact ih hnext

theorem releaseBuffers (h : base.Holds r textures buffers programs) :
    base.Holds (buffers.foldl (fun d id => GpuDevice.releaseBuffer id d) r) textures []
      programs := by
  induction buffers generalizing r with
  | nil => exact h
  | cons id rest ih =>
    have hnext := h.releaseBuffer (List.mem_cons_self (a := id))
    rw [List.erase_cons_head] at hnext
    exact ih hnext

theorem releasePrograms (h : base.Holds r textures buffers programs) :
    base.Holds (programs.foldl (fun d id => GpuDevice.releaseProgram id d) r) textures buffers
      [] := by
  induction programs generalizing r with
  | nil => exact h
  | cons id rest ih =>
    have hnext := h.releaseProgram (List.mem_cons_self (a := id))
    rw [List.erase_cons_head] at hnext
    exact ih hnext

/-- Once all of it has been released, the resources are those that were there before. -/
theorem restored (h : base.Holds r [] [] []) :
    r.textures = base.textures ∧ r.buffers = base.buffers ∧ r.programs = base.programs :=
  ⟨h.textures.of_nil, h.buffers.of_nil, h.programs.of_nil⟩

end Holds

end Recorder

end PassChain
