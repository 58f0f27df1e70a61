import Mathlib.Data.List.Nodup
import PassChain.Proofs.Recording

/-! A recorder as a machine: what it can be asked, and the states it can come to. -/
namespace PassChain

open Attempt

/-- What a recorder can be asked. -/
inductive RecorderCall where
  | createTexture (desc : TextureDesc)
  | releaseTexture (id : TextureId)
  | writeTexture (id : TextureId) (size : Size) (data : List UInt8)
  | clearTexture (id : TextureId)
  | createBuffer (label : String) (kind : BufferKind) (size : Nat)
  | writeBuffer (id : BufferId) (data : List UInt8)
  | releaseBuffer (id : BufferId)
  | createProgram (label text : String) (program : Program)
  | releaseProgram (id : ProgramId)
  | beginFrame
  | draw (call : DrawCall)
  | endFrame
  | abortFrame
  | bindResting (id : ProgramId)
  | failAllocations (pattern : String)
  | failUploads (pattern : String)
  | clearFaults

/-- What a recorder answers. -/
inductive RecorderReply where
  | done
  | texture (id : TextureId)
  | buffer (id : BufferId)
  | program (id : ProgramId)
deriving DecidableEq, Repr

namespace Recorder

variable {r r' : Recorder} {call : RecorderCall} {reply : RecorderReply}

/-- Carries out a call. -/
def exec : RecorderCall → Attempt Recorder RecorderReply
  | .createTexture desc => .texture <$> GpuDevice.createTexture desc
  | .releaseTexture id => do modify (GpuDevice.releaseTexture id); pure .done
  | .writeTexture id size data => do GpuDevice.writeTexture id size data; pure .done
  | .clearTexture id => do GpuDevice.clearTexture id; pure .done
  | .createBuffer label kind size => .buffer <$> GpuDevice.createBuffer label kind size
  | .writeBuffer id data => do GpuDevice.writeBuffer id data; pure .done
  | .releaseBuffer id => do modify (GpuDevice.releaseBuffer id); pure .done
  | .createProgram label text program =>
    .program <$> GpuDevice.createProgram label text program
  | .releaseProgram id => do modify (GpuDevice.releaseProgram id); pure .done
  | .beginFrame => do GpuDevice.beginFrame; pure .done
  | .draw call => do GpuDevice.draw call; pure .done
  | .endFrame => do GpuDevice.endFrame; pure .done
  | .abortFrame => do modify GpuDevice.abortFrame; pure .done
  | .bindResting id => do modify (GpuDevice.bindResting id); pure .done
  | .failAllocations pattern => do modify (·.failAllocations pattern); pure .done
  | .failUploads pattern => do modify (·.failUploads pattern); pure .done
  | .clearFaults => do modify clearFaults; pure .done

/-- The recorder after a call. -/
def after (r : Recorder) (call : RecorderCall) : Recorder := ((exec call).outcome r).2

/-- The states that a recorder can come to from a fresh one. -/
inductive Reachable : Recorder → Prop where
  | fresh (maxDimension : UInt32) : Reachable { maxDimension }
  | after {r : Recorder} (h : Reachable r) (call : RecorderCall) : Reachable (r.after call)

/-- The contents of a buffer. -/
def contents (r : Recorder) (id : BufferId) : List UInt8 := ((r.buffer? id).map (·.data)).getD []

/-- What is kept of a draw that comes now. -/
def told (r : Recorder) (call : DrawCall) : RecordedDraw :=
  record call ((r.programLabel? call.program).getD "") (r.contents call.uniforms)
    (r.contents call.vertices)

theorem draw_tells (r : Recorder) (call : DrawCall) :
    (GpuDevice.draw call).Ends r
      (fun _ r' => r.inFrame = true ∧ r' = r.withDraw (r.told call)) (fun _ r' => r' = r) := by
  simp only [GpuDevice.draw, ends_ofStep]
  refine ⟨?_, fun _ _ => trivial⟩
  intro _ r' h
  have hdrawable := drawable_of_draw h
  obtain ⟨label, ub, vb, hlabel, hub, hvb, hdraw⟩ := draw_of_drawable hdrawable
  rw [hdraw] at h
  simp only [Except.ok.injEq, Prod.mk.injEq] at h
  refine ⟨hdrawable.inFrame, h.2.symm.trans ?_⟩
  simp [told, contents, hlabel, hub, hvb]

/-- What a call does when it succeeds, and what it answers. -/
inductive Does (r : Recorder) : RecorderCall → RecorderReply → Recorder → Prop
  | createTexture (desc : TextureDesc) :
    r.Does (.createTexture desc) (.texture ⟨r.nextId⟩) (r.withTexture desc)
  | releaseTexture (id : TextureId) : r.Does (.releaseTexture id) .done (r.releaseTexture id)
  | writeTexture (id : TextureId) (size : Size) (data : List UInt8) :
    r.Does (.writeTexture id size data) .done
      { r with stats := { r.stats with textureWrites := r.stats.textureWrites + 1 } }
  | clearTexture (id : TextureId) :
    r.Does (.clearTexture id) .done
      { r with stats := { r.stats with clears := r.stats.clears + 1 } }
  | createBuffer (label : String) (kind : BufferKind) (size : Nat) :
    r.Does (.createBuffer label kind size) (.buffer ⟨r.nextId⟩) (r.withBuffer label kind size)
  | writeBuffer (id : BufferId) (buffer : Buffer) (data : List UInt8) :
    r.Does (.writeBuffer id data) .done (r.withBytes id buffer data)
  | releaseBuffer (id : BufferId) : r.Does (.releaseBuffer id) .done (r.releaseBuffer id)
  | createProgram (label text : String) (program : Program) :
    r.Does (.createProgram label text program) (.program ⟨r.nextId⟩) (r.createProgram label).2
  | releaseProgram (id : ProgramId) : r.Does (.releaseProgram id) .done (r.releaseProgram id)
  | beginFrame (h : r.inFrame = false) : r.Does .beginFrame .done r.opened
  | draw (call : DrawCall) (h : r.inFrame = true) :
    r.Does (.draw call) .done (r.withDraw (r.told call))
  | endFrame (h : r.inFrame = true) : r.Does .endFrame .done r.shown
  | abortFrame : r.Does .abortFrame .done r.abortFrame
  | bindResting (id : ProgramId) : r.Does (.bindResting id) .done (r.bindResting id)
  | failAllocations (pattern : String) :
    r.Does (.failAllocations pattern) .done (r.failAllocations pattern)
  | failUploads (pattern : String) : r.Does (.failUploads pattern) .done (r.failUploads pattern)
  | clearFaults : r.Does .clearFaults .done r.clearFaults

/-- A call that fails changes nothing. -/
theorem exec_does (r : Recorder) (call : RecorderCall) :
    (exec call).Ends r (r.Does call) (fun _ r' => r' = r) := by
  cases call with
  | createTexture desc =>
    simp only [exec, ends_map]
    refine (createTexture_ends r desc).mono ?_ (fun _ _ h => h.1)
    rintro _ _ ⟨rfl, rfl, _⟩
    exact .createTexture desc
  | createBuffer label kind size =>
    simp only [exec, ends_map]
    refine (createBuffer_ends r label kind size).mono ?_ (fun _ _ h => h.1)
    rintro _ _ ⟨rfl, rfl⟩
    exact .createBuffer label kind size
  | createProgram label text program =>
    simp only [exec, ends_map]
    refine (createProgram_ends r label text program).mono ?_ (fun _ _ h => h.elim)
    rintro _ _ ⟨rfl, rfl⟩
    exact .createProgram label text program
  | writeBuffer id data =>
    simp only [exec, ends_bind, ends_pure]
    refine (writeBuffer_ends r id data).mono ?_ (fun _ _ h => h.1)
    rintro _ _ ⟨b, _, _, rfl⟩
    exact .writeBuffer id b data
  | writeTexture id size data =>
    simp only [exec, ends_bind, ends_pure]
    exact (writeTexture_ends r id size data).mono_ok fun _ _ h => h ▸ .writeTexture id size data
  | clearTexture id =>
    simp only [exec, ends_bind, ends_pure]
    exact (clearTexture_ends r id).mono_ok fun _ _ h => h ▸ .clearTexture id
  | beginFrame =>
    simp only [exec, ends_bind, ends_pure]
    exact (beginFrame_ends r).mono (fun _ _ h => h.2 ▸ .beginFrame h.1) (fun _ _ h => h.1)
  | draw call =>
    simp only [exec, ends_bind, ends_pure]
    exact (draw_tells r call).mono_ok fun _ _ h => h.2 ▸ .draw call h.1
  | endFrame =>
    simp only [exec, ends_bind, ends_pure]
    exact (endFrame_ends r).mono (fun _ _ h => h.2 ▸ .endFrame h.1) (fun _ _ h => h.1)
  | releaseTexture id => exact .releaseTexture id
  | releaseBuffer id => exact .releaseBuffer id
  | releaseProgram id => exact .releaseProgram id
  | abortFrame => exact .abortFrame
  | bindResting id => exact .bindResting id
  | failAllocations pattern => exact .failAllocations pattern
  | failUploads pattern => exact .failUploads pattern
  | clearFaults => exact .clearFaults

/-- A call either does what it is for, or fails and changes nothing. -/
theorem after_cases (r : Recorder) (call : RecorderCall) :
    (∃ reply, ((exec call).outcome r).1 = .ok reply ∧ r.Does call reply (r.after call)) ∨
      ∃ e, ((exec call).outcome r).1 = .error e ∧ r.after call = r := by
  have hdoes := exec_does r call
  unfold Ends at hdoes
  unfold after outcome
  cases hc : exec call r with
  | ok reply r' =>
    rw [hc] at hdoes
    exact .inl ⟨reply, rfl, hdoes⟩
  | error e r' =>
    rw [hc] at hdoes
    exact .inr ⟨e, rfl, hdoes⟩

theorem Does.issued (hdoes : r.Does call reply r') (h : r.Issued) : r'.Issued := by
  cases hdoes with
  | createTexture desc => exact h.withTexture desc
  | createBuffer label kind size => exact h.withBuffer label kind size
  | createProgram label => exact h.createProgram label
  | writeBuffer id buffer data => exact h.withBytes id buffer data
  | releaseTexture id => exact h.releaseTexture id
  | releaseBuffer id =>
    exact ⟨h.textures, fun e he => h.buffers e (List.mem_filter.mp he).1, h.programs⟩
  | releaseProgram id =>
    exact ⟨h.textures, h.buffers, fun e he => h.programs e (List.mem_filter.mp he).1⟩
  | abortFrame => exact h.abortFrame
  | _ => exact ⟨h.textures, h.buffers, h.programs⟩

theorem issued_after (h : r.Issued) (call : RecorderCall) : (r.after call).Issued := by
  rcases r.after_cases call with ⟨reply, _, hdoes⟩ | ⟨e, _, hafter⟩
  · exact hdoes.issued h
  · rw [hafter]
    exact h

theorem issued_reachable (h : r.Reachable) : r.Issued := by
  induction h with
  | fresh => exact ⟨by simp, by simp, by simp⟩
  | after _ call ih => exact issued_after ih call

/-- Each id stands for one live resource, and of the textures that were created those that were not
released are alive. -/
structure Counted (r : Recorder) : Prop where
  textures : (r.textures.map (·.1)).Nodup
  buffers : (r.buffers.map (·.1)).Nodup
  programs : (r.programs.map (·.1)).Nodup
  balance : r.textures.length + r.stats.texturesReleased = r.stats.texturesCreated

theorem nodup_concat {κ β : Type} {entries : List (κ × β)} {k : κ} {b : β}
    (h : (entries.map (·.1)).Nodup) (hk : ∀ e ∈ entries, e.1 ≠ k) :
    ((entries ++ [(k, b)]).map (·.1)).Nodup := by
  rw [List.map_append, List.nodup_append]
  refine ⟨h, List.nodup_singleton k, ?_⟩
  intro x hx y hy heq
  obtain ⟨e, he, rfl⟩ := List.mem_map.mp hx
  exact hk e he (heq.trans (List.mem_singleton.mp hy))

theorem keys_filter {κ β : Type} [DecidableEq κ] (entries : List (κ × β)) (k : κ) :
    (entries.filter (·.1 != k)).map (·.1) = (entries.map (·.1)).filter (· != k) := by
  rw [List.filter_map]
  rfl

theorem Counted.releaseTexture (h : r.Counted) (id : TextureId) :
    (r.releaseTexture id).Counted := by
  unfold Recorder.releaseTexture
  split
  · rename_i hid
    have hkeys := keys_filter r.textures id
    refine ⟨by rw [hkeys]; exact h.textures.filter _, h.buffers, h.programs, ?_⟩
    obtain ⟨desc, hdesc⟩ := Option.isSome_iff_exists.mp hid
    obtain ⟨_, _, hr, _⟩ := List.lookup_eq_some_iff.mp hdesc
    have hmem : id ∈ r.textures.map (·.1) := by simp [hr]
    rw [← h.textures.erase_eq_filter] at hkeys
    have hlength := congrArg List.length hkeys
    rw [List.length_map, List.length_erase_of_mem hmem, List.length_map] at hlength
    have hpos := List.length_pos_of_mem hmem
    have hbalance := h.balance
    simp only [List.length_map] at hpos
    show (r.textures.filter (·.1 != id)).length + (r.stats.texturesReleased + 1) =
      r.stats.texturesCreated
    omega
  · exact h

theorem buffers_withBytes (id : BufferId) (buffer : Buffer) (bytes : List UInt8) :
    (r.withBytes id buffer bytes).buffers.map (·.1) = r.buffers.map (·.1) := by
  rw [withBytes, List.map_map]
  refine List.map_congr_left fun e _ => ?_
  by_cases he : e.1 = id <;> simp [he]

theorem Does.counted (hdoes : r.Does call reply r') (hissued : r.Issued) (h : r.Counted) :
    r'.Counted := by
  cases hdoes with
  | createTexture desc =>
    refine ⟨nodup_concat h.textures fun e he heq => ?_, h.buffers, h.programs, ?_⟩
    · have hlt := hissued.textures e he
      simp [heq] at hlt
    · have hbalance := h.balance
      simp only [withTexture, List.length_append, List.length_singleton]
      omega
  | createBuffer label kind size =>
    refine ⟨h.textures, nodup_concat h.buffers fun e he heq => ?_, h.programs, h.balance⟩
    have hlt := hissued.buffers e he
    simp [heq] at hlt
  | createProgram label =>
    refine ⟨h.textures, h.buffers, nodup_concat h.programs fun e he heq => ?_, h.balance⟩
    have hlt := hissued.programs e he
    simp [heq] at hlt
  | writeBuffer id buffer data =>
    refine ⟨h.textures, ?_, h.programs, h.balance⟩
    rw [buffers_withBytes]
    exact h.buffers
  | releaseTexture id => exact h.releaseTexture id
  | releaseBuffer id =>
    refine ⟨h.textures, ?_, h.programs, h.balance⟩
    exact keys_filter r.buffers id ▸ h.buffers.filter _
  | releaseProgram id =>
    refine ⟨h.textures, h.buffers, ?_, h.balance⟩
    exact keys_filter r.programs id ▸ h.programs.filter _
  | abortFrame =>
    unfold Recorder.abortFrame
    split
    · exact ⟨h.textures, h.buffers, h.programs, h.balance⟩
    · exact h
  | _ => exact ⟨h.textures, h.buffers, h.programs, h.balance⟩

theorem Counted.after (hissued : r.Issued) (h : r.Counted) (call : RecorderCall) :
    (r.after call).Counted := by
  rcases r.after_cases call with ⟨reply, _, hdoes⟩ | ⟨e, _, hafter⟩
  · exact hdoes.counted hissued h
  · rw [hafter]
    exact h

theorem counted_reachable (h : r.Reachable) : r.Counted := by
  induction h with
  | fresh => exact ⟨.nil, .nil, .nil, rfl⟩
  | after h call ih => exact ih.after (issued_reachable h) call

/-- No texture is alive that could not be created again but for its label. -/
def TexturesFit (r : Recorder) : Prop := ∀ e ∈ r.textures, r.Fits e.2.size

theorem TexturesFit.texture? (h : r.TexturesFit) {id : TextureId} {desc : TextureDesc}
    (hid : r.texture? id = some desc) : r.Fits desc.size := by
  obtain ⟨_, _, htextures, _⟩ := List.lookup_eq_some_iff.mp hid
  refine h (id, desc) ?_
  rw [htextures]
  exact List.mem_append_right _ List.mem_cons_self

theorem Does.texturesFit (hdoes : r.Does call reply r') (h : r.TexturesFit)
    (hfits : ∀ desc, call = .createTexture desc → r.Fits desc.size) : r'.TexturesFit := by
  cases hdoes with
  | createTexture desc =>
    intro e he
    rcases List.mem_append.mp he with hold | hnew
    · exact h e hold
    · rw [List.mem_singleton.mp hnew]
      exact hfits desc rfl
  | releaseTexture id =>
    unfold Recorder.releaseTexture
    split
    · exact fun e he => h e (List.mem_filter.mp he).1
    · exact h
  | abortFrame =>
    unfold Recorder.abortFrame
    split <;> exact h
  | _ => exact h

theorem TexturesFit.after (h : r.TexturesFit) (call : RecorderCall) :
    (r.after call).TexturesFit := by
  apply Ends.outcome
  have hdoes := exec_does r call
  cases call with
  | createTexture desc =>
    simp only [exec, ends_map] at hdoes ⊢
    refine (hdoes.and (createTexture_ends r desc)).mono ?_ (fun _ _ hsame => hsame.1 ▸ h)
    rintro id r' ⟨hdone, _, _, hfits⟩
    exact hdone.texturesFit h fun _ heq => RecorderCall.createTexture.inj heq ▸ hfits
  | _ =>
    refine hdoes.mono (fun _ _ hdone => hdone.texturesFit h ?_) (fun _ _ hsame => hsame ▸ h)
    rintro _ ⟨⟩

theorem texturesFit_reachable (h : r.Reachable) : r.TexturesFit := by
  induction h with
  | fresh => exact fun e he => by simp at he
  | after _ call ih => exact ih.after call

end Recorder

end PassChain
