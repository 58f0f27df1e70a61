import PassChain.Proofs.Drawing
import PassChain.Recorder

/-! What each call does to a recorder, and when it refuses. A refused call changes nothing. -/
namespace PassChain

open Attempt

section

variable {α β : Type} [DecidableEq α] {xs : List (α × β)} {k j : α}

theorem lookup_concat {b : β} (h : xs.lookup k = none) :
    (xs ++ [(k, b)]).lookup j = if j = k then some b else xs.lookup j := by
  rw [List.lookup_append]
  by_cases hj : j = k
  · subst hj; simp [h]
  · have hne : (j == k) = false := beq_eq_false_iff_ne.mpr hj
    simp [List.lookup_cons, hne, hj]

theorem lookup_filter_ne :
    (xs.filter (·.1 != k)).lookup j = if j = k then none else xs.lookup j := by
  by_cases hk : j = k
  · subst hk
    rw [if_pos rfl, List.lookup_eq_none_iff]
    intro x hx
    have hne := (List.mem_filter.mp hx).2
    simpa using Ne.symm (bne_iff_ne.mp hne)
  · rw [if_neg hk]
    induction xs with
    | nil => rfl
    | cons x xs ih =>
      obtain ⟨i, b⟩ := x
      by_cases hi : i = k
      · have hne : (j == i) = false := beq_eq_false_iff_ne.mpr (by rw [hi]; exact hk)
        rw [List.filter_cons_of_neg (by simp [hi]), ih, List.lookup_cons, hne]
      · rw [List.filter_cons_of_pos (by simpa using hi), List.lookup_cons, List.lookup_cons, ih]

theorem lookup_map_replace {y : β} :
    (xs.map fun x => if x.1 = k then (k, y) else x).lookup j =
      if j = k then (xs.lookup j).map fun _ => y else xs.lookup j := by
  induction xs with
  | nil => simp
  | cons x xs ih =>
    obtain ⟨i, b⟩ := x
    by_cases hj : j = i
    · subst hj
      by_cases hk : j = k <;> simp [hk]
    · have hne : (j == i) = false := beq_eq_false_iff_ne.mpr hj
      by_cases hk : i = k
      · subst hk; simp [List.lookup_cons, hne, hj, ih]
      · simp [List.lookup_cons, hk, hne, ih]

end

theorem filterMap_cons_toList {α β : Type} {f : α → Option β} (x : α) (l : List α) :
    (x :: l).filterMap f = (f x).toList ++ l.filterMap f := by
  rw [List.filterMap_cons]
  cases f x <;> rfl

/-- A sequence succeeds when each of its steps does. -/
theorem bind_eq_ok {ε α β : Type} {x : Except ε α} {f : α → Except ε β} {b : β} :
    x >>= f = .ok b ↔ ∃ a, x = .ok a ∧ f a = .ok b := by
  cases x <;> simp [bind, Except.bind]

/-- What stays of a buffer when its contents change. -/
def Buffer.form (b : Buffer) : String × BufferKind × Nat := (b.label, b.kind, b.data.length)

namespace Recorder

variable {r r' : Recorder}

theorem checkFaults_cases (patterns : List String) (label : String)
    (fault : String → String → DeviceFault) :
    checkFaults patterns label fault = .ok () ∨
      ∃ pattern ∈ patterns, checkFaults patterns label fault = .error (fault label pattern) := by
  unfold checkFaults
  split
  · rename_i pattern hfind
    exact Or.inr ⟨pattern, List.mem_of_find?_eq_some hfind, rfl⟩
  · exact Or.inl rfl

/-- The recorder with one more texture. -/
def withTexture (r : Recorder) (desc : TextureDesc) : Recorder :=
  { r with
    nextId := r.nextId + 1
    textures := r.textures ++ [(⟨r.nextId⟩, desc)]
    stats := { r.stats with texturesCreated := r.stats.texturesCreated + 1 } }

/-- The recorder with one more buffer. -/
def withBuffer (r : Recorder) (label : String) (kind : BufferKind) (size : Nat) : Recorder :=
  { r with
    nextId := r.nextId + 1
    buffers := r.buffers ++ [(⟨r.nextId⟩, ⟨label, kind, List.replicate size 0⟩)]
    stats := { r.stats with buffersCreated := r.stats.buffersCreated + 1 } }

/-- The recorder with bytes at the front of a buffer. -/
def withBytes (r : Recorder) (id : BufferId) (buffer : Buffer) (bytes : List UInt8) : Recorder :=
  { r with
    buffers := r.buffers.map fun entry =>
      if entry.1 = id then (id, { buffer with data := bytes ++ buffer.data.drop bytes.length })
      else entry
    stats := { r.stats with bufferWrites := r.stats.bufferWrites + 1 } }

/-- The recorder with one more draw in the open frame. -/
def withDraw (r : Recorder) (draw : RecordedDraw) : Recorder :=
  { r with
    pending := r.pending ++ [draw]
    stats := { r.stats with draws := r.stats.draws + 1 } }

/-- Whether a texture of this size can be created. -/
def Fits (r : Recorder) (size : Size) : Prop :=
  (1 ≤ size.width ∧ size.width ≤ r.maxDimension) ∧ 1 ≤ size.height ∧ size.height ≤ r.maxDimension

theorem createTexture_ends (r : Recorder) (desc : TextureDesc) :
    (GpuDevice.createTexture desc).Ends r
      (fun id r' => id = ⟨r.nextId⟩ ∧ r' = r.withTexture desc ∧ r.Fits desc.size)
      (fun e r' => r' = r ∧
        ((∃ pattern ∈ r.allocationFaults, e = .device (.allocation desc.label pattern)) ∨
          e = .device (.textureSize desc.label desc.size) ∧ ¬ r.Fits desc.size)) := by
  simp only [GpuDevice.createTexture, ends_ofStep, createTexture]
  rcases checkFaults_cases r.allocationFaults desc.label .allocation with h | ⟨pattern, hp, h⟩
  · by_cases hfit : r.Fits desc.size
    · have hfit' := hfit
      simp only [Fits] at hfit'
      simp [h, bind, Except.bind, pure, Except.pure, hfit', withTexture, hfit]
    · have hfit' := hfit
      simp only [Fits] at hfit'
      simp [h, bind, Except.bind, hfit', hfit]
  · simp [h, bind, Except.bind, hp]

theorem createBuffer_ends (r : Recorder) (label : String) (kind : BufferKind) (size : Nat) :
    (GpuDevice.createBuffer label kind size).Ends r
      (fun id r' => id = ⟨r.nextId⟩ ∧ r' = r.withBuffer label kind size)
      (fun e r' => r' = r ∧
        ∃ pattern ∈ r.allocationFaults, e = .device (.allocation label pattern)) := by
  simp only [GpuDevice.createBuffer, ends_ofStep, createBuffer]
  rcases checkFaults_cases r.allocationFaults label .allocation with h | ⟨pattern, hp, h⟩
  · simp [h, bind, Except.bind, pure, Except.pure, withBuffer]
  · simp [h, bind, Except.bind, hp]

theorem writeBuffer_ends (r : Recorder) (id : BufferId) (bytes : List UInt8) :
    (GpuDevice.writeBuffer id bytes).Ends r
      (fun _ r' => ∃ b, r.buffer? id = some b ∧ bytes.length ≤ b.data.length ∧
        r' = r.withBytes id b bytes)
      (fun e r' => r' = r ∧ ∀ b, r.buffer? id = some b → bytes.length ≤ b.data.length →
        ∃ pattern ∈ r.uploadFaults, e = .device (.upload b.label pattern)) := by
  simp only [GpuDevice.writeBuffer, ends_ofStep, writeBuffer]
  cases hb : r.buffer? id with
  | none => simp
  | some b =>
    rcases checkFaults_cases r.uploadFaults b.label .upload with h | ⟨pattern, hp, h⟩
    · by_cases hlt : b.data.length < bytes.length
      · have hle : ¬ bytes.length ≤ b.data.length := by omega
        simp [h, bind, Except.bind, hlt, hle]
      · have hle : bytes.length ≤ b.data.length := by omega
        simp [h, bind, Except.bind, pure, Except.pure, hlt, hle, withBytes]
    · simp [h, bind, Except.bind, hp]

theorem writeTexture_ends (r : Recorder) (id : TextureId) (size : Size) (data : List UInt8) :
    (GpuDevice.writeTexture id size data).Ends r
      (fun _ r' => r' = { r with
        stats := { r.stats with textureWrites := r.stats.textureWrites + 1 } })
      (fun _ r' => r' = r) := by
  simp only [GpuDevice.writeTexture, ends_ofStep, writeTexture]
  refine ⟨?_, fun _ _ => trivial⟩
  intro _ r' h
  split at h
  · simp at h
  · split at h
    · simp at h
    · split at h
      · simp at h
      · split at h
        · simp at h
        · simpa [eq_comm] using h

theorem clearTexture_ends (r : Recorder) (id : TextureId) :
    (GpuDevice.clearTexture id).Ends r
      (fun _ r' => r' = { r with stats := { r.stats with clears := r.stats.clears + 1 } })
      (fun _ r' => r' = r) := by
  simp only [GpuDevice.clearTexture, ends_ofStep, clearTexture]
  split <;> simp

theorem createProgram_ends (r : Recorder) (label text : String) (program : Program) :
    (GpuDevice.createProgram label text program).Ends r
      (fun id r' => id = ⟨r.nextId⟩ ∧ r' = (r.createProgram label).2) (fun _ _ => False) := by
  simp [GpuDevice.createProgram, ends_ofStep, createProgram]

/-- Of `r`, no more than the counts of writes to textures and of clears differ in `r'`. -/
def Written (r r' : Recorder) : Prop :=
  ∃ textureWrites clears, r' = { r with stats := { r.stats with textureWrites, clears } }

theorem Written.refl (r : Recorder) : r.Written r := ⟨_, _, rfl⟩

/-- Whether a draw names live resources of the right kinds only. -/
structure Drawable (r : Recorder) (call : DrawCall) : Prop where
  inFrame : r.inFrame = true
  program : (r.programLabel? call.program).isSome
  destination : ∀ id, call.destination = .texture id → (r.texture? id).any (·.target)
  textures : ∀ b ∈ call.textures, (r.texture? b.texture).isSome
  uniforms : ∃ b, r.buffer? call.uniforms = some b ∧ b.kind = .uniform
  vertices : ∃ b, r.buffer? call.vertices = some b ∧ b.kind = .vertex

/-- What a recorder keeps of a draw. -/
def record (call : DrawCall) (programLabel : String) (uniforms vertices : List UInt8) :
    RecordedDraw where
  pass := call.pass
  program := call.program
  programLabel := programLabel
  destination := call.destination
  viewport := call.viewport
  clear := call.clear
  textures := call.textures
  uniforms := uniforms
  vertices := vertices

theorem checkDestination_eq (r : Recorder) (d : Destination) :
    r.checkDestination d = .ok () ↔ ∀ id, d = .texture id → (r.texture? id).any (·.target) := by
  cases d with
  | backbuffer => simp [checkDestination]
  | texture id => simp [checkDestination]

theorem checkBindings_eq (r : Recorder) (bindings : List TextureBinding) :
    r.checkBindings bindings = .ok () ↔ ∀ b ∈ bindings, (r.texture? b.texture).isSome := by
  induction bindings with
  | nil => simp [checkBindings]
  | cons b rest ih => by_cases h : (r.texture? b.texture).isSome <;> simp [checkBindings, h, ih]

theorem bufferData_eq (r : Recorder) (id : BufferId) (kind : BufferKind) (data : List UInt8) :
    r.bufferData id kind = .ok data ↔
      ∃ b, r.buffer? id = some b ∧ b.kind = kind ∧ b.data = data := by
  unfold bufferData
  cases r.buffer? id with
  | none => simp
  | some b => by_cases h : b.kind = kind <;> simp [h]

theorem draw_of_drawable {call : DrawCall} (h : r.Drawable call) :
    ∃ label ub vb, r.programLabel? call.program = some label ∧
      r.buffer? call.uniforms = some ub ∧ r.buffer? call.vertices = some vb ∧
      r.draw call = .ok ((), r.withDraw (record call label ub.data vb.data)) := by
  obtain ⟨label, hlabel⟩ := Option.isSome_iff_exists.mp h.program
  obtain ⟨ub, hub, huk⟩ := h.uniforms
  obtain ⟨vb, hvb, hvk⟩ := h.vertices
  have hdest := (r.checkDestination_eq _).mpr h.destination
  have hbind := (r.checkBindings_eq _).mpr h.textures
  have hu := (r.bufferData_eq _ _ ub.data).mpr ⟨ub, hub, huk, rfl⟩
  have hv := (r.bufferData_eq _ _ vb.data).mpr ⟨vb, hvb, hvk, rfl⟩
  refine ⟨label, ub, vb, hlabel, hub, hvb, ?_⟩
  simp [draw, h.inFrame, hlabel, hdest, hbind, hu, hv, bind, Except.bind, pure, Except.pure,
    withDraw, record]

theorem drawable_of_draw {call : DrawCall} {u : Unit} (h : r.draw call = .ok (u, r')) :
    r.Drawable call := by
  unfold draw at h
  cases hframe : r.inFrame with
  | false => simp [hframe, bind, Except.bind] at h
  | true =>
    simp only [hframe, Bool.not_true, Bool.false_eq_true, if_false] at h
    split at h
    · simp at h
    · rename_i label hlabel
      obtain ⟨_, hdest, h⟩ := bind_eq_ok.mp h
      obtain ⟨_, hbind, h⟩ := bind_eq_ok.mp h
      obtain ⟨uniforms, hu, h⟩ := bind_eq_ok.mp h
      obtain ⟨vertices, hv, _⟩ := bind_eq_ok.mp h
      obtain ⟨ub, hub, huk, _⟩ := (r.bufferData_eq _ _ _).mp hu
      obtain ⟨vb, hvb, hvk, _⟩ := (r.bufferData_eq _ _ _).mp hv
      exact ⟨hframe, by simp [hlabel], (r.checkDestination_eq _).mp hdest,
        (r.checkBindings_eq _).mp hbind, ⟨ub, hub, huk⟩, ⟨vb, hvb, hvk⟩⟩

theorem draw_ends (r : Recorder) (call : DrawCall) :
    (GpuDevice.draw call).Ends r
      (fun _ r' => ∃ label ub vb, r.programLabel? call.program = some label ∧
        r.buffer? call.uniforms = some ub ∧ r.buffer? call.vertices = some vb ∧
        r' = r.withDraw (record call label ub.data vb.data))
      (fun _ r' => r' = r ∧ ¬ r.Drawable call) := by
  simp only [GpuDevice.draw, ends_ofStep]
  constructor
  · intro _ r' h
    obtain ⟨label, ub, vb, hlabel, hub, hvb, hdraw⟩ := draw_of_drawable (drawable_of_draw h)
    rw [hdraw] at h
    simp only [Except.ok.injEq, Prod.mk.injEq] at h
    exact ⟨label, ub, vb, hlabel, hub, hvb, h.2.symm⟩
  · intro e h
    refine ⟨trivial, ?_⟩
    intro hd
    obtain ⟨_, _, _, _, _, _, hdraw⟩ := draw_of_drawable hd
    simp [hdraw] at h

/-! Lookups after each call. -/

theorem texture?_releaseTexture (id j : TextureId) :
    (r.releaseTexture id).texture? j = if j = id then none else r.texture? j := by
  unfold releaseTexture
  split
  · exact lookup_filter_ne
  · rename_i h
    split
    · rename_i hj; simpa [hj] using h
    · rfl

theorem buffer?_withBytes (id j : BufferId) (buffer : Buffer) (bytes : List UInt8) :
    (r.withBytes id buffer bytes).buffer? j =
      if j = id then (r.buffer? id).map fun _ =>
        { buffer with data := bytes ++ buffer.data.drop bytes.length }
      else r.buffer? j := by
  have h := @lookup_map_replace _ _ _ r.buffers id j
    { buffer with data := bytes ++ buffer.data.drop bytes.length }
  by_cases hj : j = id
  · subst hj; simpa [buffer?, withBytes] using h
  · simpa [buffer?, withBytes, hj] using h

/-- All ids given out so far lie below the next one. -/
structure Issued (r : Recorder) : Prop where
  textures : ∀ e ∈ r.textures, e.1.index < r.nextId
  buffers : ∀ e ∈ r.buffers, e.1.index < r.nextId
  programs : ∀ e ∈ r.programs, e.1.index < r.nextId

theorem Issued.texture_index_lt (h : r.Issued) {id : TextureId} {desc : TextureDesc}
    (hid : r.texture? id = some desc) : id.index < r.nextId := by
  obtain ⟨_, _, hr, _⟩ := List.lookup_eq_some_iff.mp hid
  exact h.textures (id, desc) (by simp [hr])

theorem Issued.texture?_next (h : r.Issued) : r.texture? ⟨r.nextId⟩ = none := by
  cases ht : r.texture? ⟨r.nextId⟩ with
  | none => rfl
  | some desc => exact absurd (h.texture_index_lt ht) (by simp)

theorem Issued.buffer?_next (h : r.Issued) : r.buffer? ⟨r.nextId⟩ = none := by
  cases hb : r.buffer? ⟨r.nextId⟩ with
  | none => rfl
  | some b =>
    obtain ⟨_, _, hr, _⟩ := List.lookup_eq_some_iff.mp hb
    exact absurd (h.buffers (⟨r.nextId⟩, b) (by simp [hr])) (by simp)

theorem Issued.programLabel?_next (h : r.Issued) : r.programLabel? ⟨r.nextId⟩ = none := by
  cases hp : r.programLabel? ⟨r.nextId⟩ with
  | none => rfl
  | some label =>
    obtain ⟨_, _, hr, _⟩ := List.lookup_eq_some_iff.mp hp
    exact absurd (h.programs (⟨r.nextId⟩, label) (by simp [hr])) (by simp)

theorem Issued.texture?_withTexture (h : r.Issued) (desc : TextureDesc) (j : TextureId) :
    (r.withTexture desc).texture? j = if j = ⟨r.nextId⟩ then some desc else r.texture? j := by
  exact lookup_concat h.texture?_next

theorem Issued.buffer?_withBuffer (h : r.Issued) (label : String) (kind : BufferKind) (size : Nat)
    (j : BufferId) : (r.withBuffer label kind size).buffer? j =
      if j = ⟨r.nextId⟩ then some ⟨label, kind, List.replicate size 0⟩ else r.buffer? j := by
  exact lookup_concat h.buffer?_next

theorem Issued.programLabel?_createProgram (h : r.Issued) (label : String) (j : ProgramId) :
    (r.createProgram label).2.programLabel? j =
      if j = ⟨r.nextId⟩ then some label else r.programLabel? j := by
  exact lookup_concat h.programLabel?_next

theorem Issued.withTexture (h : r.Issued) (desc : TextureDesc) : (r.withTexture desc).Issued where
  textures e he := by
    rcases List.mem_append.mp he with he | he
    · exact Nat.lt_succ_of_lt (h.textures e he)
    · simp only [List.mem_singleton] at he; subst he; exact Nat.lt_succ_self _
  buffers e he := Nat.lt_succ_of_lt (h.buffers e he)
  programs e he := Nat.lt_succ_of_lt (h.programs e he)

theorem Issued.releaseTexture (h : r.Issued) (id : TextureId) : (r.releaseTexture id).Issued := by
  unfold Recorder.releaseTexture
  split
  · exact ⟨fun e he => h.textures e (List.mem_filter.mp he).1, h.buffers, h.programs⟩
  · exact h

theorem Issued.abortFrame (h : r.Issued) : r.abortFrame.Issued := by
  unfold Recorder.abortFrame
  split <;> exact ⟨h.textures, h.buffers, h.programs⟩

theorem Issued.withBuffer (h : r.Issued) (label : String) (kind : BufferKind) (size : Nat) :
    (r.withBuffer label kind size).Issued where
  textures e he := Nat.lt_succ_of_lt (h.textures e he)
  buffers e he := by
    rcases List.mem_append.mp he with he | he
    · exact Nat.lt_succ_of_lt (h.buffers e he)
    · simp only [List.mem_singleton] at he; subst he; exact Nat.lt_succ_self _
  programs e he := Nat.lt_succ_of_lt (h.programs e he)

theorem Issued.withBytes (h : r.Issued) (id : BufferId) (buffer : Buffer) (bytes : List UInt8) :
    (r.withBytes id buffer bytes).Issued where
  textures := h.textures
  buffers e he := by
    obtain ⟨x, hx, rfl⟩ := List.mem_map.mp he
    split
    · rename_i hid
      rw [← hid]
      exact h.buffers x hx
    · exact h.buffers x hx
  programs := h.programs

theorem Issued.createProgram (h : r.Issued) (label : String) :
    (r.createProgram label).2.Issued where
  textures e he := Nat.lt_succ_of_lt (h.textures e he)
  buffers e he := Nat.lt_succ_of_lt (h.buffers e he)
  programs e he := by
    rcases List.mem_append.mp he with he | he
    · exact Nat.lt_succ_of_lt (h.programs e he)
    · simp only [List.mem_singleton] at he; subst he; exact Nat.lt_succ_self _

/-! What stays the same while a chain is built and while it draws. -/

/-- The account of frames, the faults and the limit are the same. -/
structure SameFrames (r r' : Recorder) : Prop where
  inFrame : r'.inFrame = r.inFrame
  frames : r'.frames = r.frames
  generation : r'.generation = r.generation
  allocationFaults : r'.allocationFaults = r.allocationFaults
  uploadFaults : r'.uploadFaults = r.uploadFaults
  maxDimension : r'.maxDimension = r.maxDimension
  framesSubmitted : r'.stats.framesSubmitted = r.stats.framesSubmitted
  framesAborted : r'.stats.framesAborted = r.stats.framesAborted

theorem SameFrames.refl (r : Recorder) : SameFrames r r := ⟨rfl, rfl, rfl, rfl, rfl, rfl, rfl, rfl⟩

theorem SameFrames.trans {r'' : Recorder} (h : SameFrames r r') (h' : SameFrames r' r'') :
    SameFrames r r'' where
  inFrame := h'.inFrame.trans h.inFrame
  frames := h'.frames.trans h.frames
  generation := h'.generation.trans h.generation
  allocationFaults := h'.allocationFaults.trans h.allocationFaults
  uploadFaults := h'.uploadFaults.trans h.uploadFaults
  maxDimension := h'.maxDimension.trans h.maxDimension
  framesSubmitted := h'.framesSubmitted.trans h.framesSubmitted
  framesAborted := h'.framesAborted.trans h.framesAborted

theorem releaseTexture_sameFrames (r : Recorder) (id : TextureId) :
    SameFrames r (r.releaseTexture id) := by
  unfold releaseTexture
  split <;> exact ⟨rfl, rfl, rfl, rfl, rfl, rfl, rfl, rfl⟩

/-- Drawing passes leaves the programs, and the buffers but for their contents. -/
structure Steady (r r' : Recorder) : Prop extends SameFrames r r' where
  programs : r'.programs = r.programs
  forms : ∀ id, (r'.buffer? id).map Buffer.form = (r.buffer? id).map Buffer.form

theorem Steady.refl (r : Recorder) : Steady r r := ⟨.refl r, rfl, fun _ => rfl⟩

theorem Steady.trans {r'' : Recorder} (h : Steady r r') (h' : Steady r' r'') : Steady r r'' :=
  ⟨h.toSameFrames.trans h'.toSameFrames, h'.programs.trans h.programs,
    fun id => (h'.forms id).trans (h.forms id)⟩

theorem withTexture_steady (r : Recorder) (desc : TextureDesc) : Steady r (r.withTexture desc) :=
  ⟨⟨rfl, rfl, rfl, rfl, rfl, rfl, rfl, rfl⟩, rfl, fun _ => rfl⟩

theorem releaseTexture_steady (r : Recorder) (id : TextureId) : Steady r (r.releaseTexture id) := by
  refine ⟨releaseTexture_sameFrames r id, ?_, fun _ => ?_⟩ <;>
    unfold releaseTexture <;> split <;> rfl

theorem withBytes_steady {id : BufferId} {b : Buffer} (hb : r.buffer? id = some b)
    {bytes : List UInt8} (hle : bytes.length ≤ b.data.length) :
    Steady r (r.withBytes id b bytes) := by
  refine ⟨⟨rfl, rfl, rfl, rfl, rfl, rfl, rfl, rfl⟩, rfl, ?_⟩
  intro j
  rw [buffer?_withBytes]
  split
  · rename_i hj
    subst hj
    simp [hb, Buffer.form, hle]
  · rfl

theorem withDraw_steady (r : Recorder) (draw : RecordedDraw) : Steady r (r.withDraw draw) :=
  ⟨⟨rfl, rfl, rfl, rfl, rfl, rfl, rfl, rfl⟩, rfl, fun _ => rfl⟩

/-- Whatever the passes draw, the recorder stays steady. -/
theorem steady_kept (r : Recorder) (uploads : BufferId → Prop) (draws : DrawCall → Prop) :
    KeptByPasses uploads draws (Steady r) where
  create desc d hd := (createTexture_ends d desc).mono
    (fun _ _ h => by rw [h.2.1]; exact hd.trans (withTexture_steady d desc))
    (fun _ _ h => by rw [h.1]; exact hd)
  release id d hd := hd.trans (releaseTexture_steady d id)
  upload id bytes d _ hd := by
    refine (writeBuffer_ends d id bytes).mono ?_ (fun _ _ h => by rw [h.1]; exact hd)
    rintro _ _ ⟨_, hb, hle, h⟩
    rw [h]
    exact hd.trans (withBytes_steady hb hle)
  draw call d _ hd := by
    refine (draw_ends d call).mono ?_ (fun _ _ h => by rw [h.1]; exact hd)
    rintro _ _ ⟨_, _, _, _, _, _, h⟩
    rw [h]
    exact hd.trans (withDraw_steady d _)

theorem Steady.programLabel? (h : Steady r r') (id : ProgramId) :
    r'.programLabel? id = r.programLabel? id := by
  unfold Recorder.programLabel?
  rw [h.programs]

theorem Steady.buffer? (h : Steady r r') {id : BufferId} {b : Buffer} (hb : r.buffer? id = some b) :
    ∃ b', r'.buffer? id = some b' ∧ b'.form = b.form := by
  have hform := h.forms id
  rw [hb] at hform
  exact Option.map_eq_some_iff.mp hform

/-! The bracket around the draws of a frame. -/

/-- The recorder with a frame open. -/
def opened (r : Recorder) : Recorder := { r with inFrame := true, pending := [] }

theorem beginFrame_ends (r : Recorder) :
    GpuDevice.beginFrame.Ends r (fun _ r' => r.inFrame = false ∧ r' = r.opened)
      (fun e r' => r' = r ∧ r.inFrame = true ∧ e = .device .frameOpen) := by
  simp only [GpuDevice.beginFrame, ends_ofStep, beginFrame]
  cases r.inFrame <;> simp [opened]

/-- The recorder after its open frame has been shown. -/
def shown (r : Recorder) : Recorder :=
  { r with
    inFrame := false
    pending := []
    frames := r.frames ++ [r.pending]
    generation :=
      if r.pending.any (·.destination == .backbuffer) then r.generation + 1 else r.generation
    stats := { r.stats with framesSubmitted := r.stats.framesSubmitted + 1 } }

theorem endFrame_ends (r : Recorder) :
    GpuDevice.endFrame.Ends r (fun _ r' => r.inFrame = true ∧ r' = r.shown)
      (fun _ r' => r' = r ∧ r.inFrame = false) := by
  simp only [GpuDevice.endFrame, ends_ofStep, endFrame]
  cases r.inFrame <;> simp [shown]

theorem abortFrame_of_inFrame (h : r.inFrame = true) : r.abortFrame =
    { r with
      inFrame := false
      pending := []
      stats := { r.stats with framesAborted := r.stats.framesAborted + 1 } } := by
  simp [abortFrame, h]

end Recorder

end PassChain
