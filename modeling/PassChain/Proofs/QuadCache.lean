import PassChain.Proofs.FramePictures

/-! The cache of quads does not show. -/
namespace PassChain

open Recorder

variable {device : Recorder} {files : FileSystem} {preset : Preset} {settings : ChainSettings}
  {c₀ : Chain Recorder}

/-- Whatever sizes come and go and whatever faults strike: a pass that remembers sizes has their
quad in its vertex buffer; each draw that is made of a frame, shown or not, is made with the quad of
its own sizes; and no other draws come to be recorded. -/
theorem draws_have_quads_of_their_sizes (hdevice : device.Reachable)
    (hbuild : Chain.build device files preset settings = .ok c₀)
    (calls : List (HostCall Recorder)) :
    let s := (Session.start c₀).run calls
    let c := s.chain
    let draws := c.drawing.device.pending
    let pictures := s.pictures (fun i => (c₀.pool.history.slotAt i).texture) settings.maxInput
      c.drawing.device draws
    (∀ p ∈ c.passes, ∀ key, p.geometry.key = some key → ∃ b,
      c.device.buffer? p.vertexBuffer = some b ∧ b.data =
        (Quad.build key.content key.allocated key.output settings.texelAlignment).toBytes) ∧
    (c.pending = true → ∀ i draw, draws[i]? = some draw →
      ∃ source, pictures.source? i = some source ∧ draw.vertices =
        (Quad.build source.content source.allocated draw.size settings.texelAlignment).toBytes) ∧
    c.render.2.device.frames =
      if c.pending = true ∧ c.render.1 = true then c.device.frames ++ [draws]
      else c.device.frames := by
  intro s c draws pictures
  obtain ⟨hfrom, hcontinues, _, hin⟩ := Session.run_built hdevice hbuild calls
  refine ⟨?_, ?_, Chain.frames_render⟩
  · intro p hp key hkey
    obtain ⟨i, hi⟩ := List.getElem?_of_mem hp
    obtain ⟨q, hq, hplan⟩ := hcontinues.plan hi
    obtain ⟨_, _, _, _, halign⟩ := hfrom.runs hq
    obtain ⟨b, hb, hdata⟩ := (hin.passes p hp).quad key hkey
    have hsame : p.geometry.align = q.geometry.align := congrArg (·.geometry.align) hplan
    rw [hsame, halign] at hdata
    exact ⟨b, hb, hdata⟩
  · intro hpending i draw hdraw
    obtain ⟨_, _, source, _, hsource, hmade⟩ :=
      Session.run_draws hdevice hbuild calls hpending i draw hdraw
    exact ⟨source, hsource, hmade.vertices⟩

theorem first_frame_has_quads_of_its_sizes :
    ∃ c₀, Chain.build ({} : Recorder) .empty .twoStock {} = .ok c₀ ∧
      let s := (Session.start c₀).run HostCall.firstFrame
      let c := s.chain
      let draws := c.drawing.device.pending
      let pictures := s.pictures (fun i => (c₀.pool.history.slotAt i).texture) ⟨1024, 1024⟩
        c.drawing.device draws
      (∀ i draw, draws[i]? = some draw → ∃ source, pictures.source? i = some source ∧
        draw.vertices = (Quad.build source.content source.allocated draw.size true).toBytes) ∧
      c.render.2.device.frames = c.device.frames ++ [draws] := by
  obtain ⟨c₀, hbuild, hpending, _, _, hyes⟩ := Session.first_frame_shown
  obtain ⟨_, hquads, hframes⟩ :=
    draws_have_quads_of_their_sizes (.fresh 8192) hbuild HostCall.firstFrame
  rw [if_pos ⟨hpending, hyes⟩] at hframes
  exact ⟨c₀, hbuild, hquads hpending, hframes⟩

end PassChain
