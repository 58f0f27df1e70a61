import Mathlib.Algebra.Group.Fin.Basic
import PassChain.Proofs.InternalErrors
import PassChain.Proofs.PoolSession

/-! A request that fails leaves textures, pool and chain as they were. -/
namespace PassChain

open Attempt Recorder

/-- Of `r`, no more than the next id and the counts of calls differ in `r'`. -/
def Recorder.Recounted (r r' : Recorder) : Prop := ∃ nextId stats, r' = { r with nextId, stats }

namespace Recorder

variable {r r' : Recorder}

theorem Recounted.refl (r : Recorder) : r.Recounted r := ⟨_, _, rfl⟩

theorem Written.recounted (h : r.Written r') : r.Recounted r' := by
  obtain ⟨_, _, rfl⟩ := h
  exact ⟨_, _, rfl⟩

/-- A texture that is released right after it has been created leaves no trace but an id. -/
theorem Issued.releaseTexture_withTexture (h : r.Issued) (desc : TextureDesc) :
    r.Recounted ((r.withTexture desc).releaseTexture ⟨r.nextId⟩) := by
  have hnew : ((r.withTexture desc).texture? ⟨r.nextId⟩).isSome := by
    rw [h.texture?_withTexture, if_pos rfl]
    rfl
  have hothers : r.textures.filter (·.1 != ⟨r.nextId⟩) = r.textures := by
    refine List.filter_eq_self.mpr fun e he => bne_iff_ne.mpr fun heq => ?_
    have hlt : e.1.index < r.nextId := h.textures e he
    rw [heq] at hlt
    exact Nat.lt_irrefl _ hlt
  have hrest : (r.withTexture desc).textures.filter (·.1 != ⟨r.nextId⟩) = r.textures := by
    simp [Recorder.withTexture, hothers]
  rw [Recorder.releaseTexture, if_pos hnew, hrest]
  exact ⟨_, _, rfl⟩

end Recorder

namespace TexturePool

variable {r : Recorder}

/-- The old target is given up only once the new one is there. -/
theorem ensureTarget_refuses (pool : TexturePool) (pass : Nat) (logical : Size)
    (format : TexelFormat) (r : Recorder) :
    (pool.ensureTarget pass logical format).Ends r (fun _ _ => True) (fun _ r' => r' = r) := by
  refine ensureTarget_cases (fun _ => rfl) (fun _ _ _ _ => trivial) (fun _ _ => rfl)
    (fun _ _ _ _ => rfl) ?_ ?_
  · intro texel _ _ _ _
    exact (createTexture_ends r _).mono (fun _ _ _ => trivial) (fun _ _ hfail => hfail.1)
  · intro texel old _ _ _ _ _
    exact (createTexture_ends r _).mono (fun _ _ _ => trivial) (fun _ _ hfail => hfail.1)

/-- A lookup texture whose upload fails is released again. -/
theorem insertLookup_refuses (h : r.Issued) (pool : TexturePool) (description : LookupImage)
    (image : Image) :
    (pool.insertLookup description image).Ends r (fun _ _ => True)
      (fun _ r' => r.Recounted r') := by
  unfold insertLookup
  simp only [ends_bind, ends_get, ends_ite, ends_throw, ends_tryCatch, ends_modify, ends_pure]
  refine ⟨fun _ => .refl r, fun _ => ⟨fun _ => .refl r, fun _ => ?_⟩⟩
  refine (createTexture_ends r _).mono ?_ (fun _ _ hfail => hfail.1 ▸ .refl r)
  rintro _ _ ⟨rfl, rfl, _⟩
  refine (writeTexture_ends _ _ _ _).mono (fun _ _ _ => trivial) ?_
  rintro _ _ rfl
  exact h.releaseTexture_withTexture _

theorem loadLookup_refuses (h : r.Issued) (pool : TexturePool) (files : FileSystem)
    (description : LookupImage) :
    (pool.loadLookup files description).Ends r (fun _ _ => True)
      (fun _ r' => r.Recounted r') := by
  unfold loadLookup
  split
  · exact .refl r
  · exact insertLookup_refuses h pool description _

end TexturePool

namespace PoolSession

variable {s : PoolSession Recorder}

/-- A pool that has been created on a recorder, whatever has been asked of either since. -/
inductive Reachable : PoolSession Recorder → Prop where
  | created {r r' : Recorder} {targetCount : Nat} {maxInput : Size} {pow2 : Bool}
      {pool : TexturePool} (hr : r.Reachable)
      (h : TexturePool.create targetCount maxInput pow2 r = .ok pool r') : Reachable ⟨pool, r'⟩
  | after {s : PoolSession Recorder} (h : Reachable s) (call : PoolCall) : Reachable (s.after call)
  | deviceAfter {s : PoolSession Recorder} (h : Reachable s) (call : RecorderCall) :
      Reachable { s with device := s.device.after call }

theorem Reachable.device (h : s.Reachable) : s.device.Reachable := by
  induction h with
  | created hr hcreate => exact (TexturePool.create_kept reachable_kept _ _ _ _ hr).of_ok hcreate
  | after _ call ih =>
    have hkept := exec_kept reachable_kept call
    exact after_of_ends (P := fun t : PoolSession Recorder => t.device.Reachable) (hkept _ ih)
  | deviceAfter _ call ih => exact ih.after call

/-- Whichever step of a request fails, what had been done for it is undone. -/
theorem exec_refuses (h : s.device.Issued) (call : PoolCall) :
    (exec call).Ends s (fun _ _ => True)
      (fun _ t => t.pool = s.pool ∧ s.device.Recounted t.device) := by
  cases call with
  | ensureTarget pass logical format =>
    simp only [exec, ends_bind, ends_renew, ends_pure]
    exact (s.pool.ensureTarget_refuses pass logical format s.device).mono (fun _ _ _ => trivial)
      (fun _ _ hsame => ⟨trivial, hsame ▸ .refl _⟩)
  | writeFrame frame =>
    simp only [exec, ends_bind, ends_renew, ends_pure]
    exact (s.pool.writeFrame_written frame s.device).mono (fun _ _ _ => trivial)
      (fun _ _ hwritten => ⟨trivial, hwritten.recounted⟩)
  | insertLookup description image =>
    simp only [exec, ends_bind, ends_renew, ends_pure]
    exact (TexturePool.insertLookup_refuses h s.pool description image).mono
      (fun _ _ _ => trivial) (fun _ _ hsame => ⟨trivial, hsame⟩)
  | loadLookup files description =>
    simp only [exec, ends_bind, ends_renew, ends_pure]
    exact (TexturePool.loadLookup_refuses h s.pool files description).mono
      (fun _ _ _ => trivial) (fun _ _ hsame => ⟨trivial, hsame⟩)
  | advance | releaseAll => trivial

end PoolSession

/-- The slot committed last is the one that was current. -/
theorem History.back_advance {h : History} : h.advance.back 0 = some h.current := by
  have hcursor : h.cursor + 1 + Fin.ofNat historySlots previousFrames = h.cursor := by
    rw [add_assoc]
    exact add_eq_left.mpr rfl
  simp only [back, backIndex, advance, current]
  rw [if_pos (by decide)]
  simp only [Nat.sub_zero, Option.map_some, hcursor]

namespace Chain

variable {c : Chain Recorder} {device : Recorder} {files : FileSystem} {preset : Preset}
  {settings : ChainSettings}

/-- On a device of common size, a chain takes frames of common size only. -/
theorem texel_le (hdevice : device.Reachable) (hlimit : device.maxDimension ≤ 16384)
    (h : build device files preset settings = .ok c) :
    c.pool.history.texel.width ≤ 16384 ∧ c.pool.history.texel.height ≤ 16384 := by
  obtain ⟨hgrows, hsound⟩ := build_grows (issued_reachable hdevice) h
  have hfits := hsound.pool.texel_fits (texturesFit_reachable (build_kept reachable_kept hdevice h))
  rw [← hgrows.maxDimension] at hlimit
  exact ⟨UInt32.le_trans hfits.1.2 hlimit, UInt32.le_trans hfits.2.2 hlimit⟩

/-- A chain that refuses a frame does nothing else: it issues neither a clear nor a write. -/
theorem submit_refuses (h : c.pool.Alive c.device) (hwidth : c.pool.history.texel.width ≤ 16384)
    (hheight : c.pool.history.texel.height ≤ 16384) (frame : Frame) :
    (submit frame).Ends c (fun _ _ => True) (fun _ c' => c' = c) := by
  unfold submit
  simp only [ends_bind, ends_get, ends_modify, ends_on]
  refine (h.writeFrame_refuses hwidth hheight frame).mono (fun _ _ _ => trivial) ?_
  rintro _ _ ⟨rfl, _⟩
  rfl

/-- In `c'` the frame in the current slot of `c` has been committed and shown: the first pass has
been drawn from that slot. -/
structure CurrentShown (c c' : Chain Recorder) : Prop where
  committed : c'.pool.history.back 0 = some c.pool.history.current
  drawn : ∃ (draw : RecordedDraw) (later : List RecordedDraw) (pass : CompiledPass)
    (params : FrameParams), c'.device.frames = c.device.frames ++ [draw :: later] ∧
      c.passes[0]? = some pass ∧ draw.textures = pass.table.bindings params ∧
      params.source = c.pool.history.frameTextures.orig ∧
      params.orig = c.pool.history.frameTextures.orig

/-- The frame that is shown is the one that waited. -/
theorem render_currentShown (h : c.Sound) (hpending : c.pending = true)
    (hyes : c.render.1 = true) : c.CurrentShown c.render.2 := by
  have hrendered := render_rendered hpending
  cases hrender : c.render with | mk answer c' =>
  rw [hrender] at hrendered hyes
  cases hrendered with
  | refused | failed => simp at hyes
  | shown _ hfail =>
    constructor
    · have hhistory : (c.presented c.drawing).pool.history = c.pool.history.advance :=
        congrArg History.advance c.drawing_moves.1.history
      rw [hhistory]
      exact History.back_advance
    · obtain ⟨hlen, hdraws⟩ := c.drawing_draws
      rw [(drawing_drawn h.passes_ne_nil).1 hfail] at hlen
      obtain ⟨pass, rest, hpasses⟩ := List.exists_cons_of_ne_nil h.passes_ne_nil
      obtain ⟨draw, later, hdrawn⟩ : ∃ draw later, c.drawing.device.pending = draw :: later := by
        refine List.exists_cons_of_ne_nil ?_
        intro hnone
        simp [hnone, hpasses] at hlen
      have hpass : c.passes[0]? = some pass := by rw [hpasses]; rfl
      obtain ⟨size, canvas, hfirst⟩ := hdraws 0 pass draw hpass (by rw [hdrawn]; rfl)
      obtain ⟨_, _, _, hdraw⟩ := hfirst.draw
      refine ⟨draw, later, pass, _, ?_, hpass, congrArg (·.textures) hdraw, ?_⟩
      · rw [← hdrawn]
        exact congrArg (· ++ [c.drawing.device.pending]) c.drawing_steady.frames
      · exact ⟨rfl, rfl⟩

end Chain

/-- A request to a pool that fails leaves the pool as it was, and all textures of its device; of the
device, no more differs than the next id and the counts of calls. A chain on a device of common size
that refuses a frame is not changed by it at all: whatever is asked of the chain then goes as if the
frame had not been handed in, and the frame that waited before is shown next. -/
theorem failed_requests_change_nothing :
    (∀ s : PoolSession Recorder, s.Reachable → ∀ call e t, PoolSession.exec call s = .error e t →
      t.pool = s.pool ∧ t.device.textures = s.device.textures ∧ s.device.Recounted t.device) ∧
    ∀ (device : Recorder) (files : FileSystem) (preset : Preset) (settings : ChainSettings)
      (c₀ : Chain Recorder), device.Reachable → device.maxDimension ≤ 16384 →
      Chain.build device files preset settings = .ok c₀ →
      ∀ (calls : List (HostCall Recorder)) (frame : Frame) (e : Error) (c : Chain Recorder),
        let s := (Session.start c₀).run calls
        Chain.submit frame s.chain = .error e c →
        c = s.chain ∧
        (∀ later, (Session.start c₀).run (calls ++ .submit frame :: later) =
          (Session.start c₀).run (calls ++ later)) ∧
        (c.pending = true → c.pool.history.current.size = s.lastAccepted ∧
          (c.render.1 = true → c.CurrentShown c.render.2)) := by
  constructor
  · intro s hs call e t ht
    obtain ⟨hpool, nextId, stats, hdevice⟩ :=
      (PoolSession.exec_refuses (issued_reachable hs.device) call).of_error ht
    exact ⟨hpool, by rw [hdevice], nextId, stats, hdevice⟩
  · intro device files preset settings c₀ hdevice hlimit hbuild calls frame e c s hsubmit
    obtain ⟨_, hcontinues, hs, _⟩ := Session.run_built hdevice hbuild calls
    obtain ⟨hwidth, hheight⟩ := Chain.texel_le hdevice hlimit hbuild
    rw [← hcontinues.texel] at hwidth hheight
    have hsame : c = s.chain := (Chain.submit_refuses hs.pool hwidth hheight frame).of_error hsubmit
    rw [hsame] at hsubmit ⊢
    refine ⟨rfl, ?_, ?_⟩
    · intro later
      have hstep : s.step (.submit frame) = s := by
        simp only [Session.step, hsubmit]
      rw [Session.run_append, Session.run_append]
      exact congrArg (Session.run · later) hstep
    · intro hpending
      have hcurrent := Session.run_waiting (Session.start_waiting (Chain.build_idle hbuild).1) calls
        hpending
      exact ⟨hcurrent, fun hyes => Chain.render_currentShown hs hpending hyes⟩

/-- An image that claims to have one pixel and has none. -/
def Image.hollow : Image := ⟨⟨1, 1⟩, []⟩

/-- A frame that is wider than a chain takes unless it is told to. -/
def Frame.tooWide : Frame := ⟨[], ⟨2000, 1⟩, 8000, .xrgb8888⟩

theorem Chain.submit_tooWide {c : Chain Recorder} (h : c.pool.history.texel = ⟨1024, 1024⟩) :
    ∃ e c', submit .tooWide c = .error e c' := by
  have hends : (submit .tooWide).Ends c (fun _ _ => False) (fun _ _ => True) := by
    unfold submit TexturePool.writeFrame
    simp only [ends_bind, ends_get, ends_modify, ends_on, ends_ite, ends_throw, h]
    exact ⟨fun _ => trivial, fun hwithin => absurd rfl hwithin⟩
  cases hc : submit .tooWide c with
  | ok a c' => exact (hends.of_ok hc).elim
  | error e c' => exact ⟨e, c', rfl⟩

theorem refused_image_and_frame_change_nothing :
    (∃ pool r e t, TexturePool.create 1 ⟨4, 4⟩ true ({} : Recorder) = .ok pool r ∧
      PoolSession.exec (.insertLookup { id := "noise", path := ⟨"noise.png"⟩ } .hollow) ⟨pool, r⟩ =
        .error e t ∧
      t.device.nextId = r.nextId + 1 ∧ t.pool = pool ∧ t.device.textures = r.textures) ∧
    ∃ c₀, Chain.build ({} : Recorder) .empty .twoStock {} = .ok c₀ ∧
      let s := (Session.start c₀).run HostCall.firstFrame
      ∃ e, Chain.submit .tooWide s.chain = .error e s.chain ∧ s.chain.pending = true ∧
        s.chain.render.1 = true ∧ s.chain.pool.history.current.size = s.lastAccepted ∧
        s.chain.render.2.pool.history.back 0 = some s.chain.pool.history.current := by
  obtain ⟨hpools, hchains⟩ := failed_requests_change_nothing
  constructor
  · obtain ⟨pool, r, hcreate, hfails, hnext⟩ : ∃ pool r,
        TexturePool.create 1 ⟨4, 4⟩ true ({} : Recorder) = .ok pool r ∧
        ((PoolSession.exec (.insertLookup { id := "noise", path := ⟨"noise.png"⟩ }
          .hollow)).outcome ⟨pool, r⟩).1.isOk = false ∧
        ((PoolSession.exec (.insertLookup { id := "noise", path := ⟨"noise.png"⟩ }
          .hollow)).outcome ⟨pool, r⟩).2.device.nextId = r.nextId + 1 :=
      ⟨_, _, rfl, by decide +kernel⟩
    obtain ⟨e, t, ht⟩ := exists_eq_error hfails
    obtain ⟨hpool, htextures, _⟩ := hpools ⟨pool, r⟩ (.created (.fresh 8192) hcreate) _ e t ht
    refine ⟨pool, r, e, t, hcreate, ht, ?_, hpool, htextures⟩
    simpa [outcome, ht] using hnext
  · obtain ⟨c₀, hbuild, hpending, _, _, hyes⟩ := Session.first_frame_shown
    have hcontinues := (Session.start c₀).run_continues HostCall.firstFrame
    have htexel := hcontinues.texel.trans (Chain.build_builtFrom hbuild).texel
    obtain ⟨e, c, hsubmit⟩ := Chain.submit_tooWide htexel
    obtain ⟨hsame, _, hshown⟩ := hchains {} .empty .twoStock {} c₀ (.fresh 8192) (by decide) hbuild
      HostCall.firstFrame .tooWide e c hsubmit
    subst hsame
    obtain ⟨hsize, hlast⟩ := hshown hpending
    exact ⟨c₀, hbuild, e, hsubmit, hpending, hyes, hsize, (hlast hyes).committed⟩

end PassChain
