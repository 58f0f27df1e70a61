import PassChain.Proofs.Building
import PassChain.Proofs.Continuing
import PassChain.Proofs.StockProgram

/-! Devices that oblige: chains of the stock program can be built on them, and take in frames. -/
namespace PassChain

open Attempt

/-- The device `d'` is ready, and has the textures that `d` has. -/
def GoesOn {δ : Type} (ready : δ → Prop) (holds : δ → TextureId → TextureDesc → Prop)
    (d d' : δ) : Prop :=
  ready d' ∧ ∀ id desc, holds d id desc → holds d' id desc

/-- How a device comes to do all it is asked for while a chain is built and fed. -/
structure Obliging (δ : Type) [GpuDevice δ] where
  ready : δ → Prop
  /-- whether a device has a texture -/
  holds : δ → TextureId → TextureDesc → Prop
  limit : UInt32
  maxDimension : ∀ d, ready d → GpuDevice.maxDimension d = limit
  createTexture : ∀ desc d, ready d → desc.size.within ⟨limit, limit⟩ = true →
    (GpuDevice.createTexture desc).Ends d
      (fun id d' => GoesOn ready holds d d' ∧ holds d' id desc) (fun _ _ => False)
  writeTexture : ∀ id desc size data d, ready d → holds d id desc → size.within desc.size = true →
    data.length = size.width.toNat * size.height.toNat * desc.format.byteSize.toNat →
    data.length < UInt32.size →
    (GpuDevice.writeTexture id size data).Ends d (fun _ => GoesOn ready holds d) (fun _ _ => False)
  clearTexture : ∀ id desc d, ready d → holds d id desc →
    (GpuDevice.clearTexture id).Ends d (fun _ => GoesOn ready holds d) (fun _ _ => False)
  createBuffer : ∀ label kind size d, ready d →
    (GpuDevice.createBuffer label kind size).Ends d (fun _ => GoesOn ready holds d)
      (fun _ _ => False)
  createProgram : ∀ label text program d, ready d →
    (GpuDevice.createProgram label text program).Ends d (fun _ => GoesOn ready holds d)
      (fun _ _ => False)
  bindResting : ∀ id d, ready d → GoesOn ready holds d (GpuDevice.bindResting id d)

/-- A recorder obliges as long as it is not told to refuse allocations. -/
def Recorder.obliging (limit : UInt32) : Obliging Recorder where
  ready r := r.Issued ∧ r.allocationFaults = [] ∧ r.maxDimension = limit
  holds r id desc := r.texture? id = some desc
  limit := limit
  maxDimension _ h := h.2.2
  createTexture desc r h hfits := by
    obtain ⟨hissued, hfaults, rfl⟩ := h
    refine ((createTexture_grows hissued desc).and (createTexture_ends r desc)).mono ?_ ?_
    · rintro id r' ⟨⟨hgrows, hid, _⟩, _⟩
      exact ⟨⟨⟨hgrows.issued, hgrows.allocationFaults.trans hfaults, hgrows.maxDimension⟩,
        hgrows.textures⟩, hid⟩
    · rintro e r' ⟨_, _, he⟩
      simp only [Size.within, Bool.and_eq_true, decide_eq_true_eq] at hfits
      simp only [hfaults, List.not_mem_nil, false_and, exists_false, false_or, Fits] at he
      exact he.2 ⟨⟨hfits.1.1.1, hfits.1.2⟩, hfits.1.1.2, hfits.2⟩
  writeTexture id desc size data r h hid hsize hdata hcount := by
    have hfits : ¬ (desc.size.width < size.width ∨ desc.size.height < size.height) := by
      simp only [Size.within, Bool.and_eq_true, decide_eq_true_eq] at hsize
      exact not_or.mpr ⟨UInt32.not_lt.mpr hsize.1.2, UInt32.not_lt.mpr hsize.2⟩
    simp only [GpuDevice.writeTexture, ends_ofStep, Recorder.writeTexture, hid, if_neg hfits,
      ← hdata, if_neg (Nat.not_le.mpr hcount), ne_eq, not_true_eq_false, if_false]
    refine ⟨?_, nofun⟩
    intro _ r' hr'
    cases hr'
    exact ⟨⟨⟨h.1.textures, h.1.buffers, h.1.programs⟩, h.2⟩, fun _ _ h => h⟩
  clearTexture id desc r h hid := by
    simp only [GpuDevice.clearTexture, ends_ofStep, Recorder.clearTexture, hid, Option.isSome_some,
      if_true]
    refine ⟨?_, nofun⟩
    intro _ r' hr'
    cases hr'
    exact ⟨⟨⟨h.1.textures, h.1.buffers, h.1.programs⟩, h.2⟩, fun _ _ h => h⟩
  createBuffer label kind size r h := by
    obtain ⟨hissued, hfaults, rfl⟩ := h
    refine ((createBuffer_grows hissued label kind size).and
      (createBuffer_ends r label kind size)).mono ?_ ?_
    · rintro _ r' ⟨⟨hgrows, _⟩, _⟩
      exact ⟨⟨hgrows.issued, hgrows.allocationFaults.trans hfaults, hgrows.maxDimension⟩,
        hgrows.textures⟩
    · rintro e r' ⟨_, _, pattern, hpattern, _⟩
      simp [hfaults] at hpattern
  createProgram label text program r h := by
    obtain ⟨hissued, hfaults, rfl⟩ := h
    refine (createProgram_ends r label text program).mono_ok ?_
    rintro _ r' ⟨_, hr'⟩
    have hgrows := createProgram_grows hissued label
    rw [← hr'] at hgrows
    exact ⟨⟨hgrows.issued, hgrows.allocationFaults.trans hfaults, hgrows.maxDimension⟩,
      hgrows.textures⟩
  bindResting id r h := ⟨⟨⟨h.1.textures, h.1.buffers, h.1.programs⟩, h.2⟩, fun _ _ h => h⟩

variable {δ : Type} [GpuDevice δ] {o : Obliging δ} {d d' d'' : δ}

/-- What an obliging device does for its host. -/
def Obliging.Does (o : Obliging δ) (d d' : δ) : Prop := GoesOn o.ready o.holds d d'

theorem Obliging.Does.trans (h : o.Does d d') (h' : o.Does d' d'') : o.Does d d'' :=
  ⟨h'.1, fun id desc hid => h'.2 id desc (h.2 id desc hid)⟩

namespace TexturePool

/-- All textures of a pool's ring are on the device. -/
def Fed (o : Obliging δ) (pool : TexturePool) (d : δ) : Prop :=
  o.ready d ∧ ∀ (i : Nat) (hi : i < historySlots), ∃ label,
    o.holds d pool.history.slots[i].texture ⟨label, pool.history.texel, .bgra8, false⟩

theorem createHistory_obliged (h : o.ready d) {size : Size}
    (hsize : size.within ⟨o.limit, o.limit⟩ = true) (n : Nat) :
    (createHistory size n).Ends d
      (fun slots d' => o.Does d d' ∧
        ∀ (i : Nat) (hi : i < n), o.holds d' slots[i] ⟨s!"history{i}", size, .bgra8, false⟩)
      (fun _ _ => False) := by
  refine createHistory_each (R := o.Does)
    (Q := fun d' i id => o.holds d' id ⟨s!"history{i}", size, .bgra8, false⟩)
    ⟨h, fun _ _ h => h⟩ ?_ n
  intro i d₁ h₁
  refine (o.createTexture _ d₁ h₁.1 hsize).mono_ok ?_
  rintro id d₂ ⟨h₂, hid⟩
  exact ⟨h₁.trans h₂, hid, fun _ _ hother => h₂.2 _ _ hother⟩

theorem create_obliged (h : o.ready d) {maxInput : Size}
    (hsize : maxInput.within ⟨o.limit, o.limit⟩ = true) (targetCount : Nat) (pow2 : Bool) :
    (create targetCount maxInput pow2).Ends d
      (fun pool d' => pool.Fed o d') (fun _ _ => False) := by
  unfold create
  simp only [ends_bind, ends_get, ends_ite, ends_throw, ends_pure, o.maxDimension d h, hsize,
    Bool.not_true, Bool.false_eq_true, not_false_eq_true, forall_const, false_implies, true_and]
  refine (createHistory_obliged h hsize historySlots).mono_ok ?_
  rintro slots d₁ ⟨h₁, hslots⟩
  have hone : (⟨1, 1⟩ : Size).within ⟨o.limit, o.limit⟩ = true := by
    simp only [Size.within, Bool.and_eq_true, decide_eq_true_eq] at hsize ⊢
    have hlimit := UInt32.le_trans hsize.1.1.1 hsize.1.2
    exact ⟨⟨⟨by decide, by decide⟩, hlimit⟩, hlimit⟩
  refine (o.createTexture _ d₁ h₁.1 hone).mono_ok ?_
  rintro id d₂ ⟨h₂, hid⟩
  refine (o.writeTexture id _ ⟨1, 1⟩ _ d₂ h₂.1 hid (by decide) (by decide) (by decide)).mono_ok
    (fun _ d₃ h₃ => ⟨h₃.1, fun i hi => ⟨s!"history{i}", ?_⟩⟩)
  have hslot := h₃.2 _ _ (h₂.2 _ _ (hslots i hi))
  simpa [History.ofTextures] using hslot

end TexturePool

/-- A pass of the stock program, by whatever rules. -/
def Pass.IsStock (p : Pass) : Prop :=
  p.shader = .builtin stockName ∧ ∀ last, (p.scaleRules last).validate = .ok ()

/-- A preset of stock passes that settings allow. -/
structure Preset.IsStock (preset : Preset) (settings : ChainSettings) : Prop where
  valid : preset.validate = .ok ()
  count : preset.passes.length ≤ settings.maxPasses
  lookups : preset.lookups = []
  passes : ∀ p ∈ preset.passes, p.IsStock

/-- A pass whose program can be used, by rules that are in order. -/
structure Pass.Loads (files : FileSystem) (p : Pass) : Prop where
  program : ∃ label text, p.programText files = .ok (label, text) ∧
    ∃ program, Program.ofText label text = .ok program
  rules : ∀ last, (p.scaleRules last).validate = .ok ()

/-- A preset of such passes that settings allow. -/
structure Preset.Loads (files : FileSystem) (preset : Preset) (settings : ChainSettings) :
    Prop where
  valid : preset.validate = .ok ()
  count : preset.passes.length ≤ settings.maxPasses
  lookups : preset.lookups = []
  passes : ∀ p ∈ preset.passes, p.Loads files

theorem Pass.programText_of_builtin {p : Pass} {name text : String} (hp : p.shader = .builtin name)
    (htext : Wgsl.Bundled.text? name = some text) (files : FileSystem) :
    p.programText files = .ok (s!"builtin:{name}", text) := by
  unfold programText
  rw [hp]
  simp only [htext]

theorem Pass.IsStock.loads {p : Pass} (h : p.IsStock) (files : FileSystem) : p.Loads files :=
  ⟨⟨_, _, Pass.programText_of_builtin h.1 rfl files, Program.ofText_stock _⟩, h.2⟩

theorem Preset.IsStock.loads {preset : Preset} {settings : ChainSettings}
    (h : preset.IsStock settings) (files : FileSystem) : preset.Loads files settings :=
  ⟨h.valid, h.count, h.lookups, fun p hp => (h.passes p hp).loads files⟩

namespace Assembly

variable {a : Assembly δ} {files : FileSystem}

theorem link_obliged (h : o.ready a.device) {label text : String}
    (htext : ∃ p, Program.ofText label text = .ok p) :
    (link label text).Ends a (fun _ a' => o.Does a.device a'.device) (fun _ _ => False) := by
  obtain ⟨program, hprogram⟩ := htext
  unfold link
  rw [hprogram]
  simp only [ends_bind, ends_ofExcept_ok, onDevice, ends_on, ends_modify, ends_pure]
  exact o.createProgram label text program a.device h

theorem linkPass_obliged (h : o.ready a.device) {pass : Pass} (hpass : pass.Loads files)
    (smooth last : Bool) :
    (linkPass files smooth pass last).Ends a (fun _ a' => o.Does a.device a'.device)
      (fun _ _ => False) := by
  obtain ⟨label, text, htext, hprogram⟩ := hpass.program
  unfold linkPass
  simp only [htext, hpass.rules last, ends_bind, ends_ofExcept_ok, ends_pure]
  exact link_obliged h hprogram

theorem linkPasses_obliged (h : o.ready a.device) (smooth : Bool) {passes : List Pass}
    (hpasses : ∀ p ∈ passes, p.Loads files) :
    (linkPasses files smooth passes).Ends a (fun _ a' => o.ready a'.device)
      (fun _ _ => False) := by
  induction passes generalizing a with
  | nil => exact h
  | cons pass rest ih =>
    simp only [linkPasses, ends_bind, ends_pure]
    refine (linkPass_obliged h (hpasses pass (by simp)) smooth _).mono_ok ?_
    intro _ a₁ h₁
    exact ih h₁.1 fun p hp => hpasses p (by simp [hp])

theorem compilePasses_obliged (h : o.ready a.device) (context : BindContext) (align : Bool)
    (index : Nat) (linked : List LinkedPass) :
    (compilePasses context align index linked).Ends a (fun _ a' => o.Does a.device a'.device)
      (fun _ _ => False) := by
  induction linked generalizing index a with
  | nil => exact ⟨h, fun _ _ h => h⟩
  | cons l rest ih =>
    simp only [compilePasses, compilePass, createBuffer, ends_bind, onDevice, ends_on, ends_modify,
      ends_pure]
    refine (o.createBuffer _ _ _ _ h).mono_ok ?_
    intro _ d₁ h₁
    refine (o.createBuffer _ _ _ d₁ h₁.1).mono_ok ?_
    intro _ d₂ h₂
    have hboth : o.Does a.device d₂ := Obliging.Does.trans h₁ h₂
    exact (ih h₂.1 (index + 1)).mono_ok (fun _ _ h₃ => hboth.trans h₃)

theorem build_obliged (h : o.ready a.device) (files : FileSystem) {preset : Preset}
    {settings : ChainSettings} (hpreset : preset.Loads files settings)
    (hsize : settings.maxInput.within ⟨o.limit, o.limit⟩ = true) :
    (Assembly.build files preset settings).Ends a (fun r a' => r.2.1.Fed o a'.device)
      (fun _ _ => False) := by
  have hstock : ∃ p, Program.ofText stockName ((Wgsl.Bundled.text? stockName).getD "") = .ok p :=
    Program.ofText_stock stockName
  unfold Assembly.build
  revert hstock
  generalize (Wgsl.Bundled.text? stockName).getD "" = stockText
  intro hstock
  simp only [hpreset.valid, hpreset.lookups, loadLookups, ends_bind, ends_ofExcept_ok, ends_ite,
    ends_throw, ends_pure, ends_modify, onDevice, ends_on, imp_false,
    Nat.not_lt.mpr hpreset.count, not_false_eq_true, forall_const, true_and]
  refine (link_obliged h hstock).mono_ok ?_
  intro _ a₁ h₁
  refine (linkPasses_obliged h₁.1 _ hpreset.passes).mono_ok ?_
  intro linked a₂ h₂
  refine (TexturePool.create_obliged h₂ hsize _ _).mono_ok ?_
  intro pool d₃ h₃
  refine (compilePasses_obliged h₃.1 _ _ 0 linked).mono_ok ?_
  intro passes a₄ h₄
  exact ⟨h₄.1, fun i hi => (h₃.2 i hi).imp fun _ hid => h₄.2 _ _ hid⟩

end Assembly

namespace Chain

variable {files : FileSystem} {preset : Preset} {settings : ChainSettings} {c : Chain δ}

/-- A chain of passes that load can be built, and takes in frames from then on. -/
theorem build_loaded (h : o.ready d) (hpreset : preset.Loads files settings)
    (hsize : settings.maxInput.within ⟨o.limit, o.limit⟩ = true) :
    ∃ c, build d files preset settings = .ok c ∧ c.pool.Fed o c.device := by
  have hends : (Assembly.build files preset settings).Ends { device := d } _ _ :=
    Assembly.build_obliged h files hpreset hsize
  unfold build
  split
  · rename_i e a he
    exact (hends.of_error he).elim
  · rename_i stock pool passes a ha
    have hfed := hends.of_ok ha
    have hrest := o.bindResting stock a.device hfed.1
    exact ⟨_, rfl, hrest.1, fun i hi => (hfed.2 i hi).imp fun _ hid => hrest.2 _ _ hid⟩

/-- Handing in a frame that the ring has room for succeeds. -/
theorem submit_accepted (h : c.pool.Fed o c.device) {frame : Frame} {rows : List UInt8}
    (hsize : frame.size.within c.pool.history.texel = true) (hrows : frame.toBgra = .ok rows)
    (hlength : rows.length = frame.size.width.toNat * frame.size.height.toNat * 4)
    (hcount : rows.length < UInt32.size) :
    (submit frame).Ends c (fun _ c' => c'.pending = true) (fun _ _ => False) := by
  obtain ⟨hready, hslots⟩ := h
  obtain ⟨label, hslot⟩ := hslots c.pool.history.cursor c.pool.history.cursor.isLt
  have hwrite {d : δ} (hd : o.Does c.device d) :
      (GpuDevice.writeTexture c.pool.history.current.texture frame.size rows).Ends d
        (fun _ _ => True) (fun _ _ => False) :=
    (o.writeTexture _ _ frame.size rows d hd.1 (hd.2 _ _ hslot) hsize hlength hcount).mono_ok
      (fun _ _ _ => trivial)
  unfold submit TexturePool.writeFrame
  simp only [hsize, hrows, ends_bind, ends_get, ends_modify, ends_on, ends_ite, ends_throw,
    ends_ofExcept_ok, ends_pure, Bool.not_true, Bool.false_eq_true, false_implies, true_and,
    not_false_eq_true, forall_const]
  refine ⟨?_, fun _ => hwrite ⟨hready, fun _ _ h => h⟩⟩
  intro _
  exact (o.clearTexture _ _ _ hready hslot).mono_ok (fun _ _ hd => hwrite hd)

end Chain

/-- Two passes of the stock program. -/
def Preset.twoStock : Preset :=
  { passes := [{ shader := .builtin stockName }, { shader := .builtin stockName }] }

theorem Preset.twoStock_isStock : twoStock.IsStock {} := by
  refine ⟨rfl, by decide, rfl, ?_⟩
  intro p hp
  have hsame : p = { shader := .builtin stockName } := by simpa [twoStock] using hp
  subst hsame
  exact ⟨rfl, fun last => by cases last <;> rfl⟩

/-- No files at all. -/
def FileSystem.empty : FileSystem := ⟨fun _ => .error .notFound, fun _ => none⟩

/-- A frame of one black pixel. -/
def Frame.pixel : Frame := ⟨[0, 0, 0, 0], ⟨1, 1⟩, 4, .xrgb8888⟩

/-- The calls that bring a first frame. -/
def HostCall.firstFrame [Adjustable δ] : List (HostCall δ) :=
  [.setViewport { width := 1, height := 1 }, .submit .pixel]

/-- On an obliging device, a chain of passes that load accepts a pixel as its first frame. -/
theorem Session.pixel_accepted [Adjustable δ] (h : o.ready d) (hlimit : o.limit = 8192)
    {preset : Preset} (hpreset : preset.Loads .empty {}) (viewport : Viewport) :
    ∃ c₀ c₁, Chain.build d .empty preset {} = .ok c₀ ∧
      Chain.submit .pixel (c₀.setViewport viewport) = .ok () c₁ ∧
      (start c₀).run [.setViewport viewport, .submit .pixel] =
        { chain := c₁, accepted := [⟨1, 1⟩] } ∧
      c₁.pending = true := by
  have hroom : ChainSettings.maxInput {} |>.within ⟨o.limit, o.limit⟩ := by
    rw [hlimit]
    decide
  obtain ⟨c₀, hbuild, hfed⟩ : ∃ c₀, Chain.build d .empty preset {} = .ok c₀ ∧ _ :=
    Chain.build_loaded h hpreset hroom
  have hsize : Frame.pixel.size.within c₀.pool.history.texel = true := by
    rw [(Chain.build_builtFrom hbuild).texel]
    decide
  have hrows : Frame.pixel.toBgra = .ok [0, 0, 0, 0xff] := rfl
  have hsubmit := Chain.submit_accepted (c := c₀.setViewport viewport) hfed hsize hrows (by decide)
    (by decide)
  cases hc : Chain.submit .pixel (c₀.setViewport viewport) with
  | error e c₁ => exact (hsubmit.of_error hc).elim
  | ok u c₁ =>
    refine ⟨c₀, c₁, hbuild, hc, ?_, hsubmit.of_ok hc⟩
    simp only [run, List.foldl_cons, List.foldl_nil, step, start, hc]
    rfl

/-- On an obliging device, the first frame comes to wait. -/
theorem Session.first_frame_accepted [Adjustable δ] (h : o.ready d) (hlimit : o.limit = 8192) :
    ∃ c₀ c₁, Chain.build d .empty .twoStock {} = .ok c₀ ∧
      Chain.submit .pixel (c₀.setViewport { width := 1, height := 1 }) = .ok () c₁ ∧
      (start c₀).run HostCall.firstFrame = { chain := c₁, accepted := [⟨1, 1⟩] } ∧
      c₁.pending = true :=
  pixel_accepted h hlimit (Preset.twoStock_isStock.loads .empty) { width := 1, height := 1 }

end PassChain
