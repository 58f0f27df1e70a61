import PassChain.Proofs.UniformBlocks
import PassChain.Proofs.WholeNumbers

/-! The frame counter as programs see it. -/
namespace PassChain

/-- A count that starts over after so many frames, or never if this is zero. -/
def countTo (turn : UInt32) (n : Nat) : Nat := if turn = 0 then n else n % turn.toNat

/-- So the program of a pass counts. -/
theorem Pass.frameCount_table (pass : Pass) (program : Program) (i : Nat)
    (settings : ChainSettings) (context : BindContext) (n : Nat) :
    (pass.table program i settings context).frameCount n = countTo pass.frameCountMod n := rfl

/-- What single precision keeps of such a count. -/
def seenCount (turn : UInt32) (n : Nat) : Nat := keepLeadingBits 24 (countTo turn n)

section Counts

variable {turn : UInt32} {n : Nat}

theorem countTo_zero (n : Nat) : countTo 0 n = n := if_pos rfl

theorem countTo_of_ne (h : turn ≠ 0) (n : Nat) : countTo turn n = n % turn.toNat := if_neg h

/-- A count is seen exactly just when no binary digit behind the first 24 is one. -/
theorem seenCount_eq_iff : seenCount turn n = countTo turn n ↔
    2 ^ ((countTo turn n).log2 + 1 - 24) ∣ countTo turn n :=
  keepLeadingBits_eq_self_iff

theorem seenCount_of_le (h : countTo turn n ≤ 2 ^ 24) : seenCount turn n = countTo turn n :=
  keepLeadingBits_of_le (by decide) h

/-- Short turns are seen in full. -/
theorem seenCount_of_short (hne : turn ≠ 0) (hturn : turn.toNat ≤ 2 ^ 24 + 1) :
    seenCount turn n = n % turn.toNat := by
  have hpos : 0 < turn.toNat := Nat.pos_of_ne_zero fun h => hne (UInt32.toNat_inj.mp h)
  have hlt : countTo turn n < turn.toNat := by
    rw [countTo_of_ne hne]
    exact Nat.mod_lt n hpos
  rw [seenCount_of_le (by omega), countTo_of_ne hne]

/-- What is seen comes round after a turn, however long it is. -/
theorem seenCount_turn (hne : turn ≠ 0) : seenCount turn (n + turn.toNat) = seenCount turn n := by
  unfold seenCount
  rw [countTo_of_ne hne, countTo_of_ne hne, Nat.add_mod_right]

/-- A count that never starts over is never seen to go back, and seen to go on as far as all of its
digits are seen. -/
theorem seenCount_succ (n : Nat) : seenCount 0 n ≤ seenCount 0 (n + 1) ∧
    (n < 2 ^ 24 → seenCount 0 n < seenCount 0 (n + 1)) := by
  constructor
  · refine keepLeadingBits_mono (by decide) ?_
    rw [countTo_zero, countTo_zero]
    exact Nat.le_succ n
  · intro h
    rw [seenCount_of_le (by rw [countTo_zero]; omega),
      seenCount_of_le (by rw [countTo_zero]; omega),
      countTo_zero, countTo_zero]
    exact Nat.lt_succ_self n

end Counts

variable {device : Recorder} {files : FileSystem} {preset : Preset} {settings : ChainSettings}
  {c₀ : Chain Recorder}

/-- Each program reads as its frame counter what is seen of the number of frames shown before. -/
theorem Session.shown_counter (hdevice : device.Reachable)
    (hbuild : Chain.build device files preset settings = .ok c₀)
    (calls : List (HostCall Recorder)) :
    let s := (start c₀).run calls
    let c := s.chain
    c.pending = true → c.render.1 = true → s.shown.length < UInt64.size →
      ∃ draws, c.render.2.device.frames = c.device.frames ++ [draws] ∧
        draws.length = preset.passes.length ∧
        ∀ i draw, draws[i]? = some draw → ∃ pass program, preset.Runs files i pass program ∧
          ∀ f ∈ program.fields, f.role = .frameCount → ∃ x, draw.uniformAt f.offset = some x ∧
            x.value.toRat? = some (seenCount pass.frameCountMod s.shown.length : ℚ) := by
  intro s c hpending hyes hsize
  obtain ⟨draws, hframes, hlength, hdraws⟩ := shown_members hdevice hbuild calls hpending hyes
  refine ⟨draws, hframes, hlength, fun i draw hdraw => ?_⟩
  obtain ⟨pass, program, source, hruns, _, hmembers⟩ := hdraws i draw hdraw
  refine ⟨pass, program, hruns, fun f hf hrole => ?_⟩
  have hbytes := hmembers f hf .frameCount (by rw [hrole]; rfl)
  rw [hrole, BindingTable.bytesOf, Pass.frameCount_table] at hbytes
  have hcount : countTo pass.frameCountMod s.shown.length ≤ s.shown.length := by
    unfold countTo
    split
    · exact le_rfl
    · exact Nat.mod_le _ _
  exact ⟨_, RecordedDraw.uniformAt_of_bytes hbytes,
    Single.toRat?_ofNat (Nat.lt_of_le_of_lt hcount hsize)⟩

/-- A pass whose program reads the frame counter. -/
def Preset.counting (turn : UInt32) : Preset :=
  { passes := [{ shader := .builtin "scanlines", frameCountMod := turn }] }

set_option maxRecDepth 100000 in
theorem Program.counter_scanlines : ∃ p, ofText "builtin:scanlines" Wgsl.Bundled.scanlines = .ok p ∧
    ∃ f ∈ p.fields, f.role = .frameCount ∧ f.offset = 88 :=
  interface_ofText rfl (by decide +kernel)

theorem Preset.counting_runsOnly (turn : UInt32) : ∃ program, (counting turn).RunsOnly .empty
    { shader := .builtin "scanlines", frameCountMod := turn } program ∧
      ∃ f ∈ program.fields, f.role = .frameCount ∧ f.offset = 88 := by
  obtain ⟨p, hp, hfield⟩ := Program.counter_scanlines
  have htext : Wgsl.Bundled.text? "scanlines" = some Wgsl.Bundled.scanlines := rfl
  have hrules (last : Bool) : (Pass.scaleRules
      { shader := .builtin "scanlines", frameCountMod := turn } last).validate = .ok () := by
    cases last <;> rfl
  exact ⟨p, ⟨rfl, rfl, rfl, hrules, _, _, Pass.programText_of_builtin rfl htext .empty, hp⟩,
    hfield⟩

namespace Session

/-- In the frame that the chain shows next, some draw reads this value there. -/
def ReadsNext (s : Session Recorder) (offset : Nat) (value : ℚ) : Prop :=
  ∃ draws draw x, s.chain.render.2.device.frames = s.chain.device.frames ++ [draws] ∧
    draw ∈ draws ∧ draw.uniformAt offset = some x ∧ x.value.toRat? = some value

/-- The only draw of such a preset reads the counter where its program has it. -/
theorem readsNext_of_counting {s : Session Recorder} {turn : UInt32} {draws : List RecordedDraw}
    (hframes : s.chain.render.2.device.frames = s.chain.device.frames ++ [draws])
    (hcount : draws.length = (Preset.counting turn).passes.length)
    (hdraws : ∀ i draw, draws[i]? = some draw →
      ∃ pass program, (Preset.counting turn).Runs .empty i pass program ∧
        ∀ f ∈ program.fields, f.role = .frameCount → ∃ x, draw.uniformAt f.offset = some x ∧
          x.value.toRat? = some (seenCount pass.frameCountMod s.shown.length : ℚ)) :
    s.ReadsNext 88 (seenCount turn s.shown.length) := by
  obtain ⟨draw, rfl⟩ := List.length_eq_one_iff.mp hcount
  obtain ⟨pass, program, hruns, hfields⟩ := hdraws 0 draw rfl
  obtain ⟨_, honly, f, hf, hrole, hoffset⟩ := Preset.counting_runsOnly turn
  obtain ⟨rfl, rfl⟩ := honly.runs_eq hruns
  obtain ⟨x, hread, hvalue⟩ := hfields f hf hrole
  rw [hoffset] at hread
  exact ⟨_, draw, x, hframes, List.mem_singleton_self draw, hread, hvalue⟩

/-- The counter at any number of pixels. -/
theorem pixels_counted (turn : UInt32) :
    ∃ c₀, Chain.build ({} : Recorder) .empty (.counting turn) {} = .ok c₀ ∧
      ∀ n < UInt64.size, let s := (start c₀).run (HostCall.pixels n)
        s.chain.pending = true ∧ s.chain.render.1 = true ∧ s.shown.length = n ∧
          s.ReadsNext 88 (seenCount turn n) := by
  obtain ⟨_, honly, _⟩ := Preset.counting_runsOnly turn
  obtain ⟨c₀, hbuild, hpixels⟩ := run_pixels honly.loads rfl
  refine ⟨c₀, hbuild, fun n hn => ?_⟩
  obtain ⟨hpending, hyes, hshown⟩ := hpixels n
  have hlength : ((start c₀).run (HostCall.pixels n)).shown.length = n := by simp [hshown]
  refine ⟨hpending, hyes, hlength, ?_⟩
  obtain ⟨_, hframes, hcount, hdraws⟩ := shown_counter (.fresh 8192) hbuild
    (HostCall.pixels n) hpending hyes (hlength.symm ▸ hn)
  have hreads := readsNext_of_counting hframes hcount hdraws
  rwa [hlength] at hreads

end Session

/-- In every frame that is shown, each program reads as its frame counter the number of frames shown
before, counted to the turn of its pass, to the nearest number that single precision can hold. Turns
of up to 2 ^ 24 + 1 frames are seen in full and longer ones come round in time, but of a count that
goes beyond 2 ^ 24 only the first 24 binary digits are seen, so that it need not go on from frame to
frame; it never goes back. -/
theorem counter_of_shown_frames (hdevice : device.Reachable)
    (hbuild : Chain.build device files preset settings = .ok c₀)
    (calls : List (HostCall Recorder)) :
    let s := (Session.start c₀).run calls
    let c := s.chain
    (c.pending = true → c.render.1 = true → s.shown.length < UInt64.size →
      (s.step .render).shown.length = s.shown.length + 1 ∧
      ∃ draws, c.render.2.device.frames = c.device.frames ++ [draws] ∧
        draws.length = preset.passes.length ∧
        ∀ i draw, draws[i]? = some draw → ∃ pass program, preset.Runs files i pass program ∧
          ∀ f ∈ program.fields, f.role = .frameCount → ∃ x, draw.uniformAt f.offset = some x ∧
            x.value.toRat? = some (seenCount pass.frameCountMod s.shown.length : ℚ)) ∧
    ∀ turn n,
      (2 * countTo turn n ≤ 2 * seenCount turn n + 2 ^ ((countTo turn n).log2 + 1 - 24) ∧
        2 * seenCount turn n ≤ 2 * countTo turn n + 2 ^ ((countTo turn n).log2 + 1 - 24)) ∧
      (seenCount turn n = countTo turn n ↔
        2 ^ ((countTo turn n).log2 + 1 - 24) ∣ countTo turn n) ∧
      (countTo turn n ≤ 2 ^ 24 → seenCount turn n = countTo turn n) ∧
      (turn ≠ 0 → turn.toNat ≤ 2 ^ 24 + 1 → seenCount turn n = n % turn.toNat) ∧
      (turn ≠ 0 → seenCount turn (n + turn.toNat) = seenCount turn n) ∧
      seenCount 0 n ≤ seenCount 0 (n + 1) ∧
      (n < 2 ^ 24 → seenCount 0 n < seenCount 0 (n + 1)) := by
  intro s c
  refine ⟨fun hpending hyes hsize =>
    ⟨by rw [Session.shown_render hpending hyes]; exact List.length_append,
    Session.shown_counter hdevice hbuild calls hpending hyes hsize⟩, fun turn n => ?_⟩
  exact ⟨keepLeadingBits_near 24 _, seenCount_eq_iff, seenCount_of_le, seenCount_of_short,
    seenCount_turn, seenCount_succ n⟩

/-- With turns of five frames, the eighth pixel is counted as two. -/
theorem counter_comes_round :
    ∃ c₀, Chain.build ({} : Recorder) .empty (.counting 5) {} = .ok c₀ ∧
      let s := (Session.start c₀).run (HostCall.pixels 7)
      s.chain.pending = true ∧ s.chain.render.1 = true ∧ s.shown.length = 7 ∧
        s.ReadsNext 88 2 := by
  obtain ⟨_, honly, _⟩ := Preset.counting_runsOnly 5
  obtain ⟨c₀, hbuild, hpixels⟩ := Session.run_pixels honly.loads rfl
  obtain ⟨hpending, hyes, hshown⟩ := hpixels 7
  have hlength : ((Session.start c₀).run (HostCall.pixels 7)).shown.length = 7 := by simp [hshown]
  refine ⟨c₀, hbuild, hpending, hyes, hlength, ?_⟩
  obtain ⟨hframe, hlaws⟩ := counter_of_shown_frames (.fresh 8192) hbuild (HostCall.pixels 7)
  obtain ⟨_, _, hframes, hcount, hdraws⟩ :=
    hframe hpending hyes (hlength.symm ▸ (by decide : 7 < UInt64.size))
  have hreads := Session.readsNext_of_counting hframes hcount hdraws
  have hseen : seenCount 5 7 = 2 := (hlaws 5 7).2.2.2.1 (by decide) (by decide)
  rwa [hlength, hseen] at hreads

/-- A counter that does not start over stands still between two pixels, and one with a long turn is
seen one frame short at its end. -/
theorem counter_stands_still :
    (∃ c₀, Chain.build ({} : Recorder) .empty (.counting 0) {} = .ok c₀ ∧
      ∀ n, n = 2 ^ 24 ∨ n = 2 ^ 24 + 1 →
        let s := (Session.start c₀).run (HostCall.pixels n)
        s.chain.render.1 = true ∧ s.shown.length = n ∧ s.ReadsNext 88 (2 ^ 24 : Nat)) ∧
    ∃ c₀, Chain.build ({} : Recorder) .empty (.counting 16777218) {} = .ok c₀ ∧
      ∀ n, n = 2 ^ 24 + 1 → n % 16777218 = n ∧
        let s := (Session.start c₀).run (HostCall.pixels n)
        s.chain.render.1 = true ∧ s.shown.length = n ∧ s.ReadsNext 88 (2 ^ 24 : Nat) := by
  constructor
  · obtain ⟨c₀, hbuild, hpixels⟩ := Session.pixels_counted 0
    refine ⟨c₀, hbuild, fun n hn => ?_⟩
    have hseen : seenCount 0 n = 2 ^ 24 := by rcases hn with rfl | rfl <;> decide +kernel
    have hsize : n < UInt64.size := by rcases hn with rfl | rfl <;> decide
    obtain ⟨_, hyes, hlength, hread⟩ := hpixels n hsize
    rw [hseen] at hread
    exact ⟨hyes, hlength, hread⟩
  · obtain ⟨c₀, hbuild, hpixels⟩ := Session.pixels_counted 16777218
    refine ⟨c₀, hbuild, fun n hn => ?_⟩
    have hseen : seenCount 16777218 n = 2 ^ 24 := by rw [hn]; decide +kernel
    have hsize : n < UInt64.size := by rw [hn]; decide
    obtain ⟨_, hyes, hlength, hread⟩ := hpixels n hsize
    rw [hseen] at hread
    exact ⟨Nat.mod_eq_of_lt (by omega), hyes, hlength, hread⟩

end PassChain
