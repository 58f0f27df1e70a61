import Mathlib.Data.List.Chain
import PassChain.Proofs.DeviceMaps
import PassChain.Proofs.Trials
import PassChain.Proofs.UniformBlocks

/-! Frames that are tried again, and how the same calls go without the tries that showed nothing. -/
namespace PassChain

/-- After a frame that was dropped the same frame is tried. -/
def Trial.SameFrame (a b : Trial) : Prop := a.shown = false → b.frame = a.frame

/-- After a frame that was dropped a variable is read as it was for that. -/
def Trial.SameReading (v : Variable) (a b : Trial) : Prop :=
  a.shown = false → v.read b.memory = v.read a.memory

namespace Variable

variable {v : Variable} {s : VariableState} {trials earlier all : List Trial} {t last : Trial}

/-- Whether what a variable has after the last of `all` trials, of which `earlier` are those before,
comes out the same without the trials that showed nothing. The previous reading does if the last
trial before has shown a frame, and what depends on changes does if there are none between a dropped
frame and the next trial. -/
def Forgets (v : Variable) (earlier all : List Trial) : Prop :=
  match v.kind with
  | .capture => True
  | .capturePrev => ∀ last, earlier.getLast? = some last → last.shown = true
  | .transition | .transitionCount | .transitionPrev => all.IsChain (Trial.SameReading v)

/-- In steady memory, a variable forgets all but its previous reading, and that as soon as another
frame has been shown. -/
theorem forgets_of_steady (hsteady : all.IsChain fun a b => a.shown = false → b.memory = a.memory)
    (hprevious : v.kind ≠ .capturePrev ∨ ∀ last, earlier.getLast? = some last → last.shown = true) :
    v.Forgets earlier all := by
  have hreadings : all.IsChain (Trial.SameReading v) :=
    hsteady.imp fun _ _ h hdropped => by rw [h hdropped]
  unfold Forgets
  split
  · trivial
  · rename_i hkind
    exact hprevious.resolve_left (absurd hkind)
  all_goals exact hreadings

/-- If the readings stay the same, trials that showed nothing leave no more behind than a previous
reading. -/
theorem observeAll_shown (s : VariableState) (hframes : (trials ++ [t]).IsChain Trial.SameFrame)
    (hreadings : (trials ++ [t]).IsChain (Trial.SameReading v)) :
    ∃ previous, v.observeAll s (trials ++ [t]) =
      { v.observeAll s (trials.filter (·.shown) ++ [t]) with previous } := by
  induction trials using List.reverseRecOn generalizing t with
  | nil => exact ⟨_, rfl⟩
  | append_singleton trials b ih =>
    obtain ⟨hframes', _, hframe⟩ := List.isChain_append.mp hframes
    obtain ⟨hreadings', _, hreading⟩ := List.isChain_append.mp hreadings
    obtain ⟨p, hp⟩ := ih hframes' hreadings'
    rw [observeAll_concat, hp, VariableState.observe_previous]
    cases hb : b.shown with
    | true =>
      have hkept : (trials ++ [b]).filter (·.shown) = trials.filter (·.shown) ++ [b] := by simp [hb]
      rw [← observeAll_concat, hkept]
      exact ⟨_, rfl⟩
    | false =>
      -- the last two trials have read the same value for the same frame
      have hsame : t.frame = b.frame ∧ v.read t.memory = v.read b.memory :=
        ⟨hframe b (by simp) t (by simp) hb, hreading b (by simp) t (by simp) hb⟩
      have hkept : (trials ++ [b]).filter (·.shown) = trials.filter (·.shown) := by simp [hb]
      refine ⟨v.read b.memory, ?_⟩
      rw [hkept, observeAll_concat, observeAll_concat, hsame.1, hsame.2,
        VariableState.observe_again]

/-- The previous reading is that of the trial before. -/
theorem previous_observeAll :
    (v.observeAll s (trials ++ [last] ++ [t])).previous = v.read last.memory := by
  rw [observeAll_concat, observeAll_concat,
    VariableState.previous_observe VariableState.seen_observe, VariableState.last_observe]

theorem report_shown (hframes : (trials ++ [t]).IsChain Trial.SameFrame)
    (h : v.Forgets trials (trials ++ [t])) :
    (v.observeAll s (trials ++ [t])).report v.kind =
      (v.observeAll s (trials.filter (·.shown) ++ [t])).report v.kind := by
  unfold Forgets at h
  cases hkind : v.kind with
  | capture =>
    simp only [VariableState.report]
    rw [observeAll_concat, observeAll_concat, VariableState.last_observe,
      VariableState.last_observe]
  | capturePrev =>
    rw [hkind] at h
    induction trials using List.reverseRecOn with
    | nil => rfl
    | append_singleton trials b _ =>
      have hb : b.shown = true := h b List.getLast?_concat
      have hkept : (trials ++ [b]).filter (·.shown) = trials.filter (·.shown) ++ [b] := by simp [hb]
      simp only [VariableState.report]
      rw [hkept, previous_observeAll, previous_observeAll]
  | transition | transitionCount | transitionPrev =>
    rw [hkind] at h
    obtain ⟨p, hp⟩ := observeAll_shown s hframes h
    rw [hp]
    rfl

end Variable

namespace MemoryTracker

variable {m : MemoryTracker} {trials : List Trial} {last t : Trial} {id : String}

theorem valueAfter_shown (hframes : (trials ++ [t]).IsChain Trial.SameFrame)
    (hid : ∀ v s, m.supplier? id = some (v, s) → v.Forgets trials (trials ++ [t])) :
    m.valueAfter (trials ++ [t]) id = m.valueAfter (trials.filter (·.shown) ++ [t]) id := by
  funext old
  unfold valueAfter
  cases hm : m.supplier? id with
  | none => rfl
  | some supplier =>
    obtain ⟨v, s⟩ := supplier
    simp only [List.append_eq_nil_iff, List.cons_ne_nil, and_false, if_false]
    rw [Variable.report_shown hframes (hid v s hm)]

theorem valueAfter_previous {v : Variable} {s : VariableState} {old : Single}
    (hm : m.supplier? id = some (v, s)) (hkind : v.kind = .capturePrev) :
    m.valueAfter (trials ++ [last] ++ [t]) id old = .ofNat (v.read last.memory).toNat := by
  unfold valueAfter
  rw [hm]
  simp only [List.append_eq_nil_iff, List.cons_ne_nil, and_false, if_false]
  rw [hkind, VariableState.report, Variable.previous_observeAll]

end MemoryTracker

/-- What decides how a call bears on the tracking of variables: whether a frame waits, its number,
and the memory. -/
structure Clock where
  waiting : Bool
  frame : Nat
  memory : List UInt8

namespace Clock

variable {δ : Type} [Adjustable δ]

/-- The trial that a call amounts to when it is answered. -/
def trial (k : Clock) : HostCall δ → Bool → List Trial
  | .render, answer => if k.waiting then [⟨k.frame, k.memory, answer⟩] else []
  | _, _ => []

/-- What there is after a call. -/
def tick (k : Clock) : HostCall δ → Bool → Clock
  | .submit _, true => { k with waiting := true }
  | .setMemory memory, _ => { k with memory }
  | .render, true => if k.waiting then { k with waiting := false, frame := k.frame + 1 } else k
  | _, _ => k

/-- The trials that answered calls amount to. -/
def trials (k : Clock) : List (HostCall δ × Bool) → List Trial
  | [] => []
  | (call, answer) :: log => k.trial call answer ++ (k.tick call answer).trials log

/-- Whether a call is anything else than a try that showed nothing. -/
def isKept : HostCall δ × Bool → Bool
  | (.render, false) => false
  | _ => true

/-- Without the tries that showed nothing, the others stay as they are. -/
theorem trials_kept (k : Clock) (log : List (HostCall δ × Bool)) :
    k.trials (log.filter isKept) = (k.trials log).filter (·.shown) := by
  induction log generalizing k with
  | nil => rfl
  | cons entry log ih =>
    obtain ⟨call, answer⟩ := entry
    cases call with
    | render =>
      cases answer with
      | false =>
        have hnone : (k.trial (.render : HostCall δ) false).filter (·.shown) = [] := by
          cases hk : k.waiting <;> simp [trial, hk]
        rw [List.filter_cons_of_neg (by simp [isKept]), ih, trials, List.filter_append, hnone]
        rfl
      | true =>
        have hall : (k.trial (.render : HostCall δ) true).filter (·.shown) =
            k.trial (.render : HostCall δ) true := by
          cases hk : k.waiting <;> simp [trial, hk]
        rw [List.filter_cons_of_pos rfl, trials, trials, ih, List.filter_append, hall]
    | submit | setViewport | setRotation | setDirection | setTracker | setMemory | adjust =>
      rw [List.filter_cons_of_pos rfl, trials, trials, ih]
      rfl

/-- The number of a frame does not change before the frame has been shown. -/
theorem trials_sameFrame (k : Clock) (log : List (HostCall δ × Bool)) :
    (k.trials log).IsChain Trial.SameFrame ∧ ∀ t ∈ (k.trials log).head?, t.frame = k.frame := by
  induction log generalizing k with
  | nil => exact ⟨.nil, nofun⟩
  | cons entry log ih =>
    obtain ⟨call, answer⟩ := entry
    obtain ⟨hchain, hhead⟩ := ih (k.tick call answer)
    cases call with
    | render =>
      cases hk : k.waiting with
      | false =>
        have htick : k.tick (.render : HostCall δ) answer = k := by
          cases answer <;> simp [tick, hk]
        simp only [trials, trial, hk, htick] at hchain hhead ⊢
        exact ⟨hchain, hhead⟩
      | true =>
        simp only [trials, trial, hk, if_true, List.singleton_append]
        refine ⟨List.isChain_cons.mpr ⟨fun t ht hdropped => ?_, hchain⟩, ?_⟩
        · have hanswer : answer = false := hdropped
          rw [hhead t ht, hanswer]
          rfl
        · intro t ht
          obtain rfl : _ = t := Option.some.inj ht
          rfl
    | submit => cases answer <;> exact ⟨hchain, hhead⟩
    | setViewport | setRotation | setDirection | setTracker | setMemory | adjust =>
      exact ⟨hchain, hhead⟩

end Clock

namespace Session

variable {δ : Type} [GpuDevice δ] [Adjustable δ]

/-- Whether a call does what it is asked for: handing a frame in can fail, and showing it too. -/
def answer (s : Session δ) : HostCall δ → Bool
  | .submit frame =>
    match Chain.submit frame s.chain with
    | .ok _ _ => true
    | .error _ _ => false
  | .render => s.chain.render.1
  | _ => true

/-- Calls and how they are answered. -/
def log (s : Session δ) : List (HostCall δ) → List (HostCall δ × Bool)
  | [] => []
  | call :: calls => (call, s.answer call) :: (s.step call).log calls

theorem map_log (s : Session δ) (calls : List (HostCall δ)) : (s.log calls).map (·.1) = calls := by
  induction calls generalizing s with
  | nil => rfl
  | cons call calls ih => rw [log, List.map_cons, ih]

theorem log_concat (s : Session δ) (calls : List (HostCall δ)) (call : HostCall δ) :
    s.log (calls ++ [call]) = s.log calls ++ [(call, (s.run calls).answer call)] := by
  induction calls generalizing s with
  | nil => rfl
  | cons first calls ih =>
    rw [List.cons_append, log, log, ih]
    rfl

end Session

/-- What there is of a chain for its calls to change. -/
def Chain.clock {δ : Type} (c : Chain δ) : Clock := ⟨c.pending, c.frameCount, c.trackedMemory⟩

namespace Session

variable {δ : Type} [GpuDevice δ] [Adjustable δ] {s : Session δ} {m : MemoryTracker}

theorem step_clock (h : s.chain.tracker = some (.memory m)) (call : HostCall δ)
    (hcall : ∀ tracker, call ≠ .setTracker tracker) :
    (s.step call).chain.clock = s.chain.clock.tick call (s.answer call) := by
  cases call with
  | submit frame =>
    have hsubmit := Chain.submit_ends frame s.chain
    cases hc : Chain.submit frame s.chain with
    | ok _ c =>
      obtain ⟨device, rfl⟩ := hsubmit.of_ok hc
      simp only [step, answer, hc]
      rfl
    | error _ c =>
      obtain ⟨device, rfl⟩ := hsubmit.of_error hc
      simp only [step, answer, hc]
      rfl
  | setMemory memory =>
    simp only [step, Chain.changeMemory, h]
    rfl
  | render =>
    cases hpending : s.chain.pending with
    | false =>
      simp only [step, answer, s.chain.render_repeated hpending, Chain.clock, Clock.tick, hpending]
      rfl
    | true =>
      obtain ⟨r, _, hrender⟩ := s.chain.render_pending hpending
      obtain ⟨htracker, _⟩ := Chain.refreshTracked_memory h false
      have hmemory : s.chain.refreshTracked.trackedMemory = s.chain.trackedMemory := by
        rw [Chain.trackedMemory_eq htracker, Chain.trackedMemory_eq h]
        rfl
      have hdrew : (s.chain.drew r).clock = s.chain.clock := by
        have hmemory' : (s.chain.drew r).trackedMemory = s.chain.trackedMemory := hmemory
        obtain ⟨tracker, tracked, hc⟩ := s.chain.refreshTracked_eq
        rw [Chain.clock, hmemory', Chain.drew, hc]
        rfl
      cases hshown : r.1.isPresented with
      | false =>
        simp only [step, answer, hrender, hshown, Bool.false_eq_true, if_false]
        exact hdrew
      | true =>
        have hwaiting : s.chain.clock.waiting = true := hpending
        simp only [step, answer, hrender, hshown, if_true, Clock.tick, hwaiting]
        exact congrArg (fun k : Clock =>
          { k with waiting := false, frame := s.chain.frameCount + 1 })
          hdrew
  | setTracker tracker => exact absurd rfl (hcall tracker)
  | setViewport | setRotation | setDirection | adjust => rfl

theorem trials_eq (h : s.chain.tracker = some (.memory m)) (calls : List (HostCall δ))
    (hcalls : ∀ tracker, .setTracker tracker ∉ calls) :
    s.trials calls = s.chain.clock.trials (s.log calls) := by
  induction calls generalizing s m with
  | nil => rfl
  | cons call calls ih =>
    have hcall (tracker) : call ≠ .setTracker tracker := by
      rintro rfl
      exact hcalls tracker List.mem_cons_self
    have htrial : s.trial call = s.chain.clock.trial call (s.answer call) := by
      cases call <;> rfl
    have hnext := (step_tracked h call hcall).1
    rw [trials, log, Clock.trials, htrial, ih hnext fun tracker hmem =>
      hcalls tracker (List.mem_cons_of_mem _ hmem), step_clock h call hcall]

/-- The trials of the same calls without those that showed nothing, if the others go as they did. -/
theorem trials_kept (h : s.chain.tracker = some (.memory m)) (calls : List (HostCall δ))
    (hcalls : ∀ tracker, .setTracker tracker ∉ calls)
    (hkept : let kept := (s.log calls).filter Clock.isKept; s.log (kept.map (·.1)) = kept) :
    let kept := ((s.log calls).filter Clock.isKept).map (·.1)
    (∀ tracker, .setTracker tracker ∉ kept) ∧
      s.trials kept = (s.trials calls).filter (·.shown) := by
  intro kept
  have hsame (tracker) : .setTracker tracker ∉ kept := by
    intro hmem
    refine hcalls tracker ?_
    rw [← s.map_log calls]
    exact (List.filter_sublist.map _).subset hmem
  exact ⟨hsame,
    by rw [trials_eq h kept hsame, hkept, Clock.trials_kept, ← trials_eq h calls hcalls]⟩

end Session

/-- Drawn by the passes of a preset, these draws have the values that `c` shows of the variables in
all members that are named after one. -/
structure Chain.TrackedIn {δ : Type} (c : Chain δ) (preset : Preset) (files : FileSystem)
    (draws : List RecordedDraw) : Prop where
  count : draws.length = preset.passes.length
  members : ∀ (i : Nat) (draw : RecordedDraw), draws[i]? = some draw →
    ∃ pass program, preset.Runs files i pass program ∧
      ∀ f ∈ program.fields, ∀ id, f.role = .tracked id → id ∈ preset.vars.map (·.id) →
        ∃ x, draw.uniformAt f.offset = some x ∧ c.trackedOf id = some x

theorem Session.shown_tracked {device : Recorder} {files : FileSystem} {preset : Preset}
    {settings : ChainSettings} {c₀ : Chain Recorder} (hdevice : device.Reachable)
    (hbuild : Chain.build device files preset settings = .ok c₀)
    (calls : List (HostCall Recorder)) :
    let c := ((start c₀).run calls).chain
    c.pending = true → c.render.1 = true →
      ∃ draws, c.render.2.device.frames = c.device.frames ++ [draws] ∧
        c.render.2.TrackedIn preset files draws := by
  intro c hpending hyes
  obtain ⟨draws, hframes, hlength, hdraws⟩ := shown_members hdevice hbuild calls hpending hyes
  refine ⟨draws, hframes, hlength, fun i draw hdraw => ?_⟩
  obtain ⟨pass, program, source, hruns, _, hmembers⟩ := hdraws i draw hdraw
  refine ⟨pass, program, hruns, fun f hf id hrole hid => ?_⟩
  obtain ⟨hvalued, hids⟩ := Chain.build_valued hbuild
  have hids' : c.render.2.varIds = preset.vars.map (·.id) :=
    (((start c₀).run_continues calls).trans c.render_continues).varIds.trans hids
  obtain ⟨j, hj⟩ : ∃ j, (preset.vars.map (·.id)).findIdx? (· == id) = some j :=
    ⟨_, List.findIdx?_eq_some_of_exists ⟨id, hid, beq_self_eq_true id⟩⟩
  have hbytes := hmembers f hf (.tracked j) (by rw [hrole, BindingTable.valueOf?]; exact hj ▸ rfl)
  have hrendered := run_valued (s := start c₀) hvalued (calls ++ [.render])
  rw [run_append] at hrendered
  have hrendered : c.render.2.Valued := hrendered
  obtain ⟨x, hx⟩ := hrendered.trackedOf (hids' ▸ hid)
  refine ⟨x, RecordedDraw.uniformAt_of_bytes ?_, hx⟩
  rw [hrole] at hbytes
  rw [Chain.trackedOf, hids', hj, Option.bind_some] at hx
  refine hbytes.trans ?_
  rw [BindingTable.bytesOf, Session.params, hx]
  rfl

/-- A program with members for two tracked variables. -/
def Program.watching : String := "
struct Params \x7b mvp: mat4x4<f32>, lives: f32, hits: f32 \x7d
@group(0) @binding(0) var<uniform> params: Params;
@vertex fn vs_main() -> @builtin(position) vec4<f32> \x7b return params.mvp[0]; \x7d
@fragment fn fs_main() -> @location(0) vec4<f32> \x7b return vec4<f32>(params.lives); \x7d
"

set_option maxRecDepth 100000 in
theorem Program.fields_watching : ∃ p, ofText "inline" watching = .ok p ∧
    (∃ f ∈ p.fields, f.role = .tracked "lives" ∧ f.offset = 64) ∧
    ∃ f ∈ p.fields, f.role = .tracked "hits" ∧ f.offset = 68 :=
  interface_ofText rfl (by decide +kernel)

/-- A pass with this program, and a byte of memory watched in two ways. -/
def Preset.watching : Preset where
  passes := [{ shader := .inline Program.watching }]
  vars := [{ id := "lives", kind := .capturePrev, address := 0 },
    { id := "hits", kind := .transitionCount, address := 0 }]

theorem Preset.watching_runsOnly : ∃ program,
    watching.RunsOnly .empty { shader := .inline Program.watching } program ∧
      (∃ f ∈ program.fields, f.role = .tracked "lives" ∧ f.offset = 64) ∧
      ∃ f ∈ program.fields, f.role = .tracked "hits" ∧ f.offset = 68 := by
  obtain ⟨p, hp, hfields⟩ := Program.fields_watching
  have hrules (last : Bool) :
      (Pass.scaleRules { shader := .inline Program.watching } last).validate = .ok () := by
    cases last <;> rfl
  exact ⟨p, ⟨rfl, rfl, rfl, hrules, _, _, rfl, hp⟩, hfields⟩

/-- The only draw has both values. -/
theorem Preset.watching_reads {δ : Type} {c : Chain δ} {draws : List RecordedDraw}
    (h : c.TrackedIn watching .empty draws) : ∃ draw, draws = [draw] ∧
      draw.uniformAt 64 = c.trackedOf "lives" ∧ draw.uniformAt 68 = c.trackedOf "hits" := by
  obtain ⟨draw, rfl⟩ := List.length_eq_one_iff.mp h.count
  obtain ⟨pass, program, hruns, hmembers⟩ := h.members 0 draw rfl
  obtain ⟨_, honly, ⟨f, hf, hlives, hoffset⟩, f', hf', hhits, hoffset'⟩ := watching_runsOnly
  obtain ⟨_, rfl⟩ := honly.runs_eq hruns
  obtain ⟨x, hread, hvalue⟩ := hmembers f hf _ hlives (by decide)
  obtain ⟨x', hread', hvalue'⟩ := hmembers f' hf' _ hhits (by decide)
  rw [hoffset] at hread
  rw [hoffset'] at hread'
  exact ⟨draw, rfl, hread.trans hvalue.symm, hread'.trans hvalue'.symm⟩

/-- A tracker of its variables that has seen nothing yet. -/
def MemoryTracker.watching (memory : List UInt8) : MemoryTracker :=
  ⟨memory, Preset.watching.vars.map fun v => (v, {})⟩

namespace HostCall

/-- A pixel comes to wait, and variables are tracked. -/
def watchedPixel : List (HostCall Recorder) :=
  [.setViewport { width := 1, height := 1 }, .submit .pixel, .setTracker (.memory (.watching [5]))]

/-- The pixel is shown, and another one after it for which the memory has been changed. -/
def twoPixels : List (HostCall Recorder) :=
  [.render, .submit .pixel, .setMemory [9], .setViewport {},
   .setViewport { width := 1, height := 1 }]

/-- The same, but the other one is tried before there is somewhere to draw. -/
def twoPixelsWithTrial : List (HostCall Recorder) :=
  [.render, .submit .pixel, .setMemory [9], .setViewport {}, .render,
    .setViewport { width := 1, height := 1 }]

theorem same_tracker (tracker : Tracker) :
    .setTracker tracker ∉ twoPixelsWithTrial ++ [.render] := by
  simp [twoPixelsWithTrial]

end HostCall

namespace Session

theorem PixelWaits.shown_watching {c₀ : Chain Recorder} {s : Session Recorder}
    (hbuild : Chain.build ({} : Recorder) .empty .watching {} = .ok c₀) (h : s.PixelWaits c₀)
    (hviewport : s.chain.viewport = { width := 1, height := 1 }) : s.chain.render.1 = true := by
  refine h.shown hbuild hviewport (by decide) fun i hi => ?_
  have hcount : Preset.watching.passes.length = 1 := rfl
  omega

/-- Where there is nowhere to draw, a pixel is tried in vain, and then waits for another
viewport. -/
theorem PixelWaits.tried_in_vain {c₀ : Chain Recorder} {preset : Preset} {s : Session Recorder}
    (hbuild : Chain.build ({} : Recorder) .empty preset {} = .ok c₀) (h : s.PixelWaits c₀)
    (viewport : Viewport) :
    (s.step (.setViewport {})).chain.render.1 = false ∧
      (((s.step (.setViewport {})).step .render).step (.setViewport viewport)).PixelWaits c₀ := by
  have hempty := h.step_of_same (.setViewport {}) rfl rfl rfl
  rcases hempty.shows_or_stops hbuild with ⟨_, hpos, _⟩ | ⟨k, e, hno, hreport, _⟩
  · exact absurd rfl hpos.1
  · exact ⟨hno, (hempty.again hbuild hreport).1.step_of_same (.setViewport viewport) rfl rfl rfl⟩

/-- A pixel that waits is shown, and with other memory the next one waits in its place. -/
theorem PixelWaits.next_waits {c₀ : Chain Recorder} {preset : Preset} {s : Session Recorder}
    (hbuild : Chain.build ({} : Recorder) .empty preset {} = .ok c₀) (h : s.PixelWaits c₀)
    (hyes : s.chain.render.1 = true) (memory : List UInt8) :
    let t := ((s.step .render).step (.submit .pixel)).step (.setMemory memory)
    t.PixelWaits c₀ ∧ ∀ rest, s.log ([.render, .submit .pixel, .setMemory memory] ++ rest) =
      [(.render, true), (.submit .pixel, true), (.setMemory memory, true)] ++ t.log rest := by
  intro t
  obtain ⟨c, hsubmit, hnext⟩ := h.next hbuild
  have hrender : s.answer .render = true := hyes
  have hanswer : (s.step .render).answer (.submit .pixel) = true := by
    have hchain : (s.step .render).chain = s.chain.render.2 := rfl
    simp only [answer, hchain, hsubmit]
  refine ⟨hnext.step_of_same (.setMemory memory) ?_ ?_ rfl, fun rest => ?_⟩
  · simp only [step, Chain.changeMemory]
    split <;> rfl
  · simp only [step, Chain.changeMemory]
    split <;> rfl
  · simp only [List.cons_append, List.nil_append, log, hrender, hanswer]
    rfl

/-- How the calls go from when variables are tracked. -/
theorem two_pixels_log :
    ∃ c₀, Chain.build ({} : Recorder) .empty .watching {} = .ok c₀ ∧
      let s := (start c₀).run HostCall.watchedPixel
      s.chain.tracker = some (.memory (.watching [5])) ∧
      s.chain.clock = ⟨true, s.chain.frameCount, [5]⟩ ∧
      (s.run HostCall.twoPixelsWithTrial).chain.pending = true ∧
      (s.run HostCall.twoPixelsWithTrial).chain.render.1 = true ∧
      (s.run HostCall.twoPixels).chain.pending = true ∧
      (s.run HostCall.twoPixels).chain.render.1 = true ∧
      s.log HostCall.twoPixelsWithTrial =
        [(.render, true), (.submit .pixel, true), (.setMemory [9], true), (.setViewport {}, true),
          (.render, false), (.setViewport { width := 1, height := 1 }, true)] ∧
      s.log (HostCall.twoPixels ++ [.render]) =
        [(.render, true), (.submit .pixel, true), (.setMemory [9], true), (.setViewport {}, true),
          (.setViewport { width := 1, height := 1 }, true), (.render, true)] := by
  obtain ⟨_, honly, _⟩ := Preset.watching_runsOnly
  obtain ⟨c₀, hbuild, hfirst, hviewport, _⟩ :=
    loaded_pixel_waits honly.loads { width := 1, height := 1 }
  refine ⟨c₀, hbuild, ?_⟩
  have hwaits : ((start c₀).run HostCall.watchedPixel).PixelWaits c₀ :=
    hfirst.step_of_same (.setTracker (.memory (.watching [5]))) rfl rfl rfl
  have htracker : ((start c₀).run HostCall.watchedPixel).chain.tracker =
    some (.memory (.watching [5])) := rfl
  have hviewport : ((start c₀).run HostCall.watchedPixel).chain.viewport = _ := hviewport
  generalize (start c₀).run HostCall.watchedPixel = s at *
  have hyes := hwaits.shown_watching hbuild hviewport
  -- with the memory changed, the second pixel waits in a session `t`
  obtain ⟨hsecond, hlog⟩ := hwaits.next_waits hbuild hyes [9]
  have hafter (rest : List (HostCall Recorder)) :
      s.run ([.render, .submit .pixel, .setMemory [9]] ++ rest) =
        (((s.step .render).step (.submit .pixel)).step (.setMemory [9])).run rest := rfl
  generalize ((s.step .render).step (.submit .pixel)).step (.setMemory [9]) = t at *
  have hback := (hsecond.step_of_same (.setViewport {}) rfl rfl rfl).step_of_same
    (.setViewport { width := 1, height := 1 }) rfl rfl rfl
  obtain ⟨hno, hagain⟩ := hsecond.tried_in_vain hbuild { width := 1, height := 1 }
  have hend : s.run HostCall.twoPixelsWithTrial = ((t.step (.setViewport {})).step .render).step
      (.setViewport { width := 1, height := 1 }) :=
    hafter [.setViewport {}, .render, .setViewport _]
  have hstraight : s.run HostCall.twoPixels =
      (t.step (.setViewport {})).step (.setViewport { width := 1, height := 1 }) :=
    hafter [.setViewport {}, .setViewport _]
  dsimp only
  rw [hend, hstraight]
  refine ⟨htracker, ?_, hagain.pending, hagain.shown_watching hbuild rfl, hback.pending,
    hback.shown_watching hbuild rfl, ?_, ?_⟩
  · rw [Chain.clock, hwaits.pending, Chain.trackedMemory_eq htracker]
    rfl
  · refine (hlog [.setViewport {}, .render, .setViewport _]).trans ?_
    simp only [log, answer, hno]
    rfl
  · refine (hlog [.setViewport {}, .setViewport _, .render]).trans ?_
    simp only [log, answer, hback.shown_watching hbuild rfl]
    rfl

/-- A scenario in which the second of two frames is dropped at its first trial. -/
structure TriesTwice (s : Session Recorder) : Prop where
  tracker : s.chain.tracker = some (.memory (.watching [5]))
  pending : (s.run HostCall.twoPixelsWithTrial).chain.pending = true
  shown : (s.run HostCall.twoPixelsWithTrial).chain.render.1 = true
  keptPending : (s.run HostCall.twoPixels).chain.pending = true
  keptShown : (s.run HostCall.twoPixels).chain.render.1 = true
  trials : s.trials HostCall.twoPixelsWithTrial =
    [⟨s.chain.frameCount, [5], true⟩, ⟨s.chain.frameCount + 1, [9], false⟩]
  allTrials : s.trials (HostCall.twoPixelsWithTrial ++ [.render]) =
    [⟨s.chain.frameCount, [5], true⟩, ⟨s.chain.frameCount + 1, [9], false⟩,
      ⟨s.chain.frameCount + 1, [9], true⟩]
  kept : ((s.log (HostCall.twoPixelsWithTrial ++ [.render])).filter Clock.isKept).map (·.1) =
    HostCall.twoPixels ++ [.render]
  keptLog : let kept := (s.log (HostCall.twoPixelsWithTrial ++ [.render])).filter Clock.isKept
    s.log (kept.map (·.1)) = kept

theorem pixels_try_twice :
    ∃ c₀, Chain.build ({} : Recorder) .empty .watching {} = .ok c₀ ∧
      ((start c₀).run HostCall.watchedPixel).TriesTwice := by
  obtain ⟨c₀, hbuild, htracker, hclock, hpending, hyes, hpending', hyes', hlog, hkept⟩ :=
    two_pixels_log
  refine ⟨c₀, hbuild, ?_⟩
  generalize (start c₀).run HostCall.watchedPixel = s at *
  have hcalls (tracker) : HostCall.setTracker tracker ∉ HostCall.twoPixelsWithTrial := by
    simp [HostCall.twoPixelsWithTrial]
  have hanswer : (s.run HostCall.twoPixelsWithTrial).answer .render = true := hyes
  have hall := s.log_concat HostCall.twoPixelsWithTrial .render
  rw [hlog, hanswer] at hall
  refine ⟨htracker, hpending, hyes, hpending', hyes', ?_, ?_, ?_, ?_⟩
  · rw [trials_eq htracker _ hcalls, hlog, hclock]
    rfl
  · rw [trials_eq htracker _ HostCall.same_tracker, hall, hclock]
    rfl
  · rw [hall]
    rfl
  · rw [hall]
    exact hkept

end Session

variable {δ : Type} [GpuDevice δ] [Adjustable δ] {device : δ} {files : FileSystem} {preset : Preset}
  {settings : ChainSettings} {c₀ : Chain δ}

/-- A variable of the previous reading has what was read when a frame was last tried, also if that
was the same frame and it was dropped. All variables that forget the trials that showed nothing have
the values in a frame that is shown which they have there after the same calls without such trials,
if the other calls go as they did. On any device that does as a recorder does, these are the values
that the draws of the frame are made with. -/
theorem shown_values_forget_dropped_trials
    (hbuild : Chain.build device files preset settings = .ok c₀)
    (before calls : List (HostCall δ)) :
    let s := (Session.start c₀).run before
    let shown := (s.run calls).chain.render.2
    ∀ m, s.chain.tracker = some (.memory m) → (∀ tracker, .setTracker tracker ∉ calls) →
      (s.run calls).chain.pending = true → (s.run calls).chain.render.1 = true →
      (∀ id v state last, id ∈ preset.vars.map (·.id) → m.supplier? id = some (v, state) →
        v.kind = .capturePrev → (s.trials calls).getLast? = some last →
          shown.trackedOf id = some (.ofNat (v.read last.memory).toNat)) ∧
      (let kept := (s.log (calls ++ [.render])).filter Clock.isKept
      s.log (kept.map (·.1)) = kept → ∀ id, (∀ v state, m.supplier? id = some (v, state) →
          v.Forgets (s.trials calls) (s.trials (calls ++ [.render]))) →
        shown.trackedOf id = (s.run (kept.map (·.1))).chain.trackedOf id) ∧
      ∀ recorder : HostMap δ Recorder, (recorder.map device).Reachable →
        ∃ draws, (recorder.map shown.device).frames =
            (recorder.map (s.run calls).chain.device).frames ++ [draws] ∧
          shown.TrackedIn preset files draws := by
  intro s shown m htracker hcalls hpending hyes
  have hcalls' (tracker) : .setTracker tracker ∉ calls ++ [.render] := by simp [hcalls tracker]
  have hshown : shown = (s.run (calls ++ [.render])).chain := by rw [Session.run_append]; rfl
  obtain ⟨t, ht, htshown⟩ : ∃ t : Trial, s.trials (calls ++ [.render]) = s.trials calls ++ [t] ∧
      t.shown = true := by
    refine ⟨⟨(s.run calls).chain.frameCount, (s.run calls).chain.trackedMemory,
      (s.run calls).chain.render.1⟩, ?_, hyes⟩
    rw [Session.trials_concat, Session.trial, if_pos hpending]
  obtain ⟨_, hvalues⟩ := Session.run_tracked htracker (calls ++ [.render]) hcalls'
  refine ⟨?_, ?_, ?_⟩
  · intro id v state last hid hm hkind hlast
    obtain ⟨earlier, hearlier⟩ := List.getLast?_eq_some_iff.mp hlast
    obtain ⟨hvalued, hids⟩ := Chain.build_valued hbuild
    have hids' : s.chain.varIds = preset.vars.map (·.id) :=
      ((Session.start c₀).run_continues before).varIds.trans hids
    obtain ⟨old, hold⟩ := (Session.run_valued (s := Session.start c₀) hvalued before).trackedOf
      (hids' ▸ hid)
    rw [hshown, hvalues, hold, ht, hearlier, Option.map_some,
      MemoryTracker.valueAfter_previous hm hkind]
  · intro kept hkept id hid
    obtain ⟨hsame, htrials⟩ := Session.trials_kept htracker (calls ++ [.render]) hcalls' hkept
    obtain ⟨_, hvalues'⟩ := Session.run_tracked htracker _ hsame
    have hframes := (s.chain.clock.trials_sameFrame (s.log (calls ++ [.render]))).1
    rw [← Session.trials_eq htracker _ hcalls', ht] at hframes
    rw [ht] at hid hvalues
    rw [htrials, ht, List.filter_append, List.filter_cons_of_pos htshown,
      List.filter_nil] at hvalues'
    rw [hshown, hvalues, hvalues', MemoryTracker.valueAfter_shown hframes hid]
  · intro recorder hdevice
    obtain ⟨hthere, hrun, hrender⟩ :=
      Session.render_run_through recorder hbuild (before ++ calls)
    have hsame : (Session.start c₀).run (before ++ calls) = s.run calls :=
      Session.run_append _ _ _
    have htracked :=
      Session.shown_tracked hdevice hthere ((before ++ calls).map (·.through recorder))
    simp only [hrender] at htracked
    simp only [hrun, hsame] at htracked
    obtain ⟨draws, hframes, hcount, hmembers⟩ := htracked hpending hyes
    exact ⟨draws, hframes, hcount, hmembers⟩

/-- Another frame is shown after it was dropped: one variable has what was read for the frame that
was dropped, the other one what it would have without that. Its draw reads both. -/
theorem second_pixel_forgets_dropped_trial :
    ∃ c₀, Chain.build ({} : Recorder) .empty .watching {} = .ok c₀ ∧
      let s := (Session.start c₀).run HostCall.watchedPixel
      let c := (s.run HostCall.twoPixelsWithTrial).chain
      let shown := c.render.2
      shown.trackedOf "lives" = some (.ofNat 9) ∧
        shown.trackedOf "hits" =
          (s.run (HostCall.twoPixels ++ [.render])).chain.trackedOf "hits" ∧
        ∃ draw, shown.device.frames = c.device.frames ++ [[draw]] ∧
          draw.uniformAt 64 = some (.ofNat 9) ∧ draw.uniformAt 68 = shown.trackedOf "hits" := by
  obtain ⟨c₀, hbuild, h⟩ := Session.pixels_try_twice
  refine ⟨c₀, hbuild, ?_⟩
  have hcalls (tracker) : HostCall.setTracker tracker ∉ HostCall.twoPixelsWithTrial := by
    simp [HostCall.twoPixelsWithTrial]
  obtain ⟨hprevious, hothers, hrecorded⟩ := shown_values_forget_dropped_trials hbuild
    HostCall.watchedPixel HostCall.twoPixelsWithTrial _ h.tracker hcalls h.pending h.shown
  have hlives := hprevious "lives" _ _ _ (by decide) rfl rfl (by rw [h.trials]; rfl)
  have hsame := hothers h.keptLog
  rw [h.kept, h.allTrials] at hsame
  obtain ⟨_, hframes, htracked⟩ := hrecorded (.refl Recorder) (.fresh 8192)
  obtain ⟨draw, rfl, hread, hread'⟩ := Preset.watching_reads htracked
  refine ⟨hlives, hsame "hits" fun v state hm => ?_, draw, hframes, hread.trans hlives, hread'⟩
  obtain rfl : v = { id := "hits", kind := .transitionCount, address := 0 } :=
    (congrArg Prod.fst (Option.some.inj hm)).symm
  exact Variable.forgets_of_steady (by simp) (.inl (by decide))

/-- So a dropped trial can be told from what is shown, even if memory stays as it is until the frame
is tried again. -/
theorem dropped_trial_is_seen :
    ∃ c₀, Chain.build ({} : Recorder) .empty .watching {} = .ok c₀ ∧
      let s := (Session.start c₀).run HostCall.watchedPixel
      let calls := HostCall.twoPixelsWithTrial ++ [.render]
      let kept := (s.log calls).filter Clock.isKept
      s.log (kept.map (·.1)) = kept ∧
        (s.trials calls).IsChain (fun a b => a.shown = false → b.memory = a.memory) ∧
        (s.run calls).chain.trackedOf "lives" = some (.ofNat 9) ∧
        (s.run (kept.map (·.1))).chain.trackedOf "lives" = some (.ofNat 5) ∧
        ∃ draw draw', (s.run calls).chain.device.frames.getLast? = some [draw] ∧
          (s.run (kept.map (·.1))).chain.device.frames.getLast? = some [draw'] ∧
          draw.uniformAt 64 = some (.ofNat 9) ∧ draw'.uniformAt 64 = some (.ofNat 5) := by
  obtain ⟨c₀, hbuild, h⟩ := Session.pixels_try_twice
  obtain ⟨hvalued, hids⟩ := Chain.build_valued hbuild
  refine ⟨c₀, hbuild, ?_⟩
  have hids' : ((Session.start c₀).run HostCall.watchedPixel).chain.varIds = _ :=
    ((Session.start c₀).run_continues HostCall.watchedPixel).varIds.trans hids
  have hlives : "lives" ∈ ((Session.start c₀).run HostCall.watchedPixel).chain.varIds := by
    rw [hids']
    decide
  obtain ⟨old, hold⟩ := (Session.run_valued (s := Session.start c₀) hvalued
    HostCall.watchedPixel).trackedOf hlives
  have hrecorded (calls : List (HostCall Recorder)) :=
    Session.shown_tracked (.fresh 8192) hbuild (HostCall.watchedPixel ++ calls)
  simp only [Session.run_append] at hrecorded
  generalize (Session.start c₀).run HostCall.watchedPixel = s at *
  obtain ⟨hsame, htrials⟩ := Session.trials_kept h.tracker _ HostCall.same_tracker h.keptLog
  have hseen : (s.run (HostCall.twoPixelsWithTrial ++ [.render])).chain.trackedOf "lives" =
      some (.ofNat 9) := by
    rw [(Session.run_tracked h.tracker _ HostCall.same_tracker).2, hold, h.allTrials]
    rfl
  have hunseen : (s.run (HostCall.twoPixels ++ [.render])).chain.trackedOf "lives" =
      some (.ofNat 5) := by
    rw [← h.kept, (Session.run_tracked h.tracker _ hsame).2, hold, htrials, h.allTrials]
    rfl
  -- the last frames of both runs, and what their draws read
  obtain ⟨_, hframes, htracked⟩ := hrecorded _ h.pending h.shown
  obtain ⟨_, hframes', htracked'⟩ := hrecorded _ h.keptPending h.keptShown
  obtain ⟨draw, rfl, hread, _⟩ := Preset.watching_reads htracked
  obtain ⟨draw', rfl, hread', _⟩ := Preset.watching_reads htracked'
  simp only [h.kept]
  rw [Session.run_append] at hseen hunseen
  rw [Session.run_append, Session.run_append]
  refine ⟨by rw [← h.kept]; exact h.keptLog, by rw [h.allTrials]; simp, hseen, hunseen, draw, draw',
    ?_, ?_, hread.trans hseen, hread'.trans hunseen⟩
  · exact (congrArg List.getLast? hframes).trans List.getLast?_concat
  · exact (congrArg List.getLast? hframes').trans List.getLast?_concat

end PassChain
