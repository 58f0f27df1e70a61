import Mathlib.Algebra.BigOperators.Group.Finset.Piecewise
import Mathlib.Data.List.Destutter
import PassChain.Proofs.Building
import PassChain.Proofs.TargetRequests

/-! A target is made when what is wanted of it changes, and only then. -/
namespace PassChain

open Attempt Recorder

namespace Recorder

theorem texturesCreated_releaseTexture (r : Recorder) (id : TextureId) :
    (r.releaseTexture id).stats.texturesCreated = r.stats.texturesCreated := by
  unfold releaseTexture
  split <;> rfl

theorem texturesReleased_releaseTexture {r : Recorder} {id : TextureId}
    (h : (r.texture? id).isSome) :
    (r.releaseTexture id).stats.texturesReleased = r.stats.texturesReleased + 1 := by
  rw [releaseTexture, if_pos h]

end Recorder

/-- A request for the target of a pass. -/
@[ext] structure TargetRequest where
  pass : Nat
  logical : Size
  format : TexelFormat
deriving DecidableEq, Repr

namespace TargetRequest

/-- The requests for one pass. -/
def forPass (pass : Nat) (requests : List TargetRequest) : List TargetRequest :=
  requests.filter (·.pass == pass)

/-- How often requests differ from the ones right before them. The first one does. -/
def changes (requests : List TargetRequest) : Nat := (requests.destutter (· ≠ ·)).length

theorem length_destutter'_concat {α : Type} [DecidableEq α] (b a : α) (l : List α) :
    ((l ++ [a]).destutter' (· ≠ ·) b).length =
      (l.destutter' (· ≠ ·) b).length + if (b :: l).getLast? = some a then 0 else 1 := by
  induction l generalizing b with
  | nil => by_cases hba : b = a <;> simp [hba]
  | cons c l ih =>
    rw [List.cons_append, List.getLast?_cons_cons]
    by_cases hbc : b = c
    · subst hbc
      simpa using ih b
    · rw [List.destutter'_cons_pos _ hbc, List.destutter'_cons_pos _ hbc, List.length_cons, ih,
        List.length_cons]
      omega

/-- One more request is a change unless it repeats the last one. -/
theorem changes_concat (requests : List TargetRequest) (q : TargetRequest) :
    changes (requests ++ [q]) = changes requests + if requests.getLast? = some q then 0 else 1 := by
  cases requests with
  | nil => rfl
  | cons p rest => exact length_destutter'_concat p q rest

theorem forPass_concat (pass : Nat) (requests : List TargetRequest) (q : TargetRequest) :
    forPass pass (requests ++ [q]) =
      forPass pass requests ++ if q.pass = pass then [q] else [] := by
  by_cases hq : q.pass = pass <;> simp [forPass, hq]

theorem getLast?_forPass_concat (pass : Nat) (requests : List TargetRequest) (q : TargetRequest) :
    (forPass pass (requests ++ [q])).getLast? =
      if q.pass = pass then some q else (forPass pass requests).getLast? := by
  rw [forPass_concat]
  split <;> simp

/-- Only the pass of a request can see a change in it. -/
theorem sum_changes_concat {count : Nat} (requests : List TargetRequest) {q : TargetRequest}
    (hq : q.pass < count) :
    ∑ pass ∈ Finset.range count, changes (forPass pass (requests ++ [q])) =
      ∑ pass ∈ Finset.range count, changes (forPass pass requests) +
        if (forPass q.pass requests).getLast? = some q then 0 else 1 := by
  have hpass (pass : Nat) : changes (forPass pass (requests ++ [q])) =
      changes (forPass pass requests) + if q.pass = pass then
        (if (forPass q.pass requests).getLast? = some q then 0 else 1) else 0 := by
    rw [forPass_concat]
    by_cases hsame : q.pass = pass
    · subst hsame
      rw [if_pos rfl, if_pos rfl, changes_concat]
    · rw [if_neg hsame, if_neg hsame, List.append_nil, Nat.add_zero]
  simp only [hpass, Finset.sum_add_distrib, Finset.sum_ite_eq, Finset.mem_range, if_pos hq]

end TargetRequest

/-- What can happen to a pool whose targets are asked for. -/
inductive TargetEvent where
  | request (q : TargetRequest)
  /-- the host changes what the device refuses -/
  | upset (change : FaultChange)

/-- A pool, its device, and the requests that have been granted, the first one first. -/
structure TargetSession where
  pool : TexturePool
  device : Recorder
  granted : List TargetRequest := []

namespace TargetSession

variable {s : TargetSession} {q : TargetRequest} {base count : Nat}

/-- Makes a request. -/
def ask (s : TargetSession) (q : TargetRequest) :
    Attempt Recorder (RenderTarget × TargetStatus × TexturePool) :=
  s.pool.ensureTarget q.pass q.logical q.format

/-- One event. A request that fails changes no more than the device. -/
def step (s : TargetSession) : TargetEvent → TargetSession
  | .request q =>
    match s.ask q s.device with
    | .ok (_, _, pool) device => { pool, device, granted := s.granted ++ [q] }
    | .error _ device => { s with device }
  | .upset change => { s with device := Adjustable.adjust change s.device }

/-- Events one after another. -/
def run (s : TargetSession) (events : List TargetEvent) : TargetSession := events.foldl step s

/-- The request that was granted last to a pass. -/
def last? (s : TargetSession) (pass : Nat) : Option TargetRequest :=
  (TargetRequest.forPass pass s.granted).getLast?

theorem pass_of_last? {pass : Nat} {p : TargetRequest} (h : s.last? pass = some p) :
    p.pass = pass := by
  have hp := List.mem_of_getLast? h
  simpa using (List.mem_filter.mp hp).2

/-- What the targets of a session owe to what has been granted. -/
structure Kept (base count : Nat) (s : TargetSession) : Prop where
  alive : s.pool.Alive s.device
  places : s.pool.targets.length = count
  targets : ∀ pass, (s.pool.target? pass).map (fun t => (t.logical, t.format)) =
    (s.last? pass).map fun q => (q.logical, q.format)
  created : s.device.stats.texturesCreated =
    base + ∑ pass ∈ Finset.range count, TargetRequest.changes (TargetRequest.forPass pass s.granted)

theorem Kept.last?_of_held (h : s.Kept base count) {pass : Nat} {t : RenderTarget}
    (ht : s.pool.target? pass = some t) :
    ∃ p, s.last? pass = some p ∧ p.logical = t.logical ∧ p.format = t.format := by
  have hlast := h.targets pass
  rw [ht, Option.map_some] at hlast
  obtain ⟨p, hp, heq⟩ := Option.map_eq_some_iff.mp hlast.symm
  exact ⟨p, hp, Prod.mk.inj heq⟩

theorem Kept.last?_of_empty (h : s.Kept base count) {pass : Nat}
    (ht : s.pool.target? pass = none) : s.last? pass = none := by
  have hlast := h.targets pass
  rw [ht, Option.map_none] at hlast
  exact Option.map_eq_none_iff.mp hlast.symm

/-- How a request is answered: with the target that is there if nothing has changed since the last
request that was granted to the pass, and otherwise with a new one, in place of the old one if there
was one. -/
structure Answered (s : TargetSession) (q : TargetRequest) (t : RenderTarget)
    (status : TargetStatus) (pool : TexturePool) (r : Recorder) : Prop where
  reused : status = .reused ↔
    ∃ p, s.last? q.pass = some p ∧ p.logical = q.logical ∧ p.format = q.format
  created : status = .created ↔ s.last? q.pass = none
  resized : status = .resized ↔
    ∃ p, s.last? q.pass = some p ∧ ¬ (p.logical = q.logical ∧ p.format = q.format)
  allocations : r.stats.texturesCreated =
    s.device.stats.texturesCreated + if status = .reused then 0 else 1
  releases : r.stats.texturesReleased =
    s.device.stats.texturesReleased + if status = .resized then 1 else 0
  untouched : status = .reused → pool = s.pool ∧ r = s.device
  released : status = .resized → ∃ old, s.pool.target? q.pass = some old ∧
    (s.device.texture? old.texture).isSome ∧ r.texture? old.texture = none
  fresh : status ≠ .reused → s.device.texture? t.texture = none
  reported : pool.target? q.pass = some t
  serves : t.Serves q.logical q.format
  covers : q.logical.width ≤ t.texel.width ∧ q.logical.height ≤ t.texel.height
  backed : r.texture? t.texture = some ⟨s!"pass{q.pass}-target", t.texel, t.format, true⟩
  others : ∀ pass ≠ q.pass, pool.target? pass = s.pool.target? pass ∧
    ∀ u, s.pool.target? pass = some u → r.texture? u.texture = s.device.texture? u.texture

theorem Kept.answered (h : s.Kept base count) {t : RenderTarget} {status : TargetStatus}
    {pool : TexturePool} {r : Recorder}
    (hgrants : s.pool.Grants s.device q.pass q.logical q.format (t, status, pool) r) :
    s.Answered q t status pool r := by
  have hissued := h.alive.issued
  have hnew (u : RenderTarget) (pass : Nat) (hu : s.pool.target? pass = some u) :
      u.texture ≠ ⟨s.device.nextId⟩ := by
    intro heq
    have halive := (h.alive.targets pass u hu).1
    rw [heq, hissued.texture?_next] at halive
    simp at halive
  cases hgrants with
  | kept held serves =>
    obtain ⟨p, hp, hlogical, hformat⟩ := h.last?_of_held held
    obtain ⟨hbacked, hpadded, _⟩ := h.alive.targets _ _ held
    have hsame : p.logical = q.logical ∧ p.format = q.format :=
      ⟨hlogical.trans serves.1, hformat.trans serves.2⟩
    constructor
    case reused | created | resized => simp [hp, hsame]
    case allocations | releases | untouched | released | fresh => simp
    case reported => exact held
    case serves => exact serves
    case covers => exact serves.1 ▸ TexturePool.texelSize?_covers hpadded
    case backed => exact hbacked
    case others => simp
  | made place empty padded fits =>
    have hlast := h.last?_of_empty empty
    constructor
    case reused | created | resized => simp [hlast]
    case allocations | releases | untouched | released => simp [withTexture]
    case fresh => exact fun _ => hissued.texture?_next
    case reported => rw [TexturePool.target?_withTarget place, if_pos rfl]
    case serves => exact ⟨rfl, rfl⟩
    case covers => exact TexturePool.texelSize?_covers padded
    case backed => exact (hissued.texture?_withTexture _ _).trans (if_pos rfl)
    case others =>
      intro pass hne
      refine ⟨by rw [TexturePool.target?_withTarget place, if_neg hne.symm], fun u hu => ?_⟩
      rw [hissued.texture?_withTexture, if_neg (hnew u pass hu)]
  | @replaced texel old place held unfit padded fits =>
    obtain ⟨p, hp, hlogical, hformat⟩ := h.last?_of_held held
    have hbacked := (h.alive.targets _ _ held).1
    have hold :
        ((s.device.withTexture (targetDesc q.pass texel q.format)).texture?
          old.texture).isSome := by
      rw [hissued.texture?_withTexture, if_neg (hnew old _ held), hbacked]
      rfl
    have hchanged : ¬ (p.logical = q.logical ∧ p.format = q.format) := by
      rw [hlogical, hformat]
      exact unfit
    constructor
    case reused => simpa [hp] using not_and.mp hchanged
    case created => simp [hp]
    case resized => simpa [hp] using not_and.mp hchanged
    case allocations => exact texturesCreated_releaseTexture _ _
    case releases => exact texturesReleased_releaseTexture hold
    case untouched => simp
    case fresh => exact fun _ => hissued.texture?_next
    case released =>
      refine fun _ => ⟨old, held, by rw [hbacked]; rfl, ?_⟩
      rw [texture?_releaseTexture, if_pos rfl]
    case reported => rw [TexturePool.target?_withTarget place, if_pos rfl]
    case serves => exact ⟨rfl, rfl⟩
    case covers => exact TexturePool.texelSize?_covers padded
    case backed =>
      exact (texture?_releaseTexture _ _).trans ((if_neg (hnew old _ held).symm).trans
        ((hissued.texture?_withTexture _ _).trans (if_pos rfl)))
    case others =>
      intro pass hne
      refine ⟨by rw [TexturePool.target?_withTarget place, if_neg hne.symm], fun u hu => ?_⟩
      have hapart : u.texture ≠ old.texture := fun heq => hne (h.alive.distinct _ _ _ _ hu held heq)
      rw [texture?_releaseTexture, if_neg hapart, hissued.texture?_withTexture,
        if_neg (hnew u pass hu)]

/-- A new target changes nothing but what its own pass has. -/
theorem Kept.granted (h : s.Kept base count) {t : RenderTarget} {status : TargetStatus}
    {pool : TexturePool} {r : Recorder}
    (hgrants : s.pool.Grants s.device q.pass q.logical q.format (t, status, pool) r)
    (halive : pool.Alive r) : Kept base count ⟨pool, r, s.granted ++ [q]⟩ := by
  have hanswered := h.answered hgrants
  have hplaces : pool.targets.length = s.pool.targets.length := by
    cases hgrants <;> simp [TexturePool.withTarget]
  have hlt : q.pass < count := by
    rw [← h.places, ← hplaces]
    have htarget := TexturePool.target?_eq_some hanswered.reported
    exact (List.getElem?_eq_some_iff.mp htarget).1
  refine ⟨halive, hplaces.trans h.places, fun pass => ?_, ?_⟩
  · rw [last?, TargetRequest.getLast?_forPass_concat]
    by_cases hpass : q.pass = pass
    · rw [if_pos hpass, ← hpass, hanswered.reported]
      exact congrArg some (Prod.ext hanswered.serves.1 hanswered.serves.2)
    · rw [if_neg hpass, (hanswered.others pass (Ne.symm hpass)).1]
      exact h.targets pass
  · have hrepeats : status = .reused ↔ s.last? q.pass = some q := by
      rw [hanswered.reused]
      constructor
      · rintro ⟨p, hp, hlogical, hformat⟩
        have hsame : p = q := TargetRequest.ext (pass_of_last? hp) hlogical hformat
        exact hsame ▸ hp
      · exact fun hq => ⟨q, hq, rfl, rfl⟩
    rw [hanswered.allocations, h.created, TargetRequest.sum_changes_concat _ hlt, Nat.add_assoc]
    simp only [hrepeats]
    rfl

theorem Kept.step (h : s.Kept base count) (event : TargetEvent) :
    (s.step event).Kept base count := by
  cases event with
  | request q =>
    have hends := (s.pool.ensureTarget_grants q.pass q.logical q.format s.device).and
      (h.alive.ensureTarget q.pass q.logical q.format)
    cases hask : s.ask q s.device with
    | ok answer r =>
      obtain ⟨hgrants, halive⟩ := hends.of_ok hask
      simp only [TargetSession.step, hask]
      exact h.granted hgrants halive
    | error e r =>
      obtain ⟨⟨hsame, _⟩, _⟩ := hends.of_error hask
      simp only [TargetSession.step, hask, hsame]
      exact h
  | upset change =>
    have halive : s.pool.Alive (Adjustable.adjust change s.device) := by
      have hissued := h.alive.issued
      cases change <;>
        exact h.alive.of_textures ⟨hissued.textures, hissued.buffers, hissued.programs⟩ rfl rfl
    refine ⟨halive, h.places, h.targets, ?_⟩
    cases change <;> exact h.created

theorem Kept.run (h : s.Kept base count) (events : List TargetEvent) :
    (s.run events).Kept base count := by
  induction events generalizing s with
  | nil => exact h
  | cons event events ih => exact ih (h.step event)

/-- A new pool has no targets. -/
theorem kept_create {r r₀ : Recorder} (hr : r.Issued) {maxInput : Size} {pow2 : Bool}
    {pool : TexturePool} (h : TexturePool.create count maxInput pow2 r = .ok pool r₀) :
    Kept r₀.stats.texturesCreated count ⟨pool, r₀, []⟩ := by
  obtain ⟨_, halive⟩ := (TexturePool.create_alive hr count maxInput pow2).of_ok h
  obtain ⟨_, htargets, _, _⟩ := (TexturePool.create_ends count maxInput pow2 r).of_ok h
  refine ⟨halive, by rw [htargets, List.length_replicate], fun pass => ?_, ?_⟩
  · have hempty : pool.target? pass = none := by
      rw [TexturePool.target?, htargets, List.getElem?_replicate]
      split <;> rfl
    rw [hempty]
    rfl
  · simp [TargetRequest.forPass, TargetRequest.changes]

/-- A request that fails differs from the last one that was granted. -/
theorem Kept.ask_ends (h : s.Kept base count) (q : TargetRequest) :
    (s.ask q).Ends s.device (fun answer r => s.Answered q answer.1 answer.2.1 answer.2.2 r)
      (fun e r => r = s.device ∧ s.last? q.pass ≠ some q ∧
        (count ≤ q.pass ∨ s.device.Injected e ∨ s.pool.Misfit s.device q.pass q.logical e)) := by
  refine ((s.pool.ensureTarget_grants q.pass q.logical q.format s.device).and
    (h.alive.ensureTarget q.pass q.logical q.format)).mono (fun _ _ hok => h.answered hok.1) ?_
  rintro e r ⟨⟨hsame, hunfit⟩, _, hwhy⟩
  refine ⟨hsame, fun hlast => ?_, h.places ▸ hwhy⟩
  have htargets := h.targets q.pass
  rw [hlast, Option.map_some] at htargets
  obtain ⟨t, ht, heq⟩ := Option.map_eq_some_iff.mp htargets
  exact hunfit t ht (Prod.mk.inj heq)

end TargetSession

/-- Whatever targets of a new pool have been asked for, and whatever its device refused meanwhile:
a request is answered with the target that is there if it repeats the last one that was granted to
the pass, and with a new one otherwise; one that fails does not repeat the last one granted, and
changes nothing. As many textures have been made for targets as there were changes among the
requests granted to each pass. -/
theorem targets_made_on_change {r r₀ : Recorder} (hr : r.Reachable) {count : Nat} {maxInput : Size}
    {pow2 : Bool} {pool : TexturePool}
    (hcreate : TexturePool.create count maxInput pow2 r = .ok pool r₀) (events : List TargetEvent) :
    let s := TargetSession.run ⟨pool, r₀, []⟩ events
    (∀ q, (s.ask q).Ends s.device
      (fun answer r => s.Answered q answer.1 answer.2.1 answer.2.2 r)
      (fun e r => r = s.device ∧ s.last? q.pass ≠ some q ∧
        (count ≤ q.pass ∨ s.device.Injected e ∨ s.pool.Misfit s.device q.pass q.logical e))) ∧
    s.device.stats.texturesCreated = r₀.stats.texturesCreated +
      ∑ pass ∈ Finset.range count,
        TargetRequest.changes (TargetRequest.forPass pass s.granted) := by
  have hkept := (TargetSession.kept_create (issued_reachable hr) hcreate).run events
  exact ⟨hkept.ask_ends, hkept.created⟩

/-- Two passes get their targets, then the first one fails to get a larger one. -/
def TargetEvent.failedResize : List TargetEvent :=
  [.request ⟨0, ⟨3, 4⟩, .rgba8⟩, .request ⟨1, ⟨3, 4⟩, .rgba8⟩, .upset (.failAllocations "pass0"),
    .request ⟨0, ⟨5, 4⟩, .rgba8⟩, .upset .clear]

theorem failed_resize_made_up_for : ∃ pool r₀ t pool' r,
    TexturePool.create 2 ⟨4, 4⟩ true ({} : Recorder) = .ok pool r₀ ∧
    let s := TargetSession.run ⟨pool, r₀, []⟩ TargetEvent.failedResize
    let q : TargetRequest := ⟨0, ⟨5, 4⟩, .rgba8⟩
    s.ask q s.device = .ok (t, .resized, pool') r ∧ s.Answered q t .resized pool' r ∧
      s.device.stats.texturesCreated = r₀.stats.texturesCreated + 2 ∧ t.texel = ⟨8, 4⟩ := by
  obtain ⟨pool, r₀, hcreate, ⟨t, status, pool'⟩, hask, rfl, htexel, hgranted⟩ : ∃ pool r₀,
      TexturePool.create 2 ⟨4, 4⟩ true ({} : Recorder) = .ok pool r₀ ∧
      let s := TargetSession.run ⟨pool, r₀, []⟩ TargetEvent.failedResize
      ∃ answer, ((s.ask ⟨0, ⟨5, 4⟩, .rgba8⟩).outcome s.device).1.toOption = some answer ∧
        answer.2.1 = .resized ∧ answer.1.texel = ⟨8, 4⟩ ∧
        s.granted = [⟨0, ⟨3, 4⟩, .rgba8⟩, ⟨1, ⟨3, 4⟩, .rgba8⟩] :=
    ⟨_, _, rfl, _, rfl, by decide +kernel⟩
  obtain ⟨r, hr⟩ := exists_eq_ok hask
  obtain ⟨hanswers, hmade⟩ :=
    targets_made_on_change (.fresh 8192) hcreate TargetEvent.failedResize
  refine ⟨pool, r₀, t, pool', r, hcreate, hr, (hanswers _).of_ok hr, ?_, htexel⟩
  rw [hmade, hgranted]
  rfl

end PassChain
