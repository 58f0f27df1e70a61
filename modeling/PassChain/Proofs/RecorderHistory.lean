import Mathlib.Data.List.Infix
import PassChain.Proofs.RecorderCalls

/-! What a recorder has counted and kept, by the calls that it has carried out. -/
namespace PassChain

open Attempt

/-- A call as it was carried out: the state it found, and its result. -/
structure RecorderStep where
  before : Recorder
  call : RecorderCall
  result : Except Error RecorderReply

/-- The number in an answer, whatever kind of resource it is for. -/
def RecorderReply.index? : RecorderReply → Option Nat
  | done => none
  | texture id => some id.index
  | buffer id => some id.index
  | program id => some id.index

namespace RecorderStep

/-- The id that a step gave out, if any. -/
def index? (s : RecorderStep) : Option Nat :=
  match s.result with
  | .ok reply => reply.index?
  | .error _ => none

/-- Whether a frame was opened. -/
def opens (s : RecorderStep) : Bool :=
  match s.call, s.result with
  | .beginFrame, .ok _ => true
  | _, _ => false

/-- Whether a frame was shown. -/
def shows (s : RecorderStep) : Bool :=
  match s.call, s.result with
  | .endFrame, .ok _ => true
  | _, _ => false

/-- The draw that was accepted, if any, with the buffers as they were then. -/
def drawn? (s : RecorderStep) : Option RecordedDraw :=
  match s.call, s.result with
  | .draw call, .ok _ => some (s.before.told call)
  | _, _ => none

end RecorderStep

/-- The draws accepted since a frame was last opened. -/
def openDraws (history : List RecorderStep) : List RecordedDraw :=
  (history.reverse.takeWhile (!·.opens)).reverse.filterMap (·.drawn?)

/-- The frames that were shown, each with the draws accepted since it was opened. -/
def shownFrames (history : List RecorderStep) : List (List RecordedDraw) :=
  (List.range history.length).filterMap fun i =>
    if (history[i]?).any (·.shows) then some (openDraws (history.take i)) else none

theorem openDraws_concat (history : List RecorderStep) (s : RecorderStep) :
    openDraws (history ++ [s]) =
      if s.opens then [] else openDraws history ++ s.drawn?.toList := by
  unfold openDraws
  rw [List.reverse_concat, List.takeWhile_cons]
  cases s.opens with
  | true => rfl
  | false => cases hs : s.drawn? <;> simp [List.filterMap_append, hs]

theorem shownFrames_concat (history : List RecorderStep) (s : RecorderStep) :
    shownFrames (history ++ [s]) =
      shownFrames history ++ if s.shows then [openDraws history] else [] := by
  unfold shownFrames
  rw [List.length_append, List.length_singleton, List.range_succ, List.filterMap_append]
  congr 1
  · refine List.filterMap_congr fun i hi => ?_
    have hlt := List.mem_range.mp hi
    rw [List.getElem?_append_left hlt, List.take_append_of_le_length hlt.le]
  · cases hs : s.shows <;> simp [hs]

namespace Recorder

variable {r r' : Recorder} {call : RecorderCall} {reply : RecorderReply}

/-- The step that a call amounts to. -/
def step (r : Recorder) (call : RecorderCall) : RecorderStep :=
  ⟨r, call, ((exec call).outcome r).1⟩

theorem step_cases (r : Recorder) (call : RecorderCall) :
    (∃ reply, (r.step call).result = .ok reply ∧ r.Does call reply (r.after call)) ∨
      ∃ e, (r.step call).result = .error e ∧ r.after call = r :=
  r.after_cases call

/-- The recorder after some calls. -/
def afterAll (r : Recorder) (calls : List RecorderCall) : Recorder := calls.foldl after r

/-- The steps that some calls amount to, the first one first. -/
def history (r : Recorder) : List RecorderCall → List RecorderStep
  | [] => []
  | call :: calls => r.step call :: (r.after call).history calls

theorem afterAll_append (calls more : List RecorderCall) :
    r.afterAll (calls ++ more) = (r.afterAll calls).afterAll more :=
  List.foldl_append

theorem afterAll_concat (calls : List RecorderCall) (call : RecorderCall) :
    r.afterAll (calls ++ [call]) = (r.afterAll calls).after call :=
  afterAll_append calls [call]

theorem history_concat (calls : List RecorderCall) (call : RecorderCall) :
    r.history (calls ++ [call]) = r.history calls ++ [(r.afterAll calls).step call] := by
  induction calls generalizing r with
  | nil => rfl
  | cons c calls ih => simp only [List.cons_append, history, ih, afterAll, List.foldl_cons]

theorem reachable_afterAll (h : r.Reachable) (calls : List RecorderCall) :
    (r.afterAll calls).Reachable := by
  induction calls generalizing r with
  | nil => exact h
  | cons call calls ih => exact ih (h.after call)

/-! Ids. -/

theorem Does.index? (h : r.Does call reply r') :
    reply.index? = none ∧ r'.nextId = r.nextId ∨
      reply.index? = some r.nextId ∧ r'.nextId = r.nextId + 1 := by
  cases h with
  | createTexture | createBuffer | createProgram => exact .inr ⟨rfl, rfl⟩
  | releaseTexture id =>
    refine .inl ⟨rfl, ?_⟩
    unfold Recorder.releaseTexture
    split <;> rfl
  | abortFrame =>
    refine .inl ⟨rfl, ?_⟩
    unfold Recorder.abortFrame
    split <;> rfl
  | _ => exact .inl ⟨rfl, rfl⟩

theorem step_index? (r : Recorder) (call : RecorderCall) :
    (r.step call).index? = none ∧ (r.after call).nextId = r.nextId ∨
      (r.step call).index? = some r.nextId ∧ (r.after call).nextId = r.nextId + 1 := by
  rcases r.step_cases call with ⟨reply, hresult, hdoes⟩ | ⟨e, hresult, hafter⟩
  · rw [RecorderStep.index?, hresult]
    exact hdoes.index?
  · rw [RecorderStep.index?, hresult]
    exact .inl ⟨rfl, by rw [hafter]⟩

/-- Ids are given out one after the other, by one count for all kinds of resources. -/
theorem history_index? (r : Recorder) (calls : List RecorderCall) :
    r.nextId ≤ (r.afterAll calls).nextId ∧ (r.history calls).filterMap (·.index?) =
      List.range' r.nextId ((r.afterAll calls).nextId - r.nextId) := by
  induction calls generalizing r with
  | nil => exact ⟨Nat.le_refl _, by simp [history, afterAll]⟩
  | cons call calls ih =>
    obtain ⟨hle, hids⟩ := ih (r.after call)
    rw [show r.afterAll (call :: calls) = (r.after call).afterAll calls from rfl, history]
    rcases r.step_index? call with ⟨hindex, hnext⟩ | ⟨hindex, hnext⟩
    · rw [List.filterMap_cons_none hindex, hids, hnext]
      exact ⟨hnext ▸ hle, rfl⟩
    · rw [hnext] at hle hids
      obtain ⟨k, hk⟩ := Nat.exists_eq_add_of_le hle
      rw [List.filterMap_cons_some hindex, hids, hk]
      refine ⟨by omega, ?_⟩
      rw [Nat.add_sub_cancel_left, Nat.add_assoc, Nat.add_sub_cancel_left, Nat.add_comm 1 k,
        List.range'_succ]

/-- Whether a texture, a buffer or a program has this id. -/
def Alive (r : Recorder) (n : Nat) : Prop :=
  (⟨n⟩ : TextureId) ∈ r.textures.map (·.1) ∨ (⟨n⟩ : BufferId) ∈ r.buffers.map (·.1) ∨
    (⟨n⟩ : ProgramId) ∈ r.programs.map (·.1)

theorem Issued.alive_lt (h : r.Issued) {n : Nat} (hn : r.Alive n) : n < r.nextId := by
  rcases hn with hn | hn | hn <;> obtain ⟨e, he, heq⟩ := List.mem_map.mp hn
  · simpa [heq] using h.textures e he
  · simpa [heq] using h.buffers e he
  · simpa [heq] using h.programs e he

theorem Does.alive (h : r.Does call reply r') {n : Nat} (hn : r'.Alive n) :
    r.Alive n ∨ n = r.nextId := by
  unfold Alive at hn ⊢
  cases h with
  | createTexture desc =>
    simp only [withTexture, List.map_append, List.mem_append, List.map_singleton,
      List.mem_singleton, TextureId.mk.injEq] at hn
    tauto
  | createBuffer label kind size =>
    simp only [withBuffer, List.map_append, List.mem_append, List.map_singleton,
      List.mem_singleton, BufferId.mk.injEq] at hn
    tauto
  | createProgram label =>
    simp only [Recorder.createProgram, List.map_append, List.mem_append, List.map_singleton,
      List.mem_singleton, ProgramId.mk.injEq] at hn
    tauto
  | releaseTexture id =>
    unfold Recorder.releaseTexture at hn
    split at hn
    · simp only [keys_filter, List.mem_filter] at hn
      tauto
    · exact .inl hn
  | releaseBuffer id =>
    simp only [Recorder.releaseBuffer, keys_filter, List.mem_filter] at hn
    tauto
  | releaseProgram id =>
    simp only [Recorder.releaseProgram, keys_filter, List.mem_filter] at hn
    tauto
  | writeBuffer id buffer data =>
    rw [buffers_withBytes] at hn
    exact .inl hn
  | abortFrame =>
    unfold Recorder.abortFrame at hn
    split at hn <;> exact .inl hn
  | _ => exact .inl hn

/-- What has an id that was given out and is not alive will not come to life again. -/
theorem not_alive_afterAll {n : Nat} (hlt : n < r.nextId) (hn : ¬ r.Alive n)
    (calls : List RecorderCall) : ¬ (r.afterAll calls).Alive n := by
  induction calls generalizing r with
  | nil => exact hn
  | cons call calls ih =>
    refine ih ?_ ?_
    · rcases r.step_index? call with ⟨_, hnext⟩ | ⟨_, hnext⟩ <;> omega
    · intro hlive
      rcases r.step_cases call with ⟨reply, _, hdoes⟩ | ⟨_, _, hafter⟩
      · rcases hdoes.alive hlive with h | h
        · exact hn h
        · omega
      · exact hn (hafter ▸ hlive)

/-! Frames. -/

/-- The frames that a recorder has noted are those that were shown, and its counts agree. -/
structure Accounts (r : Recorder) (history : List RecorderStep) : Prop where
  closed : r.inFrame = false → r.pending = []
  pending : r.inFrame = true → r.pending = openDraws history
  frames : r.frames = shownFrames history
  submitted : r.stats.framesSubmitted = r.frames.length
  generation : r.generation = r.frames.countP (·.any (·.destination == .backbuffer))
  begun : history.countP (·.opens) =
    r.stats.framesSubmitted + r.stats.framesAborted + r.inFrame.toNat

variable {history : List RecorderStep}

/-- The parts of two recorders that are about frames are the same. -/
structure SameAccount (r r' : Recorder) : Prop where
  inFrame : r'.inFrame = r.inFrame
  pending : r'.pending = r.pending
  frames : r'.frames = r.frames
  generation : r'.generation = r.generation
  submitted : r'.stats.framesSubmitted = r.stats.framesSubmitted
  aborted : r'.stats.framesAborted = r.stats.framesAborted

/-- A step that has no part in a frame. -/
theorem Accounts.of_same (h : r.Accounts history) (hsame : r.SameAccount r') {s : RecorderStep}
    (hopens : s.opens = false) (hshows : s.shows = false) (hdrawn : s.drawn? = none) :
    r'.Accounts (history ++ [s]) where
  closed hclosed := by
    rw [hsame.pending]
    exact h.closed (hsame.inFrame ▸ hclosed)
  pending hopen := by
    rw [hsame.pending, h.pending (hsame.inFrame ▸ hopen), openDraws_concat, hopens, hdrawn]
    exact (List.append_nil _).symm
  frames := by
    rw [hsame.frames, h.frames, shownFrames_concat, hshows]
    exact (List.append_nil _).symm
  submitted := by rw [hsame.submitted, hsame.frames, h.submitted]
  generation := by rw [hsame.generation, hsame.frames, h.generation]
  begun := by
    rw [hsame.submitted, hsame.aborted, hsame.inFrame, ← h.begun, List.countP_append,
      List.countP_singleton, hopens]
    rfl

theorem Accounts.beginFrame (h : r.Accounts history) (hclosed : r.inFrame = false)
    {s : RecorderStep} (hopens : s.opens = true) (hshows : s.shows = false) :
    r.opened.Accounts (history ++ [s]) where
  closed hframe := by cases hframe
  pending _ := by
    rw [openDraws_concat, hopens]
    rfl
  frames := by
    rw [shownFrames_concat, hshows, ← h.frames]
    exact (List.append_nil _).symm
  submitted := h.submitted
  generation := h.generation
  begun := by
    rw [List.countP_append, List.countP_singleton, h.begun, hopens, hclosed]
    rfl

theorem Accounts.draw (h : r.Accounts history) (hopen : r.inFrame = true) {d : RecordedDraw}
    {s : RecorderStep} (hopens : s.opens = false) (hshows : s.shows = false)
    (hdrawn : s.drawn? = some d) : (r.withDraw d).Accounts (history ++ [s]) where
  closed hclosed := by
    rw [withDraw, hopen] at hclosed
    cases hclosed
  pending _ := by
    rw [openDraws_concat, hopens, hdrawn, ← h.pending hopen]
    rfl
  frames := by
    rw [shownFrames_concat, hshows, ← h.frames]
    exact (List.append_nil _).symm
  submitted := h.submitted
  generation := h.generation
  begun := by
    rw [List.countP_append, List.countP_singleton, h.begun, hopens]
    rfl

theorem Accounts.endFrame (h : r.Accounts history) (hopen : r.inFrame = true) {s : RecorderStep}
    (hopens : s.opens = false) (hshows : s.shows = true) :
    r.shown.Accounts (history ++ [s]) where
  closed _ := rfl
  pending hframe := by cases hframe
  frames := by
    rw [shownFrames_concat, hshows, ← h.frames, ← h.pending hopen]
    rfl
  submitted := by
    show r.stats.framesSubmitted + 1 = (r.frames ++ [r.pending]).length
    rw [h.submitted, List.length_append, List.length_singleton]
  generation := by
    show (if r.pending.any (·.destination == .backbuffer) then r.generation + 1
      else r.generation) = _
    rw [shown, List.countP_append, List.countP_singleton, ← h.generation]
    split <;> rfl
  begun := by
    show _ = r.stats.framesSubmitted + 1 + r.stats.framesAborted + 0
    rw [List.countP_append, List.countP_singleton, h.begun, hopens, hopen]
    simp
    omega

theorem Accounts.abortFrame (h : r.Accounts history) {s : RecorderStep}
    (hopens : s.opens = false) (hshows : s.shows = false) (hdrawn : s.drawn? = none) :
    r.abortFrame.Accounts (history ++ [s]) := by
  cases hopen : r.inFrame with
  | false =>
    rw [Recorder.abortFrame, hopen]
    exact h.of_same ⟨rfl, rfl, rfl, rfl, rfl, rfl⟩ hopens hshows hdrawn
  | true =>
    rw [abortFrame_of_inFrame hopen]
    refine ⟨fun _ => rfl, fun hframe => (by cases hframe), ?_, h.submitted, h.generation, ?_⟩
    · rw [shownFrames_concat, hshows, ← h.frames]
      exact (List.append_nil _).symm
    · show _ = r.stats.framesSubmitted + (r.stats.framesAborted + 1) + 0
      rw [List.countP_append, List.countP_singleton, h.begun, hopens, hopen]
      rfl

theorem Accounts.step (h : r.Accounts history) (call : RecorderCall) :
    (r.after call).Accounts (history ++ [r.step call]) := by
  rcases r.step_cases call with ⟨reply, hresult, hdoes⟩ | ⟨e, hresult, hafter⟩
  · generalize r.after call = r' at hdoes
    cases hdoes with
    | beginFrame hclosed =>
      refine h.beginFrame hclosed ?_ rfl
      simp only [RecorderStep.opens, hresult]
      rfl
    | draw call hopen =>
      refine h.draw hopen rfl rfl ?_
      simp only [RecorderStep.drawn?, hresult]
      rfl
    | endFrame hopen =>
      refine h.endFrame hopen rfl ?_
      simp only [RecorderStep.shows, hresult]
      rfl
    | abortFrame => exact h.abortFrame rfl rfl rfl
    | releaseTexture id =>
      refine h.of_same ?_ rfl rfl rfl
      unfold Recorder.releaseTexture
      split <;> exact ⟨rfl, rfl, rfl, rfl, rfl, rfl⟩
    | _ =>
      refine h.of_same ?_ rfl rfl rfl
      exact ⟨rfl, rfl, rfl, rfl, rfl, rfl⟩
  · rw [hafter]
    refine h.of_same ⟨rfl, rfl, rfl, rfl, rfl, rfl⟩ ?_ ?_ ?_
    · simp [RecorderStep.opens, hresult]
    · simp [RecorderStep.shows, hresult]
    · simp [RecorderStep.drawn?, hresult]

theorem accounts_fresh (maxDimension : UInt32) : ({ maxDimension } : Recorder).Accounts [] :=
  ⟨fun _ => rfl, fun _ => rfl, rfl, rfl, rfl, rfl⟩

theorem accounts_afterAll (maxDimension : UInt32) (calls : List RecorderCall) :
    (({ maxDimension } : Recorder).afterAll calls).Accounts
      (({ maxDimension } : Recorder).history calls) := by
  induction calls using List.reverseRecOn with
  | nil => exact accounts_fresh maxDimension
  | append_singleton calls call ih =>
    rw [history_concat, afterAll_concat]
    exact ih.step call

theorem frames_after (r : Recorder) (call : RecorderCall) : r.frames <+: (r.after call).frames := by
  rcases r.step_cases call with ⟨reply, _, hdoes⟩ | ⟨_, _, hafter⟩
  · generalize r.after call = r' at hdoes
    cases hdoes with
    | endFrame => exact List.prefix_append _ _
    | releaseTexture id => rw [(releaseTexture_sameFrames r id).frames]
    | abortFrame =>
      unfold Recorder.abortFrame
      split <;> exact List.prefix_refl _
    | _ => exact List.prefix_refl _
  · rw [hafter]

theorem frames_afterAll (r : Recorder) (calls : List RecorderCall) :
    r.frames <+: (r.afterAll calls).frames := by
  induction calls generalizing r with
  | nil => exact List.prefix_refl _
  | cons call calls ih => exact (r.frames_after call).trans (ih (r.after call))

/-- Whatever a recorder is asked, and whatever it refuses: its counts are those of its resources and
frames, ids are given out once and do not come to life again, and the frames that it has kept are
those that were shown, each with the draws that it accepted. A refused call changes nothing. -/
theorem history_accounts (maxDimension : UInt32) (calls : List RecorderCall) :
    let fresh : Recorder := { maxDimension }
    let r := fresh.afterAll calls
    let history := fresh.history calls
    ((r.textures.map (·.1)).Nodup ∧
      r.textures.length + r.stats.texturesReleased = r.stats.texturesCreated) ∧
    ((history.filterMap (·.index?)).Nodup ∧
      ∀ more later n, r.Alive n → ¬ (r.afterAll more).Alive n →
        ¬ (r.afterAll (more ++ later)).Alive n) ∧
    (r.inFrame = false → r.pending = []) ∧
    r.stats.framesSubmitted = r.frames.length ∧
    r.generation = r.frames.countP (·.any (·.destination == .backbuffer)) ∧
    history.countP (·.opens) =
      r.stats.framesSubmitted + r.stats.framesAborted + (if r.inFrame then 1 else 0) ∧
    (r.frames = shownFrames history ∧ ∀ more, r.frames <+: (r.afterAll more).frames) ∧
    ∀ call e r', exec call r = .error e r' → r' = r := by
  intro fresh r history
  have hreachable : r.Reachable := reachable_afterAll (.fresh maxDimension) calls
  have hcounted := counted_reachable hreachable
  have haccounts : r.Accounts history := accounts_afterAll maxDimension calls
  refine ⟨⟨hcounted.textures, hcounted.balance⟩, ⟨?_, ?_⟩, haccounts.closed, haccounts.submitted,
    haccounts.generation, ?_, ⟨haccounts.frames, r.frames_afterAll⟩, ?_⟩
  · rw [(fresh.history_index? calls).2]
    exact List.nodup_range'
  · intro more later n hn hdead
    have hlt : n < (r.afterAll more).nextId :=
      Nat.lt_of_lt_of_le ((issued_reachable hreachable).alive_lt hn) (r.history_index? more).1
    rw [afterAll_append]
    exact not_alive_afterAll hlt hdead later
  · rw [haccounts.begun]
    cases r.inFrame <;> rfl
  · intro call e r' h
    exact (exec_does r call).of_error h

end Recorder

end PassChain
