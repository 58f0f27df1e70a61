import Mathlib.Data.List.Forall2
import PassChain.Preset.Document
import PassChain.Proofs.PathParts

/-! Files that a preset names, seen from one directory after another. -/
namespace PassChain

section Lifting

variable (R : Path → Path → Prop)

/-- Programs that only differ in their files, by `R`. -/
inductive Shader.Alike : Shader → Shader → Prop
  | file {p q : Path} : R p q → Alike (.file p) (.file q)
  | builtin (name : String) : Alike (.builtin name) (.builtin name)
  | inline (text : String) : Alike (.inline text) (.inline text)

/-- Passes that only differ in their files, by `R`. -/
structure Pass.Alike (p q : Pass) : Prop where
  shader : p.shader.Alike R q.shader
  rest : { p with shader := q.shader } = q

/-- Images that only differ in their files, by `R`. -/
structure LookupImage.Alike (p q : LookupImage) : Prop where
  path : R p.path q.path
  rest : { p with path := q.path } = q

/-- Presets that only differ in their files, by `R`. -/
structure Preset.Alike (p q : Preset) : Prop where
  passes : List.Forall₂ (Pass.Alike R) p.passes q.passes
  lookups : List.Forall₂ (LookupImage.Alike R) p.lookups q.lookups
  vars : p.vars = q.vars

end Lifting

/-- The program with its file, if it is one, replaced. -/
def Shader.mapFile (f : Path → Path) : Shader → Shader
  | file path => .file (f path)
  | builtin name => .builtin name
  | inline text => .inline text

namespace Path

/-- The path as seen from a base: below it, unless the path is absolute. -/
def SeenFrom (base p q : Path) : Prop :=
  p.isAbsolute = true ∧ q = p ∨ p.isAbsolute = false ∧ q = base.join p

/-- Two ways to write one path. -/
def Same (p q : Path) : Prop := p.parts = q.parts

theorem join_seenFrom (base p : Path) : base.SeenFrom p (base.join p) := by
  cases hp : p.isAbsolute with
  | true => exact .inl ⟨hp, join_of_absolute hp⟩
  | false => exact .inr ⟨hp, rfl⟩

theorem Same.join_left {a b : Path} (h : a.Same b) (p : Path) : (a.join p).Same (b.join p) := by
  rw [Same, parts_join, parts_join, h]

theorem Same.join_right {a b : Path} (h : a.Same b) (base : Path) :
    (base.join a).Same (base.join b) := by
  rw [Same, parts_join, parts_join, h]

end Path

namespace Preset

/-- The preset with all its files replaced. -/
def mapFiles (f : Path → Path) (p : Preset) : Preset :=
  { p with
    passes := p.passes.map fun pass => { pass with shader := pass.shader.mapFile f }
    lookups := p.lookups.map fun image => { image with path := f image.path } }

variable {f g : Path → Path} {R : Path → Path → Prop} {p : Preset}

theorem mapFiles_mapFiles (f g : Path → Path) (p : Preset) :
    (p.mapFiles f).mapFiles g = p.mapFiles (g ∘ f) := by
  have hshader (s : Shader) : (s.mapFile f).mapFile g = s.mapFile (g ∘ f) := by
    cases s <;> rfl
  simp only [mapFiles, List.map_map, Function.comp_def, hshader]

theorem mapFiles_id (p : Preset) : p.mapFiles id = p := by
  have hshader (s : Shader) : s.mapFile id = s := by
    cases s <;> rfl
  simp only [mapFiles, hshader, id_eq, List.map_id']

/-- What is done to each file is done to a preset. -/
theorem mapFiles_alike (h : ∀ path, R (f path) (g path)) (p : Preset) :
    (p.mapFiles f).Alike R (p.mapFiles g) where
  passes := by
    rw [mapFiles, mapFiles, List.forall₂_map_left_iff, List.forall₂_map_right_iff,
      List.forall₂_same]
    intro pass _
    refine ⟨?_, rfl⟩
    cases hshader : pass.shader with
    | file path => exact .file (h path)
    | builtin name => exact .builtin name
    | inline text => exact .inline text
  lookups := by
    rw [mapFiles, mapFiles, List.forall₂_map_left_iff, List.forall₂_map_right_iff,
      List.forall₂_same]
    intro image _
    exact ⟨h image.path, rfl⟩
  vars := rfl

theorem resolveAgainst_eq (p : Preset) (base : Path) :
    p.resolveAgainst base = p.mapFiles base.join := by
  have hjoin (path : Path) : base.resolveAgainst path = base.join path := by
    unfold Path.resolveAgainst
    split
    · rename_i habsolute
      exact (Path.join_of_absolute habsolute).symm
    · rfl
  have hpasses : (p.resolveAgainst base).passes = (p.mapFiles base.join).passes := by
    refine List.map_congr_left fun pass _ => ?_
    cases pass with | mk shader =>
    cases shader with
    | file path => simp only [Shader.mapFile, hjoin]
    | builtin name | inline text => rfl
  have hlookups : (p.resolveAgainst base).lookups = (p.mapFiles base.join).lookups := by
    refine List.map_congr_left fun image _ => ?_
    rw [hjoin]
  exact congrArg₂ (fun passes lookups => (⟨passes, lookups, p.vars⟩ : Preset)) hpasses hlookups

/-- Seen from one directory, and then from another, files are seen from the second joined with the
first. -/
theorem resolveAgainst_resolveAgainst (p : Preset) (a b : Path) :
    (p.resolveAgainst a).resolveAgainst b = p.resolveAgainst (b.join a) := by
  have hjoin : b.join ∘ a.join = (b.join a).join := by
    funext path
    exact (Path.join_assoc a b path).symm
  rw [resolveAgainst_eq, resolveAgainst_eq, mapFiles_mapFiles, hjoin, resolveAgainst_eq]

/-- Two loads that lead to one preset, if in different ways to write its files, or meet one
fault. -/
inductive LoadedAlike : Except LoadFault Preset → Except LoadFault Preset → Prop
  | loaded {p q : Preset} : p.Alike Path.Same q → LoadedAlike (.ok p) (.ok q)
  | refused (fault : LoadFault) : LoadedAlike (.error fault) (.error fault)

theorem resolveAgainst_same {a b : Path} (h : a.Same b) (p : Preset) :
    (p.resolveAgainst a).Alike Path.Same (p.resolveAgainst b) := by
  rw [resolveAgainst_eq, resolveAgainst_eq]
  exact mapFiles_alike (fun path => h.join_left path) p

/-- A preset is read from its file and then seen from the directory of that. -/
theorem load_eq {files : FileSystem} {path d : Path} {text : String}
    (hread : files.readText path = .ok text) (hparent : path.parent? = some d) :
    load files path = (ofText text).map (·.resolveAgainst d) := by
  unfold load
  simp only [hread, hparent]
  cases ofText text <;> rfl

/-- Only relative files of a preset change when they are seen from a directory. From two
directories, one after the other, they are seen as from the second joined with the first, and an
absolute one leaves nothing for the next. So a preset of a file, seen from a base, is the preset of
the file's text, seen from the directory of the file joined to the base. -/
theorem files_follow_directories (p : Preset) (a b : Path) :
    p.Alike b.SeenFrom (p.resolveAgainst b) ∧
    (p.resolveAgainst a).resolveAgainst b = p.resolveAgainst (b.join a) ∧
    (a.isAbsolute = true → (p.resolveAgainst a).resolveAgainst a = p.resolveAgainst a) ∧
    (∀ (files : FileSystem) (path d base : Path) (text : String), path.parent? = some d →
      files.readText path = .ok text → (load files path).map (·.resolveAgainst base) =
        (ofText text).map (·.resolveAgainst (base.join d))) ∧
    ∀ (files : FileSystem) (dir name base : Path) (text : String), name.IsFileName →
      files.readText (dir.join name) = .ok text →
      (∃ d, (dir.join name).parent? = some d ∧ d.Same dir) ∧
        LoadedAlike ((load files (dir.join name)).map (·.resolveAgainst base))
          ((ofText text).map (·.resolveAgainst (base.join dir))) := by
  have hload (files : FileSystem) (path d base : Path) (text : String)
      (hparent : path.parent? = some d) (hread : files.readText path = .ok text) :
      (load files path).map (·.resolveAgainst base) =
        (ofText text).map (·.resolveAgainst (base.join d)) := by
    rw [load_eq hread hparent]
    cases ofText text with
    | error fault => rfl
    | ok q => exact congrArg Except.ok (resolveAgainst_resolveAgainst q d base)
  refine ⟨?_, resolveAgainst_resolveAgainst p a b, fun ha => ?_, hload,
    fun files dir name base text hname hread => ?_⟩
  · have hseen : (p.mapFiles id).Alike b.SeenFrom (p.mapFiles b.join) :=
      mapFiles_alike b.join_seenFrom p
    rwa [mapFiles_id, ← resolveAgainst_eq] at hseen
  · rw [resolveAgainst_resolveAgainst, Path.join_of_absolute ha]
  · obtain ⟨d, hparent, hsame⟩ := Path.exists_parent dir hname
    refine ⟨⟨d, hparent, hsame⟩, ?_⟩
    rw [hload files (dir.join name) d base text hparent hread]
    cases ofText text with
    | error fault => exact .refused fault
    | ok q => exact .loaded (resolveAgainst_same (Path.Same.join_right hsame base) q)

/-- A preset with a file in its own directory, and one elsewhere. -/
def aged : Preset :=
  { passes := [{ shader := .file ⟨"crt.wgsl"⟩ }]
    lookups := [{ id := "noise", path := ⟨"/shared/noise.png"⟩ }] }

/-- Its text. -/
def agedText : String := "[[passes]]\nshader = \"crt.wgsl\"\n\n[[luts]]\nid = \"noise\"\n" ++
  "path = \"/shared/noise.png\"\n"

set_option maxRecDepth 100000 in
theorem ofText_agedText : ofText agedText = .ok aged := by
  have hread : (ofText agedText).toOption = some aged := by decide +kernel
  cases h : ofText agedText with
  | error fault =>
    rw [h] at hread
    cases hread
  | ok p =>
    rw [h] at hread
    exact congrArg Except.ok (Option.some.inj hread)

/-- From a directory that is written with a needless `.`, the files of a preset are found. -/
theorem aged_is_found :
    let files : FileSystem := ⟨fun _ => .ok agedText, fun _ => none⟩
    let path : Path := ⟨"presets/./aged.toml"⟩
    (Path.mk "/games").isAbsolute = true ∧ (Path.mk "aged.toml").IsFileName ∧
      files.readText path = .ok agedText ∧
      (aged.resolveAgainst ⟨"/games"⟩).resolveAgainst ⟨"/games"⟩ = aged.resolveAgainst ⟨"/games"⟩ ∧
      LoadedAlike ((load files path).map (·.resolveAgainst ⟨"/games"⟩))
        (.ok (aged.resolveAgainst ⟨"/games/presets/."⟩)) := by
  intro files path
  have hname : (Path.mk "aged.toml").IsFileName := ⟨by decide, by decide, by decide⟩
  obtain ⟨_, _, htwice, _, hload⟩ := files_follow_directories aged ⟨"/games"⟩ ⟨"/games"⟩
  have hpath : (Path.mk "presets/.").join ⟨"aged.toml"⟩ = path := by decide +kernel
  have hdir : (Path.mk "/games").join ⟨"presets/."⟩ = ⟨"/games/presets/."⟩ := by decide +kernel
  obtain ⟨_, halike⟩ := hload files ⟨"presets/."⟩ ⟨"aged.toml"⟩ ⟨"/games"⟩ agedText hname rfl
  rw [hpath, hdir, ofText_agedText] at halike
  exact ⟨by decide, hname, rfl, htwice (by decide), halike⟩

end Preset

end PassChain
