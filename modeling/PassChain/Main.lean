import PassChain.Overview

/-!
The program: it prints an overview of the settings in force in the current directory.
-/

open PassChain

/-- A file of the disk, read as text. -/
def readTextFile (path : Path) : IO (Except ReadFault String) := do
  try
    return .ok (← IO.FS.readFile path.text)
  catch e =>
    match e with
    | .noFileOrDirectory .. => return .error .notFound
    | _ => return .error (.other (toString e))

/-- Those variables of the environment that settings look at. -/
def readEnvironment : IO Environment := do
  let names := ["POSTFX_PRESET", "POSTFX_SMOOTH", "POSTFX_MAX_PASSES", "POSTFX_TEXEL_ALIGN",
    "POSTFX_POW2_TARGETS", "POSTFX_OUTPUT"]
  let values ← names.mapM fun name => do return (← IO.getEnv name).map (name, ·)
  return values.filterMap id

/-- Prints the overview, and complaints apart from it. -/
def main : IO UInt32 := do
  let env ← readEnvironment
  let settingsText ← readTextFile Settings.defaultPath
  let settings := Settings.current ⟨fun _ => settingsText, fun _ => none⟩ env
  let presetText ← readTextFile (settings.chain.preset.getD ⟨""⟩)
  let o := settings.overview ⟨fun _ => presetText, fun _ => none⟩
  IO.print o.text
  for complaint in o.complaints do
    IO.eprintln complaint
  return 0
