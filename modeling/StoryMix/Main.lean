import StoryMix.Command.Mixer

/-!
# The program

The command line on real files. All files that the words and the settings name are read beforehand, the
command runs on that picture of them, and what it changed is written back. Outside programs are not
started: a render fails at the first line it would have to speak.
-/

namespace StoryMix

/-- Programs that cannot be started. -/
def Programs.unavailable : Programs where
  execute program _ := throw (.error ("spawn " ++ program ++ " ENOENT"))
  probe _ := throw (.error "Cannot find ffprobe")
  media _ _ := throw (.error "Cannot find ffmpeg")

/-- The variables that are read. -/
def settingNames : List String :=
  ["STORY_ASSETS_DIR", "STORY_OUT_DIR", "VOICE_REFS", "VOICEGEN_PATH", "VOICEGEN_DEVICE",
    "NARRATION_GAIN_DB", "MUSIC_GAIN_DB", "AMBIENCE_GAIN_DB", "NODE_ENV"]

/-- The settings that are there. -/
def readSettings : IO (List (String × String)) :=
  settingNames.filterMapM fun name => do
    return (← IO.getEnv name).map fun text => (name, text)

/-- A file with its text, if there is one at a path. A file that is no text counts as empty. -/
def readFile? (path : String) : IO (Option (String × String)) := do
  let place := (← IO.currentDir) / path
  if !(← place.pathExists) || (← place.isDir) then return none
  let text ← try IO.FS.readFile place catch _ => pure ""
  return some (path, text)

/-- The paths of all files below a directory. -/
def filesBelow (dir : String) : IO (List String) := do
  let place := (← IO.currentDir) / dir
  if ← place.isDir then return (← place.walkDir).toList.map (·.toString)
  return []

/-- Where assets may lie. -/
def assetDirs (settings : List (String × String)) (words : List String) : List String :=
  "assets" :: (settings.lookup "STORY_ASSETS_DIR").toList ++
    (words.zip words.tail).filterMap fun w => if w.1 = "--assets-dir" then some w.2 else none

/-- The files that a command may look at. -/
def readTree (cwd : String) (settings : List (String × String)) (words : List String) :
    IO FileTree := do
  let assets ← ((assetDirs settings words).map (Path.resolve cwd)).flatMapM filesBelow
  let paths := EnvFile.candidates cwd ++ words.map (Path.resolve cwd) ++ assets
  return .ofLists (← paths.eraseDups.filterMapM readFile?) []

/-- Writes back what differs between two trees. -/
def writeChanges (before after : FileTree) : IO Unit := do
  for dir in after.dirs do
    unless before.dirs.contains dir do
      IO.FS.createDirAll dir
  for (path, text) in after.files do
    unless before.read? path = some text do
      IO.FS.writeFile path text

end StoryMix

open StoryMix in
def main (words : List String) : IO UInt32 := do
  let cwd := (← IO.currentDir).toString
  let settings ← readSettings
  let studio := Studio.fresh (← readTree cwd settings words) cwd ⟨settings⟩ []
  match (runMixer Programs.unavailable words).run studio with
  | .ok status after =>
    writeChanges studio.tree after.tree
    IO.print after.stdout
    IO.eprint after.stderr
    return UInt32.ofNat status
  | .error e _ =>
    IO.eprintln e.message
    return 1
