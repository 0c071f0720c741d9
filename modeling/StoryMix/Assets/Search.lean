import StoryMix.Path
import StoryMix.Studio.Basic

/-!
# Looking for assets

An asset is named by an id that is looked for below the root of the assets: as it stands, and then among
the sound effects, the music and the ambience. The first path at which there is something wins.
-/

namespace StoryMix.Assets

/-- The directories that are searched, below the root. -/
def searchDirs : List String :=
  ["", "sfx", "music", "ambience"]

/-- The paths that an id can stand for, in the order of the search. -/
def searchPaths (root id : String) : List String :=
  searchDirs.map fun dir => Path.join [root, dir, id]

/-- The path of an asset. -/
def find (root id : String) : Action String := do
  let s ← get
  match (searchPaths root id).find? s.present with
  | none => Action.fail (.assetResolution id (searchPaths root id))
  | some path =>
    Action.debug ("Asset resolved: " ++ id ++ " -> " ++ path)
    pure path

end StoryMix.Assets
