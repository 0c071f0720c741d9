import StoryMix.Path
import StoryMix.Numeral.Fixed
import StoryMix.Numeral.Reader
import StoryMix.Text.Blank
import StoryMix.Text.Case
import StoryMix.Text.Letter
import StoryMix.Text.Lines
import StoryMix.Text.Number
import StoryMix.Text.Quoted
import StoryMix.Text.Units
import StoryMix.Script.Parse
import StoryMix.Render.Basic
import StoryMix.Rehearsal.Tools
import StoryMix.Studio.Files
import StoryMix.Timeline.Build
import StoryMix.Studio.FileTree
import StoryMix.Studio.Call
import StoryMix.Config.EnvFile
import StoryMix.Config.Environment
import StoryMix.Mix.Compile
import StoryMix.Timeline.Clock
import StoryMix.Story.Generate
import StoryMix.Config.Schema
import StoryMix.Config.Settings
import StoryMix.Programs.Basic
import StoryMix.Programs.Media
import StoryMix.Programs.Tools
import StoryMix.Rehearsal.Programs
import StoryMix.Command.Arguments
import StoryMix.Command.Enqueue
import StoryMix.Queue.Processor
import StoryMix.Queue.Worker
import StoryMix.Rehearsal.Queue
import StoryMix.Main
import StoryMix.Proofs.Numeral.Reader
import StoryMix.Proofs.Timeline.Take
import StoryMix.Proofs.Timeline.Track
import StoryMix.Proofs.Timeline.Narration
import StoryMix.Proofs.Timeline.Outputs
import StoryMix.Proofs.Timeline.Effects
import StoryMix.Proofs.Script.Parse
import StoryMix.Proofs.Timeline.Clamp
import StoryMix.Proofs.Render.Run
import StoryMix.Proofs.Render.Account
import StoryMix.Proofs.Numeral.Notation
import StoryMix.Proofs.Script.Grammar
import StoryMix.Proofs.Mix.Pads
import StoryMix.Proofs.Mix.Chains
import StoryMix.Proofs.Mix.Wiring
import StoryMix.Proofs.FileName
import StoryMix.Proofs.Rehearsal.Tools
import StoryMix.Proofs.Render.Atomic
import StoryMix.Proofs.Render.Season
import StoryMix.Proofs.Render.Course
import StoryMix.Proofs.Studio.Calls
import StoryMix.Proofs.Timeline.Stop
import StoryMix.Proofs.Timeline.Plan
import StoryMix.Proofs.Render.FailFast
import StoryMix.Proofs.Timeline.Foresight
import StoryMix.Proofs.Render.Foresight
import StoryMix.Proofs.Render.Interleaving
import StoryMix.Proofs.Programs.Tools
import StoryMix.Proofs.Queue.Processor
import StoryMix.Proofs.Script.Prose
import StoryMix.Proofs.Story.Acceptance
import StoryMix.Proofs.Config.Schema
import StoryMix.Proofs.Config.Settings
import StoryMix.Proofs.Queue.Carried
import StoryMix.Proofs.Command.Arguments
import StoryMix.Proofs.Queue.Handover
import StoryMix.Proofs.Studio.Alongside
import StoryMix.Proofs.Timeline.Moved
import StoryMix.Proofs.Render.Memoryless
import StoryMix.Proofs.Render.Destinations
import StoryMix.Proofs.Script.Composition
import StoryMix.Proofs.Script.Strictness
import StoryMix.Proofs.Studio.View
import StoryMix.Proofs.Timeline.Overlay
import StoryMix.Proofs.Timeline.Directives
import StoryMix.Proofs.Studio.Unlogged
import StoryMix.Proofs.Timeline.Anchors
import StoryMix.Proofs.Script.Names
import StoryMix.Proofs.Story.Reading
import StoryMix.Proofs.Assets.Containment
import StoryMix.Proofs.Assets.Search
import StoryMix.Proofs.Config.Choice
import StoryMix.Proofs.Config.Voices
import StoryMix.Proofs.Queue.Crashes
import StoryMix.Proofs.Command.Spelling
import StoryMix.Proofs.Queue.Payload
import StoryMix.Proofs.Numeral.Value
import StoryMix.Proofs.Numeral.Product
import StoryMix.Proofs.Numeral.Shortest
import StoryMix.Proofs.Numeral.Written
import StoryMix.Proofs.Numeral.Whole
import StoryMix.Proofs.Numeral.Places
import StoryMix.Proofs.Mix.Times
import StoryMix.Proofs.Numeral.Nearest
import StoryMix.Proofs.Numeral.Decimal
import StoryMix.Proofs.Numeral.Signed
import StoryMix.Proofs.Numeral.Readings
import StoryMix.Proofs.Script.Range
import StoryMix.Proofs.Command.Seed
import StoryMix.Proofs.Stem
import StoryMix.Proofs.Story.Seeds
