import StoryMix.Config.Settings
import StoryMix.Queue.Job
import StoryMix.Render.Basic

/-!
# Working on a job

A job is checked, rendered and reported on. Only a crash of a tool is worth another attempt: a payload,
a script, an asset or a setting that is wrong is wrong the next time too, and then the job must not be
tried again.
-/

namespace StoryMix

/-- What a finished job gives back. -/
structure JobResult where
  outputPath : String
  duration : Float

/-- What a processor is given: how to render, and how to report how far a job is. -/
structure JobContext where
  render : RenderRequest → Action Render.Result
  report : Float → Action Unit

namespace JobContext

/-- Reports of a job that has begun and of one that is done. -/
def begun : Float := 10

def done : Float := 100

/-- What a job ends with when it has failed. -/
def asFinal (e : Thrown) (message : String) : Thrown :=
  if e.isRetryable then e else .unrecoverable message

/-- The answer, or the final failure, which is logged. -/
def concluding {α : Type} (id : String) (act : Action α) : Action α := do
  match ← act.outcome with
  | .ok a => pure a
  | .error e =>
    let message ← Action.writing e.message?
    Action.inform .error ("Render job " ++ id ++ " failed") [("error", .text message)]
    throw (asFinal e message)

/-- Renders a job that was checked. -/
def renderJob (context : JobContext) (id : String) (job : RenderJob) : Action JobResult := do
  context.report begun
  let s ← get
  let config ← Action.ofExcept (ProducerConfig.load s.env s.cwd job.overrides)
  let result ← context.render ⟨job.script, config, job.strict.getD false⟩
  context.report done
  Action.inform .info ("Render job " ++ id ++ " finished")
    [("outputPath", .text result.outputPath), ("renderId", .text result.renderId)]
  pure ⟨result.outputPath, result.duration⟩

/-- Works on the job of this number and payload. -/
def process (context : JobContext) (id : String) (payload : Value) : Action JobResult := do
  match RenderJob.check payload with
  | .failed issues =>
    throw (.unrecoverable ("Invalid render job payload: " ++ issuesText "data" issues))
  | .ok job =>
    Action.inform .info ("Processing render job " ++ id)
      [("chars", .ofNat (Text.unitLength job.script)), ("strict", .bool (job.strict.getD false))]
    concluding id (context.renderJob id job)

end JobContext

end StoryMix
