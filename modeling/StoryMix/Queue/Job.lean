import StoryMix.Config.Schema

/-!
# Jobs

A render as it is handed over in the queue: the script itself and what the job says about it. Who takes
the job checks it, since anything may be in the queue.
-/

namespace StoryMix

structure RenderJob where
  script : String
  refs : Option SpeakerRefs
  assetsDir : Option String
  outDir : Option String
  strict : Option Bool

namespace RenderJob

/-- A job as it is read from the queue. -/
def check : Check RenderJob :=
  .record fun v => RenderJob.mk
    <$> Check.field "script" .text v
    <*> Check.field "speakerRefs" (.optional .refs) v
    <*> Check.field "assetsDir" (.optional .text) v
    <*> Check.field "outDir" (.optional .text) v
    <*> Check.field "strict" (.optional .flag) v

/-- The fields that a value has. -/
def givenFields (fields : List (String × Value)) : List (String × Value) :=
  fields.filter fun f => match f.2 with
    | .missing => false
    | _ => true

/-- What a job asks for beside what the environment says. -/
def overrides (job : RenderJob) : Value :=
  .record [("assetsDir", .ofText? job.assetsDir), ("outDir", .ofText? job.outDir),
    ("speakerRefs", job.refs.elim .missing SpeakerRefs.toValue)]

/-- A job as it is written to the queue. -/
def toValue (job : RenderJob) : Value :=
  .record (givenFields [("script", .text job.script),
    ("speakerRefs", job.refs.elim .missing SpeakerRefs.toValue),
    ("assetsDir", .ofText? job.assetsDir), ("outDir", .ofText? job.outDir),
    ("strict", job.strict.elim .missing .bool)])

end RenderJob

end StoryMix
