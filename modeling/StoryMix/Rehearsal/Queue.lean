import StoryMix.Queue.Processor
import StoryMix.Queue.Basic
import StoryMix.Rehearsal.Tools

/-!
# Rehearsed jobs

A queue that only pretends, and jobs that can be told to fail: while they render, or while they report.
-/

namespace StoryMix.Rehearsal

variable (r : Rehearsal)

def queue : JobQueue where
  add _ _ :=
    match r.failQueue with
    | some e => throw e
    | none => pure r.jobId
  close := pure ()
  quit := pure ()

/-- Notes what is to be rendered, and then renders it with rehearsed tools. -/
def renderNoted (request : RenderRequest) : Action Render.Result := do
  Action.noteRequest request
  match r.failRender with
  | some e => throw e
  | none => render r.tools.recorded request

/-- Notes how far a job is, and loses the connection where it is told to. -/
def report (progress : Float) : Action Unit := do
  Action.reportProgress progress
  if r.failProgress.any (· == progress) then
    throw (.error ("lost connection at " ++ Numeral.text progress))

def context : JobContext where
  render := r.renderNoted
  report := r.report

end StoryMix.Rehearsal
