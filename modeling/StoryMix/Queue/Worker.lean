import StoryMix.Config.EnvFile
import StoryMix.Programs.Tools
import StoryMix.Queue.Basic
import StoryMix.Queue.Processor

/-!
# The worker

A worker takes jobs from the queue and renders them with the tools of production. It logs what becomes
of them, and what the queue and its store have to say.
-/

namespace StoryMix.Worker

/-- Starts a worker and gives the voice generator that its renders use. -/
def start : Action VoicegenConfig := do
  let _ ← EnvFile.load
  Queue.connect
  let s ← get
  Action.recordQueue (.worker Queue.name (Queue.countOrOne s.env "RENDER_WORKER_CONCURRENCY"))
  Action.inform .info "Render worker started" [("queue", .text Queue.name)]
  Action.recordQueue (.events Queue.name)
  pure (VoicegenConfig.load s.env s.cwd none none)

/-- How a worker goes about a job. -/
def context (programs : Programs) (voicegen : VoicegenConfig) : JobContext where
  render := render (programs.tools voicegen)
  report := Action.reportProgress

/-- Something that a worker is told. What is told comes from outside and may have any shape. -/
inductive Event where
  /-- The worker has finished a job. -/
  | jobCompleted (job : Value)
  | jobFailed (job error : Value)
  | workerError (error : Value)
  | connected
  | connectionError (error : Value)
  /-- The queue has seen the end of a job. -/
  | completed (report : Value)
  | failed (report : Value)
  | progress (report : Value)

/-- The opening of a message about a job. -/
def jobText (id : Value) : Action String :=
  return "Render job " ++ (← Action.writing id.written?)

/-- The opening of a message of the queue about a job. -/
def queuedText (report : Value) : Action String :=
  return "Job " ++ (← Action.writing (report.field "jobId").written?) ++ " in queue " ++ Queue.name

/-- The log entry that an event leads to. -/
def Event.entry : Event → Action LogEntry
  | jobCompleted job => return ⟨.info, (← jobText (job.field "id")) ++ " completed",
      [.record [("outputPath", (job.field "returnvalue").field "outputPath")]]⟩
  | jobFailed job error => return ⟨.error, (← jobText (job.field "id")) ++ " failed",
      [.record [("error", error.field "message"), ("attempts", job.field "attemptsMade")]]⟩
  | workerError error =>
    return ⟨.error, "Render worker error", [.record [("error", error.field "message")]]⟩
  | connected => return ⟨.info, "Redis connected successfully", []⟩
  | connectionError error =>
    return ⟨.error, "Redis connection error", [.record [("error", error.field "message")]]⟩
  | completed report => return ⟨.info, (← queuedText report) ++ " completed", []⟩
  | failed report => return ⟨.error, (← queuedText report) ++ " failed",
      [.record [("failedReason", report.field "failedReason")]]⟩
  | progress report => return ⟨.debug, (← queuedText report) ++ " progress",
      [.record [("progress", report.field "data")]]⟩

/-- Logs an event. -/
def log (event : Event) : Action Unit := do
  let entry ← event.entry
  Action.say entry.level entry.message entry.arguments

end StoryMix.Worker
