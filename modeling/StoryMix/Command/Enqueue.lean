import StoryMix.Command.Mixer
import StoryMix.Queue.Basic
import StoryMix.Queue.Job

/-!
# Queueing a render

The command line `enqueue-render`: it hands the script of a file to the queue. A job can carry the
settings of a render, but not those of the voice generator, which belong to the worker.
-/

namespace StoryMix

structure EnqueueCommand where
  story : String
  assetsDir : Option String
  outDir : Option String
  refs : List String
  strict : Bool
  deriving DecidableEq, Repr

namespace EnqueueCommand

def flags : Flags where
  options := ["--story", "--assets-dir", "--out-dir", "--ref"]
  switches := ["--strict"]

/-- The options that belong to the worker, with the variables that set them there. -/
def workerOptions : List (String × String) :=
  [("--voicegen", "VOICEGEN_PATH"), ("--device", "VOICEGEN_DEVICE")]

def workerOnly (name variableName : String) : Failure :=
  .configuration (name ++ " cannot be set per job; set " ++ variableName ++
    " in the worker's environment")

/-- No word is an option of the worker, wherever it stands. -/
def checkWords : List String → Except Failure Unit
  | [] => .ok ()
  | word :: rest =>
    match workerOptions.lookup word with
    | some variableName => .error (workerOnly word variableName)
    | none => checkWords rest

def read (words : List String) : Except Failure EnqueueCommand := do
  checkWords words
  let arguments ← readArguments flags words
  let story ← Arguments.required "enqueue-render" "--story" "file" arguments
  return {
    story := story
    assetsDir := Arguments.last? "--assets-dir" arguments
    outDir := Arguments.last? "--out-dir" arguments
    refs := Arguments.values "--ref" arguments
    strict := Arguments.has "--strict" arguments }

/-- The job that renders a script. -/
def job (command : EnqueueCommand) (script : String) : Except Failure RenderJob :=
  (SpeakerRefs.ofItems "--ref" command.refs).map fun refs =>
    ⟨script, some refs, command.assetsDir, command.outDir, some command.strict⟩

/-- There is a job as long as the references can be read. -/
theorem job_eq_ok {command : EnqueueCommand} {script : String} {job : RenderJob} :
    command.job script = .ok job ↔
      ∃ refs, SpeakerRefs.ofItems "--ref" command.refs = .ok refs ∧
        ⟨script, some refs, command.assetsDir, command.outDir, some command.strict⟩ = job := by
  unfold EnqueueCommand.job
  cases SpeakerRefs.ofItems "--ref" command.refs with
  | error f => simp [Except.map]
  | ok refs => simp [Except.map]

/-- Queues the render and prints its number. -/
def run (queue : JobQueue) (command : EnqueueCommand) : Action Unit := do
  let script ← Files.read command.story
  let job ← Action.ofExcept (command.job script)
  let id ← queue.add Queue.jobKind job.toValue
  let written ← Action.writing id.written?
  Action.printLine ("Queued render job " ++ written)
  queue.close
  queue.quit

end EnqueueCommand

/-- Runs the command line to its end and gives its status. The queue is opened before anything else is
looked at. -/
def runEnqueue (queue : JobQueue) (words : List String) : Action Nat := do
  Action.loadEnvironment
  Queue.connect
  Action.status (fun _ => "Error") do
    let command ← Action.ofExcept (EnqueueCommand.read words)
    command.run queue

end StoryMix
