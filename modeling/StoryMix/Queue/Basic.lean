import StoryMix.Studio.Basic

/-!
# The queue

How renders are queued: under which name, in which store, and how often a job is tried.
-/

namespace StoryMix

/-- The outside queue. -/
structure JobQueue where
  /-- Adds a job of a kind and gives the number under which it is known. -/
  add : String → Value → Action Value
  close : Action Unit
  quit : Action Unit

/-- The same queue with every call on record. -/
def JobQueue.recorded (q : JobQueue) : JobQueue where
  add kind payload := do
    Action.recordQueue (.add kind payload)
    q.add kind payload
  close := do
    Action.recordQueue .close
    q.close
  quit := do
    Action.recordQueue .quit
    q.quit

namespace Queue

def name : String :=
  "story-render"

/-- The kind of all jobs. -/
def jobKind : String :=
  "render"

/-- Where the queue is stored. -/
def storeUrl (env : Environment) : String :=
  ((env.get? "REDIS_URL").filter (· ≠ "")).getD "redis://localhost:6379"

/-- A number of the environment; one if there is none, or nothing that counts. -/
def countOrOne (env : Environment) (variableName : String) : Float :=
  match env.number? variableName with
  | some x => if x == 0 || x.isNaN then 1 else x
  | none => 1

/-- A failed render is tried again only if the environment says so. -/
def jobDefaults (env : Environment) : JobDefaults where
  attempts := countOrOne env "RENDER_JOB_ATTEMPTS"
  backoff := "exponential"
  backoffDelay := 5000
  keptCompleted := 100
  keptCompletedAge := 24 * 3600
  keptFailed := 200

/-- Connects to the store and opens the queue. -/
def connect : Action Unit := do
  let env := (← get).env
  Action.recordQueue (.connect (storeUrl env))
  Action.recordQueue (.queue name (jobDefaults env))

end Queue

end StoryMix
