import StoryMix.Proofs.Command.Arguments
import StoryMix.Proofs.Queue.Carried
import StoryMix.Proofs.Queue.Steady

/-!
# In place or by the queue

A render can be asked for in place, or handed to the queue and done by a worker. Three processes take
part: one that renders in place, one that queues the job, and the worker. If they begin with the same
files, variables and working directory, the first comes to a render just when the job of the second is
one that the worker comes to a render with, and then it is the same render on tools with the same voice
generator (`handover`).

What decides is what each process does before it hands over: `RenderCommand.order` before the render,
`EnqueueCommand.order` before the queue. Both read the same words and the same file and the same
references. What the queue refuses because a text is empty, the settings refuse in place.
-/

namespace StoryMix

open StoryMix.Action

variable {s s' : Studio}

/-! ## Processes that begin alike -/

/-- The same files, variables and working directory, and the same operations fail. -/
structure Studio.Alike (s s' : Studio) : Prop where
  tree : s'.tree = s.tree
  cwd : s'.cwd = s.cwd
  env : s'.env = s.env
  refusals : s'.refusals = s.refusals

namespace Files

theorem find_eq (path : String) (s : Studio) :
    find path s = (s.tree.read? (s.resolve path)).elim
      (.error (.error (Obstacle.missing.message (.read path))) s)
      fun text => .ok text s := by
  unfold find
  rw [bind_of_ok (show (get : Action Studio) s = .ok s s from rfl)]
  cases s.tree.read? (s.resolve path) with
  | none => rfl
  | some text => rfl

theorem read_eq_ok_iff {path text : String} :
    read path s = .ok text s' ↔ s.refusals.message? (.read path) = none ∧
      s.tree.read? (s.resolve path) = some text ∧ s' = { s with calls := s.calls.push (.read path) } := by
  have hattempt := attempt_eq (.read path) s
  rw [Studio.refusal?_read] at hattempt
  cases hrefused : s.refusals.message? (.read path) with
  | some message =>
      rw [hrefused] at hattempt
      have hread : read path s = _ := bind_of_error hattempt
      rw [hread]
      exact iff_of_false nofun fun h => nomatch h.1
  | none =>
      rw [hrefused] at hattempt
      have hread : read path s = find path { s with calls := s.calls.push (.read path) } :=
        bind_of_ok hattempt
      rw [hread, find_eq]
      change (s.tree.read? (s.resolve path)).elim _ _ = _ ↔ _
      cases s.tree.read? (s.resolve path) with
      | none => exact iff_of_false nofun fun h => nomatch h.2.1
      | some found =>
          constructor
          · rintro ⟨⟩
            exact ⟨rfl, rfl, rfl⟩
          · rintro ⟨-, ⟨⟩, rfl⟩
            rfl

end Files

namespace EnvFile

/-- The variables when a file of variables has been looked for. -/
def loaded (s : Studio) : Environment :=
  match (found s).head? with
  | none => s.env
  | some path =>
    match s.refusals.message? (.read path), s.tree.read? (s.resolve path) with
    | none, some text => addTo s.env text
    | _, _ => s.env

/-- What a file of variables that is not read leads to. -/
theorem load_of_error {path : String} {e : Thrown} (hfound : (found s).head? = some path)
    (h : addFile path s = .error e s) : ∃ warning, load s = .ok warning s := by
  unfold load
  rw [bind_of_ok (show (get : Action Studio) s = .ok s s from rfl), hfound]
  dsimp only
  rw [bind_of_ok (outcome_of_error h)]
  dsimp only
  rw [bind_of_ok (show (get : Action Studio) s = .ok s s from rfl)]
  split
  · exact ⟨_, rfl⟩
  · exact ⟨_, rfl⟩

theorem load_eq (s : Studio) : ∃ warning, load s = .ok warning { s with env := loaded s } := by
  have hget : (get : Action Studio) s = .ok s s := rfl
  unfold loaded
  cases hfound : (found s).head? with
  | none =>
      unfold load
      rw [bind_of_ok hget, hfound]
      exact ⟨none, rfl⟩
  | some path =>
      have hpermit := Files.permit_eq (.read path) s
      rw [Studio.refusal?_read] at hpermit
      have hfind := Files.find_eq path s
      dsimp only
      cases hrefused : s.refusals.message? (.read path) with
      | some message =>
          rw [hrefused] at hpermit
          exact load_of_error hfound (bind_of_error hpermit)
      | none =>
          rw [hrefused] at hpermit
          cases hread : s.tree.read? (s.resolve path) with
          | none =>
              rw [hread] at hfind
              exact load_of_error hfound ((bind_of_ok hpermit).trans (bind_of_error hfind))
          | some text =>
              rw [hread] at hfind
              have hadd : addFile path s = .ok () { s with env := addTo s.env text } := by
                unfold addFile
                rw [bind_of_ok hpermit, bind_of_ok hfind]
                rfl
              unfold load
              rw [bind_of_ok hget, hfound]
              dsimp only
              rw [bind_of_ok (outcome_of_ok hadd)]
              exact ⟨none, rfl⟩

theorem loaded_of_alike (h : s.Alike s') : loaded s' = loaded s := by
  have hfound : found s' = found s := by
    unfold found Studio.present Studio.resolve
    rw [h.tree, h.cwd]
  unfold loaded Studio.resolve
  rw [hfound, h.tree, h.cwd, h.env, h.refusals]

end EnvFile

theorem loadEnvironment_eq (s : Studio) :
    ∃ stderr, loadEnvironment s = .ok () { s with env := EnvFile.loaded s, stderr := stderr } := by
  obtain ⟨warning, h⟩ := EnvFile.load_eq s
  unfold loadEnvironment
  generalize EnvFile.loaded s = env at h ⊢
  rw [bind_of_ok h]
  cases warning with
  | none => exact ⟨s.stderr, rfl⟩
  | some warning => exact ⟨_, rfl⟩

theorem start_eq (s : Studio) :
    ∃ s', Worker.start s = .ok (VoicegenConfig.load (EnvFile.loaded s) s.cwd none none) s' ∧
      s'.env = EnvFile.loaded s ∧ s'.cwd = s.cwd := by
  obtain ⟨warning, h⟩ := EnvFile.load_eq s
  unfold Worker.start
  generalize EnvFile.loaded s = env at h ⊢
  rw [bind_of_ok h]
  exact ⟨_, rfl, rfl, rfl⟩

/-! ## What is done before -/

/-- What comes before a render in place: the voice generator to use and the render to do. -/
def RenderCommand.order (words : List String) : Action (VoicegenConfig × RenderRequest) := do
  let command ← ofExcept (RenderCommand.read words)
  let script ← Files.read command.story
  let refs ← ofExcept (SpeakerRefs.ofItems "--ref" command.refs)
  let s ← get
  let config ← ofExcept (ProducerConfig.load s.env s.cwd (command.overrides refs))
  pure (VoicegenConfig.load s.env s.cwd command.voicegen command.device, ⟨script, config, command.strict⟩)

/-- What is told of a finished render. -/
def RenderCommand.announce (result : Render.Result) : Action Unit := do
  inform .info ("Rendered " ++ Numeral.fixed 2 result.duration ++ "s of narration")
    [("renderId", .text result.renderId)]
  printLine result.outputPath

/-- What comes before a job is queued: its payload. -/
def EnqueueCommand.order (words : List String) : Action Value := do
  let command ← ofExcept (EnqueueCommand.read words)
  let script ← Files.read command.story
  let job ← ofExcept (command.job script)
  pure job.toValue

theorem runMixer_render (programs : Programs) (words : List String) :
    runMixer programs ("render" :: words) = (do
      loadEnvironment
      status Thrown.name do
        let (voicegen, request) ← RenderCommand.order words
        let result ← render (programs.tools voicegen) request
        RenderCommand.announce result) := by
  have hread : MixerCommand.read ("render" :: words) = .render <$> RenderCommand.read words := rfl
  unfold runMixer RenderCommand.order
  rw [hread]
  cases RenderCommand.read words with
  | error f => rfl
  | ok command =>
      have hrun : ofExcept (MixerCommand.render <$> Except.ok command) =
          (pure (.render command) : Action _) := rfl
      rw [hrun]
      simp only [Action.ofExcept, bind_assoc, pure_bind]
      rfl

theorem runEnqueue_order (queue : JobQueue) (words : List String) :
    runEnqueue queue words = (do
      loadEnvironment
      Queue.connect
      status (fun _ => "Error") do
        let payload ← EnqueueCommand.order words
        let id ← queue.add Queue.jobKind payload
        let written ← writing id.written?
        printLine ("Queued render job " ++ written)
        queue.close
        queue.quit) := by
  unfold runEnqueue EnqueueCommand.order EnqueueCommand.run
  simp only [bind_assoc, pure_bind]

/-- A render in place is come to just when everything is read that it needs. -/
theorem order_render_iff {words : List String} {voicegen : VoicegenConfig} {request : RenderRequest} :
    (∃ s', RenderCommand.order words s = .ok (voicegen, request) s') ↔
      ∃ command refs, RenderCommand.read words = .ok command ∧
        s.refusals.message? (.read command.story) = none ∧
        s.tree.read? (s.resolve command.story) = some request.script ∧
        SpeakerRefs.ofItems "--ref" command.refs = .ok refs ∧
        ProducerConfig.load s.env s.cwd (command.overrides refs) = .ok request.config ∧
        command.strict = request.strict ∧
        VoicegenConfig.load s.env s.cwd command.voicegen command.device = voicegen := by
  constructor
  · rintro ⟨s', h⟩
    obtain ⟨command, _, hfirst, h⟩ := bind_eq_ok.1 h
    obtain ⟨hcommand, rfl⟩ := ofExcept_eq_ok.1 hfirst
    obtain ⟨script, _, hread, h⟩ := bind_eq_ok.1 h
    obtain ⟨hrefused, hscript, rfl⟩ := Files.read_eq_ok_iff.1 hread
    obtain ⟨refs, _, hitems, h⟩ := bind_eq_ok.1 h
    obtain ⟨hrefs, rfl⟩ := ofExcept_eq_ok.1 hitems
    obtain ⟨_, _, hget, h⟩ := bind_eq_ok.1 h
    cases hget
    obtain ⟨config, _, hload, h⟩ := bind_eq_ok.1 h
    obtain ⟨hconfig, rfl⟩ := ofExcept_eq_ok.1 hload
    obtain ⟨h, -⟩ := pure_eq_ok.1 h
    obtain ⟨rfl, rfl⟩ := Prod.mk.inj h
    exact ⟨command, refs, hcommand, hrefused, hscript, hrefs, hconfig, rfl, rfl⟩
  · obtain ⟨script, config, strict⟩ := request
    rintro ⟨command, refs, hcommand, hrefused, hscript, hrefs, hconfig, rfl, rfl⟩
    refine ⟨{ s with calls := s.calls.push (.read command.story) },
      bind_eq_ok.2 ⟨command, s, ofExcept_eq_ok.2 ⟨hcommand, rfl⟩, ?_⟩⟩
    refine bind_eq_ok.2 ⟨script, _, Files.read_eq_ok_iff.2 ⟨hrefused, hscript, rfl⟩, ?_⟩
    refine bind_eq_ok.2 ⟨refs, _, ofExcept_eq_ok.2 ⟨hrefs, rfl⟩, ?_⟩
    refine bind_eq_ok.2 ⟨_, _, rfl, ?_⟩
    exact bind_eq_ok.2 ⟨config, _, ofExcept_eq_ok.2 ⟨hconfig, rfl⟩, rfl⟩

/-- A job is queued just when everything is read that goes with it. -/
theorem order_enqueue_iff {words : List String} {payload : Value} :
    (∃ s', EnqueueCommand.order words s = .ok payload s') ↔
      ∃ command script refs, EnqueueCommand.read words = .ok command ∧
        s.refusals.message? (.read command.story) = none ∧
        s.tree.read? (s.resolve command.story) = some script ∧
        SpeakerRefs.ofItems "--ref" command.refs = .ok refs ∧
        RenderJob.toValue ⟨script, some refs, command.assetsDir, command.outDir, some command.strict⟩ =
          payload := by
  constructor
  · rintro ⟨s', h⟩
    obtain ⟨command, _, hfirst, h⟩ := bind_eq_ok.1 h
    obtain ⟨hcommand, rfl⟩ := ofExcept_eq_ok.1 hfirst
    obtain ⟨script, _, hread, h⟩ := bind_eq_ok.1 h
    obtain ⟨hrefused, hscript, rfl⟩ := Files.read_eq_ok_iff.1 hread
    obtain ⟨job, _, hqueued, h⟩ := bind_eq_ok.1 h
    obtain ⟨refs, hrefs, rfl⟩ := EnqueueCommand.job_eq_ok.1 (ofExcept_eq_ok.1 hqueued).1
    exact ⟨command, script, refs, hcommand, hrefused, hscript, hrefs, (pure_eq_ok.1 h).1⟩
  · rintro ⟨command, script, refs, hcommand, hrefused, hscript, hrefs, rfl⟩
    refine ⟨{ s with calls := s.calls.push (.read command.story) },
      bind_eq_ok.2 ⟨command, s, ofExcept_eq_ok.2 ⟨hcommand, rfl⟩, ?_⟩⟩
    refine bind_eq_ok.2 ⟨script, _, Files.read_eq_ok_iff.2 ⟨hrefused, hscript, rfl⟩, ?_⟩
    exact bind_eq_ok.2
      ⟨_, _, ofExcept_eq_ok.2 ⟨EnqueueCommand.job_eq_ok.2 ⟨refs, hrefs, rfl⟩, rfl⟩, rfl⟩

/-! ## What the worker makes of the payload -/

namespace JobContext

variable {env : Environment} {cwd : String} {payload : Value} {request request' : RenderRequest}

theorem Asks.unique (h : Asks env cwd payload request) (h' : Asks env cwd payload request') :
    request' = request := by
  obtain ⟨job, config, hcheck, hload, rfl⟩ := h
  obtain ⟨job', config', hcheck', hload', rfl⟩ := h'
  obtain rfl := Checked.ok.inj (hcheck.symm.trans hcheck')
  obtain rfl := Except.ok.inj (hload.symm.trans hload')
  rfl

/-- A job comes to a render just when its payload asks for it. -/
theorem requests_process_iff {context : JobContext} (h : context.Steady) (id : String) :
    ((context.recorded.process id payload).after s).requests.toList = s.requests.toList ++ [request] ↔
      Asks s.env s.cwd payload request := by
  obtain ⟨answer, progress, requests, hends, -, hnoted⟩ := endsAs_of_process id h payload s
  rw [hnoted.requests, List.append_cancel_left_eq]
  have hasked {request' : RenderRequest} (hasks : Asks s.env s.cwd payload request') :
      [request'] = [request] ↔ Asks s.env s.cwd payload request := by
    constructor
    · rintro ⟨⟩
      exact hasks
    · exact fun hasks' => by rw [hasks'.unique hasks]
  cases hends with
  | refused hcheck =>
      refine iff_of_false nofun ?_
      rintro ⟨job, config, hcheck', -, -⟩
      cases hcheck.symm.trans hcheck'
  | unset hcheck hload =>
      refine iff_of_false nofun ?_
      rintro ⟨job, config, hcheck', hload', -⟩
      obtain rfl := Checked.ok.inj (hcheck.symm.trans hcheck')
      cases hload.symm.trans hload'
  | rendered hasks | final hasks | passed hasks | lost hasks => exact hasked hasks

/-- A job that has come through the queue asks for what it was meant to ask for. -/
theorem asks_carried_iff {script : String} {refs : SpeakerRefs} {assetsDir outDir : Option String}
    {strict : Bool} (hscript : script ≠ "") (hrefs : refs.Sound) :
    Asks env cwd (RenderJob.toValue ⟨script, some refs, assetsDir, outDir, some strict⟩).carried request ↔
      script = request.script ∧
        ProducerConfig.load env cwd (ProducerConfig.overriding assetsDir outDir refs) = .ok request.config ∧
        strict = request.strict := by
  constructor
  · rintro ⟨job, config, hcheck, hload, rfl⟩
    obtain ⟨-, -, -, -, rfl⟩ := (RenderJob.check_carried hrefs job).1 hcheck
    exact ⟨rfl, (ProducerConfig.load_ordered hrefs).symm.trans hload, rfl⟩
  · obtain ⟨script', config, strict'⟩ := request
    rintro ⟨rfl, hload, rfl⟩
    obtain ⟨hassets, hout, hnonempty⟩ := ProducerConfig.texts_of_load hrefs hload
    exact ⟨_, config, (RenderJob.check_carried hrefs _).2 ⟨hscript, hnonempty, hassets, hout, rfl⟩,
      (ProducerConfig.load_ordered hrefs).trans hload, rfl⟩

end JobContext

/-! ## Both ways -/

/-- Begun in `s`, the words lead to this render in place. -/
def RenderCommand.ComesTo (words : List String) (s : Studio) (voicegen : VoicegenConfig)
    (request : RenderRequest) : Prop :=
  ∃ s', (do loadEnvironment; RenderCommand.order words : Action _) s = .ok (voicegen, request) s'

/-- Begun in `s`, the words lead to a job with this payload. -/
def EnqueueCommand.Queues (words : List String) (s : Studio) (payload : Value) : Prop :=
  ∃ s', (do loadEnvironment; Queue.connect; EnqueueCommand.order words : Action _) s = .ok payload s'

theorem comesTo_iff {words : List String} {voicegen : VoicegenConfig} {request : RenderRequest} :
    RenderCommand.ComesTo words s voicegen request ↔
      ∃ command refs, RenderCommand.read words = .ok command ∧
        s.refusals.message? (.read command.story) = none ∧
        s.tree.read? (s.resolve command.story) = some request.script ∧
        SpeakerRefs.ofItems "--ref" command.refs = .ok refs ∧
        ProducerConfig.load (EnvFile.loaded s) s.cwd (command.overrides refs) = .ok request.config ∧
        command.strict = request.strict ∧
        VoicegenConfig.load (EnvFile.loaded s) s.cwd command.voicegen command.device = voicegen := by
  obtain ⟨stderr, h⟩ := loadEnvironment_eq s
  unfold RenderCommand.ComesTo
  generalize EnvFile.loaded s = env at h ⊢
  rw [bind_of_ok h]
  exact @order_render_iff { s with env := env, stderr := stderr } words voicegen request

theorem queues_iff {words : List String} {payload : Value} :
    EnqueueCommand.Queues words s payload ↔
      ∃ command script refs, EnqueueCommand.read words = .ok command ∧
        s.refusals.message? (.read command.story) = none ∧
        s.tree.read? (s.resolve command.story) = some script ∧
        SpeakerRefs.ofItems "--ref" command.refs = .ok refs ∧
        RenderJob.toValue ⟨script, some refs, command.assetsDir, command.outDir, some command.strict⟩ =
          payload := by
  obtain ⟨stderr, h⟩ := loadEnvironment_eq s
  unfold EnqueueCommand.Queues
  generalize EnvFile.loaded s = env at h
  rw [bind_of_ok h]
  exact @order_enqueue_iff
    { s with env := env, stderr := stderr, queueCalls := (s.queueCalls.push _).push _ } words payload

variable {words : List String} {queueing working : Studio}

/-- Words that leave the voice generator to the worker come to a render in place just when they queue a
job for it. -/
theorem comesTo_iff_queues (hwords : Unreserved words) (hqueueing : s.Alike queueing)
    (hstory : ∀ command, RenderCommand.read words = .ok command →
      s.tree.read? (s.resolve command.story) ≠ some "")
    {voicegen : VoicegenConfig} {request : RenderRequest} :
    RenderCommand.ComesTo words s voicegen request ↔
      VoicegenConfig.load (EnvFile.loaded s) s.cwd none none = voicegen ∧
      ∃ payload, EnqueueCommand.Queues words queueing payload ∧
        JobContext.Asks (EnvFile.loaded s) s.cwd payload.carried request := by
  have hresolve (path : String) : queueing.resolve path = s.resolve path :=
    Studio.resolve_of_cwd hqueueing.cwd path
  have hasks {command : EnqueueCommand} {script : String} {refs : SpeakerRefs}
      (hread : EnqueueCommand.read words = .ok command)
      (hscript : s.tree.read? (s.resolve command.story) = some script)
      (hrefs : SpeakerRefs.ofItems "--ref" command.refs = .ok refs) :=
    @JobContext.asks_carried_iff (EnvFile.loaded s) s.cwd request script refs command.assetsDir
      command.outDir command.strict
      (fun h => hstory command.inPlace ((read_eq_ok_iff hwords).2 ⟨command, hread, rfl⟩) (h ▸ hscript))
      (SpeakerRefs.sound_ofItems hrefs)
  rw [comesTo_iff]
  simp only [queues_iff, hqueueing.tree, hqueueing.refusals, hresolve]
  constructor
  · rintro ⟨_, refs, hread, hrefused, hscript, hrefs, hconfig, hstrict, hvoicegen⟩
    obtain ⟨command, hqueued, rfl⟩ := (read_eq_ok_iff hwords).1 hread
    exact ⟨hvoicegen, _, ⟨command, request.script, refs, hqueued, hrefused, hscript, hrefs, rfl⟩,
      (hasks hqueued hscript hrefs).2 ⟨rfl, hconfig, hstrict⟩⟩
  · rintro ⟨hvoicegen, _, ⟨command, script, refs, hread, hrefused, hscript, hrefs, rfl⟩, hasked⟩
    obtain ⟨rfl, hconfig, hstrict⟩ := (hasks hread hscript hrefs).1 hasked
    exact ⟨command.inPlace, refs, (read_eq_ok_iff hwords).2 ⟨command, hread, rfl⟩, hrefused, hscript,
      hrefs, hconfig, hstrict, hvoicegen⟩

/-- What a command line asks for is rendered in place just when it is rendered by way of the queue, and
then it is the same script with the same settings on tools with the same voice generator. The job is
taken with the variables and the working directory that the worker has started with. -/
theorem handover (hwords : Unreserved words) (hqueueing : s.Alike queueing) (hworking : s.Alike working)
    (hstory : ∀ command, RenderCommand.read words = .ok command →
      s.tree.read? (s.resolve command.story) ≠ some "")
    {context : JobContext} (hcontext : context.Steady) (id : String) {taken : Studio}
    (henv : taken.env = (Worker.start.after working).env)
    (hcwd : taken.cwd = (Worker.start.after working).cwd) :
    (∀ programs, runMixer programs ("render" :: words) = (do
      loadEnvironment
      status Thrown.name do
        let (voicegen, request) ← RenderCommand.order words
        let result ← render (programs.tools voicegen) request
        RenderCommand.announce result)) ∧
    (∀ queue, runEnqueue queue words = (do
      loadEnvironment
      Queue.connect
      status (fun _ => "Error") do
        let payload ← EnqueueCommand.order words
        let id ← queue.add Queue.jobKind payload
        let written ← writing id.written?
        printLine ("Queued render job " ++ written)
        queue.close
        queue.quit)) ∧
    ∀ voicegen request, RenderCommand.ComesTo words s voicegen request ↔
      Worker.start.answer working = .ok voicegen ∧
      ∃ payload, EnqueueCommand.Queues words queueing payload ∧
        ((context.recorded.process id payload.carried).after taken).requests.toList =
          taken.requests.toList ++ [request] := by
  refine ⟨fun programs => runMixer_render programs words, fun queue => runEnqueue_order queue words, ?_⟩
  intro voicegen request
  obtain ⟨started, hstart, hstartedEnv, hstartedCwd⟩ := start_eq working
  rw [after_of_ok hstart, hstartedEnv, EnvFile.loaded_of_alike hworking] at henv
  rw [after_of_ok hstart, hstartedCwd, hworking.cwd] at hcwd
  rw [answer_of_ok hstart, EnvFile.loaded_of_alike hworking, hworking.cwd, Except.ok.injEq,
    comesTo_iff_queues hwords hqueueing hstory]
  simp only [JobContext.requests_process_iff hcontext, henv, hcwd]

/-- Programs that do nothing. -/
def idle : Programs where
  execute _ _ := pure ()
  probe _ := pure .missing
  media _ _ := pure ()

theorem discreet_idle : idle.Discreet :=
  ⟨fun _ _ => .pure (), fun _ => .pure Value.missing, fun _ _ _ => .pure ()⟩

/-- One speaker has a reference in the variables, the other is to be given one. -/
def nightly : Studio :=
  .fresh ⟨[("/w/night.txt", "Ruby: Hello")], []⟩ "/w" ⟨[("VOICE_REFS", "Onyx=onyx.wav")]⟩ []

def nightlyWords : List String :=
  ["--story", "night.txt", "--strict", "--ref", "Ruby=ruby.wav", "--ref", "Ruby=late.wav"]

theorem load_nightly :
    ∃ config, ProducerConfig.load (EnvFile.loaded nightly) nightly.cwd
      (ProducerConfig.overriding none none ⟨[("Ruby", "late.wav")]⟩) = .ok config := by
  have hloaded : EnvFile.loaded nightly = nightly.env := by
    have hfound : EnvFile.found nightly = [] := by decide +kernel
    unfold EnvFile.loaded
    rw [hfound]
    rfl
  have hrefs : ProducerConfig.refsOfEnvironment nightly.env = .ok ⟨[("Onyx", "onyx.wav")]⟩ := by rfl
  have honyx : Entries.placeless "Onyx" = true :=
    Entries.placeless_of_not_numeric fun h => absurd (h 'O' (by decide)) (by decide)
  have hruby : Entries.placeless "Ruby" = true :=
    Entries.placeless_of_not_numeric fun h => absurd (h 'R' (by decide)) (by decide)
  have hpassed : Check.refs (.record [("Onyx", .text "onyx.wav"), ("Ruby", .text "late.wav")]) =
      .ok ⟨[("Onyx", "onyx.wav"), ("Ruby", "late.wav")]⟩ :=
    Check.refs_eq_ok.2 ⟨[("Onyx", "onyx.wav"), ("Ruby", "late.wav")],
      Entries.inOrder_of_placeless (by simp [honyx, hruby]), by decide, rfl⟩
  have hcheck : ProducerConfig.check (ProducerConfig.chosen nightly.env
      (ProducerConfig.overriding none none ⟨[("Ruby", "late.wav")]⟩) ⟨[("Onyx", "onyx.wav")]⟩) =
        .ok ⟨"assets", "out", ⟨[("Onyx", "onyx.wav"), ("Ruby", "late.wav")]⟩, 0, -18, -22⟩ := by
    refine Checked.seq_eq_ok.2 ⟨_, _, Checked.seq_eq_ok.2 ⟨_, _, Checked.seq_eq_ok.2 ⟨_, _,
      Checked.seq_eq_ok.2 ⟨_, _, Checked.seq_eq_ok.2 ⟨_, _, Checked.map_eq_ok.2 ⟨_, rfl, rfl⟩, rfl, rfl⟩,
        Check.field_eq_ok.2 hpassed, rfl⟩, rfl, rfl⟩, rfl, rfl⟩, rfl, rfl⟩
  rw [hloaded, ProducerConfig.load, hrefs]
  dsimp only
  rw [hcheck]
  exact ⟨_, rfl⟩

/-- The night comes to a render, and so does its job. -/
theorem handover_nightly :
    Unreserved nightlyWords ∧ nightly.Alike nightly ∧
    ∃ voicegen request, RenderCommand.ComesTo nightlyWords nightly voicegen request ∧
      (Worker.context idle voicegen).Steady ∧
      Worker.start.answer nightly = .ok voicegen ∧
      ∃ payload, EnqueueCommand.Queues nightlyWords nightly payload ∧
        (((Worker.context idle voicegen).recorded.process "7" payload.carried).after
          (Worker.start.after nightly)).requests.toList =
            (Worker.start.after nightly).requests.toList ++ [request] := by
  have hwords : Unreserved nightlyWords := ⟨by decide, by decide⟩
  have halike : nightly.Alike nightly := ⟨rfl, rfl, rfl, rfl⟩
  have hread : RenderCommand.read nightlyWords = .ok
      ⟨"night.txt", none, none, none, none, ["Ruby=ruby.wav", "Ruby=late.wav"], true⟩ := by
    rfl
  have hrefs : SpeakerRefs.ofItems "--ref" ["Ruby=ruby.wav", "Ruby=late.wav"] =
      .ok ⟨[("Ruby", "late.wav")]⟩ := by
    rfl
  have hscript : nightly.tree.read? (nightly.resolve "night.txt") = some "Ruby: Hello" := by
    decide +kernel
  obtain ⟨config, hconfig⟩ := load_nightly
  have hcomes : RenderCommand.ComesTo nightlyWords nightly
      (VoicegenConfig.load (EnvFile.loaded nightly) nightly.cwd none none)
      ⟨"Ruby: Hello", config, true⟩ :=
    comesTo_iff.2 ⟨_, _, hread, rfl, hscript, hrefs, hconfig, rfl, rfl⟩
  have hsteady := Programs.steady_worker discreet_idle
    (VoicegenConfig.load (EnvFile.loaded nightly) nightly.cwd none none)
  refine ⟨hwords, halike, _, _, hcomes, hsteady, ?_⟩
  refine ((handover hwords halike halike (fun command hcommand => ?_) hsteady "7" rfl rfl).2.2 _ _).1 hcomes
  obtain rfl := Except.ok.inj (hread.symm.trans hcommand)
  rw [hscript]
  decide

end StoryMix
