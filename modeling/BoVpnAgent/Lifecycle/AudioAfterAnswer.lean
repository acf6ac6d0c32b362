import BoVpnAgent.Lifecycle.CarriedOut
import BoVpnAgent.Lifecycle.Installation

/-! # No audio without an answer

    What a player says about its vehicle.  Its job has a check that came out
    as ready, so the last task of this check is finished; and a task that is
    finished was carried out by the daemon.

    The step of the whole installation is one of its deployment, so that what
    the sessions have done is accounted for along its runs as well
    (`Watched.step`).
-/

namespace BoVpnAgent.Installation

open ContainerNamespaceExecutor (SessionAction)
open Readiness
open Deployment (jobLabels reachConnects reachEnds reachJob reachOutcome reachPosted
  sampleWorkerConfig)

variable {I : Interp} {config : WorkerConfig} {daemon_config : RunnerDaemonConfig}
  {subject : Ref → Subject}

/-! ### The tasks of a check -/

/-- The check in front of a playback starts at most three tasks, all of them
    for its vehicle, and no other check has one of them.  Every task but the
    last has ended with `vehicle_unreachable`.  When a player was started for
    the job, the last one is finished. -/
theorem checks_in_turn {ls : List Label}
    (hnew : (system I config daemon_config subject).Along New
      (system I config daemon_config subject).init ls) (r : Ref) :
    let s := (system I config daemon_config subject).play ls
    (s.check r).tasks.length ≤ 3 ∧ (s.check r).tasks.Nodup ∧
      (∀ id ∈ (s.check r).tasks, ∃ t, s.deployment.worker.service.task? id = some t ∧
        IsCheck (subject r) t) ∧
      (∀ r', r ≠ r' → ∀ id ∈ (s.check r).tasks, id ∉ (s.check r').tasks) ∧
      (∀ id ∈ (s.check r).tasks.dropLast, Unreached s.deployment.worker id) ∧
      ∀ p process, s.playback.processes.read p = some process → process.kind = .player →
        process.job = r → ∃ id ∈ (s.check r).tasks.getLast?,
          Verified s.deployment.worker (subject r) id := by
  have hend := installed_play hnew
  have hcheck := hend.checks.checks r
  refine ⟨?_, hcheck.nodup, fun id hid => ?_, hend.checks.apart r, hcheck.past_dropLast, ?_⟩
  · exact ((Nat.le_add_right _ _).trans hcheck.count).trans hcheck.attempt
  · obtain ⟨x, hx, hvehicle⟩ := hcheck.checks id hid
    exact ⟨x.task, (Worker.view_eq_some.mp hx).2.1, hvehicle⟩
  · rintro p process hp hplayer rfl
    exact hcheck.ready (hend.checks.players p process hp hplayer)

/-! ### What the sessions have done -/

/-- The steps of the session of the job `id` in a step of the installation. -/
def Label.performs (id : PyStr) : Label → List SessionAction
  | .deployment l => l.performs id
  | .playback _ | .check _ _ => []

/-- What the surroundings owe to the deployment, and new request ids. -/
def Honest (I : Interp) (daemon_config : RunnerDaemonConfig) (s : State) : Label → Prop
  | .deployment l => Deployment.Honest I daemon_config s.deployment l
  | .playback _ => True
  | .check r e => New s (.check r e)

theorem new_of_honest {s : State} {l : Label} (h : Honest I daemon_config s l) : New s l := by
  cases l with
  | check => exact h
  | deployment | playback => trivial

structure Watched (I : Interp) (config : WorkerConfig) (daemon_config : RunnerDaemonConfig)
    (subject : Ref → Subject) (acts : PyStr → List SessionAction) (s : State) : Prop where
  deployment : Deployment.Accounted I config daemon_config acts s.deployment
  checks : Invariant subject s

theorem Watched.step {url : PyStr} (hurl : config.runner_url = some url) (hne : url ≠ [])
    {acts : PyStr → List SessionAction} {s s' : State} {l : Label}
    (h : Watched I config daemon_config subject acts s)
    (hstep : (system I config daemon_config subject).step s l s')
    (hhonest : Honest I daemon_config s l) :
    Watched I config daemon_config subject (fun id => acts id ++ l.performs id) s' := by
  have hquiet : (fun id => acts id ++ []) = acts := funext fun id => List.append_nil _
  cases l with
  | deployment l =>
    obtain ⟨d, hd, rfl⟩ := Option.map_eq_some_iff.mp hstep
    have hworker := h.deployment.invariant.worker
    exact ⟨h.deployment.step hurl hne hd hhonest,
      h.checks.deployment_step hworker (Deployment.worker_star hd)⟩
  | playback l =>
    simp only [Lts.System.step, system, next] at hstep
    split at hstep
    · next hallows =>
      obtain ⟨p, hp, rfl⟩ := Option.map_eq_some_iff.mp hstep
      refine ⟨?_, h.checks.playback_step hallows hp⟩
      simp only [Label.performs, hquiet]
      exact h.deployment
    · cases hstep
  | check r e =>
    refine ⟨?_, h.checks.check_step h.deployment.invariant hhonest hstep⟩
    obtain ⟨_, _, d, -, -, hcreate, rfl⟩ | ⟨c, -, -, -, rfl⟩ := check_next_cases hstep
    · -- the request of the check is one of many at the worker
      exact h.deployment.step hurl hne hcreate trivial
    · simp only [Label.performs, hquiet]
      exact h.deployment

/-- The steps that the session of the job `id` takes on the way through a list
    of labels. -/
def performed (I : Interp) (config : WorkerConfig) (daemon_config : RunnerDaemonConfig)
    (subject : Ref → Subject) (ls : List Label) (id : PyStr) : List SessionAction :=
  ((system I config daemon_config subject).record (fun _ _ l => [l])
    (system I config daemon_config subject).init ls).flatMap (Label.performs id)

theorem watched_play {url : PyStr} (hurl : config.runner_url = some url) (hne : url ≠ [])
    {ls : List Label}
    (hhonest : (system I config daemon_config subject).Along (Honest I daemon_config)
      (system I config daemon_config subject).init ls) :
    Watched I config daemon_config subject (performed I config daemon_config subject ls)
      ((system I config daemon_config subject).play ls) := by
  have hinit : Watched I config daemon_config subject
      (fun id => ([] : List Label).flatMap (Label.performs id))
      (system I config daemon_config subject).init := ⟨Deployment.accounted_init, .init⟩
  refine Lts.record_rule (P := fun taken s => Watched I config daemon_config subject
    (fun id => taken.flatMap (Label.performs id)) s) ?_ hinit hhonest
  intro taken s l s' h hl hstep
  simp only [List.flatMap_append, List.flatMap_singleton]
  exact h.step hurl hne hstep hl

/-- A player is started only for a vehicle that has answered: the daemon has a
    finished job for this vehicle, whose session has found the VPN connected
    and then port 22 or 443 of the vehicle open. -/
theorem audio_only_after_answer {url : PyStr} (hurl : config.runner_url = some url) (hne : url ≠ [])
    {ls : List Label}
    (hhonest : (system I config daemon_config subject).Along (Honest I daemon_config)
      (system I config daemon_config subject).init ls) {p : Ref} {process : Playback.Process}
    (hp : ((system I config daemon_config subject).play ls).playback.processes.read p =
      some process) (hplayer : process.kind = .player) :
    ∃ job_id job, ((system I config daemon_config subject).play
        ls).deployment.daemon.daemon.jobs.get? job_id = some job ∧ job.state = .task .finished ∧
      job.task.vehicle = (subject process.job).vehicle ∧
      ContainerNamespaceExecutor.Answered I daemon_config job.task
        (performed I config daemon_config subject ls job_id) := by
  have hend := watched_play hurl hne hhonest
  have hready := hend.checks.players p process hp hplayer
  -- the last task of the check is finished
  obtain ⟨id, -, _, ⟨-, x, hx, rfl, -⟩, hfinished, hcheck⟩ :=
    (hend.checks.checks process.job).ready hready
  obtain ⟨job_id, job, hjob, hstate, hasks, hcarried⟩ := hend.deployment.carried_out hx hfinished
  obtain ⟨_, -, -, hdone⟩ := hcarried hcheck.runner_mode
  exact ⟨job_id, job, hjob, hstate, hasks.vehicle.trans hcheck.vehicle,
    hdone.answered (hasks.operation.trans hcheck.operation)⟩

/-! ### A playback behind an answer -/

def answeringVehicle : Subject :=
  { user_id := 7, number := "1".py,
    address := ⟨"172.26.0.1".py, 0xAC1A0001, by decide, by decide⟩ }

/-- The steps of the bot up to the message in front of the check. -/
def toCheck : List Playback.Label :=
  [.take 7, .register, .start true] ++
    ([.returns, .look, .spawn, .store, .terminate] : List Playback.Action).map (.thread 0) ++
    [.exits 0 true] ++ ([.wait, .clear, .look] : List Playback.Action).map (.thread 0)

def begins : List Label := toCheck.map .playback ++ [.check 0 (.uuid "u1".py)]

def posts : Label := .check 0 (.post (sampleEnv "t1"))

def enters : List Label :=
  [.check 0 (.clock 0), .deployment (.worker (.thread "t1".py .fetch)),
    .deployment (.worker (.thread "t1".py .launch)), .deployment (.worker (.thread "t1".py .enter))]

def asks : Label :=
  .deployment (.runner "t1".py sampleNow (.post (reachJob "audio-u1".py answeringVehicle.vehicle
    { mode := "container_secret".py, username := [], password := [] } 90) (sampleJobEnv "j1")))

def connects : List Label := (reachPosted ++ jobLabels reachConnects).map .deployment

def operates : Label :=
  .deployment (.daemon (.daemon (.job "j1".py (.session (.operate reachOutcome)))))

/-- The task is finished, the check sees that, and the player is launched. -/
def plays : List Label :=
  reachEnds.map .deployment ++ [.check 0 (.clock 1), .check 0 (.get sampleNow)] ++
    ([.returns, .look, .returns, .launch] : List Playback.Action).map fun a =>
      .playback (.thread 0 a)

def answeredRun : List Label :=
  begins ++ ([posts] ++ (enters ++ ([asks] ++ (connects ++ ([operates] ++ plays)))))

abbrev answeredSystem : Lts.System State Label :=
  system sampleInterp sampleWorkerConfig sampleDaemonConfig fun _ => answeringVehicle

/-- The surroundings have no part in the step. -/
def Label.alone : Label → Bool
  | .deployment l => l.alone
  | .playback _ => true
  | .check _ (.post _) => false
  | .check _ _ => true

theorem honest_of_alone {l : Label} (h : l.alone = true) (s : State) :
    Honest I daemon_config s l := by
  cases l with
  | deployment l => exact Deployment.honest_of_alone h s.deployment
  | playback => trivial
  | check r e =>
    cases e with
    | post => cases h
    | _ => trivial

theorem along_of_alone {ls : List Label} (h : ls.all Label.alone = true) (s : State) :
    (system I config daemon_config subject).Along (Honest I daemon_config) s ls :=
  Lts.along_of_mem (fun l hl => honest_of_alone (List.all_eq_true.mp h l hl)) s

/-- A worker without any task has not seen the request id. -/
theorem new_of_empty {s : State} {r : Ref} (env : CreateEnv)
    (hempty : s.deployment.worker.service.tasks_by_request_id.values.isEmpty = true) :
    New s (.check r (.post env)) := by
  intro request_id _
  cases hget : s.deployment.worker.service.tasks_by_request_id.get? request_id with
  | none => rw [Service.request?, hget, Option.bind_none]
  | some object =>
    have hmem := (Dict.mem_values_iff _ _).mpr ⟨request_id, hget⟩
    rw [List.isEmpty_iff.mp hempty] at hmem
    cases hmem

set_option maxRecDepth 4000 in
theorem honest_answeredRun :
    answeredSystem.Along (Honest sampleInterp sampleDaemonConfig) answeredSystem.init
      answeredRun := by
  refine Lts.along_append (along_of_alone (by decide) _) ?_
  refine Lts.along_append ⟨new_of_empty (sampleEnv "t1") (by decide +kernel), trivial⟩ ?_
  refine Lts.along_append (along_of_alone (by decide) _) ?_
  refine Lts.along_append ⟨Deployment.honest_post sampleInterp sampleDaemonConfig sampleNow
    (sampleJobEnv "j1") (by decide +kernel), trivial⟩ ?_
  refine Lts.along_append (along_of_alone (by decide) _) ?_
  refine Lts.along_append ⟨Deployment.honest_operate "172.26.0.1".py 90 (by decide +kernel)
    (by decide +kernel), trivial⟩ ?_
  exact along_of_alone (by decide) _

set_option maxRecDepth 4000 in
theorem checks_in_turn_sample :
    ∃ id, (((system sampleInterp sampleWorkerConfig sampleDaemonConfig
        fun _ => answeringVehicle).play answeredRun).check 0).tasks.getLast? = some id ∧
      Verified ((system sampleInterp sampleWorkerConfig sampleDaemonConfig
        fun _ => answeringVehicle).play answeredRun).deployment.worker answeringVehicle id := by
  have hplayer : ((system sampleInterp sampleWorkerConfig sampleDaemonConfig
      fun _ => answeringVehicle).play answeredRun).playback.processes.read 1 =
        some ⟨.player, 0, none, false, false⟩ := by
    decide +kernel
  have hnew := Lts.along_mono (fun _ _ => new_of_honest) honest_answeredRun
  obtain ⟨-, -, -, -, -, hlast⟩ := checks_in_turn hnew 0
  exact hlast 1 _ hplayer rfl rfl

set_option maxRecDepth 4000 in
theorem audio_only_after_answer_sample :
    ∃ job_id job, ((system sampleInterp sampleWorkerConfig sampleDaemonConfig
        fun _ => answeringVehicle).play answeredRun).deployment.daemon.daemon.jobs.get? job_id =
          some job ∧
      job.task.vehicle = answeringVehicle.vehicle ∧
      ContainerNamespaceExecutor.Answered sampleInterp sampleDaemonConfig job.task
        (performed sampleInterp sampleWorkerConfig sampleDaemonConfig (fun _ => answeringVehicle)
          answeredRun job_id) := by
  have hplayer : ((system sampleInterp sampleWorkerConfig sampleDaemonConfig
      fun _ => answeringVehicle).play answeredRun).playback.processes.read 1 =
        some ⟨.player, 0, none, false, false⟩ := by
    decide +kernel
  have hurl : sampleWorkerConfig.runner_url = some "http://127.0.0.1:8090".py := rfl
  obtain ⟨job_id, job, hjob, -, hvehicle, hanswered⟩ :=
    audio_only_after_answer hurl (by decide) honest_answeredRun hplayer rfl
  exact ⟨job_id, job, hjob, hvehicle, hanswered⟩

end BoVpnAgent.Installation
