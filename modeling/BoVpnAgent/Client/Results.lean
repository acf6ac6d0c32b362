import BoVpnAgent.Client.RunnerDaemonClient
import BoVpnAgent.Daemon.Snapshots

/-! # Results that reach the worker

    The daemon's executor ends with a result or with a failure, and the
    worker sees only the responses of the job.  This file shows that what it
    makes of them is what the executor ended with: the client waits through
    all responses of the open job, and ends at the first one that shows a
    terminal state.
-/

namespace BoVpnAgent

/-- The response as the client receives it: it is sent as JSON and read
    back. -/
def JobResponse.received (r : JobResponse) : Json.Fields :=
  match r.to_json with
  | .obj fields => fields
  | _ => []

namespace RunnerDaemonClient

open Daemon (Keeps)

variable {I : Interp} {config : RunnerDaemonConfig}

/-! ### The fields of a response -/

theorem lookup_optional {key k : PyStr} {value : Option Json} {fields : Json.Fields} :
    Dict.lookup k (Json.optional key value ++ fields) =
      (if key = k then value else none).or (Dict.lookup k fields) := by
  cases value with
  | none => simp [Json.optional]
  | some x =>
    show (if key = k then some x else _) = _
    split <;> rfl

/-- The fields of a response that the client reads. -/
structure Reads (r : JobResponse) (job : Json.Fields) : Prop where
  job_id : Json.get? job "job_id".py = some (.str r.job_id)
  state : Json.get? job "state".py = some (.str r.state.name.py)
  phase_message : Json.get? job "phase_message".py = some (.str r.phase_message)
  warnings : Json.get? job "warnings".py = some (.arr r.warnings)
  summary : Json.get? job "summary".py = r.summary
  data : Json.get? job "data".py = r.data
  artifacts : Json.get? job "artifacts".py = r.artifacts
  error_code : Json.get? job "error_code".py = r.error_code.map .str
  message : Json.get? job "message".py = r.message.map .str

theorem reads_received (r : JobResponse) : Reads r r.received := by
  have hnil : ∀ k, Dict.lookup k ([] : Json.Fields) = none := fun _ => rfl
  have hfields : ∀ key, key ∉ ["ok".py, "job_id".py, "request_id".py, "state".py,
      "phase_message".py, "operation".py, "warnings".py] →
      Json.get? r.received key = Dict.lookup key (Json.optional "summary".py r.summary ++
        (Json.optional "data".py r.data ++ (Json.optional "artifacts".py r.artifacts ++
          (Json.optional "error_code".py (r.error_code.map Json.str) ++
            (Json.optional "message".py (r.message.map Json.str) ++ []))))) := by
    intro key hkey
    simp only [List.mem_cons, List.not_mem_nil, or_false, not_or] at hkey
    obtain ⟨h₁, h₂, h₃, h₄, h₅, h₆, h₇⟩ := hkey
    simp only [JobResponse.received, JobResponse.to_json, Json.get?, List.cons_append,
      List.nil_append, List.append_assoc, List.append_nil, Dict.lookup, Ne.symm h₁, Ne.symm h₂,
      Ne.symm h₃, Ne.symm h₄, Ne.symm h₅, Ne.symm h₆, Ne.symm h₇, if_false]
  refine ⟨rfl, rfl, rfl, rfl, ?_, ?_, ?_, ?_, ?_⟩
  all_goals
    rw [hfields _ (by decide)]
    simp +decide only [lookup_optional, hnil, if_true, if_false, Option.none_or, Option.or_none]

/-! ### One round -/

theorem text_str {job : Json.Fields} {key : String} {default s : PyStr}
    (h : Json.get? job key.py = some (.str s)) : text I job key default = .ok s := by
  unfold text
  rw [h]
  rfl

theorem text_or_str {job : Json.Fields} {key default : String} {s : PyStr}
    (h : Json.get? job key.py = some (.str s)) (hne : s ≠ []) :
    text_or I job key default = .ok s := by
  have htruthy : Json.ifTruthy (.str s) = some (.str s) := if_pos (decide_eq_true hne)
  unfold text_or
  rw [h, Option.bind_some, htruthy]
  rfl

/-- How a round on a response ends. -/
theorem round_ended {r : JobResponse} {job : Json.Fields} (h : Reads r job) :
    (round I job).ended = ended (result I r.state.name.py job) := by
  unfold round
  simp only [text_str h.state, text_str h.phase_message, bind, Except.bind, pure, Except.pure]

/-- The client goes on after a response of an open job. -/
theorem round_open {r : JobResponse} {job : Json.Fields} (h : Reads r job)
    (hopen : r.state.terminal = false) : (round I job).ended = none := by
  rw [round_ended h]
  have hname : r.state.name.py ≠ "finished".py ∧ r.state.name.py ≠ "timeout".py ∧
      r.state.name.py ≠ "failed".py := by
    cases hstate : r.state with
    | cancelled => decide
    | task st =>
      rw [hstate] at hopen
      cases st <;> first | decide | cases hopen
  unfold result
  rw [if_neg hname.1, if_neg hname.2.1, if_neg hname.2.2]
  rfl

/-! ### Outcomes -/

/-- A result with a summary, data and lists as `RunnerResult` declares them,
    or a failure that has a code and a message. -/
def Transferable : Outcome → Prop
  | .returned result =>
    result.summary.isStr = true ∧ result.data.isObj = true ∧
      optionalList (fun _ => true) result.artifacts = true ∧
      optionalList (fun _ => true) result.warnings = true
  | .raised (.runnerFailure error_code message) => error_code ≠ [] ∧ message ≠ []
  | .raised _ => False

/-- The same outcome, where lists that are `None` are empty. -/
def delivered : Outcome → Outcome
  | .returned result =>
    .returned { result with artifacts := orEmptyList result.artifacts
                            warnings := orEmptyList result.warnings }
  | .raised exc => .raised exc

theorem orEmptyList_of_optionalList {x : Json} (h : optionalList (fun _ => true) x = true) :
    ∃ xs, orEmptyList x = .arr xs := by
  cases x with
  | null => exact ⟨[], rfl⟩
  | arr xs =>
    cases xs with
    | nil => exact ⟨[], rfl⟩
    | cons x xs => exact ⟨x :: xs, rfl⟩
  | _ => cases h

/-- An empty list or dictionary is left out of the response, and what is
    missing is read as empty. -/
theorem list_or_empty_ifTruthy (xs : List Json) :
    list_or_empty (Json.ifTruthy (.arr xs)) = .arr xs := by
  cases xs <;> rfl

theorem dict_or_empty_ifTruthy (fields : Json.Fields) :
    dict_or_empty (Json.ifTruthy (.obj fields)) = .obj fields := by
  cases fields <;> rfl

/-- What a job that was settled with a result shows. -/
theorem finished_response {j : RunnerJob} {result : RunnerResult} {r : JobResponse} {xs : List Json}
    (hopen : j.state.terminal = false) (hwarnings : orEmptyList result.warnings = .arr xs)
    (h : (Daemon.conclude j (.ended (.returned result))).to_response = .ok r) :
    r.state = .task .finished ∧ r.summary = result.summary.unlessNull ∧
      r.data = result.data.ifTruthy ∧ r.artifacts = (orEmptyList result.artifacts).ifTruthy ∧
      r.warnings = xs := by
  simp only [Daemon.conclude, hopen, Bool.false_eq_true, if_false, RunnerJob.to_response,
    RunnerJob.set_state, hwarnings, Json.iter?] at h
  obtain rfl := Except.ok.inj h
  exact ⟨rfl, rfl, rfl, rfl, rfl⟩

/-- What a job that was settled with a failure shows. -/
theorem failed_response {j : RunnerJob} {error_code message : PyStr} {r : JobResponse}
    (hopen : j.state.terminal = false)
    (h : (Daemon.conclude j (.ended (.raised (.runnerFailure error_code message)))).to_response =
      .ok r) :
    r.state = .task .failed ∧ r.error_code = some error_code ∧ r.message = some message := by
  simp only [Daemon.conclude, hopen, Bool.false_eq_true, if_false, RunnerJob.to_response,
    RunnerJob.fail, RunnerJob.set_state] at h
  split at h
  · cases h
  · obtain rfl := Except.ok.inj h
    exact ⟨rfl, rfl, rfl⟩

theorem result_finished {r : JobResponse} {job : Json.Fields} (h : Reads r job) {summary : PyStr}
    {fields : Json.Fields} {artifacts : List Json} (hsummary : r.summary = some (.str summary))
    (hdata : r.data = Json.ifTruthy (.obj fields))
    (hartifacts : r.artifacts = Json.ifTruthy (.arr artifacts)) :
    result I "finished".py job =
      .ok (some { summary := .str summary, data := .obj fields, artifacts := .arr artifacts
                  warnings := .arr r.warnings }) := by
  have htext : text I job "summary" "Операция выполнена".py = .ok summary :=
    text_str (h.summary.trans hsummary)
  unfold result
  rw [if_pos rfl, htext, h.data, h.artifacts, h.warnings, hdata, hartifacts,
    list_or_empty_ifTruthy, dict_or_empty_ifTruthy]
  rfl

theorem result_failed {r : JobResponse} {job : Json.Fields} (h : Reads r job)
    {error_code message : PyStr} (hcode : r.error_code = some error_code)
    (hmessage : r.message = some message) (hne : error_code ≠ []) (hne' : message ≠ []) :
    result I "failed".py job = .error (.runnerFailure error_code message) := by
  have hcode' : text_or I job "error_code" "runner_failed" = .ok error_code :=
    text_or_str (h.error_code.trans (by rw [hcode]; rfl)) hne
  have hmessage' : text_or I job "message" "Runner job failed" = .ok message :=
    text_or_str (h.message.trans (by rw [hmessage]; rfl)) hne'
  unfold result
  rw [if_neg (by decide), if_neg (by decide), if_pos rfl, hcode', hmessage']
  rfl

/-- The client ends a response that shows the verdict of a settled job with
    the outcome that settled it. -/
theorem round_settled {j : RunnerJob} {o : Outcome} {r r' : JobResponse} {job : Json.Fields}
    (hopen : j.state.terminal = false) (ho : Transferable o)
    (hr' : (Daemon.conclude j (.ended o)).to_response = .ok r') (hverdict : r'.verdict = r.verdict)
    (h : Reads r job) : (round I job).ended = some (delivered o) := by
  -- the answer shows the fields of the settled job, whenever it was made
  have hfield : ∀ {α : Type} (f : JobResponse → α), f r.verdict = f r'.verdict :=
    fun f => congrArg f hverdict.symm
  have hstate : r.state = r'.state := hfield (·.state)
  rw [round_ended h, hstate]
  cases o with
  | returned res =>
    obtain ⟨summary, data, artifacts, warnings⟩ := res
    obtain ⟨hsummary, hdata, hartifacts, hwarnings⟩ := ho
    obtain ⟨xs, hxs⟩ := orEmptyList_of_optionalList hartifacts
    obtain ⟨ys, hys⟩ := orEmptyList_of_optionalList hwarnings
    cases summary with
    | str summary =>
      cases data with
      | obj fields =>
        obtain ⟨hfinished, hsummary', hdata', hartifacts', hwarnings'⟩ :=
          finished_response hopen hys hr'
        have hsame : r.warnings = ys := (hfield (·.warnings)).trans hwarnings'
        have hlist : r.artifacts = Json.ifTruthy (.arr xs) :=
          (hfield (·.artifacts)).trans (hartifacts'.trans (congrArg Json.ifTruthy hxs))
        have hresult := result_finished (I := I) h ((hfield (·.summary)).trans hsummary')
          ((hfield (·.data)).trans hdata') hlist
        rw [hfinished]
        refine (congrArg ended hresult).trans ?_
        simp only [ended, Option.map_some, delivered, hxs, hys, hsame]
      | _ => cases hdata
    | _ => cases hsummary
  | raised exc =>
    cases exc with
    | runnerFailure error_code message =>
      obtain ⟨hne, hne'⟩ := ho
      obtain ⟨hfailed, hcode, hmessage⟩ := failed_response hopen hr'
      rw [hfailed]
      exact congrArg ended (result_failed h ((hfield (·.error_code)).trans hcode)
        ((hfield (·.message)).trans hmessage) hne hne')
    | _ => exact ho.elim

/-! ### The loop -/

/-- The client reads on through the responses of an open job. -/
theorem loop_open {before : List JobResponse} (hopen : ∀ r ∈ before, r.state.terminal = false)
    (jobs : List Json.Fields) :
    (loop I (before.map JobResponse.received ++ jobs)).2 = (loop I jobs).2 := by
  induction before with
  | nil => rfl
  | cons r before ih =>
    have hround := round_open (I := I) (reads_received r) (hopen r List.mem_cons_self)
    rw [List.map_cons, List.cons_append, loop]
    simp only [hround]
    exact ih fun q hq => hopen q (List.mem_cons_of_mem _ hq)

theorem loop_ended {job : Json.Fields} {jobs : List Json.Fields} {o : Outcome}
    (h : (round I job).ended = some o) :
    (loop I (job :: jobs)).2 = some { outcome := o, unread := jobs } := by
  rw [loop]
  simp only [h]

theorem job_id_received (r : JobResponse) : job_id I r.received = .ok r.job_id := by
  unfold job_id
  rw [(reads_received r).job_id]
  rfl

/-! ### Polls -/

/-- The answers of `get_job` at moments of a run from `s` to `e`. -/
inductive Polls (I : Interp) (config : RunnerDaemonConfig) (id : PyStr) :
    Daemon.State → List JobResponse → Daemon.State → Prop where
  | done {s e : Daemon.State} (h : Lts.Star (Daemon.daemon I config) s e) : Polls I config id s [] e
  | poll {s p e : Daemon.State} {r : JobResponse} {rs : List JobResponse}
      (h : Lts.Star (Daemon.daemon I config) s p) (hget : RunnerDaemon.get_job p.jobs id = .ok r)
      (hrest : Polls I config id p rs e) : Polls I config id s (r :: rs) e

theorem Polls.star {id : PyStr} {s e : Daemon.State} {rs : List JobResponse}
    (h : Polls I config id s rs e) : Lts.Star (Daemon.daemon I config) s e := by
  induction h with
  | done h => exact h
  | poll h hget hrest ih => exact h.trans ih

/-- Each answer is the response of the job at some moment of the run. -/
theorem Polls.response {id : PyStr} {s e : Daemon.State} {rs : List JobResponse}
    (h : Polls I config id s rs e) : ∀ r ∈ rs, ∃ p, Lts.Star (Daemon.daemon I config) s p ∧
      Lts.Star (Daemon.daemon I config) p e ∧ RunnerDaemon.get_job p.jobs id = .ok r := by
  induction h with
  | done h => exact fun _ hr => (nomatch hr)
  | poll h hget hrest ih =>
    refine List.forall_mem_cons.mpr ⟨⟨_, h, hrest.star, hget⟩, fun r hr => ?_⟩
    obtain ⟨p, hp, hlater, hget'⟩ := ih r hr
    exact ⟨p, h.trans hp, hlater, hget'⟩

theorem get_job_view {p : Daemon.State} {id : PyStr} {x : Daemon.Execution}
    (hx : p.view id = some x) :
    RunnerDaemon.get_job p.jobs id = RunnerJob.read_response fun _ => x.job := by
  rw [RunnerJob.read_response_const]
  unfold RunnerDaemon.get_job
  rw [(Daemon.view_eq_some.mp hx).2]

/-- The section that settles the job `id` has run: the job was open, and its
    runner had ended with `o`. -/
def Settles (I : Interp) (config : RunnerDaemonConfig) (id : PyStr) (o : Outcome)
    (t t' : Daemon.State) : Prop :=
  (∃ x, t.view id = some x ∧ x.job.state.terminal = false ∧ x.runner = .ended o) ∧
    (Daemon.daemon I config).step t (.job id .conclude) t'

/-- The job that a settling section leaves. -/
theorem Settles.job {id : PyStr} {o : Outcome} {t t' : Daemon.State}
    (hr : Lts.Reachable (Daemon.daemon I config) t) (h : Settles I config id o t t') :
    ∃ j x', t'.view id = some x' ∧ x'.job = Daemon.conclude j (.ended o) ∧
      j.state.terminal = false ∧ j.warnings = .arr [] := by
  obtain ⟨⟨x, hx, hopen, hended⟩, hstep⟩ := h
  simp only [Lts.System.step, Daemon.daemon, Daemon.next, hx, Option.bind_eq_bind, Option.bind_some,
    Option.bind_eq_some_iff] at hstep
  obtain ⟨⟨y, written⟩, hadv, heq⟩ := hstep
  obtain rfl := Option.some.inj heq
  cases Daemon.advance_cases hadv
  exact ⟨x.job, _, Daemon.view_put_self, by rw [hended], hopen, Daemon.fresh hr hx hopen⟩

theorem conclude_warnings {j : RunnerJob} {o : Outcome} (hopen : j.state.terminal = false)
    (hwarnings : j.warnings = .arr []) (ho : Transferable o) :
    ∃ xs, (Daemon.conclude j (.ended o)).warnings = .arr xs := by
  cases o with
  | returned result =>
    obtain ⟨xs, hxs⟩ := orEmptyList_of_optionalList ho.2.2.2
    refine ⟨xs, Eq.trans ?_ hxs⟩
    simp [Daemon.conclude, hopen, RunnerJob.set_state]
  | raised exc =>
    refine ⟨[], Eq.trans ?_ hwarnings⟩
    cases exc <;> simp [Daemon.conclude, hopen, RunnerJob.fail, RunnerJob.set_state]

/-! ### The result -/

/-- What the client's `run` makes of the job's responses when the executor's
    outcome is `o`. -/
structure Reproduces (I : Interp) (first : JobResponse) (answers : List JobResponse) (o : Outcome) :
    Prop where
  /-- It goes on as long as no response shows a terminal state. -/
  waits : (∀ r ∈ first :: answers, r.state.terminal = false) →
    (run I first.received (answers.map JobResponse.received)).2 = none
  /-- It ends at the first response that shows one, with the outcome. -/
  ends : ∀ before r after, first :: answers = before ++ r :: after →
    (∀ q ∈ before, q.state.terminal = false) → r.state.terminal = true →
    (run I first.received (answers.map JobResponse.received)).2 =
      some { outcome := delivered o, unread := after.map JobResponse.received }

theorem Reproduces.of_shown {first : JobResponse} {answers : List JobResponse} {o : Outcome}
    (h : ∀ r ∈ first :: answers, r.state.terminal = true →
      (round I r.received).ended = some (delivered o)) : Reproduces I first answers o := by
  have hrun : run I first.received (answers.map JobResponse.received) =
      loop I ((first :: answers).map JobResponse.received) := by
    unfold run
    rw [job_id_received, List.map_cons]
  refine ⟨fun hopen => ?_, fun before r after hsplit hopen hterm => ?_⟩
  · have hloop := loop_open (I := I) hopen []
    rw [List.append_nil] at hloop
    rw [hrun, hloop]
    rfl
  · rw [hrun, hsplit, List.map_append, loop_open hopen, List.map_cons]
    refine loop_ended (h r ?_ hterm)
    rw [hsplit]
    exact List.mem_append_right _ List.mem_cons_self

/-- In a run in which the executor settles the job with an outcome that can be
    transferred, the client sees exactly this outcome, whenever it reads the
    first response and whenever it polls.  The daemon may be at anything else
    in the meantime, and every request is answered. -/
theorem results_agree {payload : Json.Fields} {env : JobEnv} {s s₁ s₂ e : Daemon.State}
    (hr : Lts.Reachable (Daemon.daemon I config) s)
    (hcreate : (Daemon.daemon I config).step s (.create_job payload env) s₁)
    {t t' : Daemon.State} {o : Outcome} (hrun : Lts.Star (Daemon.daemon I config) s₁ t)
    (hsettle : Settles I config env.job_id.val o t t')
    (hlater : Lts.Star (Daemon.daemon I config) t' e) (ho : Transferable o)
    {v : Nat → RunnerJob} (hlooks : Daemon.Looks I config env.job_id.val s₁ v s₂)
    (hrest : Lts.Star (Daemon.daemon I config) s₂ e) :
    ∃ first, RunnerJob.read_response v = .ok first ∧ ∃ id, job_id I first.received = .ok id ∧
      (∀ p, Lts.Star (Daemon.daemon I config) s₂ p → Lts.Star (Daemon.daemon I config) p e →
        ∃ r, RunnerDaemon.get_job p.jobs id = .ok r) ∧
      ∀ answers, Polls I config id s₂ answers e → Reproduces I first answers o := by
  have hr₁ := hr.step hcreate
  have hrt := hr₁.star hrun
  have hr₂ := hr₁.star hlooks.star
  obtain ⟨j, x', hx', hsettled, hopen, hempty⟩ := hsettle.job hrt
  obtain ⟨xe, hxe, hkept⟩ := Daemon.star_keeps (hrt.step hsettle.2) hlater hx'
  -- the job in the last state has the verdict of the settling section
  have hverdict : (Daemon.conclude j (.ended o)).verdict = xe.job.verdict := by
    rw [hsettled] at hkept
    exact (hkept.verdict (Daemon.conclude_is_terminal j _)).symm
  obtain ⟨xs, hxs⟩ := conclude_warnings hopen hempty ho
  have hwarnings : xe.job.warnings = .arr xs :=
    (congrArg RunnerJob.warnings hverdict.symm :
      xe.job.verdict.warnings = (Daemon.conclude j (.ended o)).verdict.warnings).trans hxs
  -- every look before the last state is at an earlier value of that job
  have hbefore : ∀ {p x}, Lts.Reachable (Daemon.daemon I config) p → p.view env.job_id.val = some x →
      Lts.Star (Daemon.daemon I config) p e → Keeps x.job xe.job := by
    intro p x hp hx hpe
    obtain ⟨y, hy, hkeeps⟩ := Daemon.star_keeps hp hpe hx
    obtain rfl := Option.some.inj (hxe.symm.trans hy)
    exact hkeeps
  -- so an answer with a terminal state is the one of the settled job
  have hended : ∀ {p p' w r x}, Lts.Reachable (Daemon.daemon I config) p →
      Daemon.Looks I config env.job_id.val p w p' → RunnerJob.read_response w = .ok r →
      p'.view env.job_id.val = some x → Lts.Star (Daemon.daemon I config) p' e →
      r.state.terminal = true → (round I r.received).ended = some (delivered o) := by
    intro p p' w r x hp hw hread hx hpe hterm
    obtain ⟨r', hr', hsame⟩ := hw.settled hp hread hx (hbefore (hp.star hw.star) hx hpe) hterm
    obtain ⟨r'', hr'', hsame'⟩ := Daemon.to_response_verdict hverdict hr'
    exact round_settled hopen ho hr'' (hsame'.trans hsame) (reads_received r)
  obtain ⟨x₂, hx₂, -, hlast⟩ := hlooks.keeps hr₁
  obtain ⟨first, hfirst⟩ := hlooks.answered hr₁ hx₂ (hbefore hr₂ hx₂ hrest) hwarnings
  have hid : first.job_id = env.job_id.val := by
    rw [Daemon.read_response_job_id hfirst, ← (hlast 0).request.1]
    exact (Daemon.well_formed hr₂).ids _ _ (Daemon.view_eq_some.mp hx₂).2
  refine ⟨first, hfirst, env.job_id.val, hid ▸ job_id_received first, fun p hp hpe => ?_,
    fun answers hpolls => .of_shown (List.forall_mem_cons.mpr ⟨?_, fun r hr => ?_⟩)⟩
  · obtain ⟨x, hx, -⟩ := Daemon.star_keeps hr₂ hp hx₂
    rw [get_job_view hx]
    exact (Daemon.looks_locked I config hx).answered (hr₂.star hp) hx (hbefore (hr₂.star hp) hx hpe)
      hwarnings
  · exact hended hr₁ hlooks hfirst hx₂ hrest
  · obtain ⟨p, hp, hpe, hget⟩ := hpolls.response r hr
    obtain ⟨x, hx, -⟩ := Daemon.star_keeps hr₂ hp hx₂
    exact hended (hr₂.star hp) (Daemon.looks_locked I config hx) (get_job_view hx ▸ hget) hx hpe

/-- A result without artifacts. -/
def sampleResult : RunnerResult where
  summary := .str "ТС доступно".py
  data := .obj [("tcp".py, .bool true)]
  warnings := .arr [.str "w".py]

/-- A dry run up to the section that settles it. -/
def settledJob : List Daemon.Label :=
  [.job "j1".py .select, .job "j1".py .enter, .job "j1".py (.leave (.returned sampleResult)),
    .job "j1".py .die, .job "j1".py .join_over]

/-- The daemon after the request for the job and after the steps `ls`. -/
def sampleRun (ls : List Daemon.Label) : Daemon.State :=
  (Daemon.daemon sampleInterp sampleDaemonConfig).play
    (.create_job (sampleJobPayload "dry_run" 5) (sampleJobEnv "j1") :: ls)

theorem results_agree_sample :
    ∃ x, (sampleRun []).view "j1".py = some x ∧ ∃ first,
      RunnerJob.read_response (fun _ => x.job) = .ok first ∧ ∃ id,
      job_id sampleInterp first.received = .ok id ∧
      ∀ answers, Polls sampleInterp sampleDaemonConfig id (sampleRun []) answers
        (sampleRun (settledJob ++ [.job "j1".py .conclude])) →
      Reproduces sampleInterp first answers (.returned sampleResult) := by
  have hx : ∃ x, (sampleRun []).view "j1".py = some x := ⟨_, rfl⟩
  obtain ⟨x, hx⟩ := hx
  have hcreate : (Daemon.daemon sampleInterp sampleDaemonConfig).step
      (Daemon.daemon sampleInterp sampleDaemonConfig).init
      (.create_job (sampleJobPayload "dry_run" 5) (sampleJobEnv "j1")) (sampleRun []) := rfl
  have hsettle : Settles sampleInterp sampleDaemonConfig "j1".py (.returned sampleResult)
      (sampleRun settledJob) (sampleRun (settledJob ++ [.job "j1".py .conclude])) :=
    ⟨⟨_, rfl, rfl, rfl⟩, rfl⟩
  have hrun : ∀ ls, Lts.Star (Daemon.daemon sampleInterp sampleDaemonConfig) (sampleRun [])
      (sampleRun ls) := fun ls => Lts.star_play [_] ls
  obtain ⟨first, hfirst, id, hid, -, hagrees⟩ := results_agree
    Lts.Reachable.init hcreate (hrun settledJob) hsettle (.refl _) ⟨rfl, rfl, rfl, rfl⟩
    (Daemon.looks_locked _ _ hx) (hrun _)
  exact ⟨x, hx, first, hfirst, id, hid, hagrees⟩

end RunnerDaemonClient

end BoVpnAgent
