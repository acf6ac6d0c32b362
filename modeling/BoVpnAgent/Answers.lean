import BoVpnAgent.ErrorMapping

/-! # Which requests are answered

    A handler sends exactly one response unless its target cannot be parsed
    or its `try` block raises what it does not catch.  The conditions here are
    about the request and the state that it meets; for each handler they are
    what separates the requests that are answered from those that are not.
-/

namespace BoVpnAgent

open Json (Renderable)

variable {I : Interp}

/-! ### The texts that a response repeats -/

theorem scalar_latin1 (s : Latin1Text) : PyStr.Scalar s.val := by
  intro c hc
  have hlt := s.property c hc
  have hrange : ¬ 0xD800 ≤ c.val := by omega
  simp [CodePoint.isSurrogate, hrange]

theorem scalar_urlparse {request : Request} {url : Url.ParseResult}
    (h : Url.urlparse request.path.val = some url) : url.path.Scalar ∧ url.query.Scalar := by
  obtain ⟨hpath, hquery⟩ := Url.urlparse_sublist h
  exact ⟨(scalar_latin1 _).sublist hpath, (scalar_latin1 _).sublist hquery⟩

/-- Every task of the worker has texts that can be encoded: its request had a
    fingerprint. -/
theorem Worker.request_texts {config : WorkerConfig} {s : Worker.State}
    (h : Lts.Reachable (Worker.worker I config) s) {id : PyStr} {t : Task}
    (ht : s.service.task? id = some t) : t.RequestTexts := by
  obtain ⟨x, hx, rfl⟩ := (Worker.well_formed h).view_of_task? ht
  exact Worker.task_invariant (D := fun _ _ => true) (P := fun x _ => x.task.RequestTexts)
    (fun _ _ _ _ _ hacc => hacc.requestTexts)
    (fun _ _ _ _ _ _ htexts hadv => htexts.of_asCreated (Worker.advance_asCreated hadv))
    (Worker.star_runs h) hx

/-- The response of `create_task` can be sent. -/
theorem Worker.renderable_created {config : WorkerConfig} {s : Worker.State}
    (h : Lts.Reachable (Worker.worker I config) s) {payload : Json.Fields} {env : CreateEnv}
    {status : Nat} {response : CreateResponse}
    (hcreated : (s.service.create_task I config payload env).2 = .ok (status, response)) :
    Renderable I response.to_json := by
  have hsend : ∀ t : Task, t.RequestTexts → Renderable I t.to_create_response.to_json :=
    fun t ht => renderable_create_response ht.task_id ht.request_id
  obtain ⟨_, _, heq⟩ | ⟨_, t, ht, heq⟩ | ⟨_, task, _, hacc, heq⟩ :=
    Service.create_task_cases I config s.service payload env
  · rw [heq] at hcreated
    cases hcreated
  · rw [heq] at hcreated
    cases hcreated
    exact hsend t (request_texts h ((well_formed h).filed.request?.mp ht).2)
  · rw [heq] at hcreated
    cases hcreated
    exact hsend task hacc.requestTexts

/-! ### The worker -/

namespace WorkerHandler

section conditions

variable (I) (config : WorkerConfig) (s : Service) (request : Request) (url : Url.ParseResult)

/-- What a GET request needs to be answered. -/
structure GetAnswerable (env : GetEnv) : Prop where
  health : url.path = "/health".py → env.resized = false
  token : url.path ≠ "/health".py → Comparable request config.service_token
  report : Authorized config request → PyStr.startsWith url.path "/tasks/".py = true →
    ∀ t, s.task? (PyStr.removePrefix url.path "/tasks/".py) = some t → t.Reportable I

/-- What a POST request needs to be answered. -/
structure PostAnswerable (env : CreateEnv) : Prop where
  token : Comparable request config.service_token
  body : Authorized config request → url.path = "/tasks".py →
    Readable I (some (1024 * 1024)) request
  task : Authorized config request → url.path = "/tasks".py →
    ∀ payload, Carries I (some (1024 * 1024)) request payload →
      Creatable I config s payload env

end conditions

variable {config : WorkerConfig} {request : Request} {url : Url.ParseResult}

theorem caught_resolve_vehicle (inventory : InventoryFile) (query : PyStr) :
    Caught (Service.resolve_vehicle config inventory query) := by
  unfold Service.resolve_vehicle
  split
  · simp
  · split
    · exact caught_ok _
    · next e he =>
      exact caught_error.mpr (answerable_worker.mpr
        (VehicleInventory.plain_resolve_query inventory query e he))

theorem caught_get_task {s : Service} {task_id : PyStr} {now : Time}
    (htexts : ∀ t, s.task? task_id = some t → t.RequestTexts) :
    Caught (s.get_task task_id now >>= fun response => send_json I 200 (response.to_json I)) ↔
      ∀ t, s.task? task_id = some t → t.Reportable I := by
  unfold Service.get_task
  cases ht : s.task? task_id with
  | none => exact iff_of_true (caught_raiseWorker _ _ _) (by simp)
  | some t =>
    simp only [Option.some.injEq, forall_eq']
    exact (caught_send_json _).trans (renderable_task_response (htexts t ht) now)

theorem caught_get_resource {s : Service} (htexts : ∀ id t, s.task? id = some t → t.RequestTexts)
    (hquery : url.query.Scalar) (env : GetEnv) :
    Caught (get_resource I config s env url) ↔
      (PyStr.startsWith url.path "/tasks/".py = true →
        ∀ t, s.task? (PyStr.removePrefix url.path "/tasks/".py) = some t → t.Reportable I) := by
  unfold get_resource
  split_ifs with hcapabilities hresolve htasks
  · refine iff_of_true ((caught_send_json _).mpr renderable_capabilities) fun h => ?_
    rw [hcapabilities] at h
    exact absurd h (by decide)
  · refine iff_of_true ?_ fun h => ?_
    · refine caught_bind.mpr ⟨caught_resolve_vehicle _ _, fun response hresponse => ?_⟩
      have hscalar : (Url.queryValue url.query "query".py []).Scalar :=
        Url.scalar_queryValue hquery PyStr.scalar_nil
      exact (caught_send_json _).mpr (renderable_resolved hscalar hresponse)
    · rw [hresolve] at h
      exact absurd h (by decide)
  · rw [forall_prop_of_true htasks]
    exact caught_get_task (htexts _)
  · exact iff_of_true (caught_raiseWorker _ _ _) fun h => absurd h htasks

theorem caught_health (s : Service) (env : GetEnv) :
    Caught (health s env >>= send_json I 200) ↔ env.resized = false := by
  have hdepth := I.dumps_min
  unfold health
  cases env.resized with
  | true => exact iff_of_false (not_caught_raiseBuiltin .runtimeError) (by decide)
  | false =>
    refine iff_of_true ((caught_send_json _).mpr ?_) rfl
    rw [Json.renderable_iff, Json.renderableAt_obj (by omega)]
    simp only [List.forall_mem_cons, List.not_mem_nil, PyStr.scalar_py, true_and, false_implies,
      implies_true, and_true, Json.renderableAt_str (show 1 ≤ I.dumps_depth by omega)]
    exact renderableAt_bool (by omega) true

theorem once_get {s : Service} (htexts : ∀ id t, s.task? id = some t → t.RequestTexts)
    (env : GetEnv) :
    (do_GET I config s request env).Once ↔
      ∃ url, Url.urlparse request.path.val = some url ∧
        GetAnswerable I config s request url env := by
  unfold do_GET
  cases hurl : Url.urlparse request.path.val with
  | none => exact iff_of_false (not_once_leave _) (by simp)
  | some url =>
    simp only [Option.some.injEq, exists_eq_left']
    rw [once_answer]
    unfold get_body
    split_ifs with hhealth
    · rw [caught_health]
      refine ⟨fun h => ⟨fun _ => h, fun hne => absurd hhealth hne, fun _ hstart => ?_⟩,
        fun h => h.health hhealth⟩
      rw [hhealth] at hstart
      exact absurd hstart (by decide)
    · rw [caught_bind, caught_validate_service_headers]
      have hresource : Caught (get_resource I config s env url) ↔ _ :=
        caught_get_resource htexts (scalar_urlparse hurl).2 env
      constructor
      · rintro ⟨htoken, hrest⟩
        refine ⟨fun h => absurd h hhealth, fun _ => htoken, fun hauth => ?_⟩
        exact hresource.mp (hrest () ((validate_service_headers_ok_iff htoken).mpr hauth))
      · intro h
        have htoken := h.token hhealth
        refine ⟨htoken, fun _ hok => ?_⟩
        exact hresource.mpr (h.report ((validate_service_headers_ok_iff htoken).mp hok))

theorem caught_post_payload :
    Caught (post_payload I config request url) ↔
      Comparable request config.service_token ∧
        (Authorized config request → url.path = "/tasks".py →
          Readable I (some (1024 * 1024)) request) := by
  unfold post_payload
  rw [caught_bind, caught_validate_service_headers]
  refine and_congr_right fun htoken => ?_
  rw [← validate_service_headers_ok_iff htoken]
  by_cases htasks : url.path = "/tasks".py
  · rw [if_neg (not_not.mpr htasks), forall_prop_of_true htasks, caught_read_body]
    exact ⟨fun h hok => h () hok, fun h _ hok => h hok⟩
  · simp [htasks]

theorem post_payload_ok_iff (h : Caught (post_payload I config request url))
    {payload : Json.Fields} :
    post_payload I config request url = .ok payload ↔
      Authorized config request ∧ url.path = "/tasks".py ∧
        Carries I (some (1024 * 1024)) request payload := by
  obtain ⟨htoken, hbody⟩ := caught_post_payload.mp h
  unfold post_payload
  rw [bind_ok]
  constructor
  · rintro ⟨_, hok, hrest⟩
    have hauth := (validate_service_headers_ok_iff htoken).mp hok
    split_ifs at hrest with htasks
    · cases hrest
    · rw [not_not] at htasks
      exact ⟨hauth, htasks, (read_body_ok_iff (hbody hauth htasks)).mp hrest⟩
  · rintro ⟨hauth, htasks, hcarries⟩
    refine ⟨(), (validate_service_headers_ok_iff htoken).mpr hauth, ?_⟩
    rw [if_neg (not_not.mpr htasks)]
    exact (read_body_ok_iff (hbody hauth htasks)).mpr hcarries

/-- Once the body is there, all depends on `create_task`. -/
theorem once_do_POST {s : Worker.State} (h : Lts.Reachable (Worker.worker I config) s)
    (hurl : Url.urlparse request.path.val = some url) (env : CreateEnv) :
    (do_POST I config s.service request env).2.Once ↔
      Caught (post_payload I config request url) ∧
        ∀ payload, post_payload I config request url = .ok payload →
          Creatable I config s.service payload env := by
  unfold do_POST
  rw [hurl]
  simp only
  cases hpayload : post_payload I config request url with
  | error exc => exact once_answer.trans (by simp)
  | ok payload =>
    simp only [caught_ok, true_and, Except.ok.injEq, forall_eq']
    refine once_answer.trans ?_
    rw [← caught_create_task, caught_bind, and_iff_left_iff_imp]
    rintro - ⟨status, response⟩ hcreated
    exact (caught_send_json _).mpr (Worker.renderable_created h hcreated)

theorem once_post {s : Worker.State} (h : Lts.Reachable (Worker.worker I config) s)
    (env : CreateEnv) :
    (do_POST I config s.service request env).2.Once ↔
      ∃ url, Url.urlparse request.path.val = some url ∧
        PostAnswerable I config s.service request url env := by
  cases hurl : Url.urlparse request.path.val with
  | none =>
    refine iff_of_false ?_ (by simp)
    simp only [do_POST, hurl]
    exact not_once_leave _
  | some url =>
    simp only [Option.some.injEq, exists_eq_left']
    rw [once_do_POST h hurl]
    constructor
    · rintro ⟨hcaught, htask⟩
      obtain ⟨htoken, hbody⟩ := caught_post_payload.mp hcaught
      refine ⟨htoken, hbody, fun hauth htasks payload hcarries => ?_⟩
      exact htask payload ((post_payload_ok_iff hcaught).mpr ⟨hauth, htasks, hcarries⟩)
    · intro ha
      have hcaught := caught_post_payload.mpr ⟨ha.token, ha.body⟩
      refine ⟨hcaught, fun payload hok => ?_⟩
      obtain ⟨hauth, htasks, hcarries⟩ := (post_payload_ok_iff hcaught).mp hok
      exact ha.task hauth htasks payload hcarries

/-- A POST request leaves the service alone or is a step `create_task` of the
    worker. -/
theorem do_POST_step {s : Worker.State} {env : CreateEnv}
    (hfresh : s.service.tasks_by_id.get? env.task_id.val = none) :
    (do_POST I config s.service request env).1 = s.service ∨
      ∃ payload s', (Worker.worker I config).step s (.create_task payload env) s' ∧
        s'.service = (do_POST I config s.service request env).1 := by
  unfold do_POST
  cases Url.urlparse request.path.val with
  | none => exact .inl rfl
  | some url =>
    simp only
    cases post_payload I config request url with
    | error exc => exact .inl rfl
    | ok payload =>
      refine .inr ⟨payload, ?_⟩
      simp only [Lts.System.step, Worker.worker, Worker.next, hfresh]
      obtain ⟨limiter, e, heq⟩ | ⟨_, t, _, heq⟩ | ⟨limiter, task, vpn, _, heq⟩ :=
        Service.create_task_cases I config s.service payload env <;>
      · rw [heq]
        exact ⟨_, rfl, rfl⟩

end WorkerHandler

/-! ### The runner daemon -/

namespace RunnerHandler

section conditions

variable (I) (config : RunnerDaemonConfig) (jobs : Dict PyStr RunnerJob) (request : Request)
  (url : Url.ParseResult)

/-- What a GET request needs to be answered. -/
structure GetAnswerable : Prop where
  token : url.path ≠ "/health".py → Comparable config request
  report : Authorized config request → PyStr.startsWith url.path "/jobs/".py = true →
    ∀ job, jobs.get? (PyStr.removePrefix url.path "/jobs/".py) = some job → job.Reportable I

/-- What `create_job` needs: a `timeout_sec` that converts, and a job that can
    be written out. -/
structure Creatable (payload : Json.Fields) (env : PostEnv) : Prop where
  timeout_sec : (∃ checked, RunnerDaemon.check_job payload = .ok checked) →
    TimeoutConverts I payload
  job : ∀ job, RunnerDaemon.build_job I payload env.job = .ok job →
    (env.meanwhile job).Reportable I

/-- What a POST request needs to be answered. -/
structure PostAnswerable (env : PostEnv) : Prop where
  token : Comparable config request
  body : Authorized config request → url.path = "/jobs".py → Readable I none request
  job : Authorized config request → url.path = "/jobs".py →
    ∀ payload, Carries I none request payload → Creatable I payload env
  cancel : Authorized config request → isCancel url = true →
    ∀ job, jobs.get? (cancelled_id url) = some job → (RunnerDaemon.cancelled job).Reportable I

end conditions

variable {config : RunnerDaemonConfig} {jobs : Dict PyStr RunnerJob} {request : Request}
  {url : Url.ParseResult}

theorem renderable_health : Renderable I health := by
  have hdepth := I.dumps_min
  rw [Json.renderable_iff, health, Json.renderableAt_obj (by omega)]
  simp only [List.forall_mem_cons, List.not_mem_nil, PyStr.scalar_py, true_and, false_implies,
    implies_true, and_true, Json.renderableAt_str (show 1 ≤ I.dumps_depth by omega)]
  exact renderableAt_bool (by omega) true

theorem caught_get_resource (hids : ∀ id job, jobs.get? id = some job → job.job_id = id)
    (hpath : url.path.Scalar) :
    Caught (get_resource I jobs url) ↔
      (PyStr.startsWith url.path "/jobs/".py = true →
        ∀ job, jobs.get? (PyStr.removePrefix url.path "/jobs/".py) = some job →
          job.Reportable I) := by
  unfold get_resource
  split_ifs with hjobs
  · rw [forall_prop_of_true hjobs]
    unfold RunnerDaemon.get_job
    cases hjob : jobs.get? (PyStr.removePrefix url.path "/jobs/".py) with
    | none => exact iff_of_true (caught_raiseWorker _ _ _) (by simp)
    | some job =>
      simp only [Option.some.injEq, forall_eq']
      have hid : job.job_id.Scalar := by
        rw [hids _ job hjob]
        exact hpath.sublist (PyStr.removePrefix_sublist _ _)
      exact caught_job_response hid 200
  · exact iff_of_true (caught_raiseWorker _ _ _) fun h => absurd h hjobs

theorem once_get (hids : ∀ id job, jobs.get? id = some job → job.job_id = id) :
    (do_GET I config jobs request).Once ↔
      ∃ url, Url.urlparse request.path.val = some url ∧
        GetAnswerable I config jobs request url := by
  unfold do_GET
  cases hurl : Url.urlparse request.path.val with
  | none => exact iff_of_false (not_once_leave _) (by simp)
  | some url =>
    simp only [Option.some.injEq, exists_eq_left']
    rw [once_answer]
    unfold get_body
    split_ifs with hhealth
    · refine iff_of_true ((caught_send_json _).mpr renderable_health)
        ⟨fun hne => absurd hhealth hne, fun _ hstart => ?_⟩
      rw [hhealth] at hstart
      exact absurd hstart (by decide)
    · rw [caught_bind, caught_validate_runner_headers]
      have hresource := caught_get_resource (I := I) hids (scalar_urlparse hurl).1
      constructor
      · rintro ⟨htoken, hrest⟩
        refine ⟨fun _ => htoken, fun hauth => ?_⟩
        exact hresource.mp (hrest () ((validate_runner_headers_ok_iff htoken).mpr hauth))
      · intro h
        have htoken := h.token hhealth
        refine ⟨htoken, fun _ hok => ?_⟩
        exact hresource.mpr (h.report ((validate_runner_headers_ok_iff htoken).mp hok))

/-! #### Creating and cancelling a job -/

theorem once_create_job {payload : Json.Fields} {env : PostEnv} :
    (answer I do
      let (status, response) ← (create_job I jobs payload env).2
      send_json I status response.to_json).Once ↔ Creatable I payload env := by
  have hcreatable : Creatable I payload env ↔
      ((∃ checked, RunnerDaemon.check_job payload = .ok checked) → TimeoutConverts I payload) ∧
        ∀ job, RunnerDaemon.build_job I payload env.job = .ok job →
          (env.meanwhile job).Reportable I := ⟨fun h => ⟨h.1, h.2⟩, fun h => ⟨h.1, h.2⟩⟩
  rw [once_answer, hcreatable, ← caught_build_job payload env.job]
  unfold create_job
  cases hbuild : RunnerDaemon.build_job I payload env.job with
  | error exc => exact (caught_error_congr (β := RunnerJob)).trans (by simp)
  | ok job =>
    have hid : (env.meanwhile job).job_id.Scalar := by
      obtain ⟨_, _, _, _, _, rfl⟩ := RunnerDaemon.build_job_ok hbuild
      rw [env.keeps_id]
      exact env.job.job_id.property
    simp only [caught_ok, true_and, Except.ok.injEq, forall_eq']
    rw [← caught_job_response hid 201]
    cases (env.meanwhile job).to_response with
    | error exc => exact caught_error_congr
    | ok response => rfl

theorem once_cancel_job (hids : ∀ id job, jobs.get? id = some job → job.job_id = id)
    {job_id : PyStr} (hid : job_id.Scalar) :
    (answer I do
      let response ← (RunnerDaemon.cancel_job jobs job_id).2
      send_json I 200 response.to_json).Once ↔
      ∀ job, jobs.get? job_id = some job → (RunnerDaemon.cancelled job).Reportable I := by
  rw [once_answer]
  unfold RunnerDaemon.cancel_job
  cases hjob : jobs.get? job_id with
  | none => exact iff_of_true (caught_raiseWorker _ _ _) (by simp)
  | some job =>
    simp only [Option.some.injEq, forall_eq']
    have hid' : (RunnerDaemon.cancelled job).job_id.Scalar := by
      rw [(Daemon.sameRequest_cancelled job).1, hids _ job hjob]
      exact hid
    exact caught_job_response hid' 200

theorem once_post_resource (hids : ∀ id job, jobs.get? id = some job → job.job_id = id)
    (hpath : url.path.Scalar) (env : PostEnv) :
    (post_resource I jobs request env url).2.Once ↔
      (url.path = "/jobs".py → Readable I none request ∧
        ∀ payload, Carries I none request payload → Creatable I payload env) ∧
      (isCancel url = true → ∀ job, jobs.get? (cancelled_id url) = some job →
        (RunnerDaemon.cancelled job).Reportable I) := by
  unfold post_resource
  -- a new job, a cancellation, or a path without a resource
  split_ifs with hjobs hcancel
  · have hno : ¬ isCancel url = true := by
      unfold isCancel
      rw [hjobs]
      decide
    rw [forall_prop_of_true hjobs, forall_prop_of_false hno, and_true]
    by_cases hread : Readable I none request
    · simp only [← read_body_ok_iff hread, hread, true_and]
      cases hbody : read_body I none request with
      | error exc =>
        have hcaught : Caught (read_body I none request) := caught_read_body.mpr hread
        rw [hbody] at hcaught
        exact iff_of_true (once_answer.mpr (caught_error_congr.mp hcaught)) nofun
      | ok payload =>
        simp only [Except.ok.injEq, forall_eq']
        exact once_create_job
    · refine iff_of_false (fun h => hread ?_) fun h => hread h.1
      cases hbody : read_body I none request with
      | error exc =>
        rw [hbody] at h
        rw [← caught_read_body, hbody]
        exact caught_error_congr.mp (once_answer.mp h)
      | ok payload => exact caught_read_body.mp (hbody ▸ caught_ok payload)
  · rw [forall_prop_of_false hjobs, forall_prop_of_true hcancel, true_and]
    refine once_cancel_job hids ?_
    exact hpath.sublist ((PyStr.removeSuffix_sublist _ _).trans (PyStr.removePrefix_sublist _ _))
  · exact iff_of_true (once_answer.mpr (caught_raiseWorker _ _ _))
      ⟨fun h => absurd h hjobs, fun h => absurd h hcancel⟩

theorem once_post (hids : ∀ id job, jobs.get? id = some job → job.job_id = id) (env : PostEnv) :
    (do_POST I config jobs request env).2.Once ↔
      ∃ url, Url.urlparse request.path.val = some url ∧
        PostAnswerable I config jobs request url env := by
  unfold do_POST
  cases hurl : Url.urlparse request.path.val with
  | none => exact iff_of_false (not_once_leave _) (by simp)
  | some url =>
    simp only [Option.some.injEq, exists_eq_left']
    have hresource : (post_resource I jobs request env url).2.Once ↔ _ :=
      once_post_resource hids (scalar_urlparse hurl).1 env
    cases hheaders : validate_runner_headers config request with
    | error exc =>
      have htoken : Caught (validate_runner_headers config request) ↔ Comparable config request :=
        caught_validate_runner_headers
      rw [hheaders] at htoken
      refine once_answer.trans (caught_error_congr.trans (htoken.trans ⟨fun h => ?_, PostAnswerable.token⟩))
      have hrefused : ¬ Authorized config request := fun hauth => by
        rw [(validate_runner_headers_ok_iff h).mpr hauth] at hheaders
        cases hheaders
      exact ⟨h, fun hauth => absurd hauth hrefused, fun hauth => absurd hauth hrefused,
        fun hauth => absurd hauth hrefused⟩
    | ok _ =>
      have htoken := caught_validate_runner_headers.mp (hheaders ▸ caught_ok ())
      have hauth := (validate_runner_headers_ok_iff htoken).mp hheaders
      refine hresource.trans ⟨fun h => ?_, fun h => ?_⟩
      · exact ⟨htoken, fun _ hjobs => (h.1 hjobs).1, fun _ hjobs => (h.1 hjobs).2, fun _ => h.2⟩
      · exact ⟨fun hjobs => ⟨h.body hauth hjobs, h.job hauth hjobs⟩, h.cancel hauth⟩

/-- A POST request leaves the jobs alone, or is a step of the daemon that
    creates or cancels a job. -/
theorem do_POST_step {s : Daemon.State} (h : Lts.Reachable (Daemon.daemon I config) s)
    {env : PostEnv} (hfresh : s.jobs.get? env.job.job_id.val = none) :
    (do_POST I config s.jobs request env).1 = s.jobs ∨
      ∃ l s', (Daemon.daemon I config).step s l s' ∧
        s'.jobs = (do_POST I config s.jobs request env).1 := by
  unfold do_POST
  cases Url.urlparse request.path.val with
  | none => exact .inl rfl
  | some url =>
    simp only
    cases validate_runner_headers config request with
    | error exc => exact .inl rfl
    | ok _ =>
      simp only
      unfold post_resource
      split_ifs
      · cases read_body I none request with
        | error exc => exact .inl rfl
        | ok payload =>
          simp only [create_job]
          cases hbuild : RunnerDaemon.build_job I payload env.job with
          | error exc => exact .inl rfl
          | ok job =>
            refine .inr ⟨.create_job payload env.job, s.start job, ?_, rfl⟩
            simp [Lts.System.step, Daemon.daemon, Daemon.next, hfresh, hbuild]
      · simp only [RunnerDaemon.cancel_job]
        cases hjob : s.jobs.get? (cancelled_id url) with
        | none => exact .inl rfl
        | some job =>
          obtain ⟨x, hx, rfl⟩ := (Daemon.well_formed h).view_of_job hjob
          refine .inr ⟨.job (cancelled_id url) .cancel,
            s.put (cancelled_id url) { x with job := RunnerDaemon.cancelled x.job } [], ?_, rfl⟩
          have hadv : Daemon.advance I config x .cancel =
              some ({ x with job := RunnerDaemon.cancelled x.job }, []) := by
            simp only [Daemon.advance]
          simp [Lts.System.step, Daemon.daemon, Daemon.next, hx, hadv]
      · exact .inl rfl

end RunnerHandler

/-! ### Both handlers -/

/-- In every reachable state, exactly the requests that meet the conditions
    above are answered with one response. -/
theorem handlers_answer_once_iff (I : Interp) :
    (∀ config s, Lts.Reachable (Worker.worker I config) s → ∀ request,
      (∀ env, (WorkerHandler.do_GET I config s.service request env).Once ↔
        ∃ url, Url.urlparse request.path.val = some url ∧
          WorkerHandler.GetAnswerable I config s.service request url env) ∧
      (∀ env, (WorkerHandler.do_POST I config s.service request env).2.Once ↔
        ∃ url, Url.urlparse request.path.val = some url ∧
          WorkerHandler.PostAnswerable I config s.service request url env)) ∧
    (∀ config s, Lts.Reachable (Daemon.daemon I config) s → ∀ request,
      ((RunnerHandler.do_GET I config s.jobs request).Once ↔
        ∃ url, Url.urlparse request.path.val = some url ∧
          RunnerHandler.GetAnswerable I config s.jobs request url) ∧
      (∀ env, (RunnerHandler.do_POST I config s.jobs request env).2.Once ↔
        ∃ url, Url.urlparse request.path.val = some url ∧
          RunnerHandler.PostAnswerable I config s.jobs request url env)) := by
  refine ⟨fun config s h request => ⟨?_, ?_⟩, fun config s h request => ⟨?_, ?_⟩⟩
  · exact WorkerHandler.once_get fun id t ht => Worker.request_texts h ht
  · exact WorkerHandler.once_post h
  · exact RunnerHandler.once_get (Daemon.well_formed h).ids
  · exact RunnerHandler.once_post (Daemon.well_formed h).ids

/-- A text constant as part of a request. -/
def latin1 (s : String) (h : (s.py.all fun c => c.val < 256) = true) : Latin1Text :=
  ⟨s.py, fun c hc => of_decide_eq_true (List.all_eq_true.mp h c hc)⟩

/-- A request with the token `dev-token`. -/
def sampleRequest (path content_length : Latin1Text) (body : Bytes) : Request where
  path := path
  header := fun name =>
    if name = "Authorization" then some (latin1 "Bearer dev-token" rfl)
    else if name = "X-Request-Id" then some (latin1 "1" rfl)
    else if name = "Content-Length" then some content_length
    else none
  body := body

/-- What a request reads while nothing else happens. -/
def sampleGetEnv : WorkerHandler.GetEnv where
  now := sampleNow
  inventory := none
  resized := false

set_option maxRecDepth 4000 in
theorem handlers_answer_once_iff_sample :
    (WorkerHandler.do_GET sampleInterp sampleConfig
      ((Worker.worker sampleInterp sampleConfig).play
        [.create_task (samplePayload "r1") (sampleEnv "t1")]).service
      (sampleRequest (latin1 "/tasks/t1" rfl) (latin1 "0" rfl) []) sampleGetEnv).Once := by
  have h := (handlers_answer_once_iff sampleInterp).1 sampleConfig _
    (Lts.reachable_play [.create_task (samplePayload "r1") (sampleEnv "t1")])
    (sampleRequest (latin1 "/tasks/t1" rfl) (latin1 "0" rfl) [])
  refine (h.1 sampleGetEnv).mpr ⟨_, rfl, fun _ => rfl, fun _ header hheader _ => ?_, ?_⟩
  · obtain rfl := Option.some.inj hheader
    decide
  · intro _ _ t ht
    obtain rfl := Option.some.inj ht
    refine ⟨PyStr.scalar_py "dry_run", PyStr.scalar_py _, ?_, ?_, ?_, ?_, ?_, ?_⟩
    · intro x hx
      cases hx
    · exact renderableAt_null (by decide)
    · exact (Json.renderableAt_obj (by decide)).mpr (List.forall_mem_nil _)
    · exact (Json.renderableAt_arr (by decide)).mpr (List.forall_mem_nil _)
    · intro x hx
      cases hx
    · intro x hx
      cases hx

/-- A `Content-Length` that is no integer. -/
def badLength (path : Latin1Text) : Request := sampleRequest path (latin1 "abc" rfl) []

/-- `int` raises `ValueError` for it, and no handler catches that. -/
theorem not_answered_once :
    ¬ (WorkerHandler.do_POST sampleInterp sampleConfig
        (Worker.worker sampleInterp sampleConfig).init.service
        (badLength (latin1 "/tasks" rfl)) (sampleEnv "t1")).2.Once ∧
    ¬ (RunnerHandler.do_POST sampleInterp sampleDaemonConfig
        (Daemon.daemon sampleInterp sampleDaemonConfig).init.jobs
        (badLength (latin1 "/jobs" rfl))
        { job := sampleJobEnv "j1", meanwhile := id, keeps_id := fun _ => rfl }).2.Once := by
  constructor
  · exact not_once_leave (.builtin .valueError [])
  · exact not_once_leave (.builtin .valueError [])

end BoVpnAgent
