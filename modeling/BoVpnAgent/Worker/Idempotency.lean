import BoVpnAgent.Worker.Runs

/-! # Idempotent creation

    Once a call of `create_task` has been answered 201, a call with the same
    `request_id` never creates a task again: the duplicate check comes before
    the rate limiter, the busy check and the validation, and the task stays
    filed under its request for the rest of the run.
-/

namespace BoVpnAgent.Worker

variable {I : Interp} {config : WorkerConfig}

/-- What a call whose `request_id` is filed under the task `task_id` with the
    fingerprint `fingerprint` is answered, whatever the rate limiter and the
    other tasks are. -/
structure Repeats (I : Interp) (config : WorkerConfig) (s : State) (payload : Json.Fields)
    (env : CreateEnv) (fingerprint task_id : PyStr) : Prop where
  same_body : Security.fingerprint_request I payload = .ok fingerprint →
    ∃ response, s.service.create_task I config payload env = (s.service, .ok (200, response)) ∧
      response.task_id = task_id
  other_body : ∀ fp, Security.fingerprint_request I payload = .ok fp → fp ≠ fingerprint →
    s.service.create_task I config payload env =
      (s.service, raiseWorker 409 "request_id_conflict"
        "request_id уже использован с другим телом запроса")
  never_created : ∀ service response,
    s.service.create_task I config payload env ≠ (service, .ok (201, response))
  no_effect : ∀ s', (worker I config).step s (.create_task payload env) s' → s' = s

/-- A call for a request that is filed already. -/
theorem repeats_of_request? {s : State} {payload : Json.Fields} (env : CreateEnv)
    {request_id : PyStr} {t : Task} (hreq : require_str payload "request_id" = .ok request_id)
    (ht : s.service.request? request_id = some t) :
    Repeats I config s payload env t.request_fingerprint t.task_id := by
  have hsame : Security.fingerprint_request I payload = .ok t.request_fingerprint →
      s.service.create_task I config payload env =
        (s.service, .ok (200, t.to_create_response)) := by
    intro hfp
    simp [Service.create_task, hreq, hfp, ht]
  have hother : ∀ fp, Security.fingerprint_request I payload = .ok fp →
      fp ≠ t.request_fingerprint →
      s.service.create_task I config payload env =
        (s.service, raiseWorker 409 "request_id_conflict"
          "request_id уже использован с другим телом запроса") := by
    intro fp hfp hne
    simp [Service.create_task, hreq, hfp, ht, Ne.symm hne]
  -- in every case the service is unchanged and the answer is not 201
  have hall : ∃ answer, s.service.create_task I config payload env = (s.service, answer) ∧
      ∀ response, answer ≠ .ok (201, response) := by
    cases hfp : Security.fingerprint_request I payload with
    | error e => exact ⟨.error e, by simp [Service.create_task, hreq, hfp], by simp⟩
    | ok fp =>
      by_cases heq : fp = t.request_fingerprint
      · exact ⟨_, hsame (heq ▸ hfp), by simp⟩
      · exact ⟨_, hother fp hfp heq, by simp [raiseWorker]⟩
  obtain ⟨answer, hcall, hanswer⟩ := hall
  refine ⟨fun hfp => ⟨_, hsame hfp, rfl⟩, hother, ?_, ?_⟩
  · intro service response h201
    rw [hcall] at h201
    exact hanswer response (Prod.mk.inj h201).2
  · intro s' hstep
    simp only [Lts.System.step, worker, next, hcall] at hstep
    split at hstep
    · cases hstep
    · exact (Option.some.inj hstep).symm

/-- After a call of `create_task` that was answered 201, in every later state
    of the run, a call with the same `request_id` and the same body is
    answered 200 with the same task, one with another body is a conflict, and
    neither changes anything. -/
theorem create_task_idempotent {s₀ s₁ s : State} {payload payload' : Json.Fields}
    {env env' : CreateEnv} {service : Service} {response : CreateResponse} {fingerprint : PyStr}
    (h₀ : Lts.Reachable (worker I config) s₀)
    (h201 : s₀.service.create_task I config payload env = (service, .ok (201, response)))
    (hfp : Security.fingerprint_request I payload = .ok fingerprint)
    (hstep : (worker I config).step s₀ (.create_task payload env) s₁)
    (hlater : Lts.Star (worker I config) s₁ s)
    (hreq : require_str payload' "request_id" = .ok response.request_id) :
    Repeats I config s payload' env' fingerprint response.task_id := by
  obtain ⟨limiter, task, vpn, _, hacc, rfl, rfl⟩ := step_accepted hstep h201
  obtain rfl : fingerprint = task.request_fingerprint :=
    Except.ok.inj (hfp.symm.trans hacc.fingerprint)
  have h₁ := h₀.step hstep
  -- the task keeps its keys and its fingerprint
  obtain ⟨x, hx, hid, hq, hfp'⟩ := task_stable (D := fun _ _ => true)
    (Q := fun x _ => x.task.task_id = task.task_id ∧ x.task.request_id = task.request_id ∧
      x.task.request_fingerprint = task.request_fingerprint)
    (fun _ _ _ _ _ _ hQ hadv => by
      obtain ⟨hid, hq, hfp⟩ := advance_keys hadv
      exact ⟨hid.trans hQ.1, hq.trans hQ.2.1, hfp.trans hQ.2.2⟩)
    (star_runs h₁) (star_runs hlater) view_start_self ⟨rfl, rfl, rfl⟩
  have hwf := well_formed (h₁.star hlater)
  have ht := hwf.filed.request?.mpr ⟨hq, hid ▸ (view_eq_some.mp hx).2.1⟩
  have hrep : Repeats I config s payload' env' x.task.request_fingerprint x.task.task_id :=
    repeats_of_request? env' hreq ht
  rwa [hfp', hid] at hrep

set_option maxRecDepth 4000 in
theorem create_task_idempotent_sample :
    ∃ s fingerprint, Repeats sampleInterp sampleConfig s (samplePayload "r1") (sampleEnv "t2")
      fingerprint "t1".py :=
  ⟨_, _, @create_task_idempotent _ _ _ _ _ (samplePayload "r1") (samplePayload "r1")
    (sampleEnv "t1") _ _ ⟨true, "t1".py, "r1".py, .created⟩ _ Lts.Reachable.init rfl rfl rfl
    (Lts.Star.tail (l := .thread "t1".py .fetch) (Lts.Star.refl _) rfl) rfl⟩

end BoVpnAgent.Worker
