import BoVpnAgent.Errors

/-! # Authorization and request fingerprints -/

namespace BoVpnAgent

namespace Security

/-- `hmac.compare_digest` on two strings -/
def compare_digest (a b : PyStr) : Except PyExc Bool :=
  if PyStr.isAscii a ∧ PyStr.isAscii b then .ok (a = b) else raiseBuiltin .typeError

/-- `check_bearer` -/
def check_bearer (auth_header : Option PyStr) (expected_token : PyStr) : Except PyExc Bool :=
  match auth_header with
  | none => .ok false
  | some header =>
    if PyStr.startsWith header "Bearer ".py then
      compare_digest (PyStr.strip (PyStr.removePrefix header "Bearer ".py)) expected_token
    else .ok false

/-- The options of the canonical rendering. -/
def canonicalOptions : Json.DumpOptions :=
  { sort_keys := true, ensure_ascii := false, item_separator := ",", key_separator := ":" }

/-- `fingerprint_request` -/
def fingerprint_request (I : Interp) (payload : Json.Fields) : Except PyExc PyStr := do
  let canonical ← liftBuiltin (Json.dumpsUtf8 I canonicalOptions (.obj payload))
  return I.sha256_hexdigest canonical

/-- The fingerprint exists exactly for a payload that can be rendered and
    encoded. -/
theorem fingerprint_request_ok_iff (I : Interp) (payload : Json.Fields) :
    (∃ fp, fingerprint_request I payload = .ok fp) ↔ Json.Renderable I (.obj payload) := by
  rw [← Json.dumpsUtf8_ok_iff (I := I) (o := canonicalOptions) rfl]
  unfold fingerprint_request
  cases Json.dumpsUtf8 I canonicalOptions (.obj payload) <;>
    simp [liftBuiltin, raiseBuiltin, bind, Except.bind, pure, Except.pure]

theorem fingerprint_request_error {I : Interp} {payload : Json.Fields} {e : PyExc}
    (h : fingerprint_request I payload = .error e) : e.isWorker = false := by
  unfold fingerprint_request at h
  cases hd : Json.dumpsUtf8 I canonicalOptions (.obj payload) <;>
    simp [hd, liftBuiltin, raiseBuiltin, bind, Except.bind, pure, Except.pure] at h
  subst h
  rfl

end Security

end BoVpnAgent
