import BoVpnAgent.ErrorMapping
import BoVpnAgent.Lib.JsonCanonical

/-! # What a fingerprint says

    `create_task` takes a request for the repetition of another one when the
    fingerprints of the two bodies are equal.  A fingerprint is the hash of the
    canonical text of the body, so it says as much of the body as that text.

    This file shows:
    - the bytes that are hashed are equal exactly for the same tree
    - fingerprints are, where the hash does not collide
-/

namespace BoVpnAgent.Security

open Json

variable {I : Interp}

theorem canonicalOptions_compact : canonicalOptions.Compact :=
  { item := rfl, key := rfl }

/-- The text that the bytes stand for. -/
theorem encode_of_dumps {o : DumpOptions} {j : Json} {bytes : Bytes}
    (h : dumpsUtf8 I o j = .ok bytes) : Utf8.encode (render I o j) = some bytes := by
  unfold dumpsUtf8 dumps at h
  by_cases hdepth : I.dumps_depth < j.depth
  · rw [if_pos hdepth] at h
    cases h
  · rw [if_neg hdepth] at h
    by_cases hints : j.intsWithin I.int_max_str_digits = true
    · rw [if_pos hints] at h
      cases hbytes : Utf8.encode (render I o j) with
      | none =>
        simp only [bind, Except.bind, hbytes] at h
        cases h
      | some encoded =>
        simp only [bind, Except.bind, hbytes] at h
        rw [Except.ok.inj h]
    · rw [if_neg hints] at h
      cases h

/-- A fingerprint is the hash of the canonical bytes. -/
theorem hashed_of_fingerprint {payload : Json.Fields} {fp : PyStr}
    (h : fingerprint_request I payload = .ok fp) :
    ∃ bytes, dumpsUtf8 I canonicalOptions (.obj payload) = .ok bytes ∧
      fp = I.sha256_hexdigest bytes := by
  unfold fingerprint_request at h
  cases hbytes : dumpsUtf8 I canonicalOptions (.obj payload) with
  | error kind =>
    rw [hbytes] at h
    cases h
  | ok bytes =>
    rw [hbytes] at h
    exact ⟨bytes, rfl, (Except.ok.inj h).symm⟩

/-- A body that was parsed and has a fingerprint. -/
theorem canonical_of_body {raw_body : Bytes} {payload : Json.Fields} {bytes : Bytes}
    (hbody : load_json_body I raw_body = .ok payload)
    (h : dumpsUtf8 I canonicalOptions (.obj payload) = .ok bytes) :
    Canonical I (.obj payload) := by
  obtain ⟨text, -, hloads⟩ := load_json_body_ok_iff.mp hbody
  have hrenderable : Renderable I (.obj payload) := (dumpsUtf8_ok_iff rfl _).mp ⟨bytes, h⟩
  exact { clean := hrenderable.leaves, nodes := (read_loads hloads).nodes }

/-- The bytes that are hashed say what the tree is. -/
theorem canonical_bytes_eq_iff (hnumbers : NumbersUnquoted I) {payload payload' : Json.Fields}
    {bytes bytes' : Bytes} (hpayload : Canonical I (.obj payload))
    (hpayload' : Canonical I (.obj payload'))
    (h : dumpsUtf8 I canonicalOptions (.obj payload) = .ok bytes)
    (h' : dumpsUtf8 I canonicalOptions (.obj payload') = .ok bytes') :
    bytes = bytes' ↔ SameTree I (.obj payload) (.obj payload') := by
  have htext := encode_of_dumps h
  have htext' := encode_of_dumps h'
  rw [← render_eq_iff hnumbers canonicalOptions_compact rfl hpayload hpayload']
  constructor
  · intro heq
    -- the bytes are read back as the text
    have hread := Utf8.decode_encode htext
    rw [heq, Utf8.decode_encode htext'] at hread
    exact (Option.some.inj hread).symm
  · intro heq
    rw [heq, htext'] at htext
    exact (Option.some.inj htext).symm

variable (I) in
/-- The hash does not collide on the canonical bytes of the two bodies. -/
def NoCollision (payload payload' : Json.Fields) : Prop :=
  ∀ bytes bytes', dumpsUtf8 I canonicalOptions (.obj payload) = .ok bytes →
    dumpsUtf8 I canonicalOptions (.obj payload') = .ok bytes' →
    I.sha256_hexdigest bytes = I.sha256_hexdigest bytes' → bytes = bytes'

/-- The fingerprints of two bodies are equal exactly when the bodies are the
    same tree. -/
theorem fingerprint_eq_iff (hnumbers : NumbersUnquoted I) {raw_body raw_body' : Bytes}
    {payload payload' : Json.Fields} (hbody : load_json_body I raw_body = .ok payload)
    (hbody' : load_json_body I raw_body' = .ok payload') {fp fp' : PyStr}
    (hfp : fingerprint_request I payload = .ok fp)
    (hfp' : fingerprint_request I payload' = .ok fp') (hhash : NoCollision I payload payload') :
    fp = fp' ↔ SameTree I (.obj payload) (.obj payload') := by
  obtain ⟨bytes, hbytes, hdigest⟩ := hashed_of_fingerprint hfp
  obtain ⟨bytes', hbytes', hdigest'⟩ := hashed_of_fingerprint hfp'
  have hpayload := canonical_of_body hbody hbytes
  have hpayload' := canonical_of_body hbody' hbytes'
  rw [← canonical_bytes_eq_iff hnumbers hpayload hpayload' hbytes hbytes', hdigest, hdigest']
  constructor
  · exact hhash bytes bytes' hbytes hbytes'
  · intro heq
    rw [heq]

/-! ### Two requests -/

/-- A request that has only an id. -/
def requestOf (request_id : String) : Json.Fields := [("request_id".py, .str request_id.py)]

/-- The canonical options but for the order of the keys, of which the request
    has one. -/
def bodyOptions : DumpOptions := { canonicalOptions with sort_keys := false }

/-- Its body. -/
def bodyOf (request_id : String) : Bytes :=
  (Utf8.encode (render sampleInterp bodyOptions (.obj (requestOf request_id)))).getD []

/-- An interpreter with the SHA-256 of two of these bodies. -/
def digestInterp : Interp where
  __ := sampleInterp
  sha256_hexdigest := fun bytes =>
    if bytes = bodyOf "r1" then
      "324d441c37e0ad3a896107ea67cc36144fc9e607f09c14d2cb2df67b3b825b63".py
    else if bytes = bodyOf "r2" then
      "4d1925f135e9d0a6a74a1bcc1057748cc907042c33e19ff8622cd4337f1b6226".py
    else sampleInterp.sha256_hexdigest bytes

theorem load_bodyOf (request_id : String) :
    load_json_body digestInterp (bodyOf request_id) = .ok (requestOf request_id) := by
  have hplain : bodyOptions.Plain :=
    { item := ⟨[], rfl, rfl⟩, key := ⟨[], rfl, rfl⟩, order := rfl }
  have hclean : Clean digestInterp (.obj (requestOf request_id)) :=
    ⟨PyStr.scalar_py _, PyStr.scalar_py _, trivial⟩
  have hreadable : Json.Readable digestInterp (.obj (requestOf request_id)) :=
    { clean := hclean, nodes := ⟨List.nodup_singleton _, trivial, trivial⟩ }
  have hdepth : (Json.obj (requestOf request_id)).depth = 1 := rfl
  have hrenderable : Renderable digestInterp (.obj (requestOf request_id)) :=
    { depth := by rw [hdepth]; decide, leaves := hclean }
  obtain ⟨bytes, hbytes⟩ := (dumpsUtf8_ok_iff (o := bodyOptions) rfl _).mpr hrenderable
  obtain ⟨text, hdecode, hloads⟩ :=
    loads_dumpsUtf8 hplain hreadable (by rw [hdepth]; decide) hbytes
  have hbody : bodyOf request_id = bytes := by
    have htext : render digestInterp bodyOptions (.obj (requestOf request_id)) =
        render sampleInterp bodyOptions (.obj (requestOf request_id)) := by
      simp only [requestOf, render, renderFields]
    unfold bodyOf
    rw [← htext, encode_of_dumps hbytes]
    rfl
  rw [hbody]
  exact load_json_body_ok_iff.mpr ⟨text, hdecode, hloads⟩

set_option maxRecDepth 8000 in
/-- Two requests with different ids have different fingerprints. -/
theorem fingerprint_eq_iff_requests :
    "324d441c37e0ad3a896107ea67cc36144fc9e607f09c14d2cb2df67b3b825b63".py =
        "4d1925f135e9d0a6a74a1bcc1057748cc907042c33e19ff8622cd4337f1b6226".py ↔
      SameTree digestInterp (.obj (requestOf "r1")) (.obj (requestOf "r2")) :=
  have hnumbers : NumbersUnquoted digestInterp := by
    intro x
    show ∀ c ∈ "0.5".py, ¬Structural c
    exact plain_of_all rfl
  have hbytes : dumpsUtf8 digestInterp canonicalOptions (.obj (requestOf "r1")) =
      .ok (bodyOf "r1") := rfl
  have hbytes' : dumpsUtf8 digestInterp canonicalOptions (.obj (requestOf "r2")) =
      .ok (bodyOf "r2") := rfl
  have hhash : NoCollision digestInterp (requestOf "r1") (requestOf "r2") := by
    intro bytes bytes' h h' heq
    rw [hbytes] at h
    rw [hbytes'] at h'
    rw [← Except.ok.inj h, ← Except.ok.inj h'] at heq
    exact absurd heq (by decide)
  fingerprint_eq_iff hnumbers (load_bodyOf "r1") (load_bodyOf "r2") rfl rfl hhash

end BoVpnAgent.Security
