import QaRunner.Domain.Digest
import QaRunner.Lib.JsonText

/-! Canonical digests tell apart what is not equal as JSON. -/
namespace QaRunner
open Guarded

/-- A payload as the language's own types give it: an object holds a key once. -/
structure JsonValue where
  json : Json
  distinct : json.Distinct

theorem norm_str (s : Str) : (Json.str s).norm = .str s := rfl

theorem norm_int (n : ℤ) : (Json.int n).norm = .int n := rfl

theorem norm_bool (b : Bool) : (Json.bool b).norm = .bool b := rfl

theorem norm_optionalInt (value : Option ℤ) : (optionalInt value).norm = optionalInt value := by
  cases value <;> rfl

theorem norm_optionalDigestValue (digest : Option Digest) :
    (optionalDigestValue digest).norm = optionalDigestValue digest := by
  cases digest <;> rfl

theorem canonicalBytes_eq_iff {s t : String} {v w : Json} :
    canonicalBytes s v = canonicalBytes t w ↔ s = t ∧ v.norm = w.norm := by
  have hnorm : ∀ (u : String) (x : Json),
      (Json.dict [("payload", x), ("schema_version", .str u)]).norm =
        .dict [("payload", x.norm), ("schema_version", .str u)] := by
    intro u x
    have hstr : (Json.str u).norm = .str u := rfl
    rw [Json.norm, Json.normFields, Json.normFields, Json.normFields, hstr,
      Sorting.sortOn_eq_self (by simp; decide)]
  rw [canonicalBytes, canonicalBytes, Json.bytes_eq_iff, Json.render_eq_iff, hnorm, hnorm]
  simp [and_comm]

theorem contentDigest_eq_iff {s t : String} {v w : Json} : contentDigest s v = contentDigest t w ↔
    Sha256.hexdigest (canonicalBytes s v) = Sha256.hexdigest (canonicalBytes t w) := by
  rw [← Digest.value_inj, contentDigest, contentDigest, String.ofList_inj]
  exact List.append_right_inj _

/-- Neither a boolean and an integer, nor an empty object and an empty array, nor a key that holds
`null` and a missing key are equal as JSON. -/
theorem same_separates : (∀ b n, ¬ Json.same (.bool b) (.int n)) ∧
    ¬ Json.same (.dict []) (.list []) ∧
    ∀ k fields, ¬ Json.same (.dict ((k, .null) :: fields)) (.dict fields) := by
  refine ⟨fun b n h => ?_, fun h => ?_, fun k fields h => ?_⟩
  · simp [Json.same] at h
  · simp [Json.same] at h
  · rw [Json.same] at h
    obtain ⟨hs, hperm, hsame⟩ := h
    have hlength := Json.length_of_sameFields hsame
    rw [hperm.length_eq, List.length_cons] at hlength
    omega

/-- Unless SHA-256 confuses the two texts, two payloads have one digest exactly when the schema
versions are equal and the payloads are equal as JSON. -/
theorem canonical_digest_faithful (s t : String) (v w : JsonValue)
    (hv : validateJsonValue "$.payload" v.json = .ok ())
    (hw : validateJsonValue "$.payload" w.json = .ok ())
    (hsha : Sha256.hexdigest (canonicalBytes s v.json) =
        Sha256.hexdigest (canonicalBytes t w.json) →
      canonicalBytes s v.json = canonicalBytes t w.json) :
    (∃ d e, canonicalDigest s v.json = .ok d ∧ canonicalDigest t w.json = .ok e ∧
      (d = e ↔ s = t ∧ v.json.same w.json)) ∧
    (∀ b n, ¬ Json.same (.bool b) (.int n)) ∧ ¬ Json.same (.dict []) (.list []) ∧
    ∀ k fields, ¬ Json.same (.dict ((k, .null) :: fields)) (.dict fields) := by
  refine ⟨⟨_, _, canonicalDigest_eq_ok.mpr ⟨hv, rfl⟩, canonicalDigest_eq_ok.mpr ⟨hw, rfl⟩, ?_⟩,
    same_separates⟩
  rw [contentDigest_eq_iff, ← Json.norm_eq_iff v.distinct w.distinct, ← canonicalBytes_eq_iff]
  exact ⟨hsha, congrArg Sha256.hexdigest⟩

/-- The keys of one payload stand in another order. -/
theorem canonical_digest_faithful_reordered :
    let v : JsonValue := ⟨.dict [("a", .bool true), ("b", .int 1)], by simp [Json.Distinct,
      Json.distinctFields]⟩
    let w : JsonValue := ⟨.dict [("b", .int 1), ("a", .bool true)], by simp [Json.Distinct,
      Json.distinctFields]⟩
    ∃ d e, canonicalDigest "v1" v.json = .ok d ∧ canonicalDigest "v1" w.json = .ok e ∧
      (d = e ↔ "v1" = "v1" ∧ v.json.same w.json) := by
  intro v w
  have hsame : v.json.same w.json :=
    ⟨_, List.Perm.swap _ _ [], by simp [Json.sameFields, Json.same]⟩
  exact (canonical_digest_faithful "v1" "v1" v w (by decide) (by decide)
    fun _ => canonicalBytes_eq_iff.mpr ⟨rfl, (Json.norm_eq_iff v.distinct w.distinct).mpr hsame⟩).1

end QaRunner
