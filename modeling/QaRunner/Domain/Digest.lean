import QaRunner.Domain.Errors
import QaRunner.Lib.Failures
import QaRunner.Lib.Json
import QaRunner.Lib.Sha256

/-! Canonical content digests for execution contracts. -/
namespace QaRunner
open Guarded

/-- `sha256:` followed by sixty-four lowercase hexadecimal digits. -/
def isSha256 (value : String) : Bool :=
  value.toList.take 7 == "sha256:".toList && (value.toList.drop 7).length == 64 &&
    (value.toList.drop 7).all Sha256.isHex

/-- A lowercase SHA-256 content digest. -/
structure Digest where
  value : String
  accepted : isSha256 value = true
  deriving DecidableEq

theorem Digest.value_inj {d e : Digest} : d.value = e.value ↔ d = e := by
  rw [Digest.mk.injEq]

def Digest.new (value : String) : Result Digest :=
  if h : isSha256 value = true then .ok ⟨value, h⟩
  else .error (.domainValidation "digest" "value" "invalid_sha256")

/-- Every digest has the prefix that is removed. -/
def digestHex (value : Digest) : String := String.ofList (value.value.toList.drop 7)

/-- A digest that is stored without its prefix is read back with it. -/
theorem Digest.new_removeprefix (d : Digest) : Digest.new ("sha256:" ++ digestHex d) = .ok d := by
  have haccepted := d.accepted
  simp only [isSha256, Bool.and_eq_true, beq_iff_eq] at haccepted
  have hvalue : "sha256:" ++ digestHex d = d.value := by
    have hsplit := List.take_append_drop 7 d.value.toList
    have hrest : (digestHex d).toList = d.value.toList.drop 7 := String.toList_ofList
    rw [haccepted.1.1] at hsplit
    rw [← String.toList_inj, String.toList_append, hrest]
    exact hsplit
  unfold Digest.new
  rw [hvalue, dif_pos d.accepted]

/-- The digest of sixty-four zeroes. -/
def Digest.zero : Digest :=
  ⟨"sha256:0000000000000000000000000000000000000000000000000000000000000000", by decide⟩

/-- A string has a UTF-8 encoding, whatever it stands for. -/
def validateString (path value : Str) : Result Unit :=
  raiseIf (value.isUnicode = false) (.canonicalization path "string is not valid Unicode")

mutual

/-- Validate the deterministic I-JSON subset. -/
def validateJsonValue (path : Str) : Json → Result Unit
  | .int n =>
    raiseIf (9007199254740991 < n.natAbs)
      (.canonicalization path "integer exceeds I-JSON safe range")
  | .str s => validateString path s
  | .list items => validateJsonItems path 0 items
  | .dict fields => validateJsonFields path fields
  | _ => .ok ()

def validateJsonItems (path : Str) (index : ℕ) : List Json → Result Unit
  | [] => .ok ()
  | v :: vs => do
    validateJsonValue (path ++ ("[" ++ toString index ++ "]" : String)) v
    validateJsonItems path (index + 1) vs

def validateJsonFields (path : Str) : Json.Members → Result Unit
  | [] => .ok ()
  | (k, v) :: rest => do
    validateString (path ++ (".<key>" : Str)) k
    validateJsonValue (path ++ (("." : Str) ++ k)) v
    validateJsonFields path rest

end

/-- The bytes that are hashed. -/
def canonicalBytes (schemaVersion : Str) (payload : Json) : List ℕ :=
  Json.bytes (.dict [("payload", payload), ("schema_version", .str schemaVersion)])

theorem isSha256_hexDigits (n : ℕ) :
    isSha256 (String.ofList ("sha256:".toList ++ Sha256.hexDigits n)) = true := by
  have hdrop : ("sha256:".toList ++ Sha256.hexDigits n).drop 7 = Sha256.hexDigits n :=
    List.drop_left' (by decide)
  have htake : ("sha256:".toList ++ Sha256.hexDigits n).take 7 = "sha256:".toList :=
    List.take_left' (by decide)
  simp only [isSha256, String.toList_ofList, hdrop, htake, Sha256.length_hexDigits,
    Sha256.isHex_hexDigits, beq_self_eq_true, Bool.and_self]

/-- The digest of a payload inside the I-JSON subset. -/
@[irreducible] def contentDigest (schemaVersion : Str) (payload : Json) : Digest :=
  ⟨String.ofList ("sha256:".toList ++ Sha256.hexdigest (canonicalBytes schemaVersion payload)),
    isSha256_hexDigits _⟩

/-- Hash a schema-versioned JSON payload using a stable representation. -/
def canonicalDigest (schemaVersion : Str) (payload : Json) : Result Digest := do
  validateString "$.schema_version" schemaVersion
  validateJsonValue "$.payload" payload
  return contentDigest schemaVersion payload

theorem validateString_eq_ok {path value : Str} {u : Unit} :
    validateString path value = .ok u ↔ value.isUnicode = true := by
  simp [validateString, raiseIf_eq_ok]

theorem canonicalDigest_eq_ok {schemaVersion : String} {payload : Json} {d : Digest} :
    canonicalDigest schemaVersion payload = .ok d ↔
      validateJsonValue "$.payload" payload = .ok () ∧ contentDigest schemaVersion payload = d := by
  simp only [canonicalDigest, then_eq_ok, pure_eq_ok, validateString_eq_ok, Str.isUnicode_text,
    true_and]

theorem canonicalDigest_of_valid {schemaVersion : String} {payload : Json}
    (h : validateJsonValue "$.payload" payload = .ok ()) :
    ∃ digest, canonicalDigest schemaVersion payload = .ok digest :=
  ⟨_, canonicalDigest_eq_ok.mpr ⟨h, rfl⟩⟩

/-- The failure of a value that is outside the subset. -/
def Noncanonical (e : DomainError) : Prop := ∃ path reason, e = .canonicalization path reason

theorem failsIn_validateString {path value : Str} :
    FailsIn Noncanonical (validateString path value) :=
  failsIn_raiseIf ⟨_, _, rfl⟩

mutual

theorem failsIn_validateJsonValue {path : Str} (v : Json) :
    FailsIn Noncanonical (validateJsonValue path v) := by
  cases v with
  | int n => exact failsIn_raiseIf ⟨_, _, rfl⟩
  | str s => exact failsIn_validateString
  | list items => exact failsIn_validateJsonItems items
  | dict fields => exact failsIn_validateJsonFields fields
  | null => exact failsIn_ok ()
  | bool b => exact failsIn_ok ()

theorem failsIn_validateJsonItems {path : Str} {index : ℕ} (items : List Json) :
    FailsIn Noncanonical (validateJsonItems path index items) := by
  cases items with
  | nil => exact failsIn_ok ()
  | cons v vs =>
    exact (failsIn_validateJsonValue v).bind fun _ _ => failsIn_validateJsonItems vs

theorem failsIn_validateJsonFields {path : Str} (fields : Json.Members) :
    FailsIn Noncanonical (validateJsonFields path fields) := by
  cases fields with
  | nil => exact failsIn_ok ()
  | cons field rest =>
    exact failsIn_validateString.bind fun _ _ =>
      (failsIn_validateJsonValue field.2).bind fun _ _ => failsIn_validateJsonFields rest

end

/-- Only a value outside the subset keeps a payload from its digest. -/
theorem failsIn_canonicalDigest (schemaVersion : Str) (payload : Json) :
    FailsIn Noncanonical (canonicalDigest schemaVersion payload) :=
  failsIn_validateString.bind fun _ _ =>
    (failsIn_validateJsonValue payload).bind fun _ _ => failsIn_ok _

/-- Bind the stable authoritative Run set observed under Batch serialization. -/
def canonicalMaterializedRunSetDigest (batchId : Str) (runIds : List Str) : Result Digest :=
  canonicalDigest "qep.authoritative-materialized-run-set.v1"
    (.dict [("batch_id", .str batchId),
      ("run_ids", .list ((Sorting.sortOn id runIds).map .str))])

def optionalDigestValue (digest : Option Digest) : Json :=
  Json.opt (fun d => .str d.value) digest

def optionalInt (value : Option ℤ) : Json := Json.opt .int value

def optionalString (value : Option Str) : Json := Json.opt .str value

@[simp] theorem optionalDigestValue_inj {d e : Option Digest} :
    optionalDigestValue d = optionalDigestValue e ↔ d = e :=
  Json.opt_inj (fun _ _ h => Digest.value_inj.mp (Str.text.inj (Json.str.inj h))) (fun _ => nofun)

@[simp] theorem optionalInt_inj {m n : Option ℤ} : optionalInt m = optionalInt n ↔ m = n :=
  Json.opt_inj (fun _ _ h => Json.int.inj h) (fun _ => nofun)

@[simp] theorem optionalString_inj {s t : Option Str} :
    optionalString s = optionalString t ↔ s = t :=
  Json.opt_inj (fun _ _ h => Json.str.inj h) (fun _ => nofun)

/-- The integers of the I-JSON subset. -/
def SafeInt (n : ℤ) : Prop := n.natAbs ≤ 9007199254740991

instance : DecidablePred SafeInt := fun _ => Nat.decLe _ _

section
variable {path : Str}

@[simp] theorem validateJsonValue_str {s : Str} :
    validateJsonValue path (.str s) = .ok () ↔ s.isUnicode = true := validateString_eq_ok

@[simp] theorem validateJsonValue_text (s : String) :
    validateJsonValue path (.str s) = .ok () := rfl

@[simp] theorem validateJsonValue_optionalString {value : Option Str} :
    validateJsonValue path (optionalString value) = .ok () ↔
      ∀ s ∈ value, s.isUnicode = true := by
  cases value with
  | none => simp [optionalString, Json.opt, validateJsonValue]
  | some s => simp [optionalString, Json.opt]

@[simp] theorem validateJsonValue_optionalDigestValue (digest : Option Digest) :
    validateJsonValue path (optionalDigestValue digest) = .ok () := by
  cases digest <;> rfl

@[simp] theorem validateJsonValue_int {n : ℤ} :
    validateJsonValue path (.int n) = .ok () ↔ SafeInt n := by
  simp only [validateJsonValue, raiseIf_eq_ok, SafeInt, not_lt]

@[simp] theorem validateJsonValue_optionalInt {value : Option ℤ} :
    validateJsonValue path (optionalInt value) = .ok () ↔ ∀ n ∈ value, SafeInt n := by
  cases value with
  | none => simp [optionalInt, Json.opt, validateJsonValue]
  | some n => simp [optionalInt, Json.opt]

@[simp] theorem validateJsonFields_nil : validateJsonFields path [] = .ok () := rfl

/-- The keys of a record are names of its fields. -/
@[simp] theorem validateJsonFields_cons {k : String} {v : Json} {fields : Json.Members} :
    validateJsonFields path (((k : Str), v) :: fields) = .ok () ↔
      validateJsonValue (path ++ (("." : Str) ++ (k : Str))) v = .ok () ∧
        validateJsonFields path fields = .ok () := by
  rw [validateJsonFields, then_eq_ok, then_eq_ok, validateString_eq_ok]
  simp only [Str.isUnicode_text, true_and]

@[simp] theorem validateJsonValue_dict {fields : Json.Members} :
    validateJsonValue path (.dict fields) = validateJsonFields path fields := rfl

/-- A list is inside the subset exactly when each of its elements is, where that does not depend on
their place. -/
theorem validateJsonValue_map_iff {α : Type} {as : List α} {payload : α → Json} {valid : α → Prop}
    (h : ∀ a path, validateJsonValue path (payload a) = .ok () ↔ valid a) :
    validateJsonValue path (.list (as.map payload)) = .ok () ↔ ∀ a ∈ as, valid a := by
  have hitems : ∀ index, validateJsonItems path index (as.map payload) = .ok () ↔
      ∀ a ∈ as, valid a := by
    induction as with
    | nil => simp [validateJsonItems]
    | cons a as ih =>
      intro index
      rw [List.map_cons, validateJsonItems, then_eq_ok, ih, List.forall_mem_cons, h]
  exact hitems 0

@[simp] theorem validateJsonValue_strings {values : List Str} :
    validateJsonValue path (.list (values.map .str)) = .ok () ↔
      ∀ value ∈ values, value.isUnicode = true :=
  validateJsonValue_map_iff fun _ _ => validateJsonValue_str

/-- A list is inside the subset when its elements are, wherever they stand. -/
theorem validateJsonValue_list {items : List Json}
    (h : ∀ v ∈ items, ∀ path, validateJsonValue path v = .ok ()) :
    validateJsonValue path (.list items) = .ok () := by
  have hitems : ∀ index, validateJsonItems path index items = .ok () := by
    induction items with
    | nil => exact fun _ => rfl
    | cons v vs ih =>
      intro index
      rw [List.forall_mem_cons] at h
      rw [validateJsonItems, then_eq_ok]
      exact ⟨h.1 _, ih h.2 _⟩
  exact hitems 0

theorem validateJsonValue_map {α : Type} {as : List α} {payload : α → Json}
    (h : ∀ a ∈ as, ∀ path, validateJsonValue path (payload a) = .ok ()) :
    validateJsonValue path (.list (as.map payload)) = .ok () := by
  apply validateJsonValue_list
  rw [List.forall_mem_map]
  exact h

end

theorem canonicalMaterializedRunSetDigest_ok {batchId : Str} {runIds : List Str} :
    (∃ digest, canonicalMaterializedRunSetDigest batchId runIds = .ok digest) ↔
      batchId.isUnicode = true ∧ ∀ runId ∈ runIds, runId.isUnicode = true := by
  simp only [canonicalMaterializedRunSetDigest, canonicalDigest_eq_ok, exists_and_left, exists_eq',
    and_true, validateJsonValue_dict, validateJsonFields_cons, validateJsonFields_nil,
    validateJsonValue_str, validateJsonValue_strings, Sorting.mem_sortOn]

end QaRunner
