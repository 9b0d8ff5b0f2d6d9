import QaRunner.Domain.TargetAccess
import QaRunner.Lib.LetterCase
import QaRunner.Lib.Separator

/-! The egress decision for one hop, and the host names that a grant's patterns cover. -/
namespace QaRunner
open Guarded Separator LetterCase

/-- Addresses by value; equal IPv6 addresses have the same scope. -/
inductive IpAddress where
  | v4 (value : ℕ)
  | v6 (value : ℕ) (scope : Option String)
  deriving DecidableEq

/-- The `ipaddress` module: how a text is read, and the address classes. -/
structure IpModule where
  ipAddress : String → Option IpAddress
  isLoopback : IpAddress → Bool
  isLinkLocal : IpAddress → Bool
  isPrivate : IpAddress → Bool

inductive EgressDecision where
  | allow
  | deny
  deriving DecidableEq, Repr

inductive EgressDenyReason where
  | grantMissing
  | grantNotEffective
  | dnsNotInGrant
  | portNotInGrant
  | protocolNotInGrant
  | forbiddenMetadata
  | forbiddenLoopback
  | forbiddenLinkLocal
  | privateNetworkNotAllowed
  | invalidResolvedIp
  deriving DecidableEq, Repr

structure EgressEvaluation where
  allowed : Bool
  decision : EgressDecision
  reason : Option EgressDenyReason
  host : String
  port : ℤ
  protocol : String
  resolvedIp : String
  isRedirectHop : Bool
  grantId : Option String
  targetId : Option String
  deriving DecidableEq

/-- The arguments of `evaluate_egress_request`. -/
structure EgressRequest where
  grant : Option TargetGrant
  host : String
  port : ℤ
  protocol : String
  resolvedIp : String
  observedAt : Datetime
  isRedirectHop : Bool

/-- `169.254.169.254` and `fd00:ec2::254`. -/
def metadataAddresses : List IpAddress :=
  [.v4 0xa9fea9fe, .v6 0xfd000ec2000000000000000000000254 none]

def isCloudMetadata (addr : IpAddress) : Bool := metadataAddresses.contains addr

namespace Egress
variable (tables : Tables) (ip : IpModule)

/-- In lower case and without trailing dots. -/
def folded (s : String) : List Char := (lower tables s.toList).rdropWhile (· = '.')

/-- The test of one pattern: a leading `*.` stands for one or more labels. -/
def patternMatches (host pattern : List Char) : Bool :=
  if pattern = [] then false
  else if ['*', '.'] <+: pattern ∧ 2 < pattern.length then
    let suffix := pattern.tail
    decide (suffix <:+ host ∧ suffix.length < host.length)
  else decide (host = pattern)

def hostMatchesGrant (host : List Char) (patterns : List String) : Bool :=
  if (ip.ipAddress (String.ofList host)).isSome then false
  else patterns.any fun raw => patternMatches host (folded tables (strip raw))

/-- The reason to deny a request under a grant, if there is one; the first that applies. -/
def grantDenyReason (request : EgressRequest) (grant : TargetGrant) :
    Result (Option EgressDenyReason) := do
  let effective ← grant.isEffectiveAt request.observedAt
  if ¬ effective then return some .grantNotEffective
  match ip.ipAddress (strip request.resolvedIp) with
  | none => return some .invalidResolvedIp
  | some addr =>
    if isCloudMetadata addr then return some .forbiddenMetadata
    if ip.isLoopback addr then return some .forbiddenLoopback
    if ip.isLinkLocal addr then return some .forbiddenLinkLocal
    if ip.isPrivate addr ∧ ¬ grant.target.allowPrivateRfc1918 then
      return some .privateNetworkNotAllowed
    if ¬ hostMatchesGrant tables ip (folded tables (strip request.host))
        grant.target.allowedDnsNames then
      return some .dnsNotInGrant
    if ¬ grant.target.allowedProtocols.any fun protocol =>
        lower tables protocol.toList = lower tables (strip request.protocol).toList then
      return some .protocolNotInGrant
    if request.port ∉ grant.target.allowedPorts then return some .portNotInGrant
    return none

def denyReason (request : EgressRequest) : Result (Option EgressDenyReason) :=
  match request.grant with
  | none => .ok (some .grantMissing)
  | some grant => grantDenyReason tables ip request grant

def evaluateEgressRequest (request : EgressRequest) : Result EgressEvaluation := do
  invalidIf (isBlank request.host) "egress_request" "host" "invalid"
  invalidIf (request.port < 1 ∨ 65535 < request.port) "egress_request" "port" "invalid"
  invalidIf (isBlank request.protocol) "egress_request" "protocol" "invalid"
  invalidIf (isBlank request.resolvedIp) "egress_request" "resolved_ip" "invalid"
  requireUtc "egress_request" "observed_at" request.observedAt
  let reason ← denyReason tables ip request
  return {
    allowed := reason.isNone
    decision := if reason.isNone then .allow else .deny
    reason := reason
    host := String.ofList (folded tables (strip request.host))
    port := request.port
    protocol := String.ofList (lower tables (strip request.protocol).toList)
    resolvedIp := strip request.resolvedIp
    isRedirectHop := request.isRedirectHop
    grantId := request.grant.map (·.grantId)
    targetId := request.grant.map (·.target.targetId) }

/-- The label list of a name, in lower case and without trailing dots. -/
def labels (s : String) : List (List Char) := (folded tables s).splitOn '.'

/-- When the labels of a pattern cover those of a host: they are the same, or the pattern is `*.`
and a base of which the host is a proper subdomain. -/
inductive Covers : List (List Char) → List (List Char) → Prop
  | plain {name : List (List Char)} (hplain : ∀ base, name = ['*'] :: base → base = []) :
      Covers name name
  | wildcard {base host : List (List Char)} (hbase : base ≠ []) (hsuffix : base <:+ host)
      (hproper : host ≠ base) : Covers (['*'] :: base) host

variable {tables ip} {request : EgressRequest} {grant : TargetGrant} {e : EgressEvaluation}
  {host pattern : List Char} {patterns : List String} {s : String}

theorem folded_last (hne : folded tables s ≠ []) : (folded tables s).getLast hne ≠ '.' := by
  have h := List.rdropWhile_last_not (fun c => decide (c = '.')) (lower tables s.toList) hne
  exact fun heq => h (decide_eq_true heq)

/-- The labels of two texts joined by a dot. -/
theorem splitOn_join {x y : List Char} : (x ++ '.' :: y).splitOn '.' =
    x.splitOn '.' ++ y.splitOn '.' := List.splitOn_append_cons_self ..

/-- A text that ends with a dot and the base, and has more before it, is a proper subdomain. -/
theorem covers_of_suffix {base : List Char} (h : '.' :: base <:+ host)
    (hlength : ('.' :: base).length < host.length) :
    Covers (('*' :: '.' :: base).splitOn '.') (host.splitOn '.') := by
  obtain ⟨front, rfl⟩ := h
  have hpattern : ('*' :: '.' :: base).splitOn '.' = ['*'] :: base.splitOn '.' :=
    splitOn_join (x := ['*'])
  rw [hpattern, splitOn_join]
  refine .wildcard (List.splitOn_ne_nil '.' base) (List.suffix_append _ _) fun heq => ?_
  exact List.splitOn_ne_nil '.' front (List.append_left_eq_self.mp heq)

/-- The labels of a plain name cover a host that has the same text. -/
theorem covers_self (hplain : ¬ (['*', '.'] <+: pattern ∧ 2 < pattern.length))
    (hlast : ∀ hne : pattern ≠ [], pattern.getLast hne ≠ '.') :
    Covers (pattern.splitOn '.') (pattern.splitOn '.') := by
  refine .plain fun base hlabels => ?_
  by_contra hbase
  have hjoin : ['.'].intercalate (pattern.splitOn '.') = pattern := List.intercalate_splitOn '.'
  obtain ⟨b, rest, rfl⟩ := List.exists_cons_of_ne_nil hbase
  rw [hlabels] at hjoin
  have htext : pattern = '*' :: '.' :: ['.'].intercalate (b :: rest) := by
    rw [← hjoin]
    rfl
  refine hplain ⟨⟨_, htext.symm⟩, ?_⟩
  -- a pattern of two characters would end with a dot
  cases hrest : ['.'].intercalate (b :: rest) with
  | nil =>
    rw [hrest] at htext
    subst htext
    exact absurd rfl (hlast (by simp))
  | cons c cs =>
    rw [htext, hrest]
    simp

theorem covers_of_pattern (hlast : ∀ hne : pattern ≠ [], pattern.getLast hne ≠ '.')
    (h : patternMatches host pattern = true) :
    Covers (pattern.splitOn '.') (host.splitOn '.') := by
  unfold patternMatches at h
  split at h
  · cases h
  · split at h
    · next hwild =>
      obtain ⟨⟨base, rfl⟩, -⟩ := hwild
      simp only [List.cons_append, List.nil_append, List.tail_cons] at h ⊢
      obtain ⟨hsuffix, hlength⟩ := of_decide_eq_true h
      exact covers_of_suffix hsuffix hlength
    · next hplain =>
      rw [of_decide_eq_true h]
      exact covers_self hplain hlast

theorem covers_of_match (h : hostMatchesGrant tables ip host patterns = true) :
    ip.ipAddress (String.ofList host) = none ∧
      ∃ raw ∈ patterns, Covers (labels tables (strip raw)) (host.splitOn '.') := by
  unfold hostMatchesGrant at h
  split at h
  · cases h
  · next hliteral =>
    obtain ⟨raw, hraw, hmatch⟩ := List.any_eq_true.mp h
    refine ⟨by simpa using hliteral, raw, hraw, ?_⟩
    rw [labels]
    exact covers_of_pattern (fun hne => folded_last hne) hmatch

theorem isEffectiveAt_eq_true {t : Datetime} (h : grant.isEffectiveAt t = .ok true) :
    grant.state = .active ∧ grant.validFrom ≤ t ∧ t < grant.validUntil := by
  unfold TargetGrant.isEffectiveAt at h
  rw [then_eq_ok] at h
  obtain ⟨-, h⟩ := h
  split at h
  · cases h
  · next hstate =>
    simp only [pure_eq_ok, decide_eq_true_eq] at h
    exact ⟨not_not.mp hstate, h⟩

/-- What a request that is not denied has passed. -/
structure Admitted (tables : Tables) (ip : IpModule) (request : EgressRequest)
    (grant : TargetGrant) (addr : IpAddress) : Prop where
  effective : grant.state = .active ∧ grant.validFrom ≤ request.observedAt ∧
    request.observedAt < grant.validUntil
  resolved : ip.ipAddress (strip request.resolvedIp) = some addr
  notMetadata : addr ∉ metadataAddresses
  notLoopback : ip.isLoopback addr = false
  notLinkLocal : ip.isLinkLocal addr = false
  private_allowed : ip.isPrivate addr = true → grant.target.allowPrivateRfc1918 = true
  notLiteral : ip.ipAddress (String.ofList (folded tables (strip request.host))) = none
  covered : ∃ pattern ∈ grant.target.allowedDnsNames,
    Covers (labels tables (strip pattern)) (labels tables (strip request.host))
  protocol : ∃ protocol ∈ grant.target.allowedProtocols,
    lower tables protocol.toList = lower tables (strip request.protocol).toList
  port : request.port ∈ grant.target.allowedPorts

/-- No reason is found when the test in front finds none and neither do the later ones. -/
theorem next_reason {c : Prop} [Decidable c] {r : EgressDenyReason}
    {later : Result (Option EgressDenyReason)} :
    (if c then pure (some r) else later) = .ok none ↔ ¬ c ∧ later = .ok none := by
  split
  · next hc => simp [hc, pure_eq_ok]
  · next hc => simp [hc]

theorem admitted_of_no_reason (h : grantDenyReason tables ip request grant = .ok none) :
    ∃ addr, Admitted tables ip request grant addr := by
  unfold grantDenyReason at h
  obtain ⟨effective, heffective, h⟩ := bind_eq_ok.mp h
  rw [next_reason] at h
  obtain ⟨htrue, h⟩ := h
  rw [not_not] at htrue
  subst htrue
  cases haddr : ip.ipAddress (strip request.resolvedIp) with
  | none =>
    rw [haddr] at h
    cases h
  | some addr =>
    rw [haddr] at h
    simp only [next_reason, not_not] at h
    obtain ⟨hmetadata, hloopback, hlinkLocal, hprivate, hhost, hprotocol, hport, -⟩ := h
    obtain ⟨hliteral, hcovered⟩ := covers_of_match hhost
    refine ⟨addr, isEffectiveAt_eq_true heffective, haddr, ?_, ?_, ?_, ?_, hliteral, hcovered, ?_,
      hport⟩
    · simpa [isCloudMetadata] using hmetadata
    · simpa using hloopback
    · simpa using hlinkLocal
    · simpa using hprivate
    · simpa using hprotocol

/-- A wildcard covers the hosts that have labels of their own before its base. -/
theorem covers_wildcard {base host : List (List Char)} (hbase : base ≠ []) :
    Covers (['*'] :: base) host ↔ ∃ front, front ≠ [] ∧ host = front ++ base := by
  constructor
  · intro h
    cases h with
    | plain hplain => exact absurd (hplain base rfl) hbase
    | wildcard _ hsuffix hproper =>
      obtain ⟨front, rfl⟩ := hsuffix
      exact ⟨front, fun hnil => hproper (by rw [hnil, List.nil_append]), rfl⟩
  · rintro ⟨front, hfront, rfl⟩
    refine .wildcard hbase (List.suffix_append _ _) fun heq => hfront ?_
    exact List.append_left_eq_self.mp heq

end Egress

open Egress

/-- An allowed request has a grant in force that admits it: the host's labels are those of a plain
name, or have a wildcard's base after labels of their own. -/
theorem egress_allowed_admitted {tables : Tables} {ip : IpModule} {request : EgressRequest}
    {e : EgressEvaluation} (h : evaluateEgressRequest tables ip request = .ok e)
    (hallowed : e.allowed = true) :
    ∃ grant addr, request.grant = some grant ∧ Admitted tables ip request grant addr := by
  simp only [evaluateEgressRequest, bind_eq_ok, exists_unit, pure_eq_ok] at h
  obtain ⟨-, -, -, -, -, reason, hreason, rfl⟩ := h
  obtain rfl := Option.isNone_iff_eq_none.mp hallowed
  unfold denyReason at hreason
  cases hgrant : request.grant with
  | none =>
    rw [hgrant] at hreason
    cases hreason
  | some grant =>
    rw [hgrant] at hreason
    obtain ⟨addr, hadmitted⟩ := admitted_of_no_reason hreason
    exact ⟨grant, addr, rfl, hadmitted⟩

namespace Egress

/-- Letters without case outside ASCII. -/
def plainTables : Tables := ⟨fun c => [c], fun _ c _ => [c]⟩

def onePublicAddress : IpModule where
  ipAddress text := if text = "93.184.216.34" then some (.v4 0x5db8d822) else none
  isLoopback _ := false
  isLinkLocal _ := false
  isPrivate _ := false

def wildcardGrant : TargetGrant where
  grantId := "grant-1"
  target :=
    { targetId := "target-1"
      environment := "staging"
      allowedDnsNames := ["app.example.com", "*.cdn.example.com"]
      allowedProtocols := ["https"]
      allowedPorts := [443]
      allowPrivateRfc1918 := false
      ownerId := "owner-1"
      accepted := by decide }
  state := .active
  maxConcurrentUnits := 1
  validFrom := ⟨0, some 0⟩
  validUntil := ⟨100, some 0⟩
  version := 1
  accepted := by decide

def requestTo (host : String) : EgressRequest :=
  ⟨some wildcardGrant, host, 443, "https", "93.184.216.34", ⟨20, some 0⟩, false⟩

theorem exists_of_allowed {x : Result EgressEvaluation}
    (h : x.toOption.map (·.allowed) = some true) : ∃ e, x = .ok e ∧ e.allowed = true := by
  cases x with
  | error => cases h
  | ok e => exact ⟨e, rfl, Option.some.inj h⟩

end Egress

/-- A subdomain of the wildcard's base is allowed. -/
theorem subdomain_admitted : ∃ grant addr,
    (requestTo "a.cdn.example.com").grant = some grant ∧
      Admitted plainTables onePublicAddress (requestTo "a.cdn.example.com") grant addr := by
  obtain ⟨e, h, hallowed⟩ := exists_of_allowed (x := evaluateEgressRequest plainTables
    onePublicAddress (requestTo "a.cdn.example.com")) (by decide +kernel)
  exact egress_allowed_admitted h hallowed

/-- A host with a blank before it is allowed, though its first label is no label of the grant. -/
theorem blank_host_allowed : ¬ ∀ (tables : Tables) (ip : IpModule) (request : EgressRequest)
    (e : EgressEvaluation), evaluateEgressRequest tables ip request = .ok e → e.allowed = true →
    ∃ grant, request.grant = some grant ∧ ∃ pattern ∈ grant.target.allowedDnsNames,
      Covers (labels tables pattern) (labels tables request.host) := by
  intro hall
  obtain ⟨e, h, hallowed⟩ := exists_of_allowed (x := evaluateEgressRequest plainTables
    onePublicAddress (requestTo " app.example.com")) (by decide +kernel)
  obtain ⟨_, hgrant, pattern, hpattern, hcovers⟩ := hall _ _ _ _ h hallowed
  cases hgrant
  have hhost : labels plainTables (requestTo " app.example.com").host =
      [" app".toList, "example".toList, "com".toList] := by decide +kernel
  have hplain : labels plainTables "app.example.com" =
      ["app".toList, "example".toList, "com".toList] := by decide +kernel
  have hwild : labels plainTables "*.cdn.example.com" =
      ['*'] :: ["cdn".toList, "example".toList, "com".toList] := by decide +kernel
  rw [hhost] at hcovers
  change pattern ∈ ["app.example.com", "*.cdn.example.com"] at hpattern
  rw [List.mem_cons, List.mem_singleton] at hpattern
  obtain rfl | rfl := hpattern
  · rw [hplain] at hcovers
    cases hcovers
  · rw [hwild, covers_wildcard (by simp)] at hcovers
    obtain ⟨front, hfront, heq⟩ := hcovers
    obtain ⟨label, rest, rfl⟩ := List.exists_cons_of_ne_nil hfront
    have hlength := congrArg List.length heq
    simp at hlength

end QaRunner
