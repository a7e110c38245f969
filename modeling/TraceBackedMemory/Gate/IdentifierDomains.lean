import TraceBackedMemory.Ledger.PayloadSchema
import TraceBackedMemory.Gate.SessionRevisions
import TraceBackedMemory.Gate.Advancing
import TraceBackedMemory.Ledger.Interleaving

namespace TraceBackedMemory

open Text Raising

namespace GateEvents

variable {sha : Sha256}

section PayloadSchema

def typed (type : SchemaType) : Schema := .mk [] none none type

def identifierSchema : Schema := typed (.string (some 1) (some 128) (some trimmedPattern))

def nullOr (schema : Schema) : Schema := .mk [typed .null, schema] none none .unspecified

def timestampSchema : Schema := typed (.string (some 1) (some 64) (some rfc3339Pattern))

def digestSchema : Schema := typed (.string none none (some validDigest))

def constSchema (value : Str) : Schema := .mk [] (some (.str value)) none .unspecified

def maxSemanticAttempts : Nat := 100

def maxMemoryRevisions : Nat := 50

def sessionProperties : List (Str × Schema) :=
  [(lit "contract_version", constSchema contractVersion),
    (lit "session_id", identifierSchema),
    (lit "tenant_id", identifierSchema),
    (lit "repository_id", identifierSchema),
    (lit "principal_id", identifierSchema),
    (lit "agent_client_id", identifierSchema),
    (lit "trace_id", identifierSchema),
    (lit "run_id", identifierSchema),
    (lit "request_fingerprint", digestSchema),
    (lit "idempotency_key", typed (.string (some 1) (some 512) none)),
    (lit "status", .mk [] none (some (statuses.map (fun status => .str status.text))) .unspecified),
    (lit "version", typed (.integer (some (.int 1)) none)),
    (lit "created_at", timestampSchema),
    (lit "updated_at", timestampSchema),
    (lit "expires_at", timestampSchema),
    (lit "lease_expires_at", nullOr timestampSchema),
    (lit "retrieval_snapshot_id", nullOr identifierSchema),
    (lit "system_gate_evaluation_id", nullOr identifierSchema),
    (lit "semantic_gate_attempt_ids",
      typed (.array identifierSchema none (some maxSemanticAttempts) true)),
    (lit "decision_id", nullOr identifierSchema),
    (lit "final_memory_revision_ids",
      typed (.array identifierSchema none (some maxMemoryRevisions) true)),
    (lit "injection_artifact_id", nullOr identifierSchema),
    (lit "usage_decision_id", nullOr identifierSchema),
    (lit "run_outcome_id", nullOr identifierSchema),
    (lit "terminal_reason", nullOr (typed (.string (some 1) (some 2000) none)))]

def sessionSchema : Schema :=
  typed (.object (sessionProperties.map Prod.fst) sessionProperties)

def payloadProperties : List (Str × Schema) :=
  [(lit "contract_version", constSchema eventContractVersion),
    (lit "session", sessionSchema),
    (lit "session_sha256", digestSchema),
    (lit "previous_session_sha256", nullOr digestSchema),
    (lit "transition_authorization_event_id", identifierSchema)]

-- every GateSession revision event is registered with this one schema
def gateSessionEventPayloadSchema : Schema := typed (.object payloadFields payloadProperties)

def createdPayload (sha : Sha256) (s : GateSession) (authorizationDecisionId : Str) :
    Except GateError Json := do
  let session ← toDict s
  let digest ← revisionSha256 sha s
  return eventPayload session digest none authorizationDecisionId

end PayloadSchema

section Contracts

def isControl (c : CodePoint) : Bool := decide (c.val < 32 ∨ c.val = 127)

-- one to 128 characters, no white space at either end, no control character
def boundedIdentifier (value : Str) : Bool :=
  decide (1 ≤ value.length ∧ value.length ≤ 128) && trimmedPattern value &&
    value.all (fun c => !isControl c)

def usageInvalid (message : Str) : GateError := ⟨.contract, lit "TBM_USAGE_DECISION_INVALID", message⟩

def usageIdentifier (value name : Str) : Except GateError Unit := do
  raiseIf (boundedIdentifier value = false)
    (usageInvalid (name ++
      lit " must be a bounded identifier without surrounding whitespace or control characters"))
  raiseIf (encodedBytes value = none) (usageInvalid (name ++ lit " must contain valid Unicode"))

def usageSessionIdentifiers (s : GateSession) : Except GateError Unit :=
  checkEach (fun f : Str × Str => usageIdentifier f.2 f.1)
    [(lit "session_id", s.sessionId), (lit "trace_id", s.traceId), (lit "run_id", s.runId)]

end Contracts

section Trimming

theorem strip_eq_self_iff {v : Str} (h : isBlank v = false) : strip v = v ↔ Tight v := by
  refine ⟨?_, strip_tight⟩
  intro hstrip
  have hright : (rstrip (lstrip v)).length ≤ (lstrip v).length := by
    rw [rstrip, List.length_reverse]
    exact (List.dropWhile_sublist isSpace).length_le.trans (List.length_reverse).le
  have hleft : (lstrip v).Sublist v := List.dropWhile_sublist isSpace
  have hl : lstrip v = v := by
    refine hleft.eq_of_length_le ?_
    calc v.length = (rstrip (lstrip v)).length := by rw [← strip, hstrip]
      _ ≤ (lstrip v).length := hright
  have hr : v.reverse.dropWhile isSpace = v.reverse := by
    rw [strip, hl, rstrip] at hstrip
    exact List.reverse_eq_iff.mp hstrip
  have hne : v ≠ [] := by
    rintro rfl
    cases h
  have first {l : Str} (hl : l.dropWhile isSpace = l) (hne : l ≠ []) :
      ∃ c, l.head? = some c ∧ isSpace c = false := by
    cases l with
    | nil => exact absurd rfl hne
    | cons c l =>
      refine ⟨c, rfl, ?_⟩
      have hkept := List.dropWhile_eq_self_iff.mp hl (Nat.succ_pos _)
      simpa using hkept
  refine ⟨first hl hne, ?_⟩
  rw [← List.head?_reverse]
  exact first hr (by simpa using hne)

end Trimming

section Acceptance

theorem simple_validatePayload {const : Option Json} {enum : Option (List Json)} {type : SchemaType}
    {value : Json} :
    (Schema.mk [] const enum type).validatePayload value = .ok () ↔
      (∀ v ∈ const, frozenEq value v = true) ∧ (∀ l ∈ enum, l.any (frozenEq value) = true) ∧
        type.validatePayload value = .ok () := by
  rw [Schema.validatePayload_eq_ok]
  constructor
  · rintro ⟨-, h⟩
    exact h
  · intro h
    exact ⟨⟨0, rfl, fun hne => absurd rfl hne⟩, h⟩

theorem typed_validatePayload (type : SchemaType) (value : Json) :
    (typed type).validatePayload value = type.validatePayload value := by
  have hnone {p : Json → Prop} [DecidablePred p] {e : GateError} :
      raiseIf (∃ v ∈ (none : Option Json), p v) e = .ok () := raiseIf_of_not (by simp)
  have hempty {p : List Json → Prop} [DecidablePred p] {e : GateError} :
      raiseIf (∃ l ∈ (none : Option (List Json)), p l) e = .ok () := raiseIf_of_not (by simp)
  rw [typed, Schema.validatePayload, Schema.countMatches, hnone, hempty]
  rfl

theorem string_iff {minimum maximum : Option Nat} {pattern : Option (Str → Bool)} {text : Str} :
    (SchemaType.string minimum maximum pattern).validatePayload (.str text) = .ok () ↔
      (∀ m ∈ minimum, m ≤ text.length) ∧ (∀ m ∈ maximum, text.length ≤ m) ∧
        ∀ p ∈ pattern, p text = true := by
  simp only [SchemaType.validatePayload, validateLength, bind_eq_ok, exists_unit, raiseIf_eq_ok,
    not_exists, not_and, not_lt, Bool.not_eq_false, and_assoc]

theorem identifierSchema_iff {v : Str} : identifierSchema.validatePayload (.str v) = .ok () ↔
    1 ≤ v.length ∧ v.length ≤ 128 ∧ Tight v := by
  rw [identifierSchema, typed_validatePayload, string_iff]
  simp only [Option.mem_some_iff, forall_eq', trimmedPattern_iff]

theorem timestampSchema_isoformat (i : Nat) :
    timestampSchema.validatePayload (.str (isoformat i)) = .ok () := by
  have hlength := length_isoformat i
  have hpattern := rfc3339Pattern_isoformat i
  have hpos : 1 ≤ (isoformat i).length := by
    cases hiso : isoformat i with
    | nil =>
      rw [hiso] at hpattern
      cases hpattern
    | cons c l => exact Nat.succ_pos _
  rw [timestampSchema, typed_validatePayload, string_iff]
  simp only [Option.mem_some_iff, forall_eq']
  exact ⟨hpos, by omega, hpattern⟩

theorem digestSchema_iff {v : Str} :
    digestSchema.validatePayload (.str v) = .ok () ↔ validDigest v = true := by
  rw [digestSchema, typed_validatePayload, string_iff]
  simp

theorem constSchema_self (v : Str) : (constSchema v).validatePayload (.str v) = .ok () := by
  have hself : frozenEq (.str v) (.str v) = true := by
    rw [frozenEq]
    exact decide_eq_true rfl
  rw [constSchema, simple_validatePayload]
  refine ⟨?_, by simp, rfl⟩
  intro w hw
  cases hw
  exact hself

theorem string_null {minimum maximum : Option Nat} {pattern : Option (Str → Bool)} :
    ∃ e, (SchemaType.string minimum maximum pattern).validatePayload .null = .error e ∧
      e.fault ≠ .overflow := by
  refine ⟨payloadInvalid "payload field must be a string", ?_, by decide⟩
  unfold SchemaType.validatePayload
  rfl

theorem nullOr_null {schema : Schema}
    (h : ∃ e, schema.validatePayload .null = .error e ∧ e.fault ≠ .overflow) :
    (nullOr schema).validatePayload .null = .ok () := by
  obtain ⟨e, he, hfault⟩ := h
  have hnull : (typed .null).validatePayload .null = .ok () := by
    rw [typed_validatePayload]
    rfl
  have hcount : Schema.countMatches [typed .null, schema] .null = .ok 1 := by
    simp only [Schema.countMatches, hnull, he, if_neg hfault]
    rfl
  exact Schema.validatePayload_eq_ok.mpr ⟨⟨1, hcount, fun _ => rfl⟩, by simp, by simp, rfl⟩

theorem statusSchema_iff (status : GateSessionStatus) :
    (Schema.mk [] none (some (statuses.map (fun status => .str status.text)))
      .unspecified).validatePayload (.str status.text) = .ok () := by
  have hmem : status ∈ statuses := by cases status <;> decide
  rw [simple_validatePayload]
  refine ⟨by simp, ?_, rfl⟩
  intro l hl
  cases hl
  refine List.any_eq_true.mpr ⟨_, List.mem_map_of_mem hmem, ?_⟩
  rw [frozenEq]
  exact decide_eq_true rfl

theorem emptyArray {items : Schema} {n : Nat} :
    (typed (.array items none (some n) true)).validatePayload (.arr []) = .ok () := by
  rw [typed_validatePayload]
  simp [SchemaType.validatePayload, validateLength, bind_eq_ok, checkEach]

theorem versionSchema_one :
    (typed (.integer (some (.int 1)) none)).validatePayload (jsonInt 1) = .ok () := by
  have hone : Number.lt (.int 1) (.int 1) = false := decide_eq_false (lt_irrefl _)
  rw [typed_validatePayload]
  show validateNumberBounds (.int 1) (some (.int 1)) none = .ok ()
  simp only [validateNumberBounds, bind_eq_ok, exists_unit, raiseIf_eq_ok, Option.mem_some_iff,
    exists_eq_left', hone]
  simp

end Acceptance

section Domains

structure InDomain (i : SessionIdentity) (createdAt expiresAt : Str) : Prop where
  trimmed : ∀ v ∈ [i.sessionId, i.tenantId, i.repositoryId, i.principalId, i.agentClientId,
    i.traceId, i.runId], strip v = v
  printable : ∀ v ∈ [i.sessionId, i.traceId, i.runId], ∀ c ∈ v, isControl c = false
  datable : ∀ text ∈ [createdAt, expiresAt], ((instant? text).bind utcText?).isSome = true

def PayloadAccepted (sha : Sha256) (s : GateSession) (authorizationDecisionId : Str) : Prop :=
  ∃ payload, createdPayload sha s authorizationDecisionId = .ok payload ∧
    gateSessionEventPayloadSchema.validatePayload payload = .ok ()

theorem canonicalRfc3339_iff {text : Str} :
    (∃ canonical, canonicalRfc3339 text = .ok canonical) ↔
      ((instant? text).bind utcText?).isSome = true := by
  simp only [canonicalRfc3339, bind_eq_ok, demand_eq_ok, GateSession.instant_eq_ok,
    Option.isSome_iff_exists, Option.bind_eq_some_iff]

structure Accepted (i : SessionIdentity) : Prop where
  bounded : ∀ v ∈ [i.sessionId, i.tenantId, i.repositoryId, i.principalId, i.agentClientId,
    i.traceId, i.runId], isBlank v = false ∧ v.length ≤ 128 ∧ (encodedBytes v).isSome = true
  fingerprint : isDigest i.requestFingerprint = true
  key : isBlank i.idempotencyKey = false ∧ i.idempotencyKey.length ≤ 512 ∧
    (encodedBytes i.idempotencyKey).isSome = true

theorem requiredText_iff {limit : Nat} {value name : Str} :
    requiredText limit value name = .ok () ↔
      isBlank value = false ∧ value.length ≤ limit ∧ (encodedBytes value).isSome = true := by
  simp only [requiredText, bind_eq_ok, exists_unit, raiseIf_eq_ok, not_or, not_lt,
    Bool.not_eq_true, Option.isSome_iff_ne_none, ne_eq, and_assoc]

theorem accepted_of_created {i : SessionIdentity} {createdAt expiresAt : Str} {s : GateSession}
    (h : createGateSession i createdAt expiresAt = .ok s) : Accepted i := by
  have hrecord := GateSessionRecord.build_eq_ok.mp h
  obtain ⟨hidentity, -⟩ := GateSessionRecord.check_iff.mp s.valid
  rw [hrecord] at hidentity
  simp only [GateSessionRecord.checkIdentity, bind_eq_ok, exists_unit, raiseIf_eq_ok,
    Bool.not_eq_false, requiredMetadata, requiredText_iff, checkEach_eq_ok, requiredIdentifier] at hidentity
  obtain ⟨hids, hfingerprint, hkey, -⟩ := hidentity
  refine ⟨?_, hfingerprint, hkey⟩
  simpa using hids

def createdRecord (i : SessionIdentity) (createdAt expiresAt : Str) : GateSessionRecord :=
  { sessionId := i.sessionId
    tenantId := i.tenantId
    repositoryId := i.repositoryId
    principalId := i.principalId
    agentClientId := i.agentClientId
    traceId := i.traceId
    runId := i.runId
    requestFingerprint := i.requestFingerprint
    idempotencyKey := i.idempotencyKey
    status := .created
    version := 1
    createdAt := createdAt
    updatedAt := createdAt
    expiresAt := expiresAt }

theorem record_created {i : SessionIdentity} {createdAt expiresAt : Str} {s : GateSession}
    (h : createGateSession i createdAt expiresAt = .ok s) :
    s.toGateSessionRecord = createdRecord i createdAt expiresAt :=
  GateSessionRecord.build_eq_ok.mp h

theorem keySchema_accepts {v : Str} (h : isBlank v = false ∧ v.length ≤ 512) :
    (typed (.string (some 1) (some 512) none)).validatePayload (.str v) = .ok () := by
  rw [typed_validatePayload, string_iff]
  have hpos : 1 ≤ v.length := by
    cases v with
    | nil => cases h.1
    | cons c l => exact Nat.succ_pos _
  simp only [Option.mem_some_iff, forall_eq', Option.not_mem_none, false_implies, implies_true]
  exact ⟨hpos, h.2, trivial⟩

theorem identifierSchema_nonblank {v : Str} (h : isBlank v = false ∧ v.length ≤ 128) :
    identifierSchema.validatePayload (.str v) = .ok () ↔ strip v = v := by
  rw [identifierSchema_iff, strip_eq_self_iff h.1]
  refine ⟨fun h => h.2.2, fun htight => ⟨?_, h.2, htight⟩⟩
  exact List.length_pos_iff.mpr htight.ne_nil

theorem sessionSchema_created {i : SessionIdentity} {c e : Str} (h : Accepted i)
    (hc : CanonicalText c) (he : CanonicalText e) :
    sessionSchema.validatePayload (serialized (createdRecord i c e)) = .ok () ↔
      ∀ v ∈ [i.sessionId, i.tenantId, i.repositoryId, i.principalId, i.agentClientId, i.traceId,
        i.runId], strip v = v := by
  have hnodup : (sessionProperties.map Prod.fst).Nodup := fieldNames_nodup
  obtain ⟨n, hn, rfl⟩ := hc
  obtain ⟨m, hm, rfl⟩ := he
  have identifier {v : Str} (hv : v ∈ [i.sessionId, i.tenantId, i.repositoryId, i.principalId,
      i.agentClientId, i.traceId, i.runId]) :
      identifierSchema.validatePayload (.str v) = .ok () ↔ strip v = v :=
    identifierSchema_nonblank ⟨(h.bounded v hv).1, (h.bounded v hv).2.1⟩
  have hnull : (nullOr identifierSchema).validatePayload .null = .ok () := by
    refine nullOr_null ?_
    rw [identifierSchema, typed_validatePayload]
    exact string_null
  have hlease : (nullOr timestampSchema).validatePayload .null = .ok () := by
    refine nullOr_null ?_
    rw [timestampSchema, typed_validatePayload]
    exact string_null
  have hreason : (nullOr (typed (.string (some 1) (some 2000) none))).validatePayload .null =
      .ok () := by
    refine nullOr_null ?_
    rw [typed_validatePayload]
    exact string_null
  have hdigest : digestSchema.validatePayload (.str i.requestFingerprint) = .ok () :=
    digestSchema_iff.mpr h.fingerprint
  rw [sessionSchema, typed_validatePayload, serialized, SchemaType.object_iff rfl rfl hnodup]
  simp only [sessionProperties, serializedFields, createdRecord, List.forall₂_cons,
    List.forall₂_nil_left_iff, jsonOptional, Option.elim, List.map_nil, hnull, hlease, hreason, hdigest,
    constSchema_self, keySchema_accepts ⟨h.key.1, h.key.2.1⟩, statusSchema_iff, versionSchema_one,
    timestampSchema_isoformat, emptyArray, true_and, and_true]
  have hall := forall₂_congr fun (v : Str) hv => identifier (v := v) hv
  rw [← hall]
  simp only [List.forall_mem_cons, List.not_mem_nil, false_implies, implies_true, and_true]

theorem encodable_created {i : SessionIdentity} {c e : Str} (h : Accepted i)
    (hc : CanonicalText c) (he : CanonicalText e) :
    encodable (serialized (createdRecord i c e)) = true := by
  have hkeys : ∀ k ∈ fieldNames, (encodedBytes k).isSome = true := by decide
  have hdigest : (encodedBytes i.requestFingerprint).isSome = true :=
    encodedBytes_of_ascii (Outbox.ascii_isDigest h.fingerprint)
  have hcreated : (encodedBytes c).isSome = true := encodedBytes_of_ascii (ascii_canonical hc)
  have hexpires : (encodedBytes e).isSome = true := encodedBytes_of_ascii (ascii_canonical he)
  have hcontract : (encodedBytes contractVersion).isSome = true := by decide
  have hstatus : (encodedBytes GateSessionStatus.created.text).isSome = true := by decide
  refine Outbox.encodableFields_iff.mpr fun field hf => ⟨hkeys _ (List.mem_map_of_mem hf), ?_⟩
  revert field
  have hbounded := h.bounded
  simp only [List.forall_mem_cons, List.not_mem_nil, false_implies, implies_true, and_true] at hbounded
  obtain ⟨h₁, h₂, h₃, h₄, h₅, h₆, h₇⟩ := hbounded
  simp only [serializedFields, createdRecord, List.forall_mem_cons, List.not_mem_nil, false_implies,
    implies_true, encodable, jsonOptional, Option.elim, jsonInt, List.map_nil,
    encodableItems, h₁.2.2, h₂.2.2, h₃.2.2, h₄.2.2, h₅.2.2, h₆.2.2, h₇.2.2, hdigest, hcreated,
    hexpires, hcontract, hstatus, h.key.2.2, and_self]

theorem toDict_created {i : SessionIdentity} {createdAt expiresAt : Str} {s : GateSession}
    (h : createGateSession i createdAt expiresAt = .ok s) {dict : Json} :
    toDict s = .ok dict ↔ ∃ c e, canonicalRfc3339 createdAt = .ok c ∧
      canonicalRfc3339 expiresAt = .ok e ∧ dict = serialized (createdRecord i c e) := by
  have hrecord := record_created h
  simp only [toDict, canonicalRecord, hrecord, bind_eq_ok, pure_eq_ok]
  constructor
  · rintro ⟨r, ⟨c, hc, u, hu, e, he, l, hl, rfl⟩, rfl⟩
    obtain rfl : c = u := Except.ok.inj (hc.symm.trans hu)
    cases hl
    exact ⟨c, e, hc, he, rfl⟩
  · rintro ⟨c, e, hc, he, rfl⟩
    exact ⟨_, ⟨c, hc, c, hc, e, he, none, rfl, rfl⟩, rfl⟩

theorem payloadAccepted_iff {i : SessionIdentity} {createdAt expiresAt : Str} {s : GateSession}
    (h : createGateSession i createdAt expiresAt = .ok s) {authorization : Str}
    (hauthorization : boundedIdentifier authorization = true) :
    PayloadAccepted sha s authorization ↔
      (∀ v ∈ [i.sessionId, i.tenantId, i.repositoryId, i.principalId, i.agentClientId, i.traceId,
        i.runId], strip v = v) ∧
      ∀ text ∈ [createdAt, expiresAt], ((instant? text).bind utcText?).isSome = true := by
  have haccepted := accepted_of_created h
  have hnodup : (payloadProperties.map Prod.fst).Nodup := by decide
  have hid : identifierSchema.validatePayload (.str authorization) = .ok () := by
    simp only [boundedIdentifier, Bool.and_eq_true, decide_eq_true_eq] at hauthorization
    exact identifierSchema_iff.mpr ⟨hauthorization.1.1.1, hauthorization.1.1.2,
      trimmedPattern_iff.mp hauthorization.1.2⟩
  have hprevious : (nullOr digestSchema).validatePayload .null = .ok () := by
    refine nullOr_null ?_
    rw [digestSchema, typed_validatePayload]
    exact string_null
  have hschema {session : Json} {d : Str} {value : Json} :
      gateSessionEventPayloadSchema.validatePayload
        (eventPayload session (sha.domain d value) none authorization) = .ok () ↔
      sessionSchema.validatePayload session = .ok () := by
    have hnames : payloadFields = payloadProperties.map Prod.fst := rfl
    rw [gateSessionEventPayloadSchema, typed_validatePayload, eventPayload,
      SchemaType.object_iff hnames (by rfl) hnodup]
    simp only [payloadProperties, List.forall₂_cons, List.forall₂_nil_left_iff, constSchema_self, hid, jsonOptional,
      Option.elim, hprevious, digestSchema_iff.mpr (sha.validDigest_domain d value), and_true,
      true_and]
  simp only [PayloadAccepted, createdPayload, bind_eq_ok, pure_eq_ok, revisionSha256, domainSha256,
    exists_unit, raiseIf_eq_ok, Bool.not_eq_false, toDict_created h]
  constructor
  · rintro ⟨payload, ⟨session, ⟨c, e, hc, he, rfl⟩, digest, ⟨value, hvalue, _, rfl⟩, rfl⟩, hvalid⟩
    have hsession := (sessionSchema_created haccepted (canonicalText_of_ok hc)
      (canonicalText_of_ok he)).mp (hschema.mp hvalid)
    refine ⟨hsession, ?_⟩
    simp only [List.forall_mem_cons, List.not_mem_nil, false_implies, implies_true, and_true,
      ← canonicalRfc3339_iff]
    exact ⟨⟨c, hc⟩, ⟨e, he⟩⟩
  · rintro ⟨htrimmed, hdates⟩
    simp only [List.forall_mem_cons, List.not_mem_nil, false_implies, implies_true, and_true,
      ← canonicalRfc3339_iff] at hdates
    obtain ⟨⟨c, hc⟩, ⟨e, he⟩⟩ := hdates
    have hcc := canonicalText_of_ok hc
    have hce := canonicalText_of_ok he
    refine ⟨_, ⟨_, ⟨c, e, hc, he, rfl⟩, _, ⟨_, ⟨c, e, hc, he, rfl⟩,
      encodable_created haccepted hcc hce, rfl⟩, rfl⟩, ?_⟩
    exact hschema.mpr ((sessionSchema_created haccepted hcc hce).mpr htrimmed)

theorem usageIdentifier_iff {v name : Str}
    (h : isBlank v = false ∧ v.length ≤ 128 ∧ (encodedBytes v).isSome = true) :
    usageIdentifier v name = .ok () ↔ strip v = v ∧ ∀ c ∈ v, isControl c = false := by
  have hpos : 1 ≤ v.length := by
    cases v with
    | nil => cases h.1
    | cons c l => exact Nat.succ_pos _
  simp only [usageIdentifier, bind_eq_ok, exists_unit, raiseIf_eq_ok, Bool.not_eq_false,
    boundedIdentifier, Bool.and_eq_true, decide_eq_true_eq, trimmedPattern_iff,
    strip_eq_self_iff h.1, List.all_eq_true, Bool.not_eq_true', ← Option.isSome_iff_ne_none, h.2.2,
    hpos, h.2.1, and_self, true_and, and_true]

theorem buildGateSessionEvent_payload {admits : EventEnvelope → Except GateError Unit} {s : GateSession}
    {position : Nat} {c : EventTrustedContext} {e : CanonicalEvent sha}
    (h : buildGateSessionEvent sha admits s none none position c = .ok e) :
    createdPayload sha s c.authorizationDecisionId = .ok e.payload := by
  simp only [buildGateSessionEvent, bind_eq_ok, exists_unit, pure_eq_ok, orInvalid_eq_ok] at h
  obtain ⟨type, -, -, -, session, hsession, digest, hdigest, prior, hprior, command, -, identity, -,
    correlation, -, recorded, -, event, hevent, -, canonical, -, rfl⟩ := h
  cases hprior
  simp only [createdPayload, bind_eq_ok, pure_eq_ok]
  refine ⟨session, hsession, digest, hdigest, ?_⟩
  rw [(buildCanonicalEvent_eq_ok hevent).1]

def namedIdentity (traceId : Str) : SessionIdentity := { sampleIdentity with traceId := traceId }

def namedSession (traceId : Str) : Except GateError GateSession :=
  createGateSession (namedIdentity traceId) (lit "2026-01-01T00:00:00Z") (lit "2026-01-01T01:00:00Z")

set_option maxRecDepth 20000 in
theorem namedSession_plain : (namedSession (lit "trace-1")).toBool = true := by decide +kernel

set_option maxRecDepth 20000 in
theorem namedSession_padded : (namedSession (lit " trace-1")).toBool = true := by decide +kernel

theorem exists_named {traceId : Str} (h : (namedSession traceId).toBool = true) :
    ∃ s, namedSession traceId = .ok s := by
  cases hcase : namedSession traceId with
  | ok s => exact ⟨s, rfl⟩
  | error e =>
    rw [hcase] at h
    cases h

end Domains

end GateEvents

end TraceBackedMemory
