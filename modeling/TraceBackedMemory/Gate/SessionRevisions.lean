import TraceBackedMemory.Gate.SessionReducer

namespace TraceBackedMemory

open Text Raising OrderBy Projection

open Json (Fields valueAt)

namespace GateEvents

variable {sha : Sha256}

section ExactSteps

def given {α : Type} (target : GateSessionStatus) (n : SessionField) (value : Option α) : Option α :=
  if n ∈ allowedFields target then value else none

theorem transitionArguments_eq (s : GateSession) :
    transitionArguments s =
      { leaseExpiresAt := given s.status .leaseExpiresAt s.leaseExpiresAt
        retrievalSnapshotId := given s.status .retrievalSnapshotId s.retrievalSnapshotId
        systemGateEvaluationId := given s.status .systemGateEvaluationId s.systemGateEvaluationId
        semanticGateAttemptIds :=
          given s.status .semanticGateAttemptIds (some s.semanticGateAttemptIds)
        decisionId := given s.status .decisionId s.decisionId
        finalMemoryRevisionIds :=
          given s.status .finalMemoryRevisionIds (some s.finalMemoryRevisionIds)
        injectionArtifactId := given s.status .injectionArtifactId s.injectionArtifactId
        usageDecisionId := given s.status .usageDecisionId s.usageDecisionId
        runOutcomeId := given s.status .runOutcomeId s.runOutcomeId
        terminalReason := given s.status .terminalReason s.terminalReason } := by
  unfold transitionArguments
  cases s.status <;> rfl

section Supplied

variable {α : Type} {target : GateSessionStatus} {n : SessionField} {o : Option α}

theorem given_self (h : o.isSome = true ↔ n ∈ allowedFields target) : given target n o = o := by
  unfold given
  split
  · rfl
  · rename_i hn
    cases o with
    | none => rfl
    | some a => exact absurd (h.mp rfl) hn

theorem given_or (h : o.isSome = true ↔ n ∈ allowedFields target) (p : Option α) :
    given target n (o.or p) = o := by
  cases o with
  | none => exact if_neg fun hn => Bool.noConfusion (h.mpr hn)
  | some a => exact if_pos (h.mp rfl)

theorem given_getD (h : o.isSome = true ↔ n ∈ allowedFields target) (d : α) :
    given target n (some (o.getD d)) = o := by
  cases o with
  | none => exact if_neg fun hn => Bool.noConfusion (h.mpr hn)
  | some a => exact if_pos (h.mp rfl)

theorem given_lease {lease : Option Str} (h : lease.isSome = true ↔ .leaseExpiresAt ∈ allowedFields target)
    (p : Option Str) :
    given target .leaseExpiresAt (if target.terminal then none else lease.or p) = lease := by
  cases lease with
  | none => exact if_neg fun hn => Bool.noConfusion (h.mpr hn)
  | some text =>
    have hprepared := h.mp rfl
    cases target with
    | prepared => rfl
    | created | awaitingDecision | decided | finalized | executing | completed | canceled | expired
    | abandoned => simp [allowedFields] at hprepared

end Supplied

theorem transitionArguments_advanced {p s : GateSession} {target : GateSessionStatus} {at' : Str}
    {f : TransitionFields} (hf : ∀ n, f.has n = true ↔ n ∈ allowedFields target)
    (hs : s.toGateSessionRecord = p.advanced target at' f) : transitionArguments s = f := by
  obtain ⟨r, hvalid⟩ := s
  obtain rfl : r = p.advanced target at' f := hs
  rw [transitionArguments_eq]
  simp only [GateSession.advanced, given_lease (hf .leaseExpiresAt), given_or (hf .retrievalSnapshotId),
    given_or (hf .systemGateEvaluationId), given_getD (hf .semanticGateAttemptIds),
    given_or (hf .decisionId), given_getD (hf .finalMemoryRevisionIds),
    given_or (hf .injectionArtifactId), given_or (hf .usageDecisionId), given_or (hf .runOutcomeId),
    given_self (hf .terminalReason)]

theorem orInvalid_eq_ok {ε α : Type} {x : Except ε α} {message : Str} {a : α} :
    orInvalid x message = .ok a ↔ x = .ok a := by
  cases x <;> simp [orInvalid]

theorem expectedRevision_eq_ok {p s : GateSession} :
    expectedRevision p s = .ok s ↔ ∃ a : SessionAction, a.perform p = .ok s := by
  unfold expectedRevision
  constructor
  · intro h
    split at h
    · rw [orInvalid_eq_ok, renewalOf] at h
      split at h
      · cases h
      · rename_i lease _
        exact ⟨.renewLease _ _ lease, h⟩
    · exact ⟨.transition _ _ _ _, orInvalid_eq_ok.mp h⟩
  · rintro ⟨a, ha⟩
    cases a with
    | renewLease v at' lease =>
      obtain ⟨rfl, -, -, hs⟩ := GateSession.renewLease_eq_ok.mp ha
      have hstatus : s.status = p.status := by
        rw [hs]
        rfl
      have hlease : s.leaseExpiresAt = some lease := congrArg GateSessionRecord.leaseExpiresAt hs
      have hupdated : s.updatedAt = at' := congrArg GateSessionRecord.updatedAt hs
      rw [if_pos hstatus, orInvalid_eq_ok, renewalOf, hlease, hupdated]
      exact ha
    | transition target v at' f =>
      obtain ⟨rfl, hedge, hf, -, hs⟩ := GateSession.transition_eq_ok.mp ha
      have hstatus : s.status = target := congrArg GateSessionRecord.status hs
      have hupdated : s.updatedAt = at' := congrArg GateSessionRecord.updatedAt hs
      rw [if_neg (hstatus ▸ ne_of_edge hedge), orInvalid_eq_ok, hstatus, hupdated,
        transitionArguments_advanced hf hs]
      exact ha

theorem verifyRevisionTransition_iff {p s : GateSession} :
    verifyRevisionTransition s (some p) = .ok () ↔ ∃ a : SessionAction, a.perform p = .ok s := by
  rw [← expectedRevision_eq_ok, verifyRevisionTransition, bind_eq_ok]
  constructor
  · rintro ⟨expected, h, hsame⟩
    obtain rfl := not_not.mp (raiseIf_eq_ok.mp hsame)
    exact h
  · exact fun h => ⟨s, h, raiseIf_of_not (not_not.mpr rfl)⟩

end ExactSteps

section RoundTrip

variable {r : GateSessionRecord} {fields : Fields}

theorem keys_serializedFields (r : GateSessionRecord) :
    (serializedFields r).map Prod.fst = fieldNames := rfl

set_option maxRecDepth 20000 in
theorem fieldNames_nodup : fieldNames.Nodup := by decide +kernel

theorem serializedKeys_nodup (r : GateSessionRecord) : ((serializedFields r).map Prod.fst).Nodup := by
  rw [keys_serializedFields]
  exact fieldNames_nodup

theorem field_serialized {name : Str} {value : Json} (h : (name, value) ∈ serializedFields r) :
    Json.field? name (serializedFields r) = some value := by
  rw [Json.field_eq_lookupIn, Dict.lookupIn_eq_some]
  · exact h
  · exact serializedKeys_nodup r

theorem mem_serialized (r : GateSessionRecord) (i : Nat) {field : Str × Json}
    (h : (serializedFields r)[i]? = some field) : field ∈ serializedFields r :=
  List.mem_of_getElem? h

def SameFields (fields : Fields) (r : GateSessionRecord) : Prop :=
  ∀ name, Json.field? name fields = Json.field? name (serializedFields r)

theorem SameFields.string (h : SameFields fields r) (name value : Str)
    (hmem : (name, .str value) ∈ serializedFields r) : stringField fields name = .ok value := by
  rw [stringField, h name, field_serialized hmem]

theorem SameFields.optional (h : SameFields fields r) (name : Str) (value : Option Str)
    (hmem : (name, jsonOptional value) ∈ serializedFields r) :
    optionalStringField fields name = .ok value := by
  rw [optionalStringField, h name, field_serialized hmem]
  cases value <;> rfl

theorem SameFields.integer (h : SameFields fields r) (name : Str) (value : Nat)
    (hmem : (name, jsonInt value) ∈ serializedFields r) : integerField fields name = .ok value := by
  rw [integerField, h name, field_serialized hmem]
  rfl

theorem strings_map (l : List Str) : strings? (l.map .str) = some l := by
  induction l with
  | nil => rfl
  | cons s l ih => rw [List.map_cons, strings?, ih, Option.map_some]

theorem SameFields.strings (h : SameFields fields r) (name : Str) (value : List Str)
    (hmem : (name, .arr (value.map .str)) ∈ serializedFields r) :
    stringListField fields name = .ok value := by
  rw [stringListField, h name, field_serialized hmem]
  simp only [strings_map, demand]

theorem statusOf_text (status : GateSessionStatus) : statusOf status.text = .ok status := by
  cases status <;> decide

def identityTexts (r : GateSessionRecord) : SessionIdentity :=
  ⟨r.sessionId, r.tenantId, r.repositoryId, r.principalId, r.agentClientId, r.traceId, r.runId, r.requestFingerprint,
    r.idempotencyKey⟩

theorem checkIdentity_eq (r : GateSessionRecord) : r.checkIdentity = checkTexts (identityTexts r) >>= fun _ =>
    raiseIf (r.version < 1) (invalidSession (lit "version must be a positive integer")) := by
  simp only [GateSessionRecord.checkIdentity, checkTexts, bind_assoc]
  rfl

theorem parseRecord_sameFields (h : SameFields fields r) :
    parseRecord fields = checkTexts (identityTexts r) >>= fun _ => .ok r := by
  unfold parseRecord
  rw [h.string (lit "contract_version") contractVersion (mem_serialized r 0 rfl),
    h.string (lit "session_id") r.sessionId (mem_serialized r 1 rfl),
    h.string (lit "tenant_id") r.tenantId (mem_serialized r 2 rfl),
    h.string (lit "repository_id") r.repositoryId (mem_serialized r 3 rfl),
    h.string (lit "principal_id") r.principalId (mem_serialized r 4 rfl),
    h.string (lit "agent_client_id") r.agentClientId (mem_serialized r 5 rfl),
    h.string (lit "trace_id") r.traceId (mem_serialized r 6 rfl),
    h.string (lit "run_id") r.runId (mem_serialized r 7 rfl),
    h.string (lit "request_fingerprint") r.requestFingerprint (mem_serialized r 8 rfl),
    h.string (lit "idempotency_key") r.idempotencyKey (mem_serialized r 9 rfl),
    h.string (lit "status") r.status.text (mem_serialized r 10 rfl),
    h.integer (lit "version") r.version (mem_serialized r 11 rfl),
    h.string (lit "created_at") r.createdAt (mem_serialized r 12 rfl),
    h.string (lit "updated_at") r.updatedAt (mem_serialized r 13 rfl),
    h.string (lit "expires_at") r.expiresAt (mem_serialized r 14 rfl),
    h.optional (lit "lease_expires_at") r.leaseExpiresAt (mem_serialized r 15 rfl),
    h.optional (lit "retrieval_snapshot_id") r.retrievalSnapshotId (mem_serialized r 16 rfl),
    h.optional (lit "system_gate_evaluation_id") r.systemGateEvaluationId (mem_serialized r 17 rfl),
    h.strings (lit "semantic_gate_attempt_ids") r.semanticGateAttemptIds (mem_serialized r 18 rfl),
    h.optional (lit "decision_id") r.decisionId (mem_serialized r 19 rfl),
    h.strings (lit "final_memory_revision_ids") r.finalMemoryRevisionIds (mem_serialized r 20 rfl),
    h.optional (lit "injection_artifact_id") r.injectionArtifactId (mem_serialized r 21 rfl),
    h.optional (lit "usage_decision_id") r.usageDecisionId (mem_serialized r 22 rfl),
    h.optional (lit "run_outcome_id") r.runOutcomeId (mem_serialized r 23 rfl),
    h.optional (lit "terminal_reason") r.terminalReason (mem_serialized r 24 rfl)]
  show (raiseIf (contractVersion ≠ contractVersion)
      (invalidSession (lit "contract_version must be " ++ contractVersion)) >>= fun _ =>
    checkTexts (identityTexts r) >>= fun _ =>
    statusOf r.status.text >>= fun status => pure { r with status := status }) =
      checkTexts (identityTexts r) >>= fun _ => .ok r
  rw [raiseIf_of_not (not_not.mpr rfl), statusOf_text]
  rfl

theorem build_of_texts (r : GateSessionRecord) :
    ((checkTexts (identityTexts r) >>= fun _ => .ok r) >>= GateSessionRecord.build) = r.build := by
  cases htexts : checkTexts (identityTexts r) with
  | ok u => rfl
  | error e =>
    have hcheck : r.check = .error e := by
      rw [GateSessionRecord.check, checkIdentity_eq, htexts]
      rfl
    refine Eq.symm ?_
    unfold GateSessionRecord.build
    split
    · rename_i hok
      rw [hcheck] at hok
      cases hok
    · rename_i e' herror
      rw [hcheck] at herror
      cases herror
      rfl

theorem refuseNamed_nil (prefixText : Str) : refuseNamed prefixText [] = .ok () := rfl

theorem parseGateSession_sameFields (h : SameFields fields r) :
    parseGateSession (.obj fields) = r.build := by
  have hkeys (name : Str) : name ∈ fields.map Prod.fst ↔ name ∈ fieldNames := by
    rw [← keys_serializedFields r, Json.mem_keys_iff, Json.mem_keys_iff, h name]
  have hunknown : (fields.map Prod.fst).filter (fun name => decide (name ∉ fieldNames)) = [] := by
    refine List.filter_eq_nil_iff.mpr fun name hname => ?_
    rw [decide_eq_true_eq, not_not]
    exact (hkeys name).mp hname
  have hmissing : fieldNames.filter (fun name => decide (name ∉ fields.map Prod.fst)) = [] := by
    refine List.filter_eq_nil_iff.mpr fun name hname => ?_
    rw [decide_eq_true_eq, not_not]
    exact (hkeys name).mpr hname
  rw [parseGateSession, hunknown, hmissing, parseRecord_sameFields h, refuseNamed_nil, refuseNamed_nil]
  exact build_of_texts r

theorem sameFields_serialized (r : GateSessionRecord) : SameFields (serializedFields r) r :=
  fun _ => rfl

theorem serialized_value {field : Str × Json} (h : field ∈ serializedFields r) :
    (∃ o, field.2 = jsonOptional o) ∨ (∃ l : List Str, field.2 = .arr (l.map .str)) ∨
      field.2 = jsonInt r.version := by
  simp only [serializedFields, List.mem_cons, List.not_mem_nil, or_false] at h
  rcases h with rfl | rfl | rfl | rfl | rfl | rfl | rfl | rfl | rfl | rfl | rfl | rfl | rfl | rfl |
    rfl | rfl | rfl | rfl | rfl | rfl | rfl | rfl | rfl | rfl | rfl
  all_goals first
    | exact .inl ⟨_, rfl⟩
    | exact .inl ⟨some _, rfl⟩
    | exact .inr (.inl ⟨_, rfl⟩)
    | exact .inr (.inr rfl)

theorem sortKeys_serialized {field : Str × Json} (h : field ∈ serializedFields r) :
    field.2.sortKeys = field.2 := by
  rcases serialized_value h with ⟨o, ho⟩ | ⟨l, hl⟩ | hn
  · rw [ho]
    cases o <;> rfl
  · rw [hl, Json.sortKeys, Json.sortItems_eq, List.map_map]
    rfl
  · rw [hn]
    rfl

theorem shaped_serialized {number : Number → Bool} {key : Str → Bool}
    (hnumber : number (.int r.version) = true) (hkeys : ∀ k ∈ fieldNames, key k = true) :
    (serialized r).shaped Json.distinct number key = true := by
  refine Json.shaped_obj.mpr ⟨Json.distinct_of_nodup (serializedKeys_nodup r), fun field hf => ⟨?_, ?_⟩⟩
  · exact hkeys _ (List.mem_map_of_mem hf)
  · rcases serialized_value hf with ⟨o, ho⟩ | ⟨l, hl⟩ | hn
    · rw [ho]
      cases o <;> rfl
    · rw [hl]
      exact Json.shapedItems_iff.mpr (List.forall_mem_map.mpr fun _ _ => rfl)
    · rw [hn]
      exact hnumber

def sortedFields (r : GateSessionRecord) : Fields :=
  orderBy Prod.fst (Json.sortFields (serializedFields r))

theorem sortKeys_serialized_eq (r : GateSessionRecord) :
    (serialized r).sortKeys = .obj (sortedFields r) := rfl

theorem sameFields_sorted (r : GateSessionRecord) : SameFields (sortedFields r) r := by
  intro name
  rw [sortedFields, Json.field_sorted (serializedKeys_nodup r), Json.field_eq_lookupIn]
  cases hfield : Dict.lookupIn name (serializedFields r) with
  | none => rfl
  | some value =>
    have hmem := Dict.mem_of_lookupIn hfield
    exact congrArg some (sortKeys_serialized hmem)

end RoundTrip

section CanonicalTimes

structure CanonicalTimes (r : GateSessionRecord) : Prop where
  created : CanonicalText r.createdAt
  updated : CanonicalText r.updatedAt
  expires : CanonicalText r.expiresAt
  lease : ∀ text, r.leaseExpiresAt = some text → CanonicalText text

theorem canonicalText_of_ok {text canonical : Str} (h : canonicalRfc3339 text = .ok canonical) :
    CanonicalText canonical := by
  simp only [canonicalRfc3339, bind_eq_ok, demand_eq_ok] at h
  obtain ⟨parsed, -, htext⟩ := h
  exact (utcText_eq_some htext).1

theorem optionalCanonical_of_ok {value canonical : Option Str}
    (h : optionalCanonical value = .ok canonical) :
    ∀ text, canonical = some text → CanonicalText text := by
  rintro text rfl
  cases value with
  | none => cases h
  | some raw =>
    simp only [optionalCanonical, bind_eq_ok, pure_eq_ok, Option.some.injEq] at h
    obtain ⟨_, htext, rfl⟩ := h
    exact canonicalText_of_ok htext

theorem canonicalRecord_times {r canonical : GateSessionRecord}
    (h : canonicalRecord r = .ok canonical) : CanonicalTimes canonical := by
  simp only [canonicalRecord, bind_eq_ok, pure_eq_ok] at h
  obtain ⟨_, hcreated, _, hupdated, _, hexpires, _, hlease, rfl⟩ := h
  exact ⟨canonicalText_of_ok hcreated, canonicalText_of_ok hupdated, canonicalText_of_ok hexpires,
    optionalCanonical_of_ok hlease⟩

theorem canonicalRecord_canonical {r : GateSessionRecord} (h : CanonicalTimes r) :
    canonicalRecord r = .ok r := by
  rw [canonicalRecord, canonicalRfc3339_canonical h.created, canonicalRfc3339_canonical h.updated,
    canonicalRfc3339_canonical h.expires, optionalCanonical_canonical h.lease]
  rfl

theorem toDict_canonical {s : GateSession} (h : CanonicalTimes s.toGateSessionRecord) :
    toDict s = .ok (serialized s.toGateSessionRecord) := by
  rw [toDict, canonicalRecord_canonical h]
  rfl

end CanonicalTimes

section Parsing

variable {e : CanonicalEvent sha} {previous : Option GateSession}
  {parent : Option (CanonicalEvent sha)} {s : GateSession}

def revisionOf (e : CanonicalEvent sha) : Except GateError GateSession := do
  let fields ← plainMapping e.payload (lit "GateSession event payload")
  let sessionFields ← plainMapping (valueAt fields (lit "session"))
    (lit "GateSession event session")
  parseGateSession (.obj sessionFields)

structure ParsedEvent (e : CanonicalEvent sha) (previous : Option GateSession) (s : GateSession) :
    Prop where
  gate : e.eventType ∈ gateSessionEventTypes
  revision : revisionOf e = .ok s
  digest : ∃ digest, revisionSha256 sha s = .ok digest
  stream : e.streamId = s.sessionId ∧ e.streamVersion = s.version
  identity : identityMatches s e.tenantId e.repositoryId e.principalId e.agentClientId
  type : gateSessionEventType s previous = .ok e.eventType
  envelope : verifyDeterministicEnvelope s e e.payload = .ok ()
  step : verifyRevisionTransition s previous = .ok ()

theorem parsed_of_ok (h : parseGateSessionEvent e previous parent = .ok s) :
    ParsedEvent e previous s ∧ verifyParent e previous parent = .ok () ∧
      parseGateSessionEvent e previous none = .ok s := by
  simp only [parseGateSessionEvent, bind_eq_ok, exists_unit, pure_eq_ok, orInvalid_eq_ok] at h ⊢
  obtain ⟨hgate, henvelope, fields, hfields, hkeys, hversion, sessionFields, hsession, parsed, hparsed,
    digest, hdigest, hsame, prior, hprior, hlink, hauth, hstream, hidentity, type, htype, hevent,
    hdeterministic, hparent, hstep, rfl⟩ := h
  refine ⟨⟨?_, ?_, ⟨digest, hdigest⟩, ?_, ?_, ?_, hdeterministic, hstep⟩, hparent, ?_⟩
  · exact not_not.mp (raiseIf_eq_ok.mp hgate)
  · exact bind_eq_ok.mpr ⟨fields, hfields, bind_eq_ok.mpr ⟨sessionFields, hsession, hparsed⟩⟩
  · rw [raiseIf_eq_ok, not_or, not_not, not_not] at hstream
    exact hstream
  · rw [verifyEventIdentity, raiseIf_eq_ok, not_not] at hidentity
    exact hidentity
  · rw [raiseIf_eq_ok, not_not] at hevent
    rw [htype, hevent]
  · exact ⟨hgate, henvelope, fields, hfields, hkeys, hversion, sessionFields, hsession, parsed, hparsed,
      digest, hdigest, hsame, prior, hprior, hlink, hauth, hstream, hidentity, type, htype, hevent,
      hdeterministic, rfl, hstep, rfl⟩

theorem ParsedEvent.first (h : ParsedEvent e none s) : s.status = .created ∧ s.version = 1 := by
  have htype := h.type
  simp only [gateSessionEventType, bind_eq_ok, exists_unit, raiseIf_eq_ok, not_or, not_not,
    ne_eq] at htype
  exact htype.1

theorem ParsedEvent.follows {p : GateSession} (h : ParsedEvent e (some p) s) :
    ∃ a : SessionAction, a.perform p = .ok s :=
  verifyRevisionTransition_iff.mp h.step

end Parsing

section Built

variable {e : CanonicalEvent sha} {previous : Option GateSession}
  {parent : Option (CanonicalEvent sha)} {s : GateSession}

structure BuiltEvent (e : CanonicalEvent sha) (s : GateSession) (previous : Option GateSession)
    (parent : Option (CanonicalEvent sha)) (canonical : GateSession) : Prop where
  record : canonicalRecord s.toGateSessionRecord = .ok canonical.toGateSessionRecord
  parsed : parseGateSessionEvent e previous none = .ok canonical
  parents : verifyParentIdentity s previous parent = .ok ()
  chain : verifyEventParent e parent = .ok ()
  causation : e.causationId = parent.map (·.eventId)
  encodes : encodable e.toDict = true
  stream : e.streamId = s.sessionId
  plain : e.payload.pyEq e.payload = true

theorem shaped_eventPayload (r : GateSessionRecord) (digest : Str) (prior : Option Str)
    (authorization : Str) :
    (eventPayload (serialized r) digest prior authorization).shaped Json.distinct Json.isInt
      (fun _ => true) = true := by
  have hkeys : payloadFields.Nodup := by decide
  refine Json.shaped_obj.mpr ⟨Json.distinct_of_nodup hkeys, ?_⟩
  have hprior : (jsonOptional prior).shaped Json.distinct Json.isInt (fun _ => true) = true := by
    cases prior <;> rfl
  simp only [List.forall_mem_cons, List.not_mem_nil, false_implies, implies_true, and_true, true_and]
  exact ⟨rfl, shaped_serialized rfl fun _ _ => rfl, rfl, hprior, rfl⟩

theorem revisionOf_payload {r : GateSessionRecord} {digest : Str} {prior : Option Str}
    {authorization : Str} (h : e.payload = eventPayload (serialized r) digest prior authorization) :
    revisionOf e = r.build := by
  have hsession : valueAt [(lit "contract_version", .str eventContractVersion), (lit "session", serialized r),
      (lit "session_sha256", .str digest), (lit "previous_session_sha256", jsonOptional prior),
      (lit "transition_authorization_event_id", .str authorization)] (lit "session") = serialized r := by
    have hversion : lit "contract_version" ≠ lit "session" := by decide
    simp [valueAt, Json.field?, hversion]
  have hplain (fields : Fields) (label : Str) : plainMapping (.obj fields) label = pure fields := rfl
  rw [revisionOf, h, eventPayload, hplain, pure_bind, hsession, serialized, hplain, pure_bind]
  exact parseGateSession_sameFields (sameFields_serialized r)

theorem buildCanonicalEvent_eq_ok {admits : EventEnvelope → Except GateError Unit} {env : EventEnvelope}
    (h : buildCanonicalEvent sha admits env = .ok e) :
    e.toEventEnvelope = env ∧ encodable env.toDict = true := by
  simp only [buildCanonicalEvent, bind_eq_ok, exists_unit, raiseIf_eq_ok, Bool.not_eq_false] at h
  obtain ⟨-, hencodes, h⟩ := h
  split at h
  · cases h
    exact ⟨rfl, hencodes⟩
  · cases h

theorem built_of_ok {admits : EventEnvelope → Except GateError Unit} {position : Nat}
    {c : EventTrustedContext}
    (h : buildGateSessionEvent sha admits s previous parent position c = .ok e) :
    ∃ canonical, BuiltEvent e s previous parent canonical := by
  simp only [buildGateSessionEvent, bind_eq_ok, exists_unit, pure_eq_ok, orInvalid_eq_ok] at h
  obtain ⟨type, htype, hcontext, hparents, session, hsession, digest, hdigest, prior, hprior, command,
    hcommand, identity, hidentity, correlation, hcorrelation, recorded, hrecorded, event, hevent,
    hchain, canonical, hparse, rfl⟩ := h
  obtain ⟨henvelope, hencodes⟩ := buildCanonicalEvent_eq_ok hevent
  obtain ⟨hparsed, -, halone⟩ := parsed_of_ok hparse
  simp only [toDict, bind_eq_ok, pure_eq_ok] at hsession
  obtain ⟨record, hrecord, rfl⟩ := hsession
  have hpayload : event.payload =
      eventPayload (serialized record) digest prior c.authorizationDecisionId := by
    rw [henvelope]
  have hcanonical : canonical.toGateSessionRecord = record := by
    have hrevision := hparsed.revision
    rw [revisionOf_payload hpayload] at hrevision
    exact GateSessionRecord.build_eq_ok.mp hrevision
  refine ⟨canonical, hcanonical ▸ hrecord, halone, hparents, hchain, ?_, ?_, ?_, ?_⟩
  · rw [henvelope]
  · rw [henvelope]
    exact hencodes
  · rw [henvelope]
  · rw [hpayload]
    exact Json.pyEq_self (shaped_eventPayload record digest prior c.authorizationDecisionId)

end Built

end GateEvents

end TraceBackedMemory
