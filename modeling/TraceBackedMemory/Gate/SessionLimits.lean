import TraceBackedMemory.Gate.SessionParity
import TraceBackedMemory.Gate.IdentifierDomains
import TraceBackedMemory.Projection.Limits

namespace TraceBackedMemory

open Text Raising OrderBy Projection

open Json (Fields)

namespace GateEvents

variable {sha : Sha256} {admits : EventEnvelope → Except GateError Unit}

section States

def sessionDict (s : GateSession) : Json := (toDict s).toOption.getD .null

def recordRevision (state : Fields × Fields) (x : Revision sha) : Fields × Fields :=
  (sorted (Dict.putIn x.1.sessionId (sessionDict x.1) state.1),
    sorted (Dict.putIn x.1.sessionId (headOf x.1 x.2) state.2))

def recorded (run : List (Revision sha)) : Fields × Fields := run.foldl recordRevision ([], [])

-- The state a history stands for: the last revision of every session and the head of its stream.
def stateAfter (run : List (Revision sha)) : Json := stateOf (recorded run).1 (recorded run).2

theorem recorded_concat (run : List (Revision sha)) (x : Revision sha) :
    recorded (run ++ [x]) = recordRevision (recorded run) x := by
  rw [recorded, List.foldl_append]
  rfl

theorem BuiltEvent.dict {e : CanonicalEvent sha} {s c : GateSession} {previous : Option GateSession}
    {parent : Option (CanonicalEvent sha)} (h : BuiltEvent e s previous parent c) :
    toDict c = .ok (sessionDict s) := by
  have hdict : toDict s = .ok (serialized c.toGateSessionRecord) := by
    rw [toDict, h.record]
    rfl
  rw [sessionDict, hdict]
  exact toDict_canonical (canonicalRecord_times h.record)

theorem BuiltEvent.version {e : CanonicalEvent sha} {s c : GateSession} {previous : Option GateSession}
    {parent : Option (CanonicalEvent sha)} (h : BuiltEvent e s previous parent c) :
    c.version = s.version := by
  have hrecord := h.record
  simp only [canonicalRecord, bind_eq_ok, pure_eq_ok] at hrecord
  obtain ⟨_, -, _, -, _, -, _, -, hrecord⟩ := hrecord
  rw [← hrecord]

theorem BuiltEvent.recordRevision {e : CanonicalEvent sha} {s c s' : GateSession}
    {previous previous' : Option GateSession} {parent : Option (CanonicalEvent sha)}
    (h : BuiltEvent e s previous parent c) {sessions heads : Fields} {value dict : Json}
    (ht : TransitionOf sessions heads (typedView e) value previous' s' dict) :
    value.sortKeys = stateOf (GateEvents.recordRevision (sessions, heads) (s, e)).1
      (GateEvents.recordRevision (sessions, heads) (s, e)).2 := by
  obtain ⟨hparsed, -, -⟩ := parsed_of_ok h.parsed
  obtain ⟨hparsed', -, -⟩ := parsed_of_ok ht.parsed
  obtain rfl : s' = c := Except.ok.inj (hparsed'.revision.symm.trans hparsed.revision)
  obtain rfl : dict = sessionDict s := Except.ok.inj (ht.serializes.symm.trans h.dict)
  have hhead : headOf s' e = headOf s e := by rw [headOf, headOf, headEntries, headEntries, h.version]
  have hvalue : value = projectionOf (Dict.putIn s.sessionId (sessionDict s) sessions)
      (Dict.putIn s.sessionId (headOf s e) heads) := by
    rw [ht.value_eq, ← h.stream, ← hhead]
    rfl
  rw [hvalue, sortKeys_projectionOf]
  rfl

end States

section Completion

variable {run : List (Revision sha)}

theorem Interleaved.folded (h : Interleaved sha admits run) {state : Json}
    (hok : foldGateSessions sha (replayed run) = .ok state) : state = stateAfter run := by
  induction h generalizing state with
  | nil =>
    rw [foldGateSessions, foldReducer, initial_stateOf] at hok
    cases hok
    rfl
  | @step run s e position c earlier built ih =>
    obtain ⟨canonical, hbuilt⟩ := built_of_ok built
    rw [fold_replayed] at hok
    obtain ⟨before, hbefore, hstep⟩ := bind_eq_ok.mp hok
    obtain ⟨sessions, heads, value, _, _, _, hstate, ht, -, hadvance⟩ :=
      earlier.next hbuilt hbefore (earlier.onlyLimits.2 _ hbefore)
    have hrecorded : stateOf sessions heads = stateAfter run := hstate.symm.trans (ih hbefore)
    simp only [stateAfter, stateOf, Json.obj.injEq, List.cons.injEq, Prod.mk.injEq, true_and,
      and_true] at hrecorded
    rw [hadvance] at hstep
    rw [canonicalProjectionState_sorts hstep, hbuilt.recordRevision ht, stateAfter, recorded_concat,
      hrecorded.1, hrecorded.2]

theorem Interleaved.next_iff {s : GateSession} {e : CanonicalEvent sha} {position : Nat}
    {c : EventTrustedContext} (h : Interleaved sha admits run)
    (built : buildGateSessionEvent sha admits s ((lastRevision s.sessionId run).map Prod.fst)
      ((lastRevision s.sessionId run).map Prod.snd) position c = .ok e) :
    (∃ state, foldGateSessions sha (replayed (run ++ [(s, e)])) = .ok state) ↔
      (∃ state, foldGateSessions sha (replayed run) = .ok state) ∧ Fits (stateAfter (run ++ [(s, e)])) := by
  obtain ⟨canonical, hbuilt⟩ := built_of_ok built
  have hstep {state : Json} (hok : foldGateSessions sha (replayed run) = .ok state) :
      (∃ next, advance sha (gateSessionReducer sha) state (typedView e) = .ok next) ↔
        Fits (stateAfter (run ++ [(s, e)])) := by
    obtain ⟨sessions, heads, value, _, _, _, hstate, ht, hstorable, hadvance⟩ :=
      h.next hbuilt hok (h.onlyLimits.2 _ hok)
    have hrecorded : stateOf sessions heads = stateAfter run := hstate.symm.trans (h.folded hok)
    simp only [stateAfter, stateOf, Json.obj.injEq, List.cons.injEq, Prod.mk.injEq, true_and,
      and_true] at hrecorded
    rw [hadvance, hstorable.canonical_iff, hbuilt.recordRevision ht, stateAfter, recorded_concat,
      hrecorded.1, hrecorded.2]
  rw [fold_replayed]
  constructor
  · rintro ⟨state, hstate⟩
    obtain ⟨before, hbefore, hnext⟩ := bind_eq_ok.mp hstate
    exact ⟨⟨before, hbefore⟩, (hstep hbefore).mp ⟨state, hnext⟩⟩
  · rintro ⟨⟨before, hbefore⟩, hfits⟩
    obtain ⟨next, hnext⟩ := (hstep hbefore).mpr hfits
    exact ⟨next, bind_eq_ok.mpr ⟨before, hbefore, hnext⟩⟩

theorem fits_initial : Fits (stateOf [] []) := by
  refine ⟨by decide, by decide, ?_⟩
  have hbytes : encodedBytes (stateText (stateOf [] [])) = some 26 := by decide +kernel
  intro n hn
  have heq : n = 26 := Option.some.inj (hn.symm.trans hbytes)
  rw [heq]
  decide

theorem Interleaved.folds_iff (h : Interleaved sha admits run) :
    (∃ state, foldGateSessions sha (replayed run) = .ok state) ↔
      ∀ before after, run = before ++ after → Fits (stateAfter before) := by
  induction h with
  | nil =>
    constructor
    · intro _ before after hsplit
      obtain ⟨rfl, -⟩ := List.nil_eq_append_iff.mp hsplit
      exact fits_initial
    · intro _
      rw [foldGateSessions, foldReducer, initial_stateOf]
      exact ⟨_, rfl⟩
  | @step run s e position c earlier built ih =>
    rw [earlier.next_iff built, ih]
    constructor
    · rintro ⟨hearlier, hfits⟩ before after hsplit
      rcases List.eq_nil_or_concat after with rfl | ⟨front, x, rfl⟩
      · rw [List.append_nil] at hsplit
        rw [← hsplit]
        exact hfits
      · rw [List.concat_eq_append, ← List.append_assoc] at hsplit
        exact hearlier before front (List.append_inj_left' hsplit rfl)
    · intro hall
      refine ⟨fun before after hsplit => hall before (after ++ [(s, e)]) ?_, ?_⟩
      · rw [hsplit, List.append_assoc]
      · exact hall _ [] (List.append_nil _).symm

theorem gate_session_fold_completes_iff (sha : Sha256) (admits : EventEnvelope → Except GateError Unit)
    (run : List (Revision sha)) (h : Interleaved sha admits run) :
    ((∃ state, foldGateSessions sha (replayed run) = .ok state) ↔
        ∀ before after, run = before ++ after → Fits (stateAfter before)) ∧
      (∀ state, foldGateSessions sha (replayed run) = .ok state → state = stateAfter run) ∧
      ∀ e, foldGateSessions sha (replayed run) = .error e → ∃ message, e = stateLimitExceeded message :=
  ⟨h.folds_iff, fun _ hok => h.folded hok, h.onlyLimits.1⟩

theorem gate_session_fold_completes_sample : ∃ run, sampleRun = .ok run ∧
    Interleaved sampleSha admitAll run ∧
    ((∃ state, foldGateSessions sampleSha (replayed run) = .ok state) ↔
      ∀ before after, run = before ++ after → Fits (stateAfter before)) := by
  obtain ⟨run, hrun, -⟩ := bind_eq_ok.mp samples_fold.1
  have hinterleaved := interleaved_of_sampleRun hrun
  exact ⟨run, hrun, hinterleaved,
    (gate_session_fold_completes_iff sampleSha admitAll run hinterleaved).1⟩

end Completion

section Creation

structure PlainContext (c : EventTrustedContext) : Prop where
  plain : ∀ v ∈ [c.organizationId, c.tenantId, c.repositoryId, c.environmentId, c.principalId,
    c.agentClientId, c.actorId, c.authorizationDecisionId], (encodedBytes v).isSome = true

theorem domainSha256_eq (d : Str) {value : Json} (h : encodable value = true) :
    domainSha256 sha d value = .ok (sha.domain d value) := by
  rw [domainSha256, raiseIf_of_not (by rw [h]; exact Bool.noConfusion)]
  rfl

theorem encodes_domain (d : Str) (value : Json) : (encodedBytes (sha.domain d value)).isSome = true := by
  refine encodedBytes_of_ascii ?_
  rw [Sha256.domain, ascii_append, ascii_of_hex (sha.hex_hexdigest d value)]
  decide

theorem encodes_tagged {kind : Str} (hkind : ascii kind = true) (d : Str) (value : Json) (n : Nat) :
    (encodedBytes (kind ++ (removeTag (sha.domain d value)).take n)).isSome = true := by
  have hlength : (lit "sha256:").length = 7 := by decide
  have htag : removeTag (sha.domain d value) = sha.hexdigest d value := List.drop_left' hlength
  refine encodedBytes_of_ascii ?_
  rw [ascii_append, hkind, htag, Bool.true_and]
  refine ascii_of_hex (List.all_eq_true.mpr fun c hc => ?_)
  exact List.all_eq_true.mp (sha.hex_hexdigest d value) c (List.mem_of_mem_take hc)

def creationPayload (sha : Sha256) (s : GateSession) (authorization : Str) : Json :=
  eventPayload (serialized s.toGateSessionRecord)
    (sha.domain (lit "tbm.gate-session-revision.v1\x00") (serialized s.toGateSessionRecord)) none
    authorization

def identityValue (s : GateSession) : Json :=
  .obj [(lit "session_id", .str s.sessionId), (lit "session_version", jsonInt s.version)]

def identityDigest (sha : Sha256) (s : GateSession) : Str :=
  sha.domain (lit "tbm.gate-session-event-identity.v1\x00") (identityValue s)

def correlationDigest (sha : Sha256) (s : GateSession) : Str :=
  sha.domain (lit "tbm.gate-session-correlation.v1\x00") (.obj [(lit "session_id", .str s.sessionId)])

def commandValue (sha : Sha256) (s : GateSession) (authorization : Str) : Json :=
  .obj [(lit "event_type", .str (statusEventType .created)),
    (lit "payload", creationPayload sha s authorization),
    (lit "authorization_decision_id", .str authorization)]

def commandDigest (sha : Sha256) (s : GateSession) (authorization : Str) : Str :=
  sha.domain (lit "tbm.gate-session-event-command.v1\x00") (commandValue sha s authorization)

def creationEnvelope (sha : Sha256) (s : GateSession) (position : Nat) (c : EventTrustedContext) :
    EventEnvelope where
  eventId := eventIdOf (identityDigest sha s)
  eventType := statusEventType .created
  eventVersion := 1
  eventKind := .domain
  origin := .native
  source := none
  streamId := s.sessionId
  streamType := streamType
  streamVersion := s.version
  globalPosition := position
  organizationId := c.organizationId
  tenantId := c.tenantId
  repositoryId := c.repositoryId
  environmentId := c.environmentId
  principalId := c.principalId
  agentClientId := c.agentClientId
  actorType := c.actorType
  actorId := c.actorId
  authorizationDecisionId := c.authorizationDecisionId
  requestId := requestIdOf (identityDigest sha s)
  idempotencyKeySha256 := identityDigest sha s
  requestSha256 := commandDigest sha s c.authorizationDecisionId
  correlationId := correlationIdOf (correlationDigest sha s)
  causationId := none
  occurredAt := some s.updatedAt
  recordedAt := s.updatedAt
  producer := producerName
  producerVersion := producerVersionText
  payloadSchema := statusEventType .created ++ lit ".v1"
  payloadSha256 := sha.domain [] (creationPayload sha s c.authorizationDecisionId)
  previousStreamEventSha256 := none
  classification := .internal
  retentionPolicyId := retentionPolicyId
  artifactRefs := []
  payload := creationPayload sha s c.authorizationDecisionId

structure Creatable (s : GateSession) : Prop where
  first : s.status = .created ∧ s.version = 1
  times : CanonicalTimes s.toGateSessionRecord
  encodes : encodable (serialized s.toGateSessionRecord) = true

theorem Creatable.encodes_id {s : GateSession} (h : Creatable s) : (encodedBytes s.sessionId).isSome = true :=
  (Outbox.encodableFields_iff.mp h.encodes (lit "session_id", .str s.sessionId)
    (List.mem_of_getElem? (i := 1) rfl)).2

theorem encodable_creationPayload {s : GateSession} (h : Creatable s) {authorization : Str}
    (hauthorization : (encodedBytes authorization).isSome = true) :
    encodable (creationPayload sha s authorization) = true := by
  have hkeys : ∀ k ∈ payloadFields, (encodedBytes k).isSome = true := by decide
  have hversion : (encodedBytes eventContractVersion).isSome = true := by decide
  refine Outbox.encodableFields_iff.mpr fun field hf => ⟨hkeys _ (List.mem_map_of_mem hf), ?_⟩
  revert field
  simp only [List.forall_mem_cons, List.not_mem_nil, false_implies, implies_true, encodable,
    jsonOptional, Option.elim, h.encodes, hversion, encodes_domain, hauthorization, and_self]

theorem encodable_commandValue {s : GateSession} (h : Creatable s) {authorization : Str}
    (hauthorization : (encodedBytes authorization).isSome = true) :
    encodable (commandValue sha s authorization) = true := by
  have hnames : (encodedBytes (lit "event_type")).isSome = true ∧
      (encodedBytes (lit "payload")).isSome = true ∧
      (encodedBytes (lit "authorization_decision_id")).isSome = true ∧
      (encodedBytes (statusEventType .created)).isSome = true := by decide
  refine Outbox.encodableFields_iff.mpr ?_
  simp only [List.forall_mem_cons, List.not_mem_nil, false_implies, implies_true, encodable, hnames,
    encodable_creationPayload h hauthorization, hauthorization, and_self]

def envelopeFields : List Str :=
  [lit "protocol_version", lit "event_id", lit "event_type", lit "event_version", lit "event_kind",
    lit "origin", lit "source", lit "stream_id", lit "stream_type", lit "stream_version",
    lit "global_position", lit "organization_id", lit "tenant_id", lit "repository_id",
    lit "environment_id", lit "principal_id", lit "agent_client_id", lit "actor_type", lit "actor_id",
    lit "authorization_decision_id", lit "request_id", lit "idempotency_key_sha256",
    lit "request_sha256", lit "correlation_id", lit "causation_id", lit "occurred_at",
    lit "recorded_at", lit "producer", lit "producer_version", lit "payload_schema",
    lit "payload_sha256", lit "previous_stream_event_sha256", lit "classification",
    lit "retention_policy_id", lit "artifact_refs", lit "payload"]

theorem encodable_creationEnvelope {s : GateSession} (h : Creatable s) {c : EventTrustedContext}
    (hc : PlainContext c) (position : Nat) : encodable (creationEnvelope sha s position c).toDict = true := by
  have hcontext := hc.plain
  simp only [List.forall_mem_cons, List.not_mem_nil, false_implies, implies_true, and_true] at hcontext
  obtain ⟨horganization, htenant, hrepository, henvironment, hprincipal, hclient, hactor, hauthorization⟩ :=
    hcontext
  have hid : (encodedBytes (eventIdOf (identityDigest sha s))).isSome = true := by
    have hkind : ascii (lit "evt_gate_") = true := by decide
    have htagged := @encodes_tagged sha _ hkind (lit "tbm.gate-session-event-identity.v1\x00")
      (identityValue s) (removeTag (identityDigest sha s)).length
    rwa [← identityDigest, List.take_length] at htagged
  have hrequest : (encodedBytes (requestIdOf (identityDigest sha s))).isSome = true :=
    encodes_tagged (by decide) _ _ 48
  have hcorrelation : (encodedBytes (correlationIdOf (correlationDigest sha s))).isSome = true :=
    encodes_tagged (by decide) _ _ 40
  have hupdated : (encodedBytes s.updatedAt).isSome = true :=
    encodedBytes_of_ascii (ascii_canonical h.times.updated)
  have hconstants : ∀ v ∈ [lit "tbm.event.v1", statusEventType .created, EventKind.domain.text,
      EventOrigin.native.text, streamType, producerName, producerVersionText,
      statusEventType .created ++ lit ".v1", EventClassification.internal.text, retentionPolicyId],
      (encodedBytes v).isSome = true := by decide
  simp only [List.forall_mem_cons, List.not_mem_nil, false_implies, implies_true, and_true] at hconstants
  have hactorType : ∀ a : EventActorType, (encodedBytes a.text).isSome = true := by
    intro a
    cases a <;> decide
  have hidentity : (encodedBytes (identityDigest sha s)).isSome = true := encodes_domain _ _
  have hcommand : (encodedBytes (commandDigest sha s c.authorizationDecisionId)).isSome = true :=
    encodes_domain _ _
  have hkeys : ∀ k ∈ envelopeFields, (encodedBytes k).isSome = true := by decide
  refine Outbox.encodableFields_iff.mpr fun field hf => ⟨hkeys _ (List.mem_map_of_mem hf), ?_⟩
  revert field
  simp only [creationEnvelope, List.forall_mem_cons, List.not_mem_nil, false_implies, implies_true,
    encodable, jsonOptional, Option.elim, jsonInt, List.map_nil, encodableItems, hconstants, hid,
    hrequest, hcorrelation, hupdated, hactorType, horganization, htenant, hrepository, henvironment,
    hprincipal, hclient, hactor, hauthorization, hidentity, hcommand, encodes_domain, h.encodes_id,
    encodable_creationPayload h hauthorization, and_self]

def creationEvent (sha : Sha256) {s : GateSession} (h : Creatable s) {position : Nat}
    (hposition : 1 ≤ position ∧ position ≤ eventMaxVersion) (c : EventTrustedContext) :
    CanonicalEvent sha where
  toEventEnvelope := creationEnvelope sha s position c
  eventSha256 := canonicalEventSha256 sha (creationEnvelope sha s position c)
  signed := rfl
  version_bounds := by
    show 1 ≤ s.version ∧ s.version ≤ eventMaxVersion
    rw [h.first.2]
    decide
  position_bounds := hposition
  first_parent := iff_of_true h.first.2 rfl

section Built

variable {s : GateSession} (h : Creatable s) {c : EventTrustedContext} (hc : PlainContext c)
  (hidentity : identityMatches s c.tenantId c.repositoryId c.principalId c.agentClientId)
  {position : Nat} (hposition : 1 ≤ position ∧ position ≤ eventMaxVersion)

include h in
theorem revisionSha256_creation : revisionSha256 sha s =
    .ok (sha.domain (lit "tbm.gate-session-revision.v1\x00") (serialized s.toGateSessionRecord)) := by
  rw [revisionSha256, toDict_canonical h.times]
  exact domainSha256_eq _ h.encodes

include h in
theorem eventIdentitySha256_creation :
    eventIdentitySha256 sha s.sessionId s.version = .ok (identityDigest sha s) := by
  have hnames : (encodedBytes (lit "session_id")).isSome = true ∧
      (encodedBytes (lit "session_version")).isSome = true := by decide
  refine domainSha256_eq _ (Outbox.encodableFields_iff.mpr ?_)
  simp only [List.forall_mem_cons, List.not_mem_nil, false_implies, implies_true, encodable, jsonInt,
    hnames, h.encodes_id, and_self]

include h in
theorem correlationSha256_creation :
    correlationSha256 sha s.sessionId = .ok (correlationDigest sha s) := by
  have hname : (encodedBytes (lit "session_id")).isSome = true := by decide
  refine domainSha256_eq _ (Outbox.encodableFields_iff.mpr ?_)
  simp only [List.forall_mem_cons, List.not_mem_nil, false_implies, implies_true, encodable, hname,
    h.encodes_id, and_self]

include h in
theorem verifyDeterministicEnvelope_creation (hc : PlainContext c) :
    verifyDeterministicEnvelope s (creationEvent sha h hposition c)
      (creationPayload sha s c.authorizationDecisionId) = .ok () := by
  have hauthorization := hc.plain c.authorizationDecisionId (List.mem_of_getElem? (i := 7) rfl)
  have hcausation : expectedCausation sha s = .ok none := by rw [expectedCausation, if_pos h.first.2]
  have hcommand : eventCommandSha256 sha (statusEventType .created)
      (creationPayload sha s c.authorizationDecisionId) c.authorizationDecisionId =
      .ok (commandDigest sha s c.authorizationDecisionId) :=
    domainSha256_eq _ (encodable_commandValue h hauthorization)
  refine bind_eq_ok.mpr ⟨_, eventIdentitySha256_creation h, bind_eq_ok.mpr
    ⟨_, correlationSha256_creation h, bind_eq_ok.mpr ⟨_, hcausation, bind_eq_ok.mpr
      ⟨_, canonicalRfc3339_canonical h.times.updated, bind_eq_ok.mpr ⟨_, hcommand, ?_⟩⟩⟩⟩⟩
  refine raiseIf_of_not ?_
  simp only [creationEvent, creationEnvelope, ne_eq, not_true_eq_false, or_self, not_false_eq_true]

include h in
theorem gateSessionEventType_creation : gateSessionEventType s none = .ok (statusEventType .created) := by
  rw [gateSessionEventType, raiseIf_of_not]
  · rfl
  · rintro (hstatus | hversion)
    · exact hstatus h.first.1
    · exact hversion h.first.2

include h in
theorem parse_creation (hc : PlainContext c)
    (hidentity : identityMatches s c.tenantId c.repositoryId c.principalId c.agentClientId) :
    parseGateSessionEvent (creationEvent sha h hposition c) none none = .ok s := by
  have hparsed : parseGateSession (serialized s.toGateSessionRecord) = .ok s := by
    rw [serialized, parseGateSession_sameFields (sameFields_serialized _)]
    exact GateSessionRecord.build_eq_ok.mpr rfl
  have hgate : statusEventType .created ∈ gateSessionEventTypes := by decide
  have henvelope : ¬envelopeInvalid (creationEvent sha h hposition c) := by
    simp only [envelopeInvalid, creationEvent, creationEnvelope, ne_eq, not_true_eq_false, or_self,
      not_false_eq_true]
  refine seq_eq_ok.mpr ⟨raiseIf_of_not (not_not.mpr hgate), seq_eq_ok.mpr ⟨raiseIf_of_not henvelope,
    bind_eq_ok.mpr ⟨_, rfl, seq_eq_ok.mpr ⟨raiseIf_of_not ?_, seq_eq_ok.mpr ⟨raiseIf_of_not ?_,
      bind_eq_ok.mpr ⟨_, rfl, bind_eq_ok.mpr ⟨s, orInvalid_eq_ok.mpr hparsed,
        bind_eq_ok.mpr ⟨_, revisionSha256_creation h, seq_eq_ok.mpr ⟨raiseIf_of_not (not_not.mpr rfl),
          bind_eq_ok.mpr ⟨_, rfl, seq_eq_ok.mpr ⟨raiseIf_of_not (not_not.mpr rfl),
            seq_eq_ok.mpr ⟨raiseIf_of_not (not_not.mpr rfl), seq_eq_ok.mpr ⟨raiseIf_of_not ?_,
              seq_eq_ok.mpr ⟨raiseIf_of_not (not_not.mpr hidentity),
                bind_eq_ok.mpr ⟨_, gateSessionEventType_creation h,
                  seq_eq_ok.mpr ⟨raiseIf_of_not (not_not.mpr rfl),
                    seq_eq_ok.mpr ⟨verifyDeterministicEnvelope_creation h hposition hc, rfl⟩⟩⟩⟩⟩⟩⟩⟩⟩⟩⟩⟩⟩⟩⟩⟩⟩
  · exact Bool.noConfusion
  · exact not_not.mpr rfl
  · rintro (hstream | hversion)
    · exact hstream rfl
    · exact hversion rfl

include h in
theorem build_creation (hc : PlainContext c)
    (hidentity : identityMatches s c.tenantId c.repositoryId c.principalId c.agentClientId) :
    buildGateSessionEvent sha admitAll s none none position c = .ok (creationEvent sha h hposition c) := by
  have hauthorization := hc.plain c.authorizationDecisionId (List.mem_of_getElem? (i := 7) rfl)
  have hcommand : eventCommandSha256 sha (statusEventType .created)
      (creationPayload sha s c.authorizationDecisionId) c.authorizationDecisionId =
      .ok (commandDigest sha s c.authorizationDecisionId) :=
    domainSha256_eq _ (encodable_commandValue h hauthorization)
  have hevent : buildCanonicalEvent sha admitAll (creationEnvelope sha s position c) =
      .ok (creationEvent sha h hposition c) := by
    have hencodes : ¬encodable (creationEnvelope sha s position c).toDict = false := by
      rw [encodable_creationEnvelope h hc]
      exact Bool.noConfusion
    refine seq_eq_ok.mpr ⟨rfl, seq_eq_ok.mpr ⟨raiseIf_of_not hencodes, ?_⟩⟩
    exact dif_pos ⟨⟨(creationEvent sha h hposition c).version_bounds, hposition⟩,
      (creationEvent sha h hposition c).first_parent⟩
  have hchain : verifyEventParent (creationEvent sha h hposition c) none = .ok () := by
    have hversion : (creationEvent sha h hposition c).streamVersion = 1 := h.first.2
    rw [verifyEventParent, if_pos hversion]
    rfl
  exact bind_eq_ok.mpr ⟨_, gateSessionEventType_creation h, seq_eq_ok.mpr
    ⟨raiseIf_of_not (not_not.mpr hidentity), seq_eq_ok.mpr ⟨rfl,
      bind_eq_ok.mpr ⟨_, toDict_canonical h.times, bind_eq_ok.mpr ⟨_, revisionSha256_creation h,
        bind_eq_ok.mpr ⟨none, rfl, bind_eq_ok.mpr ⟨_, hcommand,
          bind_eq_ok.mpr ⟨_, eventIdentitySha256_creation h,
            bind_eq_ok.mpr ⟨_, correlationSha256_creation h,
              bind_eq_ok.mpr ⟨_, canonicalRfc3339_canonical h.times.updated,
                bind_eq_ok.mpr ⟨_, hevent, seq_eq_ok.mpr ⟨orInvalid_eq_ok.mpr hchain,
                  bind_eq_ok.mpr ⟨s, parse_creation h hposition hc hidentity, rfl⟩⟩⟩⟩⟩⟩⟩⟩⟩⟩⟩⟩⟩

end Built

end Creation

section Counting

theorem length_sorted_putIn {fields : Fields} {id : Str} {value : Json} (h : id ∉ fields.map Prod.fst) :
    (sorted (Dict.putIn id value fields)).length = fields.length + 1 := by
  rw [sorted, length_orderBy, Json.sortFields_eq, List.length_map, Dict.putIn_of_not_mem h,
    List.length_append]
  rfl

theorem mem_keys_sorted_putIn {fields : Fields} {id j : Str} {value : Json} :
    j ∈ (sorted (Dict.putIn id value fields)).map Prod.fst ↔ j = id ∨ j ∈ fields.map Prod.fst := by
  rw [sorted, ((orderBy_perm Prod.fst _).map Prod.fst).mem_iff, Json.keys_sortFields,
    Dict.mem_keys_putIn]

theorem one_le_nodeCount (value : Json) : 1 ≤ nodeCount value := by
  cases value with
  | arr items => exact Nat.le_add_right 1 _
  | obj fields => exact Nat.le_add_right 1 _
  | _ => exact le_refl 1

theorem length_le_fieldsCount (fields : Fields) : fields.length ≤ fieldsCount fields := by
  induction fields with
  | nil => exact le_refl 0
  | cons field fields ih =>
    have hone := one_le_nodeCount field.2
    rw [List.length_cons, fieldsCount]
    omega

theorem nodeCount_stateOf (sessions heads : Fields) :
    sessions.length + heads.length < nodeCount (stateOf sessions heads) := by
  have hsessions := length_le_fieldsCount sessions
  have hheads := length_le_fieldsCount heads
  simp only [stateOf, nodeCount, fieldsCount]
  omega

structure Counts (n : Nat) (fields : Fields) (run : List (Revision sha)) : Prop where
  length : fields.length = n
  keys : ∀ id ∈ fields.map Prod.fst, ∃ x ∈ run, x.1.sessionId = id

theorem Counts.step {n : Nat} {fields : Fields} {run : List (Revision sha)} (h : Counts n fields run)
    {x : Revision sha} (hx : ∀ y ∈ run, y.1.sessionId ≠ x.1.sessionId) (value : Json) :
    Counts (n + 1) (sorted (Dict.putIn x.1.sessionId value fields)) (run ++ [x]) := by
  have hfresh : x.1.sessionId ∉ fields.map Prod.fst := by
    intro hmem
    obtain ⟨y, hy, heq⟩ := h.keys _ hmem
    exact hx y hy heq
  constructor
  · rw [length_sorted_putIn hfresh, h.length]
  · intro id hid
    rcases mem_keys_sorted_putIn.mp hid with rfl | hid
    · exact ⟨x, List.mem_append_right _ List.mem_cons_self, rfl⟩
    · obtain ⟨y, hy, heq⟩ := h.keys id hid
      exact ⟨y, List.mem_append_left _ hy, heq⟩

end Counting

section Crowd

def crowdIdentity (k : Nat) : SessionIdentity :=
  { sampleIdentity with sessionId := lit "session-" ++ decimal k }

def crowdSession (k : Nat) : Except GateError GateSession :=
  createGateSession (crowdIdentity k) (lit "2026-01-01T00:00:00Z") (lit "2026-01-01T01:00:00Z")

def crowd : Nat → Except GateError (List (Revision sampleSha))
  | 0 => .ok []
  | n + 1 => do
    let run ← crowd n
    let s ← crowdSession n
    extend admitAll run s (n + 1) sampleContext

theorem crowdIdentity_injective {j k : Nat} (h : (crowdIdentity j).sessionId = (crowdIdentity k).sessionId) :
    j = k :=
  decimal_injective (List.append_cancel_left h)

theorem ascii_decimal (n : Nat) : ascii (decimal n) = true := by
  refine List.all_eq_true.mpr fun c hc => ?_
  have hdigit := isNumeral_of_mem_decimal hc
  simp only [isNumeral, decide_eq_true_eq] at hdigit ⊢
  omega

theorem requiredText_session {k : Nat} (hk : k < 10 ^ 100) (name : Str) :
    requiredText 128 (lit "session-" ++ decimal k) name = .ok () := by
  refine requiredText_iff.mpr ⟨?_, ?_, ?_⟩
  · rw [Bool.eq_false_iff, ne_eq, isBlank_iff]
    intro hspaces
    have hfirst : isSpace (cp 's') = true := hspaces _ (List.mem_append_left _ List.mem_cons_self)
    exact absurd hfirst (by decide)
  · have hlength : (lit "session-").length = 8 := by decide
    have hdecimal := (length_decimal_le_iff (by decide)).mpr hk
    rw [List.length_append, hlength]
    omega
  · refine encodedBytes_of_ascii ?_
    rw [ascii_append, ascii_decimal, Bool.and_true]
    decide

theorem exists_crowdSession {k : Nat} (hk : k < 10 ^ 100) : ∃ s, crowdSession k = .ok s := by
  obtain ⟨base, hbase⟩ := exists_named namedSession_plain
  have hcreated : createGateSession (namedIdentity (lit "trace-1")) _ _ = .ok base := hbase
  have hrecord := record_created hcreated
  obtain ⟨hidentity, htimes, hevidence, hshape⟩ := GateSessionRecord.check_iff.mp base.valid
  rw [hrecord] at hidentity htimes hevidence hshape
  have hchecked : (createdRecord (crowdIdentity k) (lit "2026-01-01T00:00:00Z")
      (lit "2026-01-01T01:00:00Z")).check = .ok () := by
    refine GateSessionRecord.check_iff.mpr ⟨?_, htimes, hevidence, hshape⟩
    simp only [GateSessionRecord.checkIdentity, bind_eq_ok, exists_unit, checkEach_eq_ok,
      List.forall_mem_cons] at hidentity ⊢
    exact ⟨⟨requiredText_session hk _, hidentity.1.2⟩, hidentity.2⟩
  exact ⟨⟨_, hchecked⟩, GateSessionRecord.build_eq_ok.mpr rfl⟩

theorem canonical_sampleTimes : CanonicalText (lit "2026-01-01T00:00:00Z") ∧
    CanonicalText (lit "2026-01-01T01:00:00Z") := by
  have htexts : canonicalRfc3339 (lit "2026-01-01T00:00:00Z") = .ok (lit "2026-01-01T00:00:00Z") ∧
      canonicalRfc3339 (lit "2026-01-01T01:00:00Z") = .ok (lit "2026-01-01T01:00:00Z") := by
    decide +kernel
  exact ⟨canonicalText_of_ok htexts.1, canonicalText_of_ok htexts.2⟩

theorem creatable_crowdSession {k : Nat} {s : GateSession} (h : crowdSession k = .ok s) : Creatable s := by
  have hrecord := record_created h
  obtain ⟨hstart, hend⟩ := canonical_sampleTimes
  refine ⟨?_, ⟨?_, ?_, ?_, ?_⟩, ?_⟩
  all_goals rw [hrecord]
  · exact ⟨rfl, rfl⟩
  · exact hstart
  · exact hstart
  · exact hend
  · rintro text ⟨⟩
  · exact encodable_created (accepted_of_created h) hstart hend

theorem plain_sampleContext : PlainContext sampleContext := ⟨by decide⟩

structure Crowded (n : Nat) (run : List (Revision sampleSha)) : Prop where
  interleaved : Interleaved sampleSha admitAll run
  ids : ∀ x ∈ run, ∃ k < n, x.1.sessionId = (crowdIdentity k).sessionId
  sessions : Counts n (recorded run).1 run
  heads : Counts n (recorded run).2 run

theorem lastRevision_none {run : List (Revision sha)} {id : Str} (h : ∀ x ∈ run, x.1.sessionId ≠ id) :
    lastRevision id run = none := by
  have hfilter : run.filter (fun x => decide (x.1.sessionId = id)) = [] :=
    List.filter_eq_nil_iff.mpr fun x hx => by simpa using h x hx
  rw [lastRevision, lastOn, hfilter]
  rfl

theorem Crowded.next {n : Nat} {run : List (Revision sampleSha)} (h : Crowded n run)
    (hn : n < 10 ^ 18) : ∃ next, (do
      let s ← crowdSession n
      extend admitAll run s (n + 1) sampleContext) = .ok next ∧ Crowded (n + 1) next := by
  obtain ⟨s, hs⟩ := exists_crowdSession (hn.trans (by decide))
  have hrecord := record_created hs
  have hid : s.sessionId = (crowdIdentity n).sessionId := by rw [hrecord]; rfl
  have hfresh : ∀ x ∈ run, x.1.sessionId ≠ s.sessionId := by
    intro x hx heq
    obtain ⟨k, hk, hx⟩ := h.ids x hx
    have hsame := crowdIdentity_injective (hx.symm.trans (heq.trans hid))
    omega
  have hposition : 1 ≤ n + 1 ∧ n + 1 ≤ eventMaxVersion := by
    rw [eventMaxVersion]
    omega
  have hidentity : identityMatches s sampleContext.tenantId sampleContext.repositoryId
      sampleContext.principalId sampleContext.agentClientId := by
    rw [identityMatches, hrecord]
    exact ⟨rfl, rfl, rfl, rfl⟩
  have hbuilt := @build_creation sampleSha s (creatable_crowdSession hs) sampleContext (n + 1)
    hposition plain_sampleContext hidentity
  have hextend : extend admitAll run s (n + 1) sampleContext =
      .ok (run ++ [(s, creationEvent sampleSha (creatable_crowdSession hs) hposition sampleContext)]) := by
    rw [extend, lastRevision_none hfresh]
    exact bind_eq_ok.mpr ⟨_, hbuilt, rfl⟩
  refine ⟨_, bind_eq_ok.mpr ⟨s, hs, hextend⟩, h.interleaved.extend hextend, ?_, ?_, ?_⟩
  · intro x hx
    rcases List.mem_append.mp hx with hx | hx
    · obtain ⟨k, hk, hx⟩ := h.ids x hx
      exact ⟨k, Nat.lt_succ_of_lt hk, hx⟩
    · rw [List.mem_singleton.mp hx]
      exact ⟨n, Nat.lt_succ_self n, hid⟩
  · rw [recorded_concat]
    exact h.sessions.step hfresh _
  · rw [recorded_concat]
    exact h.heads.step hfresh _

theorem exists_crowd {n : Nat} (hn : n ≤ 10 ^ 18) : ∃ run, crowd n = .ok run ∧ Crowded n run := by
  induction n with
  | zero =>
    refine ⟨[], rfl, Interleaved.nil, List.forall_mem_nil _, ⟨rfl, ?_⟩, ⟨rfl, ?_⟩⟩
    · exact List.forall_mem_nil _
    · exact List.forall_mem_nil _
  | succ n ih =>
    obtain ⟨run, hrun, hcrowded⟩ := ih (by omega)
    obtain ⟨next, hnext, hcrowded⟩ := hcrowded.next (by omega)
    exact ⟨next, bind_eq_ok.mpr ⟨run, hrun, hnext⟩, hcrowded⟩

theorem crowded_gate_sessions_block : ∃ run, crowd 16384 = .ok run ∧
    Interleaved sampleSha admitAll run ∧
      ∃ message, foldGateSessions sampleSha (replayed run) = .error (stateLimitExceeded message) := by
  obtain ⟨run, hrun, hcrowded⟩ := exists_crowd (n := 16384) (by decide)
  have hnodes := nodeCount_stateOf (recorded run).1 (recorded run).2
  rw [hcrowded.sessions.length, hcrowded.heads.length] at hnodes
  refine ⟨run, hrun, hcrowded.interleaved, ?_⟩
  cases hfold : foldGateSessions sampleSha (replayed run) with
  | ok state =>
    have hfits := hcrowded.interleaved.folds_iff.mp ⟨state, hfold⟩ run [] (List.append_nil run).symm
    have hlimit : nodeCount (stateAfter run) ≤ 32768 := hfits.nodes
    exact absurd hnodes (Nat.not_lt.mpr hlimit)
  | error e =>
    obtain ⟨message, rfl⟩ := hcrowded.interleaved.onlyLimits.1 e hfold
    exact ⟨message, rfl⟩

end Crowd

end GateEvents

end TraceBackedMemory
