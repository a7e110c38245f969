import TraceBackedMemory.Ledger.EventLoading
import TraceBackedMemory.Ledger.PayloadShapes

namespace TraceBackedMemory

open Text Raising Json OrderBy

open GateEvents (keysAre)

namespace EventContract

variable {codec : FloatCodec} {hash : TextHash}

section Constructor

theorem positiveVersion_eq_ok {value : Int} {name : Str} {n : { n : Nat // 1 ≤ n ∧ n ≤ eventMaxVersion }}
    (h : positiveVersion value name = .ok n) : (n.val : Int) = value := by
  unfold positiveVersion at h
  split at h
  · rename_i hbounds
    cases h
    exact Int.toNat_of_nonneg (by omega)
  · cases h

theorem checkPrevious_eq_ok {version : Nat} {previous : Option Str}
    {p : { p : Option Str // version = 1 ↔ p = none }} (h : checkPrevious version previous = .ok p) :
    p.val = previous := by
  unfold checkPrevious at h
  split at h <;> split at h
  · cases h
    rfl
  · cases h
  · cases h
  · simp only [bind_eq_ok, exists_unit, pure_eq_ok] at h
    obtain ⟨-, rfl⟩ := h
    rfl

theorem unsigned_of_checked {f : EventFields} {p : EventParts} (h : checkEnvelope f = .ok p) :
    (f.envelope p).toDict = f.unsigned := by
  simp only [checkEnvelope, bind_eq_ok, exists_unit, raiseIf_eq_ok, pure_eq_ok, ne_eq, not_not] at h
  obtain ⟨hprotocol, -, -, -, eventVersion, heventVersion, kind, hkind, origin, horigin, -, -, streamVersion,
    hstreamVersion, globalPosition, hglobalPosition, actorType, hactorType, -, -, -, -, -, -, -, -, previous,
    hprevious, classification, hclassification, -, -, rfl⟩ := h
  simp only [EventEnvelope.toDict, EventFields.envelope, EventFields.unsigned, EventFields.entries, jsonInt,
    positiveVersion_eq_ok heventVersion, positiveVersion_eq_ok hstreamVersion,
    positiveVersion_eq_ok hglobalPosition, checkPrevious_eq_ok hprevious, hprotocol, ← member_text hkind,
    ← member_text horigin, ← member_text hactorType, ← member_text hclassification]
  rfl

structure Accepted (f : EventFields) (e : CanonicalEvent (hash.canonical codec)) : Prop where
  parts : ∃ p, checkEnvelope f = .ok p ∧ e.toEventEnvelope = f.envelope p
  payload : validateEventPayload codec.repr f.payload = .ok ()
  payloadSha256 : f.payloadSha256 = (hash.canonical codec).domain [] f.payload
  encodes : ∃ bytes, canonicalBytes codec.repr f.unsigned = some bytes
  sha256 : e.eventSha256 = f.eventSha256

theorem payloadChecked_eq_ok {payload : Json} :
    payloadChecked codec payload = .ok () ↔ validateEventPayload codec.repr payload = .ok () := by
  unfold payloadChecked
  split
  · rename_i h
    simp [h]
  · rename_i h
    simp [h]

theorem eventPayloadSha256_eq_ok {payload : Json} {s : Str} :
    eventPayloadSha256 codec hash payload = .ok s ↔
      validateEventPayload codec.repr payload = .ok () ∧ (hash.canonical codec).domain [] payload = s := by
  simp only [eventPayloadSha256, bind_eq_ok, exists_unit, payloadChecked_eq_ok, pure_eq_ok]

theorem signUnsigned_eq_ok {unsigned : Json} {s : Str} :
    signUnsigned codec hash unsigned = .ok s ↔
      (∃ bytes, canonicalBytes codec.repr unsigned = some bytes) ∧
        (hash.canonical codec).domain eventDomain unsigned = s := by
  simp only [signUnsigned, bind_eq_ok, demand_eq_ok, pure_eq_ok, exists_and_right]

theorem newCanonicalEvent_eq_ok {f : EventFields} {e : CanonicalEvent (hash.canonical codec)} :
    newCanonicalEvent codec hash f = .ok e ↔ Accepted f e := by
  simp only [newCanonicalEvent, bind_eq_ok, exists_unit, payloadChecked_eq_ok, eventPayloadSha256_eq_ok,
    signUnsigned_eq_ok, raiseIf_eq_ok, ne_eq, not_not]
  constructor
  · rintro ⟨p, hp, hpayload, _, ⟨-, rfl⟩, hsha, _, ⟨hbytes, -⟩, hsigned⟩
    split at hsigned
    · rename_i hevent
      obtain rfl := pure_eq_ok.mp hsigned
      exact ⟨⟨p, hp, rfl⟩, hpayload, hsha, unsigned_of_checked hp ▸ hbytes, rfl⟩
    · cases hsigned
  · rintro ⟨⟨p, hp, henvelope⟩, hpayload, hsha, hbytes, hevent⟩
    have hsigned : f.eventSha256 = canonicalEventSha256 (hash.canonical codec) (f.envelope p) := by
      rw [← hevent, ← henvelope]
      exact e.signed
    refine ⟨p, hp, hpayload, _, ⟨hpayload, rfl⟩, hsha, _, ⟨(unsigned_of_checked hp).symm ▸ hbytes, rfl⟩, ?_⟩
    rw [dif_pos hsigned]
    exact congrArg Except.ok (CanonicalEvent.eq_of_envelope henvelope.symm)

theorem domain_congr {d : Str} {v w : Json}
    (h : canonicalText codec.repr v = canonicalText codec.repr w) :
    (hash.canonical codec).domain d v = (hash.canonical codec).domain d w := by
  rw [Sha256.domain, Sha256.domain]
  show _ ++ hash.hexdigest (d ++ canonicalText codec.repr v) = _ ++ hash.hexdigest (d ++ canonicalText codec.repr w)
  rw [h]

def withPayload (e : EventEnvelope) (payload : Json) : EventEnvelope := { e with payload := payload }

theorem canonicalText_of_sorted {v w : Json} (h : sortKeys v = sortKeys w) :
    canonicalText codec.repr v = canonicalText codec.repr w := by
  rw [← canonicalText_sortKeys, h, canonicalText_sortKeys]

theorem sortKeys_withPayload (e : EventEnvelope) {payload : Json} (h : sortKeys e.payload = sortKeys payload) :
    sortKeys (withPayload e payload).toDict = sortKeys e.toDict := by
  simp only [EventEnvelope.toDict, withPayload, sortKeys, sortFields, h]

theorem newCanonicalEvent_payload {f : EventFields} {e : CanonicalEvent (hash.canonical codec)}
    (h : newCanonicalEvent codec hash f = .ok e) {payload : Json} (hpayload : sortKeys f.payload = sortKeys payload) :
    ∃ e', newCanonicalEvent codec hash { f with payload := payload } = .ok e' ∧
      e'.toEventEnvelope = withPayload e.toEventEnvelope payload ∧ e'.eventSha256 = e.eventSha256 := by
  obtain ⟨⟨p, hp, henvelope⟩, hchecked, hsha, ⟨bytes, hbytes⟩, hevent⟩ := newCanonicalEvent_eq_ok.mp h
  have hsame : sortKeys e.payload = sortKeys payload := by
    rw [henvelope]
    exact hpayload
  have hdict := sortKeys_withPayload e.toEventEnvelope hsame
  have hnew : withPayload e.toEventEnvelope payload = ({ f with payload := payload } : EventFields).envelope p := by
    rw [henvelope]
    rfl
  have hsigned : e.eventSha256 = canonicalEventSha256 (hash.canonical codec) (withPayload e.toEventEnvelope payload) := by
    rw [e.signed, canonicalEventSha256, canonicalEventSha256]
    exact domain_congr (canonicalText_of_sorted hdict.symm)
  refine ⟨⟨withPayload e.toEventEnvelope payload, e.eventSha256, hsigned, e.version_bounds, e.position_bounds,
    e.first_parent⟩, newCanonicalEvent_eq_ok.mpr ⟨⟨p, hp, hnew⟩, validateEventPayload_congr hpayload hchecked,
    ?_, ⟨bytes, ?_⟩, hevent⟩, rfl, rfl⟩
  · exact hsha.trans (domain_congr (canonicalText_of_sorted hpayload))
  · have hchanged : checkEnvelope { f with payload := payload } = .ok p := hp
    rw [← unsigned_of_checked hchanged, ← hnew, ← canonicalBytes_sortKeys, hdict, henvelope,
      unsigned_of_checked hp, canonicalBytes_sortKeys, hbytes]

end Constructor

section Reading

def sortedEntries (fields : Fields) : Fields := orderBy Prod.fst (sortFields fields)

section Lookup

variable {fields : Fields}

theorem valueAt_sorted (hkeys : (fields.map Prod.fst).Nodup) {i : Nat} {name : Str} {v : Json}
    (h : fields[i]? = some (name, v)) : valueAt (sortedEntries fields) name = sortKeys v := by
  have hfield : field? name fields = some v := by
    rw [field_eq_lookupIn, Dict.lookupIn_eq_some hkeys]
    exact List.mem_of_getElem? h
  rw [valueAt, sortedEntries, field_sorted hkeys, hfield]
  rfl

theorem asStr_sorted (hkeys : (fields.map Prod.fst).Nodup) (i : Nat) (name : String) (s : Str)
    (h : fields[i]? = some (lit name, .str s)) : asStr (sortedEntries fields) name = .ok s := by
  rw [asStr, valueAt_sorted hkeys h]
  rfl

theorem asInt_sorted (hkeys : (fields.map Prod.fst).Nodup) (i : Nat) (name : String) (n : Int)
    (h : fields[i]? = some (lit name, .num (.int n))) : asInt (sortedEntries fields) name = .ok n := by
  rw [asInt, valueAt_sorted hkeys h]
  rfl

theorem asOptionalStr_sorted (hkeys : (fields.map Prod.fst).Nodup) (i : Nat) (name : String) (s : Option Str)
    (h : fields[i]? = some (lit name, jsonOptional s)) : asOptionalStr (sortedEntries fields) name = .ok s := by
  rw [asOptionalStr, valueAt_sorted hkeys h]
  cases s <;> rfl

theorem keysAre_sorted {names : List String} (h : fields.map Prod.fst = names.map lit) :
    keysAre (sortedEntries fields) (names.map lit) = true := by
  have hkeys (k : Str) : k ∈ (sortedEntries fields).map Prod.fst ↔ k ∈ names.map lit := by
    rw [sortedEntries, ((orderBy_perm Prod.fst (sortFields fields)).map Prod.fst).mem_iff, keys_sortFields, h]
  simp only [keysAre, Bool.and_eq_true, List.all_eq_true, decide_eq_true_eq]
  exact ⟨fun k hk => (hkeys k).mp hk, fun k hk => (hkeys k).mpr hk⟩

theorem strictObject_sorted {names : List String} {label message : String}
    (h : fields.map Prod.fst = names.map lit) :
    strictObject names label message (.obj (sortedEntries fields)) = .ok (sortedEntries fields) := by
  have hkeys : ¬keysAre (sortedEntries fields) (names.map lit) = false := by
    rw [keysAre_sorted h]
    decide
  rw [strictObject, raiseIf_of_not hkeys]
  rfl

end Lookup

section Parts

def sourceEntries (s : EventSource) : Fields :=
  [(lit "source_system", .str s.sourceSystem), (lit "source_record_id", .str s.sourceRecordId),
    (lit "evidence_quality", .str s.evidenceQuality.text), (lit "observed_at", .str s.observedAt)]

def artifactEntries (a : EventArtifactRef) : Fields :=
  [(lit "artifact_id", .str a.artifactId), (lit "content_sha256", .str a.contentSha256),
    (lit "media_type", .str a.mediaType), (lit "size_bytes", jsonInt a.sizeBytes),
    (lit "classification", .str a.classification.text),
    (lit "retention_policy_id", .str a.retentionPolicyId),
    (lit "encryption_key_id", jsonOptional a.encryptionKeyId),
    (lit "availability", .str a.availability.text)]

theorem sourceEntries_nodup (s : EventSource) : ((sourceEntries s).map Prod.fst).Nodup := by
  have h : ([lit "source_system", lit "source_record_id", lit "evidence_quality", lit "observed_at"] :
      List Str).Nodup := by decide +kernel
  exact h

theorem artifactEntries_nodup (a : EventArtifactRef) : ((artifactEntries a).map Prod.fst).Nodup := by
  have h : (artifactNames.map lit).Nodup := by decide +kernel
  exact h

theorem parseSource_sorted (s : Source) : parseSource (sortKeys s.val.toDict) = .ok s := by
  have hkeys := sourceEntries_nodup s.val
  have hquality : valueAt (sortedEntries (sourceEntries s.val)) (lit "evidence_quality") =
      .str s.val.evidenceQuality.text := valueAt_sorted hkeys (i := 2) rfl
  show parseSource (.obj (sortedEntries (sourceEntries s.val))) = _
  rw [parseSource, strictObject_sorted rfl]
  dsimp only [bind, Except.bind]
  rw [asStr_sorted hkeys 0 "source_system" s.val.sourceSystem rfl,
    asStr_sorted hkeys 1 "source_record_id" s.val.sourceRecordId rfl,
    asStr_sorted hkeys 3 "observed_at" s.val.observedAt rfl]
  dsimp only
  split
  · rename_i e h
    rw [hquality, s.property] at h
    cases h
  · rename_i t h
    rw [hquality, s.property] at h
    exact congrArg Except.ok (Subtype.ext (Except.ok.inj h).symm)

theorem parseOptionalSource_sorted (s : Option Source) :
    parseOptionalSource (sortKeys ((s.map Subtype.val).elim .null EventSource.toDict)) = .ok s := by
  cases s with
  | none => rfl
  | some s =>
    show parseOptionalSource (sortKeys s.val.toDict) = _
    have hparsed := parseSource_sorted s
    unfold parseOptionalSource
    split
    · rename_i heq
      cases heq
    · rw [hparsed]
      rfl

theorem readArtifactFields_sorted (a : EventArtifactRef) :
    readArtifactFields (sortedEntries (artifactEntries a)) = .ok (EventArtifactRef.fields a) := by
  have hkeys := artifactEntries_nodup a
  rw [readArtifactFields, asStr_sorted hkeys 0 "artifact_id" a.artifactId rfl,
    asStr_sorted hkeys 1 "content_sha256" a.contentSha256 rfl,
    asStr_sorted hkeys 2 "media_type" a.mediaType rfl, asInt_sorted hkeys 3 "size_bytes" a.sizeBytes rfl,
    asStr_sorted hkeys 5 "retention_policy_id" a.retentionPolicyId rfl,
    asOptionalStr_sorted hkeys 6 "encryption_key_id" a.encryptionKeyId rfl,
    valueAt_sorted hkeys (i := 4) (v := .str a.classification.text) rfl,
    valueAt_sorted hkeys (i := 7) (v := .str a.availability.text) rfl]
  rfl

theorem parseArtifactRef_sorted (a : ArtifactRef) : parseArtifactRef (sortKeys a.val.toDict) = .ok a := by
  show parseArtifactRef (.obj (sortedEntries (artifactEntries a.val))) = _
  rw [parseArtifactRef, strictObject_sorted rfl]
  dsimp only [bind, Except.bind]
  rw [readArtifactFields_sorted]
  dsimp only
  split
  · rename_i e h
    rw [a.property] at h
    cases h
  · rename_i b h
    rw [a.property] at h
    exact congrArg Except.ok (Subtype.ext (Except.ok.inj h).symm)

theorem parseArtifactRefs_sorted {refs : List ArtifactRef} (h : refs.length ≤ maxArtifactRefs) :
    parseArtifactRefs (sortKeys (.arr ((refs.map Subtype.val).map EventArtifactRef.toDict))) = .ok refs := by
  have hall : collect parseArtifactRef (refs.map (fun a => sortKeys a.val.toDict)) = .ok refs := by
    clear h
    induction refs with
    | nil => rfl
    | cons a refs ih =>
      rw [List.map_cons, collect, parseArtifactRef_sorted, ih]
      rfl
  have hbound : ¬maxArtifactRefs < (refs.map (fun a => sortKeys a.val.toDict)).length := by
    rw [List.length_map]
    exact Nat.not_lt.mpr h
  rw [sortKeys, sortItems_eq, List.map_map, List.map_map]
  show parseArtifactRefs (.arr (refs.map (fun a => sortKeys a.val.toDict))) = _
  rw [parseArtifactRefs, raiseIf_of_not hbound]
  exact hall

end Parts

section Events

def signedEntries (f : EventFields) : Fields := f.entries ++ [(lit "event_sha256", .str f.eventSha256)]

theorem signedEntries_keys (f : EventFields) : (signedEntries f).map Prod.fst = eventNames.map lit := rfl

theorem eventNames_nodup : (eventNames.map lit).Nodup := by decide +kernel

theorem readEventFields_sorted (f : EventFields) {source : Option Source} {refs : List ArtifactRef} {payload : Json}
    (hkind : ∃ s, f.eventKind = .str s) (horigin : ∃ s, f.origin = .str s) (hactor : ∃ s, f.actorType = .str s)
    (hclassification : ∃ s, f.classification = .str s) :
    readEventFields (sortedEntries (signedEntries f)) source refs payload =
      .ok { f with source := source, artifactRefs := refs, payload := payload } := by
  have hkeys : ((signedEntries f).map Prod.fst).Nodup := signedEntries_keys f ▸ eventNames_nodup
  obtain ⟨kind, hkind⟩ := hkind
  obtain ⟨origin, horigin⟩ := horigin
  obtain ⟨actor, hactor⟩ := hactor
  obtain ⟨classification, hclassification⟩ := hclassification
  simp only [readEventFields, asStr_sorted hkeys 0 "protocol_version" f.protocolVersion rfl,
    asStr_sorted hkeys 1 "event_id" f.eventId rfl, asStr_sorted hkeys 2 "event_type" f.eventType rfl,
    asInt_sorted hkeys 3 "event_version" f.eventVersion rfl, asStr_sorted hkeys 7 "stream_id" f.streamId rfl,
    asStr_sorted hkeys 8 "stream_type" f.streamType rfl,
    asInt_sorted hkeys 9 "stream_version" f.streamVersion rfl,
    asInt_sorted hkeys 10 "global_position" f.globalPosition rfl,
    asStr_sorted hkeys 11 "organization_id" f.organizationId rfl,
    asStr_sorted hkeys 12 "tenant_id" f.tenantId rfl,
    asStr_sorted hkeys 13 "repository_id" f.repositoryId rfl,
    asStr_sorted hkeys 14 "environment_id" f.environmentId rfl,
    asStr_sorted hkeys 15 "principal_id" f.principalId rfl,
    asStr_sorted hkeys 16 "agent_client_id" f.agentClientId rfl,
    asStr_sorted hkeys 18 "actor_id" f.actorId rfl,
    asStr_sorted hkeys 19 "authorization_decision_id" f.authorizationDecisionId rfl,
    asStr_sorted hkeys 20 "request_id" f.requestId rfl,
    asStr_sorted hkeys 21 "idempotency_key_sha256" f.idempotencyKeySha256 rfl,
    asStr_sorted hkeys 22 "request_sha256" f.requestSha256 rfl,
    asStr_sorted hkeys 23 "correlation_id" f.correlationId rfl,
    asOptionalStr_sorted hkeys 24 "causation_id" f.causationId rfl,
    asOptionalStr_sorted hkeys 25 "occurred_at" f.occurredAt rfl,
    asStr_sorted hkeys 26 "recorded_at" f.recordedAt rfl, asStr_sorted hkeys 27 "producer" f.producer rfl,
    asStr_sorted hkeys 28 "producer_version" f.producerVersion rfl,
    asStr_sorted hkeys 29 "payload_schema" f.payloadSchema rfl,
    asStr_sorted hkeys 30 "payload_sha256" f.payloadSha256 rfl,
    asOptionalStr_sorted hkeys 31 "previous_stream_event_sha256" f.previousStreamEventSha256 rfl,
    asStr_sorted hkeys 33 "retention_policy_id" f.retentionPolicyId rfl,
    asStr_sorted hkeys 36 "event_sha256" f.eventSha256 rfl,
    @valueAt_sorted _ hkeys 4 (lit "event_kind") f.eventKind rfl,
    @valueAt_sorted _ hkeys 5 (lit "origin") f.origin rfl,
    @valueAt_sorted _ hkeys 17 (lit "actor_type") f.actorType rfl,
    @valueAt_sorted _ hkeys 32 (lit "classification") f.classification rfl,
    hkind, horigin, hactor, hclassification, sortKeys]
  rw [← hkind, ← horigin, ← hactor, ← hclassification]
  rfl

theorem parsePayload_sorted {payload : Json} (h : ∃ fields, payload = .obj fields) :
    parsePayload (sortKeys payload) = .ok (sortKeys payload) := by
  obtain ⟨fields, rfl⟩ := h
  rfl

theorem signedDict_eq {f : EventFields} {e : CanonicalEvent (hash.canonical codec)} (h : Accepted f e) :
    signedDict e = .obj (signedEntries f) := by
  obtain ⟨p, hp, henvelope⟩ := h.parts
  rw [signedDict, henvelope, unsigned_of_checked hp, h.sha256]
  rfl

structure Checked (f : EventFields) : Prop where
  kind : ∃ s, f.eventKind = .str s
  origin : ∃ s, f.origin = .str s
  actor : ∃ s, f.actorType = .str s
  classification : ∃ s, f.classification = .str s
  refs : f.artifactRefs.length ≤ maxArtifactRefs

theorem checked_of_ok {f : EventFields} {p : EventParts} (h : checkEnvelope f = .ok p) : Checked f := by
  simp only [checkEnvelope, bind_eq_ok, exists_unit, raiseIf_eq_ok, pure_eq_ok, ne_eq, not_not] at h
  obtain ⟨-, -, -, -, -, -, kind, hkind, origin, horigin, -, -, -, -, -, -, actorType, hactorType, -, -, -, -,
    -, -, -, -, -, -, classification, hclassification, hrefs, -, -⟩ := h
  refine ⟨⟨_, member_text hkind⟩, ⟨_, member_text horigin⟩, ⟨_, member_text hactorType⟩,
    ⟨_, member_text hclassification⟩, ?_⟩
  simp only [checkArtifactRefs, bind_eq_ok, exists_unit, raiseIf_eq_ok, not_lt, List.length_map] at hrefs
  exact hrefs.1

theorem parseCanonicalEvent_sorted {f : EventFields} {e : CanonicalEvent (hash.canonical codec)}
    (h : newCanonicalEvent codec hash f = .ok e) :
    parseCanonicalEvent codec hash (sortKeys (signedDict e)) =
      newCanonicalEvent codec hash { f with payload := sortKeys f.payload } := by
  have haccepted := newCanonicalEvent_eq_ok.mp h
  obtain ⟨p, hp, -⟩ := haccepted.parts
  obtain ⟨hkind, horigin, hactor, hclassification, hrefs⟩ := checked_of_ok hp
  have hkeys : ((signedEntries f).map Prod.fst).Nodup := signedEntries_keys f ▸ eventNames_nodup
  have hobject := (validateEventPayload_eq_ok.mp haccepted.payload).1
  rw [signedDict_eq haccepted]
  show parseCanonicalEvent codec hash (.obj (sortedEntries (signedEntries f))) = _
  rw [parseCanonicalEvent, strictObject_sorted (signedEntries_keys f)]
  dsimp only [bind, Except.bind]
  rw [@valueAt_sorted _ hkeys 6 (lit "source") _ rfl, parseOptionalSource_sorted]
  dsimp only
  rw [@valueAt_sorted _ hkeys 34 (lit "artifact_refs") _ rfl, parseArtifactRefs_sorted hrefs]
  dsimp only
  rw [@valueAt_sorted _ hkeys 35 (lit "payload") _ rfl, parsePayload_sorted hobject]
  dsimp only
  rw [readEventFields_sorted f hkind horigin hactor hclassification]

end Events

end Reading

end EventContract

end TraceBackedMemory
