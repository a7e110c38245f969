import TraceBackedMemory.Ledger.Chain
import TraceBackedMemory.Foundation.JsonString

namespace TraceBackedMemory

open Text Raising

variable {sha : Sha256} {codec : LedgerCodec sha}

section Heads

def EventRow.asHead (r : EventRow) : StreamHead :=
  ⟨r.partition, r.streamVersion, some r.eventId, some r.eventSha256⟩

theorem Chained.last_version {db : LedgerDb} (h : Chained sha db) {k : Str × Str} {r : EventRow}
    (hr : (rowShape.stream db.events k).getLast? = some r) :
    r.streamVersion = (rowShape.stream db.events k).length := by
  have hversions := h.grown.versions k
  have hlast : ((rowShape.stream db.events k).map rowShape.version).getLast? =
      some r.streamVersion := by
    rw [List.getLast?_map, hr]
    rfl
  rw [hversions, List.getLast?_range'] at hlast
  split at hlast
  · cases hlast
  · have := Option.some.inj hlast
    omega

theorem LedgerSound.heads_eq {db : LedgerDb} (h : LedgerSound codec db) (k : Str × Str) :
    db.streamHeads.get? k = (rowShape.stream db.events k).getLast?.map EventRow.asHead := by
  cases hk : db.streamHeads.get? k with
  | none =>
    rw [h.chained.stream_eq_nil hk]
    rfl
  | some head =>
    have hhead := h.chained.heads k head hk
    obtain ⟨r, hr⟩ : ∃ r, (rowShape.stream db.events k).getLast? = some r :=
      ⟨_, List.getLast?_eq_some_getLast (h.occupied k head hk)⟩
    have hmem : r ∈ rowShape.stream db.events k := List.mem_of_getLast? hr
    have hversion := h.chained.last_version hr
    have hsha := hhead.event_sha256
    rw [LogShape.tailDigest, hr] at hsha
    have hid := hhead.event_id
    rw [hr] at hid
    rw [hr, Option.map_some, Option.some.injEq]
    obtain ⟨p, v, i, s⟩ := head
    simp only [EventRow.asHead, StreamHead.mk.injEq]
    exact ⟨(hhead.partition r hmem).symm, hhead.version.trans hversion.symm, hid, hsha⟩

theorem Chained.partition_sha256 {db : LedgerDb} (h : Chained sha db) :
    ∀ r ∈ db.events, r.partitionSha256 = r.partition.sha256 sha := by
  intro r hr
  obtain ⟨head, hhead⟩ := Option.isSome_iff_exists.mp (h.headed r hr)
  have hof := h.heads _ _ hhead
  have hmem : r ∈ rowShape.stream db.events (rowShape.key r) := by simp [LogShape.stream, hr]
  rw [hof.partition r hmem]
  exact hof.partition_sha256

end Heads

section Replays

theorem appendOnce_replay {c : AppendCall sha} {receipt : LedgerAppendReceipt sha} {db : LedgerDb}
    (hcheck : c.request.check = .ok ()) (h : Committed codec c.request receipt db) :
    appendOnce codec c db = .ok ⟨receipt, false⟩ db := by
  obtain ⟨row, hrow, hcommand, hrequest, hreceipt⟩ := h.retained
  refine appendOnce_eq_ok.mpr ⟨hcheck, ?_⟩
  rw [hrow]
  exact replayAppend_eq_ok.mpr ⟨hcommand, hrequest, ⟨receipt, hreceipt, rfl⟩, rfl⟩

theorem events_eq_of_sha256s {used : List (Str × Json)} (h : sha.Separates used)
    {l m : List (CanonicalEvent sha)} (hl : ∀ e ∈ l, (eventDomain, e.toDict) ∈ used)
    (hm : ∀ e ∈ m, (eventDomain, e.toDict) ∈ used) (heq : eventSha256s l = eventSha256s m) :
    l = m := by
  induction l generalizing m with
  | nil =>
    cases m with
    | nil => rfl
    | cons f m => cases heq
  | cons e l ih =>
    cases m with
    | nil => cases heq
    | cons f m =>
      simp only [eventSha256s, List.map_cons, List.cons.injEq] at heq
      have hhead : e = f := CanonicalEvent.eq_of_sha256 h (hl e (by simp)) (hm f (by simp)) heq.1
      have htail : l = m := ih (fun x hx => hl x (List.mem_cons_of_mem _ hx))
        (fun x hx => hm x (List.mem_cons_of_mem _ hx)) heq.2
      rw [hhead, htail]

theorem request_eq_of_sha256 {r r' : LedgerAppendRequest sha}
    (h : sha.Separates (r.digested ++ r'.digested)) (heq : r.requestSha256 = r'.requestSha256) :
    r = r' := by
  have hmem : ∀ x ∈ r.digested, x ∈ r.digested ++ r'.digested :=
    fun _ hx => List.mem_append_left _ hx
  have hmem' : ∀ x ∈ r'.digested, x ∈ r.digested ++ r'.digested :=
    fun _ hx => List.mem_append_right _ hx
  have hdict := (h.domain_inj (hmem _ (by simp [LedgerAppendRequest.digested]))
    (hmem' _ (by simp [LedgerAppendRequest.digested])) heq).2
  simp only [LedgerAppendRequest.toDict, Json.obj.injEq, List.cons.injEq, Prod.mk.injEq, true_and,
    and_true, Json.str.injEq, Json.arr.injEq, jsonInt_inj, json_strings_inj,
    EventActorType.text_injective.eq_iff] at hdict
  obtain ⟨hpartition, hfilter, hprincipal, hclient, hactor, hactorId, hdecision, hstream, hversion,
    hevents, hkey, hcommand⟩ := hdict
  have hpartition := LedgerTenantPartition.toDict_injective
    (h.domain_inj (hmem _ (by simp [LedgerAppendRequest.digested]))
      (hmem' _ (by simp [LedgerAppendRequest.digested])) hpartition).2
  have hfilter := LedgerClassificationFilter.toDict_injective
    (h.domain_inj (hmem _ (by simp [LedgerAppendRequest.digested]))
      (hmem' _ (by simp [LedgerAppendRequest.digested])) hfilter).2
  have hevents := events_eq_of_sha256s h
    (fun e he => hmem _ (List.mem_cons_of_mem _ (List.mem_cons_of_mem _ (List.mem_cons_of_mem _
      (List.mem_map_of_mem he)))))
    (fun e he => hmem' _ (List.mem_cons_of_mem _ (List.mem_cons_of_mem _ (List.mem_cons_of_mem _
      (List.mem_map_of_mem he))))) hevents
  have haccess : r.access = r'.access :=
    LedgerAccessContext.ext hpartition hprincipal hclient hactor hactorId hdecision hfilter
  exact LedgerAppendRequest.ext haccess hstream hversion hevents
    (LedgerIdempotency.ext hkey hcommand)

theorem appendOnce_refused {c c' : AppendCall sha} {receipt : LedgerAppendReceipt sha} {db : LedgerDb}
    (h : Committed codec c.request receipt db)
    (hpartition : c'.access.partition = c.access.partition)
    (hkey : c'.idempotency.idempotencyKeySha256 = c.idempotency.idempotencyKeySha256)
    (hne : c' ≠ c) (hsha : sha.Separates (c'.request.digested ++ c.request.digested)) :
    ∃ e, appendOnce codec c' db = .error e db := by
  obtain ⟨row, hrow, _, hrequest, _⟩ := h.retained
  have hsame : c'.request.idempotencyKey = c.request.idempotencyKey := by
    show (c'.access.partition.sha256 sha, c'.idempotency.idempotencyKeySha256) =
      (c.access.partition.sha256 sha, c.idempotency.idempotencyKeySha256)
    rw [hpartition, hkey]
  cases hrun : appendOnce codec c' db with
  | error e db' =>
    rw [atomic_appendOnce c' db e db' hrun]
    exact ⟨e, rfl⟩
  | ok commit db' =>
    obtain ⟨_, hrun⟩ := appendOnce_eq_ok.mp hrun
    rw [hsame, hrow] at hrun
    obtain ⟨_, hrequest', _⟩ := replayAppend_eq_ok.mp hrun
    have hreq : c'.request = c.request :=
      request_eq_of_sha256 hsha (hrequest'.symm.trans hrequest)
    simp only [AppendCall.request, LedgerAppendRequest.mk.injEq] at hreq
    obtain ⟨haccess, hstream, hversion, hevents, hidempotency⟩ := hreq
    exact absurd (AppendCall.ext haccess hstream hversion hevents hidempotency) hne

end Replays

theorem ledger_append_invariant (codec : LedgerCodec sha) (calls : List (AppendCall sha))
    {db : LedgerDb} (hdb : db = runLedger codec {} calls) :
    db.events.map (·.globalPosition) = List.range' 1 db.events.length ∧
    (∀ r ∈ db.events, r.partitionSha256 = r.partition.sha256 sha) ∧
    (∀ k, (rowShape.stream db.events k).map (·.streamVersion) =
      List.range' 1 (rowShape.stream db.events k).length) ∧
    (∀ k, rowShape.Linked none (rowShape.stream db.events k)) ∧
    (∀ k, db.streamHeads.get? k = (rowShape.stream db.events k).getLast?.map EventRow.asHead) ∧
    (∀ c e db', appendOnce codec c db = .error e db' → db' = db) ∧
    ∀ c commit db₁, appendOnce codec c db = .ok commit db₁ → ∀ later db₂,
      db₂ = runLedger codec db₁ later →
      appendOnce codec c db₂ = .ok ⟨commit.receipt, false⟩ db₂ ∧
      ∀ c', c'.access.partition = c.access.partition →
        c'.idempotency.idempotencyKeySha256 = c.idempotency.idempotencyKeySha256 → c' ≠ c →
        sha.Separates (c'.request.digested ++ c.request.digested) →
        ∃ e, appendOnce codec c' db₂ = .error e db₂ := by
  have hsound : LedgerSound codec db := hdb ▸ (runLedger_sound ledgerSound_empty calls).1
  refine ⟨hsound.chained.grown.positions, hsound.chained.partition_sha256,
    hsound.chained.grown.versions, hsound.chained.grown.linked, hsound.heads_eq,
    fun c => atomic_appendOnce c db, ?_⟩
  rintro c commit db₁ hcommit later db₂ rfl
  obtain ⟨hsound₁, _, hcommitted⟩ := appendOnce_sound hsound hcommit
  have hcommitted := hcommitted.mono (runLedger_sound hsound₁ later).2
  have hcheck := (appendOnce_eq_ok.mp hcommit).1
  exact ⟨appendOnce_replay hcheck hcommitted,
    fun c' hpartition hkey hne hsha => appendOnce_refused hcommitted hpartition hkey hne hsha⟩

section Sample

def checksumText (s : Str) (acc : Nat) : Nat := s.foldl (fun a c => (a * 131 + c.val + 1) % 2 ^ 64) acc

mutual

def checksum : Json → Nat → Nat
  | .null, acc => checksumText [1] acc
  | .bool b, acc => checksumText [if b then 2 else 3] acc
  | .num n, acc => checksumText [4, Fin.ofNat 0x110000 n.scaled.natAbs] acc
  | .str s, acc => checksumText s (checksumText [5] acc)
  | .arr l, acc => checksumItems l (checksumText [6] acc)
  | .obj l, acc => checksumFields l (checksumText [7] acc)

def checksumItems : List Json → Nat → Nat
  | [], acc => acc
  | v :: l, acc => checksumItems l (checksum v acc)

def checksumFields : List (Str × Json) → Nat → Nat
  | [], acc => acc
  | (k, v) :: l, acc => checksumFields l (checksum v (checksumText k acc))

end

theorem isLowerHex_hexDigit {n : Nat} (h : n < 16) : isLowerHex (hexDigit n) = true := by
  have hall : (List.range 16).all (fun i => isLowerHex (hexDigit i)) = true := by decide
  exact List.all_eq_true.mp hall n (List.mem_range.mpr h)

def sampleSha : Sha256 where
  hexdigest d v :=
    (List.range 64).map (fun i => hexDigit (checksum v (checksumText d 0) / 16 ^ i % 16))
  length_hexdigest d v := by simp
  hex_hexdigest d v := by
    simp only [List.all_map, List.all_eq_true]
    intro i _
    exact isLowerHex_hexDigit (Nat.mod_lt _ (by decide))

def sampleDigest (c : Char) : Str := lit "sha256:" ++ List.replicate 64 (cp c)

def samplePartition : LedgerTenantPartition := ⟨lit "org_1", lit "tenant_1", lit "repo_1", lit "env_1"⟩

def sampleAccess : LedgerAccessContext where
  partition := samplePartition
  principalId := lit "principal_1"
  agentClientId := lit "client_1"
  actorType := .service
  actorId := lit "service_1"
  authorizationDecisionId := lit "authorization_1"
  classificationFilter := ⟨[.publicly, .internal, .confidential, .restricted]⟩

def sampleEnvelope (eventId : Str) (version position : Nat) (key : Char) (parent : Option Str)
    (classification : EventClassification) : EventEnvelope where
  eventId := eventId
  eventType := lit "tbm.sample.recorded"
  eventVersion := 1
  eventKind := .domain
  origin := .native
  source := none
  streamId := lit "stream_1"
  streamType := lit "sample"
  streamVersion := version
  globalPosition := position
  organizationId := samplePartition.organizationId
  tenantId := samplePartition.tenantId
  repositoryId := samplePartition.repositoryId
  environmentId := samplePartition.environmentId
  principalId := sampleAccess.principalId
  agentClientId := sampleAccess.agentClientId
  actorType := sampleAccess.actorType
  actorId := sampleAccess.actorId
  authorizationDecisionId := sampleAccess.authorizationDecisionId
  requestId := lit "request_1"
  idempotencyKeySha256 := sampleDigest key
  requestSha256 := sampleDigest 'c'
  correlationId := lit "correlation_1"
  causationId := none
  occurredAt := some (lit "2024-05-01T12:00:00Z")
  recordedAt := lit "2024-05-01T12:00:00Z"
  producer := lit "producer_1"
  producerVersion := lit "1"
  payloadSchema := lit "tbm.sample.v1"
  payloadSha256 := sampleDigest 'd'
  previousStreamEventSha256 := parent
  classification := classification
  retentionPolicyId := lit "retention_1"
  artifactRefs := []
  payload := .obj []

def EventEnvelope.sign (e : EventEnvelope) (sha : Sha256)
    (hv : 1 ≤ e.streamVersion ∧ e.streamVersion ≤ eventMaxVersion)
    (hp : 1 ≤ e.globalPosition ∧ e.globalPosition ≤ eventMaxVersion)
    (hf : e.streamVersion = 1 ↔ e.previousStreamEventSha256 = none) : CanonicalEvent sha :=
  ⟨e, canonicalEventSha256 sha e, rfl, hv, hp, hf⟩

def firstEvent : CanonicalEvent sampleSha :=
  (sampleEnvelope (lit "evt_1") 1 1 'a' none .publicly).sign sampleSha (by decide) (by decide)
    (by decide)

def secondEvent : CanonicalEvent sampleSha :=
  (sampleEnvelope (lit "evt_2") 2 2 'b' (some firstEvent.eventSha256) .restricted).sign sampleSha
    (by decide) (by decide) (by decide)

def rivalEvent : CanonicalEvent sampleSha :=
  (sampleEnvelope (lit "evt_3") 1 1 'a' none .publicly).sign sampleSha (by decide) (by decide)
    (by decide)

def sampleDumps (e : CanonicalEvent sampleSha) : Str := lit "\"" ++ e.eventId ++ lit "\""

def sampleCodec : LedgerCodec sampleSha where
  dumps := sampleDumps
  loads t := demand ([firstEvent, secondEvent, rivalEvent].find? (fun e => decide (sampleDumps e = t)))
    (invalidEvent (lit "canonical event JSON must be an object"))
  artifactDescriptor a := lit "\"" ++ a.artifactId ++ lit "\""
  jsonValid _ := true

def sampleCall (expected : Nat) (e : CanonicalEvent sampleSha) (key : Char) : AppendCall sampleSha :=
  ⟨sampleAccess, lit "stream_1", expected, [e], ⟨sampleDigest key, sampleDigest 'c'⟩⟩

set_option maxRecDepth 20000 in
theorem firstAppend_returns :
    returns (appendOnce sampleCodec (sampleCall 0 firstEvent 'a') {}) = true := by
  decide +kernel

theorem separates_requests {r r' : LedgerAppendRequest sha} (haccess : r.access = r'.access)
    (h : (((requestDomain, r.toDict) :: r.events.map (fun e => (eventDomain, e.toDict)) ++
      r'.digested).map (fun v => sha.hexdigest v.1 v.2)).Nodup) :
    sha.Separates (r.digested ++ r'.digested) := by
  refine Sha256.separates_of_nodup h ?_
  intro v hv
  rcases List.mem_append.mp hv with hv | hv
  · rw [LedgerAppendRequest.digested, haccess] at hv
    rcases List.mem_cons.mp hv with hv | hv
    · exact List.mem_cons.mpr (.inl hv)
    rcases List.mem_cons.mp hv with hv | hv
    · exact List.mem_append_right _ (List.mem_cons_of_mem _ (List.mem_cons.mpr (.inl hv)))
    rcases List.mem_cons.mp hv with hv | hv
    · exact List.mem_append_right _
        (List.mem_cons_of_mem _ (List.mem_cons_of_mem _ (List.mem_cons.mpr (.inl hv))))
    · exact List.mem_cons_of_mem _ (List.mem_append_left _ hv)
  · exact List.mem_append_right _ hv

theorem sampleCall_access (n : Nat) (e : CanonicalEvent sampleSha) (key : Char) :
    (sampleCall n e key).request.access = sampleAccess := rfl

theorem sampleCall_key (n : Nat) (e : CanonicalEvent sampleSha) (key : Char) :
    (sampleCall n e key).idempotency.idempotencyKeySha256 = sampleDigest key := rfl

theorem eventId_of_sampleCall {m n : Nat} {e f : CanonicalEvent sampleSha} {key key' : Char}
    (h : sampleCall m e key = sampleCall n f key') : e.eventId = f.eventId := by
  have hevents := congrArg AppendCall.events h
  simp only [sampleCall, List.cons.injEq, and_true] at hevents
  rw [hevents]

set_option maxRecDepth 20000 in
theorem rival_separated :
    sampleSha.Separates ((sampleCall 0 rivalEvent 'a').request.digested ++
      (sampleCall 0 firstEvent 'a').request.digested) := by
  apply separates_requests
  · rw [sampleCall_access, sampleCall_access]
  · decide +kernel

end Sample

theorem ledger_append_sample :
    ∃ commit db₁ e, appendOnce sampleCodec (sampleCall 0 firstEvent 'a') {} = .ok commit db₁ ∧
      ∀ db₂, db₂ = runLedger sampleCodec db₁ [sampleCall 1 secondEvent 'b'] →
        appendOnce sampleCodec (sampleCall 0 firstEvent 'a') db₂ = .ok ⟨commit.receipt, false⟩ db₂ ∧
        appendOnce sampleCodec (sampleCall 0 rivalEvent 'a') db₂ = .error e db₂ := by
  obtain ⟨commit, db₁, hcommit⟩ := exists_of_returns firstAppend_returns
  have hempty : ({} : LedgerDb) = runLedger sampleCodec {} [] := rfl
  have hinvariant := ledger_append_invariant sampleCodec [] hempty
  have hreplay := hinvariant.2.2.2.2.2.2 _ commit db₁ hcommit
    [sampleCall 1 secondEvent 'b'] _ rfl
  have hpartition : (sampleCall 0 rivalEvent 'a').access.partition =
      (sampleCall 0 firstEvent 'a').access.partition :=
    (congrArg _ (sampleCall_access 0 rivalEvent 'a')).trans
      (congrArg _ (sampleCall_access 0 firstEvent 'a').symm)
  have hkey := (sampleCall_key 0 rivalEvent 'a').trans (sampleCall_key 0 firstEvent 'a').symm
  have hne : sampleCall 0 rivalEvent 'a' ≠ sampleCall 0 firstEvent 'a' :=
    fun h => absurd (eventId_of_sampleCall h) (by decide +kernel)
  obtain ⟨e, he⟩ := hreplay.2 (sampleCall 0 rivalEvent 'a') hpartition hkey hne rival_separated
  refine ⟨commit, db₁, e, hcommit, ?_⟩
  rintro db₂ rfl
  exact ⟨hreplay.1, he⟩

end TraceBackedMemory
