import TraceBackedMemory.Git.Validation

namespace TraceBackedMemory

open Text Raising Projection

open GateEvents (keysAre)

open Json (valueAt Fields)

namespace GitGraph

variable {sha : Sha256}

section Reading

variable {fields : Fields} {name : String}

theorem optionalText_accepts {accepts : Str → Bool} {o : Option Str}
    (h : optionalText accepts fields name = .ok o) : ∀ v ∈ o, accepts v = true := by
  unfold optionalText at h
  split at h
  · cases h
    simp
  · simp only [bind_eq_ok, exists_unit, raiseIf_eq_ok, Bool.not_eq_false, pure_eq_ok] at h
    obtain ⟨haccepts, rfl⟩ := h
    simpa using haccepts
  · cases h

theorem requiredText_eq_ok {accepts : Str → Bool} {value : Str} :
    requiredText accepts fields name = .ok value ↔
      valueAt fields (lit name) = .str value ∧ accepts value = true := by
  unfold requiredText
  split
  · rename_i text htext
    simp only [bind_eq_ok, exists_unit, raiseIf_eq_ok, Bool.not_eq_false, pure_eq_ok, htext,
      Json.str.injEq]
    constructor
    · rintro ⟨haccepts, rfl⟩
      exact ⟨rfl, haccepts⟩
    · rintro ⟨rfl, haccepts⟩
      exact ⟨haccepts, rfl⟩
  · rename_i hother
    simp only [reduceCtorEq, false_iff, not_and]
    intro htext
    exact absurd htext (hother value)

theorem collect_boundaryCommit {items : List Json} {boundaries : List Str}
    (h : collect boundaryCommit items = .ok boundaries) :
    boundaries.length = items.length ∧ ∀ v ∈ boundaries, isCommitSha v = true := by
  induction items generalizing boundaries with
  | nil =>
    cases h
    exact ⟨rfl, List.forall_mem_nil _⟩
  | cons item items ih =>
    simp only [collect, bind_eq_ok, pure_eq_ok] at h
    obtain ⟨value, hvalue, rest, hrest, rfl⟩ := h
    obtain ⟨hlength, hshas⟩ := ih hrest
    refine ⟨by rw [List.length_cons, List.length_cons, hlength], List.forall_mem_cons.mpr ⟨?_, hshas⟩⟩
    unfold boundaryCommit at hvalue
    split at hvalue
    · simp only [bind_eq_ok, exists_unit, raiseIf_eq_ok, Bool.not_eq_false, pure_eq_ok] at hvalue
      obtain ⟨hsha, rfl⟩ := hvalue
      exact hsha
    · cases hvalue

theorem strictlySorted_of_nodup {l : List Str} (h : l.Nodup) : (sortedStrs l).Pairwise (· < ·) := by
  have hsorted : (sortedStrs l).Pairwise (· ≤ ·) := List.pairwise_insertionSort (· ≤ ·) l
  have hnodup : (sortedStrs l).Nodup := (List.perm_insertionSort (· ≤ ·) l).nodup_iff.mpr h
  exact (hsorted.and hnodup).imp fun hab => lt_of_le_of_ne hab.1 hab.2

end Reading

section Details

structure DetailsKept (d : GitObservationDetails) : Prop where
  commit : ∀ v ∈ d.commitSha, isCommitSha v = true
  base : ∀ v ∈ d.baseCommitSha, isCommitSha v = true
  ancestor : ∀ v ∈ d.ancestorSha, isCommitSha v = true
  descendant : ∀ v ∈ d.descendantSha, isCommitSha v = true
  object : ∀ v ∈ d.objectSha, isCommitSha v = true
  ref : ∀ v ∈ d.refName, isGitRefName v = true
  remote : ∀ v ∈ d.remoteSha256, validDigest v = true
  artifact : ∀ v ∈ d.diffArtifactId, isArtifactId v = true
  bounded : d.boundaryCommitShas.length ≤ maxBoundaryCommits
  boundaries : ∀ v ∈ d.boundaryCommitShas, isCommitSha v = true
  sorted : d.boundaryCommitShas.Pairwise (· < ·)
  shape : verifyShape d = .ok ()

theorem parseDetails_kept {kind : ObservationKind} {value : Json} {d : GitObservationDetails}
    (h : parseDetails kind value = .ok d) : d.observationKind = kind ∧ DetailsKept d := by
  simp only [parseDetails, readDetails, bind_eq_ok, exists_unit, raiseIf_eq_ok, pure_eq_ok] at h
  obtain ⟨fields, -, -, details, ⟨items, -, commit, hcommit, base, hbase, ancestor, hancestor, descendant,
    hdescendant, object, hobject, ref, href, remote, hremote, artifact, hartifact, detached, -, dirty, -,
    shallow, -, relation, -, objectType, -, availability, -, reason, -, hbound, boundaries, hboundaries,
    hnodup, rfl⟩, hshape, rfl⟩ := h
  obtain ⟨hlength, hshas⟩ := collect_boundaryCommit hboundaries
  refine ⟨rfl, optionalText_accepts hcommit, optionalText_accepts hbase, optionalText_accepts hancestor,
    optionalText_accepts hdescendant, optionalText_accepts hobject, optionalText_accepts href,
    optionalText_accepts hremote, optionalText_accepts hartifact, ?_, ?_,
    strictlySorted_of_nodup (not_not.mp hnodup), hshape⟩
  · have hsorted : (sortedStrs boundaries).length = boundaries.length :=
      (List.perm_insertionSort _ _).length_eq
    rw [hsorted, hlength]
    exact Nat.not_lt.mp hbound
  · intro v hv
    exact hshas v ((List.perm_insertionSort _ _).mem_iff.mp hv)

end Details

section Records

structure Observed (sha : Sha256) (e : EventEnvelope) (r : GitObservationRecordRef) : Prop where
  kind : kindByEventType e.eventType = some r.details.observationKind
  source : e.source = some r.source
  details : DetailsKept r.details
  identifiers : ∀ v ∈ [r.authorizationEventId, r.traceId, r.runId, r.checkoutAlias],
    isBoundedIdentifier v = true
  repository : r.repositoryId = e.repositoryId ∧ isBoundedIdentifier r.repositoryId = true
  sequence : r.sequence = e.streamVersion ∧ 1 ≤ r.sequence ∧ r.sequence ≤ maxSequence
  occurred : canonicalTime r.occurredAt = true
  observed : canonicalTime r.source.observedAt = true
  stream : e.streamId = gitObservationStreamId sha e r
  eventId : e.eventId = gitObservationEventId sha e (gitObservationStreamId sha e r) r.sequence

theorem canonicalTimestamp_eq_ok {value name canonical : Str} :
    canonicalTimestamp value name = .ok canonical ↔ canonicalRfc3339 value = .ok canonical := by
  unfold canonicalTimestamp
  split <;> simp_all

theorem readOccurredAt_eq_ok {fields : Fields} {source : EventSource} {occurredAt : Str}
    (h : readOccurredAt fields source = .ok occurredAt) :
    canonicalTime occurredAt = true ∧ canonicalTime source.observedAt = true := by
  simp only [readOccurredAt, bind_eq_ok, exists_unit, raiseIf_eq_ok, pure_eq_ok,
    canonicalTimestamp_eq_ok, ne_eq, not_not] at h
  obtain ⟨text, -, occurred, hoccurred, observed, hobserved, heq, hsame, rfl⟩ := h
  rw [← heq] at hoccurred
  rw [← hsame] at hobserved
  exact ⟨decide_eq_true hoccurred, decide_eq_true hobserved⟩

theorem readSequence_eq_ok {fields : Fields} {n : Nat} (h : readSequence fields = .ok n) :
    valueAt fields (lit "sequence") = jsonInt n ∧ 1 ≤ n ∧ n ≤ maxSequence := by
  unfold readSequence at h
  split at h
  · rename_i m hm
    simp only [bind_eq_ok, exists_unit, raiseIf_eq_ok, not_not, pure_eq_ok] at h
    obtain ⟨hbounds, rfl⟩ := h
    have hcast : ((m.toNat : Nat) : Int) = m := Int.toNat_of_nonneg (by omega)
    refine ⟨?_, by omega, by omega⟩
    rw [hm, jsonInt, hcast]
  · cases h

theorem eq_of_pyEq_int {m n : Nat} (h : (jsonInt m).pyEq (jsonInt n) = true) : m = n := by
  have hscaled : (Number.int m).scaled = (Number.int n).scaled := by
    simpa [jsonInt, Json.pyEq, Json.number?, Number.eq, Number.isNan, Number.infinity] using h
  have hpositive : (2 ^ 1074 : Int) ≠ 0 := pow_ne_zero _ (by decide)
  exact Int.ofNat.inj (Int.eq_of_mul_eq_mul_right hpositive hscaled)

theorem eq_of_pyEq_str {s t : Str} (h : (Json.str s).pyEq (.str t) = true) : s = t := by
  rw [Json.pyEq] at h
  exact of_decide_eq_true h

theorem observed_of_parse {e : EventEnvelope} {r : GitObservationRecordRef}
    (h : parseGitObservation sha e = .ok r) : Observed sha e r := by
  simp only [parseGitObservation, readRecord, verifyDeterministicEnvelope, bind_eq_ok, exists_unit,
    demand_eq_ok, raiseIf_eq_ok, pure_eq_ok, requiredText_eq_ok, not_exists, not_and, Bool.not_eq_false,
    not_or, ne_eq, not_not, Prod.exists] at h
  obtain ⟨kind, hkind, -, source, hsource, occurredAt, -, fields, -, -, hlinkage, details, hdetails, record,
    ⟨traceId, ⟨-, htrace⟩, runId, ⟨-, hrun⟩, repositoryId, ⟨hrepository, hrepositoryId⟩, checkoutAlias,
      ⟨-, halias⟩, authorization, ⟨-, hauthorization⟩, -, runner, -, algorithm, -, gitVersion, -,
      runnerVersion, -, algorithmVersion, -, sequence, hsequence, causation, -, occurred, hoccurred, -, rfl⟩,
    first, size, -, ⟨hstream, heventId, -⟩, -, rfl⟩ := h
  obtain ⟨rfl, hkept⟩ := parseDetails_kept hdetails
  obtain ⟨hvalue, hpositive, hbound⟩ := readSequence_eq_ok hsequence
  obtain ⟨hoccurred, hobserved⟩ := readOccurredAt_eq_ok hoccurred
  have hversion := hlinkage (lit "sequence") _ (List.mem_of_getElem? (i := 2) rfl)
  have hsame := hlinkage (lit "repository_id") _ (List.mem_of_getElem? (i := 4) rfl)
  rw [hvalue] at hversion
  rw [hrepository] at hsame
  refine ⟨hkind, hsource, hkept, ?_, ⟨eq_of_pyEq_str hsame, hrepositoryId⟩,
    ⟨eq_of_pyEq_int hversion, hpositive, hbound⟩, hoccurred, hobserved, hstream, heventId⟩
  simp only [List.forall_mem_cons, List.not_mem_nil, false_implies, implies_true, and_true]
  exact ⟨hauthorization, htrace, hrun, halias⟩

end Records

section Identifiers

theorem identifierRest_of_hex {c : CodePoint} (h : isLowerHex c = true) : identifierStart c = true := by
  simp only [isLowerHex, decide_eq_true_eq, identifierStart] at h ⊢
  omega

theorem isBoundedIdentifier_append {start : Str} {rest : Str} (hstart : isBoundedIdentifier start = true)
    (hrest : rest.all isLowerHex = true) (hlength : (start ++ rest).length ≤ 128) :
    isBoundedIdentifier (start ++ rest) = true := by
  cases start with
  | nil => cases hstart
  | cons c l =>
    simp only [isBoundedIdentifier, List.cons_append, Bool.and_eq_true, decide_eq_true_eq,
      List.all_append, List.all_eq_true, List.length_cons] at hstart hlength ⊢
    refine ⟨⟨hstart.1.1, hstart.1.2, fun d hd => ?_⟩, by omega⟩
    rw [identifierRest, identifierRest_of_hex (List.all_eq_true.mp hrest d hd), Bool.true_or]

theorem removeTag_domain (d : Str) (value : Json) :
    GateEvents.removeTag (sha.domain d value) = sha.hexdigest d value := by
  have hlength : (lit "sha256:").length = 7 := by decide
  exact List.drop_left' hlength

theorem isBoundedIdentifier_stream (e : EventEnvelope) (r : GitObservationRecordRef) :
    isBoundedIdentifier (gitObservationStreamId sha e r) = true := by
  have hlength : (lit "git_observation_").length = 16 := by decide
  rw [gitObservationStreamId, removeTag_domain]
  refine isBoundedIdentifier_append (by decide) (List.all_eq_true.mpr fun c hc => ?_) ?_
  · exact List.all_eq_true.mp (sha.hex_hexdigest _ _) c (List.mem_of_mem_take hc)
  · rw [List.length_append, hlength, List.length_take]
    omega

theorem isEventId_event (e : EventEnvelope) (streamId : Str) (sequence : Nat) :
    isEventId (gitObservationEventId sha e streamId sequence) = true := by
  have hprefix : lit "evt_git_" = lit "evt_" ++ lit "git_" := by decide
  have hfour : (lit "evt_").length = 4 ∧ (lit "git_").length = 4 := by decide
  have hlength := sha.length_hexdigest (lit "tbm.git-observation-event-identity.v1\x00")
    (.obj (partitionFields e ++ [(lit "stream_id", .str streamId), (lit "sequence", jsonInt sequence)]))
  rw [gitObservationEventId, removeTag_domain, hprefix, List.append_assoc, isEventId, Bool.and_eq_true,
    Bool.and_eq_true, decide_eq_true_eq, List.drop_left' hfour.1]
  refine ⟨⟨?_, ?_⟩, ?_⟩
  · rw [List.isPrefixOf_iff_prefix]
    exact List.prefix_append _ _
  · refine isBoundedIdentifier_append (by decide) (sha.hex_hexdigest _ _) ?_
    rw [List.length_append, hfour.2, hlength]
    decide
  · rw [List.length_append, List.length_append, hfour.1, hfour.2, hlength]
    decide

end Identifiers

section Origins

-- What the projection asks of an event beyond its own contract, which lets these be any bounded text.
structure Plain (e : EventEnvelope) : Prop where
  envelope : ∀ v ∈ [e.organizationId, e.tenantId, e.environmentId, e.principalId, e.agentClientId,
    e.actorId], isBoundedIdentifier v = true
  source : ∀ s, e.source = some s →
    isBoundedIdentifier s.sourceSystem = true ∧ isBoundedIdentifier s.sourceRecordId = true

variable {e : CanonicalEvent sha} {r : GitObservationRecordRef}

theorem provenance_kept (h : Observed sha e.toEventEnvelope r)
    (hrecorded : canonicalTime e.recordedAt = true) (hplain : Plain e.toEventEnvelope) :
    ProvenanceKept e.globalPosition (provenance e r) := by
  have henvelope := hplain.envelope
  have hidentifiers := h.identifiers
  obtain ⟨hsystem, hrecord⟩ := hplain.source r.source h.source
  simp only [List.forall_mem_cons, List.not_mem_nil, false_implies, implies_true,
    and_true] at henvelope hidentifiers
  obtain ⟨-, -, -, hprincipal, hclient, hactor⟩ := henvelope
  obtain ⟨hauthorization, htrace, hrun, halias⟩ := hidentifiers
  have hstream : isBoundedIdentifier e.streamId = true := by
    rw [h.stream]
    exact isBoundedIdentifier_stream _ _
  refine ⟨?_, ?_, ?_, ?_, ⟨e.position_bounds.1, le_refl _⟩, ?_⟩
  · show isEventId e.eventId = true
    rw [h.eventId]
    exact isEventId_event _ _ _
  · show validDigest e.eventSha256 = true
    rw [e.signed]
    exact sha.validDigest_domain _ _
  · simp only [Provenance.identifiers, provenance, List.forall_mem_cons, List.not_mem_nil, false_implies,
      implies_true, and_true]
    exact ⟨hstream, hsystem, hrecord, hauthorization, hprincipal, hclient, hactor, htrace, hrun, halias⟩
  · show 1 ≤ e.streamVersion ∧ e.streamVersion ≤ maxSequence
    rw [← h.sequence.1]
    exact h.sequence.2
  · simp only [provenance, List.forall_mem_cons, List.not_mem_nil, false_implies, implies_true, and_true]
    exact ⟨h.occurred, hrecorded, h.observed⟩

theorem plain_of_kept (h : Observed sha e.toEventEnvelope r) {last : Nat}
    (hkept : ProvenanceKept last (provenance e r))
    (hscope : ∀ f ∈ (scopeOf e.toEventEnvelope).texts, isBoundedIdentifier f.2 = true) :
    Plain e.toEventEnvelope := by
  have hidentifiers := hkept.identifiers
  simp only [Provenance.identifiers, provenance, Scope.texts, scopeOf, List.forall_mem_cons,
    List.not_mem_nil, false_implies, implies_true, and_true] at hidentifiers hscope
  obtain ⟨-, hsystem, hrecord, -, hprincipal, hclient, hactor, -⟩ := hidentifiers
  obtain ⟨henvironment, horganization, -, htenant⟩ := hscope
  constructor
  · simp only [List.forall_mem_cons, List.not_mem_nil, false_implies, implies_true, and_true]
    exact ⟨horganization, htenant, henvironment, hprincipal, hclient, hactor⟩
  · intro s hs
    obtain rfl : r.source = s := Option.some.inj (h.source.symm.trans hs)
    exact ⟨hsystem, hrecord⟩

theorem scope_texts (h : Observed sha e.toEventEnvelope r) (hplain : Plain e.toEventEnvelope) :
    ∀ f ∈ (scopeOf e.toEventEnvelope).texts, isBoundedIdentifier f.2 = true := by
  have henvelope := hplain.envelope
  simp only [List.forall_mem_cons, List.not_mem_nil, false_implies, implies_true, and_true] at henvelope
  obtain ⟨horganization, htenant, henvironment, -⟩ := henvelope
  have hrepository : isBoundedIdentifier e.repositoryId = true := by
    rw [← h.repository.1]
    exact h.repository.2
  simp only [Scope.texts, scopeOf, List.forall_mem_cons, List.not_mem_nil, false_implies, implies_true,
    and_true]
  exact ⟨henvironment, horganization, hrepository, htenant⟩

end Origins

end GitGraph

end TraceBackedMemory
