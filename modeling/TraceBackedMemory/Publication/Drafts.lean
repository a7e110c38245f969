import TraceBackedMemory.Publication.Granting

namespace TraceBackedMemory

open Text Raising OrderBy Json Replay

namespace Publication

open EventContract (TextHash)

open Migration (AuthorizationScope MemoryScopeKind keyed sound sound_lit Names names_of_good sortedStrings nullable jsonStrings)

open SemanticGate (taggedHex isRevisionId)

open Authorization (portable_nullable portable_record portable_scope encodes_of_portable)

section Portability

theorem utf8_of_replay {limit : Nat} {value name : Str} (h : Replay.required limit value name = .ok ()) :
    utf8 value = true := by
  simp only [Replay.required, bind_eq_ok, exists_unit, raiseIf_eq_ok] at h
  exact Option.isSome_iff_ne_none.mpr h.2

def artifactNames : List Str :=
  [lit "artifact_id", lit "content_sha256", lit "size_bytes", lit "media_type", lit "classification", lit "created_at",
    lit "encryption_key_id", lit "redaction_policy_id"]

theorem artifactId_ascii {digest : Str} (h : validDigest digest = true) : utf8 (artifactIdFromSha256 digest) = true := by
  have hdigest := Migration.ascii_of_digest h
  refine Migration.utf8_append.mpr ⟨by rfl, Migration.Ascii.utf8 fun c hc => hdigest c (List.mem_of_mem_drop hc)⟩

theorem portable_artifact (a : ContentAddressedArtifact) : Portable 1 (.obj (artifactEntries a)) := by
  have hchecked := a.checked
  have hoptional {value : Option Str} {name : Str}
      (h : value.elim (.ok ()) (fun v => Replay.requiredIdentifier v name) = .ok ()) : ∀ v ∈ value, utf8 v = true := by
    rintro v rfl
    exact utf8_of_replay h
  simp only [ArtifactFields.check, replayDigest, bind_eq_ok, exists_unit, raiseIf_eq_ok, Bool.not_eq_false, not_lt]
    at hchecked
  obtain ⟨hdigest, hsize, hmedia, hkey, hpolicy, -⟩ := hchecked
  have hlegible : (decimal a.sizeBytes).length ≤ 20 :=
    (length_decimal_le_iff (by decide)).mpr (hsize.trans_lt (by decide))
  refine portable_record (@names_of_good _ artifactNames (by decide) rfl) rfl ?_
  simp only [artifactEntries, List.map_cons, List.map_nil, List.forall_mem_cons, List.not_mem_nil, false_implies,
    implies_true, and_true]
  exact ⟨portable_str (artifactId_ascii hdigest), portable_str (utf8_of_validDigest hdigest),
    portable_num (decide_eq_true (hlegible.trans (by decide))) rfl, portable_str (utf8_of_replay hmedia),
    portable_str (by cases a.classification <;> rfl), portable_str (utf8_of_time _), portable_nullable (hoptional hkey),
    portable_nullable (hoptional hpolicy)⟩

def revisionNames : List Str :=
  [lit "contract_version", lit "memory_id", lit "memory_kind", lit "revision_number", lit "previous_revision_id",
    lit "memory_type", lit "content_artifact", lit "scope", lit "confidence", lit "sensitive", lit "eval_leaking",
    lit "source_case_id", lit "source_case_revision_id", lit "fix_evidence_id", lit "regression_evidence_ids",
    lit "proposed_by", lit "proposed_via_client_id", lit "proposed_at", lit "proposal_attestation_sha256"]

-- what the constructor asks of a revision, its identity apart
structure DraftFields (r : MemoryRevision) : Prop where
  scope : r.scope.check = .ok ()
  memoryId : sound memoryIdMaxChars r.memoryId = true
  lineage : revisionLineageShape r.revisionNumber r.previousRevisionId = .ok ()
  number : (decimal r.revisionNumber).length ≤ 20
  memoryType : ¬(r.memoryKind = .projectPolicy ∧ r.memoryType ≠ .policy)
  confidence : checkConfidence r.confidence = .ok ()
  sensitive : ¬(r.sensitive = true ∧ sensitiveClass r.contentArtifact.classification = false)
  classified : ¬(r.sensitive = false ∧ sensitiveClass r.contentArtifact.classification = true)
  evidenceIds : checkEvidenceIds r.regressionEvidenceIds = .ok ()
  references : r.checkReferences = .ok ()
  proposedBy : sound memoryIdMaxChars r.proposedBy = true
  client : sound memoryIdMaxChars r.proposedViaClientId = true
  attestation : validDigest r.proposalAttestationSha256 = true
  created : ¬r.proposedAt.instant < r.contentArtifact.createdAt.instant

theorem utf8_of_reference {value : Option Str} {name : Str} (h : requiredReference value name = .ok ()) :
    ∀ v ∈ value, utf8 v = true := by
  rintro v rfl
  exact utf8_of_sound (revisionIdentifier_eq_ok.mp h)

theorem DraftFields.referenced {r : MemoryRevision} (h : DraftFields r) :
    (∀ v ∈ r.sourceCaseId, utf8 v = true) ∧ (∀ v ∈ r.sourceCaseRevisionId, utf8 v = true) ∧
      ∀ v ∈ r.fixEvidenceId, utf8 v = true := by
  have habsent {o : Option Str} (ho : o = none) : ∀ v ∈ o, utf8 v = true :=
    fun v hv => absurd (ho ▸ hv) (Option.not_mem_none v)
  have hreferences := h.references
  unfold MemoryRevision.checkReferences at hreferences
  split at hreferences
  · simp only [bind_eq_ok, exists_unit] at hreferences
    obtain ⟨hcase, hrevision, hfix, -⟩ := hreferences
    exact ⟨utf8_of_reference hcase, utf8_of_reference hrevision, utf8_of_reference hfix⟩
  · simp only [bind_eq_ok, exists_unit, raiseIf_eq_ok, not_or, not_not] at hreferences
    obtain ⟨-, hcase, hrevision, hfix⟩ := hreferences
    exact ⟨habsent hcase, habsent hrevision, habsent hfix⟩

theorem DraftFields.portable {r : MemoryRevision} (h : DraftFields r) : Portable 3 (.obj r.unsigned) := by
  obtain ⟨hcase, hrevision, hfix⟩ := h.referenced
  have hevidence := h.evidenceIds
  simp only [checkEvidenceIds, bind_eq_ok, exists_unit, raiseIf_eq_ok, not_exists, not_and, Bool.not_eq_false] at hevidence
  have hconfidence := h.confidence
  simp only [checkConfidence, raiseIf_eq_ok, not_or, Bool.not_eq_false] at hconfidence
  refine portable_record (@names_of_good _ revisionNames (by decide) rfl) rfl ?_
  simp only [MemoryRevision.unsigned, List.map_cons, List.map_nil, List.forall_mem_cons, List.not_mem_nil, false_implies,
    implies_true, and_true]
  exact ⟨portable_str (by rfl), portable_str (utf8_of_sound h.memoryId), portable_str (by cases r.memoryKind <;> rfl),
    portable_num (decide_eq_true (h.number.trans (by decide))) rfl, portable_nullable (utf8_of_lineage h.lineage),
    portable_str (by cases r.memoryType <;> rfl), (portable_artifact _).mono (by decide), portable_scope h.scope,
    portable_num hconfidence.1 hconfidence.1, portable_bool _, portable_bool _, portable_nullable hcase,
    portable_nullable hrevision, portable_nullable hfix,
    portable_strings fun id hid => @utf8_of_taggedHex "regression_sha256_" _ (by rfl) (hevidence.2.1 id hid),
    portable_str (utf8_of_sound h.proposedBy), portable_str (utf8_of_sound h.client), portable_str (utf8_of_time _),
    portable_str (utf8_of_validDigest h.attestation)⟩

end Portability

section Naming

variable {hash : TextHash} {codec : FloatCodec}

theorem checkLineage_of_shape {r : MemoryRevision} (h : revisionLineageShape r.revisionNumber r.previousRevisionId = .ok ())
    (hself : r.previousRevisionId ≠ some r.revisionId) : r.checkLineage = .ok () := by
  simp only [revisionLineageShape, bind_eq_ok, exists_unit, raiseIf_eq_ok, not_lt] at h
  simp only [MemoryRevision.checkLineage, bind_eq_ok, exists_unit, raiseIf_eq_ok, not_lt]
  refine ⟨h.1, ?_⟩
  split
  · rename_i hone
    rw [if_pos hone, raiseIf_eq_ok] at h
    exact raiseIf_of_not h.2
  · rename_i hone
    rw [if_neg hone, derivedForm_eq_ok] at h
    obtain ⟨id, hid, htagged⟩ := (Option.any_eq_true _ _).mp h.2
    simp only [bind_eq_ok, exists_unit, raiseIf_eq_ok, not_or]
    rw [hid] at hself ⊢
    exact ⟨⟨by rw [Option.all_some, htagged]; decide, Option.some_ne_none _⟩, hself⟩

-- a draft and its name make a revision that its constructor takes
theorem DraftFields.check {r : MemoryRevision} (h : DraftFields r)
    (hid : r.memoryRevisionId hash codec = .ok r.revisionId) (hself : r.previousRevisionId ≠ some r.revisionId) :
    r.check hash codec = .ok () := by
  have htagged : isRevisionId r.revisionId = true := by
    obtain ⟨id, hsame, htagged⟩ := @derivedId_total hash codec _ (encodes_of_portable h.portable) "memory_revision_sha256_"
    obtain rfl := Except.ok.inj (hid.symm.trans hsame)
    exact htagged
  have hattestation : taggedDigest revisionInvalid r.proposalAttestationSha256 (lit "proposal_attestation_sha256") = .ok () :=
    raiseIf_of_not (by rw [h.attestation]; decide)
  simp only [MemoryRevision.check, bind_eq_ok, exists_unit, raiseIf_eq_ok, revisionIdentifier_eq_ok, Bool.not_eq_false,
    not_not]
  exact ⟨h.scope, htagged, h.memoryId, checkLineage_of_shape h.lineage hself, h.memoryType, h.confidence, h.sensitive,
    h.classified, h.evidenceIds, h.references, h.proposedBy, h.client, hattestation, h.created, _, hid, rfl⟩

theorem DraftFields.named {r : MemoryRevision} (h : DraftFields r) :
    ∃ id, r.memoryRevisionId hash codec = .ok id ∧ isRevisionId id = true :=
  derivedId_total (encodes_of_portable h.portable) "memory_revision_sha256_"

end Naming

section Sizes

variable {floatText : Double → Str} {codec : FloatCodec}

theorem fits_of_slim {v : Json} {n : Nat} (h : Migration.Encodes v) (hs : Slim codec.repr n v) (hn : n ≤ 262144) :
    fits (canonicalText codec.repr v) = true := by
  have hclean : (encodedBytes (canonicalText codec.repr v)).isSome = true :=
    Projection.encodedBytes_isSome.mpr (EventContract.canonicalText_clean h.1 h.2)
  obtain ⟨bytes, hbytes⟩ := Option.isSome_iff_exists.mp hclean
  rw [fits, hbytes]
  refine decide_eq_true ?_
  have hsum := sum_utf8Length_le (canonicalText codec.repr v)
  rw [encodedBytes] at hbytes
  split at hbytes
  · cases hbytes
  · obtain rfl := Option.some.inj hbytes
    have hlength : (canonicalText codec.repr v).length ≤ n := hs
    have hmax : descriptorMaxBytes = 1048576 := rfl
    omega

theorem slim_short {s : Str} (h : s.length ≤ 128) : Slim floatText 770 (.str s) := slim_str h

theorem slim_absent {o : Option Str} (h : ∀ s ∈ o, s.length ≤ 128) : Slim floatText 770 (nullable o) := by
  cases o with
  | none => exact slim_null.mono (by decide)
  | some s => exact slim_short (h s rfl)

theorem slim_count {n : Nat} (h : (decimal n).length ≤ 20) : Slim floatText 770 (.num (.int n)) := by
  have htext : canonicalText floatText (.num (.int n)) = decimal n := by
    rw [canonicalText, decimalInt, if_neg (by omega), Int.natAbs_natCast]
  rw [Slim, htext]
  omega

theorem slim_record {fields : Fields} {names : List Str} {values : List Json} {n : Nat}
    (hkeys : fields.map Prod.fst = names) (hshort : ∀ k ∈ names, k.length ≤ 40) (hvalues : fields.map Prod.snd = values)
    (h : ∀ v ∈ values, Slim floatText n v) : Slim floatText (names.length * (244 + n) + 2) (.obj fields) := by
  have hslim : Slim floatText (fields.length * (40 * 6 + n + 4) + 2) (.obj fields) :=
    slim_obj (fun f hf => hshort f.1 (hkeys ▸ List.mem_map_of_mem hf))
      fun f hf => h f.2 (hvalues ▸ List.mem_map_of_mem hf)
  refine hslim.mono ?_
  rw [← hkeys, List.length_map]
  exact Nat.add_le_add_right (Nat.mul_le_mul_left _ (by omega)) 2

end Sizes

section Policies

variable (hash : TextHash) (bytes : ContentHash) (codec : FloatCodec) (tenant memory : Str)

theorem validDigest_content (content : List UInt8) : validDigest (bytes.digest content) = true := by
  have hlength : (lit "sha256:").length = 7 := by decide
  have hdrop : (bytes.digest content).drop 7 = bytes.hexdigest content := List.drop_left' hlength
  simp only [validDigest, Bool.and_eq_true, decide_eq_true_eq, hdrop]
  refine ⟨⟨?_, List.isPrefixOf_iff_prefix.mpr (List.prefix_append _ _)⟩, bytes.hex_hexdigest content⟩
  rw [ContentHash.digest, List.length_append, hlength, bytes.length_hexdigest]

def plainArtifact : ContentAddressedArtifact where
  contentSha256 := bytes.digest []
  sizeBytes := 0
  mediaType := lit "text/plain"
  classification := .internal
  createdAt := sampleTime
  checked := by
    have hmedia : Replay.requiredMetadata (lit "text/plain") (lit "media_type") = .ok () := by decide
    simp only [ArtifactFields.check, replayDigest, bind_eq_ok, exists_unit, raiseIf_eq_ok, Bool.not_eq_false]
    exact ⟨validDigest_content bytes [], by decide, hmedia, rfl, rfl, by decide⟩

-- a project policy of one tenant, over an empty text
def policyDraft (number : Nat) (previous : Option Str) : MemoryRevision where
  revisionId := []
  memoryId := memory
  memoryKind := .projectPolicy
  revisionNumber := number
  previousRevisionId := previous
  memoryType := .policy
  contentArtifact := plainArtifact bytes
  scope := ⟨.tenant, some tenant, none, []⟩
  confidence := Double.one
  sensitive := false
  evalLeaking := false
  sourceCaseId := none
  sourceCaseRevisionId := none
  fixEvidenceId := none
  regressionEvidenceIds := []
  proposedBy := lit "author"
  proposedViaClientId := lit "client"
  proposedAt := sampleTime
  proposalAttestationSha256 := sampleDigest 'a'

variable {hash bytes codec tenant memory} {number : Nat} {previous : Option Str}

theorem tenantScope_check (h : sound memoryIdMaxChars tenant = true) :
    (⟨.tenant, some tenant, none, []⟩ : AuthorizationScope).check = .ok () := by
  simp only [AuthorizationScope.check, bind_eq_ok, exists_unit]
  exact ⟨Migration.required_eq_ok.mpr h, rfl, rfl, rfl, rfl, rfl⟩

theorem checkConfidence_one : checkConfidence Double.one = .ok () := by
  have hfinite : Double.one.isFinite = true := by decide
  have hpositive : ¬Double.one.scaled < 0 := by decide +kernel
  refine raiseIf_of_not ?_
  rw [hfinite]
  simp only [Bool.true_eq_false, false_or, not_or]
  exact ⟨hpositive, lt_irrefl _⟩

theorem policyDraft_fields (htenant : sound memoryIdMaxChars tenant = true) (hmemory : sound memoryIdMaxChars memory = true)
    (hlineage : revisionLineageShape number previous = .ok ()) (hnumber : (decimal number).length ≤ 20) :
    DraftFields (policyDraft bytes tenant memory number previous) where
  scope := tenantScope_check htenant
  memoryId := hmemory
  lineage := hlineage
  number := hnumber
  memoryType := by rintro ⟨-, h⟩; exact h rfl
  confidence := checkConfidence_one
  sensitive := by rintro ⟨h, -⟩; cases h
  classified := by rintro ⟨-, h⟩; cases h
  evidenceIds := rfl
  references := rfl
  proposedBy := sound_lit rfl
  client := sound_lit rfl
  attestation := show validDigest (sampleDigest 'a') = true by decide
  created := lt_irrefl _

theorem validDigest_sample : validDigest (sampleDigest 'a') = true := by decide

theorem short_lit {l : List Char} {n : Nat} (h : l.length ≤ n) : (lit (String.ofList l)).length ≤ n := by
  rw [lit_eq_map, List.length_map, String.toList_ofList]
  exact h

theorem artifactNames_short : ∀ k ∈ artifactNames, k.length ≤ 40 := by
  simp only [artifactNames, List.forall_mem_cons]
  and_intros <;> first | exact short_lit (by decide) | exact List.forall_mem_nil _

theorem revisionNames_short : ∀ k ∈ revisionNames ++ [lit "revision_id"], k.length ≤ 40 := by
  simp only [revisionNames, List.cons_append, List.nil_append, List.forall_mem_cons]
  and_intros <;> first | exact short_lit (by decide) | exact List.forall_mem_nil _

theorem length_of_digest {s : Str} (h : validDigest s = true) : s.length ≤ 128 := by
  simp only [validDigest, Bool.and_eq_true, decide_eq_true_eq] at h
  omega

theorem length_of_taggedHex {stem : String} {s : Str} (hstem : (lit stem).length ≤ 64) (h : taggedHex stem s = true) :
    s.length ≤ 128 := by
  simp only [taggedHex, Bool.and_eq_true, decide_eq_true_eq] at h
  omega

theorem length_of_time (t : CanonicalTime) : t.text.length ≤ 128 := by
  rw [(micros_canonical t.canonical).2]
  exact (length_isoformat _).trans (by decide)

theorem slim_plainArtifact : Slim codec.repr 8114 (.obj (artifactEntries (plainArtifact bytes))) := by
  have hdigest := validDigest_content bytes []
  have hartifact : ((plainArtifact bytes).artifactId).length ≤ 128 := by
    have hlength := length_of_digest hdigest
    have hstem : (lit "artifact_sha256_").length = 16 := by decide
    have hshort : (bytes.digest []).length = 71 := by
      simp only [validDigest, Bool.and_eq_true, decide_eq_true_eq] at hdigest
      exact hdigest.1.1
    change (lit "artifact_sha256_" ++ (bytes.digest []).drop 7).length ≤ 128
    rw [List.length_append, List.length_drop]
    omega
  refine (@slim_record codec.repr _ artifactNames _ 770 rfl artifactNames_short rfl ?_).mono (by decide)
  simp only [artifactEntries, List.map_cons, List.map_nil, List.forall_mem_cons, List.not_mem_nil, false_implies,
    implies_true, and_true]
  exact ⟨slim_short hartifact, slim_short (length_of_digest hdigest), slim_count (show (decimal 0).length ≤ 20 by decide),
    slim_short (show (lit "text/plain").length ≤ 128 by decide),
    slim_short (show (lit "internal").length ≤ 128 by decide), slim_short (length_of_time _), slim_null.mono (by decide),
    slim_null.mono (by decide)⟩

theorem length_of_sound {s : Str} (h : sound memoryIdMaxChars s = true) : s.length ≤ 128 := by
  simp only [sound, Bool.and_eq_true, decide_eq_true_eq] at h
  exact h.1.2

theorem length_of_revisionId {s : Str} (h : isRevisionId s = true) : s.length ≤ 128 :=
  length_of_taggedHex (show (lit "memory_revision_sha256_").length ≤ 64 by decide) h

theorem length_of_lineage (h : revisionLineageShape number previous = .ok ()) : ∀ id ∈ previous, id.length ≤ 128 := by
  simp only [revisionLineageShape, bind_eq_ok, exists_unit] at h
  obtain ⟨-, h⟩ := h
  rintro id rfl
  split at h
  · simp only [raiseIf_eq_ok, ne_eq, reduceCtorEq, not_false_eq_true, not_true_eq_false] at h
  · exact length_of_revisionId (derivedForm_eq_ok.mp h)

theorem DraftFields.referencesShort {r : MemoryRevision} (h : DraftFields r) :
    (∀ v ∈ r.sourceCaseId, v.length ≤ 128) ∧ (∀ v ∈ r.sourceCaseRevisionId, v.length ≤ 128) ∧
      ∀ v ∈ r.fixEvidenceId, v.length ≤ 128 := by
  have habsent {o : Option Str} (ho : o = none) : ∀ v ∈ o, v.length ≤ 128 :=
    fun v hv => absurd (ho ▸ hv) (Option.not_mem_none v)
  have hgiven {o : Option Str} {name : Str} (ho : requiredReference o name = .ok ()) : ∀ v ∈ o, v.length ≤ 128 := by
    rintro v rfl
    exact length_of_sound (revisionIdentifier_eq_ok.mp ho)
  have hreferences := h.references
  unfold MemoryRevision.checkReferences at hreferences
  split at hreferences
  · simp only [bind_eq_ok, exists_unit] at hreferences
    obtain ⟨hcase, hrevision, hfix, -⟩ := hreferences
    exact ⟨hgiven hcase, hgiven hrevision, hgiven hfix⟩
  · simp only [bind_eq_ok, exists_unit, raiseIf_eq_ok, not_or, not_not] at hreferences
    obtain ⟨-, hcase, hrevision, hfix⟩ := hreferences
    exact ⟨habsent hcase, habsent hrevision, habsent hfix⟩

theorem scopeNames_short : ∀ k ∈ Migration.scopeNames, k.length ≤ 40 := by
  simp only [Migration.scopeNames, List.forall_mem_cons]
  and_intros <;> first | exact short_lit (by decide) | exact List.forall_mem_nil _

theorem slim_scope {s : AuthorizationScope} (h : s.check = .ok ()) (hattributes : s.attributes = []) :
    Slim codec.repr 8114 (.obj s.entries) := by
  have hoptional {o : Option Str} {name : Str} (ho : Migration.optionalIdentifier o name = .ok ()) :
      ∀ v ∈ o, v.length ≤ 128 := by
    rintro v rfl
    exact length_of_sound (Migration.required_eq_ok.mp ho)
  simp only [AuthorizationScope.check, bind_eq_ok, exists_unit] at h
  refine (slim_record (n := 770) s.names.keys scopeNames_short rfl ?_).mono (by decide)
  simp only [AuthorizationScope.entries, List.map_cons, List.map_nil, List.forall_mem_cons, List.not_mem_nil, false_implies,
    implies_true, and_true]
  refine ⟨slim_short (by cases s.kind <;> decide), slim_absent (hoptional h.1), slim_absent (hoptional h.2.1), ?_⟩
  rw [hattributes]
  exact (slim_obj (k := 0) (n := 0) (List.forall_mem_nil _) (List.forall_mem_nil _)).mono (by decide)

theorem fields_of_encodes {fields : Fields} (h : Migration.Encodes (.obj fields)) :
    ∀ f ∈ fields, utf8 f.1 = true ∧ Migration.Encodes f.2 := by
  intro f hf
  obtain ⟨hkey, hclean⟩ := cleanFields_iff.mp h.2 f hf
  exact ⟨hkey, ((shaped_obj.mp h.1).2 f hf).2, hclean⟩

theorem encodes_snoc {fields : Fields} {k : Str} {v : Json} (h : Migration.Encodes (.obj fields)) (hk : utf8 k = true)
    (hv : Migration.Encodes v) : Migration.Encodes (.obj (fields ++ [(k, v)])) := by
  refine Migration.encodes_obj ?_
  rw [List.forall_mem_append, List.forall_mem_singleton]
  exact ⟨fields_of_encodes h, hk, hv⟩

theorem encodes_cons {fields : Fields} {k : Str} {v : Json} (h : Migration.Encodes (.obj fields)) (hk : utf8 k = true)
    (hv : Migration.Encodes v) : Migration.Encodes (.obj ((k, v) :: fields)) := by
  refine Migration.encodes_obj ?_
  rw [List.forall_mem_cons]
  exact ⟨⟨hk, hv⟩, fields_of_encodes h⟩

-- a revision of a few short fields is kept whole
theorem DraftFields.fits {r : MemoryRevision} (h : DraftFields r) (hid : isRevisionId r.revisionId = true)
    (hartifact : r.contentArtifact = plainArtifact bytes) (hscope : r.scope.attributes = [])
    (hcount : r.regressionEvidenceIds.length ≤ 9) (hfloat : (codec.repr r.confidence).length ≤ 770) :
    fits (canonicalText codec.repr r.toDict) = true := by
  obtain ⟨hcase, hrevision, hfix⟩ := h.referencesShort
  have hevidence := h.evidenceIds
  simp only [checkEvidenceIds, bind_eq_ok, exists_unit, raiseIf_eq_ok, not_exists, not_and, Bool.not_eq_false] at hevidence
  have hencodes : Migration.Encodes r.toDict :=
    encodes_snoc (encodes_of_portable h.portable) (by rfl) (Migration.encodes_str (utf8_of_taggedHex revisionStem hid))
  refine fits_of_slim hencodes (@slim_record codec.repr _ (revisionNames ++ [lit "revision_id"]) _ 8114 rfl
    revisionNames_short rfl ?_) (by decide)
  have hshort {s : Str} (hs : s.length ≤ 128) : Slim codec.repr 8114 (.str s) := (slim_short hs).mono (by decide)
  have habsent {o : Option Str} (ho : ∀ s ∈ o, s.length ≤ 128) : Slim codec.repr 8114 (nullable o) :=
    (slim_absent ho).mono (by decide)
  have hids : Slim codec.repr 8114 (jsonStrings r.regressionEvidenceIds) := by
    refine (slim_arr (n := 770) (List.forall_mem_map.mpr fun id hid => slim_short ?_)).mono ?_
    · exact length_of_taggedHex (show (lit "regression_sha256_").length ≤ 64 by decide) (hevidence.2.1 id hid)
    · rw [List.length_map]
      omega
  simp only [MemoryRevision.unsigned, List.map_append, List.map_cons, List.map_nil, List.forall_mem_append,
    List.forall_mem_cons, List.not_mem_nil, false_implies, implies_true, and_true]
  exact ⟨⟨hshort (by decide), hshort (length_of_sound h.memoryId), hshort (by cases r.memoryKind <;> decide),
    (slim_count h.number).mono (by decide), habsent (length_of_lineage h.lineage),
    hshort (by cases r.memoryType <;> decide), hartifact ▸ slim_plainArtifact, slim_scope h.scope hscope,
    hfloat.trans (by decide), (slim_bool _).mono (by decide), (slim_bool _).mono (by decide), habsent hcase,
    habsent hrevision, habsent hfix, hids, hshort (length_of_sound h.proposedBy), hshort (length_of_sound h.client),
    hshort (length_of_time _), hshort (length_of_digest h.attestation)⟩, hshort (length_of_revisionId hid)⟩

def policyRevision (bytes : ContentHash) (tenant memory : Str) (number : Nat) (previous : Option Str) (id : Str) :
    MemoryRevision := { policyDraft bytes tenant memory number previous with revisionId := id }

theorem policyRevision_fields (htenant : sound memoryIdMaxChars tenant = true) (hmemory : sound memoryIdMaxChars memory = true)
    (hlineage : revisionLineageShape number previous = .ok ()) (hnumber : (decimal number).length ≤ 20) (id : Str) :
    DraftFields (policyRevision bytes tenant memory number previous id) := by
  have h : DraftFields (policyDraft bytes tenant memory number previous) :=
    policyDraft_fields htenant hmemory hlineage hnumber
  exact { h with }

end Policies

end Publication

end TraceBackedMemory
