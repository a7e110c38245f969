import TraceBackedMemory.Migration.Hazards
import TraceBackedMemory.Migration.Issues
import TraceBackedMemory.Migration.Rearrangement
import TraceBackedMemory.Store.Runs

namespace TraceBackedMemory

open Text Raising OrderBy Json EventContract

namespace Migration

section Encoding

-- a value that has canonical text: no number it cannot print, no string it cannot encode
def Encodes (v : Json) : Prop := shaped anyOrder textualNumber anyKey v = true ∧ clean Json.encodes v = true

theorem encodes_str {s : Str} (h : utf8 s = true) : Encodes (.str s) :=
  ⟨rfl, Projection.encodedBytes_isSome.mpr (utf8_iff.mp h)⟩

theorem encodes_arr {items : List Json} (h : ∀ v ∈ items, Encodes v) : Encodes (.arr items) :=
  ⟨shapedItems_iff.mpr fun v hv => (h v hv).1, cleanItems_iff.mpr fun v hv => (h v hv).2⟩

theorem encodes_obj {fields : Fields} (h : ∀ f ∈ fields, utf8 f.1 = true ∧ Encodes f.2) : Encodes (.obj fields) := by
  refine ⟨?_, cleanFields_iff.mpr fun f hf => ⟨Projection.encodedBytes_isSome.mpr (utf8_iff.mp (h f hf).1),
    (h f hf).2.2⟩⟩
  rw [shaped_obj]
  exact ⟨List.pairwise_of_forall fun _ _ => rfl, fun f hf => ⟨rfl, (h f hf).2.1⟩⟩

theorem encodes_strings {l : List Str} (h : ∀ s ∈ l, utf8 s = true) : Encodes (jsonStrings l) := by
  refine encodes_arr fun v hv => ?_
  obtain ⟨s, hs, rfl⟩ := List.mem_map.mp hv
  exact encodes_str (h s hs)

theorem encodes_nullable {o : Option Str} (h : ∀ s ∈ o, utf8 s = true) : Encodes (nullable o) := by
  cases o with
  | none => exact ⟨rfl, rfl⟩
  | some s => exact encodes_str (h s rfl)

theorem encodes_objects {α κ : Type} [LinearOrder κ] {f : α → Fields} {k : α → κ} {l : List α}
    (h : ∀ a ∈ l, Encodes (.obj (f a))) : Encodes (objects f (orderBy k l)) := by
  refine encodes_arr fun v hv => ?_
  obtain ⟨a, ha, rfl⟩ := List.mem_map.mp hv
  exact h a (mem_orderBy.mp ha)

theorem canonicalSha256_of_encodes {hash : TextHash} {codec : FloatCodec} {v : Json} (h : Encodes v) :
    canonicalSha256 hash codec v = .ok ((hash.canonical codec).domain [] v) := by
  have htext : Projection.Clean (canonicalText codec.repr v) := canonicalText_clean h.1 h.2
  obtain ⟨bytes, hbytes⟩ := Option.isSome_iff_exists.mp (Projection.encodedBytes_isSome.mpr htext)
  have hfound : canonicalBytes codec.repr v = some bytes := by rw [canonicalBytes, if_pos h.1, hbytes]
  rw [canonicalSha256, hfound]
  rfl

end Encoding

section Records

theorem encodes_entries {fields : Fields} {names : List Str} {values : List Json} (hn : Names fields names)
    (hvalues : fields.map Prod.snd = values) (h : ∀ v ∈ values, Encodes v) : Encodes (.obj fields) := by
  refine encodes_obj fun f hf => ⟨hn.texts f.1 (hn.keys ▸ List.mem_map_of_mem hf), h f.2 ?_⟩
  rw [← hvalues]
  exact List.mem_map_of_mem hf

theorem CanonicalRepository.encodes {r : CanonicalRepository} (h : r.check = .ok ()) : Encodes (.obj r.entries) := by
  simp only [CanonicalRepository.check, bind_eq_ok, exists_unit, stringTuple_eq_ok] at h
  obtain ⟨hid, hprovided, hlocator, hdisplay, hcount, haliases, -⟩ := h
  refine encodes_entries r.names rfl ?_
  simp only [List.map_cons, List.map_nil, CanonicalRepository.entries, List.forall_mem_cons]
  exact ⟨encodes_str (utf8_of_required hid), encodes_str r.provider.utf8_text,
    encodes_str (utf8_of_required hprovided), encodes_str (utf8_of_digest hlocator),
    encodes_str (utf8_of_required hdisplay), encodes_strings (utf8_of_sorted haliases), List.forall_mem_nil _⟩

theorem TenantIdentity.encodes {t : TenantIdentity} (h : t.check = .ok ()) : Encodes (.obj t.entries) := by
  simp only [TenantIdentity.check, bind_eq_ok, exists_unit, stringTuple_eq_ok] at h
  obtain ⟨hid, hdisplay, hcount, haliases, -⟩ := h
  refine encodes_entries t.names rfl ?_
  simp only [List.map_cons, List.map_nil, TenantIdentity.entries, List.forall_mem_cons]
  exact ⟨encodes_str (utf8_of_required hid), encodes_str (utf8_of_required hdisplay),
    encodes_strings (utf8_of_sorted haliases), List.forall_mem_nil _⟩

theorem TraceIdentityBinding.encodes {b : TraceIdentityBinding} (h : b.check = .ok ()) :
    Encodes (.obj b.entries) := by
  simp only [TraceIdentityBinding.check, bind_eq_ok, exists_unit] at h
  obtain ⟨htrace, hrepository, htenant⟩ := h
  refine encodes_entries b.names rfl ?_
  simp only [List.map_cons, List.map_nil, TraceIdentityBinding.entries, List.forall_mem_cons]
  exact ⟨encodes_str (utf8_of_required htrace), encodes_str (utf8_of_required hrepository),
    encodes_str (utf8_of_required htenant), List.forall_mem_nil _⟩

theorem MemoryScopeBinding.encodes {b : MemoryScopeBinding} (h : b.check = .ok ()) : Encodes (.obj b.entries) := by
  simp only [MemoryScopeBinding.check, AuthorizationScope.check, bind_eq_ok, exists_unit, checkAttributes_eq_ok] at h
  obtain ⟨hmemory, htenant, hrepository, -, -, -, hattributes, -⟩ := h
  have hfields : Encodes (.obj (attributeFields b.scope.attributes)) := by
    refine encodes_obj fun f hf => ?_
    obtain ⟨a, ha, rfl⟩ := List.mem_map.mp hf
    obtain ⟨hvalue, hkey, -⟩ := hattributes a (mem_orderBy.mp ha)
    exact ⟨utf8_applicability hkey, encodes_str (utf8_of_required hvalue)⟩
  have hscope : Encodes (.obj b.scope.entries) := by
    refine encodes_entries b.scope.names rfl ?_
    simp only [List.map_cons, List.map_nil, AuthorizationScope.entries, List.forall_mem_cons]
    exact ⟨encodes_str b.scope.kind.utf8_text, encodes_nullable (utf8_of_optional htenant),
      encodes_nullable (utf8_of_optional hrepository), hfields, List.forall_mem_nil _⟩
  refine encodes_entries b.names rfl ?_
  simp only [List.map_cons, List.map_nil, MemoryScopeBinding.entries, List.forall_mem_cons]
  exact ⟨encodes_str b.memoryKind.utf8_text, encodes_str (utf8_of_required hmemory), hscope, List.forall_mem_nil _⟩

theorem CommitRelationEvidence.encodes {e : CommitRelationEvidence} (h : e.check = .ok ()) :
    Encodes (.obj e.entries) := by
  simp only [CommitRelationEvidence.check, bind_eq_ok, exists_unit] at h
  obtain ⟨hfrom, hto, hby, hat⟩ := h
  have htext : utf8 e.relation.text = true := by
    cases e.relation
    rfl
  refine encodes_entries e.names rfl ?_
  simp only [List.map_cons, List.map_nil, CommitRelationEvidence.entries, List.forall_mem_cons]
  exact ⟨encodes_str (utf8_of_required hfrom), encodes_str (utf8_of_required hto), encodes_str htext,
    encodes_str (utf8_of_required hby), encodes_str (utf8_of_timestamp hat), List.forall_mem_nil _⟩

theorem RegressionEvidence.encodes {e : RegressionEvidence} (h : e.check = .ok ()) : Encodes (.obj e.entries) := by
  simp only [RegressionEvidence.check, bind_eq_ok, exists_unit, checkEach_eq_ok] at h
  obtain ⟨hsource, hfix, hidentifiers, hmetadata, hobserved, -, hhashes, -⟩ := h
  have hid : ∀ f ∈ e.identifiers, Encodes (.str f.1) := fun f hf =>
    encodes_str (utf8_of_required (hidentifiers f hf))
  have hvalue : ∀ f ∈ e.metadata, Encodes (.str f.1) := fun f hf => encodes_str (utf8_of_required (hmetadata f hf))
  simp only [RegressionEvidence.identifiers, List.forall_mem_cons] at hid
  simp only [RegressionEvidence.metadata, List.forall_mem_cons] at hvalue
  obtain ⟨hevidence, hcase, htrace, hrun, hevaluator, -⟩ := hid
  obtain ⟨hversion, hsuite, hevalCase, hcommit, -⟩ := hvalue
  have hartifacts : ∀ v ∈ sortedStrings e.artifactHashes, utf8 v = true :=
    fun v hv => utf8_of_digest (hhashes v (mem_orderBy.mp hv))
  refine encodes_entries e.names rfl ?_
  simp only [List.map_cons, List.map_nil, RegressionEvidence.entries, List.forall_mem_cons]
  exact ⟨hevidence, hcase, htrace, hrun, hevaluator, hversion, hsuite, hevalCase, hcommit,
    encodes_str e.result.utf8_text, encodes_str (utf8_of_timestamp hobserved),
    CommitRelationEvidence.encodes hsource, CommitRelationEvidence.encodes hfix, encodes_strings hartifacts,
    List.forall_mem_nil _⟩

theorem GlobalPolicyApproval.encodes {a : GlobalPolicyApproval} (h : a.check = .ok ()) :
    Encodes (.obj a.entries) := by
  simp only [GlobalPolicyApproval.check, bind_eq_ok, exists_unit] at h
  obtain ⟨hpolicy, hprincipal, hevent, hat, hreason⟩ := h
  refine encodes_entries a.names rfl ?_
  simp only [List.map_cons, List.map_nil, GlobalPolicyApproval.entries, List.forall_mem_cons]
  exact ⟨encodes_str (utf8_of_required hpolicy), encodes_str (utf8_of_required hprincipal),
    encodes_str (utf8_of_required hevent), encodes_str (utf8_of_timestamp hat),
    encodes_str (utf8_of_required hreason), List.forall_mem_nil _⟩

theorem encodes_mapping {m : SnapshotV3MigrationMapping} (h : m.checkEntries = .ok ()) : Encodes m.toDict := by
  simp only [SnapshotV3MigrationMapping.checkEntries, bind_eq_ok, exists_unit, checkEach_eq_ok] at h
  obtain ⟨hrepository, htenant, htrace, hscope, hregression, happroval, hpolicy⟩ := h
  have hancestry : Encodes (.obj m.ancestryPolicy.entries) := by
    refine encodes_entries m.ancestryPolicy.names rfl ?_
    simp only [List.map_cons, List.map_nil, AncestryPolicy.entries, List.forall_mem_cons]
    exact ⟨encodes_str m.ancestryPolicy.mode.utf8_text, encodes_nullable (utf8_of_bypass hpolicy),
      List.forall_mem_nil _⟩
  refine encodes_entries m.names rfl ?_
  simp only [List.map_cons, List.map_nil, SnapshotV3MigrationMapping.entries, List.forall_mem_cons]
  exact ⟨encodes_str rfl, encodes_objects fun r hr => CanonicalRepository.encodes (hrepository r hr),
    encodes_objects fun t ht => TenantIdentity.encodes (htenant t ht),
    encodes_objects fun b hb => TraceIdentityBinding.encodes (htrace b hb),
    encodes_objects fun b hb => MemoryScopeBinding.encodes (hscope b hb),
    encodes_objects fun e he => RegressionEvidence.encodes (hregression e he),
    encodes_objects fun a ha => GlobalPolicyApproval.encodes (happroval a ha), hancestry, List.forall_mem_nil _⟩

end Records

section Plans

variable {py : Python} {source : SnapshotSource} {store : Store} {m : SnapshotV3MigrationMapping}
  {verifier : Option CommitRelationVerifier}

theorem sound_decimal_append {n k l limit : Nat} {t : Str} (hn : n < 10 ^ k) (hk : 0 < k) (ht : sound l t = true)
    (hlimit : k + l ≤ limit) : sound limit (decimal n ++ t) = true := by
  have hlength := (length_decimal_le_iff hk).mpr hn
  simp only [sound, Bool.and_eq_true, Bool.not_eq_true', decide_eq_true_eq] at ht ⊢
  obtain ⟨⟨hblank, htlength⟩, hutf⟩ := ht
  refine ⟨⟨?_, ?_⟩, utf8_append.mpr ⟨?_, hutf⟩⟩
  · rw [Bool.eq_false_iff, Ne, isBlank_iff] at hblank ⊢
    exact fun hall => hblank fun c hc => hall c (List.mem_append_right _ hc)
  · rw [List.length_append]
    omega
  · apply Ascii.utf8
    intro c hc
    have hnumeral := of_decide_eq_true (isNumeral_of_mem_decimal hc)
    omega

theorem checked_planUsage (hlogs : ∀ log ∈ store.usageLogs, sound memoryIdMaxChars log.decisionId = true)
    (hcount : store.usageLogs.length ≤ maxRegistryItems) : Checked (planUsage m store) := by
  refine checked_append.mpr ⟨List.forall_mem_map.mpr fun log hlog => ?_, ?_⟩
  · exact check_issue (sound_lit rfl) (sound_lit rfl) (hlogs log (List.mem_of_mem_filter hlog)) (sound_lit rfl)
  · have hdigits : store.usageLogs.length < 10 ^ 6 := hcount.trans_lt (by decide)
    exact checked_flag (check_issue (sound_lit rfl) (sound_lit rfl) (sound_lit rfl)
      (sound_decimal_append (l := 128) hdigits (by decide) (sound_lit rfl) (by decide)))

theorem checked_planIssues (hm : Named m) (hs : Identified store)
    (hcount : store.usageLogs.length ≤ maxRegistryItems) : Checked (planIssues m store verifier) := by
  have hancestry : Checked (planAncestry m verifier) := by
    rw [planAncestry]
    split
    · exact checked_flag (check_issue (sound_lit rfl) (sound_lit rfl) (sound_lit rfl) (sound_lit rfl))
    · exact checked_singleton (check_issue (sound_lit rfl) (sound_lit rfl) (sound_lit rfl) (sound_lit rfl))
  have htraces : Checked (unknownTraceBindings m store) := by
    refine List.forall_mem_map.mpr fun i hi => ?_
    obtain ⟨b, hb, rfl⟩ := List.mem_map.mp (List.mem_of_mem_filter (mem_sortedStrings.mp hi))
    exact check_issue (sound_lit rfl) (sound_lit rfl) (hm.bindings b hb).1 (sound_lit rfl)
  have hscopes : Checked (unknownScopeBindings m store) := by
    refine List.forall_mem_map.mpr fun b hb => ?_
    have hmem := List.mem_of_mem_filter (mem_orderBy.mp hb)
    exact check_issue (sound_lit rfl) b.memoryKind.sound_text (hm.scopes b hmem).1 (sound_lit rfl)
  have hcases : Checked (unknownCases m store) := by
    refine List.forall_mem_map.mpr fun i hi => ?_
    obtain ⟨e, he, rfl⟩ := List.mem_map.mp (List.mem_of_mem_filter (mem_sortedStrings.mp hi))
    exact check_issue (sound_lit rfl) (sound_lit rfl) (hm.cases e he) (sound_lit rfl)
  have happrovals : Checked (unusedApprovals m) := by
    refine List.forall_mem_map.mpr fun i hi => ?_
    obtain ⟨a, ha, rfl⟩ := List.mem_map.mp (List.mem_of_mem_filter (mem_sortedStrings.mp hi))
    exact check_issue (sound_lit rfl) (sound_lit rfl) (hm.approvals a ha) (sound_lit rfl)
  simp only [planIssues, checked_append]
  exact ⟨⟨⟨⟨⟨⟨⟨⟨hancestry, checked_flatMap fun t ht => checked_planTraceIdentity hm (hs.traces t ht)⟩, htraces⟩,
    checked_flatMap fun memory hmem => checked_planMemoryScope hm (hs.memories memory hmem).1
      (hs.memories memory hmem).2⟩, hscopes⟩,
    checked_flatMap fun c hc => checked_planRegressionEvidence (hs.cases c hc)⟩, hcases⟩, happrovals⟩,
    checked_planUsage hs.logs hcount⟩

-- the collections of a loaded snapshot, each within its limit
structure Counted (store : Store) : Prop where
  traces : store.traces.size ≤ maxRegistryItems
  cases : store.failureCases.size ≤ maxRegistryItems
  lessons : store.lessons.size ≤ maxRegistryItems
  policies : store.projectPolicies.size ≤ maxRegistryItems
  logs : store.usageLogs.length ≤ maxRegistryItems

theorem counted_of_loaded (h : Loaded py source store) : Counted store := by
  have hlimits := h.limits
  simp only [validateSnapshotCollectionLimits, bind_eq_ok, exists_unit, checkEach_eq_ok, List.forall_mem_cons,
    validateSnapshotRecordCount, raiseIf_eq_ok, exceeds, decide_eq_true_eq, not_lt] at hlimits
  obtain ⟨⟨htraces, hcases, hlessons, hpolicies, hlogs, -⟩, -⟩ := hlimits
  have hcontents := h.contents
  simp only [contents, Contents.mk.injEq] at hcontents
  obtain ⟨heqTraces, heqCases, heqLessons, heqPolicies, heqLogs⟩ := hcontents
  have hsize : ∀ {α : Type} (d : Dict Str α), d.size = d.values.length := fun d => (List.length_map _).symm
  refine ⟨?_, ?_, ?_, ?_, ?_⟩
  · rw [hsize, heqTraces]
    exact htraces
  · rw [hsize, heqCases]
    exact hcases
  · rw [hsize, heqLessons]
    exact hlessons
  · rw [hsize, heqPolicies]
    exact hpolicies
  · rw [heqLogs, List.length_map]
    exact hlogs

theorem checkCounts_planCounts (hstore : Counted store) (hm : m.check = .ok ()) {issues : List V3MigrationIssue}
    (hissues : issues.length ≤ maxRegistryItems) : checkCounts [] (planCounts m store issues) = .ok () := by
  have herrors : errorCount issues ≤ issues.length := List.countP_le_length
  obtain ⟨htraces, hcases, hlessons, hpolicies, hlogs⟩ := hstore
  simp only [SnapshotV3MigrationMapping.check, bind_eq_ok, exists_unit, typedTuple_eq_ok] at hm
  obtain ⟨hrepositories, htenants, -, hscopes, hevidence, -⟩ := hm
  have hlimit : maxRegistryItems ≤ maxMigrationCount := by decide
  have hnames : ∀ name ∈ planCountNames, sound memoryIdMaxChars name = true := by
    simp only [planCountNames, List.forall_mem_cons]
    exact ⟨sound_lit rfl, sound_lit rfl, sound_lit rfl, sound_lit rfl, sound_lit rfl, sound_lit rfl, sound_lit rfl,
      sound_lit rfl, sound_lit rfl, sound_lit rfl, sound_lit rfl, List.forall_mem_nil _⟩
  have hkeys : (planCounts m store issues).map Prod.fst = planCountNames := rfl
  have hvalues : ∀ v ∈ (planCounts m store issues).map Prod.snd, 0 ≤ v ∧ v ≤ maxMigrationCount := by
    simp only [planCounts, List.map_cons, List.map_nil, List.forall_mem_cons]
    refine ⟨?_, ?_, ?_, ?_, ?_, ?_, ?_, ?_, ?_, ?_, ?_, List.forall_mem_nil _⟩ <;> omega
  rw [checkCounts_eq_ok]
  refine ⟨fun c hc => ⟨?_, (hvalues c.2 (List.mem_map_of_mem hc)).1, (hvalues c.2 (List.mem_map_of_mem hc)).2,
    List.not_mem_nil⟩, ?_⟩
  · exact required_eq_ok.mpr (hnames c.1 (hkeys ▸ List.mem_map_of_mem hc))
  · rw [hkeys]
    decide

theorem planOf_check {s s' : Str} {issues : List V3MigrationIssue} (hs : validDigest s = true)
    (hs' : validDigest s' = true) (hstore : Counted store) (hm : m.check = .ok ()) :
    (planOf m store s s' issues).check = .ok () ↔ issues.length ≤ maxRegistryItems := by
  have hsource : digest s (lit "source_snapshot_sha256") = .ok () := raiseIf_of_not (by simp [hs])
  have hmapping : digest s' (lit "mapping_sha256") = .ok () := raiseIf_of_not (by simp [hs'])
  have hkeys : (planOf m store s s' issues).counts.map Prod.fst = planCountNames := rfl
  have herrors : countOf (planOf m store s s' issues).counts (lit "errors") = errorCount issues := rfl
  have hwarnings : countOf (planOf m store s s' issues).counts (lit "warnings") =
      issues.length - errorCount issues := rfl
  simp only [SnapshotV3MigrationPlan.check, bind_eq_ok, exists_unit, raiseIf_eq_ok, not_not, not_or, hkeys, herrors,
    hwarnings]
  constructor
  · rintro ⟨-, -, -, -, htuple, -⟩
    exact typedTuple_eq_ok.mp htuple
  · intro hlength
    refine ⟨hsource, hmapping, checkCounts_planCounts hstore hm hlength, ⟨fun _ h => h, fun _ h => h⟩,
      typedTuple_eq_ok.mpr hlength, ⟨rfl, rfl⟩, ?_⟩
    rcases Nat.eq_zero_or_pos (errorCount issues) with hzero | hpos
    · simp [planOf, hzero]
    · simp [planOf, hpos, Nat.ne_of_gt hpos]

end Plans

section Planning

variable (py : Python) (env : Env) (token : Nat) (session : SessionId) (hash : TextHash) (codec : FloatCodec)

theorem hazards_of_planned {source : SnapshotSource} {store : Store}
    (hload : loadSource py env token session source = .ok store) {m : MigrationMapping}
    {verifier : Option CommitRelationVerifier} {p : SnapshotV3MigrationPlan}
    (h : planSnapshotV3Migration py env token session hash codec source m verifier = .ok p) :
    (canonicalBytes codec.repr source.document.1).isSome = true ∧ hazards m.1 store verifier ≤ maxRegistryItems := by
  simp only [planSnapshotV3Migration, bind_eq_ok, exists_unit, pure_eq_ok, hload, Except.ok.injEq,
    exists_eq_left'] at h
  obtain ⟨-, sourceSha, hsource, mappingSha, hmapping, hcheck, -⟩ := h
  simp only [canonicalSha256, bind_eq_ok, demand_eq_ok, pure_eq_ok] at hsource hmapping
  obtain ⟨bytes, hbytes, rfl⟩ := hsource
  obtain ⟨-, -, rfl⟩ := hmapping
  have hbound := (planOf_check (Sha256.validDigest_domain _ _ _) (Sha256.validDigest_domain _ _ _)
    (counted_of_loaded (loadSource_loaded hload)) m.2.2).mp hcheck
  rw [length_orderBy, length_planIssues] at hbound
  exact ⟨Option.isSome_iff_exists.mpr ⟨bytes, hbytes⟩, hbound⟩

theorem planning_answers_iff {source : SnapshotSource} {store : Store}
    (hload : loadSource py env token session source = .ok store) (m : MigrationMapping)
    (verifier : Option CommitRelationVerifier) :
    (∃ p, planSnapshotV3Migration py env token session hash codec source m verifier = .ok p) ↔
      (canonicalBytes codec.repr source.document.1).isSome = true ∧ hazards m.1 store verifier ≤ maxRegistryItems := by
  constructor
  · rintro ⟨p, hp⟩
    exact hazards_of_planned py env token session hash codec hload hp
  · rintro ⟨hencodes, hbound⟩
    have hloaded := loadSource_loaded hload
    have hstore := counted_of_loaded hloaded
    have hissues : checkEach V3MigrationIssue.check (orderBy issueOrder (planIssues m.1 store verifier)) = .ok () := by
      rw [checkEach_eq_ok]
      intro i hi
      exact checked_planIssues (named_of_checkEntries m.2.1) (identified_of_loaded hloaded) hstore.logs i
        (mem_orderBy.mp hi)
    have hmapping := @canonicalSha256_of_encodes hash codec _ (encodes_mapping m.2.1)
    obtain ⟨bytes, hbytes⟩ := Option.isSome_iff_exists.mp hencodes
    have hsource : canonicalSha256 hash codec source.document.1 =
        .ok ((hash.canonical codec).domain [] source.document.1) := by
      rw [canonicalSha256, hbytes]
      rfl
    rw [← length_planIssues, ← length_orderBy issueOrder] at hbound
    have hcheck := (planOf_check (Sha256.validDigest_domain (hash.canonical codec) [] source.document.1)
      (Sha256.validDigest_domain (hash.canonical codec) [] m.1.toDict) hstore m.2.2).mpr hbound
    simp only [planSnapshotV3Migration, bind_eq_ok, exists_unit, pure_eq_ok, hload, hissues, hsource, hmapping,
      Except.ok.injEq, exists_eq_left', true_and]
    exact ⟨_, hcheck, rfl⟩

end Planning

section Samples

def emptyDocument : Json :=
  .obj [(lit "snapshot_version", .num (.int 2)), (lit "traces", .arr []), (lit "failure_cases", .arr []),
    (lit "lessons", .arr []), (lit "project_policies", .arr []), (lit "usage_logs", .arr [])]

def emptySource : SnapshotSource where
  document := ⟨emptyDocument, by decide⟩
  snapshot := {}
  current := rfl
  recorded := List.forall_mem_nil _

theorem emptySource_loads :
    loadSource asciiPython sampleEnv 0 sampleSession emptySource = .ok (Store.fresh 0 sampleSession) := rfl

theorem planning_answers_sample : ∃ p, planSnapshotV3Migration asciiPython sampleEnv 0 sampleSession sampleTexts
    sampleFloats emptySource ⟨descendingMapping, descendingMapping_valid⟩ none = .ok p :=
  (planning_answers_iff asciiPython sampleEnv 0 sampleSession sampleTexts sampleFloats emptySource_loads
    ⟨descendingMapping, descendingMapping_valid⟩ none).mpr ⟨by decide, by decide⟩

def crowdedMapping (count : Nat) : SnapshotV3MigrationMapping :=
  ⟨[], [], (List.range count).map (fun n => ⟨decimal n, lit "repo_1", lit "tenant_1"⟩), [], [], [],
    ⟨.disabled, some (lit "offline")⟩⟩

theorem sound_decimal {n : Nat} (h : n < 10 ^ 6) : sound memoryIdMaxChars (decimal n) = true := by
  obtain ⟨c, s, hs⟩ := List.exists_cons_of_ne_nil (decimal_ne_nil n)
  have hlength := (length_decimal_le_iff (by decide)).mpr h
  have hnumerals : ∀ d ∈ decimal n, 48 ≤ d.val ∧ d.val ≤ 57 := fun d hd =>
    of_decide_eq_true (isNumeral_of_mem_decimal hd)
  have hutf : utf8 (decimal n) = true := by
    apply Ascii.utf8
    intro d hd
    have hd := hnumerals d hd
    omega
  have hblank : isBlank (decimal n) = false := by
    rw [Bool.eq_false_iff, Ne, isBlank_iff]
    intro hall
    have hc : c ∈ decimal n := hs ▸ List.mem_cons_self
    have hspace := hall c hc
    obtain ⟨hlow, hhigh⟩ := hnumerals c hc
    simp only [isSpace, List.mem_cons, List.not_mem_nil, or_false, decide_eq_true_eq] at hspace
    omega
  have hbound : (decimal n).length ≤ memoryIdMaxChars := hlength.trans (by decide)
  simp only [sound, hblank, decide_eq_true hbound, hutf, Bool.not_false, Bool.and_self]

variable {count : Nat}

theorem crowdedMapping_valid (hcount : count ≤ maxRegistryItems) :
    (crowdedMapping count).checkEntries = .ok () ∧ (crowdedMapping count).check = .ok () := by
  have hbindings : checkEach TraceIdentityBinding.check (crowdedMapping count).traceBindings = .ok () := by
    rw [checkEach_eq_ok, crowdedMapping, List.forall_mem_map]
    intro n hn
    have hbound : n < 10 ^ 6 := ((List.mem_range.mp hn).trans_le hcount).trans (by decide)
    simp only [TraceIdentityBinding.check, requiredIdentifier, bind_eq_ok, exists_unit, required_eq_ok]
    exact ⟨sound_decimal hbound, sound_lit rfl, sound_lit rfl⟩
  have hids : (crowdedMapping count).traceBindings.map TraceIdentityBinding.traceId =
      (List.range count).map decimal := by
    rw [crowdedMapping, List.map_map]
    rfl
  have hnodup : ((List.range count).map decimal).Nodup := List.nodup_range.map decimal_injective
  have hlength : (crowdedMapping count).traceBindings.length = count := by
    rw [crowdedMapping, List.length_map, List.length_range]
  have htuple : ∀ name, typedTuple (crowdedMapping count).traceBindings name = .ok () := fun name =>
    typedTuple_eq_ok.mpr (hlength.trans_le hcount)
  have hunique : ∀ name label,
      unique TraceIdentityBinding.traceId (crowdedMapping count).traceBindings name label = .ok () := by
    intro name label
    rw [unique, raiseIf_eq_ok, hids, not_not]
    exact hnodup
  constructor
  · simp only [SnapshotV3MigrationMapping.checkEntries, hbindings, bind_eq_ok, exists_unit, true_and]
    exact ⟨rfl, rfl, rfl, rfl, rfl, required_eq_ok.mpr (sound_lit rfl)⟩
  · simp only [SnapshotV3MigrationMapping.check, htuple, hunique, bind_eq_ok, exists_unit, true_and]
    exact ⟨rfl, rfl, rfl, rfl, rfl, rfl, rfl, rfl, rfl, rfl, rfl, rfl, rfl, rfl⟩

-- every binding names an unknown trace, and the bypass of the ancestry policy is one hazard more
theorem hazards_crowdedMapping : count < hazards (crowdedMapping count) (Store.fresh 0 sampleSession) none := by
  have hunknown : (crowdedMapping count).traceBindings.countP
      (fun b => !(Store.fresh 0 sampleSession).traces.contains b.traceId) = count := by
    have hall : ∀ b ∈ (crowdedMapping count).traceBindings,
        (!(Store.fresh 0 sampleSession).traces.contains b.traceId) = true := fun b _ => rfl
    rw [List.countP_eq_length.mpr hall, crowdedMapping, List.length_map, List.length_range]
  have hancestry : (ancestryHazard (crowdedMapping count) none).toNat = 1 := rfl
  unfold hazards
  omega

theorem crowdedMapping_unanswered :
    (∃ store, loadSource asciiPython sampleEnv 0 sampleSession emptySource = .ok store) ∧
      ¬∃ p, planSnapshotV3Migration asciiPython sampleEnv 0 sampleSession sampleTexts sampleFloats emptySource
        ⟨crowdedMapping maxRegistryItems, crowdedMapping_valid le_rfl⟩ none = .ok p := by
  refine ⟨⟨_, emptySource_loads⟩, ?_⟩
  rintro ⟨p, hp⟩
  have hbound := hazards_of_planned asciiPython sampleEnv 0 sampleSession sampleTexts sampleFloats emptySource_loads hp
  exact absurd hbound.2 (Nat.not_le.mpr hazards_crowdedMapping)

end Samples

end Migration

end TraceBackedMemory
