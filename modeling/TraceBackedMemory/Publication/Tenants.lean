import TraceBackedMemory.Publication.Chain
import TraceBackedMemory.Publication.Drafts

namespace TraceBackedMemory

open Text Raising OrderBy Json Replay

namespace Publication

open EventContract (TextHash)

open Migration (keyed keyed_eq_some keyed_eq_none sound sound_lit)

open SemanticGate (isRevisionId)

open EventContract (sampleFloats sampleTexts)

section Provision

variable {codec : FloatCodec} {hash : TextHash} {bytes : ContentHash} {db : PublicationDb}

-- the evidence that stored proposals name is stored, and every stored text fits its column
structure Provided (codec : FloatCodec) (db : PublicationDb) : Prop where
  fix : ∀ p ∈ db.proposals, ∀ id ∈ p.fixEvidenceId, ∃ e, db.fix? id = some e
  regressions : ∀ p ∈ db.proposals, ∀ id ∈ p.regressionEvidenceIds, ∃ e, db.regression? id = some e
  fixFits : ∀ id e, db.fix? id = some e → fits (fixText codec e) = true
  regressionFits : ∀ id e, db.regression? id = some e → fits (regressionText codec e) = true

theorem provided_empty : Provided codec .empty where
  fix := List.forall_mem_nil _
  regressions := List.forall_mem_nil _
  fixFits _ _ h := by cases h
  regressionFits _ _ h := by cases h

theorem Puttable.fits {α : Type} {stored : Option α} {a : α} {text : Str} (h : Puttable stored a text)
    (hstored : stored = some a → fits text = true) : fits text = true := by
  rcases h with hsame | ⟨-, hfits⟩
  · exact hstored hsame
  · exact hfits

theorem Provided.storeProposal (h : Provided codec db) {c : Proposal} {out : PublicationDb × StoreResult}
    (hout : storeProposal codec db c = .ok out) : Provided codec out.1 := by
  have hgrows := storeProposal_grows hout
  obtain ⟨hsound, ⟨-, hsame⟩ | ⟨-, ha, -, -, hinserted⟩⟩ := storeProposal_eq_ok hout
  · rw [hsame]
    exact h
  · have hproposals : out.1.proposals = db.proposals ++ [c.revision] := by rw [hinserted.tables]
    refine ⟨?_, ?_, ?_, ?_⟩
    · rw [hproposals, List.forall_mem_append, List.forall_mem_singleton]
      constructor
      · intro p hp id hid
        obtain ⟨e, he⟩ := h.fix p hp id hid
        exact ⟨e, hgrows.fixes id e he⟩
      · intro id hid
        obtain ⟨e, he, rfl⟩ := Option.map_eq_some_iff.mp (ha.named.trans hid)
        exact ⟨e, by rw [hinserted.fix, if_pos (Option.mem_def.mp hid), he]⟩
    · rw [hproposals, List.forall_mem_append, List.forall_mem_singleton]
      constructor
      · intro p hp id hid
        obtain ⟨e, he⟩ := h.regressions p hp id hid
        exact ⟨e, hgrows.regressions id e he⟩
      · intro id hid
        rw [← hsound.ordered_ids] at hid
        obtain ⟨e, he, rfl⟩ := List.mem_map.mp hid
        exact ⟨e, hinserted.found e (mem_orderBy.mp he)⟩
    · intro id e he
      rw [hinserted.fix] at he
      split at he
      · exact (ha.fix e he).fits (h.fixFits _ e)
      · exact h.fixFits id e he
    · intro id e he
      by_cases hid : ∃ f ∈ c.regressionEvidence, f.evidenceId = id
      · obtain ⟨f, hf, rfl⟩ := hid
        obtain rfl := Option.some.inj ((hinserted.found f hf).symm.trans he)
        exact (ha.regressions f hf).fits (h.regressionFits _ f)
      · rw [hinserted.other id (fun f hf hsame => hid ⟨f, hf, hsame⟩)] at he
        exact h.regressionFits id e he

theorem Provided.apply (h : Provided codec db) {call : Call} {out : PublicationDb × Reply}
    (hout : apply codec hash bytes db call = .ok out) : Provided codec out.1 := by
  cases call with
  | storeProposal c =>
    obtain ⟨_, hstep, rfl⟩ := map_eq_ok.mp hout
    exact h.storeProposal hstep
  | appendApproval c =>
    obtain ⟨step, hstep, rfl⟩ := map_eq_ok.mp hout
    obtain ⟨-, -, ⟨hsame, -⟩ | ⟨row, -, -, -, htables⟩⟩ := appendApproval_eq_ok hstep
    · rw [hsame]
      exact h
    · rw [htables]
      exact ⟨h.fix, h.regressions, h.fixFits, h.regressionFits⟩
  | appendActivation c =>
    obtain ⟨step, hstep, rfl⟩ := map_eq_ok.mp hout
    obtain ⟨_, -, -, -, ⟨hsame, -⟩ | ⟨-, -, row, _, -, -, htables⟩⟩ := appendActivation_eq_ok hstep
    · rw [hsame]
      exact h
    · rw [htables]
      exact ⟨h.fix, h.regressions, h.fixFits, h.regressionFits⟩

theorem provided_run (calls : List Call) : Provided codec (run codec hash bytes calls) :=
  serveAll_invariant (fun _ _ _ h hout => h.apply hout) provided_empty calls

end Provision

section Isolation

variable {codec : FloatCodec} {hash : TextHash} {bytes : ContentHash} {db db' : PublicationDb} {c : Proposal}

def Owned (c : Proposal) (p : MemoryRevision) : Prop :=
  p.scope.tenantId = c.revision.scope.tenantId ∧ p.scope.repositoryId = c.revision.scope.repositoryId

def SameOwn (c : Proposal) (db db' : PublicationDb) : Prop :=
  ∀ p, Owned c p → (p ∈ db.proposals ↔ p ∈ db'.proposals)

-- no proposal of another tenant or repository stands in the place of this one or before it,
-- and no other evidence is filed under its evidence ids
structure Clear (db : PublicationDb) (c : Proposal) : Prop where
  revisionId : ∀ p ∈ db.proposals, p.revisionId = c.revision.revisionId → Owned c p
  slot : ∀ p ∈ db.proposals, p.memoryId = c.revision.memoryId → p.revisionNumber = c.revision.revisionNumber → Owned c p
  parent : ∀ p ∈ db.proposals, p.memoryId = c.revision.memoryId → some p.revisionId = c.revision.previousRevisionId →
    Owned c p
  fix : ∀ e ∈ c.fixEvidence, ∀ f, db.fix? e.evidenceId = some f → f = e
  regressions : ∀ e ∈ c.regressionEvidence, ∀ f, db.regression? e.evidenceId = some f → f = e

theorem SameOwn.symm (h : SameOwn c db db') : SameOwn c db' db := fun p hp => (h p hp).symm

theorem Clear.puttable {α : Type} {stored stored' : Option α} {a : α} {text : Str} (h : Puttable stored a text)
    (hfits : stored = some a → fits text = true) (hclear : ∀ b, stored' = some b → b = a) :
    Puttable stored' a text := by
  cases hstored : stored' with
  | none => exact .inr ⟨rfl, h.fits hfits⟩
  | some b => exact .inl (by rw [hclear b hstored])

theorem Admissible.transfer (h : Admissible codec db c) (hp : Provided codec db) (hc : Clear db' c) :
    Admissible codec db' c :=
  { h with
    fix := fun e he => Clear.puttable (h.fix e he) (hp.fixFits _ e) (hc.fix e he)
    regressions := fun e he => Clear.puttable (h.regressions e he) (hp.regressionFits _ e) (hc.regressions e he) }

theorem SameOwn.slotTaken (h : SameOwn c db db') (hc : Clear db' c) (ht : slotTaken db' c.revision) :
    slotTaken db c.revision := by
  obtain ⟨p, hp, hmemory, hnumber⟩ := ht
  exact ⟨p, (h p (hc.slot p hp hmemory hnumber)).mpr hp, hmemory, hnumber⟩

theorem SameOwn.parentContinues (h : SameOwn c db db') (hc : Clear db c) (hp : parentContinues db c.revision) :
    parentContinues db' c.revision := by
  unfold Publication.parentContinues at hp ⊢
  split at hp
  · rename_i hone
    rw [if_pos hone]
    exact hp
  · rename_i hone
    rw [if_neg hone]
    obtain ⟨p, hmem, hparent, hmemory, hnumber⟩ := hp
    exact ⟨p, (h p (hc.parent p hmem hmemory hparent)).mp hmem, hparent, hmemory, hnumber⟩

theorem SameOwn.proposal? (h : SameOwn c db db') (hc : Clear db c) (hn : Coherent db') {row : MemoryRevision}
    (hrow : db.proposal? c.revision.revisionId = some row) : db'.proposal? c.revision.revisionId = some row := by
  have hmem := List.mem_of_find?_eq_some hrow
  have hid : row.revisionId = c.revision.revisionId := of_decide_eq_true (by simpa only using List.find?_some hrow)
  exact (keyed_eq_some hn.proposals).mpr ⟨(h row (hc.revisionId row hmem hid)).mp hmem, hid⟩

theorem SameOwn.stored (h : SameOwn c db db') (hc : Clear db c) (hc' : Clear db' c) (hn : Coherent db')
    (hp : Provided codec db') (hsound : Sound c) (hs : Stored db c) : Stored db' c := by
  obtain ⟨row, hrow, hbundle⟩ := hs
  obtain ⟨hrevision, hnamed⟩ := loadBundle_eq_ok hbundle
  have hrow' := h.proposal? hc hn hrow
  have hmem' := List.mem_of_find?_eq_some hrow'
  obtain rfl : c.revision = row := hrevision
  have hgiven : c.fixEvidence.map FixEvidence.evidenceId = c.revision.fixEvidenceId := hnamed
  refine ⟨c.revision, hrow', loadBundle_total hsound hnamed ?_ ?_⟩
  · intro e he
    obtain ⟨f, hf⟩ := hp.fix _ hmem' e.evidenceId (by rw [← hgiven, Option.mem_def.mp he]; rfl)
    rw [hf, hc'.fix e he f hf]
  · intro e he
    have hid : e.evidenceId ∈ c.revision.regressionEvidenceIds := by
      rw [← hsound.ordered_ids]
      exact List.mem_map_of_mem (mem_orderBy.mpr he)
    obtain ⟨f, hf⟩ := hp.regressions _ hmem' e.evidenceId hid
    rw [hf, hc'.regressions e he f hf]

theorem SameOwn.accepts (h : SameOwn c db db') (hc : Clear db c) (hc' : Clear db' c) (hn : Coherent db)
    (hn' : Coherent db') (hp : Provided codec db) (hp' : Provided codec db')
    (hout : ∃ out, storeProposal codec db c = .ok out) : ∃ out, storeProposal codec db' c = .ok out := by
  rw [storeProposal_accepts] at hout ⊢
  obtain ⟨hsound, hstored | ⟨hnone, hadmissible, hslot, hparent⟩⟩ := hout
  · exact ⟨hsound, .inl (h.stored hc hc' hn' hp' hsound hstored)⟩
  · refine ⟨hsound, .inr ⟨?_, hadmissible.transfer hp hc', fun ht => hslot (h.slotTaken hc' ht),
      h.parentContinues hc hparent⟩⟩
    cases hrow : db'.proposal? c.revision.revisionId with
    | none => rfl
    | some row =>
      rw [h.symm.proposal? hc' hn hrow] at hnone
      cases hnone

theorem storeProposal_isolated (calls calls' : List Call) (c : Proposal)
    (h : SameOwn c (run codec hash bytes calls) (run codec hash bytes calls'))
    (hc : Clear (run codec hash bytes calls) c) (hc' : Clear (run codec hash bytes calls') c) :
    (∃ out, storeProposal codec (run codec hash bytes calls) c = .ok out) ↔
      ∃ out, storeProposal codec (run codec hash bytes calls') c = .ok out :=
  ⟨h.accepts hc hc' (coherent_run calls) (coherent_run calls') (provided_run calls) (provided_run calls'),
    h.symm.accepts hc' hc (coherent_run calls') (coherent_run calls) (provided_run calls') (provided_run calls)⟩

def policyProposal (bytes : ContentHash) (tenant memory : Str) (number : Nat) (previous : Option Str) (id : Str) : Proposal :=
  ⟨policyRevision bytes tenant memory number previous id, none, []⟩

theorem policyProposal_sound (tenant memory : Str) (number : Nat) (previous : Option Str) (id : Str) :
    Sound (policyProposal bytes tenant memory number previous id) := ⟨List.nodup_nil, rfl, rfl⟩

theorem length_repr_one : (sampleFloats.repr Double.one).length ≤ 770 := by decide +kernel

theorem policyProposal_admissible {tenant memory id : Str} {number : Nat} {previous : Option Str}
    (htenant : sound memoryIdMaxChars tenant = true) (hmemory : sound memoryIdMaxChars memory = true)
    (hlineage : revisionLineageShape number previous = .ok ()) (hnumber : (decimal number).length ≤ 20)
    (hid : isRevisionId id = true) (db : PublicationDb) :
    Admissible sampleFloats db (policyProposal bytes tenant memory number previous id) where
  fix e he := absurd he (Option.not_mem_none e)
  regressions := List.forall_mem_nil _
  named := rfl
  canonical := rfl
  fits := (policyRevision_fields htenant hmemory hlineage hnumber id).fits hid rfl rfl (Nat.zero_le 9)
    length_repr_one

theorem policyProposal_accepted {tenant memory id : Str} (htenant : sound memoryIdMaxChars tenant = true)
    (hmemory : sound memoryIdMaxChars memory = true) (hid : isRevisionId id = true) {db : PublicationDb}
    (hnone : db.proposal? id = none)
    (hslot : ∀ p ∈ db.proposals, ¬(p.memoryId = memory ∧ p.revisionNumber = 1)) :
    ∃ out, storeProposal sampleFloats db (policyProposal bytes tenant memory 1 none id) = .ok out := by
  refine storeProposal_accepts.mpr ⟨policyProposal_sound .., .inr ⟨hnone,
    policyProposal_admissible htenant hmemory rfl (by decide) hid db, ?_, rfl⟩⟩
  rintro ⟨p, hp, hsame⟩
  exact hslot p hp hsame

theorem run_policyTables {tenant memory id : Str} (htenant : sound memoryIdMaxChars tenant = true)
    (hmemory : sound memoryIdMaxChars memory = true) (hid : isRevisionId id = true) :
    ∃ fixes regressions, run sampleFloats hash bytes [.storeProposal (policyProposal bytes tenant memory 1 none id)] =
      { PublicationDb.empty with fixes := fixes, regressions := regressions,
                                 proposals := [policyRevision bytes tenant memory 1 none id] } := by
  obtain ⟨out, hout⟩ := @policyProposal_accepted bytes tenant memory id htenant hmemory hid .empty rfl
    (List.forall_mem_nil _)
  obtain ⟨-, ⟨⟨row, hrow, -⟩, -⟩ | ⟨-, -, -, -, hinserted⟩⟩ := storeProposal_eq_ok hout
  · cases hrow
  · have hserved : run sampleFloats hash bytes [.storeProposal (policyProposal bytes tenant memory 1 none id)] = out.1 := by
      rw [run, serveAll, List.foldl_cons, List.foldl_nil, serve, apply, hout]
      rfl
    exact ⟨_, _, hserved.trans hinserted.tables⟩

theorem run_policyProposal {tenant memory id : Str} (htenant : sound memoryIdMaxChars tenant = true)
    (hmemory : sound memoryIdMaxChars memory = true) (hid : isRevisionId id = true) :
    (run sampleFloats hash bytes [.storeProposal (policyProposal bytes tenant memory 1 none id)]).proposals =
      [policyRevision bytes tenant memory 1 none id] := by
  obtain ⟨fixes, regressions, htables⟩ := @run_policyTables hash bytes _ _ _ htenant hmemory hid
  rw [htables]

def sampleRevisionId (c : Char) : Str := lit "memory_revision_sha256_" ++ List.replicate 64 (cp c)

theorem storeProposal_isolated_other_memory :
    (∃ out, storeProposal sampleFloats (run sampleFloats sampleTexts sampleHash [])
      (policyProposal sampleHash (lit "tenant_b") (lit "other") 1 none (sampleRevisionId 'b')) = .ok out) ↔
    ∃ out, storeProposal sampleFloats (run sampleFloats sampleTexts sampleHash
        [.storeProposal (policyProposal sampleHash (lit "tenant_a") (lit "memory") 1 none (sampleRevisionId 'a'))])
      (policyProposal sampleHash (lit "tenant_b") (lit "other") 1 none (sampleRevisionId 'b')) = .ok out := by
  have hrun := @run_policyProposal sampleTexts sampleHash (lit "tenant_a") (lit "memory") (sampleRevisionId 'a')
    (sound_lit rfl) (sound_lit rfl) (by decide)
  have htenant : lit "tenant_a" ≠ lit "tenant_b" := by decide
  have hmemory : lit "memory" ≠ lit "other" := by decide
  have hid : sampleRevisionId 'a' ≠ sampleRevisionId 'b' := by decide
  refine storeProposal_isolated _ _ _ ?_ ?_ ?_
  · intro p hp
    rw [hrun, List.mem_singleton]
    constructor
    · exact fun hmem => absurd hmem List.not_mem_nil
    · rintro rfl
      exact absurd (Option.some.inj hp.1) htenant
  · exact ⟨List.forall_mem_nil _, List.forall_mem_nil _, List.forall_mem_nil _,
      fun e he => absurd he (Option.not_mem_none e), List.forall_mem_nil _⟩
  · refine ⟨?_, ?_, ?_, fun e he => absurd he (Option.not_mem_none e), List.forall_mem_nil _⟩
    · rw [hrun, List.forall_mem_singleton]
      exact fun hsame => absurd hsame hid
    · rw [hrun, List.forall_mem_singleton]
      exact fun hsame => absurd hsame hmemory
    · rw [hrun, List.forall_mem_singleton]
      exact fun hsame => absurd hsame hmemory

-- the first tenant to use a memory id keeps every other tenant from proposing for it
theorem tenant_blocks_tenant : ∃ a b : Proposal,
    a.revision.check sampleTexts sampleFloats = .ok () ∧ b.revision.check sampleTexts sampleFloats = .ok () ∧
      SameOwn b (run sampleFloats sampleTexts sampleHash []) (run sampleFloats sampleTexts sampleHash [.storeProposal a]) ∧
        (∃ out, storeProposal sampleFloats (run sampleFloats sampleTexts sampleHash []) b = .ok out) ∧
          ¬∃ out, storeProposal sampleFloats (run sampleFloats sampleTexts sampleHash [.storeProposal a]) b = .ok out := by
  have hfirst : sound memoryIdMaxChars (lit "tenant_a") = true := sound_lit rfl
  have hsecond : sound memoryIdMaxChars (lit "tenant_b") = true := sound_lit rfl
  have hmemory : sound memoryIdMaxChars (lit "memory") = true := sound_lit rfl
  have hone : (decimal 1).length ≤ 20 := by decide
  have hdifferent : lit "tenant_a" ≠ lit "tenant_b" := by decide
  have hdrafts {tenant : Str} (htenant : sound memoryIdMaxChars tenant = true) (id : Str) :
      DraftFields (policyRevision sampleHash tenant (lit "memory") 1 none id) :=
    policyRevision_fields htenant hmemory rfl hone id
  obtain ⟨ida, hida, htagged⟩ := @DraftFields.named sampleTexts sampleFloats _ (hdrafts hfirst [])
  obtain ⟨idb, hidb, htagged'⟩ := @DraftFields.named sampleTexts sampleFloats _ (hdrafts hsecond [])
  have hrun := @run_policyProposal sampleTexts sampleHash _ _ _ hfirst hmemory htagged
  refine ⟨policyProposal sampleHash (lit "tenant_a") (lit "memory") 1 none ida,
    policyProposal sampleHash (lit "tenant_b") (lit "memory") 1 none idb,
    (hdrafts hfirst ida).check hida (Option.some_ne_none _).symm,
    (hdrafts hsecond idb).check hidb (Option.some_ne_none _).symm, ?_,
    policyProposal_accepted hsecond hmemory htagged' rfl (List.forall_mem_nil _), ?_⟩
  · intro p hp
    rw [hrun, List.mem_singleton]
    constructor
    · exact fun hmem => absurd hmem List.not_mem_nil
    · rintro rfl
      exact absurd (Option.some.inj hp.1) hdifferent
  · rw [storeProposal_accepts]
    rintro ⟨-, ⟨row, hrow, hbundle⟩ | ⟨-, -, hslot, -⟩⟩
    · have hmem := List.mem_of_find?_eq_some hrow
      rw [hrun, List.mem_singleton] at hmem
      have hrevision := (loadBundle_eq_ok hbundle).1
      rw [hmem] at hrevision
      have hscope := congrArg (fun r : MemoryRevision => r.scope.tenantId) hrevision
      exact hdifferent (Option.some.inj hscope).symm
    · refine hslot ⟨policyRevision sampleHash (lit "tenant_a") (lit "memory") 1 none ida, ?_, ?_⟩
      · rw [hrun]
        exact List.mem_singleton_self _
      · simp only [policyProposal, policyRevision, policyDraft, and_self]

end Isolation

end Publication

end TraceBackedMemory
