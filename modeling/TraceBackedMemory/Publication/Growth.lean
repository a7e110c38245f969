import TraceBackedMemory.Publication.Runs

namespace TraceBackedMemory

open Text Raising OrderBy Json Replay

namespace Publication

open EventContract (TextHash)

open Migration (keyed keyed_eq_some keyed_eq_none)

open Authorization (mapError_eq_ok)

section Growth

-- rows are only ever added
structure Grows (db out : PublicationDb) : Prop where
  fixes : ∀ id e, db.fix? id = some e → out.fix? id = some e
  regressions : ∀ id e, db.regression? id = some e → out.regression? id = some e
  proposals : db.proposals <+: out.proposals
  approvals : db.approvals <+: out.approvals
  activations : db.activations <+: out.activations

namespace Grows

variable {db out later : PublicationDb}

theorem refl (db : PublicationDb) : Grows db db :=
  ⟨fun _ _ h => h, fun _ _ h => h, List.prefix_rfl, List.prefix_rfl, List.prefix_rfl⟩

theorem trans (h : Grows db out) (k : Grows out later) : Grows db later where
  fixes id e he := k.fixes id e (h.fixes id e he)
  regressions id e he := k.regressions id e (h.regressions id e he)
  proposals := h.proposals.trans k.proposals
  approvals := h.approvals.trans k.approvals
  activations := h.activations.trans k.activations

theorem proposal? (h : Grows db out) {id : Str} {r : MemoryRevision} (hr : db.proposal? id = some r) :
    out.proposal? id = some r := h.proposals.find?_eq_some hr

theorem approval? (h : Grows db out) {id : Str} {row : ApprovalRow} (hrow : db.approval? id = some row) :
    out.approval? id = some row := h.approvals.find?_eq_some hrow

theorem activation? (h : Grows db out) {id : Str} {row : ActivationRow} (hrow : db.activation? id = some row) :
    out.activation? id = some row := h.activations.find?_eq_some hrow

end Grows

end Growth

section Steps

variable {codec : FloatCodec} {hash : TextHash} {bytes : ContentHash} {db : PublicationDb}

theorem Puttable.kept {α : Type} {stored : Option α} {a b : α} {text : Str} (h : Puttable stored a text)
    (hb : stored = some b) : a = b := by
  rcases h with hstored | ⟨hnone, -⟩
  · exact Option.some.inj (hstored.symm.trans hb)
  · rw [hnone] at hb
    cases hb

theorem Inserted.grows {c : Proposal} {out : PublicationDb} (h : Inserted db c out) (ha : Admissible codec db c) :
    Grows db out := by
  obtain ⟨fixes, regressions, rfl⟩ : ∃ fixes regressions, out =
      { db with fixes := fixes, regressions := regressions, proposals := db.proposals ++ [c.revision] } :=
    ⟨_, _, h.tables⟩
  refine ⟨fun id e he => ?_, fun id e he => ?_, List.prefix_append _ _, List.prefix_rfl, List.prefix_rfl⟩
  · rw [h.fix]
    split
    · rename_i hid
      rw [← ha.named] at hid
      obtain ⟨f, hf, rfl⟩ := Option.map_eq_some_iff.mp hid
      rw [hf, (ha.fix f hf).kept he]
    · exact he
  · by_cases hid : ∃ f ∈ c.regressionEvidence, f.evidenceId = id
    · obtain ⟨f, hf, rfl⟩ := hid
      rw [h.found f hf, (ha.regressions f hf).kept he]
    · rw [h.other id (fun f hf hsame => hid ⟨f, hf, hsame⟩)]
      exact he

theorem storeProposal_grows {c : Proposal} {out : PublicationDb × StoreResult}
    (h : storeProposal codec db c = .ok out) : Grows db out.1 := by
  obtain ⟨-, ⟨-, hsame⟩ | ⟨-, hadmissible, -, -, hinserted⟩⟩ := storeProposal_eq_ok h
  · rw [hsame]
    exact Grows.refl db
  · exact hinserted.grows hadmissible

theorem appendApproval_grows {c : ApprovalCall} {out : PublicationDb × ApprovalResult}
    (h : appendApproval codec db hash bytes c = .ok out) : Grows db out.1 := by
  obtain ⟨-, -, ⟨hsame, -⟩ | ⟨row, -, -, -, hout⟩⟩ := appendApproval_eq_ok h
  · rw [hsame]
    exact Grows.refl db
  · rw [hout]
    exact ⟨fun _ _ h => h, fun _ _ h => h, List.prefix_rfl, List.prefix_append _ _, List.prefix_rfl⟩

theorem appendActivation_grows {c : ActivationCall} {out : PublicationDb × ActivationResult}
    (h : appendActivation codec db hash bytes c = .ok out) : Grows db out.1 := by
  obtain ⟨_, -, -, -, ⟨hsame, -⟩ | ⟨-, -, row, _, -, -, hout⟩⟩ := appendActivation_eq_ok h
  · rw [hsame]
    exact Grows.refl db
  · rw [hout]
    exact ⟨fun _ _ h => h, fun _ _ h => h, List.prefix_rfl, List.prefix_rfl, List.prefix_append _ _⟩

end Steps

section Bundles

variable {db later : PublicationDb} {s : Submission}

structure Bundled (db : PublicationDb) (s : Submission) : Prop where
  revision : db.proposal? s.revision.revisionId = some s.revision.canonical
  previous : ∀ p ∈ s.previousRevision, db.proposal? p.revisionId = some p.canonical
  fix : ∀ id ∈ s.revision.fixEvidenceId, ∃ e, s.fixes id = some e ∧ db.fix? id = some e
  regressions : ∀ id ∈ s.revision.regressionEvidenceIds, ∃ e, s.regressions id = some e ∧ db.regression? id = some e

theorem elim_eq_ok {α : Type} {o : Option α} {f : α → Except StoreError Unit} :
    o.elim (.ok ()) f = .ok () ↔ ∀ a ∈ o, f a = .ok () := by
  cases o with
  | none => exact ⟨fun _ a ha => absurd ha (Option.not_mem_none a), fun _ => rfl⟩
  | some a => exact ⟨fun h b hb => Option.mem_some_iff.mp hb ▸ h, fun h => h a rfl⟩

theorem requireProposalBundle_eq_ok : requireProposalBundle db s = .ok () ↔ Bundled db s := by
  simp only [requireProposalBundle, bind_eq_ok, exists_unit, elim_eq_ok, checkEach_eq_ok, requireStoredRevision,
    requireStoredFix, requireStoredRegression, raiseIf_eq_ok, not_not, demand_eq_ok]
  constructor
  · rintro ⟨hrevision, hprevious, hfix, hregressions⟩
    exact ⟨hrevision, hprevious, hfix, hregressions⟩
  · rintro ⟨hrevision, hprevious, hfix, hregressions⟩
    exact ⟨hrevision, hprevious, hfix, hregressions⟩

theorem Bundled.grow (h : Bundled db s) (hg : Grows db later) : Bundled later s where
  revision := hg.proposal? h.revision
  previous p hp := hg.proposal? (h.previous p hp)
  fix id hid := by
    obtain ⟨e, he, hstored⟩ := h.fix id hid
    exact ⟨e, he, hg.fixes id e hstored⟩
  regressions id hid := by
    obtain ⟨e, he, hstored⟩ := h.regressions id hid
    exact ⟨e, he, hg.regressions id e hstored⟩

theorem loadFix_grow (hg : Grows db later) {r : MemoryRevision} {fix : Option FixEvidence}
    (h : loadFix db r = .ok fix) : loadFix later r = .ok fix := by
  rw [loadFix_eq_ok] at h ⊢
  rcases h with hnone | ⟨id, e, hid, he, rfl⟩
  · exact .inl hnone
  · exact .inr ⟨id, e, hid, hg.fixes id e he, rfl⟩

theorem loadBundle_grow (hg : Grows db later) {r : MemoryRevision} {b : Proposal} (h : loadBundle db r = .ok b) :
    loadBundle later r = .ok b := by
  simp only [loadBundle, bind_eq_ok] at h ⊢
  obtain ⟨fix, hfix, items, hitems, hrest⟩ := h
  refine ⟨fix, loadFix_grow hg hfix, items, ?_, hrest⟩
  rw [collect_eq_ok] at hitems ⊢
  refine hitems.imp fun id e he => ?_
  rw [demand_eq_ok] at he ⊢
  exact hg.regressions id e he

end Bundles

section Replays

variable {codec : FloatCodec} {hash : TextHash} {bytes : ContentHash} {db later : PublicationDb}

theorem loadApprovalRow_at {id : Str} {row : ApprovalRow} (h : loadApprovalRow codec db id = .ok row)
    (hrow : later.approval? id = some row) : loadApprovalRow codec later id = .ok row := by
  simp only [loadApprovalRow, bind_eq_ok, exists_unit, demand_eq_ok, pure_eq_ok] at h ⊢
  obtain ⟨_, -, hread, rfl⟩ := h
  exact ⟨_, hrow, hread, rfl⟩

theorem loadActivationRow_at {id : Str} {row : ActivationRow} (h : loadActivationRow codec db id = .ok row)
    (hrow : later.activation? id = some row) : loadActivationRow codec later id = .ok row := by
  simp only [loadActivationRow, bind_eq_ok, exists_unit, demand_eq_ok, pure_eq_ok] at h ⊢
  obtain ⟨_, -, hread, rfl⟩ := h
  exact ⟨_, hrow, hread, rfl⟩

theorem storeProposal_replay {c : Proposal} {out : PublicationDb × StoreResult}
    (h : storeProposal codec db c = .ok out) (hg : Grows out.1 later) :
    storeProposal codec later c = .ok (later, ⟨c.revision.revisionId, false, false, 0⟩) := by
  have hstored : Stored out.1 c := by
    obtain ⟨hsound, ⟨hstored, hsame⟩ | ⟨hnone, hadmissible, -, -, hinserted⟩⟩ := storeProposal_eq_ok h
    · rw [hsame]
      exact hstored
    · refine ⟨c.revision, ?_, loadBundle_total hsound hadmissible.named ?_ hinserted.found⟩
      · rw [hinserted.tables]
        exact keyed_snoc_self (a := c.revision) hnone
      · intro e he
        rw [hinserted.fix, if_pos, Option.mem_def.mp he]
        rw [← hadmissible.named, Option.mem_def.mp he]
        rfl
  obtain ⟨row, hrow, hbundle⟩ := hstored
  obtain ⟨hsound, -⟩ := storeProposal_eq_ok h
  simp only [storeProposal, bind_eq_ok, exists_unit, checkInput_eq_ok]
  rw [hg.proposal? hrow]
  simp only [bind_eq_ok, exists_unit, raiseIf_eq_ok, not_not, pure_eq_ok]
  exact ⟨hsound, _, loadBundle_grow hg hbundle, rfl, trivial⟩

theorem appendApproval_replay {c : ApprovalCall} {out : PublicationDb × ApprovalResult}
    (h : appendApproval codec db hash bytes c = .ok out) (hg : Grows out.1 later) :
    appendApproval codec later hash bytes c = .ok (later, { out.2 with inserted := false }) := by
  have hbefore := appendApproval_grows h
  simp only [appendApproval, bind_eq_ok, exists_unit, contractual_eq_ok, raiseIf_eq_ok, not_not, pure_eq_ok] at h ⊢
  obtain ⟨approval, happrove, hverify, texts, htexts, hbundle, ⟨written, inserted⟩, -, retained, hretained, rfl, rfl⟩ := h
  have hrow := hg.approval? (loadApprovalRow_eq_ok hretained)
  refine ⟨approval, happrove, hverify, texts, htexts, ?_, ⟨later, false⟩, ?_, _, loadApprovalRow_at hretained hrow, rfl,
    rfl⟩
  · rw [requireProposalBundle_eq_ok] at hbundle ⊢
    exact hbundle.grow (hbefore.trans hg)
  · simp only [putApproval, hrow, bind_eq_ok, exists_unit, raiseIf_eq_ok, not_not, pure_eq_ok, and_self]

theorem predecessor_source {r : MemoryRevision} {a : MemoryRevisionApproval} {opened : PublicationDb}
    {previous : Option MemoryRevisionActivation} (h : predecessor codec db r a = .ok (opened, previous)) :
    previous = none ∨ ∃ id p, loadActivationRow codec db id = .ok p ∧ previous = some p.activation := by
  unfold predecessor at h
  split at h
  · simp only [bind_eq_ok, pure_eq_ok] at h
    obtain ⟨existing, -, found, hfound, hsame⟩ := h
    cases hsame
    unfold previousOf at hfound
    split at hfound
    · cases hfound
      exact .inl rfl
    · simp only [bind_eq_ok, pure_eq_ok] at hfound
      obtain ⟨p, hp, rfl⟩ := hfound
      exact .inr ⟨_, p, hp, rfl⟩
  · simp only [bind_eq_ok] at h
    obtain ⟨head, -, h⟩ := h
    split at h
    · simp only [bind_eq_ok, exists_unit, pure_eq_ok] at h
      obtain ⟨-, hsame⟩ := h
      cases hsame
      exact .inl rfl
    · simp only [bind_eq_ok, exists_unit, pure_eq_ok] at h
      obtain ⟨-, p, hp, hsame⟩ := h
      cases hsame
      exact .inr ⟨_, p, hp, rfl⟩

-- the predecessor that a first append found is the one that its activation names later on
theorem predecessor_replay {r : MemoryRevision} {a : MemoryRevisionApproval} {opened : PublicationDb}
    {previous : Option MemoryRevisionActivation} (h : predecessor codec db r a = .ok (opened, previous))
    (hg : Grows db later) {row : ActivationRow} (hof : later.activationOf? r.revisionId = some row)
    (hrow : loadActivationRow codec later row.activation.activationId = .ok row)
    (hnamed : row.activation.previousActivationId = previous.map MemoryRevisionActivation.activationId) :
    predecessor codec later r a = .ok (later, previous) := by
  have hloaded : previousOf codec later row.activation = .ok previous := by
    unfold previousOf
    rcases predecessor_source h with rfl | ⟨id, p, hp, rfl⟩
    · rw [hnamed]
      rfl
    · have hfound := loadActivationRow_eq_ok hp
      have hkey : p.activation.activationId = id := of_decide_eq_true (by simpa only using List.find?_some hfound)
      rw [hnamed, Option.map_some, hkey]
      simp only [bind_eq_ok, pure_eq_ok]
      exact ⟨p, loadActivationRow_at hp (hg.activation? hfound), rfl⟩
  simp only [predecessor, hof, bind_eq_ok, pure_eq_ok]
  exact ⟨row, hrow, previous, hloaded, rfl⟩

theorem appendActivation_replay {c : ActivationCall} {out : PublicationDb × ActivationResult}
    (h : appendActivation codec db hash bytes c = .ok out) (hg : Grows out.1 later)
    (hn : (later.activations.map (fun row => row.activation.revisionId)).Nodup) :
    appendActivation codec later hash bytes c = .ok (later, { out.2 with inserted := false }) := by
  have hbefore := appendActivation_grows h
  simp only [appendActivation, bind_eq_ok, exists_unit, contractual_eq_ok, raiseIf_eq_ok, not_not, pure_eq_ok] at h ⊢
  obtain ⟨hverify, hbundle, stored, hstored, approvalTexts, happrovalTexts, hsame, ⟨opened, previous⟩, hpredecessor, a,
    hactivate, texts, htexts, ⟨written, inserted⟩, -, retained, hretained, rfl, rfl⟩ := h
  have hrow := hg.activation? (loadActivationRow_eq_ok hretained)
  have hactivated := activate_eq_ok hactivate
  have hof : later.activationOf? c.submission.revision.revisionId =
      some ⟨a, texts.policy, texts.request, texts.decision, c.verifier.verifierId⟩ := by
    rw [← hactivated.revisionId]
    exact (keyed_eq_some hn).mpr ⟨List.mem_of_find?_eq_some hrow, rfl⟩
  have hload := loadActivationRow_at hretained hrow
  refine ⟨hverify, ?_, stored, ?_, approvalTexts, happrovalTexts, hsame, ⟨later, previous⟩,
    predecessor_replay hpredecessor (hbefore.trans hg) hof hload hactivated.previousActivationId, a, hactivate, texts,
    htexts, ⟨later, false⟩, ?_, _, hload, rfl, rfl⟩
  · rw [requireProposalBundle_eq_ok] at hbundle ⊢
    exact hbundle.grow (hbefore.trans hg)
  · exact loadApprovalRow_at hstored ((hbefore.trans hg).approval? (loadApprovalRow_eq_ok hstored))
  · simp only [writeActivation, bind_eq_ok]
    refine ⟨⟨later, false⟩, ?_, rfl⟩
    simp only [putActivation, hrow, bind_eq_ok, exists_unit, raiseIf_eq_ok, not_not, pure_eq_ok, and_self]

end Replays

end Publication

end TraceBackedMemory
