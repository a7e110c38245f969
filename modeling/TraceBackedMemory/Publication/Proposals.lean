import TraceBackedMemory.Publication.Steps

namespace TraceBackedMemory

open Text Raising OrderBy Json Replay

namespace Publication

open Migration (keyed keyed_eq_some sortedStrings)

open Authorization (mapError_eq_ok)

section Inputs

variable {c : Proposal}

def suppliedFix (c : Proposal) : Str → Option FixEvidence := keyed FixEvidence.evidenceId c.fixEvidence.toList

def suppliedRegression (c : Proposal) : Str → Option StructuredRegressionEvidence :=
  keyed StructuredRegressionEvidence.evidenceId c.regressionEvidence

structure Sound (c : Proposal) : Prop where
  distinct : (c.regressionEvidence.map StructuredRegressionEvidence.evidenceId).Nodup
  named : sortedStrings (c.regressionEvidence.map StructuredRegressionEvidence.evidenceId) =
    c.revision.regressionEvidenceIds
  verified : verifyMemoryRevisionEvidenceBundle c.revision (suppliedFix c) (suppliedRegression c) = .ok ()

theorem checkInput_eq_ok : checkInput c = .ok () ↔ Sound c := by
  simp only [checkInput, contractual, bind_eq_ok, exists_unit, raiseIf_eq_ok, not_not, mapError_eq_ok]
  constructor
  · rintro ⟨hdistinct, hnamed, hverified⟩
    exact ⟨hdistinct, hnamed, hverified⟩
  · rintro ⟨hdistinct, hnamed, hverified⟩
    exact ⟨hdistinct, hnamed, hverified⟩

theorem Sound.ordered_ids (h : Sound c) :
    c.ordered.regressionEvidence.map StructuredRegressionEvidence.evidenceId = c.revision.regressionEvidenceIds := by
  rw [← h.named]
  exact (orderBy_map (g := id) (fun _ => rfl) c.regressionEvidence).symm

theorem Sound.ordered_nodup (h : Sound c) :
    (c.ordered.regressionEvidence.map StructuredRegressionEvidence.evidenceId).Nodup :=
  ((orderBy_perm _ _).map _).nodup_iff.mpr h.distinct

theorem Sound.regression_ordered (h : Sound c) (id : Str) :
    keyed StructuredRegressionEvidence.evidenceId c.ordered.regressionEvidence id = suppliedRegression c id :=
  Migration.keyed_ordered h.distinct id

-- a lesson names the fix it was given, and a project policy was given none
def FixNamed (c : Proposal) : Prop := c.fixEvidence.map FixEvidence.evidenceId = c.revision.fixEvidenceId

theorem suppliedFix_of_named (h : FixNamed c) {id : Str} (hid : c.revision.fixEvidenceId = some id) :
    suppliedFix c id = c.fixEvidence := by
  rw [FixNamed, hid] at h
  obtain ⟨fix, hfix, rfl⟩ := Option.map_eq_some_iff.mp h
  rw [suppliedFix, hfix]
  exact List.find?_cons_of_pos (decide_eq_true rfl)

end Inputs

section Bundles

variable {db : PublicationDb} {c : Proposal}

theorem loadFix_eq_ok {r : MemoryRevision} {fix : Option FixEvidence} :
    loadFix db r = .ok fix ↔ r.fixEvidenceId = none ∧ fix = none ∨
      ∃ id e, r.fixEvidenceId = some id ∧ db.fix? id = some e ∧ fix = some e := by
  unfold loadFix
  cases r.fixEvidenceId with
  | none =>
    constructor
    · intro h
      cases h
      exact .inl ⟨rfl, rfl⟩
    · rintro (⟨-, rfl⟩ | ⟨id, e, hid, -⟩)
      · rfl
      · cases hid
  | some id =>
    simp only [bind_eq_ok, demand_eq_ok, pure_eq_ok]
    constructor
    · rintro ⟨e, he, rfl⟩
      exact .inr ⟨id, e, rfl, he, rfl⟩
    · rintro (⟨hid, -⟩ | ⟨_, e, hid, he, rfl⟩)
      · cases hid
      · cases hid
        exact ⟨e, he, rfl⟩

theorem collect_demand {α : Type} {ε : Type} {lookup : Str → Option α} {key : α → Str} {e : ε} {l : List α}
    (h : ∀ a ∈ l, lookup (key a) = some a) : collect (fun id => demand (lookup id) e) (l.map key) = .ok l := by
  induction l with
  | nil => rfl
  | cons a l ih =>
    rw [List.forall_mem_cons] at h
    simp only [List.map_cons, collect, bind_eq_ok, demand_eq_ok, pure_eq_ok]
    exact ⟨a, h.1, l, ih h.2, rfl⟩

theorem loadBundle_total (hsound : Sound c) (hnamed : FixNamed c)
    (hfix : ∀ e ∈ c.fixEvidence, db.fix? e.evidenceId = some e)
    (hregressions : ∀ e ∈ c.regressionEvidence, db.regression? e.evidenceId = some e) :
    loadBundle db c.revision = .ok c.ordered := by
  have hload : loadFix db c.revision = .ok c.fixEvidence := by
    rw [loadFix_eq_ok]
    cases hgiven : c.fixEvidence with
    | none =>
      rw [FixNamed, hgiven] at hnamed
      exact .inl ⟨hnamed.symm, rfl⟩
    | some e =>
      rw [FixNamed, hgiven] at hnamed
      exact .inr ⟨e.evidenceId, e, hnamed.symm, hfix e (by rw [hgiven]; exact rfl), rfl⟩
  have hcollect : collect (fun id => demand (db.regression? id)
      (persistence "stored regression evidence reference is missing")) c.revision.regressionEvidenceIds =
        .ok c.ordered.regressionEvidence := by
    rw [← hsound.ordered_ids]
    exact collect_demand fun e he => hregressions e (mem_orderBy.mp he)
  have hsame : keyed StructuredRegressionEvidence.evidenceId c.ordered.regressionEvidence = suppliedRegression c :=
    funext hsound.regression_ordered
  simp only [loadBundle, bind_eq_ok, exists_unit, mapError_eq_ok, pure_eq_ok]
  refine ⟨_, hload, _, hcollect, ?_, rfl⟩
  rw [hsame]
  exact hsound.verified

theorem loadBundle_eq_ok {r : MemoryRevision} {b : Proposal} (h : loadBundle db r = .ok b) :
    b.revision = r ∧ FixNamed b := by
  simp only [loadBundle, bind_eq_ok, exists_unit, pure_eq_ok] at h
  obtain ⟨fix, hfix, _, -, -, rfl⟩ := h
  refine ⟨rfl, ?_⟩
  rcases loadFix_eq_ok.mp hfix with ⟨hnone, rfl⟩ | ⟨id, e, hid, he, rfl⟩
  · exact hnone.symm
  · rw [PublicationDb.fix?, keyed] at he
    have hkey := List.find?_some he
    rw [FixNamed, hid]
    exact congrArg some (of_decide_eq_true hkey)

end Bundles

section Storing

variable {codec : FloatCodec} {db : PublicationDb} {c : Proposal}

-- what the evidence tables and the text columns ask of a proposal
structure Admissible (codec : FloatCodec) (db : PublicationDb) (c : Proposal) : Prop where
  fix : ∀ e ∈ c.fixEvidence, Puttable (db.fix? e.evidenceId) e (fixText codec e)
  regressions : ∀ e ∈ c.regressionEvidence, Puttable (db.regression? e.evidenceId) e (regressionText codec e)
  named : FixNamed c
  canonical : c.revision.canonical = c.revision
  fits : fits (canonicalText codec.repr c.revision.toDict) = true

-- the tables after a proposal was put
structure Inserted (db : PublicationDb) (c : Proposal) (out : PublicationDb) : Prop where
  tables : out = { db with fixes := out.fixes, regressions := out.regressions,
                           proposals := db.proposals ++ [c.revision] }
  fix : ∀ id, out.fix? id = if c.revision.fixEvidenceId = some id then c.fixEvidence else db.fix? id
  found : ∀ e ∈ c.regressionEvidence, out.regression? e.evidenceId = some e
  other : ∀ id, (∀ e ∈ c.regressionEvidence, e.evidenceId ≠ id) → out.regression? id = db.regression? id

theorem putSupplied_eq_ok {out : PublicationDb × Bool}
    (h : c.fixEvidence.elim (.ok (db, false)) (fun e => putFix codec db e) = .ok out) :
    (∀ e ∈ c.fixEvidence, Puttable (db.fix? e.evidenceId) e (fixText codec e)) ∧
      out.1 = { db with fixes := out.1.fixes } ∧
        ∀ id, out.1.fix? id = if c.fixEvidence.map FixEvidence.evidenceId = some id then c.fixEvidence else db.fix? id := by
  cases hgiven : c.fixEvidence with
  | none =>
    rw [hgiven] at h
    cases h
    refine ⟨fun e he => absurd he (Option.not_mem_none e), rfl, fun id => ?_⟩
    rw [Option.map_none, if_neg (Option.some_ne_none id).symm]
  | some e =>
    rw [hgiven] at h
    obtain ⟨hput, hframe, hlookup⟩ := putFix_eq_ok h
    refine ⟨fun f hf => Option.mem_some_iff.mp hf ▸ hput, hframe, fun id => ?_⟩
    simp only [hlookup, Option.map_some, Option.some.injEq]

theorem insertProposal_eq_ok (hsound : Sound c) (hnone : db.proposal? c.revision.revisionId = none)
    {out : PublicationDb × StoreResult} (h : insertProposal codec db c.ordered = .ok out) :
    Admissible codec db c ∧ ¬slotTaken db c.revision ∧ parentContinues db c.revision ∧ Inserted db c out.1 := by
  simp only [insertProposal, bind_eq_ok, exists_unit, raiseIf_eq_ok, not_not, pure_eq_ok, demand_eq_ok] at h
  obtain ⟨⟨withFix, fixInserted⟩, hfirst, ⟨withEvidence, inserted⟩, hsecond, written, hwritten, row, hrow, stored, hstored,
    rfl, rfl⟩ := h
  obtain ⟨hfix, hfixFrame, hfixLookup⟩ := putSupplied_eq_ok hfirst
  obtain ⟨fixes, rfl⟩ : ∃ fixes, withFix = { db with fixes := fixes } := ⟨_, hfixFrame⟩
  obtain ⟨hputs, hframe, hfound, hother⟩ := putRegressions_eq_ok hsound.ordered_nodup hsecond
  obtain ⟨regressions, rfl⟩ : ∃ regressions, withEvidence = { db with fixes := fixes, regressions := regressions } :=
    ⟨_, hframe⟩
  simp only [putRevision, bind_eq_ok, exists_unit, raiseIf_eq_ok, not_not, pure_eq_ok, Bool.not_eq_false] at hwritten
  obtain ⟨hslot, hparent, -, hfits, rfl⟩ := hwritten
  have hread : keyed MemoryRevision.revisionId (db.proposals ++ [c.revision.canonical]) c.revision.revisionId =
      some c.revision.canonical := keyed_snoc_self (a := c.revision.canonical) hnone
  obtain rfl : c.revision.canonical = row := Option.some.inj (hread.symm.trans hrow)
  obtain ⟨hrevision, hnamed⟩ := loadBundle_eq_ok hstored
  have hcanonical : c.revision.canonical = c.revision := hrevision.symm
  have hadmissible : Admissible codec db c :=
    ⟨hfix, fun e he => hputs e (mem_orderBy.mpr he), hnamed, hcanonical, hfits⟩
  refine ⟨hadmissible, hslot, hparent, ?_, ?_, ?_, ?_⟩
  · rw [← hcanonical]
    rfl
  · intro id
    have hlookup := hfixLookup id
    rw [hnamed] at hlookup
    exact hlookup
  · exact fun e he => hfound e (mem_orderBy.mpr he)
  · exact fun id hid => hother id fun e he => hid e (mem_orderBy.mp he)

theorem putSupplied_total (h : ∀ e ∈ c.fixEvidence, Puttable (db.fix? e.evidenceId) e (fixText codec e)) :
    ∃ out, c.fixEvidence.elim (.ok (db, false)) (fun e => putFix codec db e) = .ok out := by
  cases hgiven : c.fixEvidence with
  | none => exact ⟨_, rfl⟩
  | some e =>
    rw [hgiven] at h
    exact putFix_total (h e rfl)

theorem insertProposal_total (hsound : Sound c) (hadmissible : Admissible codec db c)
    (hnone : db.proposal? c.revision.revisionId = none) (hslot : ¬slotTaken db c.revision)
    (hparent : parentContinues db c.revision) : ∃ out, insertProposal codec db c.ordered = .ok out := by
  obtain ⟨⟨withFix, fixInserted⟩, hfirst⟩ := putSupplied_total hadmissible.fix
  obtain ⟨-, hfixFrame, hfixLookup⟩ := putSupplied_eq_ok hfirst
  obtain ⟨fixes, rfl⟩ : ∃ fixes, withFix = { db with fixes := fixes } := ⟨_, hfixFrame⟩
  obtain ⟨⟨withEvidence, inserted⟩, hsecond⟩ := putRegressions_total hsound.ordered_nodup
    (s := ({ db with fixes := fixes }, 0)) fun e he => hadmissible.regressions e (mem_orderBy.mp he)
  obtain ⟨-, hframe, hfound, -⟩ := putRegressions_eq_ok hsound.ordered_nodup hsecond
  obtain ⟨regressions, rfl⟩ : ∃ regressions, withEvidence = { db with fixes := fixes, regressions := regressions } :=
    ⟨_, hframe⟩
  have hread : keyed MemoryRevision.revisionId (db.proposals ++ [c.revision.canonical]) c.revision.revisionId =
      some c.revision.canonical := keyed_snoc_self (a := c.revision.canonical) hnone
  have hgiven : ∀ e ∈ c.fixEvidence, keyed FixEvidence.evidenceId fixes e.evidenceId = some e := by
    intro e he
    have hlookup := hfixLookup e.evidenceId
    rw [Option.mem_def.mp he, Option.map_some, if_pos rfl] at hlookup
    exact hlookup
  have hkept : ¬∃ id ∈ c.revision.fixEvidenceId, keyed FixEvidence.evidenceId fixes id = none := by
    rintro ⟨id, hid, hmissing⟩
    rw [← hadmissible.named] at hid
    obtain ⟨e, he, rfl⟩ := Option.map_eq_some_iff.mp hid
    rw [hgiven e he] at hmissing
    cases hmissing
  have hstored : loadBundle { db with fixes := fixes, regressions := regressions,
                                      proposals := db.proposals ++ [c.revision.canonical] } c.revision =
      .ok c.ordered :=
    loadBundle_total hsound hadmissible.named hgiven fun e he => hfound e (mem_orderBy.mpr he)
  simp only [insertProposal, putRevision, bind_eq_ok, exists_unit, raiseIf_eq_ok, not_not, pure_eq_ok, demand_eq_ok,
    Bool.not_eq_false]
  refine ⟨_, _, hfirst, _, hsecond, _, ⟨hslot, hparent, hkept, hadmissible.fits, rfl⟩, _, hread, _, ?_, rfl, rfl⟩
  rw [hadmissible.canonical] at hstored ⊢
  exact hstored

def Stored (db : PublicationDb) (c : Proposal) : Prop :=
  ∃ row, db.proposal? c.revision.revisionId = some row ∧ loadBundle db row = .ok c.ordered

theorem storeProposal_eq_ok {out : PublicationDb × StoreResult} (h : storeProposal codec db c = .ok out) :
    Sound c ∧ (Stored db c ∧ out.1 = db ∨ db.proposal? c.revision.revisionId = none ∧ Admissible codec db c ∧
      ¬slotTaken db c.revision ∧ parentContinues db c.revision ∧ Inserted db c out.1) := by
  simp only [storeProposal, bind_eq_ok, exists_unit, checkInput_eq_ok] at h
  obtain ⟨hsound, h⟩ := h
  refine ⟨hsound, ?_⟩
  split at h
  · rename_i row hrow
    simp only [bind_eq_ok, exists_unit, raiseIf_eq_ok, not_not, pure_eq_ok] at h
    obtain ⟨stored, hstored, rfl, rfl⟩ := h
    exact .inl ⟨⟨row, hrow, hstored⟩, rfl⟩
  · rename_i hnone
    exact .inr ⟨hnone, insertProposal_eq_ok hsound hnone h⟩

theorem storeProposal_accepts : (∃ out, storeProposal codec db c = .ok out) ↔
    Sound c ∧ (Stored db c ∨ db.proposal? c.revision.revisionId = none ∧ Admissible codec db c ∧
      ¬slotTaken db c.revision ∧ parentContinues db c.revision) := by
  constructor
  · rintro ⟨out, hout⟩
    obtain ⟨hsound, ⟨hstored, -⟩ | ⟨hnone, hadmissible, hslot, hparent, -⟩⟩ := storeProposal_eq_ok hout
    · exact ⟨hsound, .inl hstored⟩
    · exact ⟨hsound, .inr ⟨hnone, hadmissible, hslot, hparent⟩⟩
  · rintro ⟨hsound, ⟨row, hrow, hbundle⟩ | ⟨hnone, hadmissible, hslot, hparent⟩⟩
    · simp only [storeProposal, bind_eq_ok, exists_unit, checkInput_eq_ok]
      rw [hrow]
      simp only [bind_eq_ok, exists_unit, raiseIf_eq_ok, not_not, pure_eq_ok]
      exact ⟨_, hsound, _, hbundle, rfl, rfl⟩
    · simp only [storeProposal, bind_eq_ok, exists_unit, checkInput_eq_ok]
      rw [hnone]
      obtain ⟨out, hout⟩ := insertProposal_total hsound hadmissible hnone hslot hparent
      exact ⟨out, hsound, hout⟩

end Storing

end Publication

end TraceBackedMemory
