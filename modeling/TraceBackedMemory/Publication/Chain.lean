import TraceBackedMemory.Publication.Growth
import TraceBackedMemory.Foundation.ChainedLog

namespace TraceBackedMemory

open Text Raising OrderBy Json Replay

namespace Publication

open EventContract (TextHash)

open Migration (AuthorizationScope keyed keyed_eq_some keyed_eq_none)

section Runs

variable (codec : FloatCodec) (hash : TextHash) (bytes : ContentHash)

inductive Call where
  | storeProposal (c : Proposal)
  | appendApproval (c : ApprovalCall)
  | appendActivation (c : ActivationCall)

inductive Reply where
  | proposal (r : StoreResult)
  | approval (r : ApprovalResult)
  | activation (r : ActivationResult)
  deriving DecidableEq

-- what the same call answers once its row is there
def Reply.repeated : Reply → Reply
  | .proposal r => .proposal ⟨r.revisionId, false, false, 0⟩
  | .approval r => .approval { r with inserted := false }
  | .activation r => .activation { r with inserted := false }

def apply (db : PublicationDb) : Call → Except StoreError (PublicationDb × Reply)
  | .storeProposal c => (storeProposal codec db c).map (fun out => (out.1, .proposal out.2))
  | .appendApproval c => (appendApproval codec db hash bytes c).map (fun out => (out.1, .approval out.2))
  | .appendActivation c => (appendActivation codec db hash bytes c).map (fun out => (out.1, .activation out.2))

-- a call that raises rolls its transaction back
def serve (db : PublicationDb) (call : Call) : PublicationDb :=
  match apply codec hash bytes db call with
  | .ok out => out.1
  | .error _ => db

def serveAll (db : PublicationDb) (calls : List Call) : PublicationDb := calls.foldl (serve codec hash bytes) db

def run (calls : List Call) : PublicationDb := serveAll codec hash bytes .empty calls

end Runs

section Steps

variable {codec : FloatCodec} {hash : TextHash} {bytes : ContentHash} {db : PublicationDb}

theorem apply_grows {call : Call} {out : PublicationDb × Reply} (h : apply codec hash bytes db call = .ok out) :
    Grows db out.1 := by
  cases call with
  | storeProposal c =>
    obtain ⟨_, hstep, rfl⟩ := map_eq_ok.mp h
    exact storeProposal_grows hstep
  | appendApproval c =>
    obtain ⟨_, hstep, rfl⟩ := map_eq_ok.mp h
    exact appendApproval_grows hstep
  | appendActivation c =>
    obtain ⟨_, hstep, rfl⟩ := map_eq_ok.mp h
    exact appendActivation_grows hstep

theorem serve_grows (db : PublicationDb) (call : Call) : Grows db (serve codec hash bytes db call) := by
  unfold serve
  split
  · rename_i out hout
    exact apply_grows hout
  · exact Grows.refl db

theorem serveAll_grows (db : PublicationDb) (calls : List Call) : Grows db (serveAll codec hash bytes db calls) := by
  induction calls generalizing db with
  | nil => exact Grows.refl db
  | cons call calls ih => exact (serve_grows db call).trans (ih _)

-- an invariant of each accepted call is one of every run
theorem serveAll_invariant {P : PublicationDb → Prop}
    (hstep : ∀ db call out, P db → apply codec hash bytes db call = .ok out → P out.1) (h : P db) (calls : List Call) :
    P (serveAll codec hash bytes db calls) := by
  induction calls generalizing db with
  | nil => exact h
  | cons call calls ih =>
    refine ih ?_
    unfold serve
    split
    · rename_i out hout
      exact hstep db call out h hout
    · exact h

end Steps

section Chains

def chainShape : LogShape ActivationRow (Str × Str × Str) Str where
  key row := activationKey row.activation
  version row := row.activation.revisionNumber
  position row := row.activation.activationSequence
  digest row := row.activation.activationId
  parent row := row.activation.previousActivationId

def headOf (a : MemoryRevisionActivation) : HeadRow :=
  ⟨a.tenantId, a.repositoryId, a.memoryId, a.revisionNumber, some a.revisionId, some a.activationId⟩

-- the rows that back an activation
structure Backed (db : PublicationDb) (a : MemoryRevisionActivation) (row : ApprovalRow) (r : MemoryRevision) : Prop where
  approval : row ∈ db.approvals
  proposal : r ∈ db.proposals
  approved : row.approval.approvalId = a.approvalId
  approvalRevision : row.approval.revisionId = a.revisionId
  revisionId : r.revisionId = a.revisionId
  memoryId : r.memoryId = a.memoryId
  revisionNumber : r.revisionNumber = a.revisionNumber
  target : scopeTarget r.scope = .ok (a.tenantId, a.repositoryId)
  actors : [r.proposedBy, row.approval.approvedBy, a.activatedBy].Nodup
  predecessor : ∀ id ∈ a.previousActivationId, ∃ p ∈ db.activations, ∃ q ∈ db.proposals,
    p.activation.activationId = id ∧ q.revisionId = p.activation.revisionId ∧ q.scope = r.scope ∧
      q.memoryKind = r.memoryKind

structure Coherent (db : PublicationDb) : Prop where
  proposals : (db.proposals.map MemoryRevision.revisionId).Nodup
  approvals : (db.approvals.map (fun row => row.approval.revisionId)).Nodup
  activations : (db.activations.map (fun row => row.activation.revisionId)).Nodup
  targets : ∀ row ∈ db.activations, row.activation.repositoryId ≠ some []
  numbers : ∀ key, (chainShape.stream db.activations key).map chainShape.version =
    List.range' 1 (chainShape.stream db.activations key).length
  linked : ∀ key, chainShape.Linked none (chainShape.stream db.activations key)
  heads : ∀ key, db.heads.get? key =
    (chainShape.stream db.activations key).getLast?.map (fun row => headOf row.activation)
  backed : ∀ row ∈ db.activations, ∃ approval r, Backed db row.activation approval r

theorem Backed.grow {db out : PublicationDb} {a : MemoryRevisionActivation} {row : ApprovalRow} {r : MemoryRevision}
    (h : Backed db a row r) (hg : Grows db out) : Backed out a row r :=
  { h with
    approval := hg.approvals.subset h.approval
    proposal := hg.proposals.subset h.proposal
    predecessor := fun id hid => by
      obtain ⟨p, hp, q, hq, hsame⟩ := h.predecessor id hid
      exact ⟨p, hg.activations.subset hp, q, hg.proposals.subset hq, hsame⟩ }

theorem coherent_empty : Coherent .empty where
  proposals := List.nodup_nil
  approvals := List.nodup_nil
  activations := List.nodup_nil
  targets := List.forall_mem_nil _
  numbers _ := rfl
  linked _ := trivial
  heads _ := rfl
  backed := List.forall_mem_nil _

end Chains

section Preservation

variable {codec : FloatCodec} {hash : TextHash} {bytes : ContentHash} {db : PublicationDb}

theorem Coherent.storeProposal (h : Coherent db) {c : Proposal} {out : PublicationDb × StoreResult}
    (hout : storeProposal codec db c = .ok out) : Coherent out.1 := by
  have hgrows := storeProposal_grows hout
  obtain ⟨-, ⟨-, hsame⟩ | ⟨hnone, -, -, -, hinserted⟩⟩ := storeProposal_eq_ok hout
  · rw [hsame]
    exact h
  · obtain ⟨fixes, regressions, htables⟩ : ∃ fixes regressions, out.1 =
        { db with fixes := fixes, regressions := regressions, proposals := db.proposals ++ [c.revision] } :=
      ⟨_, _, hinserted.tables⟩
    rw [htables] at hgrows ⊢
    refine { h with proposals := ?_, backed := fun row hrow => ?_ }
    · rw [List.map_append, List.map_singleton, List.nodup_append_comm, List.singleton_append, List.nodup_cons]
      exact ⟨keyed_eq_none.mp hnone, h.proposals⟩
    · obtain ⟨approval, r, hbacked⟩ := h.backed row hrow
      exact ⟨approval, r, hbacked.grow hgrows⟩

theorem Coherent.appendApproval (h : Coherent db) {c : ApprovalCall} {out : PublicationDb × ApprovalResult}
    (hout : appendApproval codec db hash bytes c = .ok out) : Coherent out.1 := by
  have hgrows := appendApproval_grows hout
  obtain ⟨-, -, ⟨hsame, -⟩ | ⟨row, hrow, hfresh, -, htables⟩⟩ := appendApproval_eq_ok hout
  · rw [hsame]
    exact h
  · rw [htables] at hgrows ⊢
    refine { h with approvals := ?_, backed := fun row hrow => ?_ }
    · rw [List.map_append, List.map_singleton, List.nodup_append_comm, List.singleton_append, List.nodup_cons]
      refine ⟨fun hmem => ?_, h.approvals⟩
      obtain ⟨other, hother, hsame⟩ := List.mem_map.mp hmem
      rw [hrow] at hsame
      exact hfresh other hother hsame
    · obtain ⟨approval, r, hbacked⟩ := h.backed row hrow
      exact ⟨approval, r, hbacked.grow hgrows⟩

theorem repositoryId_of_check {a : MemoryRevisionActivation} (h : a.check hash codec = .ok ()) :
    a.repositoryId ≠ some [] := by
  simp only [MemoryRevisionActivation.check, bind_eq_ok, exists_unit] at h
  obtain ⟨-, -, -, -, -, -, h⟩ := h
  have htarget : checkTarget a.tenantId a.repositoryId = .ok () := by
    split at h
    · simp only [bind_eq_ok, exists_unit] at h
      exact h.2.1
    · simp only [bind_eq_ok, exists_unit] at h
      exact h.2.1
  simp only [checkTarget, bind_eq_ok, exists_unit] at htarget
  intro hempty
  rw [hempty] at htarget
  have hblank : publicationIdentifier [] (lit "repository_id") = .ok () := htarget.2
  simp only [publicationIdentifier, boundedText, bind_eq_ok, exists_unit, raiseIf_eq_ok, not_or] at hblank
  exact hblank.1.1 rfl

theorem headKey_inj {tenant tenant' memory memory' : Str} {repository repository' : Option Str}
    (hr : repository ≠ some []) (hr' : repository' ≠ some [])
    (h : headKey tenant repository memory = headKey tenant' repository' memory') :
    tenant = tenant' ∧ repository = repository' ∧ memory = memory' := by
  simp only [headKey, Prod.mk.injEq] at h
  refine ⟨h.1, ?_, h.2.2⟩
  cases repository with
  | none =>
    cases repository' with
    | none => rfl
    | some v => exact absurd (congrArg some h.2.1.symm) hr'
  | some u =>
    cases repository' with
    | none => exact absurd (congrArg some h.2.1) hr
    | some v => exact congrArg some h.2.1

theorem number_of_last {l : List ActivationRow} {row : ActivationRow}
    (h : (l ++ [row]).map chainShape.version = List.range' 1 (l ++ [row]).length) :
    row.activation.revisionNumber = l.length + 1 := by
  rw [List.map_append, List.length_append, List.length_singleton, LogShape.range'_snoc] at h
  exact List.singleton_injective (List.append_inj_right' h rfl)

-- the activation that the durable head lets in is the next of its stream
theorem Coherent.next (h : Coherent db) {r : MemoryRevision} {approval : MemoryRevisionApproval}
    {previous : Option MemoryRevisionActivation} (hf : Follows db r approval previous) {key : Str × Str × Str}
    (hkey : headKey approval.tenantId approval.repositoryId approval.memoryId = key) :
    r.revisionNumber = (chainShape.stream db.activations key).length + 1 ∧
      previous.map MemoryRevisionActivation.activationId =
        chainShape.tailDigest (chainShape.stream db.activations key) := by
  have hhead := h.heads key
  have hnumbers := h.numbers key
  rcases List.eq_nil_or_concat' (chainShape.stream db.activations key) with hnil | ⟨l, last, hlast⟩
  · rw [hnil] at hhead ⊢
    obtain ⟨hone, hnone, -⟩ | ⟨row, p, hrow, -⟩ := hf.head
    · rw [hone, hnone]
      exact ⟨rfl, rfl⟩
    · rw [hkey, hhead] at hrow
      cases hrow
  · rw [hlast] at hhead hnumbers ⊢
    have hnumber := number_of_last hnumbers
    rw [List.getLast?_concat, Option.map_some] at hhead
    obtain ⟨-, -, hzero⟩ | ⟨row, p, hrow, hnext, -, ⟨id, hid, hp⟩, hprevious⟩ := hf.head
    · rw [hkey] at hzero
      have := hzero _ hhead
      rw [headOf, hnumber] at this
      cases this
    · rw [hkey, hhead] at hrow
      obtain rfl := Option.some.inj hrow
      rw [← hnext, List.length_append, List.length_singleton]
      refine ⟨congrArg Nat.succ hnumber, ?_⟩
      have hpid : p.activation.activationId = id := of_decide_eq_true (by simpa only using List.find?_some hp)
      rw [hprevious, Option.map_some, hpid, ← hid, LogShape.tailDigest, List.getLast?_concat]
      rfl

theorem Activated.backed {c : ActivationCall} {previous : Option MemoryRevisionActivation}
    {a : MemoryRevisionActivation} {out : PublicationDb}
    (h : Activated hash bytes codec c.submission c.approval c.approvalGrant previous c.event a)
    (hs : ActivationStep db c previous a out) (hf : Follows db c.submission.revision c.approval previous) :
    ∃ row, Backed db a row c.submission.revision.canonical := by
  have hbundle := requireProposalBundle_eq_ok.mp hs.bundle
  obtain ⟨row, hrow, happroval⟩ := hs.approval
  have hproposer : c.approval.approvedBy ≠ c.submission.revision.proposedBy := h.approved.proposer
  refine ⟨row, hrow, List.mem_of_find?_eq_some hbundle.revision, ?_, ?_, h.revisionId.symm, h.memoryId.symm,
    h.revisionNumber.symm, ?_, ?_, ?_⟩
  · rw [happroval, h.approvalId]
  · rw [happroval, h.approved.revisionId, h.revisionId]
  · rw [h.tenantId, h.repositoryId]
    exact h.approved.target
  · have hactivator := h.actors
    rw [List.mem_pair, not_or] at hactivator
    rw [happroval, h.activatedBy]
    simp only [List.nodup_cons, List.mem_cons, List.not_mem_nil, or_false, not_or, not_false_eq_true, List.nodup_nil,
      and_true]
    exact ⟨⟨hproposer.symm, fun hsame => hactivator.1 hsame.symm⟩, fun hsame => hactivator.2 hsame.symm⟩
  · intro id hid
    rw [h.previousActivationId, Option.mem_def, Option.map_eq_some_iff] at hid
    obtain ⟨p, hp, rfl⟩ := hid
    obtain ⟨-, hnone, -⟩ | ⟨_, prow, -, -, -, ⟨_, -, hfound⟩, hprevious⟩ := hf.head
    · rw [hnone] at hp
      cases hp
    · obtain rfl := Option.some.inj (hprevious.symm.trans hp)
      obtain ⟨-, hnone⟩ | ⟨hlater, _, hsame, hrevision, -⟩ := activationLineage_eq_ok.mp h.lineage
      · rw [hnone] at hp
        cases hp
      · obtain rfl := Option.some.inj (hsame.symm.trans hp)
        obtain ⟨hone, -⟩ | ⟨-, q, hq, hsucceeds⟩ := lineage_eq_ok.mp h.approved.lineage
        · exact absurd hone hlater
        · refine ⟨prow, List.mem_of_find?_eq_some hfound, q.canonical,
            List.mem_of_find?_eq_some (hbundle.previous q hq), rfl, ?_, ?_, hsucceeds.memoryKind.symm⟩
          · exact (Option.some.inj (hrevision.trans hsucceeds.previousRevisionId)).symm
          · rw [MemoryRevision.canonical, MemoryRevision.canonical, hsucceeds.scope]

theorem Coherent.base (h : Coherent db) {a : MemoryRevisionActivation} (hrepository : a.repositoryId ≠ some [])
    {approval : MemoryRevisionApproval} (htenant : a.tenantId = approval.tenantId)
    (hrepositoryId : a.repositoryId = approval.repositoryId) (hmemory : a.memoryId = approval.memoryId) :
    advanced ((db.heads.get? (activationKey a)).getD (emptyHead approval)) a = headOf a := by
  rw [h.heads]
  cases hlast : (chainShape.stream db.activations (activationKey a)).getLast? with
  | none =>
    simp only [Option.map_none, Option.getD_none, advanced, emptyHead, headOf, htenant, hrepositoryId, hmemory]
  | some last =>
    have hmem := List.mem_of_getLast? hlast
    have hkey := chainShape.key_of_mem_stream hmem
    obtain ⟨htenant', hrepository', hmemory'⟩ :=
      headKey_inj (h.targets last (List.mem_filter.mp hmem).1) hrepository hkey
    simp only [Option.map_some, Option.getD_some, advanced, headOf, htenant', hrepository', hmemory']

theorem Coherent.appendActivation (h : Coherent db) {c : ActivationCall} {out : PublicationDb × ActivationResult}
    (hout : appendActivation codec db hash bytes c = .ok out) : Coherent out.1 := by
  have hgrows := appendActivation_grows hout
  obtain ⟨previous, hactivated, hstep⟩ := appendActivation_eq_ok hout
  obtain ⟨hsame, -⟩ | ⟨hfollows, hdistinct, row, base, hrow, hbase, htables⟩ := hstep.tables
  · rw [hsame]
    exact h
  · have hrepository : row.activation.repositoryId ≠ some [] := hrow ▸ repositoryId_of_check hactivated.checked
    obtain ⟨approval, hbacked⟩ := hactivated.backed hstep hfollows
    have hkey : headKey c.approval.tenantId c.approval.repositoryId c.approval.memoryId = chainShape.key row := by
      simp only [chainShape, activationKey, hrow, hactivated.tenantId, hactivated.repositoryId, hactivated.memoryId,
        hactivated.approved.memoryId]
    obtain ⟨hnumber, hparent⟩ := h.next hfollows hkey
    have hhead : advanced base out.2.activation = headOf row.activation := by
      rw [← hbase, ← hrow]
      refine h.base hrepository ?_ ?_ ?_
      · rw [hrow, hactivated.tenantId]
      · rw [hrow, hactivated.repositoryId]
      · rw [hrow, hactivated.memoryId, hactivated.approved.memoryId]
    rw [htables] at hgrows ⊢
    refine ⟨h.proposals, h.approvals, ?_, ?_, fun key => ?_, fun key => ?_, fun key => ?_, ?_⟩
    · rw [List.map_append, List.map_singleton, List.nodup_append_comm, List.singleton_append, List.nodup_cons]
      refine ⟨fun hmem => ?_, h.activations⟩
      obtain ⟨other, hother, hsame⟩ := List.mem_map.mp hmem
      rw [hrow] at hsame
      exact (hdistinct other hother).2 hsame
    · rw [List.forall_mem_append, List.forall_mem_singleton]
      exact ⟨h.targets, hrepository⟩
    · by_cases hk : chainShape.key row = key
      · subst hk
        rw [chainShape.stream_snoc_self, List.map_append, h.numbers, List.length_append, List.length_singleton,
          LogShape.range'_snoc, ← hnumber, ← hactivated.revisionNumber, ← hrow]
        rfl
      · rw [chainShape.stream_snoc_of_ne _ hk]
        exact h.numbers key
    · by_cases hk : chainShape.key row = key
      · subst hk
        rw [chainShape.stream_snoc_self, LogShape.linked_snoc, Option.or_none, ← hparent,
          ← hactivated.previousActivationId, ← hrow]
        exact ⟨h.linked _, rfl⟩
      · rw [chainShape.stream_snoc_of_ne _ hk]
        exact h.linked key
    · by_cases hk : chainShape.key row = key
      · subst hk
        rw [chainShape.stream_snoc_self, List.getLast?_concat, Option.map_some, ← hhead, ← hrow]
        exact Dict.get?_set_self _ _ _
      · rw [chainShape.stream_snoc_of_ne _ hk, ← h.heads, ← hrow]
        exact Dict.get?_set_of_ne _ _ (Ne.symm hk)
    · rw [List.forall_mem_append, List.forall_mem_singleton]
      refine ⟨fun other hother => ?_, approval, c.submission.revision.canonical, ?_⟩
      · obtain ⟨approval', r, hbacked'⟩ := h.backed other hother
        exact ⟨approval', r, hbacked'.grow hgrows⟩
      · rw [hrow]
        exact hbacked.grow hgrows

theorem Coherent.apply (h : Coherent db) {call : Call} {out : PublicationDb × Reply}
    (hout : apply codec hash bytes db call = .ok out) : Coherent out.1 := by
  cases call with
  | storeProposal c =>
    obtain ⟨_, hstep, rfl⟩ := map_eq_ok.mp hout
    exact h.storeProposal hstep
  | appendApproval c =>
    obtain ⟨_, hstep, rfl⟩ := map_eq_ok.mp hout
    exact h.appendApproval hstep
  | appendActivation c =>
    obtain ⟨_, hstep, rfl⟩ := map_eq_ok.mp hout
    exact h.appendActivation hstep

theorem coherent_run (calls : List Call) : Coherent (run codec hash bytes calls) :=
  serveAll_invariant (fun _ _ _ h hout => h.apply hout) coherent_empty calls

end Preservation

section Laws

variable {codec : FloatCodec} {hash : TextHash} {bytes : ContentHash} {db : PublicationDb}

def activationsOf (db : PublicationDb) (tenantId : Str) (repositoryId : Option Str) (memoryId : Str) : List ActivationRow :=
  db.activations.filter (fun row => decide (row.activation.tenantId = tenantId ∧
    row.activation.repositoryId = repositoryId ∧ row.activation.memoryId = memoryId))

-- the key writes a missing repository as an empty text, which no repository has
def storedHead (db : PublicationDb) (tenantId : Str) (repositoryId : Option Str) (memoryId : Str) : Option HeadRow :=
  (db.heads.get? (headKey tenantId repositoryId memoryId)).filter (fun row => decide (row.repositoryId = repositoryId))

structure Chained (db : PublicationDb) (tenantId : Str) (repositoryId : Option Str) (memoryId : Str) : Prop where
  numbers : (activationsOf db tenantId repositoryId memoryId).map (fun row => row.activation.revisionNumber) =
    List.range' 1 (activationsOf db tenantId repositoryId memoryId).length
  linked : chainShape.Linked none (activationsOf db tenantId repositoryId memoryId)
  head : storedHead db tenantId repositoryId memoryId =
    (activationsOf db tenantId repositoryId memoryId).getLast?.map (fun row => headOf row.activation)

structure PublishedOnce (db : PublicationDb) (a : MemoryRevisionActivation) (row : ApprovalRow) (r : MemoryRevision) :
    Prop extends Backed db a row r where
  onlyApproval : db.approvals.filter (fun other => decide (other.approval.revisionId = a.revisionId)) = [row]
  onlyProposal : db.proposals.filter (fun other => decide (other.revisionId = a.revisionId)) = [r]

theorem filter_key_eq_singleton {α κ : Type} [DecidableEq κ] {f : α → κ} {l : List α} (hn : (l.map f).Nodup) {a : α}
    (ha : a ∈ l) : l.filter (fun b => decide (f b = f a)) = [a] := by
  induction l with
  | nil => cases ha
  | cons b l ih =>
    rw [List.map_cons, List.nodup_cons] at hn
    rcases List.mem_cons.mp ha with rfl | ha
    · rw [List.filter_cons_of_pos (by simp), List.filter_eq_nil_iff.mpr]
      intro b hb hsame
      exact hn.1 (of_decide_eq_true hsame ▸ List.mem_map_of_mem hb)
    · have hne : f b ≠ f a := fun hsame => hn.1 (hsame ▸ List.mem_map_of_mem ha)
      rw [List.filter_cons_of_neg (by simpa using hne), ih hn.2 ha]

theorem Coherent.activationsOf_eq (h : Coherent db) (tenantId : Str) {repositoryId : Option Str}
    (hr : repositoryId ≠ some []) (memoryId : Str) :
    activationsOf db tenantId repositoryId memoryId =
      chainShape.stream db.activations (headKey tenantId repositoryId memoryId) := by
  refine List.filter_congr fun row hrow => ?_
  rw [decide_eq_decide]
  constructor
  · rintro ⟨rfl, rfl, rfl⟩
    rfl
  · exact headKey_inj (h.targets row hrow) hr

theorem Coherent.activationsOf_blank (h : Coherent db) (tenantId memoryId : Str) :
    activationsOf db tenantId (some []) memoryId = [] := by
  refine List.filter_eq_nil_iff.mpr fun row hrow hsame => ?_
  exact h.targets row hrow (of_decide_eq_true hsame).2.1

theorem Coherent.chained (h : Coherent db) (tenantId : Str) (repositoryId : Option Str) (memoryId : Str) :
    Chained db tenantId repositoryId memoryId := by
  by_cases hr : repositoryId = some []
  · subst hr
    have hnil := h.activationsOf_blank tenantId memoryId
    refine ⟨by rw [hnil]; rfl, by rw [hnil]; trivial, ?_⟩
    rw [hnil, storedHead, h.heads, Option.filter_eq_none_iff.mpr]
    · rfl
    · intro row hrow hsame
      obtain ⟨last, hlast, rfl⟩ := Option.map_eq_some_iff.mp hrow
      exact h.targets last (List.mem_filter.mp (List.mem_of_getLast? hlast)).1 (of_decide_eq_true hsame)
  · have hstream := h.activationsOf_eq tenantId hr memoryId
    refine ⟨by rw [hstream]; exact h.numbers _, by rw [hstream]; exact h.linked _, ?_⟩
    rw [storedHead, h.heads, ← hstream]
    cases hlast : (activationsOf db tenantId repositoryId memoryId).getLast? with
    | none => rfl
    | some last =>
      have hmem := (List.mem_filter.mp (List.mem_of_getLast? hlast)).2
      rw [Option.map_some, Option.filter_some, if_pos]
      exact decide_eq_true (of_decide_eq_true hmem).2.1

theorem Coherent.publishedOnce (h : Coherent db) {row : ActivationRow} (hrow : row ∈ db.activations) :
    ∃ approval r, PublishedOnce db row.activation approval r := by
  obtain ⟨approval, r, hbacked⟩ := h.backed row hrow
  refine ⟨approval, r, hbacked, ?_, ?_⟩
  · rw [← hbacked.approvalRevision]
    exact filter_key_eq_singleton h.approvals hbacked.approval
  · rw [← hbacked.revisionId]
    exact filter_key_eq_singleton h.proposals hbacked.proposal

theorem apply_replay {call : Call} {out : PublicationDb × Reply} (h : apply codec hash bytes db call = .ok out)
    {later : PublicationDb} (hg : Grows out.1 later) (hc : Coherent later) :
    apply codec hash bytes later call = .ok (later, out.2.repeated) := by
  cases call with
  | storeProposal c =>
    obtain ⟨first, hstep, rfl⟩ := map_eq_ok.mp h
    have hid : first.2.revisionId = c.revision.revisionId := by
      simp only [storeProposal, bind_eq_ok, exists_unit] at hstep
      obtain ⟨-, hstep⟩ := hstep
      split at hstep
      · simp only [bind_eq_ok, exists_unit, pure_eq_ok] at hstep
        obtain ⟨_, -, -, rfl⟩ := hstep
        rfl
      · simp only [insertProposal, bind_eq_ok, exists_unit, pure_eq_ok] at hstep
        obtain ⟨_, -, _, -, _, -, _, -, _, -, -, rfl⟩ := hstep
        rfl
    rw [apply, storeProposal_replay hstep hg, ← hid]
    rfl
  | appendApproval c =>
    obtain ⟨_, hstep, rfl⟩ := map_eq_ok.mp h
    rw [apply, appendApproval_replay hstep hg]
    rfl
  | appendActivation c =>
    obtain ⟨_, hstep, rfl⟩ := map_eq_ok.mp h
    rw [apply, appendActivation_replay hstep hg hc.activations]
    rfl

theorem publication_chain (calls : List Call) :
    (∀ tenantId repositoryId memoryId, Chained (run codec hash bytes calls) tenantId repositoryId memoryId) ∧
      (∀ row ∈ (run codec hash bytes calls).activations, ∃ approval r,
        PublishedOnce (run codec hash bytes calls) row.activation approval r) ∧
      ∀ before call after out, calls = before ++ call :: after →
        apply codec hash bytes (run codec hash bytes before) call = .ok out →
          apply codec hash bytes (run codec hash bytes calls) call = .ok (run codec hash bytes calls, out.2.repeated) := by
  have hcoherent : Coherent (run codec hash bytes calls) := coherent_run calls
  refine ⟨hcoherent.chained, fun row hrow => hcoherent.publishedOnce hrow, ?_⟩
  rintro before call after out hcalls hout
  refine apply_replay hout ?_ hcoherent
  have hlater : run codec hash bytes calls = serveAll codec hash bytes out.1 after := by
    rw [hcalls, run, serveAll, List.foldl_append, List.foldl_cons]
    change serveAll codec hash bytes (serve codec hash bytes (run codec hash bytes before) call) after = _
    rw [serve, hout]
  rw [hlater]
  exact serveAll_grows out.1 after

end Laws

end Publication

end TraceBackedMemory
