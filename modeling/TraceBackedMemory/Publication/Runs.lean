import TraceBackedMemory.Publication.Proposals

namespace TraceBackedMemory

open Text Raising OrderBy Json Replay

namespace Publication

open EventContract (TextHash)

open Migration (keyed keyed_eq_some keyed_eq_none)

open Authorization (mapError_eq_ok)

section Approvals

variable {codec : FloatCodec} {hash : TextHash} {bytes : ContentHash} {db : PublicationDb}

theorem contractual_eq_ok {α : Type} {x : Except GateError α} {a : α} : contractual x = .ok a ↔ x = .ok a :=
  mapError_eq_ok

theorem putApproval_eq_ok {row : ApprovalRow} {out : PublicationDb × Bool} (h : putApproval codec db row = .ok out) :
    (db.approval? row.approval.approvalId = some row ∧ out.1 = db) ∨
      (∀ other ∈ db.approvals, other.approval.revisionId ≠ row.approval.revisionId) ∧
        db.approval? row.approval.approvalId = none ∧ out.1 = { db with approvals := db.approvals ++ [row] } := by
  unfold putApproval at h
  split at h
  · rename_i stored hstored
    simp only [bind_eq_ok, exists_unit, raiseIf_eq_ok, not_not, pure_eq_ok] at h
    obtain ⟨rfl, rfl⟩ := h
    exact .inl ⟨hstored, rfl⟩
  · rename_i hnone
    simp only [bind_eq_ok, exists_unit, raiseIf_eq_ok, not_exists, not_and, pure_eq_ok] at h
    obtain ⟨hunique, -, -, rfl⟩ := h
    exact .inr ⟨hunique, hnone, rfl⟩

-- the tables after an approval was appended, or found
structure ApprovalStep (db : PublicationDb) (s : Submission) (a : MemoryRevisionApproval) (out : PublicationDb) :
    Prop where
  bundle : requireProposalBundle db s = .ok ()
  tables : out = db ∧ (∃ row ∈ db.approvals, row.approval = a) ∨ ∃ row : ApprovalRow, row.approval = a ∧
    (∀ other ∈ db.approvals, other.approval.revisionId ≠ a.revisionId) ∧ db.approval? a.approvalId = none ∧
      out = { db with approvals := db.approvals ++ [row] }

theorem appendApproval_eq_ok {c : ApprovalCall} {out : PublicationDb × ApprovalResult}
    (h : appendApproval codec db hash bytes c = .ok out) :
    Approved hash bytes codec c.submission c.grant c.event out.2.approval ∧
      ApprovalStep db c.submission out.2.approval out.1 := by
  simp only [appendApproval, bind_eq_ok, exists_unit, contractual_eq_ok, pure_eq_ok] at h
  obtain ⟨approval, happrove, -, texts, -, hbundle, ⟨written, inserted⟩, hput, _, -, -, rfl⟩ := h
  refine ⟨approve_eq_ok happrove, hbundle, ?_⟩
  rcases putApproval_eq_ok hput with ⟨hstored, rfl⟩ | ⟨hunique, hnone, rfl⟩
  · exact .inl ⟨rfl, _, List.mem_of_find?_eq_some hstored, rfl⟩
  · exact .inr ⟨_, rfl, hunique, hnone, rfl⟩

end Approvals

section Activations

variable {codec : FloatCodec} {hash : TextHash} {bytes : ContentHash} {db : PublicationDb}

theorem loadApprovalRow_eq_ok {id : Str} {row : ApprovalRow} (h : loadApprovalRow codec db id = .ok row) :
    db.approval? id = some row := by
  simp only [loadApprovalRow, bind_eq_ok, exists_unit, demand_eq_ok, pure_eq_ok] at h
  obtain ⟨_, hrow, -, rfl⟩ := h
  exact hrow

theorem loadActivationRow_eq_ok {id : Str} {row : ActivationRow} (h : loadActivationRow codec db id = .ok row) :
    db.activation? id = some row := by
  simp only [loadActivationRow, bind_eq_ok, exists_unit, demand_eq_ok, pure_eq_ok] at h
  obtain ⟨_, hrow, -, rfl⟩ := h
  exact hrow

theorem selectHead_eq_ok {key : Str × Str × Str} {head : Option Head} (h : selectHead codec db key = .ok head) :
    (head = none ∧ ∀ row, db.heads.get? key = some row → row.currentRevisionNumber = 0) ∨
      ∃ row x, head = some x ∧ db.heads.get? key = some row ∧ x.currentRevisionNumber = row.currentRevisionNumber ∧
        row.currentRevisionId = some x.currentRevisionId ∧ row.currentActivationId = some x.currentActivationId := by
  unfold selectHead at h
  split at h
  · rename_i hnone
    cases h
    refine .inl ⟨rfl, fun row hrow => ?_⟩
    rw [hnone] at hrow
    cases hrow
  · rename_i row hrow
    split at h
    · rename_i hzero
      simp only [bind_eq_ok, exists_unit, pure_eq_ok] at h
      obtain ⟨-, rfl⟩ := h
      refine .inl ⟨rfl, fun other hother => ?_⟩
      obtain rfl := Option.some.inj (hrow.symm.trans hother)
      exact hzero
    · simp only [bind_eq_ok, exists_unit, demand_eq_ok, pure_eq_ok] at h
      obtain ⟨_, hrevision, _, hactivation, _, -, -, rfl⟩ := h
      exact .inr ⟨row, _, rfl, hrow, rfl, hrevision, hactivation⟩

structure Follows (db : PublicationDb) (r : MemoryRevision) (a : MemoryRevisionApproval)
    (previous : Option MemoryRevisionActivation) : Prop where
  fresh : db.activationOf? r.revisionId = none
  head : (r.revisionNumber = 1 ∧ previous = none ∧
      ∀ row, db.heads.get? (headKey a.tenantId a.repositoryId a.memoryId) = some row → row.currentRevisionNumber = 0) ∨
    ∃ row p, db.heads.get? (headKey a.tenantId a.repositoryId a.memoryId) = some row ∧
      row.currentRevisionNumber + 1 = r.revisionNumber ∧ row.currentRevisionId = r.previousRevisionId ∧
        (∃ id, row.currentActivationId = some id ∧ db.activation? id = some p) ∧ previous = some p.activation

theorem predecessor_eq_ok {r : MemoryRevision} {a : MemoryRevisionApproval}
    {out : PublicationDb × Option MemoryRevisionActivation} (h : predecessor codec db r a = .ok out) :
    (out.1 = db ∧ db.activationOf? r.revisionId ≠ none) ∨
      Follows db r a out.2 ∧ (out.1 = db ∧ out.2 ≠ none ∨ out.1 = openHead db a ∧ out.2 = none) := by
  unfold predecessor at h
  split at h
  · rename_i existing hexisting
    simp only [bind_eq_ok, pure_eq_ok] at h
    obtain ⟨_, -, _, -, rfl⟩ := h
    exact .inl ⟨rfl, by rw [hexisting]; exact Option.some_ne_none _⟩
  · rename_i hfresh
    simp only [bind_eq_ok] at h
    obtain ⟨head, hhead, h⟩ := h
    rcases selectHead_eq_ok hhead with ⟨rfl, hzero⟩ | ⟨row, x, rfl, hrow, hnumber, hrevision, hactivation⟩
    · simp only [bind_eq_ok, exists_unit, raiseIf_eq_ok, not_not, pure_eq_ok] at h
      obtain ⟨hone, rfl⟩ := h
      exact .inr ⟨⟨hfresh, .inl ⟨hone, rfl, hzero⟩⟩, .inr ⟨rfl, rfl⟩⟩
    · simp only [bind_eq_ok, exists_unit, raiseIf_eq_ok, not_or, not_not, pure_eq_ok] at h
      obtain ⟨⟨hnext, hprevious⟩, p, hp, rfl⟩ := h
      refine .inr ⟨⟨hfresh, .inr ⟨row, p, hrow, ?_, ?_, ⟨_, hactivation, loadActivationRow_eq_ok hp⟩, rfl⟩⟩,
        .inl ⟨rfl, Option.some_ne_none _⟩⟩
      · rw [← hnumber, hnext]
      · rw [hrevision, hprevious]

theorem writeActivation_eq_ok {row : ActivationRow} {out : PublicationDb × Bool}
    (h : writeActivation codec db row = .ok out) :
    (db.activation? row.activation.activationId = some row ∧ out.1 = db) ∨
      ∃ head, db.activation? row.activation.activationId = none ∧ insertable db row.activation ∧
        db.heads.get? (activationKey row.activation) = some head ∧
          out.1 = { db with activations := db.activations ++ [row],
                            heads := db.heads.set (activationKey row.activation)
                              { head with currentRevisionNumber := row.activation.revisionNumber,
                                          currentRevisionId := some row.activation.revisionId,
                                          currentActivationId := some row.activation.activationId } } := by
  simp only [writeActivation, bind_eq_ok] at h
  obtain ⟨⟨written, inserted⟩, hput, h⟩ := h
  unfold putActivation at hput
  split at hput
  · rename_i stored hstored
    simp only [bind_eq_ok, exists_unit, raiseIf_eq_ok, not_not, pure_eq_ok] at hput
    obtain ⟨rfl, hsame⟩ := hput
    cases hsame
    cases h
    exact .inl ⟨hstored, rfl⟩
  · rename_i hnone
    simp only [bind_eq_ok, exists_unit, raiseIf_eq_ok, not_not, pure_eq_ok] at hput
    obtain ⟨hinsertable, -, hsame⟩ := hput
    cases hsame
    simp only [if_true, advanceHead, bind_eq_ok, exists_unit, demand_eq_ok, pure_eq_ok] at h
    obtain ⟨_, ⟨head, hhead, -, rfl⟩, -, rfl⟩ := h
    exact .inr ⟨head, hnone, hinsertable, hhead, rfl⟩

def emptyHead (a : MemoryRevisionApproval) : HeadRow := ⟨a.tenantId, a.repositoryId, a.memoryId, 0, none, none⟩

def advanced (base : HeadRow) (a : MemoryRevisionActivation) : HeadRow :=
  { base with currentRevisionNumber := a.revisionNumber, currentRevisionId := some a.revisionId,
              currentActivationId := some a.activationId }

-- the tables after an activation was inserted
structure ActivationInserted (db : PublicationDb) (r : MemoryRevision) (approval : MemoryRevisionApproval)
    (previous : Option MemoryRevisionActivation) (a : MemoryRevisionActivation) (out : PublicationDb) : Prop where
  follows : Follows db r approval previous
  distinct : ∀ other ∈ db.activations,
    other.activation.activationId ≠ a.activationId ∧ other.activation.revisionId ≠ a.revisionId
  tables : ∃ row base, row.activation = a ∧ (db.heads.get? (activationKey a)).getD (emptyHead approval) = base ∧
    out = { db with activations := db.activations ++ [row],
                    heads := db.heads.set (activationKey a) (advanced base a) }

structure ActivationStep (db : PublicationDb) (c : ActivationCall) (previous : Option MemoryRevisionActivation)
    (a : MemoryRevisionActivation) (out : PublicationDb) : Prop where
  bundle : requireProposalBundle db c.submission = .ok ()
  approval : ∃ row ∈ db.approvals, row.approval = c.approval
  tables : out = db ∧ (∃ row ∈ db.activations, row.activation = a) ∨
    ActivationInserted db c.submission.revision c.approval previous a out

-- the head row may have been opened for the memory just before
theorem opened_heads {opened : PublicationDb} {a : MemoryRevisionApproval} (h : opened = db ∨ opened = openHead db a) :
    opened = { db with heads := opened.heads } ∧
      ∀ head, opened.heads.get? (headKey a.tenantId a.repositoryId a.memoryId) = some head →
        (db.heads.get? (headKey a.tenantId a.repositoryId a.memoryId)).getD (emptyHead a) = head ∧
          ∀ new, opened.heads.set (headKey a.tenantId a.repositoryId a.memoryId) new =
            db.heads.set (headKey a.tenantId a.repositoryId a.memoryId) new := by
  rcases h with rfl | rfl
  · refine ⟨rfl, fun head hhead => ⟨?_, fun _ => rfl⟩⟩
    rw [hhead]
    rfl
  · unfold openHead
    split
    · refine ⟨rfl, fun head hhead => ⟨?_, fun _ => rfl⟩⟩
      rw [hhead]
      rfl
    · rename_i hnone
      refine ⟨rfl, fun head hhead => ?_⟩
      rw [PublicationDb.setHead, Dict.get?_set_self, Option.some.injEq] at hhead
      rw [hnone]
      exact ⟨hhead, fun new => Dict.set_set _ _ _ _⟩

theorem appendActivation_eq_ok {c : ActivationCall} {out : PublicationDb × ActivationResult}
    (h : appendActivation codec db hash bytes c = .ok out) :
    ∃ previous, Activated hash bytes codec c.submission c.approval c.approvalGrant previous c.event out.2.activation ∧
      ActivationStep db c previous out.2.activation out.1 := by
  simp only [appendActivation, bind_eq_ok, exists_unit, contractual_eq_ok, raiseIf_eq_ok, not_or, not_not,
    pure_eq_ok] at h
  obtain ⟨-, hbundle, stored, hstored, texts, -, ⟨happroval, -⟩, ⟨opened, previous⟩, hpredecessor, a, hactivate, texts', -,
    ⟨written, inserted⟩, hwrite, _, -, -, rfl⟩ := h
  have hactivated := activate_eq_ok hactivate
  have hrevision : a.revisionId = c.submission.revision.revisionId := hactivated.revisionId
  refine ⟨previous, hactivated, hbundle,
    ⟨stored, List.mem_of_find?_eq_some (loadApprovalRow_eq_ok hstored), happroval⟩, ?_⟩
  have hwritten := writeActivation_eq_ok hwrite
  rcases predecessor_eq_ok hpredecessor with ⟨hopened, hexisting⟩ | ⟨hfollows, hopened⟩
  · obtain rfl : opened = db := hopened
    rcases hwritten with ⟨hfound, hsame⟩ | ⟨head, -, hinsertable, -, -⟩
    · exact .inl ⟨hsame, _, List.mem_of_find?_eq_some hfound, rfl⟩
    · obtain ⟨existing, hrow⟩ := Option.ne_none_iff_exists'.mp hexisting
      have hkey := List.find?_some hrow
      exact absurd ((of_decide_eq_true hkey).trans hrevision.symm)
        (hinsertable.1 existing (List.mem_of_find?_eq_some hrow)).2.1
  · have hkey : activationKey a =
        headKey c.approval.tenantId c.approval.repositoryId c.approval.memoryId := by
      rw [activationKey, hactivated.tenantId, hactivated.repositoryId, hactivated.memoryId,
        hactivated.approved.memoryId]
    obtain ⟨htables, hheads⟩ := opened_heads (hopened.imp And.left And.left)
    have hactivations : opened.activations = db.activations := by
      simpa only using congrArg PublicationDb.activations htables
    have hfresh : ∀ other ∈ db.activations, other.activation.revisionId ≠ a.revisionId := by
      intro other hother hsame
      refine keyed_eq_none.mp hfollows.fresh ?_
      rw [← hrevision, ← hsame]
      exact List.mem_map_of_mem hother
    rcases hwritten with ⟨hfound, -⟩ | ⟨head, hnone, -, hhead, hsame⟩
    · have hmem := List.mem_of_find?_eq_some hfound
      rw [hactivations] at hmem
      exact absurd rfl (hfresh _ hmem)
    · obtain rfl : written = _ := hsame
      refine .inr ⟨hfollows, fun other hother => ⟨fun hsame => ?_, hfresh other hother⟩,
        ⟨a, texts'.policy, texts'.request, texts'.decision, c.verifier.verifierId⟩, head, rfl, ?_, ?_⟩
      · refine keyed_eq_none.mp hnone ?_
        rw [hactivations]
        exact hsame ▸ List.mem_map_of_mem hother
      · rw [hkey] at hhead ⊢
        exact (hheads head hhead).1
      · obtain ⟨heads, rfl⟩ : ∃ heads, opened = { db with heads := heads } := ⟨_, htables⟩
        rw [hkey] at hhead ⊢
        rw [← (hheads head hhead).2]
        rfl

end Activations

end Publication

end TraceBackedMemory
