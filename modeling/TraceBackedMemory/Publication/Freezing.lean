import TraceBackedMemory.Publication.Publishing

namespace TraceBackedMemory

open Text Raising OrderBy Json Replay

namespace Publication

open EventContract (TextHash sampleFloats)

open Migration (AuthorizationScope sound_lit)

section Slots

variable {codec : FloatCodec} {hash : TextHash} {bytes : ContentHash} {db out : PublicationDb}

theorem Succeeds.canonical {r p : MemoryRevision} (h : Succeeds r p) : Succeeds r.canonical p.canonical where
  previousRevisionId := h.previousRevisionId
  memoryId := h.memoryId
  memoryKind := h.memoryKind
  revisionNumber := h.revisionNumber
  scope := congrArg AuthorizationScope.canonical h.scope
  proposedAt := h.proposedAt

-- one proposal for each number of a memory, and approvals only for proposals that follow another
structure Lined (db : PublicationDb) : Prop where
  slots : ∀ p ∈ db.proposals, ∀ q ∈ db.proposals, p.memoryId = q.memoryId → p.revisionNumber = q.revisionNumber → p = q
  approvals : ∀ row ∈ db.approvals, ∃ r ∈ db.proposals, r.revisionId = row.approval.revisionId ∧
    (r.revisionNumber ≠ 1 → ∃ q ∈ db.proposals, Succeeds r q)
  sequences : ∀ row ∈ db.activations, row.activation.activationSequence = row.activation.revisionNumber

theorem lined_empty : Lined .empty := ⟨List.forall_mem_nil _, List.forall_mem_nil _, List.forall_mem_nil _⟩

theorem Lined.approvals_grow (h : Lined db) (hg : Grows db out) : ∀ row ∈ db.approvals, ∃ r ∈ out.proposals,
    r.revisionId = row.approval.revisionId ∧ (r.revisionNumber ≠ 1 → ∃ q ∈ out.proposals, Succeeds r q) := by
  intro row hrow
  obtain ⟨r, hr, hid, hfollows⟩ := h.approvals row hrow
  refine ⟨r, hg.proposals.subset hr, hid, fun hlater => ?_⟩
  obtain ⟨q, hq, hsucceeds⟩ := hfollows hlater
  exact ⟨q, hg.proposals.subset hq, hsucceeds⟩

theorem Lined.storeProposal (h : Lined db) {c : Proposal} {out : PublicationDb × StoreResult}
    (hout : storeProposal codec db c = .ok out) : Lined out.1 := by
  have hgrows := storeProposal_grows hout
  obtain ⟨-, ⟨-, hsame⟩ | ⟨-, -, hslot, -, hinserted⟩⟩ := storeProposal_eq_ok hout
  · rw [hsame]
    exact h
  · have happrovals : out.1.approvals = db.approvals := by rw [hinserted.tables]
    have hproposals : out.1.proposals = db.proposals ++ [c.revision] := by rw [hinserted.tables]
    have hactivations : out.1.activations = db.activations := by rw [hinserted.tables]
    refine ⟨?_, by rw [happrovals]; exact h.approvals_grow hgrows, by rw [hactivations]; exact h.sequences⟩
    rw [hproposals]
    intro p hp q hq hmemory hnumber
    rw [List.mem_append, List.mem_singleton] at hp hq
    rcases hp with hp | rfl
    · rcases hq with hq | rfl
      · exact h.slots p hp q hq hmemory hnumber
      · exact absurd ⟨p, hp, hmemory, hnumber⟩ hslot
    · rcases hq with hq | rfl
      · exact absurd ⟨q, hq, hmemory.symm, hnumber.symm⟩ hslot
      · rfl

theorem Lined.appendApproval (h : Lined db) {c : ApprovalCall} {out : PublicationDb × ApprovalResult}
    (hout : appendApproval codec db hash bytes c = .ok out) : Lined out.1 := by
  obtain ⟨happroved, hbundle, ⟨hsame, -⟩ | ⟨row, hrow, -, -, htables⟩⟩ := appendApproval_eq_ok hout
  · rw [hsame]
    exact h
  · have hbundled := requireProposalBundle_eq_ok.mp hbundle
    rw [htables]
    refine ⟨h.slots, ?_, h.sequences⟩
    rw [List.forall_mem_append, List.forall_mem_singleton]
    refine ⟨h.approvals, c.submission.revision.canonical, List.mem_of_find?_eq_some hbundled.revision, ?_, ?_⟩
    · rw [hrow, happroved.revisionId]
      rfl
    · intro hlater
      obtain ⟨hone, -⟩ | ⟨-, q, hq, hsucceeds⟩ := lineage_eq_ok.mp happroved.lineage
      · exact absurd hone hlater
      · exact ⟨q.canonical, List.mem_of_find?_eq_some (hbundled.previous q hq), hsucceeds.canonical⟩

theorem sequence_of_check {a : MemoryRevisionActivation} (h : a.check hash codec = .ok ()) :
    a.activationSequence = a.revisionNumber := by
  simp only [MemoryRevisionActivation.check, bind_eq_ok, exists_unit, raiseIf_eq_ok, not_not] at h
  exact h.2.2.2.2.2.1

theorem Lined.appendActivation (h : Lined db) {c : ActivationCall} {out : PublicationDb × ActivationResult}
    (hout : appendActivation codec db hash bytes c = .ok out) : Lined out.1 := by
  obtain ⟨_, hactivated, -, -, ⟨hsame, -⟩ | ⟨-, -, row, _, hrow, -, htables⟩⟩ := appendActivation_eq_ok hout
  · rw [hsame]
    exact h
  · rw [htables]
    refine ⟨h.slots, h.approvals, ?_⟩
    rw [List.forall_mem_append, List.forall_mem_singleton, hrow]
    exact ⟨h.sequences, sequence_of_check hactivated.checked⟩

theorem Lined.apply (h : Lined db) {call : Call} {out : PublicationDb × Reply}
    (hout : apply codec hash bytes db call = .ok out) : Lined out.1 := by
  cases call with
  | storeProposal c =>
    obtain ⟨_, hstep, rfl⟩ := map_eq_ok.mp hout
    exact h.storeProposal hstep
  | appendApproval c =>
    obtain ⟨_, hstep, rfl⟩ := map_eq_ok.mp hout
    exact h.appendApproval hstep
  | appendActivation c =>
    obtain ⟨_, hstep, rfl⟩ := map_eq_ok.mp hout
    exact h.appendActivation hstep

theorem lined_run (calls : List Call) : Lined (run codec hash bytes calls) :=
  serveAll_invariant (fun _ _ _ h hout => h.apply hout) lined_empty calls

end Slots

section Heads

variable {codec : FloatCodec} {hash : TextHash} {bytes : ContentHash} {db later : PublicationDb} {key : Str × Str × Str}
  {head : HeadRow}

-- the proposal is for the number after the head's
def Next (head : HeadRow) (r : MemoryRevision) : Prop :=
  r.memoryId = head.memoryId ∧ r.revisionNumber = head.currentRevisionNumber + 1

-- the head's activation, and the stored revision that it made active
structure Active (db : PublicationDb) (head : HeadRow) (active : MemoryRevision) (a : MemoryRevisionActivation) : Prop where
  proposal : active ∈ db.proposals
  activation : ∃ row ∈ db.activations, row.activation = a
  head : head = headOf a
  revisionId : active.revisionId = a.revisionId
  memoryId : active.memoryId = a.memoryId
  revisionNumber : active.revisionNumber = a.revisionNumber
  target : scopeTarget active.scope = .ok (a.tenantId, a.repositoryId)

theorem Coherent.last (h : Coherent db) (hhead : db.heads.get? key = some head) :
    ∃ l row, chainShape.stream db.activations key = l ++ [row] ∧ head = headOf row.activation ∧
      head.currentRevisionNumber = (chainShape.stream db.activations key).length := by
  have hlast := h.heads key
  have hnumbers := h.numbers key
  rcases List.eq_nil_or_concat' (chainShape.stream db.activations key) with hnil | ⟨l, row, hrow⟩
  · rw [hhead, hnil] at hlast
    cases hlast
  · rw [hhead, hrow, List.getLast?_concat, Option.map_some, Option.some.injEq] at hlast
    rw [hrow] at hnumbers
    refine ⟨l, row, hrow, hlast, ?_⟩
    rw [hlast, hrow, List.length_append, List.length_singleton]
    exact number_of_last hnumbers

theorem Coherent.active (h : Coherent db) (hhead : db.heads.get? key = some head) :
    ∃ active a, Active db head active a := by
  obtain ⟨l, row, hrow, rfl, -⟩ := h.last hhead
  have hmem : row ∈ chainShape.stream db.activations key := by
    rw [hrow]
    exact List.mem_append_right l (List.mem_singleton_self row)
  have hstored := (List.mem_filter.mp hmem).1
  obtain ⟨approval, r, hbacked⟩ := h.backed row hstored
  exact ⟨r, row.activation, hbacked.proposal, ⟨row, hstored, rfl⟩, rfl, hbacked.revisionId, hbacked.memoryId,
    hbacked.revisionNumber, hbacked.target⟩

theorem Active.at_head {active : MemoryRevision} {a : MemoryRevisionActivation} (h : Active db head active a) :
    active.memoryId = head.memoryId ∧ active.revisionNumber = head.currentRevisionNumber := by
  rw [h.head]
  exact ⟨h.memoryId, h.revisionNumber⟩

theorem Coherent.number_pos (h : Coherent db) (hhead : db.heads.get? key = some head) : 0 < head.currentRevisionNumber := by
  obtain ⟨l, row, hrow, -, hlength⟩ := h.last hhead
  rw [hlength, hrow, List.length_append, List.length_singleton]
  exact Nat.succ_pos _

theorem Coherent.memoryId (h : Coherent db) (hhead : db.heads.get? key = some head) : key.2.2 = head.memoryId := by
  obtain ⟨l, row, hrow, rfl, -⟩ := h.last hhead
  have hmem : row ∈ chainShape.stream db.activations key := by
    rw [hrow]
    exact List.mem_append_right l (List.mem_singleton_self row)
  rw [← chainShape.key_of_mem_stream hmem]
  rfl

-- an activated revision that is not a first one follows the one before it
theorem Lined.succeeds (h : Lined db) (hc : Coherent db) {row : ActivationRow} (hrow : row ∈ db.activations)
    {p active : MemoryRevision} (hp : p ∈ db.proposals) (hactive : active ∈ db.proposals)
    (hmemory : p.memoryId = row.activation.memoryId) (hnumber : p.revisionNumber = row.activation.revisionNumber)
    (hsame : active.memoryId = p.memoryId) (hnext : p.revisionNumber = active.revisionNumber + 1)
    (hlater : p.revisionNumber ≠ 1) : Succeeds p active := by
  obtain ⟨approval, r, hbacked⟩ := hc.backed row hrow
  obtain rfl : r = p := h.slots r hbacked.proposal p hp (hbacked.memoryId.trans hmemory.symm)
    (hbacked.revisionNumber.trans hnumber.symm)
  obtain ⟨s, hs, hid, hfollows⟩ := h.approvals approval hbacked.approval
  have hsid : s.revisionId = r.revisionId := hid.trans (hbacked.approvalRevision.trans hbacked.revisionId.symm)
  obtain rfl : s = r := List.inj_on_of_nodup_map hc.proposals hs hp hsid
  obtain ⟨q, hq, hsucceeds⟩ := hfollows hlater
  have hbefore := hsucceeds.revisionNumber
  obtain rfl : q = active := h.slots q hq active hactive (hsucceeds.memoryId.symm.trans hsame.symm) (by omega)
  exact hsucceeds

-- a slot taken by a proposal that does not follow the active revision keeps the head where it is
theorem Lined.frozen (hhead : db.heads.get? key = some head) {p active : MemoryRevision}
    {a : MemoryRevisionActivation} (hactive : Active db head active a)
    (hp : p ∈ db.proposals) (hn : Next head p) (hs : ¬Succeeds p active) (hg : Grows db later) (hc : Coherent db)
    (hc' : Coherent later) (h' : Lined later) : later.heads.get? key = some head := by
  obtain ⟨more, hmore⟩ := hg.activations
  have hpos := hc.number_pos hhead
  obtain ⟨-, -, -, -, hlength⟩ := hc.last hhead
  have hstream : chainShape.stream later.activations key =
      chainShape.stream db.activations key ++ chainShape.stream more key := by
    rw [← hmore, LogShape.stream_append]
  have hnone : chainShape.stream more key = [] := by
    by_contra hsome
    have hlonger : 0 < (chainShape.stream more key).length := List.length_pos_of_ne_nil hsome
    have hnumbers := hc'.numbers key
    have hnumber : head.currentRevisionNumber + 1 ∈ (chainShape.stream later.activations key).map chainShape.version := by
      rw [hnumbers, List.mem_range'_1, hstream, List.length_append]
      omega
    obtain ⟨row, hrow, hversion⟩ := List.mem_map.mp hnumber
    have hkey : activationKey row.activation = key := chainShape.key_of_mem_stream hrow
    have hmemory : row.activation.memoryId = head.memoryId := by
      rw [← hc.memoryId hhead, ← hkey]
      rfl
    refine hs (h'.succeeds hc' (List.mem_filter.mp hrow).1 (hg.proposals.subset hp)
      (hg.proposals.subset hactive.proposal) (hn.1.trans hmemory.symm) (hn.2.trans hversion.symm)
      (hactive.at_head.1.trans hn.1.symm) ?_ ?_)
    · rw [hn.2, hactive.at_head.2]
    · rw [hn.2]
      omega
  rw [hc'.heads, hstream, hnone, List.append_nil, ← hc.heads, hhead]

theorem Lined.refuses (h : Lined db) {p : MemoryRevision} (hp : p ∈ db.proposals) {c : Proposal}
    (hmemory : c.revision.memoryId = p.memoryId) (hnumber : c.revision.revisionNumber = p.revisionNumber)
    (hout : ∃ out, Publication.storeProposal codec db c = .ok out) : c.revision = p := by
  obtain ⟨-, ⟨row, hrow, hbundle⟩ | ⟨-, -, hslot, -⟩⟩ := storeProposal_accepts.mp hout
  · obtain rfl : c.revision = row := (loadBundle_eq_ok hbundle).1
    exact h.slots _ (List.mem_of_find?_eq_some hrow) p hp hmemory hnumber
  · exact absurd ⟨p, hp, hmemory.symm, hnumber.symm⟩ hslot

theorem Active.accepts {active : MemoryRevision} {a : MemoryRevisionActivation} (h : Active db head active a)
    (hpos : 0 < head.currentRevisionNumber) (hfree : ∀ p ∈ db.proposals, ¬Next head p) {c : Proposal} (hsound : Sound c)
    (hadmissible : Admissible codec db c) (hfresh : db.proposal? c.revision.revisionId = none)
    (hs : Succeeds c.revision active) : ∃ out, storeProposal codec db c = .ok out := by
  have hmemory : c.revision.memoryId = head.memoryId := hs.memoryId.trans h.at_head.1
  have hnumber : c.revision.revisionNumber = head.currentRevisionNumber + 1 := by
    rw [hs.revisionNumber, h.at_head.2]
  refine storeProposal_accepts.mpr ⟨hsound, .inr ⟨hfresh, hadmissible, ?_, ?_⟩⟩
  · rintro ⟨p, hp, hsame, hslot⟩
    exact hfree p hp ⟨hsame.trans hmemory, hslot.trans hnumber⟩
  · unfold parentContinues
    rw [if_neg (by omega)]
    exact ⟨active, h.proposal, hs.previousRevisionId.symm, hs.memoryId.symm, hs.revisionNumber.symm⟩

theorem Active.lineages {active : MemoryRevision} {a : MemoryRevisionActivation} (h : Active db head active a)
    (hl : Lined db) (hpos : 0 < head.currentRevisionNumber) {p : MemoryRevision} (hs : Succeeds p active) :
    lineage p (some active) = .ok () ∧ activationLineage p (some a) = .ok () := by
  obtain ⟨row, hrow, rfl⟩ := h.activation
  have hnumber := hs.revisionNumber
  have hactive := h.at_head.2
  have hlater : p.revisionNumber ≠ 1 := by omega
  have htarget := h.target
  simp only [scopeTarget, bind_eq_ok, exists_unit, demand_eq_ok, pure_eq_ok, Prod.mk.injEq] at htarget
  obtain ⟨-, tenant, htenant, rfl, hrepository⟩ := htarget
  refine ⟨lineage_eq_ok.mpr (.inr ⟨hlater, active, rfl, hs⟩), activationLineage_eq_ok.mpr (.inr ⟨hlater, _, rfl, ?_⟩)⟩
  rw [hl.sequences row hrow, ← h.revisionId, ← h.memoryId, ← h.revisionNumber, hs.scope]
  exact ⟨hs.previousRevisionId.symm, hs.memoryId.symm, hnumber.symm, hnumber.symm, htenant.symm, hrepository.symm⟩

end Heads

section Laws

variable {codec : FloatCodec} {hash : TextHash} {bytes : ContentHash}

theorem coherent_serveAll {db : PublicationDb} (h : Coherent db) (calls : List Call) :
    Coherent (serveAll codec hash bytes db calls) := serveAll_invariant (fun _ _ _ h hout => h.apply hout) h calls

theorem lined_serveAll {db : PublicationDb} (h : Lined db) (calls : List Call) :
    Lined (serveAll codec hash bytes db calls) := serveAll_invariant (fun _ _ _ h hout => h.apply hout) h calls

-- the number after the active one: while no proposal has it, every sound proposal that follows the active
-- revision is accepted; once one has it, no other ever is, and if it does not follow the active revision
-- the memory stays where it is
structure Decided (codec : FloatCodec) (hash : TextHash) (bytes : ContentHash) (db : PublicationDb)
    (key : Str × Str × Str) (head : HeadRow) (current : MemoryRevision) (a : MemoryRevisionActivation) : Prop where
  active : Active db head current a
  free : (∀ p ∈ db.proposals, ¬Next head p) → ∀ c, Sound c → Admissible codec db c →
    db.proposal? c.revision.revisionId = none → Succeeds c.revision current → ∃ out, storeProposal codec db c = .ok out
  follows : ∀ p ∈ db.proposals, Next head p → Succeeds p current →
    lineage p (some current) = .ok () ∧ activationLineage p (some a) = .ok ()
  sole : ∀ p ∈ db.proposals, Next head p → ∀ later c, Next head c.revision →
    (∃ out, storeProposal codec (serveAll codec hash bytes db later) c = .ok out) → c.revision = p
  frozen : ∀ p ∈ db.proposals, Next head p → ¬Succeeds p current → ∀ later,
    (serveAll codec hash bytes db later).heads.get? key = some head

theorem Active.decided {db : PublicationDb} {key : Str × Str × Str} {head : HeadRow} {active : MemoryRevision}
    {a : MemoryRevisionActivation} (h : Active db head active a) (hc : Coherent db) (hl : Lined db)
    (hhead : db.heads.get? key = some head) : Decided codec hash bytes db key head active a where
  active := h
  free hfree _ := h.accepts (hc.number_pos hhead) hfree
  follows _ _ _ := h.lineages hl (hc.number_pos hhead)
  sole p hp hnext later c hsame hout := by
    have hlater : Lined (serveAll codec hash bytes db later) := lined_serveAll hl later
    exact hlater.refuses ((serveAll_grows db later).proposals.subset hp) (hsame.1.trans hnext.1.symm)
      (hsame.2.trans hnext.2.symm) hout
  frozen p hp hnext hstray later :=
    Lined.frozen hhead h hp hnext hstray (serveAll_grows db later) hc (coherent_serveAll hc later) (lined_serveAll hl later)

theorem next_number_decided (calls : List Call) {key : Str × Str × Str} {head : HeadRow}
    (hhead : (run codec hash bytes calls).heads.get? key = some head) :
    ∃ active a, Decided codec hash bytes (run codec hash bytes calls) key head active a := by
  obtain ⟨active, a, hactive⟩ := (coherent_run calls).active hhead
  exact ⟨active, a, hactive.decided (coherent_run calls) (lined_run calls) hhead⟩

theorem exists_stray : ∃ (id later : Str) (calls : List Call) (row : ApprovalRow) (last : ActivationRow),
    Drafted sampleHash (lit "tenant_a") (lit "tenant_b") (lit "memory") id later ∧
      PublishedFirst lengthTexts sampleHash (policyRevision sampleHash (lit "tenant_a") (lit "memory") 1 none id)
        (lit "tenant_a") sampleTime sampleTime calls row last := by
  have hlengths : (canonicalText sampleFloats.repr (.str (lit "tenant_b"))).length =
      (canonicalText sampleFloats.repr (.str (lit "tenant_a"))).length := by
    have hfirst : plain (lit "tenant_a") := plain_lit rfl
    have hsecond : plain (lit "tenant_b") := plain_lit rfl
    rw [canonicalText, canonicalText, length_quoted hfirst, length_quoted hsecond]
    decide
  obtain ⟨id, later, hdrafted⟩ := @exists_drafted (lit "tenant_a") (lit "tenant_b") (lit "memory") sampleHash (sound_lit rfl)
    (sound_lit rfl) (sound_lit rfl) hlengths
  obtain ⟨calls, row, last, hpublished⟩ := @exists_first _ _ _ sampleTime sampleTime lengthTexts sampleHash hdrafted.first
    le_rfl le_rfl
  exact ⟨id, later, calls, row, last, hdrafted, hpublished⟩

theorem next_number_decided_sample : ∃ calls key head active a,
    (run sampleFloats lengthTexts sampleHash calls).heads.get? key = some head ∧
      Decided sampleFloats lengthTexts sampleHash (run sampleFloats lengthTexts sampleHash calls) key head active a := by
  obtain ⟨id, later, calls, row, last, -, hpublished⟩ := exists_stray
  obtain ⟨active, a, hdecided⟩ := next_number_decided calls hpublished.head
  exact ⟨calls, _, _, active, a, hpublished.head, hdecided⟩

-- a stored second revision of another tenant: no other second revision is ever accepted, and none is ever activated
theorem stray_proposal_freezes : ∃ (first stray : MemoryRevision) (calls : List Call) (key : Str × Str × Str)
    (head : HeadRow), first.check lengthTexts sampleFloats = .ok () ∧ stray.check lengthTexts sampleFloats = .ok () ∧
      (run sampleFloats lengthTexts sampleHash calls).proposals = [first, stray] ∧
        (run sampleFloats lengthTexts sampleHash calls).heads.get? key = some head ∧ Next head stray ∧
          ∀ later,
            (∀ c, Next head c.revision → (∃ out, storeProposal sampleFloats (serveAll sampleFloats lengthTexts sampleHash
              (run sampleFloats lengthTexts sampleHash calls) later) c = .ok out) → c.revision = stray) ∧
              (serveAll sampleFloats lengthTexts sampleHash (run sampleFloats lengthTexts sampleHash calls)
                later).heads.get? key = some head := by
  obtain ⟨id, later, calls, row, last, hdrafted, hpublished⟩ := exists_stray
  obtain ⟨fixes, regressions, htables⟩ := hdrafted.stored hpublished
  obtain ⟨g, hactivated⟩ := hpublished.activated
  obtain ⟨done, hdone⟩ : ∃ done, done = calls ++ [.storeProposal (policyProposal sampleHash (lit "tenant_b") (lit "memory") 2
      (some id) later)] := ⟨_, rfl⟩
  rw [← hdone] at htables
  have hproposals : (run sampleFloats lengthTexts sampleHash done).proposals =
      [policyRevision sampleHash (lit "tenant_a") (lit "memory") 1 none id,
        policyRevision sampleHash (lit "tenant_b") (lit "memory") 2 (some id) later] := by rw [htables]
  have hhead : (run sampleFloats lengthTexts sampleHash done).heads.get? (activationKey last.activation) =
      some (headOf last.activation) := by
    rw [htables]
    exact hpublished.head
  have hmemory : last.activation.memoryId = lit "memory" := hactivated.memoryId
  have hnumber : last.activation.revisionNumber = 1 := hactivated.revisionNumber
  have hnext : Next (headOf last.activation) (policyRevision sampleHash (lit "tenant_b") (lit "memory") 2 (some id) later) :=
    ⟨hmemory.symm, (congrArg Nat.succ hnumber).symm⟩
  have htenant : lit "tenant_b" ≠ lit "tenant_a" := by decide
  obtain ⟨active, a, hactive⟩ := (coherent_run done).active hhead
  have hstray : ¬Succeeds (policyRevision sampleHash (lit "tenant_b") (lit "memory") 2 (some id) later) active := by
    intro hsucceeds
    have hmem := hactive.proposal
    rw [hproposals, List.mem_pair] at hmem
    rcases hmem with rfl | rfl
    · have hscope : (some (lit "tenant_b")) = some (lit "tenant_a") := congrArg AuthorizationScope.tenantId hsucceeds.scope
      exact htenant (Option.some.inj hscope)
    · have hnumber := hsucceeds.revisionNumber
      omega
  have hdecided := @Active.decided sampleFloats lengthTexts sampleHash _ _ _ _ _ hactive (coherent_run done) (lined_run done)
    hhead
  have hmem : policyRevision sampleHash (lit "tenant_b") (lit "memory") 2 (some id) later ∈
      (run sampleFloats lengthTexts sampleHash done).proposals := by
    rw [hproposals]
    exact List.mem_cons_of_mem _ (List.mem_singleton_self _)
  exact ⟨_, _, done, _, _, hdrafted.checked, hdrafted.checkedNext, hproposals, hhead, hnext, fun more =>
    ⟨hdecided.sole _ hmem hnext more, hdecided.frozen _ hmem hnext hstray more⟩⟩

end Laws

end Publication

end TraceBackedMemory
