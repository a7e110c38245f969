import TraceBackedMemory.Publication.Freezing

namespace TraceBackedMemory

open Text Raising OrderBy Json Replay

namespace Publication

open EventContract (TextHash sampleFloats)

open Migration (keyed_eq_some keyed_eq_none sound_lit)

section Times

variable {codec : FloatCodec} {hash : TextHash} {bytes : ContentHash} {db : PublicationDb} {key : Str × Str × Str}

def activatedInstants (db : PublicationDb) (key : Str × Str × Str) : List Nat :=
  (chainShape.stream db.activations key).map (fun row => row.activation.activatedAt.instant)

def proposedInstant (db : PublicationDb) (row : ActivationRow) : Nat :=
  ((db.proposal? row.activation.revisionId).map (fun r => r.proposedAt.instant)).getD 0

def proposedInstants (db : PublicationDb) (key : Str × Str × Str) : List Nat :=
  (chainShape.stream db.activations key).map (proposedInstant db)

-- a first activation of a revision is not earlier than that of the revision that the memory's head names
def Timely (db : PublicationDb) (c : ActivationCall) : Prop :=
  db.activationOf? c.submission.revision.revisionId = none →
    ∀ row ∈ db.activations,
      db.heads.get? (headKey c.approval.tenantId c.approval.repositoryId c.approval.memoryId) =
          some (headOf row.activation) →
        ∀ t, publicationTime c.event.activatedAt (lit "activated_at") = .ok t → row.activation.activatedAt.instant ≤ t.instant

theorem Coherent.version (h : Coherent db) {i : Nat} (hi : i < (chainShape.stream db.activations key).length) :
    (chainShape.stream db.activations key)[i].activation.revisionNumber = i + 1 := by
  have hnumbers := List.getElem_of_eq (h.numbers key) (by rw [List.length_map]; exact hi)
  rw [List.getElem_map, List.getElem_range'] at hnumbers
  exact hnumbers.trans (by omega)

theorem Coherent.revision (h : Coherent db) {row : ActivationRow} (hrow : row ∈ db.activations) :
    ∃ r ∈ db.proposals, r.revisionId = row.activation.revisionId ∧ r.memoryId = row.activation.memoryId ∧
      r.revisionNumber = row.activation.revisionNumber ∧ proposedInstant db row = r.proposedAt.instant := by
  obtain ⟨approval, r, hbacked⟩ := h.backed row hrow
  refine ⟨r, hbacked.proposal, hbacked.revisionId, hbacked.memoryId, hbacked.revisionNumber, ?_⟩
  have hfound : db.proposal? row.activation.revisionId = some r :=
    (keyed_eq_some h.proposals).mpr ⟨hbacked.proposal, hbacked.revisionId⟩
  rw [proposedInstant, hfound]
  rfl

theorem proposed_in_order (h : Coherent db) (hl : Lined db) (key : Str × Str × Str) :
    (proposedInstants db key).Pairwise (· ≤ ·) := by
  rw [proposedInstants, List.pairwise_map]
  have : Trans (fun a b : ActivationRow => proposedInstant db a ≤ proposedInstant db b)
      (fun a b : ActivationRow => proposedInstant db a ≤ proposedInstant db b)
      (fun a b : ActivationRow => proposedInstant db a ≤ proposedInstant db b) := ⟨Nat.le_trans⟩
  refine List.isChain_iff_pairwise.mp (List.isChain_iff_getElem.mpr fun i hi => ?_)
  have hbefore := List.getElem_mem (Nat.lt_of_succ_lt hi)
  have hafter := List.getElem_mem hi
  have hmemory : (chainShape.stream db.activations key)[i].activation.memoryId =
      (chainShape.stream db.activations key)[i + 1].activation.memoryId := by
    have hkey := (chainShape.key_of_mem_stream hbefore).trans (chainShape.key_of_mem_stream hafter).symm
    exact congrArg (fun key => key.2.2) hkey
  have hnumber := h.version (Nat.lt_of_succ_lt hi)
  have hnext := h.version hi
  obtain ⟨q, hq, -, hqmemory, hqnumber, hqtime⟩ := h.revision (List.mem_filter.mp hbefore).1
  obtain ⟨p, hp, -, hpmemory, hpnumber, hptime⟩ := h.revision (List.mem_filter.mp hafter).1
  rw [hqtime, hptime]
  exact (hl.succeeds h (List.mem_filter.mp hafter).1 hp hq hpmemory hpnumber
    (hqmemory.trans (hmemory.trans hpmemory.symm)) (by omega) (by omega)).proposedAt

theorem pairwise_snoc {l : List Nat} {last n : Nat} (h : (l ++ [last]).Pairwise (· ≤ ·)) (hn : last ≤ n) :
    (l ++ [last] ++ [n]).Pairwise (· ≤ ·) := by
  rw [List.pairwise_append] at h
  obtain ⟨hl, -, hlast⟩ := h
  have hbelow : ∀ x ∈ l ++ [last], x ≤ last := by
    rw [List.forall_mem_append, List.forall_mem_singleton]
    exact ⟨fun x hx => hlast x hx last (List.mem_singleton_self last), le_rfl⟩
  rw [List.pairwise_append]
  refine ⟨List.pairwise_append.mpr ⟨hl, List.pairwise_singleton _ _, hlast⟩, List.pairwise_singleton _ _, fun x hx y hy => ?_⟩
  rw [List.mem_singleton.mp hy]
  exact (hbelow x hx).trans hn

-- an accepted call leaves the activations alone, or adds one behind those of its memory
theorem activated_cases {c : ActivationCall} {out : PublicationDb × ActivationResult}
    (hout : appendActivation codec db hash bytes c = .ok out) :
    out.1.activations = db.activations ∧ db.activationOf? c.submission.revision.revisionId ≠ none ∨
      db.activationOf? c.submission.revision.revisionId = none ∧
      ∃ row t, out.1.activations = db.activations ++ [row] ∧ row.activation.activatedAt = t ∧
        publicationTime c.event.activatedAt (lit "activated_at") = .ok t ∧
        headKey c.approval.tenantId c.approval.repositoryId c.approval.memoryId = chainShape.key row := by
  obtain ⟨previous, hactivated, hstep⟩ := appendActivation_eq_ok hout
  obtain ⟨hsame, row, hmem, hrow⟩ | ⟨hfollows, -, row, base, hrow, -, htables⟩ := hstep.tables
  · left
    refine ⟨by rw [hsame], fun hnone => keyed_eq_none.mp hnone (List.mem_map.mpr ⟨row, hmem, ?_⟩)⟩
    rw [hrow]
    exact hactivated.revisionId
  · right
    refine ⟨hfollows.fresh, row, _, by rw [htables], rfl, ?_, ?_⟩
    · rw [hrow]
      exact hactivated.activatedAt
    · simp only [chainShape, activationKey, hrow, hactivated.tenantId, hactivated.repositoryId, hactivated.memoryId,
        hactivated.approved.memoryId]

theorem appendActivation_in_order (h : Coherent db) (hordered : ∀ key, (activatedInstants db key).Pairwise (· ≤ ·))
    {c : ActivationCall} {out : PublicationDb × ActivationResult} (hout : appendActivation codec db hash bytes c = .ok out)
    (ht : Timely db c) (key : Str × Str × Str) : (activatedInstants out.1 key).Pairwise (· ≤ ·) := by
  obtain ⟨hsame, -⟩ | ⟨hfresh, row, t, hactivations, hrow, htime, hkey⟩ := activated_cases hout
  · rw [activatedInstants, hsame]
    exact hordered key
  · rw [activatedInstants, hactivations]
    by_cases hk : chainShape.key row = key
    · subst hk
      rw [chainShape.stream_snoc_self, List.map_append, List.map_singleton]
      have hbefore := hordered (chainShape.key row)
      rw [activatedInstants] at hbefore
      have hhead := h.heads (chainShape.key row)
      rcases List.eq_nil_or_concat' (chainShape.stream db.activations (chainShape.key row)) with hnil | ⟨l, last, hlast⟩
      · rw [hnil]
        exact List.pairwise_singleton _ _
      · rw [hlast, List.map_append, List.map_singleton] at hbefore ⊢
        rw [hlast, List.getLast?_concat, Option.map_some] at hhead
        have hmem : last ∈ db.activations := by
          have hin : last ∈ chainShape.stream db.activations (chainShape.key row) := by
            rw [hlast]
            exact List.mem_append_right l (List.mem_singleton_self last)
          exact (List.mem_filter.mp hin).1
        have hlater := ht hfresh last hmem (by rw [hkey]; exact hhead) t htime
        exact pairwise_snoc hbefore (by rw [hrow]; exact hlater)
    · rw [chainShape.stream_snoc_of_ne _ hk]
      exact hordered key

theorem Timely.of_in_order (h : Coherent db) {c : ActivationCall} {out : PublicationDb × ActivationResult}
    (hout : appendActivation codec db hash bytes c = .ok out)
    (hordered : ∀ key, (activatedInstants out.1 key).Pairwise (· ≤ ·)) : Timely db c := by
  intro hfresh last hlast hhead t ht
  obtain ⟨-, hknown⟩ | ⟨-, row, u, hactivations, hrow, htime, hkey⟩ := activated_cases hout
  · exact absurd hfresh hknown
  · obtain rfl : t = u := Except.ok.inj (ht.symm.trans htime)
    have hafter := hordered (chainShape.key row)
    rw [activatedInstants, hactivations, chainShape.stream_snoc_self, List.map_append, List.map_singleton,
      List.pairwise_append] at hafter
    have hmem : last ∈ chainShape.stream db.activations (chainShape.key row) := by
      rw [hkey, h.heads, Option.map_eq_some_iff] at hhead
      obtain ⟨top, htop, hsame⟩ := hhead
      have hin := List.mem_of_getLast? htop
      have hrevision : top.activation.revisionId = last.activation.revisionId :=
        Option.some.inj (congrArg HeadRow.currentRevisionId hsame)
      exact List.inj_on_of_nodup_map h.activations (List.mem_filter.mp hin).1 hlast hrevision ▸ hin
    have hbelow := hafter.2.2 _ (List.mem_map_of_mem hmem) _ (List.mem_singleton_self _)
    rw [hrow] at hbelow
    exact hbelow

theorem storeProposal_activations {c : Proposal} {out : PublicationDb × StoreResult}
    (h : storeProposal codec db c = .ok out) : out.1.activations = db.activations := by
  obtain ⟨-, ⟨-, hsame⟩ | ⟨-, -, -, -, hinserted⟩⟩ := storeProposal_eq_ok h
  · rw [hsame]
  · rw [hinserted.tables]

theorem appendApproval_activations {c : ApprovalCall} {out : PublicationDb × ApprovalResult}
    (h : appendApproval codec db hash bytes c = .ok out) : out.1.activations = db.activations := by
  obtain ⟨-, -, ⟨hsame, -⟩ | ⟨row, -, -, -, hout⟩⟩ := appendApproval_eq_ok h
  · rw [hsame]
  · rw [hout]

theorem serve_in_order (h : Coherent db) (hordered : ∀ key, (activatedInstants db key).Pairwise (· ≤ ·)) (call : Call)
    (ht : ∀ c, call = .appendActivation c → (∃ out, appendActivation codec db hash bytes c = .ok out) → Timely db c)
    (key : Str × Str × Str) : (activatedInstants (serve codec hash bytes db call) key).Pairwise (· ≤ ·) := by
  unfold serve
  split
  · rename_i out hout
    cases call with
    | storeProposal c =>
      obtain ⟨stored, hstep, rfl⟩ := map_eq_ok.mp hout
      have hsame : stored.1.activations = db.activations := storeProposal_activations hstep
      rw [activatedInstants, hsame]
      exact hordered key
    | appendApproval c =>
      obtain ⟨stored, hstep, rfl⟩ := map_eq_ok.mp hout
      have hsame : stored.1.activations = db.activations := appendApproval_activations hstep
      rw [activatedInstants, hsame]
      exact hordered key
    | appendActivation c =>
      obtain ⟨stored, hstep, rfl⟩ := map_eq_ok.mp hout
      exact appendActivation_in_order h hordered hstep (ht c rfl ⟨stored, hstep⟩) key
  · exact hordered key

end Times

section Laws

variable {codec : FloatCodec} {hash : TextHash} {bytes : ContentHash}

theorem run_concat (calls : List Call) (call : Call) :
    run codec hash bytes (calls ++ [call]) = serve codec hash bytes (run codec hash bytes calls) call := by
  rw [run, serveAll, List.foldl_append]
  rfl

theorem run_split (earlier : List Call) (call : Call) (more : List Call) :
    run codec hash bytes (earlier ++ call :: more) =
      serveAll codec hash bytes (serve codec hash bytes (run codec hash bytes earlier) call) more := by
  rw [run, serveAll, List.foldl_append, List.foldl_cons]
  rfl

theorem stream_grows {shorter longer : List ActivationRow} (h : shorter <+: longer) (key : Str × Str × Str) :
    chainShape.stream shorter key <+: chainShape.stream longer key := by
  obtain ⟨rest, rfl⟩ := h
  exact ⟨_, (List.filter_append _ _).symm⟩

theorem activation_times_in_order_iff (calls : List Call) :
    (∀ key, (activatedInstants (run codec hash bytes calls) key).Pairwise (· ≤ ·) ∧
      (proposedInstants (run codec hash bytes calls) key).Pairwise (· ≤ ·)) ↔
    ∀ earlier c more, calls = earlier ++ .appendActivation c :: more →
      (∃ out, appendActivation codec (run codec hash bytes earlier) hash bytes c = .ok out) →
        Timely (run codec hash bytes earlier) c := by
  constructor
  · intro h earlier c more hcalls hout
    obtain ⟨out, hout⟩ := hout
    refine Timely.of_in_order (coherent_run earlier) hout fun key => ?_
    have hserved : serve codec hash bytes (run codec hash bytes earlier) (.appendActivation c) = out.1 := by
      rw [serve, apply, hout]
      rfl
    have hgrows := (serveAll_grows out.1 more : Grows out.1 (serveAll codec hash bytes out.1 more)).activations
    have hfinal := (h key).1
    rw [hcalls, run_split, hserved] at hfinal
    exact hfinal.sublist ((stream_grows hgrows key).sublist.map _)
  · intro h key
    refine ⟨?_, proposed_in_order (coherent_run calls) (lined_run calls) key⟩
    induction calls using List.reverseRecOn generalizing key with
    | nil => exact List.Pairwise.nil
    | append_singleton calls call ih =>
      have hbefore := ih fun earlier c more hcalls => h earlier c (more ++ [call]) (by rw [hcalls]; simp)
      rw [run_concat]
      exact serve_in_order (coherent_run calls) hbefore call (fun c hcall => h calls c [] (by rw [hcall])) key

theorem canonical_followingTime : canonicalRfc3339 (lit "2024-05-02T12:00:00Z") = .ok (lit "2024-05-02T12:00:00Z") := by
  decide +kernel

def followingTime : CanonicalTime :=
  ⟨lit "2024-05-02T12:00:00Z", GateEvents.canonicalText_of_ok canonical_followingTime⟩

theorem sampleTime_lt : sampleTime.instant < followingTime.instant := by
  decide +kernel

-- the second activation carries an earlier time than the first
theorem activation_time_runs_backwards : ∃ calls key first second,
    activatedInstants (run sampleFloats lengthTexts sampleHash calls) key = [first, second] ∧ second < first := by
  obtain ⟨id, later, hdrafted⟩ := @exists_drafted (lit "tenant") (lit "tenant") (lit "memory") sampleHash (sound_lit rfl)
    (sound_lit rfl) (sound_lit rfl) rfl
  obtain ⟨calls, row, last, hpublished⟩ := @exists_first _ _ _ sampleTime followingTime lengthTexts sampleHash
    hdrafted.first le_rfl sampleTime_lt.le
  have hfirst : plain (lit "2024-05-02T12:00:00Z") := plain_lit rfl
  have hsecond : plain (lit "2024-05-01T12:00:00Z") := plain_lit rfl
  have hlength : (lit "2024-05-01T12:00:00Z").length = (lit "2024-05-02T12:00:00Z").length := by decide
  obtain ⟨done, second, hactivations, htime, hkey⟩ := @exists_second _ _ _ _ _ _ _ _ _ _ hdrafted hpublished le_rfl
    sampleTime le_rfl hlength hfirst hsecond
  refine ⟨done, chainShape.key last, followingTime.instant, sampleTime.instant, ?_, sampleTime_lt⟩
  have hsame : chainShape.key second = chainShape.key last := hkey
  rw [activatedInstants, hactivations, LogShape.stream]
  simp [hsame, htime, hpublished.activatedAt]

end Laws

end Publication

end TraceBackedMemory
