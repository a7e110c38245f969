import TraceBackedMemory.Projection.Activations
import TraceBackedMemory.Projection.Exactness
import Mathlib.Data.List.Chain

namespace TraceBackedMemory

open Text Raising OrderBy AtomicClient

namespace Projection

variable {sha : Sha256} {store : ProjectionCheckpointStore}

section Laws

variable (sha store)

structure Appended (a : ProjectionActivation) (s t : store.State) : Prop where
  head : a.headVersion =
    currentVersion (store.activations s a.projectionName a.partitionSha256) + 1
  previous : a.previousBuildId =
    currentBuild (store.activations s a.projectionName a.partitionSha256)
  checkpoints : ∀ c ∈ store.checkpoints s, c ∈ store.checkpoints t
  self : store.activations t a.projectionName a.partitionSha256 =
    store.activations s a.projectionName a.partitionSha256 ++ [a]
  other : ∀ n p, (n, p) ≠ (a.projectionName, a.partitionSha256) →
    store.activations t n p = store.activations s n p

structure Lawful : Prop where
  empty : ∀ n p, store.activations store.empty n p = []
  load : ∀ id s c, store.loadCheckpoint id s = .ok c → c ∈ store.checkpoints s ∧ c.buildId sha = id
  save : ∀ c s t, store.saveCheckpoint c s = .ok t →
    (∀ d ∈ store.checkpoints s, d ∈ store.checkpoints t) ∧
      store.activations t = store.activations s
  append : ∀ a version build s t, store.appendActivation a version build s = .ok t →
    Appended store a s t
  current : ∀ n p s o, store.currentActivation n p s = .ok o → o = (store.activations s n p).getLast?
  history : ∀ n p s l, store.activationHistory n p s = .ok l → l = store.activations s n p

theorem boundedHistory_eq_ok {l m : List ProjectionActivation} (h : boundedHistory l = .ok m) :
    m = l := by
  simp only [boundedHistory, bind_eq_ok, pure_eq_ok] at h
  obtain ⟨_, _, rfl⟩ := h
  rfl

end Laws

section InMemory

theorem saveCheckpoint_spec {c c' : ProjectionCheckpoint} {s t : CheckpointStore}
    (h : saveCheckpoint sha c s = .ok (c', t)) :
    ∀ d ∈ s.checkpoints.values, d ∈ t.checkpoints.values := by
  unfold saveCheckpoint at h
  split at h
  · simp only [bind_eq_ok, exists_unit, pure_eq_ok, Prod.mk.injEq] at h
    obtain ⟨_, _, _, _, rfl⟩ := h
    exact fun _ hd => hd
  · split at h
    · cases h
      exact fun _ hd => hd
    · rename_i hfresh
      cases h
      intro d hd
      show d ∈ (s.checkpoints.set (c.buildId sha) c).entries.map Prod.snd
      rw [Dict.entries_set_of_none c hfresh, List.map_append]
      exact List.mem_append_left _ hd

theorem InMemoryProjections.save_spec {c : ProjectionCheckpoint} {s t : InMemoryProjections sha}
    (h : s.save c = .ok t) :
    (∀ d ∈ s.checkpointStore.checkpoints.values, d ∈ t.checkpointStore.checkpoints.values) ∧
      t.activations = s.activations := by
  unfold InMemoryProjections.save at h
  split at h
  · rename_i saved hsaved
    cases h
    exact ⟨saveCheckpoint_spec hsaved, rfl⟩
  · cases h

theorem InMemoryProjections.append_spec {a : ProjectionActivation} {version : Nat}
    {build : Option Str} {s t : InMemoryProjections sha} (h : s.append a version build = .ok t) :
    Appended (inMemoryStore sha) a s t := by
  simp only [InMemoryProjections.append, bind_eq_ok, exists_unit, raiseIf_eq_ok, pure_eq_ok, not_or,
    ne_eq, not_not] at h
  obtain ⟨_, _, _, _, ⟨hhead, hprevious⟩, rfl⟩ := h
  refine ⟨hhead, hprevious, fun _ hc => hc, ?_, ?_⟩
  · show InMemoryProjections.history _ _ _ = _
    rw [InMemoryProjections.history, Dict.get?_set_self]
    rfl
  · intro n p hne
    simp only [inMemoryStore, InMemoryProjections.history, Dict.get?_set_of_ne _ _ hne]

theorem lawful_inMemory : Lawful sha (inMemoryStore sha) where
  empty _ _ := rfl
  load id s c h := by
    obtain ⟨_, hget⟩ := seq_eq_ok.mp h
    have hfound := demand_eq_ok.mp hget
    exact ⟨Dict.mem_values.mpr ⟨id, hfound⟩, s.keyed id c hfound⟩
  save c s t h := by
    obtain ⟨hkept, hsame⟩ := InMemoryProjections.save_spec h
    refine ⟨hkept, ?_⟩
    funext n p
    simp only [inMemoryStore, InMemoryProjections.history, hsame]
  append _ _ _ _ _ h := InMemoryProjections.append_spec h
  current _ _ _ _ h := by
    simp only [inMemoryStore, InMemoryProjections.current, seq_eq_ok, pure_eq_ok] at h
    exact h.2.2.symm
  history _ _ _ _ h := by
    simp only [inMemoryStore, InMemoryProjections.activationHistory, seq_eq_ok] at h
    exact boundedHistory_eq_ok h.2.2

end InMemory

section Sqlite

theorem orderedInsert_concat {α κ : Type} [LinearOrder κ] {key : α → κ} {a b : α} (l : List α)
    (h : key b ≤ key a) :
    List.orderedInsert (fun x y => key x ≤ key y) b (l ++ [a]) =
      List.orderedInsert (fun x y => key x ≤ key y) b l ++ [a] := by
  induction l with
  | nil => simp [h]
  | cons c l ih =>
    rw [List.cons_append, List.orderedInsert_cons, List.orderedInsert_cons, ih]
    split
    · rfl
    · rfl

theorem orderBy_concat {α κ : Type} [LinearOrder κ] {key : α → κ} {l : List α} {a : α}
    (h : ∀ b ∈ l, key b ≤ key a) : orderBy key (l ++ [a]) = orderBy key l ++ [a] := by
  induction l with
  | nil => rfl
  | cons b l ih =>
    obtain ⟨hb, hl⟩ := List.forall_mem_cons.mp h
    have hrest := ih hl
    rw [orderBy] at hrest ⊢
    rw [List.cons_append, List.insertionSort_cons, hrest, orderedInsert_concat _ hb]
    rfl

theorem le_currentVersion {l : List ProjectionActivation}
    (h : l.Pairwise (fun a b => a.headVersion ≤ b.headVersion)) :
    ∀ a ∈ l, a.headVersion ≤ currentVersion l := by
  intro a ha
  rcases List.eq_nil_or_concat l with rfl | ⟨before, last, rfl⟩
  · cases ha
  · rw [currentVersion, List.concat_eq_append, List.getLast?_concat]
    rw [List.concat_eq_append, List.pairwise_append] at h
    rw [List.concat_eq_append] at ha
    rcases List.mem_append.mp ha with ha | ha
    · exact h.2.2 a ha last (List.mem_singleton_self last)
    · rw [List.mem_singleton.mp ha]
      exact Nat.le_refl _

theorem SqliteProjections.history_append {rows : List ProjectionCheckpoint}
    {s : SqliteProjections} {a : ProjectionActivation}
    (h : a.headVersion = currentVersion (s.history a.projectionName a.partitionSha256) + 1) :
    SqliteProjections.history ⟨rows, s.activationRows ++ [a]⟩ a.projectionName a.partitionSha256 =
      s.history a.projectionName a.partitionSha256 ++ [a] := by
  have hself : [a].filter (fun b => decide (b.projectionName = a.projectionName ∧
      b.partitionSha256 = a.partitionSha256)) = [a] := by simp
  rw [SqliteProjections.history, List.filter_append, hself]
  apply orderBy_concat
  intro b hb
  have hle := le_currentVersion (orderBy_pairwise (fun a : ProjectionActivation => a.headVersion) _) b
    (mem_orderBy.mpr hb)
  rw [h]
  exact Nat.le_succ_of_le hle

theorem SqliteProjections.append_spec {access : LedgerAccessContext} {a : ProjectionActivation}
    {version : Nat} {build : Option Str} {s t : SqliteProjections}
    (h : s.append sha (access.partition.sha256 sha) a version build = .ok t) :
    Appended (sqliteStore sha access) a s t := by
  simp only [SqliteProjections.append, bind_eq_ok, exists_unit, raiseIf_eq_ok, pure_eq_ok, not_or,
    ne_eq, not_not] at h
  obtain ⟨_, _, _, _, ⟨_, _, hhead, hprevious⟩, _, rfl⟩ := h
  refine ⟨hhead, hprevious, fun _ hc => hc, SqliteProjections.history_append hhead, ?_⟩
  intro n p hne
  have hnone : [a].filter (fun b => decide (b.projectionName = n ∧ b.partitionSha256 = p)) = [] := by
    rw [List.filter_eq_nil_iff]
    intro b hb
    rw [List.mem_singleton.mp hb, decide_eq_true_eq]
    rintro ⟨rfl, rfl⟩
    exact hne rfl
  show SqliteProjections.history _ n p = SqliteProjections.history s n p
  rw [SqliteProjections.history, List.filter_append, hnone, List.append_nil]
  rfl

theorem onlyRow_eq_ok {missing several : ProjectionError} {rows : List ProjectionCheckpoint}
    {c : ProjectionCheckpoint} (h : SqliteProjections.onlyRow missing several rows = .ok c) :
    c ∈ rows := by
  unfold SqliteProjections.onlyRow at h
  split at h
  · cases h
  · cases h
    exact List.mem_singleton_self _
  · cases h

theorem SqliteProjections.save_spec {partition : Str} {c : ProjectionCheckpoint}
    {s t : SqliteProjections} (h : s.save sha partition c = .ok t) :
    (∀ d ∈ s.checkpointRows, d ∈ t.checkpointRows) ∧ t.activationRows = s.activationRows := by
  obtain ⟨_, h⟩ := seq_eq_ok.mp h
  unfold SqliteProjections.retainOrInsert at h
  split at h
  · simp only [bind_eq_ok, pure_eq_ok] at h
    obtain ⟨_, _, rfl⟩ := h
    exact ⟨fun _ hd => hd, rfl⟩
  · cases h
    exact ⟨fun _ hd => List.mem_append_left _ hd, rfl⟩

theorem lawful_sqlite (access : LedgerAccessContext) : Lawful sha (sqliteStore sha access) where
  empty _ _ := rfl
  load id s c h := by
    obtain ⟨_, hrow⟩ := seq_eq_ok.mp h
    obtain ⟨hmem, hbuild⟩ := List.mem_filter.mp (onlyRow_eq_ok hrow)
    exact ⟨hmem, (of_decide_eq_true hbuild).2⟩
  save c s t h := by
    obtain ⟨hkept, hsame⟩ := SqliteProjections.save_spec h
    refine ⟨hkept, ?_⟩
    funext n p
    simp only [sqliteStore, SqliteProjections.history, hsame]
  append _ _ _ _ _ h := SqliteProjections.append_spec h
  current _ _ _ _ h := by
    simp only [sqliteStore, SqliteProjections.current, SqliteProjections.activationHistory,
      bind_eq_ok, pure_eq_ok] at h
    obtain ⟨history, ⟨_, _, hhistory⟩, rfl⟩ := h
    rw [boundedHistory_eq_ok hhistory]
    rfl
  history _ _ _ _ h := by
    simp only [sqliteStore, SqliteProjections.activationHistory, seq_eq_ok] at h
    exact boundedHistory_eq_ok h.2

theorem lawful_store (backend : ProjectionBackend) : Lawful sha (backend.store sha) := by
  cases backend with
  | inMemory => exact lawful_inMemory
  | sqlite access => exact lawful_sqlite access

end Sqlite

section Chains

structure HistoryChain (sha : Sha256) (store : ProjectionCheckpointStore) (calls : List ProjectionCall)
    (s : store.State) (name partitionSha256 : Str) : Prop where
  versions : (store.activations s name partitionSha256).map (·.headVersion) =
    List.range' 1 (store.activations s name partitionSha256).length
  first : ∀ a ∈ (store.activations s name partitionSha256).head?, a.previousBuildId = none
  previous : (store.activations s name partitionSha256).IsChain
    (fun a b => b.previousBuildId = some a.targetBuildId)
  targets : ∀ a ∈ store.activations s name partitionSha256, ∃ c ∈ store.checkpoints s,
    c.buildId sha = a.targetBuildId ∧ c.projectionName = name ∧ c.partitionSha256 = partitionSha256
  compared : ∀ a ∈ store.activations s name partitionSha256, a.operation = .activate →
    ∀ replaced, a.previousBuildId = some replaced → ∃ call, .activate call ∈ calls ∧
      call.approved = true ∧ call.expectedHeadVersion + 1 = a.headVersion ∧
        ∃ comparison, call.comparison = some comparison ∧ comparison.activeBuildId = replaced ∧
          comparison.shadowBuildId = a.targetBuildId
  rolledBack : ∀ before a after, store.activations s name partitionSha256 = before ++ a :: after →
    a.operation = .rollback → ∃ b ∈ before, b.targetBuildId = a.targetBuildId

def Later (store : ProjectionCheckpointStore) (s t : store.State) : Prop :=
  (∀ c ∈ store.checkpoints s, c ∈ store.checkpoints t) ∧
    ∀ n p, store.activations s n p <+: store.activations t n p

theorem Later.refl (s : store.State) : Later store s s :=
  ⟨fun _ hc => hc, fun _ _ => List.prefix_refl _⟩

theorem Later.trans (a b c : store.State) (hab : Later store a b) (hbc : Later store b c) :
    Later store a c :=
  ⟨fun d hd => hbc.1 d (hab.1 d hd), fun n p => (hab.2 n p).trans (hbc.2 n p)⟩

theorem HistoryChain.empty (hlawful : Lawful sha store) (calls : List ProjectionCall) (n p : Str) :
    HistoryChain sha store calls store.empty n p := by
  have hnil := hlawful.empty n p
  refine ⟨?_, ?_, ?_, ?_, ?_, ?_⟩
  · rw [hnil]
    rfl
  · simp [hnil]
  · rw [hnil]
    exact .nil
  · simp [hnil]
  · simp [hnil]
  · intro before a after h
    rw [hnil] at h
    simp at h

variable {calls : List ProjectionCall} {s t : store.State} {n p : Str}

theorem HistoryChain.retained (h : HistoryChain sha store calls s n p)
    (hkept : ∀ c ∈ store.checkpoints s, c ∈ store.checkpoints t)
    (hsame : store.activations t n p = store.activations s n p) :
    HistoryChain sha store calls t n p := by
  refine ⟨?_, ?_, ?_, ?_, ?_, ?_⟩
  · rw [hsame]
    exact h.versions
  · rw [hsame]
    exact h.first
  · rw [hsame]
    exact h.previous
  · rw [hsame]
    intro a ha
    obtain ⟨c, hc, hscope⟩ := h.targets a ha
    exact ⟨c, hkept c hc, hscope⟩
  · rw [hsame]
    exact h.compared
  · rw [hsame]
    exact h.rolledBack

theorem HistoryChain.activated_before (h : HistoryChain sha store calls s n p)
    {a : ProjectionActivation} (ha : a ∈ store.activations s n p) {build : Str}
    (hprevious : a.previousBuildId = some build) :
    ∃ b ∈ store.activations s n p, b.targetBuildId = build := by
  obtain ⟨before, after, hsplit⟩ := List.append_of_mem ha
  rcases List.eq_nil_or_concat before with rfl | ⟨front, b, rfl⟩
  · have hnone := h.first a (by rw [hsplit]; rfl)
    rw [hnone] at hprevious
    cases hprevious
  · have hchain := h.previous
    rw [hsplit, List.concat_eq_append, List.append_assoc, List.isChain_append] at hchain
    have hlink := (List.isChain_cons_cons.mp hchain.2.1).1
    rw [hprevious] at hlink
    refine ⟨b, ?_, (Option.some.inj hlink).symm⟩
    rw [hsplit]
    simp

structure Permitted (sha : Sha256) (store : ProjectionCheckpointStore) (calls : List ProjectionCall)
    (s : store.State) (a : ProjectionActivation) : Prop where
  target : ∃ c ∈ store.checkpoints s, c.buildId sha = a.targetBuildId ∧
    c.projectionName = a.projectionName ∧ c.partitionSha256 = a.partitionSha256
  compared : a.operation = .activate → ∀ replaced, a.previousBuildId = some replaced →
    ∃ call, .activate call ∈ calls ∧ call.approved = true ∧
      call.expectedHeadVersion + 1 = a.headVersion ∧ ∃ comparison,
        call.comparison = some comparison ∧ comparison.activeBuildId = replaced ∧
          comparison.shadowBuildId = a.targetBuildId
  rolledBack : a.operation = .rollback →
    ∃ b ∈ store.activations s a.projectionName a.partitionSha256, b.targetBuildId = a.targetBuildId

theorem currentVersion_of_versions {l : List ProjectionActivation}
    (h : l.map (·.headVersion) = List.range' 1 l.length) : currentVersion l = l.length := by
  rcases List.eq_nil_or_concat l with rfl | ⟨front, last, rfl⟩
  · rfl
  · rw [List.concat_eq_append] at h ⊢
    rw [List.length_append, List.length_singleton, LogShape.range'_snoc, List.map_append,
      List.map_singleton] at h
    have hlast := (List.append_inj' h rfl).2
    rw [currentVersion, List.getLast?_concat, List.length_append, List.length_singleton]
    exact List.singleton_injective hlast

-- The appended activation extends the chain of its own projection and partition.
theorem HistoryChain.append {a : ProjectionActivation}
    (h : HistoryChain sha store calls s a.projectionName a.partitionSha256)
    (happend : Appended store a s t) (hpermitted : Permitted sha store calls s a) :
    HistoryChain sha store calls t a.projectionName a.partitionSha256 := by
  have hself := happend.self
  refine ⟨?_, ?_, ?_, ?_, ?_, ?_⟩
  · rw [hself, List.map_append, List.length_append, h.versions, List.map_singleton,
      List.length_singleton, LogShape.range'_snoc, happend.head, currentVersion_of_versions h.versions]
  · rw [hself]
    intro b hb
    cases hlist : store.activations s a.projectionName a.partitionSha256 with
    | nil =>
      rw [hlist] at hb
      cases hb
      rw [happend.previous, hlist]
      rfl
    | cons c l =>
      rw [hlist] at hb
      cases hb
      exact h.first b (by rw [hlist]; rfl)
  · rw [hself]
    refine List.isChain_append.mpr ⟨h.previous, .singleton a, ?_⟩
    intro last hlast b hb
    cases hb
    rw [happend.previous, currentBuild, hlast]
    rfl
  · rw [hself]
    intro b hb
    rcases List.mem_append.mp hb with hb | hb
    · obtain ⟨c, hc, hscope⟩ := h.targets b hb
      exact ⟨c, happend.checkpoints c hc, hscope⟩
    · rw [List.mem_singleton.mp hb]
      obtain ⟨c, hc, hscope⟩ := hpermitted.target
      exact ⟨c, happend.checkpoints c hc, hscope⟩
  · rw [hself]
    intro b hb
    rcases List.mem_append.mp hb with hb | hb
    · exact h.compared b hb
    · rw [List.mem_singleton.mp hb]
      exact hpermitted.compared
  · intro before b after hsplit hrollback
    rw [hself] at hsplit
    rcases List.eq_nil_or_concat after with rfl | ⟨rest, last, rfl⟩
    · obtain ⟨hbefore, hlast⟩ := List.append_inj' hsplit rfl
      cases hlast
      rw [← hbefore]
      exact hpermitted.rolledBack hrollback
    · rw [List.concat_eq_append, ← List.cons_append, ← List.append_assoc] at hsplit
      obtain ⟨hearlier, _⟩ := List.append_inj' hsplit rfl
      exact h.rolledBack before b rest hearlier hrollback

end Chains

section Clients

variable {calls : List ProjectionCall} {s t : store.State}

def Sound (sha : Sha256) (store : ProjectionCheckpointStore) (calls : List ProjectionCall)
    (s : store.State) : Prop :=
  ∀ n p, HistoryChain sha store calls s n p

theorem Appended.later {a : ProjectionActivation} (h : Appended store a s t) : Later store s t := by
  refine ⟨h.checkpoints, ?_⟩
  intro n p
  by_cases hkey : (n, p) = (a.projectionName, a.partitionSha256)
  · obtain ⟨rfl, rfl⟩ := Prod.mk.inj hkey
    rw [h.self]
    exact List.prefix_append _ _
  · rw [h.other n p hkey]

theorem Appended.sound {a : ProjectionActivation} (h : Appended store a s t)
    (hsound : Sound sha store calls s) (hpermitted : Permitted sha store calls s a) :
    Sound sha store calls t := by
  intro n p
  by_cases hkey : (n, p) = (a.projectionName, a.partitionSha256)
  · obtain ⟨rfl, rfl⟩ := Prod.mk.inj hkey
    exact (hsound _ _).append h hpermitted
  · exact (hsound n p).retained h.checkpoints (h.other n p hkey)

theorem accept_eq_ok {f : ActivationFields} {a : ProjectionActivation}
    (h : ProjectionActivation.accept f = .ok a) : a.toActivationFields = f := by
  unfold ProjectionActivation.accept at h
  split at h
  · cases h
    rfl
  · cases h

theorem activateCall_activation {c : ActivateCall} {shadow : ProjectionCheckpoint}
    {a : ProjectionActivation} (h : c.activation sha shadow = .ok a) :
    c.verifyComparison = .ok () ∧ a.projectionName = shadow.projectionName ∧
      a.partitionSha256 = shadow.partitionSha256 ∧ a.headVersion = c.expectedHeadVersion + 1 ∧
      a.targetBuildId = shadow.buildId sha ∧ a.previousBuildId = c.expectedCurrentBuildId ∧
      a.operation = .activate := by
  simp only [ActivateCall.activation, bind_eq_ok, exists_unit] at h
  obtain ⟨hcomparison, createdAt, _, haccept⟩ := h
  have hfields := accept_eq_ok haccept
  rw [hfields]
  exact ⟨hcomparison, rfl, rfl, rfl, rfl, rfl, rfl⟩

theorem rollbackCall_activation {c : RollbackCall} {target : Str} {a : ProjectionActivation}
    (h : c.activation target = .ok a) :
    a.projectionName = c.projectionName ∧ a.partitionSha256 = c.partitionSha256 ∧
      a.targetBuildId = target ∧ a.operation = .rollback := by
  simp only [RollbackCall.activation, bind_eq_ok] at h
  obtain ⟨createdAt, _, haccept⟩ := h
  have hfields := accept_eq_ok haccept
  rw [hfields]
  exact ⟨rfl, rfl, rfl, rfl⟩

theorem verifyComparison_bound {c : ActivateCall} (h : c.verifyComparison = .ok ()) {replaced : Str}
    (hreplaced : c.expectedCurrentBuildId = some replaced) :
    ∃ comparison, c.comparison = some comparison ∧ comparison.activeBuildId = replaced ∧
      comparison.shadowBuildId = c.shadowBuildId := by
  simp only [ActivateCall.verifyComparison, hreplaced, bind_eq_ok, demand_eq_ok, raiseIf_eq_ok,
    not_or, ne_eq, not_not] at h
  exact h

theorem safe_save (hlawful : Lawful sha store) (c : ProjectionCheckpoint) :
    Safe (Sound sha store calls) (Later store) (writing (store.saveCheckpoint c)) s := by
  apply safe_writing Later.refl
  intro t _ hsound u hsave
  obtain ⟨hkept, hsame⟩ := hlawful.save c t u hsave
  refine ⟨fun n p => (hsound n p).retained hkept (by rw [hsame]), hkept, ?_⟩
  intro n p
  rw [hsame]

theorem safe_activate (hlawful : Lawful sha store) {c : ActivateCall} (hc : .activate c ∈ calls) :
    Safe (Sound sha store calls) (Later store) (activateClient sha store c) s := by
  apply safe_requiring
  intro _ hcheck
  apply safe_reading Later.refl
  intro t _ _ shadow hload
  apply safe_requiring
  intro a ha
  apply safe_writing Later.refl
  intro u hlater hsound v happend
  obtain ⟨hshadow, hbuild⟩ := hlawful.load _ _ _ hload
  obtain ⟨hcomparison, hname, hpartition, hversion, htarget, hprevious, hoperation⟩ :=
    activateCall_activation ha
  have happended := hlawful.append _ _ _ _ _ happend
  refine ⟨happended.sound hsound ⟨?_, ?_, ?_⟩, happended.later⟩
  · exact ⟨shadow, hlater.1 _ hshadow, htarget.symm, hname.symm, hpartition.symm⟩
  · intro _ replaced hreplaced
    obtain ⟨comparison, hgiven, hactive, hbound⟩ :=
      verifyComparison_bound hcomparison (hprevious.symm.trans hreplaced)
    have happroved : c.approved = true := by
      have hfirst := (seq_eq_ok.mp hcheck).1
      exact Bool.eq_true_of_not_eq_false (raiseIf_eq_ok.mp hfirst)
    refine ⟨c, hc, happroved, hversion.symm, comparison, hgiven, hactive, ?_⟩
    rw [hbound, htarget, hbuild]
  · intro hrollback
    rw [hoperation] at hrollback
    cases hrollback

-- What the client saw stays true: histories only grow and checkpoints are never dropped.
theorem safe_appendRollback (hlawful : Lawful sha store) {c : RollbackCall} {target : Str}
    {shadow : ProjectionCheckpoint} (hshadow : shadow ∈ store.checkpoints s)
    (hbuild : shadow.buildId sha = target) (hscope : c.verifyScope shadow = .ok ())
    (htarget : ∃ b ∈ store.activations s c.projectionName c.partitionSha256,
      b.targetBuildId = target) :
    Safe (Sound sha store calls) (Later store) (appendRollback store c target) s := by
  apply safe_requiring
  intro a ha
  apply safe_writing Later.refl
  intro u hlater hsound v happend
  obtain ⟨hname, hpartition, hbuilt, hoperation⟩ := rollbackCall_activation ha
  simp only [RollbackCall.verifyScope, raiseIf_eq_ok, not_or, ne_eq, not_not] at hscope
  have happended := hlawful.append _ _ _ _ _ happend
  refine ⟨happended.sound hsound ⟨?_, ?_, ?_⟩, happended.later⟩
  · refine ⟨shadow, hlater.1 _ hshadow, hbuild.trans hbuilt.symm, ?_, ?_⟩
    · exact hscope.1.trans hname.symm
    · exact hscope.2.trans hpartition.symm
  · intro hactivate
    rw [hoperation] at hactivate
    cases hactivate
  · intro _
    obtain ⟨b, hb, heq⟩ := htarget
    rw [hname, hpartition]
    exact ⟨b, (hlater.2 _ _).subset hb, heq.trans hbuilt.symm⟩

theorem rollbackTarget_cases {c : RollbackCall} {current : Option ProjectionActivation} {target : Str}
    (h : c.target current = .ok target) :
    c.targetBuildId = some target ∨ c.targetBuildId = none ∧
      ∃ head, current = some head ∧ head.previousBuildId = some target := by
  simp only [RollbackCall.target, bind_eq_ok, demand_eq_ok] at h
  obtain ⟨head, hhead, htarget⟩ := h
  cases hgiven : c.targetBuildId with
  | some given =>
    rw [hgiven, Option.some_or] at htarget
    exact .inl htarget
  | none =>
    rw [hgiven, Option.none_or] at htarget
    exact .inr ⟨rfl, head, (Option.filter_eq_some_iff.mp hhead).1, htarget⟩

theorem safe_rollback (hlawful : Lawful sha store) (c : RollbackCall) :
    Safe (Sound sha store calls) (Later store) (rollbackClient store c) s := by
  apply safe_requiring
  intro _ _
  apply safe_reading Later.refl
  intro t _ hsound current hcurrent
  apply safe_requiring
  intro target htarget
  apply safe_reading Later.refl
  intro u hlater _ shadow hload
  apply safe_requiring
  intro _ hscope
  obtain ⟨hshadow, hbuild⟩ := hlawful.load _ _ _ hload
  rcases rollbackTarget_cases htarget with hgiven | ⟨hnone, head, hhead, hprevious⟩
  · simp only [verifyThenAppend, hgiven]
    apply safe_reading Later.refl
    intro v hlater' _ history hhistory
    apply safe_requiring
    intro _ hverified
    rw [hlawful.history _ _ _ _ hhistory] at hverified
    obtain ⟨b, hb, heq⟩ := List.mem_map.mp (not_not.mp (raiseIf_eq_ok.mp hverified))
    exact safe_appendRollback hlawful (hlater'.1 _ hshadow) hbuild hscope ⟨b, hb, heq⟩
  · simp only [verifyThenAppend, hnone]
    rw [hhead] at hcurrent
    have hlast := hlawful.current _ _ _ _ hcurrent
    obtain ⟨b, hb, heq⟩ := (hsound _ _).activated_before (List.mem_of_getLast? hlast.symm) hprevious
    exact safe_appendRollback hlawful hshadow hbuild hscope ⟨b, (hlater.2 _ _).subset hb, heq⟩

theorem safe_client (hlawful : Lawful sha store) {call : ProjectionCall} (hcall : call ∈ calls) :
    Safe (Sound sha store calls) (Later store) (call.client sha store) s := by
  cases call with
  | save checkpoint => exact safe_save hlawful checkpoint
  | activate c => exact safe_activate hlawful hcall
  | rollback c => exact safe_rollback hlawful c

theorem runProjections_sound (hlawful : Lawful sha store) (calls : List ProjectionCall)
    (schedule : List Nat) : Sound sha store calls (runProjections sha store calls schedule) := by
  have hempty : Sound sha store calls store.empty := fun n p => .empty hlawful calls n p
  refine (run_safe Later.refl Later.trans hempty ?_ schedule).1
  intro client hclient
  obtain ⟨call, hcall, rfl⟩ := List.mem_map.mp hclient
  exact safe_client hlawful hcall

end Clients

theorem activation_history_chain (sha : Sha256) (backend : ProjectionBackend)
    (calls : List ProjectionCall) (schedule : List Nat) (name partitionSha256 : Str) :
    HistoryChain sha (backend.store sha) calls
      (runProjections sha (backend.store sha) calls schedule) name partitionSha256 :=
  runProjections_sound (lawful_store backend) calls schedule name partitionSha256

section Sample

def laterFields : CheckpointFields := { sampleFields with globalPosition := 2, eventHighWatermark := 2 }

def laterCheckpoint : ProjectionCheckpoint := ⟨laterFields, oneState, by decide⟩

def earlierBuild : Str := (sampleCheckpoint oneState).buildId sampleSha

def laterBuild : Str := laterCheckpoint.buildId sampleSha

def sampleComparison : ProjectionComparison where
  activeBuildId := earlierBuild
  shadowBuildId := laterBuild
  activeStateSha256 := (sampleCheckpoint oneState).stateSha256 sampleSha
  shadowStateSha256 := laterCheckpoint.stateSha256 sampleSha
  activeGlobalPosition := 1
  shadowGlobalPosition := 2
  equivalent := false
  differences := []
  truncated := false

def sampleActivate (build : Str) (version : Nat) (current : Option Str)
    (comparison : Option ProjectionComparison) : ActivateCall where
  shadowBuildId := build
  owner := lit "operator"
  approved := true
  expectedHeadVersion := version
  expectedCurrentBuildId := current
  comparison := comparison
  createdAt := none
  now := lit "2026-01-01T00:00:00.000000Z"

def sampleRollback : RollbackCall where
  projectionName := lit "inventory_v1"
  partitionSha256 := sampleDigest 'c'
  owner := lit "operator"
  expectedHeadVersion := 2
  expectedCurrentBuildId := laterBuild
  targetBuildId := none
  createdAt := none
  now := lit "2026-01-01T00:00:00.000000Z"

def sampleCalls : List ProjectionCall :=
  [.save (sampleCheckpoint oneState), .save laterCheckpoint,
    .activate (sampleActivate earlierBuild 0 none none),
    .activate (sampleActivate laterBuild 1 (some earlierBuild) (some sampleComparison)),
    .rollback sampleRollback]

def sampleHistory : List ProjectionActivation :=
  (inMemoryStore sampleSha).activations
    (runProjections sampleSha (inMemoryStore sampleSha) sampleCalls [0, 1, 2, 2, 3, 3, 4, 4, 4])
    (lit "inventory_v1") (sampleDigest 'c')

theorem sampleHistory_links :
    earlierBuild ≠ laterBuild ∧ sampleHistory.map (fun a => (a.previousBuildId, a.targetBuildId)) =
      [(none, earlierBuild), (some earlierBuild, laterBuild), (some laterBuild, earlierBuild)] := by
  decide +kernel

end Sample

theorem rollback_replaces_without_comparison :
    ∃ a ∈ sampleHistory, ∃ replaced, a.previousBuildId = some replaced ∧
      ∀ call, .activate call ∈ sampleCalls → ∀ comparison, call.comparison = some comparison →
        ¬(comparison.activeBuildId = replaced ∧ comparison.shadowBuildId = a.targetBuildId) := by
  obtain ⟨hne, hlinks⟩ := sampleHistory_links
  have hmem : (some laterBuild, earlierBuild) ∈
      sampleHistory.map (fun a => (a.previousBuildId, a.targetBuildId)) := by
    rw [hlinks]
    simp
  obtain ⟨a, ha, hlink⟩ := List.mem_map.mp hmem
  obtain ⟨hprevious, htarget⟩ := Prod.mk.inj hlink
  refine ⟨a, ha, laterBuild, hprevious, ?_⟩
  rintro call hcall comparison hgiven ⟨hactive, _⟩
  simp only [sampleCalls, List.mem_cons, List.not_mem_nil, or_false, reduceCtorEq, false_or,
    ProjectionCall.activate.injEq] at hcall
  rcases hcall with rfl | rfl
  · cases hgiven
  · cases hgiven
    exact hne hactive

end Projection

end TraceBackedMemory
