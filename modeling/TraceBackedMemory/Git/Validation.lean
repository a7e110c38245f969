import TraceBackedMemory.Git.Graph

namespace TraceBackedMemory

open Text Raising Projection

namespace GitGraph

variable {sha : Sha256}

section Provenances

variable {last last' : Nat} {p : Provenance}

theorem retain_eq_ok {accepted : Bool} {name : Str} : retain accepted name = .ok () ↔ accepted = true := by
  rw [retain, raiseIf_eq_ok, Bool.not_eq_false]

theorem retainEach_eq_ok {accepts : Str → Bool} {owner : Str} {fields : List (Str × Str)} :
    retainEach accepts owner fields = .ok () ↔ ∀ f ∈ fields, accepts f.2 = true := by
  simp only [retainEach, checkEach_eq_ok, retain_eq_ok]

def Provenance.identifiers (p : Provenance) : List Str :=
  [p.streamId, p.sourceSystem, p.sourceRecordId, p.authorizationDecisionId, p.principalId,
    p.agentClientId, p.actorId, p.traceId, p.runId, p.checkoutAlias]

structure ProvenanceKept (last : Nat) (p : Provenance) : Prop where
  eventId : isEventId p.eventId = true
  digest : validDigest p.eventSha256 = true
  identifiers : ∀ v ∈ p.identifiers, isBoundedIdentifier v = true
  version : 1 ≤ p.streamVersion ∧ p.streamVersion ≤ maxSequence
  position : 1 ≤ p.globalPosition ∧ p.globalPosition ≤ last
  times : ∀ v ∈ [p.occurredAt, p.recordedAt, p.observedAt], canonicalTime v = true

theorem validateProvenance_eq_ok {name : Str} :
    validateProvenance p name last = .ok () ↔ ProvenanceKept last p := by
  simp only [validateProvenance, bind_eq_ok, exists_unit, retain_eq_ok, retainEach_eq_ok,
    decide_eq_true_eq, List.forall_mem_cons, List.not_mem_nil, false_implies, implies_true, and_true]
  constructor
  · rintro ⟨heventId, hdigest, hidentifiers, hversion, hpositive, hposition, htimes⟩
    refine ⟨heventId, hdigest, ?_, hversion, ⟨hpositive, hposition⟩, ?_⟩
    · simpa only [Provenance.identifiers, List.forall_mem_cons, List.not_mem_nil, false_implies,
        implies_true, and_true] using hidentifiers
    · simpa only [List.forall_mem_cons, List.not_mem_nil, false_implies, implies_true,
        and_true] using htimes
  · intro h
    have hidentifiers := h.identifiers
    have htimes := h.times
    simp only [Provenance.identifiers, List.forall_mem_cons, List.not_mem_nil, false_implies,
      implies_true, and_true] at hidentifiers htimes
    exact ⟨h.eventId, h.digest, hidentifiers, h.version, h.position.1, h.position.2, htimes⟩

theorem ProvenanceKept.mono (h : ProvenanceKept last p) (hle : last ≤ last') : ProvenanceKept last' p :=
  { h with position := ⟨h.position.1, h.position.2.trans hle⟩ }

end Provenances

section Entries

variable {α : Type}

theorem forall_entries {d : Dict Str α} {P : Str × α → Prop} :
    (∀ entry ∈ d.entries, P entry) ↔ ∀ k v, d.get? k = some v → P (k, v) := by
  simp only [Dict.get?_eq_some, Prod.forall]

theorem size_set_of_some {d : Dict Str α} {k : Str} {w : α} (h : d.get? k = some w) (v : α) :
    (d.set k v).size = d.size := by
  have hput (l : List (Str × α)) (hk : k ∈ l.map Prod.fst) :
      (Dict.putIn k v l).length = l.length := by
    induction l with
    | nil => exact absurd hk List.not_mem_nil
    | cons entry l ih =>
      obtain ⟨j, w⟩ := entry
      rw [Dict.putIn]
      split
      · rfl
      · rename_i hne
        rw [List.length_cons, List.length_cons, ih]
        rcases List.mem_cons.mp hk with heq | hk
        · exact absurd heq (by simpa [eq_comm] using hne)
        · exact hk
  exact hput d.entries (Dict.mem_keys.mpr ⟨w, h⟩)

theorem size_set_of_none {d : Dict Str α} {k : Str} (h : d.get? k = none) (v : α) :
    (d.set k v).size = d.size + 1 := by
  rw [Dict.size, Dict.entries_set_of_none v h, List.length_append]
  rfl

theorem contains_set {d : Dict Str α} {k j : Str} {v : α} :
    (d.set k v).contains j = true ↔ j = k ∨ d.contains j = true := by
  rw [Dict.contains_iff, Dict.contains_iff, Dict.get?_set]
  by_cases h : j = k
  · simp [h]
  · simp [h]

theorem sameEntries_iff [DecidableEq α] {d e : Dict Str α} :
    sameEntries d e = true ↔ ∀ k, d.get? k = e.get? k := by
  rw [sameEntries, Bool.and_eq_true, decide_eq_true_eq, List.all_eq_true]
  simp only [decide_eq_true_eq]
  constructor
  · rintro ⟨hsize, hkeys⟩ k
    have hsubset : d.keys ⊆ e.keys := by
      intro j hj
      obtain ⟨v, hv⟩ := Dict.mem_keys.mp hj
      exact Dict.mem_keys.mpr ⟨v, (hkeys j hj).trans hv⟩
    have hlength : e.keys.length ≤ d.keys.length := by
      rw [Dict.keys, Dict.keys, List.length_map, List.length_map]
      exact hsize.ge
    have hperm : d.keys.Perm e.keys := (List.subperm_of_subset d.keys_nodup hsubset).perm_of_length_le hlength
    by_cases hk : k ∈ d.keys
    · exact (hkeys k hk).symm
    · rw [Dict.get?_eq_none.mpr hk, Dict.get?_eq_none.mpr fun he => hk (hperm.mem_iff.mpr he)]
  · intro hsame
    have hperm : d.keys.Perm e.keys := by
      refine (List.perm_ext_iff_of_nodup d.keys_nodup e.keys_nodup).mpr fun k => ?_
      rw [Dict.mem_keys, Dict.mem_keys, hsame]
    refine ⟨?_, fun k _ => (hsame k).symm⟩
    have hlength := hperm.length_eq
    rwa [Dict.keys, Dict.keys, List.length_map, List.length_map] at hlength

end Entries

section Tallies

variable {α : Type} {values : List α} {last last' : Nat}

structure TallyKept (values : List α) (last : Nat) (t : Tally α) : Prop where
  asserted : ∀ a ∈ values, (t.assertions a).isSome = true ↔ 0 < t.assertionCounts a
  provenances : ∀ a ∈ values, ∀ p, t.assertions a = some p → ProvenanceKept last p
  positive : 1 ≤ t.observationCount
  total : t.observationCount = (values.map t.assertionCounts).sum

theorem validateTally_eq_ok {t : Tally α} {subject : String} :
    validateTally values t subject last = .ok () ↔ TallyKept values last t := by
  have hmismatch (a : α) : ¬((t.assertions a).isSome = true ↔ t.assertionCounts a = 0) ↔
      ((t.assertions a).isSome = true ↔ 0 < t.assertionCounts a) := by
    rw [Nat.pos_iff_ne_zero]
    tauto
  simp only [validateTally, bind_eq_ok, exists_unit, raiseIf_eq_ok, checkEach_eq_ok, retain_eq_ok,
    validateProvenance_eq_ok, decide_eq_true_eq, not_exists, not_and, hmismatch, ne_eq, not_not,
    List.mem_filterMap]
  constructor
  · rintro ⟨hasserted, hprovenances, hpositive, htotal⟩
    exact ⟨hasserted, fun a ha p hp => hprovenances p ⟨a, ha, hp⟩, hpositive, htotal⟩
  · intro h
    refine ⟨h.asserted, ?_, h.positive, h.total⟩
    rintro p ⟨a, ha, hp⟩
    exact h.provenances a ha p hp

theorem TallyKept.mono {t : Tally α} (h : TallyKept values last t) (hle : last ≤ last') :
    TallyKept values last' t :=
  { h with provenances := fun a ha p hp => (h.provenances a ha p hp).mono hle }

variable [DecidableEq α]

theorem record_counts (t : Tally α) (a : α) (p : Provenance) (b : α) :
    (t.record a p).assertionCounts b = if b = a then t.assertionCounts a + 1 else t.assertionCounts b :=
  Function.update_apply _ _ _ _

theorem record_assertions (t : Tally α) (a : α) (p : Provenance) (b : α) :
    (t.record a p).assertions b = if b = a then some p else t.assertions b :=
  Function.update_apply _ _ _ _

theorem sum_update (f : α → Nat) {a : α} (hnodup : values.Nodup) (ha : a ∈ values) :
    (values.map (Function.update f a (f a + 1))).sum = (values.map f).sum + 1 := by
  induction values with
  | nil => exact absurd ha List.not_mem_nil
  | cons b l ih =>
    obtain ⟨hb, hl⟩ := List.nodup_cons.mp hnodup
    rw [List.map_cons, List.map_cons, List.sum_cons, List.sum_cons]
    rcases List.mem_cons.mp ha with rfl | ha
    · have hsame : l.map (Function.update f a (f a + 1)) = l.map f := by
        refine List.map_congr_left fun c hc => ?_
        refine Function.update_of_ne ?_ _ _
        rintro rfl
        exact hb hc
      rw [hsame, Function.update_self]
      omega
    · have hne : b ≠ a := by
        rintro rfl
        exact hb ha
      rw [Function.update_of_ne hne, ih hl ha]
      omega

-- Either nothing was recorded yet or the retained tally already stood the check.
theorem tallyKept_record {t : Tally α} (hnodup : values.Nodup) (h : t = emptyTally ∨ TallyKept values last t)
    {a : α} (ha : a ∈ values) {p : Provenance} (hp : ProvenanceKept last p) :
    TallyKept values last (t.record a p) := by
  have hasserted : ∀ b ∈ values, (t.assertions b).isSome = true ↔ 0 < t.assertionCounts b := by
    rcases h with rfl | h
    · intro b _
      simp [emptyTally]
    · exact h.asserted
  have hprovenances : ∀ b ∈ values, ∀ q, t.assertions b = some q → ProvenanceKept last q := by
    rcases h with rfl | h
    · intro b _ q hq
      cases hq
    · exact h.provenances
  have htotal : t.observationCount = (values.map t.assertionCounts).sum := by
    rcases h with rfl | h
    · simp [emptyTally]
    · exact h.total
  constructor
  · intro b hb
    rw [record_counts, record_assertions]
    by_cases hba : b = a
    · simp [hba]
    · rw [if_neg hba, if_neg hba]
      exact hasserted b hb
  · intro b hb q hq
    rw [record_assertions] at hq
    split at hq
    · cases hq
      exact hp
    · exact hprovenances b hb q hq
  · exact Nat.le_add_left 1 _
  · simp only [Tally.record]
    rw [sum_update t.assertionCounts hnodup ha, htotal]

end Tallies

section Keeping

variable {last last' : Nat} {commits commits' : Dict Str CommitNode}

def Known (commits : Dict Str CommitNode) (value : Str) : Prop :=
  isCommitSha value = true ∧ commits.contains value = true

structure CommitKept (last : Nat) (k : Str) (n : CommitNode) : Prop where
  key : isCommitSha k = true
  named : n.commitSha = k
  positive : 1 ≤ n.observationCount
  observed : ProvenanceKept last n.lastObservation

structure RelationKept (commits : Dict Str CommitNode) (last : Nat) (k : Str) (r : RelationState) :
    Prop where
  ancestor : Known commits r.ancestorSha
  descendant : Known commits r.descendantSha
  key : k = relationKey r.ancestorSha r.descendantSha
  tally : TallyKept relationValues last r.tally
  latest : 0 < r.tally.assertionCounts r.latestAssertion
  observed : ProvenanceKept last r.lastObservation
  observation : r.tally.assertions r.latestAssertion = some r.lastObservation
  conflicted : r.conflicted = conflictedCounts r.tally.assertionCounts
  effective : r.effectiveRelation = effectiveCounts r.tally.assertionCounts
  confidence : some r.relationConfidence = confidenceOf r.tally

structure ObjectKept (commits : Dict Str CommitNode) (last : Nat) (k : Str) (o : ObjectState) :
    Prop where
  sha : isCommitSha o.objectSha = true
  key : k = objectKeyText o.objectType o.objectSha
  commit : o.objectType = .commit → commits.contains o.objectSha = true
  tally : TallyKept availabilityValues last o.tally
  latest : 0 < o.tally.assertionCounts o.availability
  reason : o.availability = .available ↔ o.unavailableReason = none
  observed : ProvenanceKept last o.lastObservation
  observation : o.tally.assertions o.availability = some o.lastObservation

structure RefKept (commits : Dict Str CommitNode) (last : Nat) (k : Str) (r : RefState) : Prop where
  key : isGitRefName k = true
  named : r.refName = k
  current : r.currentCommitSha ∈ r.observedCommitShas
  bounded : r.observedCommitShas.length ≤ maxCommits
  each : ∀ c ∈ r.observedCommitShas, Known commits c
  sorted : r.observedCommitShas.Pairwise (· < ·)
  count : r.observedCommitShas.length ≤ r.observationCount
  moved : r.moved = decide (1 < r.observedCommitShas.length)
  movement : r.movementClassification = movementOf r.moved
  observed : ProvenanceKept last r.lastObservation

structure CheckoutSound (commits : Dict Str CommitNode) (last : Nat) (k : Str) (c : CheckoutState) :
    Prop where
  key : isBoundedIdentifier k = true
  named : c.checkoutAlias = k
  commit : ∀ v ∈ c.commitSha, Known commits v
  ref : ∀ v ∈ c.refName, isGitRefName v = true
  attached : ∀ b ∈ c.detached, b = true ↔ c.refName = none
  artifact : ∀ v ∈ c.diffArtifactId, isArtifactId v = true
  base : ∀ v ∈ c.diffBaseCommitSha, Known commits v
  remote : ∀ v ∈ c.remoteSha256, validDigest v = true
  bounded : c.boundaryCommitShas.length ≤ maxBoundaryCommits
  boundaries : ∀ v ∈ c.boundaryCommitShas, Known commits v
  sorted : c.boundaryCommitShas.Pairwise (· < ·)
  shallow : c.shallow = some false → c.boundaryCommitShas = []
  refs : c.refs.size ≤ maxRefsPerCheckout
  eachRef : ∀ j r, c.refs.get? j = some r → RefKept commits last j r

structure CheckoutKept (commits : Dict Str CommitNode) (last : Nat) (k : Str) (c : CheckoutState) : Prop
    extends CheckoutSound commits last k c where
  observed : ∃ p, c.lastObservation = some p ∧ ProvenanceKept last p

theorem validateCommit_eq_ok {key : Str} {n : CommitNode} :
    validateCommit last (key, n) = .ok () ↔ CommitKept last key n := by
  simp only [validateCommit, bind_eq_ok, exists_unit, retain_eq_ok, raiseIf_eq_ok, decide_eq_true_eq,
    validateProvenance_eq_ok, ne_eq, not_not]
  constructor
  · rintro ⟨hkey, hnamed, hpositive, hobserved⟩
    exact ⟨hkey, hnamed, hpositive, hobserved⟩
  · intro h
    exact ⟨h.key, h.named, h.positive, h.observed⟩

theorem validateRelation_eq_ok {key : Str} {r : RelationState} :
    validateRelation commits last (key, r) = .ok () ↔ RelationKept commits last key r := by
  simp only [validateRelation, bind_eq_ok, exists_unit, retain_eq_ok, raiseIf_eq_ok,
    validateTally_eq_ok, validateProvenance_eq_ok, not_or, ne_eq, not_not, Bool.not_eq_false]
  constructor
  · rintro ⟨hancestor, hdescendant, ⟨hkey, hknown, hknown'⟩, htally, hlatest, hobserved, hobservation,
      hconflicted, heffective, hconfidence⟩
    exact ⟨⟨hancestor, hknown⟩, ⟨hdescendant, hknown'⟩, hkey, htally, Nat.pos_of_ne_zero hlatest,
      hobserved, hobservation, hconflicted, heffective, hconfidence⟩
  · intro h
    exact ⟨h.ancestor.1, h.descendant.1, ⟨h.key, h.ancestor.2, h.descendant.2⟩, h.tally, h.latest.ne',
      h.observed, h.observation, h.conflicted, h.effective, h.confidence⟩

theorem validateObject_eq_ok {key : Str} {o : ObjectState} :
    validateObject commits last (key, o) = .ok () ↔ ObjectKept commits last key o := by
  simp only [validateObject, bind_eq_ok, exists_unit, retain_eq_ok, raiseIf_eq_ok,
    validateTally_eq_ok, validateProvenance_eq_ok, not_or, ne_eq, not_not, not_and, Bool.not_eq_false]
  constructor
  · rintro ⟨hsha, ⟨hkey, hcommit⟩, htally, hlatest, havailable, hunavailable, hobserved, hobservation⟩
    refine ⟨hsha, hkey, hcommit, htally, Nat.pos_of_ne_zero hlatest, ⟨havailable, ?_⟩, hobserved,
      hobservation⟩
    intro hreason
    exact by_contra fun hne => hunavailable hne hreason
  · intro h
    exact ⟨h.sha, ⟨h.key, h.commit⟩, h.tally, h.latest.ne', h.reason.mp,
      fun hne hreason => hne (h.reason.mpr hreason), h.observed, h.observation⟩

theorem strictlySorted_iff {l : List Str} : strictlySorted l = true ↔ l.Pairwise (· < ·) :=
  decide_eq_true_iff

theorem validateRef_eq_ok {key : Str} {r : RefState} :
    validateRef commits last (key, r) = .ok () ↔ RefKept commits last key r := by
  simp only [validateRef, bind_eq_ok, exists_unit, retain_eq_ok, raiseIf_eq_ok, decide_eq_true_eq,
    validateProvenance_eq_ok, strictlySorted_iff, not_or, ne_eq, not_not, not_lt, Bool.not_eq_false,
    List.all_eq_true]
  constructor
  · rintro ⟨hkey, hnamed, hcurrent, ⟨hbounded, hshas, hsorted, hmem, hknown⟩, hpositive, hcount,
      ⟨hmoved, hmovement⟩, hobserved⟩
    refine ⟨hkey, hnamed, hmem, hbounded, fun c hc => ⟨hshas c hc, hknown c hc⟩, hsorted, hcount, hmoved,
      ?_, hobserved⟩
    rw [hmoved]
    exact hmovement
  · intro h
    have hpositive : 0 < r.observedCommitShas.length := List.length_pos_of_mem h.current
    refine ⟨h.key, h.named, (h.each _ h.current).1, ⟨h.bounded, fun c hc => (h.each c hc).1,
      h.sorted, h.current, fun c hc => (h.each c hc).2⟩, hpositive.trans_le h.count, h.count, ⟨h.moved, ?_⟩,
      h.observed⟩
    rw [← h.moved]
    exact h.movement

theorem knownCommit_eq_ok {value : Option Str} {field message : String} :
    knownCommit commits value field message = .ok () ↔ ∀ v ∈ value, Known commits v := by
  cases value with
  | none => simp [knownCommit]
  | some v =>
    simp only [knownCommit, bind_eq_ok, exists_unit, retain_eq_ok, raiseIf_eq_ok, Bool.not_eq_false,
      Option.mem_some_iff, forall_eq', Known]

theorem acceptedText_eq_ok {accepts : Str → Bool} {value : Option Str} {field : String} :
    acceptedText accepts value field = .ok () ↔ ∀ v ∈ value, accepts v = true := by
  cases value with
  | none => simp [acceptedText]
  | some v => simp only [acceptedText, retain_eq_ok, Option.mem_some_iff, forall_eq']

theorem attached_iff {detached : Option Bool} {refName : Option Str} :
    (∀ b ∈ detached, b = true ↔ refName = none) ↔
      (detached = some true → refName = none) ∧ (detached = some false → ¬refName = none) := by
  cases detached with
  | none => simp
  | some b => cases b <;> simp

theorem validateCheckout_eq_ok {key : Str} {c : CheckoutState} :
    validateCheckout commits last (key, c) = .ok () ↔ CheckoutKept commits last key c := by
  simp only [validateCheckout, bind_eq_ok, exists_unit, retain_eq_ok, raiseIf_eq_ok, knownCommit_eq_ok,
    acceptedText_eq_ok, checkEach_eq_ok, forall_entries, validateRef_eq_ok, demand_eq_ok,
    validateProvenance_eq_ok, strictlySorted_iff, not_or, ne_eq, not_not, not_lt, not_and,
    Bool.not_eq_false, List.all_eq_true]
  constructor
  · rintro ⟨hkey, hnamed, hcommit, href, hdetached, hattached, hartifact, hbase, hremote,
      ⟨hbounded, hshas, hsorted, hknown, hshallow⟩, hrefs, heachRef, hobserved⟩
    exact ⟨⟨hkey, hnamed, hcommit, href, attached_iff.mpr ⟨hdetached, hattached⟩, hartifact, hbase, hremote,
      hbounded, fun v hv => ⟨hshas v hv, hknown v hv⟩, hsorted, hshallow, hrefs, heachRef⟩, hobserved⟩
  · intro h
    obtain ⟨hdetached, hattached⟩ := attached_iff.mp h.attached
    exact ⟨h.key, h.named, h.commit, h.ref, hdetached, hattached, h.artifact, h.base, h.remote,
      ⟨h.bounded, fun v hv => (h.boundaries v hv).1, h.sorted, fun v hv => (h.boundaries v hv).2,
        h.shallow⟩, h.refs, h.eachRef, h.observed⟩

end Keeping

section Growth

variable {last last' : Nat} {commits commits' : Dict Str CommitNode} {k : Str}

def Grows (commits commits' : Dict Str CommitNode) : Prop :=
  ∀ c, commits.contains c = true → commits'.contains c = true

theorem Known.mono {value : Str} (h : Known commits value) (hgrows : Grows commits commits') :
    Known commits' value := ⟨h.1, hgrows value h.2⟩

theorem CommitKept.mono {n : CommitNode} (h : CommitKept last k n) (hle : last ≤ last') :
    CommitKept last' k n :=
  { h with observed := h.observed.mono hle }

theorem RelationKept.mono {r : RelationState} (h : RelationKept commits last k r)
    (hgrows : Grows commits commits') (hle : last ≤ last') : RelationKept commits' last' k r :=
  { h with
    ancestor := h.ancestor.mono hgrows
    descendant := h.descendant.mono hgrows
    tally := h.tally.mono hle
    observed := h.observed.mono hle }

theorem ObjectKept.mono {o : ObjectState} (h : ObjectKept commits last k o)
    (hgrows : Grows commits commits') (hle : last ≤ last') : ObjectKept commits' last' k o :=
  { h with
    commit := fun htype => hgrows _ (h.commit htype)
    tally := h.tally.mono hle
    observed := h.observed.mono hle }

theorem RefKept.mono {r : RefState} (h : RefKept commits last k r) (hgrows : Grows commits commits')
    (hle : last ≤ last') : RefKept commits' last' k r :=
  { h with
    each := fun c hc => (h.each c hc).mono hgrows
    observed := h.observed.mono hle }

theorem CheckoutSound.mono {c : CheckoutState} (h : CheckoutSound commits last k c)
    (hgrows : Grows commits commits') (hle : last ≤ last') : CheckoutSound commits' last' k c :=
  { h with
    commit := fun v hv => (h.commit v hv).mono hgrows
    base := fun v hv => (h.base v hv).mono hgrows
    boundaries := fun v hv => (h.boundaries v hv).mono hgrows
    eachRef := fun j r hr => (h.eachRef j r hr).mono hgrows hle }

theorem CheckoutKept.mono {c : CheckoutState} (h : CheckoutKept commits last k c)
    (hgrows : Grows commits commits') (hle : last ≤ last') : CheckoutKept commits' last' k c := by
  obtain ⟨p, hp, hkept⟩ := h.observed
  exact ⟨h.toCheckoutSound.mono hgrows hle, p, hp, hkept.mono hle⟩

end Growth

section States

variable {last last' : Nat}

structure RepositoryKept (last : Nat) (r : RepositoryState) : Prop where
  identified : isBoundedIdentifier r.repositoryId = true
  commitsBound : r.commits.size ≤ maxCommits
  commits : ∀ k n, r.commits.get? k = some n → CommitKept last k n
  relationsBound : r.relations.size ≤ maxRelations
  relations : ∀ k x, r.relations.get? k = some x → RelationKept r.commits last k x
  objectsBound : r.objects.size ≤ maxObjects
  objects : ∀ k o, r.objects.get? k = some o → ObjectKept r.commits last k o
  missing : ∀ k, r.missingObjects.get? k = (expectedMissing r.objects).get? k
  checkoutsBound : r.checkouts.size ≤ maxCheckouts
  checkouts : ∀ k c, r.checkouts.get? k = some c → CheckoutKept r.commits last k c

theorem validateRepository_eq_ok {r : RepositoryState} {id : Str} :
    validateRepository r id last = .ok () ↔ r.repositoryId = id ∧ RepositoryKept last r ∧
      ∃ p, r.lastObservation = some p ∧ ProvenanceKept last p := by
  simp only [validateRepository, bind_eq_ok, exists_unit, retain_eq_ok, raiseIf_eq_ok, checkEach_eq_ok,
    forall_entries, validateCommit_eq_ok, validateRelation_eq_ok, validateObject_eq_ok,
    validateCheckout_eq_ok, demand_eq_ok, validateProvenance_eq_ok, sameEntries_iff, ne_eq, not_not,
    not_lt, Bool.not_eq_false]
  constructor
  · rintro ⟨rfl, hid, hcommitsBound, hcommits, hrelationsBound, hrelations, hobjectsBound, hobjects,
      hmissing, hcheckoutsBound, hcheckouts, hobserved⟩
    exact ⟨rfl, ⟨hid, hcommitsBound, hcommits, hrelationsBound, hrelations, hobjectsBound, hobjects,
      hmissing, hcheckoutsBound, hcheckouts⟩, hobserved⟩
  · rintro ⟨rfl, h, hobserved⟩
    exact ⟨rfl, h.identified, h.commitsBound, h.commits, h.relationsBound, h.relations, h.objectsBound,
      h.objects, h.missing, h.checkoutsBound, h.checkouts, hobserved⟩

structure HeadKept (scope : Scope) (last : Nat) (streamId : Str) (h : StreamHead) : Prop where
  stream : isBoundedIdentifier streamId = true
  version : 1 ≤ h.streamVersion ∧ h.streamVersion ≤ maxSequence
  eventId : isEventId h.eventId = true
  digest : validDigest h.eventSha256 = true
  position : 1 ≤ h.globalPosition ∧ h.globalPosition ≤ last
  scope_eq : h.scope = scope
  bounded : ∀ f ∈ scope.texts, isBoundedIdentifier f.2 = true
  identifiers : ∀ v ∈ [h.authorizationDecisionId, h.traceId, h.runId, h.checkoutAlias],
    isBoundedIdentifier v = true

theorem validateHead_eq_ok {scope : Scope} {streamId : Str} {h : StreamHead} :
    validateHead scope last (streamId, h) = .ok () ↔ HeadKept scope last streamId h := by
  simp only [validateHead, bind_eq_ok, exists_unit, retain_eq_ok, raiseIf_eq_ok, retainEach_eq_ok,
    decide_eq_true_eq, ne_eq, not_not, not_lt]
  constructor
  · rintro ⟨hstream, hversion, hbound, heventId, hdigest, hpositive, hposition, hscoped, rfl, hidentifiers⟩
    refine ⟨hstream, ⟨hversion, hbound⟩, heventId, hdigest, ⟨hpositive, hposition⟩, rfl, hscoped, ?_⟩
    simpa only [List.forall_mem_cons, List.not_mem_nil, false_implies, implies_true,
      and_true] using hidentifiers
  · rintro ⟨hstream, hversion, heventId, hdigest, hposition, rfl, hscoped, hidentifiers⟩
    refine ⟨hstream, hversion.1, hversion.2, heventId, hdigest, hposition.1, hposition.2, hscoped, rfl, ?_⟩
    simpa only [List.forall_mem_cons, List.not_mem_nil, false_implies, implies_true,
      and_true] using hidentifiers

theorem HeadKept.mono {scope : Scope} {streamId : Str} {h : StreamHead}
    (hk : HeadKept scope last streamId h) (hle : last ≤ last') : HeadKept scope last' streamId h :=
  { hk with position := ⟨hk.position.1, hk.position.2.trans hle⟩ }

-- A state that passes the reducer's own check, its size apart.
structure GraphKept (s : GraphState) (scope : Scope) (repository : RepositoryState)
    (observation : Provenance) : Prop where
  scope_eq : s.scope = some scope
  bounded : ∀ f ∈ scope.texts, isBoundedIdentifier f.2 = true
  repository_eq : s.repository = some repository
  named : repository.repositoryId = scope.repositoryId
  kept : RepositoryKept s.lastGlobalPosition repository
  heads : ∀ k h, s.heads.get? k = some h → HeadKept scope s.lastGlobalPosition k h
  positions : (s.heads.entries.map (fun entry => entry.2.globalPosition)).Nodup
  observation_eq : repository.lastObservation = some observation
  observed : ProvenanceKept s.lastGlobalPosition observation
  latest : ∃ h, s.heads.get? observation.streamId = some h ∧
    h.globalPosition = s.lastGlobalPosition ∧ agrees observation observation.streamId h

theorem find_position {heads : Dict Str StreamHead} {last : Nat} {k : Str} {h : StreamHead}
    (hnodup : (heads.entries.map (fun entry => entry.2.globalPosition)).Nodup) :
    heads.entries.find? (fun entry => decide (entry.2.globalPosition = last)) = some (k, h) ↔
      heads.get? k = some h ∧ h.globalPosition = last := by
  constructor
  · intro hfind
    have hposition := List.find?_some hfind
    exact ⟨Dict.get?_eq_some.mpr (List.mem_of_find?_eq_some hfind), of_decide_eq_true hposition⟩
  · rintro ⟨hget, hposition⟩
    have hmem := Dict.get?_eq_some.mp hget
    cases hfind : heads.entries.find? (fun entry => decide (entry.2.globalPosition = last)) with
    | none =>
      exact absurd (decide_eq_true hposition) (List.find?_eq_none.mp hfind _ hmem)
    | some entry =>
      have hentry := List.find?_some hfind
      simp only [decide_eq_true_eq] at hentry
      have hsame := List.inj_on_of_nodup_map hnodup (List.mem_of_find?_eq_some hfind) hmem
        (hentry.trans hposition.symm)
      rw [hsame]

theorem validateObserved_eq_ok {s : GraphState} :
    validateObserved s = .ok () ↔ ∃ scope repository observation,
      GraphKept s scope repository observation := by
  simp only [validateObserved, bind_eq_ok, exists_unit, demand_eq_ok, retainEach_eq_ok,
    validateRepository_eq_ok, validateHeads, checkEach_eq_ok, forall_entries, validateHead_eq_ok,
    raiseIf_eq_ok, not_or, not_not, ne_eq, Prod.exists]
  constructor
  · rintro ⟨scope, hscope, hscoped, repository, hrepository, ⟨hnamed, hkept, p, hp, hpkept⟩, streamId,
      h, ⟨hheads, hpositions, hfind⟩, observation, hobservation, hposition, hagrees⟩
    obtain rfl : p = observation := Option.some.inj (hp.symm.trans hobservation)
    obtain ⟨hget, hlast⟩ := (find_position hpositions).mp hfind
    obtain rfl : p.streamId = streamId := hagrees.1
    exact ⟨scope, repository, p, hscope, hscoped, hrepository, hnamed, hkept, hheads, hpositions, hp,
      hpkept, h, hget, hlast, hagrees⟩
  · rintro ⟨scope, repository, observation, hkept⟩
    obtain ⟨h, hget, hlast, hagrees⟩ := hkept.latest
    refine ⟨scope, hkept.scope_eq, hkept.bounded, repository, hkept.repository_eq,
      ⟨hkept.named, hkept.kept, observation, hkept.observation_eq, hkept.observed⟩,
      observation.streamId, h, ⟨hkept.heads, hkept.positions,
        (find_position hkept.positions).mpr ⟨hget, hlast⟩⟩, observation, hkept.observation_eq, ?_,
      hagrees⟩
    obtain ⟨-, -, -, -, hposition, -⟩ := hagrees
    exact hposition.trans hlast

end States

end GitGraph

end TraceBackedMemory
