import TraceBackedMemory.Gate.Repository

namespace TraceBackedMemory

open Text Raising OrderBy

namespace GateRepository

section Texts

def Mixed (i j : Nat) : Prop :=
  i / 1000000 = j / 1000000 ∧ i ≠ j ∧ (i % 1000000 = 0 ∨ j % 1000000 = 0)

theorem rank_le_iff_of_not_mixed {i j : Nat} (h : ¬Mixed i j) :
    textRank i ≤ textRank j ↔ i ≤ j := by
  unfold Mixed at h
  simp only [textRank]
  by_cases hs : i / 1000000 = j / 1000000
  · rw [hs]
    split_ifs <;> omega
  · split_ifs <;> omega

theorem rank_le_iff_of_mixed {i j : Nat} (h : Mixed i j) : textRank i ≤ textRank j ↔ j < i := by
  unfold Mixed at h
  simp only [textRank, h.1]
  split_ifs <;> omega

theorem rank_agrees_iff {i j : Nat} : (textRank i ≤ textRank j ↔ i ≤ j) ↔ ¬Mixed i j := by
  constructor
  · intro h hm
    have hrank := rank_le_iff_of_mixed hm
    have hne := hm.2.1
    omega
  · exact rank_le_iff_of_not_mixed

end Texts

section Instants

def expires (s : GateSession) : Nat := micros s.expiresAt

def lease (s : GateSession) : Nat := micros (s.leaseExpiresAt.getD [])

def dueAt (now : Nat) (s : GateSession) : Bool :=
  s.status.activeLease && (decide (expires s ≤ now) || decide (lease s ≤ now))

def chronologicalKey (s : GateSession) : Nat ×ₗ Nat ×ₗ Str :=
  toLex (expires s, toLex (lease s, s.sessionId))

def currents (table : GateTable) : List GateSession := table.map SessionEntry.current

def dueInTime (table : GateTable) (now : Nat) : List GateSession :=
  orderBy chronologicalKey ((currents table).filter (dueAt now))

structure Aligned (table : GateTable) (now : Nat) : Prop where
  leases : ∀ s ∈ currents table, s.status.activeLease = true → Mixed (lease s) now →
    expires s ≤ now ∧ ¬Mixed (expires s) now
  order : ∀ s ∈ (currents table).filter (dueAt now), ∀ t ∈ (currents table).filter (dueAt now),
    ¬Mixed (expires s) (expires t) ∧ (expires s = expires t → ¬Mixed (lease s) (lease t))

structure Leased (s : GateSession) : Prop where
  expires_le : expires s ≤ maxInstant
  expires_eq : s.expiresAt = isoformat (expires s)
  lease_le : lease s ≤ expires s
  lease_eq : s.leaseExpiresAt = some (isoformat (lease s))

theorem leased_of_canonical {s : GateSession} (h : CanonicalTimes s)
    (hactive : s.status.activeLease = true) : Leased s := by
  obtain ⟨hle, heq⟩ := micros_canonical h.expires
  obtain ⟨text, htext⟩ : ∃ text, s.leaseExpiresAt = some text := by
    have hpresence := s.statusShape.2.1
    rw [GateSessionRecord.checkLeasePresence, if_pos hactive, raiseIf_eq_ok] at hpresence
    exact Option.ne_none_iff_exists'.mp hpresence
  have hlease : lease s = micros text := by
    rw [lease, htext]
    rfl
  obtain ⟨hlle, hleq⟩ := micros_canonical (h.lease text htext)
  have hbound : lease s ≤ expires s := by
    have hvalid := s.valid
    simp only [GateSessionRecord.check, GateSessionRecord.checkTimes, GateSessionRecord.checkLease,
      bind_eq_ok, exists_unit, sessionTimestamp, demand_eq_ok, htext, raiseIf_eq_ok, not_or,
      not_lt] at hvalid
    obtain ⟨-, ⟨_, -, _, -, e, he, -, -, -, -, l, hl, -, hle'⟩, -⟩ := hvalid
    have hexpires : expires s = e.toNat := by
      rw [expires, micros, he]
      rfl
    rw [hlease, micros, hl, hexpires]
    exact Int.toNat_le_toNat hle'
  exact ⟨hle, heq, hbound, by rw [hlease, htext, ← hleq]⟩

theorem Leased.lease_max {s : GateSession} (h : Leased s) : lease s ≤ maxInstant :=
  h.lease_le.trans h.expires_le

theorem dueRow_leased {s : GateSession} (h : Leased s) (hactive : s.status.activeLease = true)
    {now : Nat} (hnow : now ≤ maxInstant) :
    dueRow (isoformat now) s = true ↔
      textRank (expires s) ≤ textRank now ∨ textRank (lease s) ≤ textRank now := by
  rw [dueRow, hactive, h.lease_eq, h.expires_eq]
  simp only [Bool.true_and, Bool.or_eq_true, decide_eq_true_eq]
  rw [isoformat_le_iff h.expires_le hnow, isoformat_le_iff h.lease_max hnow]

theorem dueAt_leased {s : GateSession} (h : Leased s) (hactive : s.status.activeLease = true)
    {now : Nat} : dueAt now s = true ↔ lease s ≤ now := by
  have hle := h.lease_le
  rw [dueAt, hactive]
  simp only [Bool.true_and, Bool.or_eq_true, decide_eq_true_eq]
  omega

theorem due_agrees_iff {s : GateSession} (h : Leased s) (hactive : s.status.activeLease = true)
    {now : Nat} (hnow : now ≤ maxInstant) :
    dueRow (isoformat now) s = dueAt now s ↔
      (Mixed (lease s) now → expires s ≤ now ∧ ¬Mixed (expires s) now) := by
  rw [Bool.eq_iff_iff, dueRow_leased h hactive hnow, dueAt_leased h hactive]
  have hle := h.lease_le
  by_cases hl : Mixed (lease s) now
  · rw [rank_le_iff_of_mixed hl]
    by_cases he : Mixed (expires s) now
    · rw [rank_le_iff_of_mixed he]
      simp only [hl, he, not_true_eq_false, and_false, true_implies, iff_false]
      unfold Mixed at hl he
      omega
    · rw [rank_le_iff_of_not_mixed he]
      simp only [hl, he, not_false_eq_true, and_true, true_implies]
      unfold Mixed at hl he
      omega
  · rw [rank_le_iff_of_not_mixed hl]
    simp only [hl, false_implies, iff_true]
    by_cases he : Mixed (expires s) now
    · rw [rank_le_iff_of_mixed he]
      unfold Mixed at hl he
      omega
    · rw [rank_le_iff_of_not_mixed he]
      omega

theorem key_le_iff {s t : GateSession} (hs : Leased s) (ht : Leased t) :
    (dueKey s ≤ dueKey t ↔
      textRank (expires s) < textRank (expires t) ∨ expires s = expires t ∧
        (textRank (lease s) < textRank (lease t) ∨ lease s = lease t ∧ s.sessionId ≤ t.sessionId)) ∧
      (chronologicalKey s ≤ chronologicalKey t ↔
        expires s < expires t ∨ expires s = expires t ∧
          (lease s < lease t ∨ lease s = lease t ∧ s.sessionId ≤ t.sessionId)) := by
  have text_lt {i j : Nat} (hi : i ≤ maxInstant) (hj : j ≤ maxInstant) :
      isoformat i < isoformat j ↔ textRank i < textRank j := by
    rw [← not_le, isoformat_le_iff hj hi, not_le]
  refine ⟨?_, ?_⟩
  · simp only [dueKey, Prod.Lex.le_iff, ofLex_toLex, hs.expires_eq, ht.expires_eq, hs.lease_eq,
      ht.lease_eq, Option.getD_some]
    rw [text_lt hs.expires_le ht.expires_le, text_lt hs.lease_max ht.lease_max,
      isoformat_inj hs.expires_le ht.expires_le, isoformat_inj hs.lease_max ht.lease_max]
  · simp only [chronologicalKey, Prod.Lex.le_iff, ofLex_toLex]

theorem key_agrees_iff {s t : GateSession} (hs : Leased s) (ht : Leased t) :
    ((dueKey s ≤ dueKey t ↔ chronologicalKey s ≤ chronologicalKey t) ∧
      (dueKey t ≤ dueKey s ↔ chronologicalKey t ≤ chronologicalKey s)) ↔
      ¬Mixed (expires s) (expires t) ∧ (expires s = expires t → ¬Mixed (lease s) (lease t)) := by
  obtain ⟨htext, htime⟩ := key_le_iff hs ht
  obtain ⟨htext', htime'⟩ := key_le_iff ht hs
  rw [htext, htime, htext', htime', ← rank_agrees_iff, ← rank_agrees_iff]
  have inj {i j : Nat} : textRank i = textRank j ↔ i = j := ⟨textRank_inj, congrArg textRank⟩
  have he := @inj (expires s) (expires t)
  have hl := @inj (lease s) (lease t)
  rcases Nat.lt_trichotomy (expires s) (expires t) with hlt | heq | hlt
  · omega
  · rcases Nat.lt_trichotomy (lease s) (lease t) with hlt' | heq' | hlt'
    · omega
    · simp only [heq, heq']
      simp
    · omega
  · omega

end Instants

section Listing

theorem mem_currents {table : GateTable} {s : GateSession} (h : s ∈ currents table) :
    ∃ e ∈ table, e.current = s := List.mem_map.mp h

theorem Stored.session_unique {table : GateTable} (h : Stored table) {s t : GateSession}
    (hs : s ∈ currents table) (ht : t ∈ currents table) (hid : s.sessionId = t.sessionId) : s = t := by
  have hnodup : ((currents table).map (fun s => s.sessionId)).Nodup := by
    rw [currents, List.map_map]
    exact h.ids
  exact List.inj_on_of_nodup_map hnodup hs ht hid

theorem Stored.leased {table : GateTable} (h : Stored table) {s : GateSession}
    (hs : s ∈ currents table) (hactive : s.status.activeLease = true) : Leased s := by
  obtain ⟨e, he, rfl⟩ := mem_currents hs
  exact leased_of_canonical (h.times e he) hactive

theorem due_of_mem {table : GateTable} {now : Nat} {s : GateSession}
    (h : s ∈ (currents table).filter (dueAt now)) :
    s ∈ currents table ∧ s.status.activeLease = true := by
  obtain ⟨hs, hdue⟩ := List.mem_filter.mp h
  rw [dueAt, Bool.and_eq_true] at hdue
  exact ⟨hs, hdue.1⟩

theorem Stored.listing_eq_iff {table : GateTable} (h : Stored table) {now : Nat}
    (hnow : now ≤ maxInstant) :
    orderBy dueKey ((currents table).filter (dueRow (isoformat now))) = dueInTime table now ↔
      Aligned table now := by
  have injText : ∀ s ∈ currents table, ∀ t ∈ currents table, dueKey s = dueKey t → s = t := by
    intro s hs t ht heq
    exact h.session_unique hs ht (congrArg (fun k => (ofLex (ofLex k).2).2) heq)
  have injTime : ∀ s ∈ currents table, ∀ t ∈ currents table,
      chronologicalKey s = chronologicalKey t → s = t := by
    intro s hs t ht heq
    exact h.session_unique hs ht (congrArg (fun k => (ofLex (ofLex k).2).2) heq)
  have hselect : (∀ s ∈ currents table, dueRow (isoformat now) s = dueAt now s) ↔
      ∀ s ∈ currents table, s.status.activeLease = true → Mixed (lease s) now →
        expires s ≤ now ∧ ¬Mixed (expires s) now := by
    constructor
    · intro hagree s hs hactive
      exact (due_agrees_iff (h.leased hs hactive) hactive hnow).mp (hagree s hs)
    · intro hleases s hs
      cases hactive : s.status.activeLease with
      | false => rw [dueRow, dueAt, hactive, Bool.false_and, Bool.false_and]
      | true => exact (due_agrees_iff (h.leased hs hactive) hactive hnow).mpr (hleases s hs hactive)
  rw [dueInTime, orderBy_filter_eq_iff injText injTime, hselect]
  have leased {s : GateSession} (hs : s ∈ (currents table).filter (dueAt now)) : Leased s :=
    h.leased (due_of_mem hs).1 (due_of_mem hs).2
  constructor
  · rintro ⟨hleases, horder⟩
    refine ⟨hleases, ?_⟩
    intro s hs t ht
    exact (key_agrees_iff (leased hs) (leased ht)).mp ⟨horder s hs t ht, horder t ht s hs⟩
  · rintro ⟨hleases, horder⟩
    refine ⟨hleases, ?_⟩
    intro s hs t ht
    exact ((key_agrees_iff (leased hs) (leased ht)).mpr (horder s hs t ht)).1

theorem trustedNow_of_instant {reading : Str} {now : Nat} (hnow : now ≤ maxInstant)
    (h : instant? reading = some (now : Int)) : trustedNow reading = .ok (isoformat now) := by
  have hrange : (0 : Int) ≤ now ∧ (now : Int) ≤ maxInstant := by omega
  rw [trustedNow, h]
  show demand (utcText? now) dateOutOfRange = _
  rw [utcText?, if_pos hrange]
  rfl

theorem listDue_of_instant {table : GateTable} {reading : Str} {now limit : Nat}
    (hnow : now ≤ maxInstant) (h : instant? reading = some (now : Int)) (h₁ : 1 ≤ limit)
    (h₂ : limit ≤ 10000) :
    listDue table reading limit =
      .ok ((orderBy dueKey ((currents table).filter (dueRow (isoformat now)))).take limit) := by
  have hlimit : ¬((limit : Int) < 1 ∨ (10000 : Int) < limit) := by omega
  rw [listDue, raiseIf_of_not hlimit, trustedNow_of_instant hnow h]
  rfl

def FollowsInstants (table : GateTable) (now : Nat) (reading : Str) : Prop :=
  ∀ limit : Nat, 1 ≤ limit → limit ≤ 10000 →
    listDue table reading limit = .ok ((dueInTime table now).take limit)

theorem due_listing_follows_instants (table : GateTable) (hreach : Reachable table) (now : Nat)
    (hnow : now ≤ maxInstant) (reading : Str) (hreading : instant? reading = some (now : Int)) :
    (Aligned table now → FollowsInstants table now reading) ∧
      (table.length ≤ 10000 → FollowsInstants table now reading → Aligned table now) := by
  have hiff := hreach.stored.listing_eq_iff hnow
  refine ⟨?_, ?_⟩
  · intro haligned limit h₁ h₂
    rw [listDue_of_instant hnow hreading h₁ h₂, hiff.mpr haligned]
  · intro hlength hfollows
    have bounded {p : GateSession → Bool} {κ : Type} [LinearOrder κ] (key : GateSession → κ) :
        (orderBy key ((currents table).filter p)).length ≤ 10000 := by
      rw [length_orderBy]
      refine (List.length_filter_le _ _).trans ?_
      rw [currents, List.length_map]
      exact hlength
    apply hiff.mp
    apply (take_eq_iff (by omega) (bounded dueKey) (bounded chronologicalKey)).mp
    intro limit h₁ h₂
    have heq := hfollows limit h₁ h₂
    rw [listDue_of_instant hnow hreading h₁ h₂] at heq
    exact Except.ok.inj heq

def preparedCalls : List (Str × GateCall) :=
  [(lit "2026-01-01T00:00:00Z", .createOrGet sampleIdentity 3600),
    (lit "2026-01-01T00:00:01Z", .transition (lit "session-1") .prepared 1 (some 59)
      { retrievalSnapshotId := some (lit "snapshot-1")
        systemGateEvaluationId := some (lit "evaluation-1") })]

def preparedTable : GateTable := afterCalls true [] preparedCalls

theorem preparedTable_reachable : Reachable preparedTable := ⟨true, preparedCalls, rfl⟩

instance Mixed.decidable (i j : Nat) : Decidable (Mixed i j) :=
  inferInstanceAs (Decidable (_ ∧ _ ∧ _))

set_option maxRecDepth 20000 in
theorem preparedTable_aligned : Aligned preparedTable (micros (lit "2026-01-01T00:01:00Z")) :=
  ⟨by decide +kernel, by decide +kernel⟩

set_option maxRecDepth 20000 in
theorem due_listing_at_expiry :
    FollowsInstants preparedTable (micros (lit "2026-01-01T00:01:00Z"))
      (lit "2026-01-01T00:01:00Z") ∧
    (dueInTime preparedTable (micros (lit "2026-01-01T00:01:00Z"))).length = 1 :=
  ⟨(due_listing_follows_instants preparedTable preparedTable_reachable _ (by decide +kernel)
    (lit "2026-01-01T00:01:00Z") (by decide +kernel)).1 preparedTable_aligned, by decide +kernel⟩

set_option maxRecDepth 20000 in
theorem due_listing_misses_expired_lease : Reachable preparedTable ∧
    instant? (lit "2026-01-01T00:01:00.5Z") =
      some (micros (lit "2026-01-01T00:01:00.5Z") : Int) ∧
    (listDue preparedTable (lit "2026-01-01T00:01:00.5Z") 100).toOption.map List.length = some 0 ∧
    (dueInTime preparedTable (micros (lit "2026-01-01T00:01:00.5Z"))).length = 1 ∧
    ¬FollowsInstants preparedTable (micros (lit "2026-01-01T00:01:00.5Z"))
      (lit "2026-01-01T00:01:00.5Z") := by
  have hcode : (listDue preparedTable (lit "2026-01-01T00:01:00.5Z") 100).toOption.map List.length =
      some 0 := by decide
  have hdue : (dueInTime preparedTable (micros (lit "2026-01-01T00:01:00.5Z"))).length = 1 := by
    decide
  refine ⟨preparedTable_reachable, by decide, hcode, hdue, ?_⟩
  intro h
  have hlisted : listDue preparedTable (lit "2026-01-01T00:01:00.5Z") 100 = _ :=
    h 100 (by omega) (by omega)
  rw [hlisted] at hcode
  have hzero := Option.some.inj hcode
  rw [List.length_take, hdue] at hzero
  omega

end Listing

end GateRepository

end TraceBackedMemory
