import TraceBackedMemory.Outbox.Ownership
import TraceBackedMemory.Foundation.OrderBy

namespace TraceBackedMemory

open Text Raising OrderBy

namespace Outbox

variable {sha : Sha256}

section Repository

structure OutboxEntry (sha : Sha256) where
  current : CompletionOutboxDelivery sha
  superseded : List (CompletionOutboxDelivery sha)

abbrev OutboxTable (sha : Sha256) := List (OutboxEntry sha)

def maxPageSize : Nat := 1000

def clockFailure (message : Str) : GateError :=
  ⟨.persistence, lit "TBM_SQLITE_COMPLETION_OUTBOX_CLOCK", message⟩

def trustedNow (reading : Str) (notBefore : Option Str) : Except GateError Str := do
  let parsed ← demand (instant? reading)
    (clockFailure (lit "trusted outbox clock returned an invalid timestamp"))
  let now ← demand (utcText? parsed) dateOutOfRange
  match notBefore with
  | none => .ok now
  | some text => do
    let previous ← GateSession.instant text
    raiseIf (parsed < previous) (clockFailure (lit "trusted outbox clock moved backwards"))
    return now

def unixEpoch : Int := 62135596800000000

def timestampMicroseconds (text : Str) : Int := (instant? text).getD 0 - unixEpoch

def notLater (column : Option Str) (now : Int) : Bool :=
  match column with
  | none => false
  | some text => decide (timestampMicroseconds text ≤ now)

def dueRow (now : Int) (d : CompletionOutboxDelivery sha) : Bool :=
  match d.status with
  | .pending | .retryWait => notLater d.availableAt now
  | .leased => notLater d.leaseExpiresAt now
  | .delivered | .deadLetter => false

-- every due row has one of the two columns, so the value for a row with neither is never compared
def dueKey (d : CompletionOutboxDelivery sha) : Int ×ₗ Str :=
  toLex (timestampMicroseconds ((d.availableAt.or d.leaseExpiresAt).getD []), d.eventId)

def dueRows (table : OutboxTable sha) (now : Int) : List (CompletionOutboxDelivery sha) :=
  orderBy dueKey ((table.map OutboxEntry.current).filter (dueRow now))

def appendDelivery (table : OutboxTable sha) (next : CompletionOutboxDelivery sha) : OutboxTable sha :=
  table.map (fun e =>
    if e.current.eventId = next.eventId then ⟨next, e.current :: e.superseded⟩ else e)

def appendDeliveries (table : OutboxTable sha) :
    List (CompletionOutboxDelivery sha) → OutboxTable sha
  | [] => table
  | next :: l => appendDeliveries (appendDelivery table next) l

def claimDue (table : OutboxTable sha) (reading workerId : Str) (leaseSeconds limit : Int) :
    Except GateError (List (CompletionOutboxDelivery sha) × OutboxTable sha) := do
  validateClaim workerId leaseSeconds
  raiseIf (limit < 1 ∨ (maxPageSize : Int) < limit)
    ⟨.valueError, [], lit "limit is outside the supported range"⟩
  let now ← trustedNow reading none
  let due := (dueRows table (timestampMicroseconds now)).take limit.toNat
  let claimed ← collect (fun d => claim d workerId now leaseSeconds) due
  return (claimed, appendDeliveries table claimed)

def deliveryNotFound : GateError :=
  ⟨.notFound, lit "TBM_SQLITE_COMPLETION_OUTBOX_DELIVERY_NOT_FOUND",
    lit "completion outbox delivery head was not found"⟩

def selectCurrentDelivery (table : OutboxTable sha) (eventId : Str) :
    Except GateError (CompletionOutboxDelivery sha) :=
  demand ((table.find? (fun e => decide (e.current.eventId = eventId))).map OutboxEntry.current)
    deliveryNotFound

def staleDelivery : GateError :=
  ⟨.conflict, lit "TBM_SQLITE_COMPLETION_OUTBOX_STALE", lit "completion outbox delivery version is stale"⟩

def finishDelivery (table : OutboxTable sha) (reading eventId : Str) (expectedVersion : Nat)
    (operation : CompletionOutboxDelivery sha → Str → Except GateError (CompletionOutboxDelivery sha)) :
    Except GateError (CompletionOutboxDelivery sha × OutboxTable sha) := do
  raiseIf (expectedVersion < 1)
    ⟨.valueError, [], lit "expected_version must be a positive integer"⟩
  let current ← selectCurrentDelivery table eventId
  raiseIf (current.version ≠ expectedVersion) staleDelivery
  let now ← trustedNow reading (some current.updatedAt)
  let updated ← operation current now
  return (updated, appendDelivery table updated)

-- a repeated completion keeps the event and its delivery as they are
def insertBundle (table : OutboxTable sha) (eventId occurredAt : Str) : Except GateError (OutboxTable sha) :=
  if table.any (fun e => decide (e.current.eventId = eventId)) then
    .ok table
  else do
    let initial ← buildInitial sha eventId occurredAt
    return table ++ [⟨initial, []⟩]

inductive OutboxCall where
  | complete (eventId occurredAt : Str)
  | claimDue (workerId : Str) (leaseSeconds limit : Int)
  | acknowledge (eventId : Str) (expectedVersion : Nat) (workerId : Str) (responseSha256 : Option Str)
  | failDelivery (eventId : Str) (expectedVersion : Nat) (workerId error : Str)
      (retryDelaySeconds attempts : Int)

def OutboxCall.perform (table : OutboxTable sha) (reading : Str) :
    OutboxCall → Except GateError (OutboxTable sha)
  | complete eventId occurredAt => insertBundle table eventId occurredAt
  | claimDue workerId seconds limit => Prod.snd <$> Outbox.claimDue table reading workerId seconds limit
  | acknowledge eventId v workerId response =>
    Prod.snd <$> finishDelivery table reading eventId v
      (fun current now => Outbox.acknowledge current workerId now response)
  | failDelivery eventId v workerId error delay attempts =>
    Prod.snd <$> finishDelivery table reading eventId v
      (fun current now => Outbox.fail current workerId now error delay attempts)

inductive TableReachable : OutboxTable sha → Prop
  | empty : TableReachable []
  | step {table next : OutboxTable sha} {reading : Str} {call : OutboxCall}
      (h : TableReachable table) (hstep : call.perform table reading = .ok next) : TableReachable next

end Repository

section Tables

theorem selectCurrentDelivery_eq_ok {table : OutboxTable sha} {eventId : Str}
    {d : CompletionOutboxDelivery sha} (h : selectCurrentDelivery table eventId = .ok d) :
    ∃ e ∈ table, e.current = d := by
  rw [selectCurrentDelivery, demand_eq_ok, Option.map_eq_some_iff] at h
  obtain ⟨e, he, rfl⟩ := h
  exact ⟨e, List.mem_of_find?_eq_some he, rfl⟩

theorem mem_appendDelivery {table : OutboxTable sha} {next : CompletionOutboxDelivery sha}
    {e : OutboxEntry sha} (h : e ∈ appendDelivery table next) : e.current = next ∨ e ∈ table := by
  rw [appendDelivery, List.mem_map] at h
  obtain ⟨d, hd, rfl⟩ := h
  split
  · exact .inl rfl
  · exact .inr hd

theorem mem_appendDeliveries {table : OutboxTable sha} {next : List (CompletionOutboxDelivery sha)}
    {e : OutboxEntry sha} (h : e ∈ appendDeliveries table next) : e.current ∈ next ∨ e ∈ table := by
  induction next generalizing table with
  | nil => exact .inr h
  | cons d l ih =>
    rcases ih h with hmem | hmem
    · exact .inl (List.mem_cons_of_mem _ hmem)
    · rcases mem_appendDelivery hmem with heq | hmem
      · exact .inl (by rw [heq]; simp)
      · exact .inr hmem

theorem mem_dueRows {table : OutboxTable sha} {now : Int} {d : CompletionOutboxDelivery sha}
    (h : d ∈ dueRows table now) : (∃ e ∈ table, e.current = d) ∧ dueRow now d = true := by
  rw [dueRows, mem_orderBy, List.mem_filter, List.mem_map] at h
  exact h

theorem claimDue_eq_ok {table next : OutboxTable sha} {reading workerId : Str} {seconds limit : Int}
    {claimed : List (CompletionOutboxDelivery sha)}
    (h : claimDue table reading workerId seconds limit = .ok (claimed, next)) :
    ∃ now, collect (fun d => claim d workerId now seconds)
        ((dueRows table (timestampMicroseconds now)).take limit.toNat) = .ok claimed ∧
      next = appendDeliveries table claimed := by
  simp only [claimDue, bind_eq_ok, exists_unit, pure_eq_ok, Prod.mk.injEq] at h
  obtain ⟨-, -, now, -, _, hcollect, rfl, rfl⟩ := h
  exact ⟨now, hcollect, rfl⟩

theorem finishDelivery_eq_ok {table next : OutboxTable sha} {reading eventId : Str} {v : Nat}
    {operation : CompletionOutboxDelivery sha → Str → Except GateError (CompletionOutboxDelivery sha)}
    {updated : CompletionOutboxDelivery sha}
    (h : finishDelivery table reading eventId v operation = .ok (updated, next)) :
    ∃ current now, selectCurrentDelivery table eventId = .ok current ∧
      operation current now = .ok updated ∧ next = appendDelivery table updated := by
  simp only [finishDelivery, bind_eq_ok, exists_unit, pure_eq_ok, Prod.mk.injEq] at h
  obtain ⟨-, current, hcurrent, -, now, -, _, hupdated, rfl, rfl⟩ := h
  exact ⟨current, now, hcurrent, hupdated, rfl⟩

theorem entries_step {table next : OutboxTable sha} {reading : Str} {call : OutboxCall}
    (h : ∀ e ∈ table, Reachable e.current) (hstep : call.perform table reading = .ok next) :
    ∀ e ∈ next, Reachable e.current := by
  have finished {eventId : Str} {v : Nat} {action : DeliveryAction}
      {operation : CompletionOutboxDelivery sha → Str → Except GateError (CompletionOutboxDelivery sha)}
      (hoperation : ∀ current now, operation current now = action.perform current now)
      (hrun : Prod.snd <$> finishDelivery table reading eventId v operation = .ok next) :
      ∀ e ∈ next, Reachable e.current := by
    obtain ⟨⟨updated, t⟩, hfinish, rfl⟩ := map_eq_ok.mp hrun
    obtain ⟨current, now, hcurrent, hupdated, rfl⟩ := finishDelivery_eq_ok hfinish
    obtain ⟨e, he, rfl⟩ := selectCurrentDelivery_eq_ok hcurrent
    rw [hoperation] at hupdated
    intro d hd
    rcases mem_appendDelivery hd with heq | hmem
    · rw [heq]
      exact .step (h e he) hupdated
    · exact h d hmem
  cases call with
  | complete eventId occurredAt =>
    simp only [OutboxCall.perform, insertBundle] at hstep
    split at hstep
    · obtain rfl := Except.ok.inj hstep
      exact h
    · simp only [bind_eq_ok, pure_eq_ok] at hstep
      obtain ⟨initial, hinitial, rfl⟩ := hstep
      intro e he
      rcases List.mem_append.mp he with he | he
      · exact h e he
      · rw [List.mem_singleton.mp he]
        exact .initial hinitial
  | claimDue workerId seconds limit =>
    obtain ⟨⟨claimed, t⟩, hclaim, rfl⟩ := map_eq_ok.mp hstep
    obtain ⟨now, hcollect, rfl⟩ := claimDue_eq_ok hclaim
    intro e he
    rcases mem_appendDeliveries he with hmem | hmem
    · obtain ⟨d, hd, hd'⟩ := collect_mem hcollect hmem
      obtain ⟨⟨e', he', rfl⟩, -⟩ := mem_dueRows (List.mem_of_mem_take hd)
      have hperform : (DeliveryAction.claim workerId seconds).perform e'.current now = .ok e.current :=
        hd'
      exact .step (h e' he') hperform
    · exact h e hmem
  | acknowledge eventId v workerId response =>
    exact @finished eventId v (.acknowledge workerId response) _ (fun _ _ => rfl) hstep
  | failDelivery eventId v workerId error delay attempts =>
    exact @finished eventId v (.fail workerId error delay attempts) _ (fun _ _ => rfl) hstep

theorem TableReachable.entries {table : OutboxTable sha} (h : TableReachable table) :
    ∀ e ∈ table, Reachable e.current := by
  induction h with
  | empty => simp
  | step _ hstep ih => exact entries_step ih hstep

end Tables

section Isolation

theorem timestampMicroseconds_canonical {text : Str} (h : CanonicalText text) :
    timestampMicroseconds text = (micros text : Int) - unixEpoch := by
  rw [timestampMicroseconds, (utcText_micros h).1]
  rfl

theorem notLater_canonical {text : Str} (h : CanonicalText text) {now : Nat}
    (hnow : now ≤ maxInstant) :
    notLater (some text) (timestampMicroseconds (isoformat now)) = true ↔ micros text ≤ now := by
  rw [notLater, timestampMicroseconds_canonical h,
    timestampMicroseconds_canonical (canonicalText_isoformat hnow), micros_isoformat hnow,
    decide_eq_true_eq]
  omega

theorem dueRow_iff (d : CompletionOutboxDelivery sha) {now : Nat} (hnow : now ≤ maxInstant) :
    dueRow (timestampMicroseconds (isoformat now)) d = true ↔
      d.status.terminal = false ∧ ready d.toDeliveryRecord ≤ now := by
  obtain ⟨hf, hs⟩ := d.shape
  unfold StatusShape at hs
  unfold dueRow ready
  cases hstatus : d.status with
  | pending =>
    rw [hstatus] at hs
    obtain ⟨text, htext⟩ := Option.ne_none_iff_exists'.mp hs.2.2.1
    simp only [htext, notLater_canonical (hf.available text htext) hnow, Option.getD_some,
      DeliveryStatus.terminal, true_and]
  | retryWait =>
    rw [hstatus] at hs
    obtain ⟨text, htext, -⟩ := hs.2.1
    simp only [htext, notLater_canonical (hf.available text htext) hnow, Option.getD_some,
      DeliveryStatus.terminal, true_and]
  | leased =>
    rw [hstatus] at hs
    obtain ⟨text, htext, -⟩ := hs.2.2.1
    simp only [htext, notLater_canonical (hf.lease text htext) hnow, Option.getD_some,
      DeliveryStatus.terminal, true_and]
  | delivered => simp [DeliveryStatus.terminal]
  | deadLetter => simp [DeliveryStatus.terminal]

def dueAt (table : OutboxTable sha) (now : Nat) : List (CompletionOutboxDelivery sha) :=
  dueRows table (timestampMicroseconds (isoformat now))

theorem TableReachable.claimable {table : OutboxTable sha} (h : TableReachable table) {now : Nat}
    (hnow : now ≤ maxInstant) {d : CompletionOutboxDelivery sha} (hd : d ∈ dueAt table now) :
    Claimable d.toDeliveryRecord now ↔ d.attemptCount < maxAttempts := by
  obtain ⟨⟨e, he, rfl⟩, hdue⟩ := mem_dueRows hd
  obtain ⟨hlive, hready⟩ := (dueRow_iff e.current hnow).mp hdue
  have hupdated := (h.entries e he).scheduled.ready hlive
  exact ⟨fun hc => hc.attempts, fun ha => ⟨hlive, hready, hupdated.trans hready, ha⟩⟩

theorem trustedNow_of_instant {reading : Str} {now : Nat} (hnow : now ≤ maxInstant)
    (h : instant? reading = some (now : Int)) : trustedNow reading none = .ok (isoformat now) := by
  have hrange : (0 : Int) ≤ now ∧ (now : Int) ≤ maxInstant := by omega
  rw [trustedNow, h]
  refine bind_eq_ok.mpr ⟨(now : Int), rfl, bind_eq_ok.mpr ⟨isoformat now, ?_, rfl⟩⟩
  rw [utcText?, if_pos hrange]
  rfl

theorem claimDue_run {table : OutboxTable sha} {reading workerId : Str} {seconds : Int} {now limit : Nat}
    (hnow : now ≤ maxInstant) (hreading : instant? reading = some (now : Int))
    (hvalid : validateClaim workerId seconds = .ok ()) (h₁ : 1 ≤ limit) (h₂ : limit ≤ maxPageSize) :
    claimDue table reading workerId seconds limit =
      collect (fun d => claim d workerId (isoformat now) seconds) ((dueAt table now).take limit) >>=
        fun claimed => pure (claimed, appendDeliveries table claimed) := by
  have hlimit : ¬((limit : Int) < 1 ∨ (maxPageSize : Int) < limit) := by omega
  rw [claimDue, hvalid, raiseIf_of_not hlimit, trustedNow_of_instant hnow hreading]
  rfl

def Isolated (table : OutboxTable sha) (now : Nat) (reading : Str) : Prop :=
  ∀ workerId seconds (limit : Nat), 1 ≤ limit → limit ≤ maxPageSize →
    ∀ d ∈ (dueAt table now).take limit, ∀ d', claim d workerId (isoformat now) seconds = .ok d' →
      ∃ claimed next, claimDue table reading workerId seconds limit = .ok (claimed, next) ∧
        d' ∈ claimed

def Blocked (table : OutboxTable sha) (now : Nat) : Prop :=
  ∃ stuck ∈ (dueAt table now).take maxPageSize, ∃ d ∈ (dueAt table now).take maxPageSize,
    maxAttempts ≤ stuck.attemptCount ∧ d.attemptCount < maxAttempts ∧ now + 1000000 ≤ maxInstant

theorem collect_member {α β ε : Type} {f : α → Except ε β} {l : List α} {bs : List β}
    (h : collect f l = .ok bs) {a : α} (ha : a ∈ l) : ∃ b ∈ bs, f a = .ok b := by
  induction l generalizing bs with
  | nil => cases ha
  | cons c l ih =>
    simp only [collect, bind_eq_ok, pure_eq_ok] at h
    obtain ⟨b, hb, rest, hrest, rfl⟩ := h
    rcases List.mem_cons.mp ha with rfl | ha
    · exact ⟨b, by simp, hb⟩
    · obtain ⟨b', hb', hf⟩ := ih hrest ha
      exact ⟨b', List.mem_cons_of_mem _ hb', hf⟩

end Isolation

section Crashes

theorem dueAt_singleton {e : OutboxEntry sha} {now : Nat} (hnow : now ≤ maxInstant)
    (hlive : e.current.status.terminal = false) (hready : ready e.current.toDeliveryRecord ≤ now) :
    dueAt [e] now = [e.current] := by
  have hdue := (dueRow_iff e.current hnow).mpr ⟨hlive, hready⟩
  rw [dueAt, dueRows, List.map_singleton, List.filter_singleton, hdue]
  rfl

theorem claimDue_singleton {e : OutboxEntry sha} {workerId : Str} {now : Nat} {seconds : Int}
    (hcaller : Caller workerId now seconds) (hclaim : Claimable e.current.toDeliveryRecord now) :
    ∃ d', claim e.current workerId (isoformat now) seconds = .ok d' ∧
      d'.toDeliveryRecord = leasedRecord e.current.toDeliveryRecord workerId now seconds ∧
      claimDue [e] (isoformat now) workerId seconds 1 = .ok ([d'], [⟨d', e.current :: e.superseded⟩]) := by
  have hnow := hcaller.now_le
  obtain ⟨d', hd'⟩ := exists_leased e.current hcaller hclaim.attempts
  have hrun : claim e.current workerId (isoformat now) seconds = .ok d' :=
    claim_eq_ok.mpr ⟨now, rfl, hcaller, hclaim, hd'⟩
  have hevent : e.current.eventId = d'.eventId := by rw [hd']; rfl
  have hvalid : validateClaim workerId seconds = .ok () :=
    validateClaim_eq_ok.mpr ⟨hcaller.worker, hcaller.positive, hcaller.bounded⟩
  refine ⟨d', hrun, hd', ?_⟩
  have hcall := @claimDue_run sha [e] (isoformat now) workerId seconds now 1 hnow
    (instant_isoformat hnow) hvalid (le_refl 1) (by decide)
  refine hcall.trans ?_
  rw [dueAt_singleton hnow hclaim.live hclaim.ready]
  simp only [List.take_succ_cons, List.take_zero, collect, hrun]
  show Except.ok ([d'], appendDeliveries [e] [d']) = _
  simp only [appendDeliveries, appendDelivery, List.map_cons, List.map_nil, if_pos hevent]

theorem exists_crashed_table (sha : Sha256) (n : Nat) (hn : n < maxAttempts) :
    ∃ e : OutboxEntry sha, TableReachable [e] ∧ e.current.status = .leased ∧
      e.current.attemptCount = n + 1 ∧ e.current.eventId = sampleEventId ∧
      ready e.current.toDeliveryRecord = sampleStart + (n + 1) * 60000000 := by
  have again (e : OutboxEntry sha) (k : Nat) (hk : k < maxAttempts) (he : TableReachable [e])
      (hlive : e.current.status.terminal = false) (hattempts : e.current.attemptCount = k)
      (hevent : e.current.eventId = sampleEventId)
      (hready : ready e.current.toDeliveryRecord = sampleStart + k * 60000000) :
      ∃ e' : OutboxEntry sha, TableReachable [e'] ∧ e'.current.status = .leased ∧
        e'.current.attemptCount = k + 1 ∧ e'.current.eventId = sampleEventId ∧
        ready e'.current.toDeliveryRecord = sampleStart + (k + 1) * 60000000 := by
    have hcaller := crash_caller hk.le
    have hscheduled := (he.entries e (by simp)).scheduled
    obtain ⟨d', -, hd', hrun⟩ := claimDue_singleton hcaller
      ⟨hlive, hready.le, hready ▸ hscheduled.ready hlive, by omega⟩
    have hstep : (OutboxCall.claimDue (lit "worker-1") 60 1).perform [e]
        (isoformat (sampleStart + k * 60000000)) = .ok [⟨d', e.current :: e.superseded⟩] := by
      rw [OutboxCall.perform, hrun]
      rfl
    refine ⟨_, .step he hstep, by rw [hd']; rfl, ?_, ?_, ?_⟩
    · rw [hd', ← hattempts]
      rfl
    · rw [hd', ← hevent]
      rfl
    · rw [hd', leasedRecord_ready hcaller.range]
      exact minutes_succ sampleStart k
  induction n with
  | zero =>
    have hle : sampleStart ≤ maxInstant := by decide
    obtain ⟨d, hd, hstatus, hcount, -, havailable, hevent⟩ :=
      exists_initial sha (show contentId eventKind sampleEventId = true by decide) hle
    have hstep : (OutboxCall.complete sampleEventId (isoformat sampleStart)).perform []
        (isoformat sampleStart) = .ok [(⟨d, []⟩ : OutboxEntry sha)] := by
      rw [OutboxCall.perform, insertBundle, hd]
      rfl
    refine again ⟨d, []⟩ 0 hn (.step .empty hstep) (by rw [hstatus]; rfl) hcount hevent ?_
    simp only [ready, hstatus, havailable, Option.getD_some]
    rw [micros_isoformat hle]
    rfl
  | succ n ih =>
    obtain ⟨e, he, hstatus, hcount, hevent, hready⟩ := ih (by omega)
    exact again e (n + 1) hn he (by rw [hstatus]; rfl) hcount hevent hready

def laterEventId : Str := eventKind ++ List.replicate 64 (cp '1')

theorem dueKey_lt {a b : CompletionOutboxDelivery sha} (ha : a.status = .leased)
    (hb : b.status = .pending) (hlt : ready a.toDeliveryRecord < ready b.toDeliveryRecord) :
    dueKey a ≤ dueKey b := by
  obtain ⟨-, -, -, hle, hlease⟩ := a.lease_shape ha
  have hnone : a.availableAt = none := by
    have hshape := a.shape.2
    rw [StatusShape, ha] at hshape
    have habsent := hshape.2.2.2
    simp only [DeliveryRecord.present, List.any_cons, Bool.or_eq_false_iff,
      Option.isSome_eq_false_iff, Option.isNone_iff_eq_none] at habsent
    exact habsent.1
  obtain ⟨text, htext⟩ : ∃ text, b.availableAt = some text := by
    have hshape := b.shape.2
    rw [StatusShape, hb] at hshape
    exact Option.ne_none_iff_exists'.mp hshape.2.2.1
  have hready : ready b.toDeliveryRecord = micros text := by
    simp only [ready, hb, htext, Option.getD_some]
  rw [dueKey, dueKey, hnone, hlease, htext, Prod.Lex.toLex_le_toLex]
  refine .inl ?_
  show timestampMicroseconds (isoformat (ready a.toDeliveryRecord)) < timestampMicroseconds text
  rw [timestampMicroseconds_canonical (canonicalText_isoformat hle), micros_isoformat hle,
    timestampMicroseconds_canonical (b.shape.1.available text htext)]
  omega

theorem dueAt_pair {a b : OutboxEntry sha} {now : Nat} (hnow : now ≤ maxInstant)
    (ha : a.current.status = .leased) (hb : b.current.status = .pending)
    (hlt : ready a.current.toDeliveryRecord < ready b.current.toDeliveryRecord)
    (hready : ready b.current.toDeliveryRecord ≤ now) :
    dueAt [a, b] now = [a.current, b.current] := by
  have hda := (dueRow_iff a.current hnow).mpr ⟨by rw [ha]; rfl, by omega⟩
  have hdb := (dueRow_iff b.current hnow).mpr ⟨by rw [hb]; rfl, hready⟩
  have hkey := dueKey_lt ha hb hlt
  rw [dueAt, dueRows]
  simp only [List.map_cons, List.map_nil, List.filter_cons, hda, hdb, if_true, List.filter_nil,
    orderBy, List.insertionSort, List.foldr_cons, List.foldr_nil, List.orderedInsert, hkey]

theorem claimDue_refused {table : OutboxTable sha} {now : Nat} (hnow : now ≤ maxInstant)
    {stuck : CompletionOutboxDelivery sha} {rest : List (CompletionOutboxDelivery sha)}
    (hdue : dueAt table now = stuck :: rest) (hexhausted : maxAttempts ≤ stuck.attemptCount)
    (workerId : Str) (seconds limit : Int) :
    ∃ e, claimDue table (isoformat now) workerId seconds limit = .error e := by
  cases hrun : claimDue table (isoformat now) workerId seconds limit with
  | error e => exact ⟨e, rfl⟩
  | ok r =>
    simp only [claimDue, bind_eq_ok, exists_unit, raiseIf_eq_ok,
      trustedNow_of_instant hnow (instant_isoformat hnow), Except.ok.injEq, exists_eq_left'] at hrun
    obtain ⟨-, hlimit, claimed, hcollect, -⟩ := hrun
    have hmem : stuck ∈ (dueRows table (timestampMicroseconds (isoformat now))).take limit.toNat := by
      obtain ⟨k, hk⟩ : ∃ k, limit.toNat = k + 1 := ⟨limit.toNat - 1, by omega⟩
      show stuck ∈ (dueAt table now).take limit.toNat
      rw [hdue, hk, List.take_succ_cons]
      simp
    obtain ⟨b, -, hb⟩ := collect_member hcollect hmem
    have hattempts := ((claim_succeeds_iff hnow).mp ⟨b, hb⟩).2.attempts
    omega

end Crashes

end Outbox

end TraceBackedMemory
