import TraceBackedMemory.Outbox.History

namespace TraceBackedMemory

open Text Raising OrderBy

namespace Outbox

variable {sha : Sha256}

section Worker

local instance : DecidableEq (CompletionOutboxDelivery sha) := fun a b =>
  decidable_of_iff (a.toDeliveryRecord = b.toDeliveryRecord) ⟨CompletionOutboxDelivery.ext_record, congrArg _⟩

inductive CompletionOutboxWorkerOutcome where
  | delivered
  | retryWait
  | deadLetter
  | superseded
  | recoveryRequired
  deriving DecidableEq

structure CompletionOutboxWorkerResult (sha : Sha256) where
  eventId : Str
  observedVersion : Nat
  attemptCount : Nat
  outcome : CompletionOutboxWorkerOutcome
  current : CompletionOutboxDelivery sha

structure RunConfiguration where
  workerId : Str
  leaseSeconds : Int
  limit : Int
  retryDelaySeconds : Int
  maxAttempts : Int

def workerError (code message : String) : GateError := ⟨.contract, lit code, lit message⟩

def invalidClaims : GateError :=
  workerError "TBM_COMPLETION_OUTBOX_WORKER_CLAIMS_INVALID"
    "completion outbox authority returned invalid claims"

def invalidReceipt : GateError :=
  workerError "TBM_COMPLETION_OUTBOX_WORKER_RECEIPT_INVALID"
    "completion outbox authority returned an invalid receipt"

def validateRunConfiguration (c : RunConfiguration) : Except GateError Unit :=
  raiseIf (boundedText 128 c.workerId = false ∨
      ¬(1 ≤ c.leaseSeconds ∧ c.leaseSeconds ≤ maxLeaseSeconds) ∨
      ¬(1 ≤ c.limit ∧ c.limit ≤ maxPageSize) ∨
      ¬(1 ≤ c.retryDelaySeconds ∧ c.retryDelaySeconds ≤ maxRetrySeconds) ∨
      ¬(1 ≤ c.maxAttempts ∧ c.maxAttempts ≤ Outbox.maxAttempts))
    (workerError "TBM_COMPLETION_OUTBOX_WORKER_CONFIGURATION_INVALID"
      "completion outbox worker configuration is invalid")

def validateClaims (c : RunConfiguration) (claims : List (CompletionOutboxDelivery sha)) :
    Except GateError (List (CompletionOutboxDelivery sha)) := do
  raiseIf (c.limit < claims.length) invalidClaims
  raiseIf (¬(claims.map (fun d => d.eventId)).Nodup ∨
      ∃ d ∈ claims, d.status ≠ .leased ∨ d.workerId ≠ some c.workerId ∨ d.leaseExpiresAt = none ∨
        d.attemptCount < 1) invalidClaims
  return claims

structure CompletionOutboxConsumerReceipt where
  responseSha256 : Option Str
  valid : ∀ v, responseSha256 = some v → isDigest v = true

structure ConsumerErrorCode where
  code : Str
  valid : boundedText 256 code = true

-- What the consumer did with the event it was handed.
inductive ConsumerAnswer where
  | receipt (r : CompletionOutboxConsumerReceipt)
  | wrongType
  | consumerError (e : ConsumerErrorCode)
  | exception

def ConsumerAnswer.settle : ConsumerAnswer → Except Str (Option Str)
  | receipt r => .ok r.responseSha256
  | wrongType => .error (lit "TBM_COMPLETION_OUTBOX_CONSUMER_RECEIPT_INVALID")
  | consumerError e => .error e.code
  | exception => .error (lit "TBM_COMPLETION_OUTBOX_CONSUMER_FAILED")

def checkRetryTime (current : CompletionOutboxDelivery sha) (retryDelaySeconds : Int) :
    Except GateError Unit := do
  let available ← demand current.availableAt invalidReceipt
  let ready ← GateSession.instant available
  let updated ← GateSession.instant current.updatedAt
  let due ← demand ((utcText? (updated + retryDelaySeconds * 1000000)).map
    (fun _ => updated + retryDelaySeconds * 1000000)) dateOutOfRange
  raiseIf (ready ≠ due) invalidReceipt

def verifyTerminalReceipt (previous current : CompletionOutboxDelivery sha)
    (expectedStatus : DeliveryStatus) (response error : Option Str) (retryDelaySeconds : Int) :
    Except GateError Unit := do
  raiseIf (current.eventId ≠ previous.eventId ∨ current.version ≠ previous.version + 1 ∨
      current.attemptCount ≠ previous.attemptCount ∨ current.status ≠ expectedStatus ∨
      (expectedStatus = .delivered ∧ current.responseSha256 ≠ response) ∨
      (expectedStatus ≠ .delivered ∧ current.lastErrorCode ≠ error)) invalidReceipt
  if expectedStatus = .retryWait then checkRetryTime current retryDelaySeconds else .ok ()
  match verifyTransition previous current with
  | .ok _ => .ok ()
  | .error _ => .error invalidReceipt

def validateCurrent (previous current : CompletionOutboxDelivery sha) : Except GateError Unit :=
  raiseIf (current.eventId ≠ previous.eventId ∨ current.version < previous.version ∨
      (current.version = previous.version ∧ current ≠ previous))
    (workerError "TBM_COMPLETION_OUTBOX_WORKER_CURRENT_INVALID"
      "completion outbox authority returned invalid current state")

def workerResult (previous : CompletionOutboxDelivery sha) (outcome : CompletionOutboxWorkerOutcome)
    (current : CompletionOutboxDelivery sha) : CompletionOutboxWorkerResult sha :=
  ⟨previous.eventId, previous.version, previous.attemptCount, outcome, current⟩

def classifyAfterWriteFailure (table : OutboxTable sha) (delivery : CompletionOutboxDelivery sha) :
    Except GateError (CompletionOutboxWorkerResult sha) :=
  match selectCurrentDelivery table delivery.eventId with
  | .error _ => .error (workerError "TBM_COMPLETION_OUTBOX_WORKER_RECOVERY_READ_FAILED"
      "completion outbox state could not be read after write failure")
  | .ok current => do
    validateCurrent delivery current
    return workerResult delivery
      (if current = delivery then .recoveryRequired else .superseded) current

def verifyRetained (table : OutboxTable sha) (expected : CompletionOutboxDelivery sha) :
    Except GateError Unit :=
  match selectCurrentDelivery table expected.eventId with
  | .error _ => .error (workerError "TBM_COMPLETION_OUTBOX_WORKER_RECEIPT_READ_FAILED"
      "completion outbox delivery receipt could not be read")
  | .ok retained =>
    raiseIf (retained ≠ expected)
      (workerError "TBM_COMPLETION_OUTBOX_WORKER_RECEIPT_INVALID"
        "completion outbox delivery receipt was not durably retained")

end Worker

section Passes

-- Where a pass stands between two transactions; with no claim left the worker is idle.
inductive WorkerTask (sha : Sha256) where
  | dispatching (claims : List (CompletionOutboxDelivery sha))
  | classifying (delivery : CompletionOutboxDelivery sha) (rest : List (CompletionOutboxDelivery sha))
  | verifying (delivery updated : CompletionOutboxDelivery sha)
      (outcome : CompletionOutboxWorkerOutcome) (rest : List (CompletionOutboxDelivery sha))

structure Worker (sha : Sha256) where
  configuration : RunConfiguration
  task : WorkerTask sha
  results : List (CompletionOutboxWorkerResult sha)

def WorkerTask.claims : WorkerTask sha → List (CompletionOutboxDelivery sha)
  | dispatching claims => claims
  | classifying delivery rest => delivery :: rest
  | verifying delivery _ _ rest => delivery :: rest

def Worker.start (c : RunConfiguration) : Worker sha := ⟨c, .dispatching [], []⟩

-- A raised error ends the pass, and its results are not returned.
def Worker.raised (w : Worker sha) : Worker sha := ⟨w.configuration, .dispatching [], []⟩

variable (w : Worker sha) (table : OutboxTable sha)

def Worker.claimPass (reading : Str) : Worker sha × OutboxTable sha :=
  match validateRunConfiguration w.configuration with
  | .error _ => (w.raised, table)
  | .ok _ =>
    match claimDue table reading w.configuration.workerId w.configuration.leaseSeconds
        w.configuration.limit with
    | .error _ => (w.raised, table)
    | .ok (claims, next) =>
      match validateClaims w.configuration claims with
      | .error _ => (w.raised, next)
      | .ok validated => (⟨w.configuration, .dispatching validated, []⟩, next)

def Worker.written (delivery : CompletionOutboxDelivery sha)
    (rest : List (CompletionOutboxDelivery sha)) (outcome : CompletionOutboxWorkerOutcome)
    (verify : CompletionOutboxDelivery sha → Except GateError Unit)
    (write : Except GateError (CompletionOutboxDelivery sha × OutboxTable sha)) :
    Worker sha × OutboxTable sha :=
  match write with
  | .error _ => (⟨w.configuration, .classifying delivery rest, w.results⟩, table)
  | .ok (updated, next) =>
    match verify updated with
    | .error _ => (w.raised, next)
    | .ok _ => (⟨w.configuration, .verifying delivery updated outcome rest, w.results⟩, next)

def Worker.recordFailure (delivery : CompletionOutboxDelivery sha)
    (rest : List (CompletionOutboxDelivery sha)) (reading error : Str) : Worker sha × OutboxTable sha :=
  let dead := w.configuration.maxAttempts ≤ delivery.attemptCount
  w.written table delivery rest (if dead then .deadLetter else .retryWait)
    (fun updated => verifyTerminalReceipt delivery updated
      (if dead then .deadLetter else .retryWait) none (some error) w.configuration.retryDelaySeconds)
    (finishDelivery table reading delivery.eventId delivery.version (fun current now =>
      Outbox.fail current w.configuration.workerId now error w.configuration.retryDelaySeconds
        w.configuration.maxAttempts))

def Worker.dispatch (delivery : CompletionOutboxDelivery sha)
    (rest : List (CompletionOutboxDelivery sha)) (reading : Str) (answer : ConsumerAnswer) :
    Worker sha × OutboxTable sha :=
  match answer.settle with
  | .error error => w.recordFailure table delivery rest reading error
  | .ok response =>
    w.written table delivery rest .delivered
      (fun updated => verifyTerminalReceipt delivery updated .delivered response none
        w.configuration.retryDelaySeconds)
      (finishDelivery table reading delivery.eventId delivery.version (fun current now =>
        Outbox.acknowledge current w.configuration.workerId now response))

def Worker.observe : Worker sha :=
  match w.task with
  | .dispatching _ => w
  | .classifying delivery rest =>
    match classifyAfterWriteFailure table delivery with
    | .error _ => w.raised
    | .ok result => ⟨w.configuration, .dispatching rest, w.results ++ [result]⟩
  | .verifying delivery updated outcome rest =>
    match verifyRetained table updated with
    | .error _ => w.raised
    | .ok _ => ⟨w.configuration, .dispatching rest,
        w.results ++ [workerResult delivery outcome updated]⟩

-- The database refuses the transaction and rolls it back.
def Worker.refused : Worker sha :=
  match w.task with
  | .dispatching (delivery :: rest) => ⟨w.configuration, .classifying delivery rest, w.results⟩
  | _ => w.raised

inductive WorkerMove where
  | claimDue (reading : Str)
  | dispatch (reading : Str) (answer : ConsumerAnswer)
  | observe
  | refused
  | crash

def Worker.advance : WorkerMove → Worker sha × OutboxTable sha
  | .claimDue reading =>
    match w.task with
    | .dispatching [] => w.claimPass table reading
    | _ => (w, table)
  | .dispatch reading answer =>
    match w.task with
    | .dispatching (delivery :: rest) => w.dispatch table delivery rest reading answer
    | _ => (w, table)
  | .observe => (w.observe table, table)
  | .refused => (w.refused, table)
  | .crash => (w.raised, table)

end Passes

section Fleets

structure Fleet (sha : Sha256) where
  table : OutboxTable sha
  workers : List (Worker sha)

-- A call is any other use of the repository, the completions that fill the outbox included.
inductive FleetAction where
  | call (c : OutboxCall) (reading : Str)
  | worker (i : Nat) (move : WorkerMove)

def Fleet.start (configurations : List RunConfiguration) : Fleet sha :=
  ⟨[], configurations.map Worker.start⟩

def Fleet.step (fleet : Fleet sha) : FleetAction → Fleet sha
  | .call c reading =>
    match c.perform fleet.table reading with
    | .ok next => ⟨next, fleet.workers⟩
    | .error _ => fleet
  | .worker i move =>
    match fleet.workers[i]? with
    | none => fleet
    | some w => ⟨(w.advance fleet.table move).2, fleet.workers.set i (w.advance fleet.table move).1⟩

def Fleet.run (fleet : Fleet sha) : List FleetAction → Fleet sha
  | [] => fleet
  | action :: rest => (fleet.step action).run rest

structure HistoryLaws (fleet : Fleet sha) : Prop where
  distinct : (fleet.table.map (fun e => e.current.eventId)).Nodup
  linear : ∀ e ∈ fleet.table, LinearHistory e.revisions
  retained : ∀ action, Extends fleet.table (fleet.step action).table
  lostCall : ∀ d reading, Recorded fleet.table d → LeaseLost fleet.table d reading →
    (∀ workerId response, ∃ e,
      (OutboxCall.acknowledge d.eventId d.version workerId response).perform fleet.table reading =
        .error e) ∧
    ∀ workerId error delay attempts, ∃ e,
      (OutboxCall.failDelivery d.eventId d.version workerId error delay attempts).perform fleet.table
        reading = .error e
  lostWorker : ∀ i w d rest reading answer, fleet.workers[i]? = some w →
    w.task = .dispatching (d :: rest) → LeaseLost fleet.table d reading →
      (fleet.step (.worker i (.dispatch reading answer))).table = fleet.table

end Fleets

section Invariant

structure Holding (table : OutboxTable sha) (w : Worker sha) : Prop where
  recorded : ∀ d ∈ w.task.claims, Recorded table d
  leased : ∀ d ∈ w.task.claims, d.status = .leased
  owner : ∀ d ∈ w.task.claims, d.workerId = some w.configuration.workerId

theorem Holding.mono {table next : OutboxTable sha} {w : Worker sha} (h : Holding table w)
    (hextends : Extends table next) : Holding next w :=
  ⟨fun d hd => (h.recorded d hd).mono hextends, h.leased, h.owner⟩

-- A worker that holds some of the claims it held keeps the invariant.
theorem Holding.subset {table : OutboxTable sha} {w w' : Worker sha} (h : Holding table w)
    (hconfiguration : w'.configuration = w.configuration)
    (hclaims : ∀ d ∈ w'.task.claims, d ∈ w.task.claims) : Holding table w' :=
  ⟨fun d hd => h.recorded d (hclaims d hd), fun d hd => h.leased d (hclaims d hd),
    fun d hd => (h.owner d (hclaims d hd)).trans (by rw [hconfiguration])⟩

theorem Holding.raised {table : OutboxTable sha} {w : Worker sha} (h : Holding table w) :
    Holding table w.raised := by
  refine h.subset rfl ?_
  intro d hd
  cases hd

def Moved (table : OutboxTable sha) (r : Worker sha × OutboxTable sha) : Prop :=
  Sound r.2 ∧ Extends table r.2 ∧ Holding r.2 r.1

variable {table : OutboxTable sha} {w : Worker sha}

theorem moved_still (h : Sound table) {w' : Worker sha} (hw : Holding table w') :
    Moved table (w', table) :=
  ⟨h, .refl table, hw⟩

theorem claimPass_moved (h : Sound table) (hw : Holding table w) (reading : Str) :
    Moved table (w.claimPass table reading) := by
  unfold Worker.claimPass
  cases validateRunConfiguration w.configuration with
  | error e => exact moved_still h hw.raised
  | ok _ =>
    cases hclaim : claimDue table reading w.configuration.workerId w.configuration.leaseSeconds
        w.configuration.limit with
    | error e => exact moved_still h hw.raised
    | ok r =>
      obtain ⟨claims, next⟩ := r
      obtain ⟨hsound, hextends, hclaims⟩ := claimDue_sound h hclaim
      dsimp only
      cases hvalid : validateClaims w.configuration claims with
      | error e => exact ⟨hsound, hextends, hw.raised.mono hextends⟩
      | ok validated =>
        simp only [validateClaims, bind_eq_ok, exists_unit, pure_eq_ok] at hvalid
        obtain ⟨-, -, rfl⟩ := hvalid
        exact ⟨hsound, hextends, fun d hd => (hclaims d hd).1, fun d hd => (hclaims d hd).2.1,
          fun d hd => (hclaims d hd).2.2⟩

theorem written_moved (h : Sound table) (hw : Holding table w) {delivery : CompletionOutboxDelivery sha}
    {rest : List (CompletionOutboxDelivery sha)} (htask : w.task = .dispatching (delivery :: rest))
    {outcome : CompletionOutboxWorkerOutcome}
    {verify : CompletionOutboxDelivery sha → Except GateError Unit}
    {write : Except GateError (CompletionOutboxDelivery sha × OutboxTable sha)}
    (hwrite : ∀ updated next, write = .ok (updated, next) → Sound next ∧ Extends table next) :
    Moved table (w.written table delivery rest outcome verify write) := by
  have hclaims : w.task.claims = delivery :: rest := by
    rw [htask]
    rfl
  unfold Worker.written
  cases hrun : write with
  | error e =>
    refine moved_still h (hw.subset rfl ?_)
    intro d hd
    rw [hclaims]
    exact hd
  | ok r =>
    obtain ⟨updated, next⟩ := r
    obtain ⟨hsound, hextends⟩ := hwrite updated next hrun
    dsimp only
    cases verify updated with
    | error e => exact ⟨hsound, hextends, hw.raised.mono hextends⟩
    | ok _ =>
      refine ⟨hsound, hextends, (hw.mono hextends).subset rfl ?_⟩
      intro d hd
      rw [hclaims]
      exact hd

theorem dispatch_moved (h : Sound table) (hw : Holding table w) {delivery : CompletionOutboxDelivery sha}
    {rest : List (CompletionOutboxDelivery sha)} (htask : w.task = .dispatching (delivery :: rest))
    (reading : Str) (answer : ConsumerAnswer) :
    Moved table (w.dispatch table delivery rest reading answer) := by
  unfold Worker.dispatch
  cases answer.settle with
  | error error =>
    apply written_moved h hw htask
    intro updated next hrun
    exact finishDelivery_sound h (fun _ _ _ hfail => fail_follows hfail) hrun
  | ok response =>
    apply written_moved h hw htask
    intro updated next hrun
    exact finishDelivery_sound h (fun _ _ _ hack => acknowledge_follows hack) hrun

theorem observe_holding (hw : Holding table w) : Holding table (w.observe table) := by
  unfold Worker.observe
  cases htask : w.task with
  | dispatching claims => exact hw
  | classifying delivery rest =>
    dsimp only
    cases classifyAfterWriteFailure table delivery with
    | error e => exact hw.raised
    | ok result =>
      refine hw.subset rfl ?_
      intro d hd
      rw [htask]
      exact List.mem_cons_of_mem _ hd
  | verifying delivery updated outcome rest =>
    dsimp only
    cases verifyRetained table updated with
    | error e => exact hw.raised
    | ok _ =>
      refine hw.subset rfl ?_
      intro d hd
      rw [htask]
      exact List.mem_cons_of_mem _ hd

theorem refused_holding (hw : Holding table w) : Holding table w.refused := by
  unfold Worker.refused
  cases htask : w.task with
  | dispatching claims =>
    cases claims with
    | nil => exact hw.raised
    | cons delivery rest =>
      refine hw.subset rfl ?_
      intro d hd
      rw [htask]
      exact hd
  | classifying delivery rest => exact hw.raised
  | verifying delivery updated outcome rest => exact hw.raised

theorem advance_moved (h : Sound table) (hw : Holding table w) (move : WorkerMove) :
    Moved table (w.advance table move) := by
  cases move with
  | claimDue reading =>
    unfold Worker.advance
    cases htask : w.task with
    | dispatching claims =>
      cases claims with
      | nil => exact claimPass_moved h hw reading
      | cons delivery rest => exact moved_still h hw
    | classifying delivery rest => exact moved_still h hw
    | verifying delivery updated outcome rest => exact moved_still h hw
  | dispatch reading answer =>
    unfold Worker.advance
    cases htask : w.task with
    | dispatching claims =>
      cases claims with
      | nil => exact moved_still h hw
      | cons delivery rest => exact dispatch_moved h hw htask reading answer
    | classifying delivery rest => exact moved_still h hw
    | verifying delivery updated outcome rest => exact moved_still h hw
  | observe => exact moved_still h (observe_holding hw)
  | refused => exact moved_still h (refused_holding hw)
  | crash => exact moved_still h hw.raised

structure FleetSound (fleet : Fleet sha) : Prop where
  table : Sound fleet.table
  workers : ∀ w ∈ fleet.workers, Holding fleet.table w

theorem fleetSound_start (configurations : List RunConfiguration) :
    FleetSound (Fleet.start configurations : Fleet sha) where
  table := ⟨by simp [Fleet.start], by simp [Fleet.start]⟩
  workers w hw := by
    obtain ⟨c, -, rfl⟩ := List.mem_map.mp hw
    exact ⟨by simp [Worker.start, WorkerTask.claims], by simp [Worker.start, WorkerTask.claims],
      by simp [Worker.start, WorkerTask.claims]⟩

theorem step_sound {fleet : Fleet sha} (h : FleetSound fleet) (action : FleetAction) :
    FleetSound (fleet.step action) ∧ Extends fleet.table (fleet.step action).table := by
  cases action with
  | call c reading =>
    cases hperform : c.perform fleet.table reading with
    | error e =>
      have hstep : fleet.step (.call c reading) = fleet := by
        simp only [Fleet.step, hperform]
      rw [hstep]
      exact ⟨h, .refl _⟩
    | ok next =>
      have hstep : fleet.step (.call c reading) = ⟨next, fleet.workers⟩ := by
        simp only [Fleet.step, hperform]
      obtain ⟨hsound, hextends⟩ := perform_sound h.table hperform
      rw [hstep]
      exact ⟨⟨hsound, fun w hw => (h.workers w hw).mono hextends⟩, hextends⟩
  | worker i move =>
    cases hworker : fleet.workers[i]? with
    | none =>
      have hstep : fleet.step (.worker i move) = fleet := by
        simp only [Fleet.step, hworker]
      rw [hstep]
      exact ⟨h, .refl _⟩
    | some w =>
      have hstep : fleet.step (.worker i move) =
          ⟨(w.advance fleet.table move).2, fleet.workers.set i (w.advance fleet.table move).1⟩ := by
        simp only [Fleet.step, hworker]
      obtain ⟨hsound, hextends, hholding⟩ :=
        advance_moved h.table (h.workers w (List.mem_of_getElem? hworker)) move
      rw [hstep]
      refine ⟨⟨hsound, ?_⟩, hextends⟩
      intro w' hw'
      rcases List.mem_or_eq_of_mem_set hw' with hw' | rfl
      · exact (h.workers w' hw').mono hextends
      · exact hholding

theorem run_sound {fleet : Fleet sha} (h : FleetSound fleet) (actions : List FleetAction) :
    FleetSound (fleet.run actions) := by
  induction actions generalizing fleet with
  | nil => exact h
  | cons action rest ih => exact ih (step_sound h action).1

end Invariant

section Lost

theorem acknowledge_refused {table : OutboxTable sha} (h : Sound table)
    {d : CompletionOutboxDelivery sha} (hrecorded : Recorded table d) {reading : Str}
    (hlost : LeaseLost table d reading) (workerId : Str) (response : Option Str) :
    ∃ e, finishDelivery table reading d.eventId d.version
      (fun current now => acknowledge current workerId now response) = .error e := by
  apply finishDelivery_refused h hrecorded hlost
  intro c now c' hack
  exact ⟨workerId, .inl ⟨response, c', hack⟩⟩

theorem failure_refused {table : OutboxTable sha} (h : Sound table)
    {d : CompletionOutboxDelivery sha} (hrecorded : Recorded table d) {reading : Str}
    (hlost : LeaseLost table d reading) (workerId error : Str) (delay attempts : Int) :
    ∃ e, finishDelivery table reading d.eventId d.version
      (fun current now => fail current workerId now error delay attempts) = .error e := by
  apply finishDelivery_refused h hrecorded hlost
  intro c now c' hfail
  exact ⟨workerId, .inr ⟨error, delay, attempts, c', hfail⟩⟩

theorem dispatch_lost {table : OutboxTable sha} (h : Sound table) {w : Worker sha}
    {d : CompletionOutboxDelivery sha} (rest : List (CompletionOutboxDelivery sha))
    (hrecorded : Recorded table d) {reading : Str} (hlost : LeaseLost table d reading)
    (answer : ConsumerAnswer) : (w.dispatch table d rest reading answer).2 = table := by
  unfold Worker.dispatch
  cases answer.settle with
  | error error =>
    obtain ⟨e, he⟩ := failure_refused h hrecorded hlost w.configuration.workerId error
      w.configuration.retryDelaySeconds w.configuration.maxAttempts
    show (w.recordFailure table d rest reading error).2 = table
    rw [Worker.recordFailure, he]
    rfl
  | ok response =>
    obtain ⟨e, he⟩ := acknowledge_refused h hrecorded hlost w.configuration.workerId response
    show (w.written _ _ _ _ _ _).2 = table
    rw [he]
    rfl

theorem outbox_history_linear (configurations : List RunConfiguration) (actions : List FleetAction) :
    HistoryLaws ((Fleet.start configurations : Fleet sha).run actions) := by
  have hstart : FleetSound (Fleet.start configurations : Fleet sha) := fleetSound_start configurations
  have h := run_sound hstart actions
  refine ⟨h.table.distinct, ?_, fun action => (step_sound h action).2, ?_, ?_⟩
  · intro e he
    exact (h.table.chronicles e he).linear
  · intro d reading hrecorded hlost
    refine ⟨?_, ?_⟩
    · intro workerId response
      obtain ⟨e, he⟩ := acknowledge_refused h.table hrecorded hlost workerId response
      exact ⟨e, by rw [OutboxCall.perform, he]; rfl⟩
    · intro workerId error delay attempts
      obtain ⟨e, he⟩ := failure_refused h.table hrecorded hlost workerId error delay attempts
      exact ⟨e, by rw [OutboxCall.perform, he]; rfl⟩
  · intro i w d rest reading answer hworker htask hlost
    have hclaim : d ∈ w.task.claims := by
      rw [htask]
      exact List.mem_cons_self
    have hheld := (h.workers w (List.mem_of_getElem? hworker)).recorded d hclaim
    simp only [Fleet.step, hworker, Worker.advance, htask]
    exact dispatch_lost h.table rest hheld hlost answer

end Lost

end Outbox

end TraceBackedMemory
