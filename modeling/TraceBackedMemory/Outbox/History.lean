import TraceBackedMemory.Outbox.ClaimDue
import Mathlib.Data.List.Chain

namespace TraceBackedMemory

open Text Raising OrderBy

namespace Outbox

variable {sha : Sha256}

section Revisions

def OutboxEntry.revisions (e : OutboxEntry sha) : List (CompletionOutboxDelivery sha) :=
  e.superseded.reverse ++ [e.current]

def Follows (previous current : CompletionOutboxDelivery sha) : Prop :=
  verifyTransition previous current = .ok ()

def claimRevisions (l : List (CompletionOutboxDelivery sha)) : Nat :=
  l.countP (fun d => decide (d.status = .leased))

structure LinearHistory (l : List (CompletionOutboxDelivery sha)) : Prop where
  initial : ∃ first, l.head? = some first ∧ first.status = .pending
  chain : l.IsChain Follows
  attempts : ∀ before d after, l = before ++ d :: after →
    d.attemptCount = claimRevisions (before ++ [d])
  terminal : ∀ before d after, l = before ++ d :: after → d.status.terminal = true → after = []

-- The past is newest first, as an entry keeps it.
inductive Chronicle : List (CompletionOutboxDelivery sha) → CompletionOutboxDelivery sha → Prop
  | initial {d : CompletionOutboxDelivery sha} (h : d.status = .pending) : Chronicle [] d
  | step {past : List (CompletionOutboxDelivery sha)} {d d' : CompletionOutboxDelivery sha}
      (h : Chronicle past d) (hstep : Follows d d') : Chronicle (d :: past) d'

theorem terminal_of_follows {d d' : CompletionOutboxDelivery sha} (h : Follows d d') :
    d.status.terminal = false := by
  obtain ⟨-, -, -, hallowed, -⟩ := verifyTransition_eq_ok.mp h
  cases hstatus : d.status with
  | pending | leased | retryWait => rfl
  | delivered | deadLetter =>
    rw [hstatus] at hallowed
    cases hallowed

theorem claimRevisions_concat (l : List (CompletionOutboxDelivery sha))
    (d : CompletionOutboxDelivery sha) :
    claimRevisions (l ++ [d]) = claimRevisions l + (if d.status = .leased then 1 else 0) := by
  rw [claimRevisions, List.countP_append, List.countP_singleton]
  simp only [decide_eq_true_eq]
  rfl

namespace Chronicle

variable {past : List (CompletionOutboxDelivery sha)} {d : CompletionOutboxDelivery sha}

theorem eventId (h : Chronicle past d) : ∀ r ∈ past, r.eventId = d.eventId := by
  induction h with
  | initial => simp
  | step _ hstep ih =>
    obtain ⟨hevent, -⟩ := verifyTransition_eq_ok.mp hstep
    intro r hr
    rcases List.mem_cons.mp hr with rfl | hr
    · exact hevent
    · exact (ih r hr).trans hevent

theorem older (h : Chronicle past d) : ∀ r ∈ past, r.version < d.version := by
  induction h with
  | initial => simp
  | step _ hstep ih =>
    obtain ⟨-, hversion, -⟩ := verifyTransition_eq_ok.mp hstep
    intro r hr
    rcases List.mem_cons.mp hr with rfl | hr
    · omega
    · have hlt := ih r hr
      omega

theorem live (h : Chronicle past d) : ∀ r ∈ past, r.status.terminal = false := by
  induction h with
  | initial => simp
  | step _ hstep ih =>
    intro r hr
    rcases List.mem_cons.mp hr with rfl | hr
    · exact terminal_of_follows hstep
    · exact ih r hr

theorem attempts (h : Chronicle past d) :
    d.attemptCount = claimRevisions (past.reverse ++ [d]) := by
  induction h with
  | @initial d hpending =>
    have hshape := d.shape.2
    rw [StatusShape, hpending] at hshape
    rw [hshape.2.1, claimRevisions_concat, hpending]
    rfl
  | step _ hstep ih =>
    obtain ⟨-, -, -, -, hcount⟩ := verifyTransition_eq_ok.mp hstep
    rw [hcount, ih, List.reverse_cons, claimRevisions_concat (_ ++ _)]

theorem of_split (h : Chronicle past d) :
    ∀ before r after, past.reverse ++ [d] = before ++ r :: after → Chronicle before.reverse r := by
  induction h with
  | @initial d hpending =>
    intro before r after heq
    obtain ⟨rfl, rfl, rfl⟩ : before = [] ∧ r = d ∧ after = [] := by
      cases before with
      | nil => simpa [eq_comm] using heq
      | cons b l => simp at heq
    exact .initial hpending
  | @step past d d' h hstep ih =>
    intro before r after heq
    rcases List.eq_nil_or_concat after with rfl | ⟨rest, last, rfl⟩
    · obtain ⟨rfl, hr⟩ := List.append_inj' heq rfl
      obtain rfl : d' = r := by simpa using hr
      rw [List.reverse_reverse]
      exact .step h hstep
    · rw [List.concat_eq_append, ← List.cons_append, ← List.append_assoc, List.reverse_cons] at heq
      exact ih before r rest (List.append_inj' heq rfl).1

theorem chain (h : Chronicle past d) : (past.reverse ++ [d]).IsChain Follows := by
  induction h with
  | initial => exact List.isChain_singleton _
  | step _ hstep ih =>
    rw [List.reverse_cons, List.isChain_append]
    refine ⟨ih, List.isChain_singleton _, ?_⟩
    simp only [List.getLast?_concat, List.head?_cons, Option.mem_def, Option.some.injEq]
    rintro _ rfl _ rfl
    exact hstep

theorem linear (h : Chronicle past d) : LinearHistory (past.reverse ++ [d]) where
  initial := by
    induction h with
    | initial hpending => exact ⟨_, rfl, hpending⟩
    | step _ _ ih =>
      obtain ⟨first, hfirst, hpending⟩ := ih
      refine ⟨first, ?_, hpending⟩
      rw [List.reverse_cons, List.head?_append, hfirst]
      rfl
  chain := h.chain
  attempts before r after heq := by
    have hcount := (h.of_split before r after heq).attempts
    rwa [List.reverse_reverse] at hcount
  terminal before r after heq hterminal := by
    rcases List.eq_nil_or_concat after with rfl | ⟨rest, last, rfl⟩
    · rfl
    · rw [List.concat_eq_append, ← List.cons_append, ← List.append_assoc] at heq
      have hpast : r ∈ past.reverse := by
        rw [(List.append_inj' heq rfl).1]
        simp
      rw [h.live r (List.mem_reverse.mp hpast)] at hterminal
      cases hterminal

end Chronicle

end Revisions

section Tables

structure Sound (table : OutboxTable sha) : Prop where
  chronicles : ∀ e ∈ table, Chronicle e.superseded e.current
  distinct : (table.map (fun e => e.current.eventId)).Nodup

def Recorded (table : OutboxTable sha) (d : CompletionOutboxDelivery sha) : Prop :=
  ∃ e ∈ table, d ∈ e.revisions

def Extends (table next : OutboxTable sha) : Prop :=
  ∀ e ∈ table, ∃ e' ∈ next, e'.current.eventId = e.current.eventId ∧ e.revisions <+: e'.revisions

theorem Extends.refl (table : OutboxTable sha) : Extends table table :=
  fun e he => ⟨e, he, rfl, List.prefix_rfl⟩

theorem Extends.trans {a b c : OutboxTable sha} (hab : Extends a b) (hbc : Extends b c) :
    Extends a c := by
  intro e he
  obtain ⟨e', he', hevent, hprefix⟩ := hab e he
  obtain ⟨e'', he'', hevent', hprefix'⟩ := hbc e' he'
  exact ⟨e'', he'', hevent'.trans hevent, hprefix.trans hprefix'⟩

theorem Recorded.mono {table next : OutboxTable sha} {d : CompletionOutboxDelivery sha}
    (h : Recorded table d) (hextends : Extends table next) : Recorded next d := by
  obtain ⟨e, he, hd⟩ := h
  obtain ⟨e', he', -, hprefix⟩ := hextends e he
  exact ⟨e', he', hprefix.subset hd⟩

theorem mem_revisions {e : OutboxEntry sha} {d : CompletionOutboxDelivery sha} :
    d ∈ e.revisions ↔ d ∈ e.superseded ∨ d = e.current := by
  simp [OutboxEntry.revisions]

namespace Sound

variable {table : OutboxTable sha}

theorem unique (h : Sound table) {e e' : OutboxEntry sha} (he : e ∈ table) (he' : e' ∈ table)
    (hevent : e.current.eventId = e'.current.eventId) : e = e' :=
  List.inj_on_of_nodup_map h.distinct he he' hevent

theorem eventId (h : Sound table) {e : OutboxEntry sha} (he : e ∈ table)
    {d : CompletionOutboxDelivery sha} (hd : d ∈ e.revisions) : d.eventId = e.current.eventId := by
  rcases mem_revisions.mp hd with hd | rfl
  · exact (h.chronicles e he).eventId d hd
  · rfl

-- A version is used once in a history, so a delivery and a version name one revision.
theorem current_of_version (h : Sound table) {e : OutboxEntry sha} (he : e ∈ table)
    {d : CompletionOutboxDelivery sha} (hd : d ∈ e.revisions)
    (hversion : e.current.version = d.version) : d = e.current := by
  rcases mem_revisions.mp hd with hd | rfl
  · have hlt := (h.chronicles e he).older d hd
    omega
  · rfl

theorem insert (h : Sound table) {d : CompletionOutboxDelivery sha} (hpending : d.status = .pending)
    (hfresh : ∀ e ∈ table, e.current.eventId ≠ d.eventId) : Sound (table ++ [⟨d, []⟩]) where
  chronicles e he := by
    rcases List.mem_append.mp he with he | he
    · exact h.chronicles e he
    · rw [List.mem_singleton.mp he]
      exact .initial hpending
  distinct := by
    rw [List.map_append, List.nodup_append]
    refine ⟨h.distinct, List.nodup_singleton _, ?_⟩
    simp only [List.map_cons, List.map_nil, List.mem_singleton, List.mem_map]
    rintro _ ⟨e, he, rfl⟩ _ rfl
    exact hfresh e he

theorem append (h : Sound table) {e : OutboxEntry sha} (he : e ∈ table)
    {next : CompletionOutboxDelivery sha} (hnext : Follows e.current next) :
    Sound (appendDelivery table next) ∧ Extends table (appendDelivery table next) ∧
      Recorded (appendDelivery table next) next := by
  have hevent : e.current.eventId = next.eventId := (verifyTransition_eq_ok.mp hnext).1
  have only {f : OutboxEntry sha} (hf : f ∈ table) (heq : f.current.eventId = next.eventId) : f = e :=
    h.unique hf he (heq.trans hevent.symm)
  refine ⟨⟨?_, ?_⟩, ?_, ?_⟩
  · intro f hf
    rw [appendDelivery, List.mem_map] at hf
    obtain ⟨g, hg, rfl⟩ := hf
    split
    · rename_i heq
      obtain rfl := only hg heq
      exact (h.chronicles g hg).step hnext
    · exact h.chronicles g hg
  · have hsame : (appendDelivery table next).map (fun f => f.current.eventId) =
        table.map (fun f => f.current.eventId) := by
      rw [appendDelivery, List.map_map]
      apply List.map_congr_left
      intro f _
      rw [Function.comp_apply]
      split
      · rename_i heq
        exact heq.symm
      · rfl
    rw [hsame]
    exact h.distinct
  · intro f hf
    refine ⟨_, List.mem_map.mpr ⟨f, hf, rfl⟩, ?_⟩
    split
    · rename_i heq
      refine ⟨heq.symm, ?_⟩
      rw [OutboxEntry.revisions, OutboxEntry.revisions, List.reverse_cons]
      exact List.prefix_append _ _
    · exact ⟨rfl, List.prefix_rfl⟩
  · refine ⟨⟨next, e.current :: e.superseded⟩, ?_, mem_revisions.mpr (.inr rfl)⟩
    rw [appendDelivery, List.mem_map]
    exact ⟨e, he, if_pos hevent⟩

theorem entry_kept {f : OutboxEntry sha} (hf : f ∈ table) {next : CompletionOutboxDelivery sha}
    (hne : f.current.eventId ≠ next.eventId) : f ∈ appendDelivery table next :=
  List.mem_map.mpr ⟨f, hf, if_neg hne⟩

theorem append_all {due claimed : List (CompletionOutboxDelivery sha)}
    (hall : List.Forall₂ Follows due claimed) (h : Sound table)
    (hdue : ∀ d ∈ due, ∃ e ∈ table, e.current = d)
    (hdistinct : (due.map (fun d => d.eventId)).Nodup) :
    Sound (appendDeliveries table claimed) ∧ Extends table (appendDeliveries table claimed) ∧
      ∀ d ∈ claimed, Recorded (appendDeliveries table claimed) d := by
  induction hall generalizing table with
  | nil => exact ⟨h, .refl table, by simp⟩
  | @cons d d' due claimed hfirst _ ih =>
    obtain ⟨e, he, rfl⟩ := hdue d List.mem_cons_self
    obtain ⟨hsound, hextends, hrecorded⟩ := h.append he hfirst
    obtain ⟨hne, hrest⟩ := List.nodup_cons.mp hdistinct
    have hevent := (verifyTransition_eq_ok.mp hfirst).1
    -- The first append leaves the other due entries in place.
    have hkept : ∀ x ∈ due, ∃ f ∈ appendDelivery table d', f.current = x := by
      intro x hx
      obtain ⟨f, hf, rfl⟩ := hdue x (List.mem_cons_of_mem _ hx)
      refine ⟨f, entry_kept hf ?_, rfl⟩
      intro heq
      exact hne (List.mem_map.mpr ⟨f.current, hx, heq.trans hevent.symm⟩)
    obtain ⟨hsound', hextends', hrecorded'⟩ := ih hsound hkept hrest
    refine ⟨hsound', hextends.trans hextends', ?_⟩
    intro x hx
    rcases List.mem_cons.mp hx with rfl | hx
    · exact hrecorded.mono hextends'
    · exact hrecorded' x hx

end Sound

end Tables

section Calls

theorem claim_follows {d d' : CompletionOutboxDelivery sha} {workerId now : Str} {seconds : Int}
    (h : claim d workerId now seconds = .ok d') :
    Follows d d' ∧ d'.status = .leased ∧ d'.workerId = some workerId := by
  have hverified : Follows d d' := by
    simp only [claim, bind_eq_ok, exists_unit, pure_eq_ok] at h
    obtain ⟨_, _, _, _, _, _, _, _, _, _, _, _, result, _, hverify, rfl⟩ := h
    exact hverify
  obtain ⟨_, _, _, _, hrecord⟩ := claim_eq_ok.mp h
  refine ⟨hverified, ?_, ?_⟩
  · rw [hrecord]
    rfl
  · rw [hrecord]
    rfl

theorem acknowledge_follows {d d' : CompletionOutboxDelivery sha} {workerId now : Str}
    {response : Option Str} (h : acknowledge d workerId now response = .ok d') : Follows d d' := by
  simp only [acknowledge, bind_eq_ok, exists_unit, pure_eq_ok] at h
  obtain ⟨_, _, _, _, _, result, _, hverify, rfl⟩ := h
  exact hverify

theorem fail_follows {d d' : CompletionOutboxDelivery sha} {workerId now error : Str}
    {delay attempts : Int} (h : fail d workerId now error delay attempts = .ok d') :
    Follows d d' := by
  simp only [fail, bind_eq_ok, exists_unit, pure_eq_ok] at h
  obtain ⟨_, _, _, _, _, _, _, _, _, result, _, hverify, rfl⟩ := h
  exact hverify

theorem buildInitial_fields {eventId occurredAt : Str} {d : CompletionOutboxDelivery sha}
    (h : buildInitial sha eventId occurredAt = .ok d) : d.status = .pending ∧ d.eventId = eventId := by
  simp only [buildInitial, buildDelivery, bind_eq_ok, construct_eq_ok] at h
  obtain ⟨r, hr, _, -, hrecord, -⟩ := h
  simp only [DeliveryRecord.canonical, bind_eq_ok, pure_eq_ok] at hr
  obtain ⟨_, -, _, -, _, -, _, -, rfl⟩ := hr
  rw [hrecord]
  exact ⟨rfl, rfl⟩

variable {table next : OutboxTable sha}

theorem claimDue_sound (h : Sound table) {reading workerId : Str} {seconds limit : Int}
    {claimed : List (CompletionOutboxDelivery sha)}
    (hrun : claimDue table reading workerId seconds limit = .ok (claimed, next)) :
    Sound next ∧ Extends table next ∧
      ∀ d ∈ claimed, Recorded next d ∧ d.status = .leased ∧ d.workerId = some workerId := by
  obtain ⟨now, hcollect, rfl⟩ := claimDue_eq_ok hrun
  have hpairs := collect_eq_ok.mp hcollect
  have hfollows := hpairs.imp fun _ _ hclaim => (claim_follows hclaim).1
  have hdue : ∀ d ∈ (dueRows table (timestampMicroseconds now)).take limit.toNat,
      ∃ e ∈ table, e.current = d :=
    fun d hd => (mem_dueRows (List.mem_of_mem_take hd)).1
  have hdistinct : (((dueRows table (timestampMicroseconds now)).take limit.toNat).map
      (fun d => d.eventId)).Nodup := by
    have hcurrents : ((table.map OutboxEntry.current).map (fun d => d.eventId)).Nodup := by
      rw [List.map_map]
      exact h.distinct
    have hfiltered := (List.filter_sublist (p := dueRow (timestampMicroseconds now))
      (l := table.map OutboxEntry.current)).map (fun d => d.eventId)
    have hordered := ((orderBy_perm dueKey _).map (fun d => d.eventId)).nodup_iff.mpr
      (hcurrents.sublist hfiltered)
    exact hordered.sublist ((List.take_sublist _ _).map _)
  obtain ⟨hsound, hextends, hrecorded⟩ := Sound.append_all hfollows h hdue hdistinct
  refine ⟨hsound, hextends, ?_⟩
  intro d hd
  obtain ⟨_, _, hclaim⟩ := collect_mem hcollect hd
  exact ⟨hrecorded d hd, (claim_follows hclaim).2⟩

theorem finishDelivery_sound (h : Sound table) {reading eventId : Str} {v : Nat}
    {operation : CompletionOutboxDelivery sha → Str → Except GateError (CompletionOutboxDelivery sha)}
    (hoperation : ∀ d now d', operation d now = .ok d' → Follows d d')
    {updated : CompletionOutboxDelivery sha}
    (hrun : finishDelivery table reading eventId v operation = .ok (updated, next)) :
    Sound next ∧ Extends table next := by
  obtain ⟨current, now, hcurrent, hupdated, rfl⟩ := finishDelivery_eq_ok hrun
  obtain ⟨e, he, rfl⟩ := selectCurrentDelivery_eq_ok hcurrent
  obtain ⟨hsound, hextends, -⟩ := h.append he (hoperation _ _ _ hupdated)
  exact ⟨hsound, hextends⟩

theorem insertBundle_sound (h : Sound table) {eventId occurredAt : Str}
    (hrun : insertBundle table eventId occurredAt = .ok next) : Sound next ∧ Extends table next := by
  unfold insertBundle at hrun
  split at hrun
  · cases hrun
    exact ⟨h, .refl table⟩
  · rename_i hany
    simp only [bind_eq_ok, pure_eq_ok] at hrun
    obtain ⟨initial, hinitial, rfl⟩ := hrun
    obtain ⟨hpending, hevent⟩ := buildInitial_fields hinitial
    refine ⟨h.insert hpending ?_, ?_⟩
    · intro e he heq
      refine hany (List.any_eq_true.mpr ⟨e, he, ?_⟩)
      rw [decide_eq_true_eq, heq, hevent]
    · intro e he
      exact ⟨e, List.mem_append_left _ he, rfl, List.prefix_rfl⟩

theorem perform_sound (h : Sound table) {reading : Str} {call : OutboxCall}
    (hrun : call.perform table reading = .ok next) : Sound next ∧ Extends table next := by
  cases call with
  | complete eventId occurredAt => exact insertBundle_sound h hrun
  | claimDue workerId seconds limit =>
    obtain ⟨⟨claimed, t⟩, hclaim, rfl⟩ := map_eq_ok.mp hrun
    obtain ⟨hsound, hextends, -⟩ := claimDue_sound h hclaim
    exact ⟨hsound, hextends⟩
  | acknowledge eventId v workerId response =>
    obtain ⟨⟨updated, t⟩, hfinish, rfl⟩ := map_eq_ok.mp hrun
    exact finishDelivery_sound h (fun _ _ _ hack => acknowledge_follows hack) hfinish
  | failDelivery eventId v workerId error delay attempts =>
    obtain ⟨⟨updated, t⟩, hfinish, rfl⟩ := map_eq_ok.mp hrun
    exact finishDelivery_sound h (fun _ _ _ hfail => fail_follows hfail) hfinish

-- The current revision is another one, or the trusted clock is past the lease.
def LeaseLost (table : OutboxTable sha) (d : CompletionOutboxDelivery sha) (reading : Str) : Prop :=
  (∀ e ∈ table, e.current ≠ d) ∨
    ∃ lease now, d.leaseExpiresAt = some lease ∧ instant? reading = some now ∧
      (micros lease : Int) < now

theorem trustedNow_instant {reading now : Str} {notBefore : Option Str}
    (h : trustedNow reading notBefore = .ok now) :
    ∃ i ≤ maxInstant, instant? reading = some (i : Int) ∧ now = isoformat i := by
  simp only [trustedNow, bind_eq_ok, demand_eq_ok] at h
  obtain ⟨parsed, hparsed, text, htext, hrest⟩ := h
  obtain rfl : text = now := by
    cases notBefore with
    | none => exact Except.ok.inj hrest
    | some previous =>
      simp only [bind_eq_ok, pure_eq_ok] at hrest
      obtain ⟨_, _, _, _, heq⟩ := hrest
      exact heq
  obtain ⟨hcanonical, hinstant⟩ := utcText_eq_some htext
  obtain ⟨hle, heq⟩ := micros_canonical hcanonical
  refine ⟨micros text, hle, ?_, heq⟩
  rw [hparsed, ← hinstant]
  exact (utcText_micros hcanonical).1

theorem finishDelivery_refused (h : Sound table) {d : CompletionOutboxDelivery sha}
    (hrecorded : Recorded table d) {reading : Str} (hlost : LeaseLost table d reading)
    {operation : CompletionOutboxDelivery sha → Str → Except GateError (CompletionOutboxDelivery sha)}
    (hoperation : ∀ c now c', operation c now = .ok c' → ∃ workerId, HolderActs c workerId now) :
    ∃ e, finishDelivery table reading d.eventId d.version operation = .error e := by
  cases hrun : finishDelivery table reading d.eventId d.version operation with
  | error e => exact ⟨e, rfl⟩
  | ok r =>
    simp only [finishDelivery, bind_eq_ok, exists_unit, raiseIf_eq_ok, not_not, ne_eq] at hrun
    obtain ⟨-, current, hcurrent, hversion, now, hnow, updated, hupdated, -⟩ := hrun
    obtain ⟨f, hf, hd⟩ := hrecorded
    obtain ⟨e, he, rfl, hevent⟩ : ∃ e ∈ table, e.current = current ∧ e.current.eventId = d.eventId := by
      rw [selectCurrentDelivery, demand_eq_ok, Option.map_eq_some_iff] at hcurrent
      obtain ⟨e, hfind, rfl⟩ := hcurrent
      exact ⟨e, List.mem_of_find?_eq_some hfind, rfl, by simpa using List.find?_some hfind⟩
    obtain rfl := h.unique he hf (hevent.trans (h.eventId hf hd))
    have hsame := h.current_of_version he hd hversion
    rcases hlost with hsuperseded | ⟨lease, i, hlease, hreading, hlt⟩
    · exact absurd hsame.symm (hsuperseded e he)
    · obtain ⟨workerId, hacts⟩ := hoperation _ _ _ hupdated
      obtain ⟨j, hj, rfl, hholds⟩ := holds_of_holderActs hacts
      obtain ⟨k, hk, hinstant, heq⟩ := trustedNow_instant hnow
      obtain rfl := (isoformat_inj hj hk).mp heq
      obtain ⟨-, -, -, hle, hexpires⟩ := e.current.lease_shape hholds.leased
      have hunexpired := hholds.unexpired
      rw [hsame, hexpires] at hlease
      obtain rfl := Option.some.inj hlease
      rw [micros_isoformat hle] at hlt
      rw [hinstant] at hreading
      have hcast := Option.some.inj hreading
      omega

end Calls

end Outbox

end TraceBackedMemory
