import TraceBackedMemory.Outbox.Delivery
import TraceBackedMemory.Gate.SessionRuns

namespace TraceBackedMemory

open Text Raising

section Encoding

def ascii (s : Str) : Bool := s.all (fun c => decide (c.val < 128))

theorem encodedBytes_of_ascii {s : Str} (h : ascii s = true) : (encodedBytes s).isSome = true := by
  have hsurrogates : s.any isSurrogate = false := by
    rw [Bool.eq_false_iff]
    intro hany
    obtain ⟨c, hc, hs⟩ := List.any_eq_true.mp hany
    have hlt := of_decide_eq_true (List.all_eq_true.mp h c hc)
    have hrange := of_decide_eq_true hs
    omega
  rw [encodedBytes, hsurrogates]
  rfl

theorem ascii_append {s t : Str} : ascii (s ++ t) = (ascii s && ascii t) := by
  simp [ascii]

theorem ascii_of_hex {s : Str} (h : s.all isLowerHex = true) : ascii s = true := by
  rw [ascii, List.all_eq_true]
  intro c hc
  have hhex := of_decide_eq_true (List.all_eq_true.mp h c hc)
  rw [decide_eq_true_eq]
  omega

theorem ascii_twoDigits (n : Nat) : ascii (twoDigits n) = true := by
  simp only [ascii, twoDigits, List.all_cons, List.all_nil, val_digitPoint, Bool.and_true,
    Bool.and_eq_true, decide_eq_true_eq]
  omega

theorem ascii_isoformat (i : Nat) : ascii (isoformat i) = true := by
  have hcons {c : CodePoint} {s : Str} : ascii (c :: s) = (decide (c.val < 128) && ascii s) := rfl
  have hnil : ascii [] = true := rfl
  have hdash : decide ((cp '-').val < 128) = true := by decide
  have hcolon : decide ((cp ':').val < 128) = true := by decide
  have htime : decide ((cp 'T').val < 128) = true := by decide
  have hzone : decide ((cp 'Z').val < 128) = true := by decide
  have hpoint : decide ((cp '.').val < 128) = true := by decide
  rw [isoformat, ascii_append, Bool.and_eq_true]
  refine ⟨?_, ?_⟩
  · simp only [secondText, dateTime, fourDigits, ascii_append, hcons, ascii_twoDigits, hdash, hcolon,
      htime, Bool.and_true]
  · unfold fractionText
    split
    · rw [hcons, hzone, hnil]
      rfl
    · simp only [sixDigits, fourDigits, List.cons_append, ascii_append, hcons, ascii_twoDigits, hpoint,
        hzone, hnil, Bool.and_true]

theorem ascii_canonical {text : Str} (h : CanonicalText text) : ascii text = true := by
  obtain ⟨i, -, rfl⟩ := h
  exact ascii_isoformat i

end Encoding

section Times

theorem utcText_micros {text : Str} (h : CanonicalText text) :
    instant? text = some (micros text : Int) ∧ utcText? (micros text : Int) = some text := by
  obtain ⟨hle, htext⟩ := micros_canonical h
  have hrange : (0 : Int) ≤ micros text ∧ (micros text : Int) ≤ maxInstant := by omega
  refine ⟨?_, ?_⟩
  · conv_lhs => rw [htext]
    exact instant_isoformat hle
  · rw [utcText?, if_pos hrange]
    exact congrArg some htext.symm

theorem micros_isoformat {i : Nat} (h : i ≤ maxInstant) : micros (isoformat i) = i := by
  rw [micros, instant_isoformat h]
  rfl

theorem canonicalText_isoformat {i : Nat} (h : i ≤ maxInstant) : CanonicalText (isoformat i) :=
  ⟨i, h, rfl⟩

theorem canonicalRfc3339_canonical {text : Str} (h : CanonicalText text) :
    canonicalRfc3339 text = .ok text := by
  obtain ⟨hinstant, htext⟩ := utcText_micros h
  rw [canonicalRfc3339, GateSession.instant, hinstant]
  show demand (utcText? (micros text : Int)) dateOutOfRange = _
  rw [htext]
  rfl

theorem optionalCanonical_canonical {value : Option Str}
    (h : ∀ text, value = some text → CanonicalText text) : optionalCanonical value = .ok value := by
  cases value with
  | none => rfl
  | some text =>
    rw [optionalCanonical, canonicalRfc3339_canonical (h text rfl)]
    rfl

theorem instant_canonical {text : Str} (h : CanonicalText text) :
    GateSession.instant text = .ok (micros text : Int) :=
  GateSession.instant_eq_ok.mpr (utcText_micros h).1

namespace Outbox

theorem timestamp_eq_ok {value name : Str} {i : Int} :
    timestamp value name = .ok i ↔ CanonicalText value ∧ i = (micros value : Int) := by
  simp only [timestamp, bind_eq_ok, exists_unit, demand_eq_ok, raiseIf_eq_ok, not_not, pure_eq_ok, ne_eq]
  constructor
  · rintro ⟨parsed, hparsed, canonical, hcanonical, rfl, rfl⟩
    have htext := (utcText_eq_some hcanonical).1
    refine ⟨htext, ?_⟩
    exact Option.some.inj (hparsed.symm.trans (utcText_micros htext).1)
  · rintro ⟨htext, rfl⟩
    obtain ⟨hinstant, hutc⟩ := utcText_micros htext
    exact ⟨_, hinstant, value, hutc, rfl, rfl⟩

theorem optionalTimestamp_eq_ok {value : Option Str} {name : Str} {o : Option Int} :
    optionalTimestamp value name = .ok o ↔
      (∀ text, value = some text → CanonicalText text) ∧
        o = value.map (fun text => (micros text : Int)) := by
  cases value with
  | none =>
    constructor
    · intro h
      cases h
      exact ⟨by simp, rfl⟩
    · rintro ⟨-, rfl⟩
      rfl
  | some text =>
    simp only [optionalTimestamp, bind_eq_ok, timestamp_eq_ok, pure_eq_ok, Option.map_some,
      Option.some.injEq, forall_eq']
    constructor
    · rintro ⟨i, ⟨htext, rfl⟩, rfl⟩
      exact ⟨htext, rfl⟩
    · rintro ⟨htext, rfl⟩
      exact ⟨_, ⟨htext, rfl⟩, rfl⟩

theorem timestampPlusSeconds_eq_ok {i : Nat} {seconds : Int} {name text : Str} (hpos : 0 ≤ seconds) :
    timestampPlusSeconds i seconds name = .ok text ↔
      i + seconds.toNat * 1000000 ≤ maxInstant ∧ text = isoformat (i + seconds.toNat * 1000000) := by
  have hcast : (i : Int) + seconds * 1000000 = ((i + seconds.toNat * 1000000 : Nat) : Int) := by
    omega
  rw [timestampPlusSeconds, demand_eq_ok, hcast, utcText?]
  constructor
  · intro h
    split at h
    · rename_i hrange
      cases h
      exact ⟨by omega, rfl⟩
    · cases h
  · rintro ⟨hle, rfl⟩
    rw [if_pos (by omega)]
    rfl

end Outbox

end Times

namespace Outbox

section Shapes

variable {sha : Sha256}

theorem optionally_eq_ok {check : Str → Except GateError Unit} {value : Option Str} :
    optionally check value = .ok () ↔ ∀ v, value = some v → check v = .ok () := by
  cases value with
  | none => simp [optionally]
  | some v => simp [optionally]

structure Fields (r : DeliveryRecord) : Prop where
  eventId : contentId eventKind r.eventId = true
  version : 1 ≤ r.version
  attempts : r.attemptCount ≤ maxAttempts
  updated : CanonicalText r.updatedAt
  available : ∀ text, r.availableAt = some text → CanonicalText text
  lease : ∀ text, r.leaseExpiresAt = some text → CanonicalText text
  delivered : ∀ text, r.deliveredAt = some text → CanonicalText text
  worker : ∀ v, r.workerId = some v → boundedText 128 v = true
  error : ∀ v, r.lastErrorCode = some v → boundedText 256 v = true
  response : ∀ v, r.responseSha256 = some v → isDigest v = true

def StatusShape (r : DeliveryRecord) : Prop :=
  match r.status with
  | .pending => r.version = 1 ∧ r.attemptCount = 0 ∧ r.availableAt ≠ none ∧
      DeliveryRecord.present [r.workerId, r.leaseExpiresAt, r.deliveredAt, r.lastErrorCode,
        r.responseSha256] = false
  | .leased => 1 ≤ r.attemptCount ∧ r.workerId ≠ none ∧
      (∃ text, r.leaseExpiresAt = some text ∧ micros r.updatedAt < micros text) ∧
      DeliveryRecord.present [r.availableAt, r.deliveredAt, r.lastErrorCode, r.responseSha256] = false
  | .retryWait => 1 ≤ r.attemptCount ∧
      (∃ text, r.availableAt = some text ∧ micros r.updatedAt < micros text) ∧
      r.lastErrorCode ≠ none ∧
      DeliveryRecord.present [r.workerId, r.leaseExpiresAt, r.deliveredAt, r.responseSha256] = false
  | .delivered => 1 ≤ r.attemptCount ∧
      (∃ text, r.deliveredAt = some text ∧ micros text = micros r.updatedAt) ∧
      DeliveryRecord.present [r.availableAt, r.workerId, r.leaseExpiresAt, r.lastErrorCode] = false
  | .deadLetter => 1 ≤ r.attemptCount ∧ r.lastErrorCode ≠ none ∧
      DeliveryRecord.present [r.availableAt, r.workerId, r.leaseExpiresAt, r.deliveredAt,
        r.responseSha256] = false

theorem checkPending_eq_ok {r : DeliveryRecord} (h : r.status = .pending) :
    r.checkPending (r.availableAt.map (fun text => (micros text : Int))) = .ok () ↔ StatusShape r := by
  simp only [DeliveryRecord.checkPending, StatusShape, h, bind_eq_ok, exists_unit, raiseIf_eq_ok,
    not_or, not_not, Option.map_eq_none_iff, Bool.not_eq_true, and_assoc, ne_eq]

theorem checkLeased_eq_ok {r : DeliveryRecord} (h : r.status = .leased) :
    r.checkLeased (micros r.updatedAt) (r.leaseExpiresAt.map (fun text => (micros text : Int))) =
      .ok () ↔ StatusShape r := by
  simp only [DeliveryRecord.checkLeased, StatusShape, h, bind_eq_ok, exists_unit, raiseIf_eq_ok,
    demand_eq_ok, not_lt, not_le, Bool.not_eq_true, Option.map_eq_some_iff]
  constructor
  · rintro ⟨ha, hw, _, ⟨text, htext, rfl⟩, hlt, habsent⟩
    exact ⟨ha, hw, ⟨text, htext, by omega⟩, habsent⟩
  · rintro ⟨ha, hw, ⟨text, htext, hlt⟩, habsent⟩
    exact ⟨ha, hw, _, ⟨text, htext, rfl⟩, by omega, habsent⟩

theorem checkRetryWait_eq_ok {r : DeliveryRecord} (h : r.status = .retryWait) :
    r.checkRetryWait (micros r.updatedAt) (r.availableAt.map (fun text => (micros text : Int))) =
      .ok () ↔ StatusShape r := by
  simp only [DeliveryRecord.checkRetryWait, StatusShape, h, bind_eq_ok, exists_unit, raiseIf_eq_ok,
    demand_eq_ok, not_lt, not_le, Bool.not_eq_true, Option.map_eq_some_iff]
  constructor
  · rintro ⟨ha, _, ⟨text, htext, rfl⟩, hlt, herror, habsent⟩
    exact ⟨ha, ⟨text, htext, by omega⟩, herror, habsent⟩
  · rintro ⟨ha, ⟨text, htext, hlt⟩, herror, habsent⟩
    exact ⟨ha, _, ⟨text, htext, rfl⟩, by omega, herror, habsent⟩

theorem checkDelivered_eq_ok {r : DeliveryRecord} (h : r.status = .delivered) :
    r.checkDelivered (micros r.updatedAt) (r.deliveredAt.map (fun text => (micros text : Int))) =
      .ok () ↔ StatusShape r := by
  simp only [DeliveryRecord.checkDelivered, StatusShape, h, bind_eq_ok, exists_unit, raiseIf_eq_ok,
    not_or, not_lt, not_not, Bool.not_eq_true, Option.map_eq_none_iff, Option.map_eq_some_iff, ne_eq]
  constructor
  · rintro ⟨⟨ha, -⟩, ⟨text, htext, heq⟩, habsent⟩
    exact ⟨ha, ⟨text, htext, by omega⟩, habsent⟩
  · rintro ⟨ha, ⟨text, htext, heq⟩, habsent⟩
    exact ⟨⟨ha, by simp [htext]⟩, ⟨text, htext, by omega⟩, habsent⟩

theorem checkDeadLetter_eq_ok {r : DeliveryRecord} (h : r.status = .deadLetter) :
    r.checkDeadLetter = .ok () ↔ StatusShape r := by
  simp only [DeliveryRecord.checkDeadLetter, StatusShape, h, bind_eq_ok, exists_unit, raiseIf_eq_ok,
    not_or, not_lt, Bool.not_eq_true, and_assoc, ne_eq]

theorem checkShape_eq_ok {r : DeliveryRecord} :
    r.checkShape = .ok () ↔ Fields r ∧ StatusShape r := by
  have hstatus : (match r.status with
      | .pending => r.checkPending (r.availableAt.map (fun text => (micros text : Int)))
      | .leased => r.checkLeased (micros r.updatedAt)
          (r.leaseExpiresAt.map (fun text => (micros text : Int)))
      | .retryWait => r.checkRetryWait (micros r.updatedAt)
          (r.availableAt.map (fun text => (micros text : Int)))
      | .delivered => r.checkDelivered (micros r.updatedAt)
          (r.deliveredAt.map (fun text => (micros text : Int)))
      | .deadLetter => r.checkDeadLetter) = .ok () ↔ StatusShape r := by
    split
    · rename_i h
      exact checkPending_eq_ok h
    · rename_i h
      exact checkLeased_eq_ok h
    · rename_i h
      exact checkRetryWait_eq_ok h
    · rename_i h
      exact checkDelivered_eq_ok h
    · rename_i h
      exact checkDeadLetter_eq_ok h
  simp only [DeliveryRecord.checkShape, bind_eq_ok, exists_unit, raiseIf_eq_ok, timestamp_eq_ok,
    optionalTimestamp_eq_ok, optionally_eq_ok, identifier, errorCode, digest, Bool.not_eq_false, not_lt]
  constructor
  · rintro ⟨he, hv, ha, _, ⟨hu, rfl⟩, _, ⟨hav, rfl⟩, _, ⟨hl, rfl⟩, _, ⟨hd, rfl⟩, hw, herr, hr, hs⟩
    exact ⟨⟨he, hv, ha, hu, hav, hl, hd, hw, herr, hr⟩, hstatus.mp hs⟩
  · rintro ⟨⟨he, hv, ha, hu, hav, hl, hd, hw, herr, hr⟩, hs⟩
    exact ⟨he, hv, ha, _, ⟨hu, rfl⟩, _, ⟨hav, rfl⟩, _, ⟨hl, rfl⟩, _, ⟨hd, rfl⟩, hw, herr, hr,
      hstatus.mpr hs⟩

theorem CompletionOutboxDelivery.shape (d : CompletionOutboxDelivery sha) :
    Fields d.toDeliveryRecord ∧ StatusShape d.toDeliveryRecord := by
  have h := d.valid
  simp only [DeliveryRecord.check, bind_eq_ok, exists_unit] at h
  exact checkShape_eq_ok.mp h.2.1

theorem construct_eq_ok {r : DeliveryRecord} {revisionId : Str} {d : CompletionOutboxDelivery sha} :
    r.construct sha revisionId = .ok d ↔
      d.toDeliveryRecord = r ∧ d.deliveryRevisionId = revisionId := by
  unfold DeliveryRecord.construct
  constructor
  · intro h
    split at h
    · cases h
      exact ⟨rfl, rfl⟩
    · cases h
  · rintro ⟨rfl, rfl⟩
    split
    · rfl
    · rename_i e he
      rw [d.valid] at he
      cases he

theorem canonical_of_times {r : DeliveryRecord} (hu : CanonicalText r.updatedAt)
    (ha : ∀ text, r.availableAt = some text → CanonicalText text)
    (hl : ∀ text, r.leaseExpiresAt = some text → CanonicalText text)
    (hd : ∀ text, r.deliveredAt = some text → CanonicalText text) : r.canonical = .ok r := by
  rw [DeliveryRecord.canonical, canonicalRfc3339_canonical hu, optionalCanonical_canonical ha,
    optionalCanonical_canonical hl, optionalCanonical_canonical hd]
  rfl

theorem encodableFields_iff {l : List (Str × Json)} :
    encodableFields l = true ↔
      ∀ f ∈ l, (encodedBytes f.1).isSome = true ∧ encodable f.2 = true := by
  induction l with
  | nil => simp [encodableFields]
  | cons f l ih =>
    obtain ⟨k, v⟩ := f
    simp only [encodableFields, Bool.and_eq_true, ih, List.forall_mem_cons]

theorem encodable_optional {o : Option Str} :
    encodable (jsonOptional o) = true ↔ ∀ s, o = some s → (encodedBytes s).isSome = true := by
  cases o with
  | none => simp [jsonOptional, encodable]
  | some s => simp [jsonOptional, encodable]

theorem ascii_contentId {kind value : Str} (hkind : ascii kind = true)
    (h : contentId kind value = true) : ascii value = true := by
  simp only [contentId, Bool.and_eq_true, decide_eq_true_eq, List.isPrefixOf_iff_prefix] at h
  obtain ⟨⟨-, rest, rfl⟩, hhex⟩ := h
  rw [List.drop_left] at hhex
  rw [ascii_append, hkind, ascii_of_hex hhex]
  rfl

theorem ascii_isDigest {value : Str} (h : isDigest value = true) : ascii value = true := by
  have hprefix : ascii (lit "sha256:") = true := by decide
  have hlength : (lit "sha256:").length = 7 := by decide
  simp only [isDigest, Bool.and_eq_true, decide_eq_true_eq, List.isPrefixOf_iff_prefix] at h
  obtain ⟨⟨-, rest, rfl⟩, hhex⟩ := h
  rw [List.drop_left' hlength] at hhex
  rw [ascii_append, hprefix, ascii_of_hex hhex]
  rfl

structure EncodableTexts (r : DeliveryRecord) : Prop where
  worker : ∀ s, r.workerId = some s → (encodedBytes s).isSome = true
  error : ∀ s, r.lastErrorCode = some s → (encodedBytes s).isSome = true

theorem encodable_toDict {r : DeliveryRecord} (h : Fields r) :
    encodable r.toDict = true ↔ EncodableTexts r := by
  have canonicals {o : Option Str} (ho : ∀ text, o = some text → CanonicalText text) :
      encodable (jsonOptional o) = true :=
    encodable_optional.mpr fun s hs => encodedBytes_of_ascii (ascii_canonical (ho s hs))
  have hevent : ascii r.eventId = true := ascii_contentId (by decide) h.eventId
  have hstatus : ascii r.status.text = true := by
    cases r.status <;> decide
  rw [DeliveryRecord.toDict, encodable, encodableFields_iff]
  constructor
  · intro hall
    refine ⟨encodable_optional.mp ?_, encodable_optional.mp ?_⟩
    · exact (hall (lit "worker_id", jsonOptional r.workerId)
        (by simp only [List.mem_cons, true_or, or_true])).2
    · exact (hall (lit "last_error_code", jsonOptional r.lastErrorCode)
        (by simp only [List.mem_cons, true_or, or_true])).2
  · rintro ⟨hworker, herror⟩ f hf
    simp only [List.mem_cons, List.not_mem_nil, or_false] at hf
    rcases hf with rfl | rfl | rfl | rfl | rfl | rfl | rfl | rfl | rfl | rfl | rfl | rfl
    · exact ⟨rfl, rfl⟩
    · exact ⟨rfl, encodedBytes_of_ascii hevent⟩
    · exact ⟨rfl, rfl⟩
    · exact ⟨rfl, encodedBytes_of_ascii hstatus⟩
    · exact ⟨rfl, rfl⟩
    · exact ⟨rfl, encodedBytes_of_ascii (ascii_canonical h.updated)⟩
    · exact ⟨rfl, canonicals h.available⟩
    · exact ⟨rfl, encodable_optional.mpr hworker⟩
    · exact ⟨rfl, canonicals h.lease⟩
    · exact ⟨rfl, canonicals h.delivered⟩
    · exact ⟨rfl, encodable_optional.mpr herror⟩
    · refine ⟨rfl, encodable_optional.mpr ?_⟩
      intro s hs
      exact encodedBytes_of_ascii (ascii_isDigest (h.response s hs))

theorem deliveryId_eq_ok {r : DeliveryRecord} {revisionId : Str} :
    r.deliveryId sha = .ok revisionId ↔
      encodable r.toDict = true ∧ revisionId = deliveryKind ++ sha.hexdigest [] r.toDict := by
  simp only [DeliveryRecord.deliveryId, canonicalHexdigest, bind_eq_ok, exists_unit, raiseIf_eq_ok,
    pure_eq_ok, Bool.not_eq_false]
  constructor
  · rintro ⟨_, ⟨henc, rfl⟩, rfl⟩
    exact ⟨henc, rfl⟩
  · rintro ⟨henc, rfl⟩
    exact ⟨_, ⟨henc, rfl⟩, rfl⟩

namespace CompletionOutboxDelivery

theorem identity (d : CompletionOutboxDelivery sha) :
    encodable d.toDict = true ∧ d.deliveryRevisionId = deliveryKind ++ sha.hexdigest [] d.toDict := by
  have h := d.valid
  simp only [DeliveryRecord.check, bind_eq_ok, exists_unit, raiseIf_eq_ok, not_not, ne_eq] at h
  obtain ⟨-, -, expected, hexpected, heq⟩ := h
  obtain ⟨henc, rfl⟩ := deliveryId_eq_ok.mp hexpected
  exact ⟨henc, heq⟩

theorem texts (d : CompletionOutboxDelivery sha) : EncodableTexts d.toDeliveryRecord :=
  (encodable_toDict d.shape.1).mp d.identity.1

theorem ext_record {d d' : CompletionOutboxDelivery sha}
    (h : d.toDeliveryRecord = d'.toDeliveryRecord) : d = d' := by
  have hid : d.deliveryRevisionId = d'.deliveryRevisionId := by
    rw [d.identity.2, d'.identity.2, h]
  cases d
  cases d'
  cases h
  cases hid
  rfl

end CompletionOutboxDelivery

theorem contentId_hexdigest (kind : Str) (value : Json) :
    contentId kind (kind ++ sha.hexdigest [] value) = true := by
  simp only [contentId, Bool.and_eq_true, decide_eq_true_eq, List.isPrefixOf_iff_prefix]
  refine ⟨⟨?_, List.prefix_append _ _⟩, ?_⟩
  · rw [List.length_append, sha.length_hexdigest]
  · rw [List.drop_left]
    exact sha.hex_hexdigest [] value

theorem buildDelivery_eq_ok {r : DeliveryRecord} (hr : r.canonical = .ok r)
    {d : CompletionOutboxDelivery sha} :
    buildDelivery sha r = .ok d ↔ d.toDeliveryRecord = r := by
  simp only [buildDelivery, bind_eq_ok, hr, Except.ok.injEq, exists_eq_left', construct_eq_ok,
    deliveryId_eq_ok]
  constructor
  · rintro ⟨_, -, h, -⟩
    exact h
  · rintro rfl
    exact ⟨_, d.identity, rfl, rfl⟩

theorem exists_delivery {r : DeliveryRecord} (hf : Fields r) (hs : StatusShape r)
    (he : EncodableTexts r) : ∃ d : CompletionOutboxDelivery sha, d.toDeliveryRecord = r := by
  have henc := (encodable_toDict hf).mpr he
  have hvalid : r.check sha (deliveryKind ++ sha.hexdigest [] r.toDict) = .ok () := by
    simp only [DeliveryRecord.check, bind_eq_ok, exists_unit, raiseIf_eq_ok, not_not, ne_eq,
      Bool.not_eq_false]
    exact ⟨contentId_hexdigest _ _, checkShape_eq_ok.mpr ⟨hf, hs⟩, _,
      deliveryId_eq_ok.mpr ⟨henc, rfl⟩, rfl⟩
  exact ⟨⟨r, _, hvalid⟩, rfl⟩

end Shapes

section Operations

variable {sha : Sha256}

theorem verifyTransition_eq_ok {d d' : CompletionOutboxDelivery sha} :
    verifyTransition d d' = .ok () ↔
      d.eventId = d'.eventId ∧ d'.version = d.version + 1 ∧
        micros d.updatedAt ≤ micros d'.updatedAt ∧ d'.status ∈ d.status.allowed ∧
        d'.attemptCount = d.attemptCount + (if d'.status = .leased then 1 else 0) := by
  simp only [verifyTransition, bind_eq_ok, exists_unit, raiseIf_eq_ok, not_not, ne_eq, not_lt,
    instant_canonical d.shape.1.updated, instant_canonical d'.shape.1.updated, Except.ok.injEq,
    exists_eq_left', Nat.cast_le]

theorem validateClaim_eq_ok {workerId : Str} {seconds : Int} :
    validateClaim workerId seconds = .ok () ↔
      boundedText 128 workerId = true ∧ 1 ≤ seconds ∧ seconds ≤ maxLeaseSeconds := by
  simp only [validateClaim, identifier, bind_eq_ok, exists_unit, raiseIf_eq_ok, not_or, not_lt,
    Bool.not_eq_false]

theorem passed_eq_ok {deadline : Option Str}
    (h : ∀ text, deadline = some text → CanonicalText text) {now : Nat} {message : Str} :
    passed deadline now message = .ok () ↔ ∃ text, deadline = some text ∧ micros text ≤ now := by
  cases deadline with
  | none => simp [passed]
  | some text =>
    simp only [passed, bind_eq_ok, instant_canonical (h text rfl), Except.ok.injEq, exists_eq_left',
      raiseIf_eq_ok, not_lt, Nat.cast_le, Option.some.injEq]

def ready (r : DeliveryRecord) : Nat :=
  match r.status with
  | .pending | .retryWait => micros (r.availableAt.getD [])
  | .leased => micros (r.leaseExpiresAt.getD [])
  | .delivered | .deadLetter => 0

theorem requireClaimable_eq_ok {d : CompletionOutboxDelivery sha} {now : Nat} :
    requireClaimable d now = .ok () ↔ d.status.terminal = false ∧ ready d.toDeliveryRecord ≤ now := by
  obtain ⟨hf, hs⟩ := d.shape
  unfold StatusShape at hs
  unfold requireClaimable ready
  cases hstatus : d.status with
  | pending =>
    rw [hstatus] at hs
    obtain ⟨text, htext⟩ := Option.ne_none_iff_exists'.mp hs.2.2.1
    rw [passed_eq_ok hf.available]
    simp only [htext, Option.some.injEq, exists_eq_left', Option.getD_some, DeliveryStatus.terminal,
      true_and]
  | retryWait =>
    rw [hstatus] at hs
    obtain ⟨text, htext, -⟩ := hs.2.1
    rw [passed_eq_ok hf.available]
    simp only [htext, Option.some.injEq, exists_eq_left', Option.getD_some, DeliveryStatus.terminal,
      true_and]
  | leased =>
    rw [hstatus] at hs
    obtain ⟨text, htext, -⟩ := hs.2.2.1
    rw [passed_eq_ok hf.lease]
    simp only [htext, Option.some.injEq, exists_eq_left', Option.getD_some, DeliveryStatus.terminal,
      true_and]
  | delivered => simp [DeliveryStatus.terminal]
  | deadLetter => simp [DeliveryStatus.terminal]

structure Caller (workerId : Str) (now : Nat) (seconds : Int) : Prop where
  worker : boundedText 128 workerId = true
  encodable : (encodedBytes workerId).isSome = true
  positive : 1 ≤ seconds
  bounded : seconds ≤ maxLeaseSeconds
  range : now + seconds.toNat * 1000000 ≤ maxInstant

structure Claimable (r : DeliveryRecord) (now : Nat) : Prop where
  live : r.status.terminal = false
  ready : ready r ≤ now
  updated : micros r.updatedAt ≤ now
  attempts : r.attemptCount < maxAttempts

def leasedRecord (r : DeliveryRecord) (workerId : Str) (now : Nat) (seconds : Int) : DeliveryRecord :=
  { eventId := r.eventId
    version := r.version + 1
    status := .leased
    attemptCount := r.attemptCount + 1
    updatedAt := isoformat now
    workerId := some workerId
    leaseExpiresAt := some (isoformat (now + seconds.toNat * 1000000)) }

theorem Caller.now_le {workerId : Str} {now : Nat} {seconds : Int} (h : Caller workerId now seconds) :
    now ≤ maxInstant := by
  have hrange := h.range
  omega

theorem leasedRecord_canonical {r : DeliveryRecord} {workerId : Str} {now : Nat} {seconds : Int}
    (hrange : now + seconds.toNat * 1000000 ≤ maxInstant) :
    (leasedRecord r workerId now seconds).canonical = .ok (leasedRecord r workerId now seconds) := by
  apply canonical_of_times
  · exact canonicalText_isoformat (by omega)
  · intro text htext
    cases htext
  · intro text htext
    cases htext
    exact canonicalText_isoformat hrange
  · intro text htext
    cases htext

theorem exists_leased (d : CompletionOutboxDelivery sha) {workerId : Str} {now : Nat} {seconds : Int}
    (hcaller : Caller workerId now seconds) (hattempts : d.attemptCount < maxAttempts) :
    ∃ d' : CompletionOutboxDelivery sha,
      d'.toDeliveryRecord = leasedRecord d.toDeliveryRecord workerId now seconds := by
  have hrange := hcaller.range
  have hpositive := hcaller.positive
  apply exists_delivery
  · refine
      { eventId := d.shape.1.eventId
        version := by simp [leasedRecord]
        attempts := hattempts
        updated := canonicalText_isoformat hcaller.now_le
        available := by simp [leasedRecord]
        lease := ?_
        delivered := by simp [leasedRecord]
        worker := ?_
        error := by simp [leasedRecord]
        response := by simp [leasedRecord] }
    · intro text htext
      cases htext
      exact canonicalText_isoformat hrange
    · intro v hv
      cases hv
      exact hcaller.worker
  · refine ⟨by simp [leasedRecord], by simp [leasedRecord], ⟨_, rfl, ?_⟩, rfl⟩
    simp only [leasedRecord]
    rw [micros_isoformat hcaller.now_le, micros_isoformat hrange]
    omega
  · refine ⟨?_, by simp [leasedRecord]⟩
    intro s hs
    cases hs
    exact hcaller.encodable

theorem claim_eq_ok {d d' : CompletionOutboxDelivery sha} {workerId claimedAt : Str} {seconds : Int} :
    claim d workerId claimedAt seconds = .ok d' ↔
      ∃ now, claimedAt = isoformat now ∧ Caller workerId now seconds ∧
        Claimable d.toDeliveryRecord now ∧
        d'.toDeliveryRecord = leasedRecord d.toDeliveryRecord workerId now seconds := by
  simp only [claim, bind_eq_ok, exists_unit, pure_eq_ok, validateClaim_eq_ok, timestamp_eq_ok,
    raiseIf_eq_ok, not_lt, not_le, instant_canonical d.shape.1.updated, Except.ok.injEq,
    exists_eq_left']
  constructor
  · rintro ⟨⟨hworker, h₁, h₂⟩, _, ⟨hcanonical, rfl⟩, hclaimable, hupdated, hattempts, lease, hlease, at',
      hat, result, hresult, -, rfl⟩
    obtain ⟨hle, htext⟩ := micros_canonical hcanonical
    obtain ⟨hlive, hready⟩ := requireClaimable_eq_ok.mp hclaimable
    obtain ⟨hrange, rfl⟩ := (timestampPlusSeconds_eq_ok (by omega)).mp hlease
    rw [canonicalRfc3339_canonical hcanonical] at hat
    obtain rfl : claimedAt = at' := Except.ok.inj hat
    have hrecord : result.toDeliveryRecord =
        leasedRecord d.toDeliveryRecord workerId (micros claimedAt) seconds := by
      refine (buildDelivery_eq_ok (leasedRecord_canonical hrange)).mp ?_
      rw [← hresult, leasedRecord, ← htext]
    refine ⟨micros claimedAt, htext, ⟨hworker, ?_, h₁, h₂, hrange⟩,
      ⟨hlive, hready, by omega, hattempts⟩, hrecord⟩
    exact result.texts.worker workerId (by rw [hrecord]; rfl)
  · rintro ⟨now, rfl, hcaller, hclaim, hrecord⟩
    have hle := hcaller.now_le
    have hcanonical := canonicalText_isoformat hle
    have hmicros := micros_isoformat hle
    have hpositive := hcaller.positive
    refine ⟨⟨hcaller.worker, hpositive, hcaller.bounded⟩, _, ⟨hcanonical, rfl⟩, ?_, ?_,
      hclaim.attempts, _, (timestampPlusSeconds_eq_ok (by omega)).mpr ⟨?_, rfl⟩, _,
      canonicalRfc3339_canonical hcanonical, d', ?_, ?_, rfl⟩
    · rw [hmicros]
      exact requireClaimable_eq_ok.mpr ⟨hclaim.live, hclaim.ready⟩
    · rw [hmicros]
      have hupdated := hclaim.updated
      omega
    · rw [hmicros]
      exact hcaller.range
    · rw [hmicros]
      exact (buildDelivery_eq_ok (leasedRecord_canonical hcaller.range)).mpr hrecord
    · rw [verifyTransition_eq_ok, hrecord]
      refine ⟨rfl, rfl, ?_, ?_, rfl⟩
      · simp only [leasedRecord]
        rw [hmicros]
        exact hclaim.updated
      · have hlive := hclaim.live
        simp only [leasedRecord]
        cases hstatus : d.status with
        | pending | leased | retryWait => simp [DeliveryStatus.allowed]
        | delivered | deadLetter =>
          rw [hstatus] at hlive
          cases hlive

theorem claim_succeeds_iff {d : CompletionOutboxDelivery sha} {workerId : Str} {now : Nat}
    {seconds : Int} (hnow : now ≤ maxInstant) :
    (∃ d', claim d workerId (isoformat now) seconds = .ok d') ↔
      Caller workerId now seconds ∧ Claimable d.toDeliveryRecord now := by
  constructor
  · rintro ⟨d', h⟩
    obtain ⟨i, hi, hcaller, hclaim, -⟩ := claim_eq_ok.mp h
    obtain rfl : now = i := (isoformat_inj hnow hcaller.now_le).mp hi
    exact ⟨hcaller, hclaim⟩
  · rintro ⟨hcaller, hclaim⟩
    obtain ⟨d', hd'⟩ := exists_leased d hcaller hclaim.attempts
    exact ⟨d', claim_eq_ok.mpr ⟨now, rfl, hcaller, hclaim, hd'⟩⟩

structure Holds (r : DeliveryRecord) (workerId : Str) (now : Nat) : Prop where
  leased : r.status = .leased
  worker : r.workerId = some workerId
  updated : micros r.updatedAt ≤ now
  unexpired : now ≤ ready r

theorem CompletionOutboxDelivery.lease_shape (d : CompletionOutboxDelivery sha)
    (h : d.status = .leased) :
    1 ≤ d.attemptCount ∧ (∃ workerId, d.workerId = some workerId) ∧
      micros d.updatedAt < ready d.toDeliveryRecord ∧ ready d.toDeliveryRecord ≤ maxInstant ∧
      d.leaseExpiresAt = some (isoformat (ready d.toDeliveryRecord)) := by
  obtain ⟨hf, hs⟩ := d.shape
  rw [StatusShape, h] at hs
  obtain ⟨hattempts, hworker, ⟨text, htext, hlt⟩, -⟩ := hs
  obtain ⟨hle, hiso⟩ := micros_canonical (hf.lease text htext)
  have hready : ready d.toDeliveryRecord = micros text := by
    simp only [ready, h, htext, Option.getD_some]
  rw [hready]
  exact ⟨hattempts, Option.ne_none_iff_exists'.mp hworker, hlt, hle, by rw [htext, ← hiso]⟩

theorem requireActiveLease_eq_ok {d : CompletionOutboxDelivery sha} {workerId occurredAt : Str}
    {i : Int} :
    requireActiveLease d workerId occurredAt = .ok i ↔
      ∃ now ≤ maxInstant, occurredAt = isoformat now ∧ i = (now : Int) ∧
        Holds d.toDeliveryRecord workerId now := by
  simp only [requireActiveLease, identifier, bind_eq_ok, exists_unit, raiseIf_eq_ok, pure_eq_ok,
    timestamp_eq_ok, demand_eq_ok, not_not, not_lt, Bool.not_eq_false, ne_eq,
    instant_canonical d.shape.1.updated, Except.ok.injEq, exists_eq_left']
  constructor
  · rintro ⟨-, _, ⟨hcanonical, rfl⟩, hleased, hworker, text, htext, l, hl, hlease, hupdated, rfl⟩
    obtain ⟨-, -, -, hle, heq⟩ := d.lease_shape hleased
    obtain ⟨hnow, hiso⟩ := micros_canonical hcanonical
    obtain rfl : text = isoformat (ready d.toDeliveryRecord) := Option.some.inj (htext.symm.trans heq)
    rw [instant_canonical (canonicalText_isoformat hle), micros_isoformat hle] at hl
    have hl := Except.ok.inj hl
    exact ⟨micros occurredAt, hnow, hiso, rfl, hleased, hworker, by omega, by omega⟩
  · rintro ⟨now, hnow, rfl, rfl, hholds⟩
    obtain ⟨-, -, -, hle, heq⟩ := d.lease_shape hholds.leased
    have hmicros := micros_isoformat hnow
    have hunexpired := hholds.unexpired
    have hupdated := hholds.updated
    refine ⟨d.shape.1.worker workerId hholds.worker, _, ⟨canonicalText_isoformat hnow, rfl⟩,
      hholds.leased, hholds.worker, _, heq, _, instant_canonical (canonicalText_isoformat hle), ?_, ?_,
      by rw [hmicros]⟩
    · rw [hmicros, micros_isoformat hle]
      omega
    · rw [hmicros]
      omega

def deliveredRecord (r : DeliveryRecord) (now : Nat) (responseSha256 : Option Str) : DeliveryRecord :=
  { eventId := r.eventId
    version := r.version + 1
    status := .delivered
    attemptCount := r.attemptCount
    updatedAt := isoformat now
    deliveredAt := some (isoformat now)
    responseSha256 := responseSha256 }

def deadLetterRecord (r : DeliveryRecord) (now : Nat) (error : Str) : DeliveryRecord :=
  { eventId := r.eventId
    version := r.version + 1
    status := .deadLetter
    attemptCount := r.attemptCount
    updatedAt := isoformat now
    lastErrorCode := some error }

def retryRecord (r : DeliveryRecord) (now : Nat) (error : Str) (delay : Int) : DeliveryRecord :=
  { eventId := r.eventId
    version := r.version + 1
    status := .retryWait
    attemptCount := r.attemptCount
    updatedAt := isoformat now
    availableAt := some (isoformat (now + delay.toNat * 1000000))
    lastErrorCode := some error }

theorem deliveredRecord_canonical {r : DeliveryRecord} {now : Nat} {response : Option Str}
    (hnow : now ≤ maxInstant) :
    (deliveredRecord r now response).canonical = .ok (deliveredRecord r now response) := by
  apply canonical_of_times
  · exact canonicalText_isoformat hnow
  · intro text htext
    cases htext
  · intro text htext
    cases htext
  · intro text htext
    cases htext
    exact canonicalText_isoformat hnow

theorem verify_finished {d d' : CompletionOutboxDelivery sha} {now : Nat} (hnow : now ≤ maxInstant)
    (hleased : d.status = .leased) (hupdated : micros d.updatedAt ≤ now)
    (hevent : d'.eventId = d.eventId) (hversion : d'.version = d.version + 1)
    (hat : d'.updatedAt = isoformat now) (hattempts : d'.attemptCount = d.attemptCount)
    (hstatus : d'.status ≠ .pending) (hnot : d'.status ≠ .leased) : verifyTransition d d' = .ok () := by
  rw [verifyTransition_eq_ok]
  refine ⟨hevent.symm, hversion, ?_, ?_, ?_⟩
  · rw [hat, micros_isoformat hnow]
    exact hupdated
  · rw [hleased]
    cases h : d'.status with
    | pending => exact absurd h hstatus
    | leased => exact absurd h hnot
    | retryWait | delivered | deadLetter => simp [DeliveryStatus.allowed]
  · rw [hattempts, if_neg hnot, Nat.add_zero]

theorem acknowledge_eq_ok {d d' : CompletionOutboxDelivery sha} {workerId at' : Str}
    {response : Option Str} :
    acknowledge d workerId at' response = .ok d' ↔
      ∃ now ≤ maxInstant, at' = isoformat now ∧ Holds d.toDeliveryRecord workerId now ∧
        (∀ v, response = some v → isDigest v = true) ∧
        d'.toDeliveryRecord = deliveredRecord d.toDeliveryRecord now response := by
  simp only [acknowledge, bind_eq_ok, exists_unit, pure_eq_ok, requireActiveLease_eq_ok,
    optionally_eq_ok, digest, raiseIf_eq_ok, Bool.not_eq_false]
  constructor
  · rintro ⟨_, ⟨now, hnow, rfl, rfl, hholds⟩, hresponse, at', hat, result, hresult, -, rfl⟩
    rw [canonicalRfc3339_canonical (canonicalText_isoformat hnow)] at hat
    obtain rfl : isoformat now = at' := Except.ok.inj hat
    exact ⟨now, hnow, rfl, hholds, hresponse,
      (buildDelivery_eq_ok (deliveredRecord_canonical hnow)).mp hresult⟩
  · rintro ⟨now, hnow, rfl, hholds, hresponse, hrecord⟩
    refine ⟨_, ⟨now, hnow, rfl, rfl, hholds⟩, hresponse, _,
      canonicalRfc3339_canonical (canonicalText_isoformat hnow), d',
      (buildDelivery_eq_ok (deliveredRecord_canonical hnow)).mpr hrecord, ?_, rfl⟩
    apply verify_finished hnow hholds.leased hholds.updated <;> rw [hrecord] <;>
      first | rfl | exact DeliveryStatus.noConfusion

theorem acknowledge_succeeds (d : CompletionOutboxDelivery sha) {workerId : Str} {now : Nat}
    (hnow : now ≤ maxInstant) (h : Holds d.toDeliveryRecord workerId now) :
    ∃ d', acknowledge d workerId (isoformat now) none = .ok d' ∧ d'.status = .delivered := by
  obtain ⟨hattempts, -⟩ := d.lease_shape h.leased
  have hrecord : ∃ d' : CompletionOutboxDelivery sha,
      d'.toDeliveryRecord = deliveredRecord d.toDeliveryRecord now none := by
    apply exists_delivery
    · refine
        { eventId := d.shape.1.eventId
          version := by simp [deliveredRecord]
          attempts := d.shape.1.attempts
          updated := canonicalText_isoformat hnow
          available := by simp [deliveredRecord]
          lease := by simp [deliveredRecord]
          delivered := ?_
          worker := by simp [deliveredRecord]
          error := by simp [deliveredRecord]
          response := by simp [deliveredRecord] }
      intro text htext
      cases htext
      exact canonicalText_isoformat hnow
    · exact ⟨hattempts, ⟨_, rfl, rfl⟩, rfl⟩
    · exact ⟨by simp [deliveredRecord], by simp [deliveredRecord]⟩
  obtain ⟨d', hd'⟩ := hrecord
  exact ⟨d', acknowledge_eq_ok.mpr ⟨now, hnow, rfl, h, by simp, hd'⟩, by rw [hd']; rfl⟩

theorem fail_eq_ok {d d' : CompletionOutboxDelivery sha} {workerId at' error : Str}
    {delay attempts : Int} (h : fail d workerId at' error delay attempts = .ok d') :
    ∃ now ≤ maxInstant, at' = isoformat now ∧ Holds d.toDeliveryRecord workerId now ∧
      1 ≤ attempts ∧ attempts ≤ maxAttempts ∧
      (d'.toDeliveryRecord = deadLetterRecord d.toDeliveryRecord now error ∨
        d.attemptCount < attempts ∧
          d'.toDeliveryRecord = retryRecord d.toDeliveryRecord now error delay) := by
  simp only [fail, bind_eq_ok, exists_unit, pure_eq_ok, requireActiveLease_eq_ok, raiseIf_eq_ok, not_or,
    not_lt] at h
  obtain ⟨_, ⟨now, hnow, rfl, rfl, hholds⟩, -, ⟨hdelay, -⟩, ⟨h₁, h₂⟩, at', hat, r, hr, result, hresult,
    -, rfl⟩ := h
  rw [canonicalRfc3339_canonical (canonicalText_isoformat hnow)] at hat
  obtain rfl : isoformat now = at' := Except.ok.inj hat
  refine ⟨now, hnow, rfl, hholds, h₁, h₂, ?_⟩
  unfold failedRecord at hr
  split at hr
  · obtain rfl := Except.ok.inj hr
    refine .inl ((buildDelivery_eq_ok ?_).mp hresult)
    apply canonical_of_times
    · exact canonicalText_isoformat hnow
    · intro text htext
      cases htext
    · intro text htext
      cases htext
    · intro text htext
      cases htext
  · rename_i hlt
    obtain ⟨text, htext, hr⟩ := bind_eq_ok.mp hr
    obtain ⟨hrange, rfl⟩ := (timestampPlusSeconds_eq_ok (by omega)).mp htext
    obtain rfl := Except.ok.inj hr
    refine .inr ⟨by omega, (buildDelivery_eq_ok ?_).mp hresult⟩
    apply canonical_of_times
    · exact canonicalText_isoformat hnow
    · intro text htext
      cases htext
      exact canonicalText_isoformat hrange
    · intro text htext
      cases htext
    · intro text htext
      cases htext

end Operations

end Outbox

end TraceBackedMemory
