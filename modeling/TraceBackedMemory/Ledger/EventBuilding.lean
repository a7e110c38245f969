import TraceBackedMemory.Ledger.EventDocuments
import TraceBackedMemory.Foundation.OrderBy

namespace TraceBackedMemory

open Text Raising Json OrderBy

open GateEvents (keysAre)

namespace EventContract

variable {codec : FloatCodec} {hash : TextHash}

section Building

-- the fields the builder passes to the constructor
def EventArguments.signed (codec : FloatCodec) (hash : TextHash) (a : EventArguments) (occurredAt : Option Str)
    (recordedAt : Str) : EventFields :=
  let refs := orderBy (fun r : ArtifactRef => r.val.artifactId) a.artifactRefs
  let payloadSha256 := (hash.canonical codec).domain [] a.payload.val
  let unsigned := (a.fields refs occurredAt recordedAt payloadSha256 []).unsigned
  a.fields refs occurredAt recordedAt payloadSha256 ((hash.canonical codec).domain eventDomain unsigned)

structure Built (a : EventArguments) (e : CanonicalEvent (hash.canonical codec)) : Prop where
  length : a.artifactRefs.length ≤ maxArtifactRefs
  nodup : (artifactIds a.artifactRefs).Nodup
  times : ∃ occurredAt recordedAt, canonicalOccurred a.occurredAt = .ok occurredAt ∧
    canonicalTimestamp a.recordedAt (lit "recorded_at") = .ok recordedAt ∧
      newCanonicalEvent codec hash (a.signed codec hash occurredAt recordedAt) = .ok e

theorem buildCanonicalEvent_eq_ok {a : EventArguments} {e : CanonicalEvent (hash.canonical codec)} :
    buildCanonicalEvent codec hash a = .ok e ↔ Built a e := by
  simp only [buildCanonicalEvent, bind_eq_ok, exists_unit, raiseIf_eq_ok, not_lt, not_not, payloadChecked_eq_ok,
    eventPayloadSha256_eq_ok, signUnsigned_eq_ok]
  constructor
  · rintro ⟨hlength, hnodup, -, occurredAt, hoccurred, recordedAt, hrecorded, _, ⟨-, rfl⟩, _, ⟨-, rfl⟩, hnew⟩
    exact ⟨hlength, hnodup, occurredAt, recordedAt, hoccurred, hrecorded, hnew⟩
  · rintro ⟨hlength, hnodup, occurredAt, recordedAt, hoccurred, hrecorded, hnew⟩
    have haccepted := newCanonicalEvent_eq_ok.mp hnew
    exact ⟨hlength, hnodup, haccepted.payload, occurredAt, hoccurred, recordedAt, hrecorded, _,
      ⟨haccepted.payload, rfl⟩, _, ⟨haccepted.encodes, rfl⟩, hnew⟩

theorem sortKeys_unsigned (f : EventFields) {payload : Json} (h : sortKeys payload = sortKeys f.payload) :
    sortKeys ({ f with payload := payload } : EventFields).unsigned = sortKeys f.unsigned := by
  simp only [EventFields.unsigned, EventFields.entries, sortKeys, sortFields, h]

theorem signed_rearranged {a : EventArguments} {refs : List ArtifactRef} {payload : Mapping}
    (hrefs : refs.Perm a.artifactRefs) (hnodup : (artifactIds a.artifactRefs).Nodup)
    (hpayload : sortKeys payload.val = sortKeys a.payload.val) (occurredAt : Option Str) (recordedAt : Str) :
    ({ a with artifactRefs := refs, payload := payload } : EventArguments).signed codec hash occurredAt recordedAt =
      { a.signed codec hash occurredAt recordedAt with payload := payload.val } := by
  have hids : (refs.map (fun r => r.val.artifactId)).Nodup := (hrefs.map _).nodup_iff.mpr hnodup
  have horder := orderBy_eq_of_perm hrefs hids
  have hsha : (hash.canonical codec).domain [] payload.val = (hash.canonical codec).domain [] a.payload.val :=
    domain_congr (canonicalText_of_sorted hpayload)
  have hsigned (f : EventFields) (hf : sortKeys payload.val = sortKeys f.payload) :
      (hash.canonical codec).domain eventDomain ({ f with payload := payload.val } : EventFields).unsigned =
        (hash.canonical codec).domain eventDomain f.unsigned :=
    domain_congr (canonicalText_of_sorted (sortKeys_unsigned f hf))
  unfold EventArguments.signed
  dsimp only
  rw [horder, hsha]
  exact congrArg _ (hsigned (a.fields _ occurredAt recordedAt _ []) hpayload)

theorem build_rearranged {a : EventArguments} {e : CanonicalEvent (hash.canonical codec)}
    (h : buildCanonicalEvent codec hash a = .ok e) {refs : List ArtifactRef} {payload : Mapping}
    (hrefs : refs.Perm a.artifactRefs) (hpayload : sortKeys payload.val = sortKeys a.payload.val) :
    ∃ e', buildCanonicalEvent codec hash { a with artifactRefs := refs, payload := payload } = .ok e' ∧
      SameEvent e e' := by
  obtain ⟨hlength, hnodup, occurredAt, recordedAt, hoccurred, hrecorded, hnew⟩ := buildCanonicalEvent_eq_ok.mp h
  obtain ⟨e', hnew', henvelope, hsha⟩ := newCanonicalEvent_payload hnew hpayload.symm
  have hkept : a.payload.val = e.payload := by
    obtain ⟨p, hp, henvelope⟩ := (newCanonicalEvent_eq_ok.mp hnew).parts
    rw [henvelope]
    rfl
  refine ⟨e', buildCanonicalEvent_eq_ok.mpr ⟨?_, ?_, occurredAt, recordedAt, hoccurred, hrecorded, ?_⟩, ?_, ?_, hsha⟩
  · rw [hrefs.length_eq]
    exact hlength
  · exact (hrefs.map _).nodup_iff.mpr hnodup
  · rw [signed_rearranged hrefs hnodup hpayload]
    exact hnew'
  · rw [henvelope]
    rfl
  · rw [henvelope, ← hkept]
    exact hpayload

end Building

section Parsed

theorem isMapping_valueAt {fields : Fields} (h : isMapping (.obj fields) = true) (name : Str) :
    isMapping (valueAt fields name) = true := by
  rw [valueAt]
  cases hfield : field? name fields with
  | none => rfl
  | some v =>
    obtain ⟨hkeys, hfields⟩ := shaped_obj.mp h
    rw [field_eq_lookupIn, Dict.lookupIn_eq_some (nodup_of_distinct hkeys)] at hfield
    exact (hfields _ hfield).2

theorem ok_of_bind {ε α β : Type} {x : Except ε α} {k : α → Except ε β} {P : β → Prop}
    (h : ∀ a b, k a = .ok b → P b) : ∀ b, (x >>= k) = .ok b → P b := by
  intro b hb
  obtain ⟨a, -, hk⟩ := bind_eq_ok.mp hb
  exact h a b hk

theorem readEventFields_payload {fields : Fields} {source : Option Source} {refs : List ArtifactRef}
    {payload : Json} : ∀ f, readEventFields fields source refs payload = .ok f → f.payload = payload := by
  unfold readEventFields
  iterate 30 refine ok_of_bind fun _ => ?_
  intro f hf
  obtain rfl := pure_eq_ok.mp hf
  rfl

theorem parseCanonicalEvent_fields {value : Json} {e : CanonicalEvent (hash.canonical codec)}
    (hvalue : isMapping value = true) (h : parseCanonicalEvent codec hash value = .ok e) :
    ∃ f, newCanonicalEvent codec hash f = .ok e ∧ isMapping f.payload = true := by
  simp only [parseCanonicalEvent, bind_eq_ok] at h
  obtain ⟨fields, hfields, source, -, refs, -, payload, hpayload, f, hread, hnew⟩ := h
  refine ⟨f, hnew, ?_⟩
  rw [readEventFields_payload f hread]
  have hobject : value = .obj fields := by
    unfold strictObject at hfields
    split at hfields
    · simp only [bind_eq_ok, exists_unit, pure_eq_ok] at hfields
      rw [hfields.2]
    · cases hfields
  have hkept : payload = valueAt fields (lit "payload") := by
    unfold parsePayload at hpayload
    split at hpayload
    · rename_i heq
      cases hpayload
      exact heq.symm
    · cases hpayload
  rw [hkept]
  exact isMapping_valueAt (hobject ▸ hvalue) _

end Parsed

section RoundTrips

-- the text loads back as the same event exactly when the loader takes a text of that length
def RoundTrips (e : CanonicalEvent (hash.canonical codec)) : Prop :=
  ∃ text, dumpsCanonicalEvent e = .ok text ∧
    (fits text ↔ ∃ e', loadsCanonicalEvent codec hash (.text text) = .ok e' ∧ SameEvent e e')

theorem roundTrips_of_new {f : EventFields} {e : CanonicalEvent (hash.canonical codec)}
    (h : newCanonicalEvent codec hash f = .ok e) (hpayload : isMapping f.payload = true) : RoundTrips e := by
  refine ⟨_, dumps_of_accepted (newCanonicalEvent_eq_ok.mp h), loads_of_fits h hpayload, ?_⟩
  rintro ⟨e', hloads, -⟩
  obtain ⟨bytes, hbytes⟩ := encodes_dumps (newCanonicalEvent_eq_ok.mp h)
  refine ⟨bytes, hbytes, ?_⟩
  by_contra hlong
  rw [loads_too_long hbytes (Nat.lt_of_not_le hlong)] at hloads
  cases hloads

theorem roundTrips_of_parsed {value : Json} {e : CanonicalEvent (hash.canonical codec)}
    (hvalue : isMapping value = true) (h : parseCanonicalEvent codec hash value = .ok e) : RoundTrips e := by
  obtain ⟨f, hnew, hpayload⟩ := parseCanonicalEvent_fields hvalue h
  exact roundTrips_of_new hnew hpayload

theorem roundTrips_of_built {a : EventArguments} {e : CanonicalEvent (hash.canonical codec)}
    (h : buildCanonicalEvent codec hash a = .ok e) : RoundTrips e := by
  obtain ⟨-, -, occurredAt, recordedAt, -, -, hnew⟩ := buildCanonicalEvent_eq_ok.mp h
  exact roundTrips_of_new hnew a.payload.property

theorem roundTrips_of_loaded {data : JsonInput} {e : CanonicalEvent (hash.canonical codec)}
    (h : loadsCanonicalEvent codec hash data = .ok e) : RoundTrips e := by
  simp only [loadsCanonicalEvent, loadsObject, bind_eq_ok] at h
  obtain ⟨fields, ⟨value, hvalue, hobject⟩, hparsed⟩ := h
  refine roundTrips_of_parsed ?_ hparsed
  have hdocument : isMapping value = true := by
    simp only [loadsDocument, bind_eq_ok] at hvalue
    obtain ⟨s, -, hvalue⟩ := hvalue
    split at hvalue
    · cases hvalue
    · rename_i v hread
      cases hvalue
      exact isMapping_of_parsed hread
  split at hobject
  · cases hobject
    exact hdocument
  · cases hobject

theorem canonical_event_round_trip (codec : FloatCodec) (hash : TextHash) :
    (∀ a e, buildCanonicalEvent codec hash a = .ok e → RoundTrips e ∧
      ∀ (refs : List ArtifactRef) (payload : Mapping), refs.Perm a.artifactRefs →
        sortKeys payload.val = sortKeys a.payload.val →
          ∃ e', buildCanonicalEvent codec hash { a with artifactRefs := refs, payload := payload } = .ok e' ∧
            SameEvent e e') ∧
      (∀ (value : Mapping) e, parseCanonicalEvent codec hash value.val = .ok e → RoundTrips e) ∧
        ∀ data e, loadsCanonicalEvent codec hash data = .ok e → RoundTrips e :=
  ⟨fun _ _ h => ⟨roundTrips_of_built h, fun _ _ hrefs hpayload => build_rearranged h hrefs hpayload⟩,
    fun value _ h => roundTrips_of_parsed value.property h, fun _ _ h => roundTrips_of_loaded h⟩

end RoundTrips

end EventContract

end TraceBackedMemory
