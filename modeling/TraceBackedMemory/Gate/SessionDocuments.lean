import TraceBackedMemory.Gate.Calendar
import TraceBackedMemory.Gate.IdentifierDomains
import TraceBackedMemory.Ledger.EventSizes
import TraceBackedMemory.Foundation.JsonBudget
import TraceBackedMemory.Foundation.Utf8
import TraceBackedMemory.Migration.Texts

namespace TraceBackedMemory

open Text Raising

open Json (FloatCodec JsonBounds Brief Carried FieldCarried Fields)

open EventContract (JsonInput decodeUtf8 jsonFaultText)

namespace GateEvents

section Documents

def gateSessionMaxBytes : Nat := 1024 * 1024

def gateSessionBounds : JsonBounds := ⟨10000, 32⟩

def invalidSessionJson (message : Str) : GateError :=
  ⟨.contract, lit "TBM_GATE_SESSION_INVALID_JSON", message.take 2000⟩

def oversizedSession : Str :=
  lit "GateSession JSON exceeds maximum size of " ++ decimal gateSessionMaxBytes ++ lit " bytes"

-- the size check of the bytes stands outside the handler
def sessionText : JsonInput → Except GateError Str
  | .text s => .ok s
  | .bytes content => do
    raiseIf (gateSessionMaxBytes < content.length) ⟨.valueError, [], oversizedSession⟩
    demand (decodeUtf8 content) (invalidSessionJson (lit "GateSession JSON contains invalid UTF-8"))

variable (codec : FloatCodec)

def loadsSessionText (s : Str) : Except GateError GateSession := do
  let size ← demand (encodedBytes s) (invalidSessionJson (lit "'utf-8' codec can't encode character"))
  raiseIf (gateSessionMaxBytes < size) (invalidSessionJson oversizedSession)
  match Json.parseBoundedJson gateSessionBounds codec s with
  | .error fault => .error (invalidSessionJson (jsonFaultText (lit "GateSession") gateSessionBounds fault))
  | .ok (.obj fields) => parseGateSession (.obj fields)
  | .ok _ => .error (invalidSession (lit "GateSession JSON must contain one object"))

def loadsGateSession (source : JsonInput) : Except GateError GateSession := do
  let s ← sessionText source
  loadsSessionText codec s

def integerTooLong : GateError :=
  ⟨.valueError, [], lit "Exceeds the limit (4300 digits) for integer string conversion"⟩

def dumpsGateSession (s : GateSession) : Except GateError Str := do
  let document ← toDict s
  raiseIf (Json.intMaxStrDigits < (decimal s.version).length) integerTooLong
  return Json.canonicalText codec.repr document

end Documents

section Inputs

variable {codec : FloatCodec} {s : Str} {content : List UInt8}

theorem decodeUtf8_encodeUtf8 (h : encodeUtf8 s = some content) : decodeUtf8 content = some s :=
  fromUTF8_encodeUtf8 h

theorem sessionText_bytes (h : encodeUtf8 s = some content) (hsize : content.length ≤ gateSessionMaxBytes) :
    sessionText (.bytes content) = .ok s := by
  rw [sessionText, raiseIf_of_not (not_lt.mpr hsize), decodeUtf8_encodeUtf8 h]
  rfl

theorem loads_text (s : Str) : loadsGateSession codec (.text s) = loadsSessionText codec s := rfl

theorem loadsSessionText_parsed {bytes : Nat} {fields : Fields} (hbytes : encodedBytes s = some bytes)
    (hfits : bytes ≤ gateSessionMaxBytes)
    (hparsed : Json.parseBoundedJson gateSessionBounds codec s = .ok (.obj fields)) :
    loadsSessionText codec s = parseGateSession (.obj fields) := by
  rw [loadsSessionText, hbytes, hparsed]
  show (raiseIf (gateSessionMaxBytes < bytes) _ >>= _) = _
  rw [raiseIf_of_not (not_lt.mpr hfits)]
  rfl

theorem loads_bytes (h : encodeUtf8 s = some content) (hsize : content.length ≤ gateSessionMaxBytes) :
    loadsGateSession codec (.bytes content) = loadsGateSession codec (.text s) := by
  rw [loadsGateSession, sessionText_bytes h hsize]
  rfl

end Inputs

section Canonical

variable {r c : GateSessionRecord} {a b : Str}

theorem instant_of_rfc3339 (h : canonicalRfc3339 a = .ok b) : instant? b = instant? a := by
  have hopen := h
  simp only [canonicalRfc3339, bind_eq_ok] at hopen
  obtain ⟨i, hi, -⟩ := hopen
  rw [GateSession.instant_eq_ok.mp hi]
  exact GateSession.instant_eq_ok.mp (instant_of_canonical hi h)

theorem times_canonical {i j k : Int} (h : canonicalRecord r = .ok c) (ht : r.Times i j k) : c.Times i j k := by
  simp only [canonicalRecord, bind_eq_ok, pure_eq_ok] at h
  obtain ⟨createdAt, hcreated, updatedAt, hupdated, expiresAt, hexpires, leaseExpiresAt, hlease, rfl⟩ := h
  refine ⟨(instant_of_rfc3339 hcreated).trans ht.created, (instant_of_rfc3339 hupdated).trans ht.updated,
    (instant_of_rfc3339 hexpires).trans ht.expires, ht.created_le, ht.created_lt, ht.live, ht.overdue, ?_⟩
  rintro text rfl
  cases hraw : r.leaseExpiresAt with
  | none =>
    rw [hraw] at hlease
    cases hlease
  | some raw =>
    rw [hraw] at hlease
    simp only [optionalCanonical, bind_eq_ok, pure_eq_ok, Option.some.injEq] at hlease
    obtain ⟨_, hcanonical, rfl⟩ := hlease
    rw [instant_of_rfc3339 hcanonical]
    exact ht.lease raw hraw

theorem leased_canonical {o p : Option Str} (h : optionalCanonical o = .ok p) : p.isSome = o.isSome := by
  cases o with
  | none =>
    cases h
    rfl
  | some raw =>
    simp only [optionalCanonical, bind_eq_ok, pure_eq_ok] at h
    obtain ⟨_, -, rfl⟩ := h
    rfl

theorem shape_lease (r : GateSessionRecord) {p : Option Str} (h : p.isSome = r.leaseExpiresAt.isSome) :
    ({ r with leaseExpiresAt := p } : GateSessionRecord).validateRecordShape = r.validateRecordShape := by
  have hnone : p = none ↔ r.leaseExpiresAt = none := by
    rw [← Option.not_isSome_iff_eq_none, ← Option.not_isSome_iff_eq_none, h]
  have hstatus : ({ r with leaseExpiresAt := p } : GateSessionRecord).checkStatus = r.checkStatus := by
    unfold GateSessionRecord.checkStatus
    dsimp only
    rw [h]
    rfl
  have hlease : ({ r with leaseExpiresAt := p } : GateSessionRecord).checkLeasePresence = r.checkLeasePresence := by
    unfold GateSessionRecord.checkLeasePresence
    simp only [h, hnone]
  rw [GateSessionRecord.validateRecordShape, hstatus, hlease]
  rfl

theorem check_canonical (h : canonicalRecord r = .ok c) (hr : r.check = .ok ()) : c.check = .ok () := by
  obtain ⟨hidentity, htimes, hevidence, hshape⟩ := GateSessionRecord.check_iff.mp hr
  obtain ⟨i, j, k, ht⟩ := GateSessionRecord.checkTimes_iff.mp htimes
  have hcanonical := times_canonical h ht
  simp only [canonicalRecord, bind_eq_ok, pure_eq_ok] at h
  obtain ⟨createdAt, -, updatedAt, -, expiresAt, -, leaseExpiresAt, hlease, rfl⟩ := h
  exact GateSessionRecord.check_iff.mpr ⟨hidentity, GateSessionRecord.checkTimes_iff.mpr ⟨i, j, k, hcanonical⟩,
    hevidence, (shape_lease r (leased_canonical hlease)).trans hshape⟩

end Canonical

section Sizes

variable {codec : FloatCodec} {c : GateSessionRecord}

theorem brief_of_required {limit : Nat} {value name : Str} (h : requiredText limit value name = .ok ()) :
    Brief limit value := (requiredText_iff.mp h).2

theorem brief_of_ascii {limit : Nat} {value : Str} (h : ascii value = true) (hlength : value.length ≤ limit) :
    Brief limit value := ⟨hlength, Projection.encodedBytes_isSome.mpr (EventContract.clean_of_ascii h)⟩

theorem brief_of_canonical {value : Str} (h : CanonicalText value) : Brief 128 value := by
  have hascii := ascii_canonical h
  obtain ⟨i, -, rfl⟩ := h
  exact brief_of_ascii hascii ((length_isoformat i).trans (by decide))

theorem brief_of_fingerprint {value : Str} (h : isDigest value = true) : Brief 128 value := by
  have hlength : value.length = 71 := by
    rw [isDigest, Bool.and_eq_true, Bool.and_eq_true] at h
    exact of_decide_eq_true h.1.1
  exact ⟨hlength.le.trans (by decide), (Migration.ascii_of_digest h).utf8⟩

variable {floatText : Double → Str} {depth : Nat}

theorem carried_text {n : Nat} {value name : Str} (h : requiredText n value name = .ok ()) :
    Carried floatText depth (n * 6 + 4) 1 (.str value) :=
  (Json.carried_str (brief_of_required h)).mono (Nat.add_le_add_left (by decide) _)

theorem carried_optional {n : Nat} {value : Option Str} (h : ∀ v ∈ value, Brief n v) :
    Carried floatText depth (n * 6 + 4) 1 (jsonOptional value) := by
  cases value with
  | none => exact Json.carried_null
  | some v => exact (Json.carried_str (h v rfl)).mono (Nat.add_le_add_left (by decide) _)

theorem carried_identifiers {values : List Str} {name : Str} {maxItems : Nat}
    (h : identifierTuple values name maxItems = .ok ()) :
    Carried floatText (depth + 1) (maxItems * (128 * 6 + 3) + 2) (maxItems + 1) (.arr (values.map .str)) := by
  simp only [identifierTuple, bind_eq_ok, exists_unit, raiseIf_eq_ok, not_lt, checkEach_eq_ok] at h
  exact Json.carried_strings h.1 fun v hv => brief_of_required (h.2.1 v hv)

def shortBudget : Nat × Nat := (128 * 6 + 4, 1)

def fieldBudgets : List (Nat × Nat) :=
  List.replicate 9 shortBudget ++ [(512 * 6 + 4, 1), shortBudget, (Json.intMaxStrDigits + 1, 1)] ++
    List.replicate 6 shortBudget ++ [(100 * (128 * 6 + 3) + 2, 101), shortBudget, (50 * (128 * 6 + 3) + 2, 51)] ++
    List.replicate 3 shortBudget ++ [(2000 * 6 + 4, 1)]

theorem fields_carried (h : c.check = .ok ()) (ht : CanonicalTimes c)
    (hdigits : (decimal c.version).length ≤ Json.intMaxStrDigits) :
    List.Forall₂ (FieldCarried floatText 1) (serializedFields c) fieldBudgets := by
  obtain ⟨hidentity, -, hevidence, -⟩ := GateSessionRecord.check_iff.mp h
  simp only [GateSessionRecord.checkIdentity, bind_eq_ok, exists_unit, raiseIf_eq_ok, Bool.not_eq_false,
    checkEach_eq_ok, List.forall_mem_cons] at hidentity
  obtain ⟨⟨hsession, htenant, hrepository, hprincipal, hclient, htrace, hrun, -⟩, hfingerprint, hkey, -⟩ := hidentity
  simp only [GateSessionRecord.checkEvidence, bind_eq_ok, exists_unit] at hevidence
  obtain ⟨hretrieval, hsystem, hattempts, hdecision, hrevisions, hinjection, husage, houtcome, hreason⟩ := hevidence
  have fixed {value : Str} (hv : Brief 128 value) : Carried floatText 1 (128 * 6 + 4) 1 (.str value) :=
    (Json.carried_str hv).mono (Nat.add_le_add_left (by decide) _)
  have optional {value : Option Str} {name : Str} (hv : optionalIdentifier value name = .ok ()) :
      Carried floatText 1 (128 * 6 + 4) 1 (jsonOptional value) := by
    refine carried_optional fun v hmem => ?_
    obtain rfl := Option.mem_def.mp hmem
    exact brief_of_required hv
  have hreasoned : ∀ v ∈ c.terminalReason, Brief 2000 v := by
    intro v hv
    rw [Option.mem_def.mp hv] at hreason
    exact brief_of_required hreason
  have hversion : Brief 128 contractVersion := brief_of_ascii (by decide) (by decide)
  have hstatus : Brief 128 c.status.text := by cases c.status <;> exact brief_of_ascii (by decide) (by decide)
  have hnumber : Carried floatText 1 (Json.intMaxStrDigits + 1) 1 (jsonInt c.version) := Json.carried_int hdigits
  simp only [serializedFields, fieldBudgets, shortBudget, FieldCarried, List.replicate, List.cons_append,
    List.nil_append, List.forall₂_cons, List.forall₂_nil_left_iff]
  exact ⟨fixed hversion, carried_text hsession, carried_text htenant, carried_text hrepository,
    carried_text hprincipal, carried_text hclient, carried_text htrace, carried_text hrun,
    fixed (brief_of_fingerprint hfingerprint), carried_text hkey, fixed hstatus, hnumber,
    fixed (brief_of_canonical ht.created), fixed (brief_of_canonical ht.updated), fixed (brief_of_canonical ht.expires),
    carried_optional fun v hv => brief_of_canonical (ht.lease v hv), optional hretrieval, optional hsystem,
    carried_identifiers hattempts, optional hdecision, carried_identifiers hrevisions, optional hinjection,
    optional husage, optional houtcome, carried_optional hreasoned, trivial⟩

theorem names_brief : ∀ name ∈ fieldNames, Brief 40 name := by
  have hall : fieldNames.all (fun name => ascii name && decide (name.length ≤ 40)) = true := by decide +kernel
  intro name hname
  have hname := List.all_eq_true.mp hall name hname
  rw [Bool.and_eq_true, decide_eq_true_eq] at hname
  exact brief_of_ascii hname.1 hname.2

theorem serialized_carried (h : c.check = .ok ()) (ht : CanonicalTimes c)
    (hdigits : (decimal c.version).length ≤ Json.intMaxStrDigits) :
    Carried floatText 2 (gateSessionMaxBytes / 4) 10000 (serialized c) := by
  have hnames : ∀ f ∈ serializedFields c, Brief 40 f.1 := fun f hf => names_brief _ (List.mem_map_of_mem hf)
  have hfields : List.Forall₂ (FieldCarried floatText 1) (serializedFields c) fieldBudgets :=
    fields_carried h ht hdigits
  have hcarried := Json.carried_obj (serializedKeys_nodup c) hnames hfields
  exact ⟨hcarried.portable, hcarried.slim.mono (by decide), hcarried.nodes.trans (by decide)⟩

end Sizes

section RoundTrip

variable {codec : FloatCodec} {s t : GateSession} {c : GateSessionRecord} {text : Str}

theorem loads_serialized (h : c.check = .ok ()) (ht : CanonicalTimes c)
    (hdigits : (decimal c.version).length ≤ Json.intMaxStrDigits) :
    loadsGateSession codec (.text (Json.canonicalText codec.repr (serialized c))) = .ok ⟨c, h⟩ := by
  have hcarried : Carried codec.repr 2 (gateSessionMaxBytes / 4) 10000 (serialized c) := serialized_carried h ht hdigits
  have hshaped : (serialized c).shaped anyOrder textualNumber anyKey = true :=
    Json.shaped_imp (fun _ _ _ => rfl) (fun n hn => by cases n <;> exact hn) (fun _ _ => rfl) _ hcarried.portable.shaped
  have htext : Json.encodes (Json.canonicalText codec.repr (serialized c)) = true :=
    Projection.encodedBytes_isSome.mpr (EventContract.canonicalText_clean hshaped hcarried.portable.clean)
  obtain ⟨bytes, hbytes, hbound⟩ := Json.encodedBytes_le htext hcarried.slim
  have hfits : bytes ≤ gateSessionMaxBytes := hbound.trans (by decide)
  have hparsed : Json.parseBoundedJson gateSessionBounds codec (Json.canonicalText codec.repr (serialized c)) =
      .ok (.obj (sortedFields c)) := hcarried.portable.loads (by decide) hcarried.nodes
  rw [loads_text, loadsSessionText_parsed hbytes hfits hparsed, parseGateSession_sameFields (sameFields_sorted c)]
  exact GateSessionRecord.build_eq_ok.mpr rfl

theorem dumps_eq_ok : dumpsGateSession codec s = .ok text ↔
    ∃ c, canonicalRecord s.toGateSessionRecord = .ok c ∧ (decimal s.version).length ≤ Json.intMaxStrDigits ∧
      text = Json.canonicalText codec.repr (serialized c) := by
  simp only [dumpsGateSession, toDict, bind_eq_ok, exists_unit, raiseIf_eq_ok, not_lt, pure_eq_ok]
  constructor
  · rintro ⟨_, ⟨c, hc, rfl⟩, hdigits, rfl⟩
    exact ⟨c, hc, hdigits, rfl⟩
  · rintro ⟨c, hc, hdigits, rfl⟩
    exact ⟨_, ⟨c, hc, rfl⟩, hdigits, rfl⟩

theorem version_canonical {r : GateSessionRecord} (h : canonicalRecord r = .ok c) : c.version = r.version := by
  simp only [canonicalRecord, bind_eq_ok, pure_eq_ok] at h
  obtain ⟨_, -, _, -, _, -, _, -, rfl⟩ := h
  rfl

theorem loads_dumped (h : dumpsGateSession codec s = .ok text) :
    ∃ t, loadsGateSession codec (.text text) = .ok t ∧
      canonicalRecord s.toGateSessionRecord = .ok t.toGateSessionRecord ∧ dumpsGateSession codec t = .ok text := by
  obtain ⟨c, hc, hdigits, rfl⟩ := dumps_eq_ok.mp h
  have htimes := canonicalRecord_times hc
  have hversion := version_canonical hc
  rw [← hversion] at hdigits
  exact ⟨⟨c, check_canonical hc s.valid⟩, loads_serialized (check_canonical hc s.valid) htimes hdigits, hc,
    dumps_eq_ok.mpr ⟨c, canonicalRecord_canonical htimes, hdigits, rfl⟩⟩

theorem eq_iff_canonical (h : canonicalRecord s.toGateSessionRecord = .ok t.toGateSessionRecord) :
    t = s ↔ CanonicalTimes s.toGateSessionRecord := by
  constructor
  · rintro rfl
    exact canonicalRecord_times h
  · intro htimes
    have hsame := Except.ok.inj (h.symm.trans (canonicalRecord_canonical htimes))
    cases s
    cases t
    cases hsame
    rfl

end RoundTrip

section Datable

-- a time with an offset that its canonical form in UTC can be written for
def Datable (text : Str) : Prop := ∃ i, GateSession.instant text = .ok i ∧ Representable i

def timestamps (r : GateSessionRecord) : List Str :=
  [r.createdAt, r.updatedAt, r.expiresAt] ++ r.leaseExpiresAt.toList

theorem datable_iff {text : Str} : (∃ c, canonicalRfc3339 text = .ok c) ↔ Datable text := by
  constructor
  · rintro ⟨c, hc⟩
    have hopen := hc
    simp only [canonicalRfc3339, bind_eq_ok] at hopen
    obtain ⟨i, hi, -⟩ := hopen
    exact ⟨i, hi, ((canonicalRfc3339_eq_ok hi).mp hc).1⟩
  · rintro ⟨i, hi, hrange⟩
    exact ⟨_, (canonicalRfc3339_eq_ok hi).mpr ⟨hrange, rfl⟩⟩

theorem optional_datable_iff {o : Option Str} : (∃ c, optionalCanonical o = .ok c) ↔ ∀ text ∈ o.toList, Datable text := by
  cases o with
  | none => exact ⟨fun _ => List.forall_mem_nil _, fun _ => ⟨none, rfl⟩⟩
  | some text =>
    simp only [optionalCanonical, bind_eq_ok, pure_eq_ok, Option.toList_some, List.forall_mem_singleton, ← datable_iff]
    constructor
    · rintro ⟨_, c, hc, -⟩
      exact ⟨c, hc⟩
    · rintro ⟨c, hc⟩
      exact ⟨_, c, hc, rfl⟩

theorem canonicalRecord_iff {r : GateSessionRecord} :
    (∃ c, canonicalRecord r = .ok c) ↔ ∀ text ∈ timestamps r, Datable text := by
  simp only [timestamps, List.cons_append, List.nil_append, List.forall_mem_cons, ← optional_datable_iff,
    canonicalRecord, bind_eq_ok, pure_eq_ok]
  simp only [← datable_iff]
  constructor
  · rintro ⟨_, c, hc, u, hu, e, he, l, hl, -⟩
    exact ⟨⟨c, hc⟩, ⟨u, hu⟩, ⟨e, he⟩, ⟨l, hl⟩⟩
  · rintro ⟨⟨c, hc⟩, ⟨u, hu⟩, ⟨e, he⟩, ⟨l, hl⟩⟩
    exact ⟨_, c, hc, u, hu, e, he, l, hl, rfl⟩

end Datable

section Laws

theorem gate_session_round_trip (codec : FloatCodec) :
    (∀ s : GateSession, (∃ text, dumpsGateSession codec s = .ok text) ↔
      (∀ text ∈ timestamps s.toGateSessionRecord, Datable text) ∧
        (decimal s.version).length ≤ Json.intMaxStrDigits) ∧
    (∀ (s : GateSession) (text : Str), dumpsGateSession codec s = .ok text →
      ∃ t, loadsGateSession codec (.text text) = .ok t ∧
        canonicalRecord s.toGateSessionRecord = .ok t.toGateSessionRecord ∧
        (t = s ↔ CanonicalTimes s.toGateSessionRecord) ∧ dumpsGateSession codec t = .ok text) ∧
    ∀ (source : Str) (content : List UInt8), encodeUtf8 source = some content →
      content.length ≤ gateSessionMaxBytes →
      loadsGateSession codec (.bytes content) = loadsGateSession codec (.text source) := by
  refine ⟨fun s => ?_, fun s text h => ?_, fun source content => loads_bytes⟩
  · rw [← canonicalRecord_iff]
    constructor
    · rintro ⟨text, htext⟩
      obtain ⟨c, hc, hdigits, -⟩ := dumps_eq_ok.mp htext
      exact ⟨⟨c, hc⟩, hdigits⟩
    · rintro ⟨⟨c, hc⟩, hdigits⟩
      exact ⟨_, dumps_eq_ok.mpr ⟨c, hc, hdigits, rfl⟩⟩
  · obtain ⟨t, hloads, hcanonical, hagain⟩ := loads_dumped h
    exact ⟨t, hloads, hcanonical, eq_iff_canonical hcanonical, hagain⟩

def offsetCreated : Str := lit "2026-07-27T08:00:00+08:00"

def offsetExpires : Str := lit "2026-07-27T09:00:00+08:00"

theorem offset_session_rewritten : ∃ s, createGateSession sampleIdentity offsetCreated offsetExpires = .ok s ∧
    ∃ text, dumpsGateSession EventContract.sampleFloats s = .ok text ∧
      loadsGateSession EventContract.sampleFloats (.text text) ≠ .ok s := by
  have hcreated : (createGateSession sampleIdentity offsetCreated offsetExpires).toBool = true := by decide +kernel
  obtain ⟨s, hs⟩ : ∃ s, createGateSession sampleIdentity offsetCreated offsetExpires = .ok s := by
    cases hcase : createGateSession sampleIdentity offsetCreated offsetExpires with
    | ok s => exact ⟨s, rfl⟩
    | error e =>
      rw [hcase] at hcreated
      cases hcreated
  have hrecord := record_created hs
  have hdates : Datable offsetCreated ∧ Datable offsetExpires :=
    ⟨datable_iff.mp ⟨lit "2026-07-27T00:00:00Z", by decide⟩, datable_iff.mp ⟨lit "2026-07-27T01:00:00Z", by decide⟩⟩
  obtain ⟨c, hc⟩ : ∃ c, canonicalRecord s.toGateSessionRecord = .ok c := by
    refine canonicalRecord_iff.mpr ?_
    rw [hrecord]
    exact List.forall_mem_cons.mpr ⟨hdates.1, List.forall_mem_cons.mpr ⟨hdates.1, List.forall_mem_singleton.mpr hdates.2⟩⟩
  have hversion : s.version = 1 := congrArg GateSessionRecord.version hrecord
  have hdumps : dumpsGateSession EventContract.sampleFloats s =
      .ok (Json.canonicalText EventContract.sampleFloats.repr (serialized c)) :=
    dumps_eq_ok.mpr ⟨c, hc, by rw [hversion]; decide, rfl⟩
  refine ⟨s, hs, _, hdumps, fun hloads => ?_⟩
  obtain ⟨t, ht, hcanonical, -⟩ := loads_dumped hdumps
  obtain rfl := Except.ok.inj (ht.symm.trans hloads)
  have hcreatedAt : t.createdAt = offsetCreated := congrArg GateSessionRecord.createdAt hrecord
  have hself := canonicalRfc3339_canonical ((eq_iff_canonical hcanonical).mp rfl).created
  rw [hcreatedAt] at hself
  exact absurd hself (by decide)

end Laws

end GateEvents

end TraceBackedMemory
