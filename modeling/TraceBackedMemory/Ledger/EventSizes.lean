import TraceBackedMemory.Ledger.EventBuilding
import TraceBackedMemory.Ledger.Interleaving

namespace TraceBackedMemory

open Text Raising Json OrderBy

open GateEvents (keysAre)

namespace EventContract

variable {codec : FloatCodec} {hash : TextHash}

section Lengths

theorem length_le_encodedBytes {s : Str} {n : Nat} (h : encodedBytes s = some n) : s.length ≤ n := by
  rw [encodedBytes] at h
  split at h
  · cases h
  · cases h
    refine le_trans (length_le_sum (f := utf8Length) (fun c => ?_) s) (le_refl _)
    unfold utf8Length
    split_ifs <;> omega

theorem length_le_flatMap {f : CodePoint → Str} (h : ∀ c, f c ≠ []) (s : Str) : s.length ≤ (s.flatMap f).length := by
  induction s with
  | nil => exact Nat.zero_le _
  | cons c s ih =>
    have hc := List.length_pos_iff.mpr (h c)
    rw [List.flatMap_cons, List.length_append, List.length_cons]
    omega

theorem length_le_quoted (s : Str) : s.length ≤ (quoted s).length := by
  have hescape (c : CodePoint) : escapeControl c ≠ [] := by
    unfold escapeControl
    split
    · exact List.cons_ne_nil _ _
    · split
      · exact List.cons_ne_nil _ _
      · exact List.cons_ne_nil _ _
  have hbody := length_le_flatMap hescape s
  rw [quoted, List.length_cons, List.length_append]
  omega

theorem length_le_joinComma {l : List Str} {t : Str} (h : t ∈ l) : t.length ≤ (joinComma l).length := by
  cases l with
  | nil => cases h
  | cons u l =>
    rw [joinComma, List.length_append]
    rcases List.mem_cons.mp h with rfl | h
    · exact Nat.le_add_right _ _
    · have hmem := (List.sublist_flatten_of_mem (List.mem_map_of_mem (f := fun v => (44 : CodePoint) :: v) h)).length_le
      rw [← List.flatMap_def, List.length_cons] at hmem
      omega

theorem length_le_canonicalText {floatText : Double → Str} {fields : Fields} {name s : Str}
    (h : (name, .str s) ∈ fields) : s.length ≤ (canonicalText floatText (.obj fields)).length := by
  have hmem : quoted name ++ 58 :: canonicalText floatText (.str s) ∈
      (orderBy Prod.fst (fields.map (fun field => (field.1, canonicalText floatText field.2)))).map
        (fun field => quoted field.1 ++ 58 :: field.2) :=
    List.mem_map.mpr ⟨_, mem_orderBy.mpr (List.mem_map_of_mem h), rfl⟩
  have hpiece := length_le_joinComma hmem
  have hquoted := length_le_quoted s
  rw [List.length_append, List.length_cons, canonicalText] at hpiece
  rw [canonicalText, fieldTexts_eq, List.length_cons, List.length_append]
  omega

end Lengths

section EventTypes

def withEventType (f : EventFields) (eventType eventSha256 : Str) : EventFields :=
  { f with eventType := eventType, eventSha256 := eventSha256 }

theorem mem_entries_withEventType {f : EventFields} {t s : Str} {field : Str × Json}
    (h : field ∈ (withEventType f t s).entries) : field = (lit "event_type", .str t) ∨ field ∈ f.entries := by
  have hset : (withEventType f t s).entries = f.entries.set 2 (lit "event_type", .str t) := rfl
  rw [hset] at h
  exact (List.mem_or_eq_of_mem_set h).symm

theorem checkEnvelope_withEventType {f : EventFields} {p : EventParts} (h : checkEnvelope f = .ok p) {t s : Str}
    (ht : Projection.isEventType t = true) (hs : validDigest s = true) :
    checkEnvelope (withEventType f t s) = .ok p := by
  simp only [checkEnvelope, bind_eq_ok, exists_unit, raiseIf_eq_ok, pure_eq_ok, ne_eq, not_not, digest,
    Bool.not_eq_false] at h ⊢
  obtain ⟨hprotocol, hid, -, -, hrest⟩ := h
  exact ⟨hprotocol, hid, hs, ht, hrest⟩

theorem canonicalBytes_withEventType {f : EventFields} {bytes : Nat}
    (h : canonicalBytes codec.repr f.unsigned = some bytes) {t s : Str} (ht : Json.encodes t = true) :
    ∃ bytes, canonicalBytes codec.repr (withEventType f t s).unsigned = some bytes := by
  obtain ⟨hnumbers, -, hclean⟩ := canonicalBytes_sound h
  obtain ⟨-, hfields⟩ := shaped_obj.mp hnumbers
  have hname : Json.encodes (lit "event_type") = true := by decide +kernel
  have hshaped : shaped anyOrder textualNumber anyKey (withEventType f t s).unsigned = true := by
    refine shaped_obj.mpr ⟨List.pairwise_of_forall fun _ _ => rfl, fun field hf => ?_⟩
    rcases mem_entries_withEventType hf with rfl | hf
    · exact ⟨rfl, rfl⟩
    · exact hfields field hf
  have hencodes : clean Json.encodes (withEventType f t s).unsigned = true := by
    refine cleanFields_iff.mpr fun field hf => ?_
    rcases mem_entries_withEventType hf with rfl | hf
    · exact ⟨hname, ht⟩
    · exact cleanFields_iff.mp hclean field hf
  rw [canonicalBytes, if_pos hshaped, ← Option.isSome_iff_exists, Projection.encodedBytes_isSome]
  exact canonicalText_clean hshaped hencodes

theorem newCanonicalEvent_withEventType {f : EventFields} {e : CanonicalEvent (hash.canonical codec)}
    (h : newCanonicalEvent codec hash f = .ok e) {t s : Str} (ht : Projection.isEventType t = true)
    (hencodes : Json.encodes t = true)
    (hs : s = (hash.canonical codec).domain eventDomain (withEventType f t []).unsigned) :
    ∃ e', newCanonicalEvent codec hash (withEventType f t s) = .ok e' := by
  obtain ⟨⟨p, hp, -⟩, hpayload, hsha, ⟨_, hbytes⟩, -⟩ := newCanonicalEvent_eq_ok.mp h
  have hdigest : validDigest s = true := hs ▸ Sha256.validDigest_domain _ _ _
  have hparts := checkEnvelope_withEventType hp ht hdigest
  have hsigned : s = canonicalEventSha256 (hash.canonical codec) ((withEventType f t s).envelope p) := by
    rw [canonicalEventSha256, unsigned_of_checked hparts]
    exact hs
  exact ⟨⟨(withEventType f t s).envelope p, s, hsigned, p.version_bounds, p.position_bounds, p.first_parent⟩,
    newCanonicalEvent_eq_ok.mpr ⟨⟨p, hparts, rfl⟩, hpayload, hsha, canonicalBytes_withEventType hbytes hencodes, rfl⟩⟩

-- an event type of any length is taken
theorem build_withEventType {a : EventArguments} {e : CanonicalEvent (hash.canonical codec)}
    (h : buildCanonicalEvent codec hash a = .ok e) {t : Str} (ht : Projection.isEventType t = true)
    (hencodes : Json.encodes t = true) :
    ∃ e' text, buildCanonicalEvent codec hash { a with eventType := t } = .ok e' ∧
      dumpsCanonicalEvent e' = .ok text ∧ t.length ≤ text.length := by
  obtain ⟨hlength, hnodup, occurredAt, recordedAt, hoccurred, hrecorded, hnew⟩ := buildCanonicalEvent_eq_ok.mp h
  have hsigned : ({ a with eventType := t } : EventArguments).signed codec hash occurredAt recordedAt =
      withEventType (a.signed codec hash occurredAt recordedAt) t
        (({ a with eventType := t } : EventArguments).signed codec hash occurredAt recordedAt).eventSha256 := rfl
  obtain ⟨e', hnew'⟩ : ∃ e', newCanonicalEvent codec hash
      (({ a with eventType := t } : EventArguments).signed codec hash occurredAt recordedAt) = .ok e' := by
    rw [hsigned]
    exact newCanonicalEvent_withEventType hnew ht hencodes rfl
  have haccepted := newCanonicalEvent_eq_ok.mp hnew'
  refine ⟨e', _, buildCanonicalEvent_eq_ok.mpr ⟨hlength, hnodup, occurredAt, recordedAt, hoccurred, hrecorded, hnew'⟩,
    dumps_of_accepted haccepted, ?_⟩
  rw [signedDict_eq haccepted]
  exact length_le_canonicalText (List.mem_of_getElem? (i := 2) rfl)

theorem isEventType_of_segments {first : Str} {rest : List Str} (hfirst : Projection.eventTypeSegment first = true)
    (hne : rest ≠ []) (hrest : rest.all Projection.eventTypeSegment = true)
    (hdots : ∀ s ∈ lit "tbm" :: first :: rest, cp '.' ∉ s) :
    Projection.isEventType ([cp '.'].intercalate (lit "tbm" :: first :: rest)) = true := by
  rw [Projection.isEventType, List.splitOn_intercalate _ hdots (List.cons_ne_nil _ _)]
  simp [hfirst, hne, hrest]

end EventTypes

section Oversized

def sampleFloats : FloatCodec where
  repr x := decimal x.bits.toNat ++ lit ".0"
  float s := ⟨BitVec.ofNat 64 ((parseDigits (s.takeWhile isNumeral)).getD 0)⟩
  formed x _ := by
    refine ⟨⟨[], decimal x.bits.toNat, lit ".0"⟩, ⟨.inl rfl, isWhole_decimal _, lit ".0", [], .inr ⟨lit "0", ?_, rfl⟩,
      .inl rfl, rfl⟩, List.cons_ne_nil _ _, rfl⟩
    exact ⟨List.cons_ne_nil _ _, fun c hc => by rw [List.mem_singleton.mp hc]; rfl⟩
  float_repr x _ := by
    have htake : (decimal x.bits.toNat ++ lit ".0").takeWhile isNumeral = decimal x.bits.toNat :=
      takeWhile_numerals (fun c hc => isNumeral_of_mem_decimal hc) (fun c hc => by cases hc; rfl)
    have hdigits : parseDigits (decimal x.bits.toNat) = some x.bits.toNat := by
      simpa [padded] using parseDigits_padded 0 x.bits.toNat
    rw [htake, hdigits, Option.getD_some, BitVec.ofNat_toNat, BitVec.setWidth_eq]

def sampleTexts : TextHash where
  hexdigest s :=
    let sum := s.foldl (fun a c => a * 257 + c.val + 1) 0
    (List.range 64).map (fun i => hexDigit (sum / 16 ^ i % 16))
  length_hexdigest s := by simp
  hex_hexdigest s := by
    simp only [List.all_map, List.all_eq_true]
    intro i _
    exact isLowerHex_hexDigit (Nat.mod_lt _ (by decide))

def sampleArguments (eventType : Str) : EventArguments where
  eventId := lit "evt_sample"
  eventType := eventType
  eventVersion := 1
  eventKind := .str (lit "domain")
  origin := .str (lit "native")
  source := none
  streamId := lit "stream-1"
  streamType := lit "sample"
  streamVersion := 1
  globalPosition := 1
  trustedContext := ⟨lit "org_1", lit "tenant_1", lit "repo_1", lit "env_1", lit "principal_1", lit "client_1",
    .service, lit "service_1", lit "authorization_1"⟩
  requestId := lit "request-1"
  idempotencyKeySha256 := sampleDigest 'a'
  requestSha256 := sampleDigest 'b'
  correlationId := lit "correlation-1"
  causationId := none
  occurredAt := some (lit "2024-05-01T12:00:00Z")
  recordedAt := lit "2024-05-01T12:00:00Z"
  producer := lit "sample"
  producerVersion := lit "1.0"
  payloadSchema := lit "tbm.sample.recorded.v1"
  previousStreamEventSha256 := none
  classification := .str (lit "internal")
  retentionPolicyId := lit "retention-1"
  artifactRefs := []
  payload := ⟨.obj [], rfl⟩

def longEventType : Str :=
  [cp '.'].intercalate [lit "tbm", List.replicate eventJsonMaxBytes (cp 'a'), lit "b"]

theorem longEventType_eq :
    longEventType = lit "tbm." ++ (List.replicate eventJsonMaxBytes (cp 'a') ++ lit ".b") := by
  rw [longEventType, List.intercalate_cons_cons, List.intercalate_cons_cons, List.intercalate_singleton]
  rw [show lit "tbm." = lit "tbm" ++ [cp '.'] from rfl, show lit ".b" = [cp '.'] ++ lit "b" from rfl]
  simp only [List.append_assoc]

theorem isEventType_longEventType : Projection.isEventType longEventType = true := by
  have hletter : Projection.eventTypeSegment (List.replicate eventJsonMaxBytes (cp 'a')) = true := by
    have hcons : List.replicate eventJsonMaxBytes (cp 'a') = cp 'a' :: List.replicate (2 ^ 20 - 1) (cp 'a') := rfl
    rw [hcons, Projection.eventTypeSegment, Bool.and_eq_true, List.all_replicate]
    decide
  refine isEventType_of_segments hletter (List.cons_ne_nil _ _) (by decide) ?_
  intro s hs hdot
  rcases List.mem_cons.mp hs with rfl | hs
  · revert hdot
    decide
  · rcases List.mem_cons.mp hs with rfl | hs
    · exact absurd (List.eq_of_mem_replicate hdot) (by decide)
    · obtain rfl := List.mem_singleton.mp hs
      revert hdot
      decide

theorem built_sampleArguments :
    (buildCanonicalEvent sampleFloats sampleTexts (sampleArguments (lit "tbm.sample.recorded"))).isOk = true := by
  decide +kernel

theorem encodes_longEventType : Json.encodes longEventType = true := by
  rw [Json.encodes, Projection.encodedBytes_isSome]
  have hletters : ascii (List.replicate eventJsonMaxBytes (cp 'a')) = true :=
    List.all_eq_true.mpr fun c hc => by
      rw [List.eq_of_mem_replicate hc]
      rfl
  rw [longEventType_eq, Projection.clean_append, Projection.clean_append]
  exact ⟨clean_of_ascii (s := lit "tbm.") rfl, clean_of_ascii hletters, clean_of_ascii (s := lit ".b") rfl⟩

theorem length_longEventType : eventJsonMaxBytes < longEventType.length := by
  rw [longEventType_eq, List.length_append, List.length_append, List.length_replicate]
  have hroot : (lit "tbm.").length = 4 := rfl
  omega

theorem longEvent_refused : ∃ e text,
    buildCanonicalEvent sampleFloats sampleTexts (sampleArguments longEventType) = .ok e ∧
      dumpsCanonicalEvent e = .ok text ∧
        loadsCanonicalEvent sampleFloats sampleTexts (.text text) =
          .error (invalidJson "canonical event JSON exceeds byte limit") := by
  obtain ⟨e, he⟩ : ∃ e, buildCanonicalEvent sampleFloats sampleTexts
      (sampleArguments (lit "tbm.sample.recorded")) = .ok e := by
    have hbuilt := built_sampleArguments
    revert hbuilt
    cases buildCanonicalEvent sampleFloats sampleTexts (sampleArguments (lit "tbm.sample.recorded")) with
    | error f =>
      intro h
      cases h
    | ok e => exact fun _ => ⟨e, rfl⟩
  obtain ⟨e', text, hbuilt, hdumps, hlength⟩ :=
    build_withEventType he isEventType_longEventType encodes_longEventType
  refine ⟨e', text, hbuilt, hdumps, ?_⟩
  obtain ⟨-, -, occurredAt, recordedAt, -, -, hnew⟩ := buildCanonicalEvent_eq_ok.mp hbuilt
  have haccepted := newCanonicalEvent_eq_ok.mp hnew
  obtain ⟨bytes, hbytes⟩ := encodes_dumps haccepted
  have htext := Except.ok.inj ((dumps_of_accepted haccepted).symm.trans hdumps)
  rw [htext] at hbytes
  exact loads_too_long hbytes (lt_of_lt_of_le length_longEventType (hlength.trans (length_le_encodedBytes hbytes)))

end Oversized

end EventContract

end TraceBackedMemory
