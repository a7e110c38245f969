import TraceBackedMemory.Ledger.EventRoundTrip

namespace TraceBackedMemory

open Text Raising Json OrderBy

open GateEvents (keysAre)

namespace EventContract

variable {codec : FloatCodec} {hash : TextHash}

section Documents

theorem forall_entries {f : EventFields} (hf : Checked f) {P : Json → Prop} (str : ∀ s, P (.str s))
    (int : ∀ n, P (.num (.int n))) (null : P .null) (source : ∀ s ∈ f.source, P s.val.toDict)
    (refs : P (.arr ((f.artifactRefs.map Subtype.val).map EventArtifactRef.toDict)))
    (payload : P f.payload) : ∀ field ∈ signedEntries f, P field.2 := by
  have hoptional (o : Option Str) : P (jsonOptional o) := by
    cases o with
    | none => exact null
    | some s => exact str s
  have hsource : P ((f.source.map Subtype.val).elim .null EventSource.toDict) := by
    cases h : f.source with
    | none => exact null
    | some s => exact source s h
  obtain ⟨kind, hkind⟩ := hf.kind
  obtain ⟨origin, horigin⟩ := hf.origin
  obtain ⟨actor, hactor⟩ := hf.actor
  obtain ⟨classification, hclassification⟩ := hf.classification
  simp only [signedEntries, EventFields.entries, List.cons_append, List.nil_append, List.forall_mem_cons,
    List.not_mem_nil, false_implies, implies_true, hkind, horigin, hactor, hclassification, str,
    int, hoptional, hsource, refs, payload, and_self]

theorem size_str (s : Str) : size (.str s) = 1 := rfl

theorem size_int (n : Int) : size (.num (.int n)) = 1 := rfl

theorem size_obj (fields : Fields) : size (.obj fields) = 1 + (fields.map (fun field => size field.2)).sum := by
  rw [size, sizeFields_eq]

theorem size_jsonOptional (o : Option Str) : size (jsonOptional o) = 1 := by
  cases o <;> rfl

theorem size_artifactRefs (refs : List EventArtifactRef) :
    size (.arr (refs.map EventArtifactRef.toDict)) = 1 + 9 * refs.length := by
  rw [size, sizeItems_eq, List.map_map]
  congr 1
  induction refs with
  | nil => rfl
  | cons a refs ih =>
    have ha : size a.toDict = 9 := by
      simp only [EventArtifactRef.toDict, size, sizeFields, jsonInt, size_jsonOptional]
    rw [List.map_cons, List.sum_cons, ih, Function.comp_apply, ha, List.length_cons]
    omega

theorem size_source (s : Option EventSource) : size (s.elim .null EventSource.toDict) ≤ 5 := by
  cases s with
  | none => decide
  | some s => exact le_of_eq (by simp only [Option.elim_some, EventSource.toDict, size, sizeFields])

theorem size_signed {f : EventFields} (hf : Checked f) :
    size (.obj (signedEntries f)) ≤ 35 + 5 + (1 + 9 * f.artifactRefs.length) + size f.payload := by
  obtain ⟨kind, hkind⟩ := hf.kind
  obtain ⟨origin, horigin⟩ := hf.origin
  obtain ⟨actor, hactor⟩ := hf.actor
  obtain ⟨classification, hclassification⟩ := hf.classification
  have hrefs := size_artifactRefs (f.artifactRefs.map Subtype.val)
  rw [List.length_map] at hrefs
  have hsource := size_source (f.source.map Subtype.val)
  simp only [signedEntries, EventFields.entries, List.cons_append, List.nil_append, size_obj, List.map_cons,
    List.map_nil, List.sum_cons, List.sum_nil, hkind, horigin, hactor, hclassification, size_jsonOptional,
    size_str, size_int, hrefs]
  generalize size f.payload = payload
  generalize size ((f.source.map Subtype.val).elim .null EventSource.toDict) = source at hsource ⊢
  linarith only [hsource]

theorem height_signed {f : EventFields} (hf : Checked f) (hpayload : height f.payload ≤ 24) :
    height (.obj (signedEntries f)) ≤ 32 := by
  have hoptional (o : Option Str) : height (jsonOptional o) = 0 := by cases o <;> rfl
  rw [height, heightFields_le]
  apply forall_entries hf (P := fun v => height v + 1 ≤ 32)
  · exact fun _ => Nat.le_add_left 1 31
  · exact fun _ => Nat.le_add_left 1 31
  · decide
  · intro s _
    have hs : height s.val.toDict = 1 := rfl
    rw [hs]
    decide
  · have hrefs : height (.arr ((f.artifactRefs.map Subtype.val).map EventArtifactRef.toDict)) ≤ 2 := by
      rw [height, heightItems_le, List.forall_mem_map]
      intro a _
      simp only [EventArtifactRef.toDict, height, heightFields, jsonInt, hoptional]
      decide
    omega
  · omega

theorem distinct_signed {f : EventFields} (hf : Checked f)
    (hpayload : shaped distinct (fun _ => true) (fun _ => true) f.payload = true) :
    shaped distinct (fun _ => true) (fun _ => true) (.obj (signedEntries f)) = true := by
  have hkeys : ((signedEntries f).map Prod.fst).Nodup := signedEntries_keys f ▸ eventNames_nodup
  refine shaped_obj.mpr ⟨distinct_of_nodup hkeys, fun field hfield => ⟨rfl, ?_⟩⟩
  revert field
  apply forall_entries hf (P := fun v => shaped distinct (fun _ => true) (fun _ => true) v = true)
  · exact fun _ => rfl
  · exact fun _ => rfl
  · rfl
  · intro s _
    refine shaped_obj.mpr ⟨distinct_of_nodup (sourceEntries_nodup s.val), ?_⟩
    simp [shaped]
  · rw [shaped, shapedItems_iff, List.forall_mem_map]
    intro a _
    refine shaped_obj.mpr ⟨distinct_of_nodup (artifactEntries_nodup a), ?_⟩
    cases h : a.encryptionKeyId <;> simp [shaped, jsonInt, jsonOptional]
  · exact hpayload

theorem shaped_of_parts {number : Number → Bool} {v : Json}
    (hdistinct : shaped distinct (fun _ => true) (fun _ => true) v = true)
    (hnumber : shaped anyOrder number anyKey v = true) :
    shaped distinct number (fun _ => true) v = true := by
  induction v using inductOn with
  | null | bool b | str s => rfl
  | num n => exact hnumber
  | arr items ih =>
    exact shapedItems_iff.mpr fun v hv =>
      ih v hv (shapedItems_iff.mp hdistinct v hv) (shapedItems_iff.mp hnumber v hv)
  | obj fields ih =>
    obtain ⟨hkeys, hvalues⟩ := shaped_obj.mp hdistinct
    obtain ⟨-, hnumbers⟩ := shaped_obj.mp hnumber
    exact shaped_obj.mpr ⟨hkeys, fun field hf =>
      ⟨rfl, ih field hf (hvalues field hf).2 (hnumbers field hf).2⟩⟩

theorem legible_of_textual {n : Number} (h : textualNumber n = true) : legible n = true := by
  cases n with
  | int i => exact h
  | float x => exact h

abbrev ascii (s : Str) : Bool := s.all (fun c => decide (c.val < 128))

theorem clean_of_ascii {s : Str} (h : ascii s = true) : Projection.Clean s := by
  intro c hc
  have hbound := of_decide_eq_true (List.all_eq_true.mp h c hc)
  rw [isSurrogate, decide_eq_false_iff_not]
  omega

theorem ascii_of_sign {signs : List CodePoint} (h : ascii signs = true) {s : Str} (hs : isSign signs s) :
    ascii s = true := by
  obtain rfl | ⟨c, hc, rfl⟩ := hs
  · rfl
  · exact List.all_eq_true.mpr fun d hd => by
      obtain rfl := List.mem_singleton.mp hd
      exact List.all_eq_true.mp h d hc

theorem ascii_of_numerals {s : Str} (h : ∀ c ∈ s, isNumeral c = true) : ascii s = true := by
  refine List.all_eq_true.mpr fun c hc => decide_eq_true ?_
  have hbounds : 48 ≤ c.val ∧ c.val ≤ 57 := of_decide_eq_true (h c hc)
  omega

theorem clean_numeral {n : Numeral} (h : n.Formed) : Projection.Clean n.text := by
  obtain ⟨hminus, hwhole, fraction, exponent, hfraction, hexponent, htail⟩ := h
  have hwholes := ascii_of_numerals fun c hc => isNumeral_of_whole hwhole hc
  rw [Numeral.text, Projection.clean_append, Projection.clean_append, htail, Projection.clean_append]
  refine ⟨⟨clean_of_ascii (ascii_of_sign rfl hminus), clean_of_ascii hwholes⟩, ?_, ?_⟩
  · obtain rfl | ⟨t, ⟨-, hall⟩, rfl⟩ := hfraction
    · exact List.forall_mem_nil _
    · exact Projection.clean_cons.mpr ⟨rfl, clean_of_ascii (ascii_of_numerals hall)⟩
  · obtain rfl | ⟨sign, t, hs, ⟨-, hall⟩, rfl⟩ := hexponent
    · exact List.forall_mem_nil _
    · exact Projection.clean_cons.mpr ⟨rfl, Projection.clean_append.mpr
        ⟨clean_of_ascii (ascii_of_sign rfl hs), clean_of_ascii (ascii_of_numerals hall)⟩⟩

theorem canonicalText_clean {v : Json} (h : shaped anyOrder textualNumber anyKey v = true)
    (hclean : clean Json.encodes v = true) : Projection.Clean (canonicalText codec.repr v) := by
  induction v using inductOn with
  | null => exact clean_of_ascii (s := lit "null") rfl
  | bool b =>
    cases b
    · exact clean_of_ascii (s := lit "false") rfl
    · exact clean_of_ascii (s := lit "true") rfl
  | num n =>
    cases n with
    | int i => exact Projection.clean_decimalInt i
    | float x =>
      obtain ⟨n, hformed, -, htext⟩ := codec.formed x h
      rw [canonicalText, htext]
      exact clean_numeral hformed
  | str s => exact Projection.clean_quoted (Projection.encodedBytes_isSome.mp hclean)
  | arr items ih =>
    have hitems := shapedItems_iff.mp h
    have hcleans := cleanItems_iff.mp hclean
    refine Projection.clean_cons.mpr ⟨rfl, Projection.clean_append.mpr ⟨Projection.clean_joinComma ?_,
      Projection.clean_cons.mpr ⟨rfl, List.forall_mem_nil _⟩⟩⟩
    rw [itemTexts_eq, List.forall_mem_map]
    exact fun v hv => ih v hv (hitems v hv) (hcleans v hv)
  | obj fields ih =>
    obtain ⟨-, hfields⟩ := shaped_obj.mp h
    have hcleans := cleanFields_iff.mp hclean
    refine Projection.clean_cons.mpr ⟨rfl, Projection.clean_append.mpr ⟨Projection.clean_joinComma ?_,
      Projection.clean_cons.mpr ⟨rfl, List.forall_mem_nil _⟩⟩⟩
    rw [List.forall_mem_map]
    intro text htext
    rw [mem_orderBy, fieldTexts_eq] at htext
    obtain ⟨field, hf, rfl⟩ := List.mem_map.mp htext
    obtain ⟨hkey, hvalue⟩ := hcleans field hf
    exact Projection.clean_append.mpr ⟨Projection.clean_quoted (Projection.encodedBytes_isSome.mp hkey),
      Projection.clean_cons.mpr ⟨rfl, ih field hf (hfields field hf).2 hvalue⟩⟩

theorem encodes_domain (sha : Sha256) (d : Str) (v : Json) : encodes (sha.domain d v) = true := by
  rw [encodes, Projection.encodedBytes_isSome, Sha256.domain, Projection.clean_append]
  refine ⟨clean_of_ascii (s := lit "sha256:") rfl, clean_of_ascii (List.all_eq_true.mpr fun c hc => ?_)⟩
  have hhex := List.all_eq_true.mp (sha.hex_hexdigest d v) c hc
  simp only [isLowerHex, decide_eq_true_eq] at hhex ⊢
  omega

structure Legible (v : Json) : Prop where
  shaped : shaped distinct legible (fun _ => true) v = true
  clean : clean Json.encodes v = true
  size : size v ≤ 10000
  height : height v ≤ 32

theorem numbers_signed {f : EventFields} (h : shaped anyOrder textualNumber anyKey f.unsigned = true) :
    shaped anyOrder textualNumber anyKey (.obj (signedEntries f)) = true := by
  obtain ⟨-, hfields⟩ := shaped_obj.mp h
  refine shaped_obj.mpr ⟨List.pairwise_of_forall fun _ _ => rfl, fun field hf => ?_⟩
  rcases List.mem_append.mp hf with hf | hf
  · exact hfields field hf
  · obtain rfl := List.mem_singleton.mp hf
    exact ⟨rfl, rfl⟩

theorem clean_signed {f : EventFields} (h : clean Json.encodes f.unsigned = true)
    (hsigned : Json.encodes f.eventSha256 = true) :
    clean Json.encodes (.obj (signedEntries f)) = true := by
  have hname : Json.encodes (lit "event_sha256") = true := by decide +kernel
  refine cleanFields_iff.mpr fun field hf => ?_
  rcases List.mem_append.mp hf with hf | hf
  · exact cleanFields_iff.mp h field hf
  · obtain rfl := List.mem_singleton.mp hf
    exact ⟨hname, hsigned⟩

theorem shaped_mono {order : Str → Str → Bool} {number number' : Number → Bool} {key : Str → Bool} {v : Json}
    (h : ∀ n, number n = true → number' n = true) (hv : shaped order number key v = true) :
    shaped order number' key v = true := by
  induction v using inductOn with
  | null | bool b | str s => rfl
  | num n => exact h n hv
  | arr items ih =>
    exact shapedItems_iff.mpr fun v hmem => ih v hmem (shapedItems_iff.mp hv v hmem)
  | obj fields ih =>
    obtain ⟨horder, hfields⟩ := shaped_obj.mp hv
    exact shaped_obj.mpr ⟨horder, fun field hf => ⟨(hfields field hf).1, ih field hf (hfields field hf).2⟩⟩

theorem legible_signed {f : EventFields} {e : CanonicalEvent (hash.canonical codec)} (h : Accepted f e)
    (hpayload : isMapping f.payload = true) : Legible (.obj (signedEntries f)) := by
  obtain ⟨p, hp, henvelope⟩ := h.parts
  obtain ⟨bytes, hbytes⟩ := h.encodes
  obtain ⟨hnumbers, -, hclean⟩ := canonicalBytes_sound hbytes
  obtain ⟨-, ⟨hheight, hsize, -⟩, -, -⟩ := validateEventPayload_eq_ok.mp h.payload
  have hf := checked_of_ok hp
  have hsigned : Json.encodes f.eventSha256 = true := by
    rw [← h.sha256, e.signed]
    exact encodes_domain _ _ _
  refine ⟨shaped_mono (fun _ => legible_of_textual)
    (shaped_of_parts (distinct_signed hf hpayload) (numbers_signed hnumbers)), clean_signed hclean hsigned, ?_,
    height_signed hf hheight⟩
  have htotal := size_signed hf
  have hrefs : f.artifactRefs.length ≤ 128 := hf.refs
  omega

theorem encodes_dumps {f : EventFields} {e : CanonicalEvent (hash.canonical codec)} (h : Accepted f e) :
    ∃ n, encodedBytes (canonicalText codec.repr (signedDict e)) = some n := by
  obtain ⟨bytes, hbytes⟩ := h.encodes
  obtain ⟨hnumbers, -, hclean⟩ := canonicalBytes_sound hbytes
  have hsigned : Json.encodes f.eventSha256 = true := by
    rw [← h.sha256, e.signed]
    exact encodes_domain _ _ _
  rw [signedDict_eq h, ← Option.isSome_iff_exists, Projection.encodedBytes_isSome]
  exact canonicalText_clean (numbers_signed hnumbers) (clean_signed hclean hsigned)

theorem dumps_of_accepted {f : EventFields} {e : CanonicalEvent (hash.canonical codec)} (h : Accepted f e) :
    dumpsCanonicalEvent e = .ok (canonicalText codec.repr (signedDict e)) := by
  obtain ⟨bytes, hbytes⟩ := h.encodes
  obtain ⟨hnumbers, -, -⟩ := canonicalBytes_sound hbytes
  obtain ⟨n, hn⟩ := encodes_dumps h
  have hsome : canonicalBytes codec.repr (signedDict e) = some n := by
    rw [signedDict_eq h] at hn ⊢
    rw [canonicalBytes, if_pos (numbers_signed hnumbers), hn]
  rw [dumpsCanonicalEvent, hsome]
  rfl

def fits (text : Str) : Prop := ∃ bytes, encodedBytes text = some bytes ∧ bytes ≤ eventJsonMaxBytes

structure SameEvent (e e' : CanonicalEvent (hash.canonical codec)) : Prop where
  fields : withPayload e'.toEventEnvelope e.payload = e.toEventEnvelope
  payload : sortKeys e'.payload = sortKeys e.payload
  sha256 : e'.eventSha256 = e.eventSha256

theorem loadsDocument_canonical {v : Json} (h : Legible v) (hfits : fits (canonicalText codec.repr v)) :
    loadsDocument codec eventPolicy (.text (canonicalText codec.repr v)) = .ok (sortKeys v) := by
  obtain ⟨bytes, hbytes, hbound⟩ := hfits
  have hread : decodeInput eventPolicy (.text (canonicalText codec.repr v)) = .ok (canonicalText codec.repr v) := by
    rw [decodeInput, hbytes]
    dsimp only [demand, bind, Except.bind]
    have hwithin : ¬eventPolicy.maxBytes < bytes := Nat.not_lt.mpr hbound
    rw [raiseIf_of_not hwithin]
    rfl
  rw [loadsDocument, hread]
  dsimp only [bind, Except.bind]
  rw [parseBoundedJson_canonical h.shaped h.clean h.size h.height]

theorem sortKeys_of_increasing {v : Json} (h : shaped increasing (fun _ => true) (fun _ => true) v = true) :
    sortKeys v = v := by
  induction v using inductOn with
  | null | bool b | num n | str s => rfl
  | arr items ih =>
    have hitems := shapedItems_iff.mp h
    rw [sortKeys, sortItems_eq]
    exact congrArg Json.arr ((List.map_congr_left fun v hv => ih v hv (hitems v hv)).trans (List.map_id' items))
  | obj fields ih =>
    obtain ⟨hkeys, hfields⟩ := shaped_obj.mp h
    have hsame : sortFields fields = fields := by
      rw [sortFields_eq]
      calc fields.map (fun field => (field.1, sortKeys field.2))
        _ = fields.map id := List.map_congr_left fun field hf => Prod.ext rfl (ih field hf (hfields field hf).2)
        _ = fields := List.map_id fields
    rw [sortKeys, hsame, orderBy_of_pairwise (hkeys.imp fun hab => (of_decide_eq_true hab).le)]

theorem sortKeys_sortKeys {v : Json} (h : isMapping v = true) : sortKeys (sortKeys v) = sortKeys v :=
  sortKeys_of_increasing (shaped_sortKeys h)

theorem loads_of_fits {f : EventFields} {e : CanonicalEvent (hash.canonical codec)}
    (h : newCanonicalEvent codec hash f = .ok e) (hpayload : isMapping f.payload = true)
    (hfits : fits (canonicalText codec.repr (signedDict e))) :
    ∃ e', loadsCanonicalEvent codec hash (.text (canonicalText codec.repr (signedDict e))) = .ok e' ∧
      SameEvent e e' := by
  have haccepted := newCanonicalEvent_eq_ok.mp h
  have hdict := signedDict_eq haccepted
  have hloads := @loadsDocument_canonical codec _ (hdict ▸ legible_signed haccepted hpayload) hfits
  have hparsed := parseCanonicalEvent_sorted h
  have hsorted : sortKeys (signedDict e) = .obj (sortedEntries (signedEntries f)) := by
    rw [hdict, sortKeys, sortedEntries]
  rw [hsorted] at hparsed
  rw [hdict, sortKeys] at hloads
  obtain ⟨e', hnew, henvelope, hsha⟩ := newCanonicalEvent_payload h (sortKeys_sortKeys hpayload).symm
  have hsame : f.payload = e.payload := by
    obtain ⟨p, hp, henvelope⟩ := haccepted.parts
    rw [henvelope]
    rfl
  refine ⟨e', ?_, ?_, ?_, hsha⟩
  · have hobject : loadsObject codec (.text (canonicalText codec.repr (signedDict e))) =
        .ok (sortedEntries (signedEntries f)) := by
      rw [loadsObject, hdict, hloads]
      rfl
    rw [loadsCanonicalEvent, hobject]
    dsimp only [bind, Except.bind]
    rw [hparsed, hnew]
  · rw [henvelope]
    rfl
  · rw [henvelope, ← hsame]
    exact sortKeys_sortKeys hpayload

theorem loads_too_long {text : Str} {bytes : Nat} (h : encodedBytes text = some bytes)
    (hlong : eventJsonMaxBytes < bytes) :
    loadsCanonicalEvent codec hash (.text text) =
      .error (invalidJson "canonical event JSON exceeds byte limit") := by
  rw [loadsCanonicalEvent, loadsObject, loadsDocument, decodeInput, h]
  dsimp only [demand, bind, Except.bind]
  have hbeyond : eventPolicy.maxBytes < bytes := hlong
  rw [raiseIf_of hbeyond]
  rfl

end Documents

end EventContract

end TraceBackedMemory
