import TraceBackedMemory.Gate.SessionRevisions
import TraceBackedMemory.Ledger.Interleaving

namespace TraceBackedMemory

open Text Raising OrderBy Projection

open Json (Fields valueAt)

namespace GateEvents

variable {sha : Sha256}

section States

def stateOf (sessions heads : Fields) : Json :=
  .obj [(lit "heads", .obj heads), (lit "sessions", .obj sessions)]

def sorted (fields : Fields) : Fields := orderBy Prod.fst (Json.sortFields fields)

theorem orderBy_projection (sessions heads : Json) :
    orderBy Prod.fst [(lit "sessions", sessions), (lit "heads", heads)] =
      [(lit "heads", heads), (lit "sessions", sessions)] := by
  have hle : ¬lit "sessions" ≤ lit "heads" := by decide
  simp only [orderBy, List.insertionSort, List.foldr, List.orderedInsert, hle, if_false]

theorem sortKeys_projectionOf (sessions heads : Fields) :
    (projectionOf sessions heads).sortKeys = stateOf (sorted sessions) (sorted heads) := by
  rw [projectionOf, Json.sortKeys]
  exact congrArg Json.obj (orderBy_projection _ _)

theorem mappingCopy_sessions (sessions heads : Fields) :
    mappingCopy (stateOf sessions heads) "sessions" = .ok sessions := rfl

theorem mappingCopy_heads (sessions heads : Fields) :
    mappingCopy (stateOf sessions heads) "heads" = .ok heads := rfl

structure TransitionOf (sessions heads : Fields) (event : ReducerEvent sha) (value : Json)
    (previous : Option GateSession) (s : GateSession) (dict : Json) : Prop where
  retained : retainedSession sessions event.sourceEvent.streamId = .ok previous
  parsed : parseGateSessionEvent event.sourceEvent previous none = .ok s
  serializes : toDict s = .ok dict
  value_eq : value = projectionOf (Dict.putIn event.sourceEvent.streamId dict sessions)
    (Dict.putIn event.sourceEvent.streamId (headOf s event.sourceEvent) heads)

theorem parsedRevision_eq_ok {e : CanonicalEvent sha} {previous : Option GateSession} {s : GateSession} :
    parsedRevision e previous = .ok s ↔ parseGateSessionEvent e previous none = .ok s := by
  unfold parsedRevision
  split <;> simp_all

theorem retainedDict_eq_ok {s : GateSession} {value : Json} :
    retainedDict s = .ok value ↔ toDict s = .ok value := by
  unfold retainedDict
  split <;> simp_all

theorem transitionOf_ok {sessions heads : Fields} {event : ReducerEvent sha} {value : Json}
    (h : transition (stateOf sessions heads) event = .ok value) :
    ∃ previous s dict, TransitionOf sessions heads event value previous s dict := by
  simp only [transition, bind_eq_ok, exists_unit, pure_eq_ok, mappingCopy_sessions,
    mappingCopy_heads, Except.ok.injEq, exists_eq_left', parsedRevision_eq_ok,
    retainedDict_eq_ok] at h
  obtain ⟨typed, -, -, -, previous, hprevious, s, hparsed, -, dict, hdict, rfl⟩ := h
  exact ⟨previous, s, dict, hprevious, hparsed, hdict, rfl⟩

theorem retainedSession_none {sessions : Fields} {id : Str} (h : Json.field? id sessions = none) :
    retainedSession sessions id = .ok none := by
  rw [retainedSession, h]

theorem retainedSession_sorted {sessions : Fields} {id : Str} {r : GateSessionRecord}
    (h : Json.field? id sessions = some (.obj (sortedFields r))) {previous : Option GateSession} :
    retainedSession sessions id = .ok previous ↔
      ∃ p : GateSession, p.toGateSessionRecord = r ∧ previous = some p := by
  rw [retainedSession, h]
  simp only [parseGateSession_sameFields (sameFields_sorted r)]
  constructor
  · intro hprevious
    split at hprevious
    · rename_i p hp
      cases hprevious
      exact ⟨p, GateSessionRecord.build_eq_ok.mp hp, rfl⟩
    · cases hprevious
  · rintro ⟨p, hp, rfl⟩
    rw [GateSessionRecord.build_eq_ok.mpr hp]

end States

section Streams

def lastOn {α : Type} (stream : α → Str) (id : Str) (l : List α) : Option α :=
  (l.filter (fun a => decide (stream a = id))).getLast?

theorem lastOn_concat {α : Type} (stream : α → Str) (id : Str) (l : List α) (a : α) :
    lastOn stream id (l ++ [a]) = if stream a = id then some a else lastOn stream id l := by
  rw [lastOn, List.filter_append]
  by_cases h : stream a = id
  · rw [if_pos h]
    simp [h]
  · rw [if_neg h]
    simp [h, lastOn]

def lastEvent (id : Str) (events : List (CanonicalEvent sha)) : Option (CanonicalEvent sha) :=
  lastOn (fun e => e.streamId) id events

def gateEvents (events : List (ReducerEvent sha)) : List (CanonicalEvent sha) :=
  (events.map (fun e => e.sourceEvent)).filter (fun e => decide (e.eventType ∈ gateSessionEventTypes))

theorem gateEvents_concat (events : List (ReducerEvent sha)) (e : ReducerEvent sha) :
    gateEvents (events ++ [e]) =
      if e.sourceEvent.eventType ∈ gateSessionEventTypes then gateEvents events ++ [e.sourceEvent]
      else gateEvents events := by
  rw [gateEvents, List.map_append, List.filter_append]
  by_cases h : e.sourceEvent.eventType ∈ gateSessionEventTypes
  · rw [if_pos h]
    simp [h, gateEvents]
  · rw [if_neg h]
    simp [h, gateEvents]

end Streams

section Retention

structure Kept (e : CanonicalEvent sha) (session head : Option Json) : Prop where
  kept : ∃ previous s r, ParsedEvent e previous s ∧ canonicalRecord s.toGateSessionRecord = .ok r ∧
    session = some (.obj (sortedFields r)) ∧ head = some (headOf s e).sortKeys

structure Retained (events : List (CanonicalEvent sha)) (sessions heads : Fields) : Prop where
  shaped : StateShaped (stateOf sessions heads)
  fixed : canonicalProjectionState (stateOf sessions heads) = .ok (stateOf sessions heads)
  absent : ∀ id, lastEvent id events = none →
    Json.field? id sessions = none ∧ Json.field? id heads = none
  present : ∀ id e, lastEvent id events = some e →
    Kept e (Json.field? id sessions) (Json.field? id heads)

theorem stateShaped_stateOf {sessions heads : Fields} :
    StateShaped (stateOf sessions heads) ↔ StateShaped (.obj sessions) ∧ StateShaped (.obj heads) := by
  have hlt : Json.increasing (lit "heads") (lit "sessions") = true := by decide
  have hpair : [(lit "heads", Json.obj heads), (lit "sessions", .obj sessions)].Pairwise
      (fun a b => Json.increasing a.1 b.1 = true) := List.pairwise_pair.mpr hlt
  have hnames : objectKey (lit "heads") = true ∧ objectKey (lit "sessions") = true := by decide
  unfold StateShaped stateOf
  rw [Json.shaped_obj]
  simp only [List.forall_mem_cons, List.not_mem_nil, false_implies, implies_true, and_true, hpair,
    hnames, true_and]
  exact and_comm

theorem nodup_of_shaped {fields : Fields} (h : StateShaped (.obj fields)) :
    (fields.map Prod.fst).Nodup :=
  Json.nodup_of_distinct ((Json.shaped_obj.mp h).1.imp fun hab => Json.distinct_of_increasing hab)

theorem field_sorted_putIn {fields : Fields} (h : StateShaped (.obj fields)) (id j : Str) (value : Json) :
    Json.field? j (sorted (Dict.putIn id value fields)) =
      if j = id then some value.sortKeys else Json.field? j fields := by
  rw [sorted, Json.field_sorted (Dict.nodup_putIn (nodup_of_shaped h)), Json.field_putIn]
  split
  · rfl
  · cases hfield : Json.field? j fields with
    | none => rfl
    | some v =>
      rw [Json.field_eq_lookupIn] at hfield
      have hv := ((Json.shaped_obj.mp h).2 _ (Dict.mem_of_lookupIn hfield)).2
      exact congrArg some (Json.sortKeys_of_increasing hv)

theorem shaped_putIn {number : Number → Bool} {key : Str → Bool} {fields : Fields} {id : Str}
    {value : Json} (h : (Json.obj fields).shaped Json.distinct number key = true)
    (hid : key id = true) (hvalue : value.shaped Json.distinct number key = true) :
    (Json.obj (Dict.putIn id value fields)).shaped Json.distinct number key = true := by
  obtain ⟨hkeys, hfields⟩ := Json.shaped_obj.mp h
  refine Json.shaped_obj.mpr ⟨?_, ?_⟩
  · exact Json.distinct_of_nodup (Dict.nodup_putIn (Json.nodup_of_distinct hkeys))
  · intro field hf
    rcases Json.mem_putIn hf with rfl | hf
    · exact ⟨hid, hvalue⟩
    · exact hfields field hf

theorem signed64_version {n : Nat} (h : n ≤ eventMaxVersion) : stateNumber (.int n) = true := by
  rw [eventMaxVersion] at h
  exact decide_eq_true (by omega)

theorem objectKey_sessionId (s : GateSession) : objectKey s.sessionId = true := by
  have hvalid := s.valid
  simp only [GateSessionRecord.check, GateSessionRecord.checkIdentity, bind_eq_ok, exists_unit,
    checkEach_eq_ok, List.forall_mem_cons] at hvalid
  have hid := hvalid.1.1.1
  simp only [requiredIdentifier, requiredText, bind_eq_ok, exists_unit, raiseIf_eq_ok, not_or,
    not_lt] at hid
  refine decide_eq_true ⟨?_, by omega⟩
  intro hnil
  exact hid.1.1 (by rw [hnil]; rfl)

theorem shaped_dict {e : CanonicalEvent sha} {previous : Option GateSession} {s : GateSession}
    (h : ParsedEvent e previous s) {r : GateSessionRecord}
    (hr : canonicalRecord s.toGateSessionRecord = .ok r) :
    (serialized r).shaped Json.distinct stateNumber objectKey = true := by
  have hversion : r.version = s.version := by
    simp only [canonicalRecord, bind_eq_ok, pure_eq_ok] at hr
    obtain ⟨_, -, _, -, _, -, _, -, rfl⟩ := hr
    rfl
  have hnames : ∀ k ∈ fieldNames, objectKey k = true := by decide
  refine shaped_serialized ?_ hnames
  rw [hversion, ← h.stream.2]
  exact signed64_version e.version_bounds.2

theorem keys_headEntries (s : GateSession) (e : CanonicalEvent sha) :
    (headEntries s e).map Prod.fst = headFields := rfl

theorem headFields_nodup : headFields.Nodup := by decide

theorem headEntries_value {s : GateSession} {e : CanonicalEvent sha} {field : Str × Json}
    (h : field ∈ headEntries s e) :
    (∃ text, field.2 = .str text) ∨ field.2 = jsonInt s.version ∨ field.2 = jsonInt e.globalPosition := by
  simp only [headEntries, List.mem_cons, List.not_mem_nil, or_false] at h
  rcases h with rfl | rfl | rfl | rfl | rfl | rfl | rfl | rfl | rfl
  all_goals first
    | exact .inl ⟨_, rfl⟩
    | exact .inr (.inl rfl)
    | exact .inr (.inr rfl)

theorem shaped_headOf {e : CanonicalEvent sha} {previous : Option GateSession} {s : GateSession}
    (h : ParsedEvent e previous s) :
    (headOf s e).shaped Json.distinct stateNumber objectKey = true := by
  have hnames : ∀ k ∈ headFields, objectKey k = true := by decide
  refine Json.shaped_obj.mpr ⟨Json.distinct_of_nodup headFields_nodup, fun field hf => ⟨?_, ?_⟩⟩
  · exact hnames _ (List.mem_map_of_mem hf)
  · rcases headEntries_value hf with ⟨text, ht⟩ | hv | hp
    · rw [ht]
      rfl
    · rw [hv, ← h.stream.2]
      exact signed64_version e.version_bounds.2
    · rw [hp]
      exact signed64_version e.position_bounds.2

theorem shaped_next {sessions heads : Fields} (hshaped : StateShaped (stateOf sessions heads))
    {event : ReducerEvent sha} {value : Json} {previous : Option GateSession} {s : GateSession}
    {dict : Json} (h : TransitionOf sessions heads event value previous s dict) :
    value.shaped Json.distinct stateNumber objectKey = true := by
  obtain ⟨hparsed, -, -⟩ := parsed_of_ok h.parsed
  have hdict := h.serializes
  simp only [toDict, bind_eq_ok, pure_eq_ok] at hdict
  obtain ⟨r, hr, rfl⟩ := hdict
  have hid : objectKey event.sourceEvent.streamId = true := by
    rw [hparsed.stream.1]
    exact objectKey_sessionId s
  obtain ⟨hsessions, hheads⟩ := stateShaped_stateOf.mp hshaped
  have hold {fields : Fields} (hf : StateShaped (.obj fields)) :
      (Json.obj fields).shaped Json.distinct stateNumber objectKey = true :=
    Json.shaped_imp (fun _ _ => Json.distinct_of_increasing) (fun _ => id) (fun _ => id) _ hf
  have hne : Json.distinct (lit "sessions") (lit "heads") = true := by decide
  have hnames : objectKey (lit "sessions") = true ∧ objectKey (lit "heads") = true := by decide
  rw [h.value_eq]
  refine Json.shaped_obj.mpr ⟨List.pairwise_pair.mpr hne, ?_⟩
  simp only [List.forall_mem_cons, List.not_mem_nil, false_implies, implies_true, and_true, hnames,
    true_and]
  exact ⟨shaped_putIn (hold hsessions) hid (shaped_dict hparsed hr),
    shaped_putIn (hold hheads) hid (shaped_headOf hparsed)⟩

theorem Retained.step {events : List (CanonicalEvent sha)} {sessions heads : Fields}
    (h : Retained events sessions heads) {event : ReducerEvent sha} {value state : Json}
    {previous : Option GateSession} {s : GateSession} {dict : Json}
    (ht : TransitionOf sessions heads event value previous s dict)
    (hok : canonicalProjectionState value = .ok state) :
    ∃ sessions' heads', state = stateOf sessions' heads' ∧
      Retained (events ++ [event.sourceEvent]) sessions' heads' := by
  have hshaped := shaped_next h.shaped ht
  have hkeys : DistinctKeys value :=
    Json.shaped_imp (fun _ _ => id) (fun _ _ => rfl) (fun _ _ => rfl) value hshaped
  obtain ⟨next, hnext⟩ := canonicalProjectionState_eq_ok hkeys hok
  obtain ⟨hsessions, hheads⟩ := stateShaped_stateOf.mp h.shaped
  obtain ⟨hparsed, -, -⟩ := parsed_of_ok ht.parsed
  have hdict := ht.serializes
  simp only [toDict, bind_eq_ok, pure_eq_ok] at hdict
  obtain ⟨r, hr, rfl⟩ := hdict
  have hstate : state = stateOf (sorted (Dict.putIn event.sourceEvent.streamId (serialized r) sessions))
      (sorted (Dict.putIn event.sourceEvent.streamId (headOf s event.sourceEvent) heads)) := by
    rw [canonicalProjectionState_sorts hok, ht.value_eq, sortKeys_projectionOf]
  refine ⟨_, _, hstate, ?_, ?_, ?_, ?_⟩
  · rw [← hstate, hnext]
    exact next.shaped
  · rw [← hstate, hnext]
    exact next.canonical
  · intro id hlast
    rw [lastEvent, lastOn_concat] at hlast
    split at hlast
    · cases hlast
    · rename_i hne
      have hne' : id ≠ event.sourceEvent.streamId := fun heq => hne heq.symm
      rw [field_sorted_putIn hsessions, field_sorted_putIn hheads, if_neg hne', if_neg hne']
      exact h.absent id hlast
  · intro id e hlast
    rw [lastEvent, lastOn_concat] at hlast
    rw [field_sorted_putIn hsessions, field_sorted_putIn hheads]
    split at hlast
    · rename_i heq
      cases hlast
      rw [if_pos heq.symm, if_pos heq.symm, sortKeys_serialized_eq]
      exact ⟨previous, s, r, hparsed, hr, rfl, rfl⟩
    · rename_i hne
      have hne' : id ≠ event.sourceEvent.streamId := fun heq => hne heq.symm
      rw [if_neg hne', if_neg hne']
      exact h.present id e hlast

end Retention

section Acceptance

theorem accepts_iff {eventType : Str} :
    (gateSessionReducer sha).descriptor.accepts eventType = true ↔ eventType ∈ gateSessionEventTypes := by
  show (false || decide (eventType ∈ gateSessionEventTypes)) = true ↔ _
  rw [Bool.false_or, decide_eq_true_eq]

theorem advance_other {state : Json} {event : ReducerEvent sha}
    (hfixed : canonicalProjectionState state = .ok state)
    (h : event.sourceEvent.eventType ∉ gateSessionEventTypes) :
    advance sha (gateSessionReducer sha) state event = .ok state := by
  apply advance_refused hfixed
  rw [Bool.eq_false_iff, ne_eq, accepts_iff]
  exact h

theorem advance_gate {state : Json} {event : ReducerEvent sha} {value : Json}
    (hfixed : canonicalProjectionState state = .ok state)
    (h : event.sourceEvent.eventType ∈ gateSessionEventTypes)
    (htyped : event.typedEvent.isSome = true) (hvalue : transition state event = .ok value) :
    advance sha (gateSessionReducer sha) state event = canonicalProjectionState value := by
  have hpresent : checkTyped sha (gateSessionReducer sha).descriptor event = .ok () :=
    raiseIf_of_not (by rw [htyped]; exact Bool.noConfusion)
  have hreduced : (gateSessionReducer sha).reduce state event = .ok value := hvalue
  rw [advance_accepted hfixed (accepts_iff.mpr h), hpresent, wrapped_eq_ok.mpr hreduced]
  rfl

theorem advance_eq_ok {state next : Json} {event : ReducerEvent sha}
    (hfixed : canonicalProjectionState state = .ok state)
    (h : event.sourceEvent.eventType ∈ gateSessionEventTypes)
    (hok : advance sha (gateSessionReducer sha) state event = .ok next) :
    ∃ value, transition state event = .ok value ∧ canonicalProjectionState value = .ok next := by
  rw [advance_accepted hfixed (accepts_iff.mpr h)] at hok
  simp only [bind_eq_ok, exists_unit, wrapped_eq_ok] at hok
  exact hok.2

theorem initial_stateOf : initialReducerState sha (gateSessionReducer sha) =
    .ok ⟨stateOf [] [], projectionStateSha256 sha (reducerDescriptor sha) (stateOf [] []), true⟩ := by
  have hinitial : canonicalProjectionState (projectionOf [] []) = .ok (stateOf [] []) := by
    decide
  refine bind_eq_ok.mpr ⟨projectionOf [] [], rfl, bind_eq_ok.mpr ⟨stateOf [] [], hinitial, ?_⟩⟩
  rfl

theorem retained_nil : Retained ([] : List (CanonicalEvent sha)) [] [] where
  shaped := by decide
  fixed := by decide
  absent _ _ := ⟨rfl, rfl⟩
  present _ _ h := by cases h

theorem fold_concat {events : List (ReducerEvent sha)} {e : ReducerEvent sha} :
    foldGateSessions sha (events ++ [e]) =
      foldGateSessions sha events >>= fun state => advance sha (gateSessionReducer sha) state e := by
  simp only [foldGateSessions, foldReducer, initial_stateOf]
  show accumulate _ _ (events ++ [e]) = accumulate _ _ events >>= _
  rw [accumulate_append]
  apply bind_congr
  intro state
  rw [accumulate]
  cases advance sha (gateSessionReducer sha) state e with
  | error e => rfl
  | ok next => rfl

def Follows (last : Option (CanonicalEvent sha)) (e : CanonicalEvent sha) : Prop :=
  match last with
  | none => ∃ s, revisionOf e = .ok s ∧ s.status = .created ∧ s.version = 1
  | some parent => ∃ p c s, revisionOf parent = .ok p ∧
      canonicalRecord p.toGateSessionRecord = .ok c.toGateSessionRecord ∧ revisionOf e = .ok s ∧
        ∃ a : SessionAction, a.perform c = .ok s

def LegalStreams (events : List (CanonicalEvent sha)) : Prop :=
  ∀ pre e, pre ++ [e] <+: events → Follows (lastEvent e.streamId pre) e

theorem Retained.follows {events : List (CanonicalEvent sha)} {sessions heads : Fields}
    (h : Retained events sessions heads) {event : ReducerEvent sha} {value : Json}
    {previous : Option GateSession} {s : GateSession} {dict : Json}
    (ht : TransitionOf sessions heads event value previous s dict) :
    Follows (lastEvent event.sourceEvent.streamId events) event.sourceEvent := by
  obtain ⟨hparsed, -, -⟩ := parsed_of_ok ht.parsed
  have hretained := ht.retained
  cases hlast : lastEvent event.sourceEvent.streamId events with
  | none =>
    rw [retainedSession_none (h.absent _ hlast).1] at hretained
    cases hretained
    exact ⟨s, hparsed.revision, hparsed.first⟩
  | some parent =>
    obtain ⟨earlier, p, r, hparent, hr, hsession, -⟩ := (h.present _ _ hlast).kept
    obtain ⟨c, rfl, rfl⟩ := (retainedSession_sorted hsession).mp hretained
    exact ⟨p, c, s, hparent.revision, hr, hparsed.revision, hparsed.follows⟩

theorem LegalStreams.concat {events : List (CanonicalEvent sha)} (h : LegalStreams events)
    {e : CanonicalEvent sha} (he : Follows (lastEvent e.streamId events) e) :
    LegalStreams (events ++ [e]) := by
  intro pre e' hprefix
  rcases List.prefix_concat_iff.mp hprefix with heq | hprefix
  · obtain ⟨rfl, hsame⟩ := List.append_inj' heq rfl
    cases hsame
    exact he
  · exact h pre e' hprefix

theorem accepted_run {events : List (ReducerEvent sha)} {state : Json}
    (h : foldGateSessions sha events = .ok state) :
    LegalStreams (gateEvents events) ∧
      ∃ sessions heads, state = stateOf sessions heads ∧ Retained (gateEvents events) sessions heads := by
  induction events using List.reverseRecOn generalizing state with
  | nil =>
    rw [foldGateSessions, foldReducer, initial_stateOf] at h
    cases h
    refine ⟨?_, [], [], rfl, retained_nil⟩
    intro pre e hprefix
    exact absurd (List.prefix_nil.mp hprefix) (by simp)
  | append_singleton events e ih =>
    rw [fold_concat, bind_eq_ok] at h
    obtain ⟨before, hbefore, hstep⟩ := h
    obtain ⟨hlegal, sessions, heads, rfl, hretained⟩ := ih hbefore
    rw [gateEvents_concat]
    by_cases hgate : e.sourceEvent.eventType ∈ gateSessionEventTypes
    · rw [if_pos hgate]
      obtain ⟨value, hvalue, hnext⟩ := advance_eq_ok hretained.fixed hgate hstep
      obtain ⟨previous, s, dict, ht⟩ := transitionOf_ok hvalue
      exact ⟨hlegal.concat (hretained.follows ht), hretained.step ht hnext⟩
    · rw [if_neg hgate]
      rw [advance_other hretained.fixed hgate] at hstep
      cases hstep
      exact ⟨hlegal, sessions, heads, rfl, hretained⟩

end Acceptance

section Histories

variable {admits : EventEnvelope → Except GateError Unit}

abbrev Revision (sha : Sha256) := GateSession × CanonicalEvent sha

def lastRevision (id : Str) (run : List (Revision sha)) : Option (Revision sha) :=
  lastOn (fun x => x.1.sessionId) id run

inductive Interleaved (sha : Sha256) (admits : EventEnvelope → Except GateError Unit) :
    List (Revision sha) → Prop
  | nil : Interleaved sha admits []
  | step {run : List (Revision sha)} {s : GateSession} {e : CanonicalEvent sha} {position : Nat}
      {c : EventTrustedContext} (earlier : Interleaved sha admits run)
      (built : buildGateSessionEvent sha admits s ((lastRevision s.sessionId run).map Prod.fst)
        ((lastRevision s.sessionId run).map Prod.snd) position c = .ok e) :
      Interleaved sha admits (run ++ [(s, e)])

structure Recorded (s : GateSession) (e : CanonicalEvent sha) (c : GateSession) : Prop where
  record : canonicalRecord s.toGateSessionRecord = .ok c.toGateSessionRecord
  revision : revisionOf e = .ok c
  gate : e.eventType ∈ gateSessionEventTypes
  stream : e.streamId = s.sessionId

theorem Recorded.canonical {s c : GateSession} {e : CanonicalEvent sha} (h : Recorded s e c) :
    canonicalRecord c.toGateSessionRecord = .ok c.toGateSessionRecord :=
  canonicalRecord_canonical (canonicalRecord_times h.record)

theorem BuiltEvent.recorded {e : CanonicalEvent sha} {s c : GateSession}
    {previous : Option GateSession} {parent : Option (CanonicalEvent sha)}
    (h : BuiltEvent e s previous parent c) : Recorded s e c := by
  obtain ⟨hparsed, -, -⟩ := parsed_of_ok h.parsed
  exact ⟨h.record, hparsed.revision, hparsed.gate, h.stream⟩

theorem Interleaved.recorded {run : List (Revision sha)} (h : Interleaved sha admits run) :
    ∀ x ∈ run, ∃ c, Recorded x.1 x.2 c := by
  induction h with
  | nil =>
    intro x hx
    exact absurd hx List.not_mem_nil
  | step earlier built ih =>
    rw [List.forall_mem_append]
    refine ⟨ih, List.forall_mem_singleton.mpr ?_⟩
    obtain ⟨c, hbuilt⟩ := built_of_ok built
    exact ⟨c, hbuilt.recorded⟩

theorem lastEvent_eq {run : List (Revision sha)} (h : ∀ x ∈ run, x.2.streamId = x.1.sessionId)
    (id : Str) : lastEvent id (run.map Prod.snd) = (lastRevision id run).map Prod.snd := by
  induction run using List.reverseRecOn with
  | nil => rfl
  | append_singleton run x ih =>
    obtain ⟨hrun, hx⟩ := List.forall_mem_append.mp h
    rw [List.map_append, List.map_singleton, lastEvent, lastOn_concat, lastRevision, lastOn_concat,
      hx x List.mem_cons_self]
    split
    · rfl
    · exact ih hrun

theorem gateEvents_typedView {run : List (Revision sha)}
    (h : ∀ x ∈ run, x.2.eventType ∈ gateSessionEventTypes) :
    gateEvents (run.map (fun x => typedView x.2)) = run.map Prod.snd := by
  rw [gateEvents, List.map_map]
  refine List.filter_eq_self.mpr ?_
  intro e he
  obtain ⟨x, hx, rfl⟩ := List.mem_map.mp he
  exact decide_eq_true (h x hx)

end Histories

section Heads

variable {e parent : CanonicalEvent sha} {p : GateSession}

structure ChildOf (e parent : CanonicalEvent sha) : Prop where
  digest : e.previousStreamEventSha256 = some parent.eventSha256
  version : e.streamVersion = parent.streamVersion + 1
  position : parent.globalPosition < e.globalPosition
  organization : e.organizationId = parent.organizationId
  tenant : e.tenantId = parent.tenantId
  repository : e.repositoryId = parent.repositoryId
  environment : e.environmentId = parent.environmentId

theorem childOf_ok (h : verifyEventParent e (some parent) = .ok ()) : ChildOf e parent := by
  unfold verifyEventParent at h
  split at h
  · exact absurd rfl (raiseIf_eq_ok.mp h)
  · simp only [bind_eq_ok, exists_unit, raiseIf_eq_ok, not_not, not_le, ne_eq, checkEach_eq_ok,
      parentFields, List.forall_mem_cons, List.not_mem_nil, false_implies, implies_true,
      and_true] at h
    obtain ⟨hdigest, hversion, hposition, ⟨-, -, horg, htenant, hrepo, henv⟩, -⟩ := h
    exact ⟨hdigest, hversion, hposition, horg, htenant, hrepo, henv⟩

theorem valueAt_head {name : Str} {value : Json} (h : (name, value) ∈ headEntries p parent) :
    valueAt (sorted (headEntries p parent)) name = value := by
  have hkeys : ((headEntries p parent).map Prod.fst).Nodup := headFields_nodup
  have hvalue : value.sortKeys = value := by
    rcases headEntries_value h with ⟨text, ht⟩ | hv | hp
    · obtain rfl : value = .str text := ht
      rfl
    · obtain rfl : value = jsonInt p.version := hv
      rfl
    · obtain rfl : value = jsonInt parent.globalPosition := hp
      rfl
  rw [valueAt, sorted, Json.field_sorted hkeys, Json.field_eq_lookupIn,
    (Dict.lookupIn_eq_some hkeys).mpr h, Option.map_some, hvalue]
  rfl

theorem keysAre_head : keysAre (sorted (headEntries p parent)) headFields = true := by
  have hmem (name : Str) : name ∈ (sorted (headEntries p parent)).map Prod.fst ↔ name ∈ headFields := by
    rw [← keys_headEntries p parent, ← Json.keys_sortFields (headEntries p parent)]
    exact ((orderBy_perm Prod.fst _).map Prod.fst).mem_iff
  rw [keysAre, Bool.and_eq_true, List.all_eq_true, List.all_eq_true]
  exact ⟨fun name hname => decide_eq_true ((hmem name).mp hname),
    fun name hname => decide_eq_true ((hmem name).mpr hname)⟩

theorem pyEq_str (text : Str) : (Json.str text).pyEq (.str text) = true := by
  rw [Json.pyEq]
  exact decide_eq_true rfl

theorem pyEq_jsonInt (n : Nat) : (jsonInt n).pyEq (jsonInt n) = true :=
  (Json.pyEq_self (rfl : (jsonInt n).shaped Json.distinct Json.isInt (fun _ => true) = true))

theorem extendsHead_child (h : ChildOf e parent) (hversion : parent.streamVersion = p.version)
    (hcausation : e.causationId = some parent.eventId) :
    extendsHead (sorted (headEntries p parent)) e = true := by
  have hprevious : e.streamVersion - 1 = p.version := by
    rw [h.version, hversion]
    rfl
  have hposition : precedes (jsonInt parent.globalPosition) e.globalPosition = true :=
    decide_eq_true (Int.ofNat_lt.mpr h.position)
  rw [extendsHead, keysAre_head,
    valueAt_head (List.mem_of_getElem? (i := 0) rfl), valueAt_head (List.mem_of_getElem? (i := 2) rfl),
    valueAt_head (List.mem_of_getElem? (i := 1) rfl), valueAt_head (List.mem_of_getElem? (i := 3) rfl),
    valueAt_head (List.mem_of_getElem? (i := 4) rfl), valueAt_head (List.mem_of_getElem? (i := 5) rfl),
    valueAt_head (List.mem_of_getElem? (i := 6) rfl), valueAt_head (List.mem_of_getElem? (i := 7) rfl),
    hprevious, h.digest, hcausation, hposition, h.organization, h.tenant, h.repository, h.environment]
  simp only [jsonOptional, Option.elim_some, pyEq_str, pyEq_jsonInt, Bool.and_self]

end Heads

section Encodings

theorem encodable_putIn {fields : Fields} {id : Str} {value : Json}
    (h : encodable (.obj fields) = true) (hid : (encodedBytes id).isSome = true)
    (hvalue : encodable value = true) : encodable (.obj (Dict.putIn id value fields)) = true := by
  have hfields := Outbox.encodableFields_iff.mp h
  refine Outbox.encodableFields_iff.mpr ?_
  intro field hf
  rcases Json.mem_putIn hf with rfl | hf
  · exact ⟨hid, hvalue⟩
  · exact hfields field hf

theorem encodable_pair {names : Str × Str} {a b : Json} (hfirst : (encodedBytes names.1).isSome = true)
    (hsecond : (encodedBytes names.2).isSome = true) :
    encodable (.obj [(names.1, a), (names.2, b)]) = true ↔ encodable a = true ∧ encodable b = true := by
  rw [encodable, Outbox.encodableFields_iff]
  simp only [List.forall_mem_cons, List.not_mem_nil, false_implies, implies_true, and_true, hfirst,
    hsecond, true_and]

theorem encodable_dict {s : GateSession} {digest : Str} {dict : Json}
    (hdigest : revisionSha256 sha s = .ok digest) (hdict : toDict s = .ok dict) :
    encodable dict = true := by
  simp only [revisionSha256, domainSha256, bind_eq_ok, exists_unit, raiseIf_eq_ok,
    Bool.not_eq_false, pure_eq_ok] at hdigest
  obtain ⟨value, hvalue, hencodes, -⟩ := hdigest
  rw [hdict] at hvalue
  cases hvalue
  exact hencodes

theorem encodable_head {e : CanonicalEvent sha} (h : encodable e.toDict = true) (s : GateSession) :
    encodable (headOf s e) = true := by
  have hfields := Outbox.encodableFields_iff.mp h
  have hevent := hfields (lit "event_id", .str e.eventId) (List.mem_of_getElem? (i := 1) rfl)
  have horganization := hfields (lit "organization_id", .str e.organizationId)
    (List.mem_of_getElem? (i := 11) rfl)
  have htenant := hfields (lit "tenant_id", .str e.tenantId) (List.mem_of_getElem? (i := 12) rfl)
  have hrepository := hfields (lit "repository_id", .str e.repositoryId)
    (List.mem_of_getElem? (i := 13) rfl)
  have henvironment := hfields (lit "environment_id", .str e.environmentId)
    (List.mem_of_getElem? (i := 14) rfl)
  have hauthorization := hfields (lit "authorization_decision_id", .str e.authorizationDecisionId)
    (List.mem_of_getElem? (i := 19) rfl)
  have hdigest : encodable (.str e.eventSha256) = true := by
    rw [e.signed, canonicalEventSha256, Sha256.domain]
    apply encodedBytes_of_ascii
    rw [ascii_append, ascii_of_hex (sha.hex_hexdigest _ _)]
    decide
  have hkeys : ∀ k ∈ headFields, (encodedBytes k).isSome = true := by decide
  refine Outbox.encodableFields_iff.mpr fun field hf => ⟨hkeys _ (List.mem_map_of_mem hf), ?_⟩
  simp only [headEntries, List.mem_cons, List.not_mem_nil, or_false] at hf
  rcases hf with rfl | rfl | rfl | rfl | rfl | rfl | rfl | rfl | rfl
  · rfl
  · exact hevent.2
  · exact hdigest
  · rfl
  · exact horganization.2
  · exact htenant.2
  · exact hrepository.2
  · exact henvironment.2
  · exact hauthorization.2

end Encodings

section Parity

variable {admits : EventEnvelope → Except GateError Unit}

theorem revisionOf_parent {s p : GateSession} {parent : CanonicalEvent sha}
    (h : verifyParentIdentity s (some p) (some parent) = .ok ()) : revisionOf parent = .ok p := by
  simp only [verifyParentIdentity, verifyParentRevision, bind_eq_ok, exists_unit, orInvalid_eq_ok] at h
  obtain ⟨-, -, fields, hfields, -, -, sessionFields, hsession, session, hparsed, hsame, -⟩ := h
  obtain rfl : session = p := not_not.mp (raiseIf_eq_ok.mp hsame)
  refine bind_eq_ok.mpr ⟨fields, ?_, bind_eq_ok.mpr ⟨sessionFields, ?_, hparsed⟩⟩
  · unfold plainMapping at hfields ⊢
    split at hfields
    · exact hfields
    · cases hfields
  · unfold plainMapping at hsession ⊢
    split at hsession
    · exact hsession
    · cases hsession

theorem transition_built {sessions heads : Fields} {e : CanonicalEvent sha} {s c : GateSession}
    {previous : Option GateSession} {parent : Option (CanonicalEvent sha)}
    (h : BuiltEvent e s previous parent c)
    (hretained : retainedSession sessions e.streamId = .ok previous)
    (hhead : verifyHead heads e = .ok ()) :
    ∃ value, transition (stateOf sessions heads) (typedView e) = .ok value := by
  have htimes := canonicalRecord_times h.record
  have hversion : ¬((1 : Nat) ≠ 1 ∨ e.eventType ≠ e.eventType) := by simp
  have hpayload : ¬e.payload.pyEq e.payload = false := by
    rw [h.plain]
    exact Bool.noConfusion
  refine ⟨_, bind_eq_ok.mpr ⟨_, rfl, seq_eq_ok.mpr ⟨raiseIf_of_not hversion,
    seq_eq_ok.mpr ⟨raiseIf_of_not hpayload, bind_eq_ok.mpr ⟨sessions, rfl,
      bind_eq_ok.mpr ⟨heads, rfl, bind_eq_ok.mpr ⟨previous, hretained,
        bind_eq_ok.mpr ⟨c, parsedRevision_eq_ok.mpr h.parsed, seq_eq_ok.mpr ⟨hhead,
          bind_eq_ok.mpr ⟨_, retainedDict_eq_ok.mpr (toDict_canonical htimes), rfl⟩⟩⟩⟩⟩⟩⟩⟩⟩⟩

theorem lastRevision_mem {id : Str} {run : List (Revision sha)} {x : Revision sha}
    (h : lastRevision id run = some x) : x ∈ run :=
  List.mem_of_mem_filter (List.mem_of_getLast? h)

theorem Interleaved.transition {run : List (Revision sha)} (h : Interleaved sha admits run)
    {sessions heads : Fields} (hretained : Retained (run.map Prod.snd) sessions heads)
    {s c : GateSession} {e : CanonicalEvent sha}
    (hbuilt : BuiltEvent e s ((lastRevision s.sessionId run).map Prod.fst)
      ((lastRevision s.sessionId run).map Prod.snd) c) :
    ∃ value, GateEvents.transition (stateOf sessions heads) (typedView e) = .ok value := by
  have hstreams : ∀ x ∈ run, x.2.streamId = x.1.sessionId := fun x hx => (h.recorded x hx).choose_spec.stream
  have hlast := lastEvent_eq hstreams s.sessionId
  rw [← hbuilt.stream] at hlast
  obtain ⟨hparsed, -, -⟩ := parsed_of_ok hbuilt.parsed
  cases hprior : lastRevision s.sessionId run with
  | none =>
    rw [hbuilt.stream, hprior] at hlast
    rw [hprior] at hbuilt hparsed
    obtain ⟨hsession, hhead⟩ := hretained.absent _ hlast
    rw [← hbuilt.stream] at hsession hhead
    refine transition_built hbuilt (retainedSession_none hsession) ?_
    rw [verifyHead, hhead]
    exact raiseIf_of_not (not_not.mpr (hparsed.stream.2.trans hparsed.first.2))
  | some prior =>
    obtain ⟨p, parent⟩ := prior
    rw [hbuilt.stream, hprior] at hlast
    rw [hprior] at hbuilt hparsed
    obtain ⟨canonical, hrecorded⟩ := h.recorded _ (lastRevision_mem hprior)
    have hrevision := revisionOf_parent hbuilt.parents
    obtain rfl : canonical = p := Except.ok.inj (hrecorded.revision.symm.trans hrevision)
    obtain ⟨earlier, p', r, hparent, hr, hsession, hhead⟩ := (hretained.present _ _ hlast).kept
    obtain rfl : p' = canonical := Except.ok.inj (hparent.revision.symm.trans hrevision)
    obtain rfl : r = p'.toGateSessionRecord := Except.ok.inj (hr.symm.trans hrecorded.canonical)
    rw [← hbuilt.stream] at hsession hhead
    refine transition_built hbuilt ((retainedSession_sorted hsession).mpr ⟨p', rfl, rfl⟩) ?_
    rw [verifyHead, hhead]
    refine raiseIf_of_not ?_
    have hextends := extendsHead_child (childOf_ok hbuilt.chain) hparent.stream.2 hbuilt.causation
    exact fun hfalse => Bool.noConfusion (hfalse.symm.trans hextends)

def replayed (run : List (Revision sha)) : List (ReducerEvent sha) :=
  run.map (fun x => typedView x.2)

theorem encodable_next {sessions heads : Fields} (h : encodable (stateOf sessions heads) = true)
    {event : ReducerEvent sha} {value : Json} {previous : Option GateSession} {s : GateSession}
    {dict : Json} (ht : TransitionOf sessions heads event value previous s dict)
    (hevent : encodable event.sourceEvent.toDict = true) : encodable value = true := by
  obtain ⟨hparsed, -, -⟩ := parsed_of_ok ht.parsed
  obtain ⟨digest, hdigest⟩ := hparsed.digest
  have hid := (Outbox.encodableFields_iff.mp hevent (lit "stream_id", .str event.sourceEvent.streamId)
    (List.mem_of_getElem? (i := 7) rfl)).2
  obtain ⟨hheads, hsessions⟩ := (@encodable_pair (lit "heads", lit "sessions") _ _ rfl rfl).mp h
  rw [ht.value_eq]
  refine (@encodable_pair (lit "sessions", lit "heads") _ _ rfl rfl).mpr ⟨?_, ?_⟩
  · exact encodable_putIn hsessions hid (encodable_dict hdigest ht.serializes)
  · exact encodable_putIn hheads hid (encodable_head hevent s)

theorem Interleaved.retained {run : List (Revision sha)} (h : Interleaved sha admits run) {state : Json}
    (hok : foldGateSessions sha (replayed run) = .ok state) :
    ∃ sessions heads, state = stateOf sessions heads ∧ Retained (run.map Prod.snd) sessions heads := by
  have hgate : ∀ x ∈ run, x.2.eventType ∈ gateSessionEventTypes :=
    fun x hx => (h.recorded x hx).choose_spec.gate
  rw [← gateEvents_typedView hgate]
  exact (accepted_run hok).2

theorem fold_replayed {run : List (Revision sha)} {x : Revision sha} :
    foldGateSessions sha (replayed (run ++ [x])) =
      foldGateSessions sha (replayed run) >>= fun state =>
        advance sha (gateSessionReducer sha) state (typedView x.2) := by
  rw [replayed, List.map_append]
  exact fold_concat

-- Past the earlier events the step itself computes a value, and only storing it can fail.
theorem Interleaved.next {run : List (Revision sha)} (h : Interleaved sha admits run) {s c : GateSession}
    {e : CanonicalEvent sha} (hbuilt : BuiltEvent e s ((lastRevision s.sessionId run).map Prod.fst)
      ((lastRevision s.sessionId run).map Prod.snd) c) {state : Json}
    (hok : foldGateSessions sha (replayed run) = .ok state) (hencodes : encodable state = true) :
    ∃ sessions heads value previous s' dict, state = stateOf sessions heads ∧
      TransitionOf sessions heads (typedView e) value previous s' dict ∧ Storable value ∧
      advance sha (gateSessionReducer sha) state (typedView e) = canonicalProjectionState value := by
  obtain ⟨sessions, heads, rfl, hretained⟩ := h.retained hok
  obtain ⟨value, hvalue⟩ := h.transition hretained hbuilt
  obtain ⟨previous, s', dict, ht⟩ := transitionOf_ok hvalue
  refine ⟨sessions, heads, value, previous, s', dict, rfl, ht,
    ⟨?_, shaped_next hretained.shaped ht, encodable_next hencodes ht hbuilt.encodes⟩, ?_⟩
  · rw [ht.value_eq]
    rfl
  · exact advance_gate hretained.fixed hbuilt.recorded.gate rfl hvalue

theorem Interleaved.onlyLimits {run : List (Revision sha)} (h : Interleaved sha admits run) :
    OnlyLimits (foldGateSessions sha (replayed run)) ∧
      ∀ state, foldGateSessions sha (replayed run) = .ok state → encodable state = true := by
  induction h with
  | nil =>
    have hfold : foldGateSessions sha (replayed []) = .ok (stateOf [] []) := by
      rw [foldGateSessions, foldReducer, initial_stateOf]
      rfl
    refine ⟨onlyLimits_of_ok hfold, ?_⟩
    intro state hok
    rw [hfold] at hok
    cases hok
    rfl
  | step earlier built ih =>
    obtain ⟨c, hbuilt⟩ := built_of_ok built
    rw [fold_replayed]
    constructor
    · intro error herror
      rcases bind_eq_error.mp herror with herror | ⟨state, hok, herror⟩
      · exact ih.1 error herror
      · obtain ⟨_, _, value, _, _, _, -, -, hstorable, hadvance⟩ := earlier.next hbuilt hok (ih.2 _ hok)
        rw [hadvance] at herror
        exact hstorable.onlyLimits error herror
    · intro state hstate
      obtain ⟨before, hok, hstep⟩ := bind_eq_ok.mp hstate
      obtain ⟨_, _, value, _, _, _, -, -, hstorable, hadvance⟩ := earlier.next hbuilt hok (ih.2 _ hok)
      rw [hadvance] at hstep
      exact (hstorable.copied hstep).1.encodes

def Projects (state : Json) (id : Str) (last : Option (Revision sha)) : Prop :=
  match last with
  | none =>
    projectedGateSession state id = .error (rejected "GateSession is absent from projection state")
  | some x => ∃ c, canonicalRecord x.1.toGateSessionRecord = .ok c.toGateSessionRecord ∧
      projectedGateSession state id = .ok c ∧ (CanonicalTimes x.1.toGateSessionRecord → c = x.1)

theorem Interleaved.projects {run : List (Revision sha)} (h : Interleaved sha admits run) {state : Json}
    (hok : foldGateSessions sha (replayed run) = .ok state) (id : Str) :
    Projects state id (lastRevision id run) := by
  obtain ⟨sessions, heads, rfl, hretained⟩ := h.retained hok
  have hstreams : ∀ x ∈ run, x.2.streamId = x.1.sessionId := fun x hx => (h.recorded x hx).choose_spec.stream
  have hlast := lastEvent_eq hstreams id
  have hsessions : Json.field? (lit "sessions")
      [(lit "heads", .obj heads), (lit "sessions", .obj sessions)] = some (.obj sessions) := rfl
  cases hrevision : lastRevision id run with
  | none =>
    rw [hrevision] at hlast
    show projectedGateSession _ id = _
    simp only [projectedGateSession, stateOf, hsessions, (hretained.absent id hlast).1]
  | some x =>
    rw [hrevision] at hlast
    obtain ⟨c, hrecorded⟩ := h.recorded x (lastRevision_mem hrevision)
    obtain ⟨earlier, c', r, hparsed, hr, hsession, -⟩ := (hretained.present _ _ hlast).kept
    obtain rfl : c' = c := Except.ok.inj (hparsed.revision.symm.trans hrecorded.revision)
    obtain rfl : r = c'.toGateSessionRecord := Except.ok.inj (hr.symm.trans hrecorded.canonical)
    refine ⟨c', hrecorded.record, ?_, ?_⟩
    · simp only [projectedGateSession, stateOf, hsessions, hsession,
        parseGateSession_sameFields (sameFields_sorted _), GateSessionRecord.build_eq_ok.mpr rfl]
    · intro htimes
      have hsame := hrecorded.record
      rw [canonicalRecord_canonical htimes] at hsame
      exact Except.ok.inj ((GateSessionRecord.build_eq_ok.mpr rfl).symm.trans
        (GateSessionRecord.build_eq_ok.mpr (Except.ok.inj hsame)))

theorem gate_session_events_project_last_revision (sha : Sha256)
    (admits : EventEnvelope → Except GateError Unit) :
    (∀ run : List (Revision sha), Interleaved sha admits run →
      (∀ e, foldGateSessions sha (replayed run) = .error e → ∃ message, e = stateLimitExceeded message) ∧
        ∀ state, foldGateSessions sha (replayed run) = .ok state →
          ∀ id, Projects state id (lastRevision id run)) ∧
      ∀ (events : List (ReducerEvent sha)) (state : Json),
        foldGateSessions sha events = .ok state → LegalStreams (gateEvents events) := by
  refine ⟨fun run h => ⟨h.onlyLimits.1, fun state hok id => h.projects hok id⟩, ?_⟩
  exact fun events state hok => (accepted_run hok).1

def extend (admits : EventEnvelope → Except GateError Unit) (run : List (Revision sha)) (s : GateSession)
    (position : Nat) (c : EventTrustedContext) : Except GateError (List (Revision sha)) := do
  let prior := lastRevision s.sessionId run
  let e ← buildGateSessionEvent sha admits s (prior.map Prod.fst) (prior.map Prod.snd) position c
  return run ++ [(s, e)]

theorem Interleaved.extend {run next : List (Revision sha)} (h : Interleaved sha admits run)
    {s : GateSession} {position : Nat} {c : EventTrustedContext}
    (hok : GateEvents.extend admits run s position c = .ok next) : Interleaved sha admits next := by
  simp only [GateEvents.extend, bind_eq_ok, pure_eq_ok] at hok
  obtain ⟨e, he, rfl⟩ := hok
  exact h.step he

end Parity

section Samples

def sampleContext : EventTrustedContext where
  organizationId := lit "organization-1"
  tenantId := lit "tenant-1"
  repositoryId := lit "repository-1"
  environmentId := lit "environment-1"
  principalId := lit "principal-1"
  agentClientId := lit "client-1"
  actorType := .agentClient
  actorId := lit "client-1"
  authorizationDecisionId := lit "authorization-1"

def admitAll (_ : EventEnvelope) : Except GateError Unit := .ok ()

def folds (run : List (Revision sampleSha)) : Bool :=
  match foldGateSessions sampleSha (replayed run) with
  | .ok _ => true
  | .error _ => false

def sampleRun : Except GateError (List (Revision sampleSha)) := do
  let first ← createGateSession sampleIdentity (lit "2026-01-01T00:00:00Z") (lit "2026-01-01T01:00:00Z")
  let second ← createGateSession { sampleIdentity with sessionId := lit "session-2" }
    (lit "2026-01-01T00:00:00Z") (lit "2026-01-01T01:00:00Z")
  let prepared ← first.transition .prepared 1 (lit "2026-01-01T00:00:01Z")
    { leaseExpiresAt := some (lit "2026-01-01T00:01:00Z")
      retrievalSnapshotId := some (lit "snapshot-1")
      systemGateEvaluationId := some (lit "evaluation-1") }
  let run ← extend admitAll [] first 1 sampleContext
  let run ← extend admitAll run second 2 sampleContext
  extend admitAll run prepared 4 sampleContext

def offsetRun : Except GateError (List (Revision sampleSha)) := do
  let first ← createGateSession sampleIdentity (lit "2026-01-01T02:00:00+02:00")
    (lit "2026-01-01T01:00:00Z")
  extend admitAll [] first 1 sampleContext

def differs (run : List (Revision sampleSha)) : Bool :=
  match foldGateSessions sampleSha (replayed run) with
  | .ok state =>
    match lastRevision (lit "session-1") run with
    | some x => decide (projectedGateSession state (lit "session-1") ≠ .ok x.1)
    | none => false
  | .error _ => false

-- One proof for both runs, which share most of their evaluation.
set_option maxRecDepth 20000 in
theorem samples_fold : (do let run ← sampleRun; return folds run) = .ok true ∧
    (do let run ← offsetRun; return differs run) = .ok true := by
  decide +kernel

theorem interleaved_of_sampleRun {run : List (Revision sampleSha)} (h : sampleRun = .ok run) :
    Interleaved sampleSha admitAll run := by
  simp only [sampleRun, bind_eq_ok] at h
  obtain ⟨first, -, second, -, prepared, -, run₁, h₁, run₂, h₂, h₃⟩ := h
  exact ((Interleaved.nil.extend h₁).extend h₂).extend h₃

theorem gate_session_events_project_sample : ∃ run state, sampleRun = .ok run ∧
    foldGateSessions sampleSha (replayed run) = .ok state ∧
      Projects state (lit "session-1") (lastRevision (lit "session-1") run) ∧
        LegalStreams (gateEvents (replayed run)) := by
  obtain ⟨run, hrun, hfolds⟩ := bind_eq_ok.mp samples_fold.1
  replace hfolds : folds run = true := pure_eq_ok.mp hfolds
  unfold folds at hfolds
  split at hfolds
  · rename_i state hstate
    obtain ⟨hparity, hlegal⟩ := gate_session_events_project_last_revision sampleSha admitAll
    exact ⟨run, state, hrun, hstate, (hparity run (interleaved_of_sampleRun hrun)).2 state hstate _,
      hlegal _ state hstate⟩
  · cases hfolds

theorem gate_session_events_lose_offset : ∃ run, offsetRun = .ok run ∧
    Interleaved sampleSha admitAll run ∧ ∃ state x, foldGateSessions sampleSha (replayed run) = .ok state ∧
      lastRevision (lit "session-1") run = some x ∧
        projectedGateSession state (lit "session-1") ≠ .ok x.1 := by
  obtain ⟨run, hrun, hdiffers⟩ := bind_eq_ok.mp samples_fold.2
  replace hdiffers : differs run = true := pure_eq_ok.mp hdiffers
  refine ⟨run, hrun, ?_, ?_⟩
  · simp only [offsetRun, bind_eq_ok] at hrun
    obtain ⟨first, -, hfirst⟩ := hrun
    exact Interleaved.nil.extend hfirst
  · unfold differs at hdiffers
    split at hdiffers
    · rename_i state hstate
      split at hdiffers
      · rename_i x hx
        exact ⟨state, x, hstate, hx, of_decide_eq_true hdiffers⟩
      · cases hdiffers
    · cases hdiffers

end Samples

end GateEvents

end TraceBackedMemory
