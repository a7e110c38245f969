import TraceBackedMemory.Gate.SessionEvents
import TraceBackedMemory.Projection.Reducer

namespace TraceBackedMemory

open Text Raising OrderBy Projection

open Json (Fields valueAt)

namespace GateEvents

variable {sha : Sha256}

section Transition

def rejected (message : String) : ProjectionError :=
  ⟨.reducerExecution, lit "TBM_GATE_SESSION_REDUCER_EVENT_INVALID", lit message⟩

def invalidProjection (message : String) : ProjectionError :=
  ⟨.reducerExecution, lit "TBM_GATE_SESSION_REDUCER_STATE_INVALID", lit message⟩

def reducerCode : Json :=
  .obj [(lit "algorithm", .str (lit "gate-session-current")), (lit "algorithm_version", jsonInt 1),
    (lit "validation", .arr [.str (lit "typed-payload"), .str (lit "trusted-context"),
      .str (lit "stream-version"), .str (lit "revision-digest"),
      .str (lit "exact-domain-transition")])]

def reducerConfiguration : Json :=
  .obj [(lit "configuration", .str (lit "none")), (lit "version", jsonInt 1)]

def reducerFields (codeSha256 configurationSha256 : Str) : DescriptorFields where
  reducerId := lit "gate-session-current"
  reducerVersion := 1
  inputEventTypes := gateSessionEventTypes
  outputProjection := lit "gate_session_current_v1"
  outputSchemaVersion := 1
  codeSha256 := codeSha256
  configurationSha256 := configurationSha256
  deterministic := true
  targetEventVersions := gateSessionEventTypes.map (fun t => (t, 1))
  envelopeOnly := false

set_option maxRecDepth 20000 in
theorem reducerFields_valid {code configuration : Str} (hcode : validDigest code = true)
    (hconfiguration : validDigest configuration = true) :
    checkDescriptor (reducerFields code configuration) = .ok () := by
  have htypes : checkInputEventTypes (reducerFields [] []) = .ok () := by decide +kernel
  have htargets : checkTargets (reducerFields [] []) = .ok () := by decide +kernel
  have hdigest {value : Str} (h : validDigest value = true) (name : Str) :
      reducerDigest value name = .ok () := raiseIf_of_not (by rw [h]; exact Bool.noConfusion)
  exact seq_eq_ok.mpr ⟨rfl, seq_eq_ok.mpr ⟨rfl, seq_eq_ok.mpr ⟨rfl, seq_eq_ok.mpr ⟨rfl,
    seq_eq_ok.mpr ⟨hdigest hcode _, seq_eq_ok.mpr ⟨hdigest hconfiguration _,
      seq_eq_ok.mpr ⟨rfl, seq_eq_ok.mpr ⟨htypes, htargets⟩⟩⟩⟩⟩⟩⟩⟩

def reducerDescriptor (sha : Sha256) : ReducerDescriptor :=
  ⟨reducerFields (sha.domain (lit "tbm.reducer-code.v1\x00") reducerCode)
      (sha.domain (lit "tbm.reducer-configuration.v1\x00") reducerConfiguration),
    reducerFields_valid (sha.validDigest_domain _ _) (sha.validDigest_domain _ _)⟩

def mappingCopy (state : Json) (name : String) : Except TransitionFault Fields :=
  match state with
  | .obj fields =>
    match Json.field? (lit name) fields with
    | some (.obj copied) => .ok copied
    | _ => .error (.reducer (rejected (name ++ " projection state is invalid")))
  | _ => .error (.reducer (rejected (name ++ " projection state is invalid")))

def retainedSession (sessions : Fields) (streamId : Str) :
    Except TransitionFault (Option GateSession) :=
  match Json.field? streamId sessions with
  | none | some .null => .ok none
  | some raw =>
    match parseGateSession raw with
    | .ok previous => .ok (some previous)
    | .error _ =>
      .error (.reducer (invalidProjection "retained GateSession projection state is invalid"))

def eventFault (e : GateError) : TransitionFault :=
  if e.code = lit "TBM_GATE_SESSION_EVENT_INVALID" then
    .reducer (rejected "GateSession event cannot update the projection")
  else .foreign

def parsedRevision (e : CanonicalEvent sha) (previous : Option GateSession) :
    Except TransitionFault GateSession :=
  match parseGateSessionEvent e previous none with
  | .ok session => .ok session
  | .error error => .error (eventFault error)

def headFields : List Str :=
  [lit "session_version", lit "event_id", lit "event_sha256", lit "global_position",
    lit "organization_id", lit "tenant_id", lit "repository_id", lit "environment_id",
    lit "authorization_decision_id"]

def headEntries (s : GateSession) (e : CanonicalEvent sha) : Fields :=
  [(lit "session_version", jsonInt s.version), (lit "event_id", .str e.eventId),
    (lit "event_sha256", .str e.eventSha256), (lit "global_position", jsonInt e.globalPosition),
    (lit "organization_id", .str e.organizationId), (lit "tenant_id", .str e.tenantId),
    (lit "repository_id", .str e.repositoryId), (lit "environment_id", .str e.environmentId),
    (lit "authorization_decision_id", .str e.authorizationDecisionId)]

def headOf (s : GateSession) (e : CanonicalEvent sha) : Json := .obj (headEntries s e)

def precedes (position : Json) (globalPosition : Nat) : Bool :=
  match position with
  | .num (.int n) => decide (n < globalPosition)
  | _ => false

def extendsHead (head : Fields) (e : CanonicalEvent sha) : Bool :=
  keysAre head headFields &&
    (valueAt head (lit "session_version")).pyEq (jsonInt (e.streamVersion - 1)) &&
    (valueAt head (lit "event_sha256")).pyEq (jsonOptional e.previousStreamEventSha256) &&
    (valueAt head (lit "event_id")).pyEq (jsonOptional e.causationId) &&
    precedes (valueAt head (lit "global_position")) e.globalPosition &&
    (valueAt head (lit "organization_id")).pyEq (.str e.organizationId) &&
    (valueAt head (lit "tenant_id")).pyEq (.str e.tenantId) &&
    (valueAt head (lit "repository_id")).pyEq (.str e.repositoryId) &&
    (valueAt head (lit "environment_id")).pyEq (.str e.environmentId)

def verifyHead (heads : Fields) (e : CanonicalEvent sha) : Except TransitionFault Unit :=
  match Json.field? e.streamId heads with
  | none =>
    raiseIf (e.streamVersion ≠ 1)
      (.reducer (rejected "GateSession projection cannot start after revision 1"))
  | some (.obj head) =>
    raiseIf (extendsHead head e = false)
      (.reducer (rejected "GateSession event does not extend the retained head"))
  | some _ => .error (.reducer (rejected "retained GateSession projection head is invalid"))

def retainedDict (s : GateSession) : Except TransitionFault Json :=
  match toDict s with
  | .ok value => .ok value
  | .error _ => .error .foreign

def projectionOf (sessions heads : Fields) : Json :=
  .obj [(lit "sessions", .obj sessions), (lit "heads", .obj heads)]

def transition (state : Json) (event : ReducerEvent sha) : Except TransitionFault Json := do
  let source := event.sourceEvent
  let typed ← demand event.typedEvent (.reducer (rejected "typed GateSession event is required"))
  raiseIf (typed.targetVersion ≠ 1 ∨ typed.eventType ≠ source.eventType)
    (.reducer (rejected "typed GateSession event version is invalid"))
  raiseIf (typed.payload.pyEq source.payload = false)
    (.reducer (rejected "typed GateSession payload differs from its source event"))
  let sessions ← mappingCopy state "sessions"
  let heads ← mappingCopy state "heads"
  let previous ← retainedSession sessions source.streamId
  let session ← parsedRevision source previous
  verifyHead heads source
  let value ← retainedDict session
  return projectionOf (Dict.putIn source.streamId value sessions)
    (Dict.putIn source.streamId (headOf session source) heads)

def gateSessionReducer (sha : Sha256) : Reducer sha where
  descriptor := reducerDescriptor sha
  initialState := .ok (projectionOf [] [])
  reduce := transition

end Transition

section Projected

def projectedGateSession (state : Json) (sessionId : Str) : Except ProjectionError GateSession :=
  match state with
  | .obj fields =>
    match Json.field? (lit "sessions") fields with
    | some (.obj sessions) =>
      match Json.field? sessionId sessions with
      | none => .error (rejected "GateSession is absent from projection state")
      | some (.obj payload) =>
        match parseGateSession (.obj payload) with
        | .ok session => .ok session
        | .error _ => .error (invalidProjection "projected GateSession payload is invalid")
      | some _ => .error (rejected "projected GateSession payload is invalid")
    | _ => .error (rejected "GateSession is absent from projection state")
  | _ => .error (rejected "GateSession is absent from projection state")

def typedView (e : CanonicalEvent sha) : ReducerEvent sha :=
  ⟨e, some ⟨e.eventType, 1, e.payload⟩⟩

def foldGateSessions (sha : Sha256) (events : List (ReducerEvent sha)) : Except ProjectionError Json :=
  foldReducer sha (gateSessionReducer sha) events

end Projected

end GateEvents

end TraceBackedMemory
