import TraceBackedMemory.Ledger.Registry
import TraceBackedMemory.Ledger.SchemaSemantics
import TraceBackedMemory.Ledger.Interleaving
import Mathlib.Data.Finset.Card

namespace TraceBackedMemory

open Text Raising Json OrderBy

namespace Registry

variable {engine : PatternEngine}

section Invariant

structure Wired (r : EventTypeRegistry engine) : Prop where
  keyed : ∀ k registration, r.registrations.get? k = some registration →
    k = (registration.eventType, registration.eventVersion)
  edges : ∀ k u, r.upcasters.get? k = some u → k = (u.eventType, u.fromVersion) ∧
    (u.eventType, u.toVersion) ∈ r.registrations.keys
  types : r.eventTypes.length ≤ maxTypes
  versions : ∀ eventType, (r.versionsOf eventType).length ≤ maxVersionsPerType

theorem length_dedup_concat {l : List Str} {x : Str} :
    (l ++ [x]).dedup.length = l.dedup.length + (if x ∈ l then 0 else 1) := by
  rw [← List.card_toFinset, ← List.card_toFinset, List.toFinset_append, List.toFinset_cons,
    List.toFinset_nil, insert_empty_eq, Finset.union_comm, ← Finset.insert_eq]
  split
  · rename_i hmem
    rw [Finset.insert_eq_of_mem (List.mem_toFinset.mpr hmem)]
    rfl
  · rename_i hmem
    rw [Finset.card_insert_of_notMem (fun h => hmem (List.mem_toFinset.mp h))]

theorem wired_register {r r' : EventTypeRegistry engine}
    {registration : EventPayloadRegistration engine} (h : Wired r)
    (hrun : r.register registration = .ok r') : Wired r' := by
  simp only [EventTypeRegistry.register, bind_eq_ok, exists_unit, raiseIf_eq_ok, pure_eq_ok,
    not_and, not_le] at hrun
  obtain ⟨-, hfresh, -, hversions, htypes, rfl⟩ := hrun
  have hkeys := Dict.keys_set_of_not_mem registration hfresh
  refine ⟨?_, ?_, ?_, ?_⟩
  · exact Dict.forall_get?_set rfl h.keyed
  · intro k u hu
    obtain ⟨hk, hmem⟩ := h.edges k u hu
    refine ⟨hk, ?_⟩
    show _ ∈ (r.registrations.set _ registration).keys
    rw [hkeys]
    exact List.mem_append_left _ hmem
  · show ((r.registrations.set _ registration).keys.map Prod.fst).dedup.length ≤ maxTypes
    rw [hkeys, List.map_append, List.map_cons, List.map_nil, length_dedup_concat]
    have hold := h.types
    split
    · exact hold
    · rename_i hnew
      have hroom := htypes (fun hmem => hnew (List.mem_dedup.mp hmem))
      exact hroom
  · intro eventType
    show (((r.registrations.set _ registration).keys.filter _).map Prod.snd).length ≤ _
    have hold := h.versions eventType
    rw [hkeys, List.filter_append, List.map_append, List.length_append]
    by_cases htype : registration.eventType = eventType
    · have hone : ([(registration.eventType, registration.eventVersion)].filter
          (fun k => decide (k.1 = eventType))).length ≤ 1 := List.length_filter_le _ _
      rw [List.length_map, List.length_map]
      rw [htype] at hversions
      have hlt : (r.registrations.keys.filter (fun k => decide (k.1 = eventType))).length <
          maxVersionsPerType := by
        simpa [EventTypeRegistry.versionsOf] using hversions
      omega
    · have hnone : [(registration.eventType, registration.eventVersion)].filter
          (fun k => decide (k.1 = eventType)) = [] := by simp [htype]
      rw [hnone]
      exact hold

theorem wired_registerUpcaster {r r' : EventTypeRegistry engine} {u : EventPayloadUpcaster}
    (h : Wired r) (hrun : r.registerUpcaster u = .ok r') : Wired r' := by
  simp only [EventTypeRegistry.registerUpcaster, bind_eq_ok, exists_unit, raiseIf_eq_ok,
    demand_eq_ok, pure_eq_ok] at hrun
  obtain ⟨-, -, _, -, target, htarget, -, -, -, rfl⟩ := hrun
  refine ⟨h.keyed, ?_, h.types, h.versions⟩
  exact Dict.forall_get?_set ⟨rfl, Dict.mem_keys.mpr ⟨target, htarget⟩⟩ h.edges

theorem wired_seal {r r' : EventTypeRegistry engine} (h : Wired r) (hrun : r.sealRegistry = .ok r') :
    Wired r' := by
  simp only [EventTypeRegistry.sealRegistry, bind_eq_ok, exists_unit, pure_eq_ok] at hrun
  obtain ⟨-, rfl⟩ := hrun
  exact ⟨h.keyed, h.edges, h.types, h.versions⟩

theorem wired_perform {r r' : EventTypeRegistry engine} {call : RegistryCall engine} (h : Wired r)
    (hrun : call.perform r = .ok r') : Wired r' := by
  cases call with
  | register registration => exact wired_register h hrun
  | registerUpcaster u => exact wired_registerUpcaster h hrun
  | sealRegistry => exact wired_seal h hrun

theorem wired_afterCalls {r : EventTypeRegistry engine} (h : Wired r)
    (calls : List (RegistryCall engine)) : Wired (afterCalls r calls) := by
  induction calls generalizing r with
  | nil => exact h
  | cons call rest ih =>
    rw [afterCalls]
    cases hrun : call.perform r with
    | ok next => exact ih (wired_perform h hrun)
    | error e => exact ih h

theorem wired_empty : Wired ({} : EventTypeRegistry engine) :=
  ⟨by simp, by simp, Nat.zero_le _, fun _ => by simp [EventTypeRegistry.versionsOf, Dict.keys, Dict.empty]⟩

end Invariant

section Chains

variable (r : EventTypeRegistry engine)

-- The composition of the registered upcasters from one version to another.
inductive UpcastChain (eventType : Str) : Nat → Json → Nat → Json → List Str → Prop
  | done (version : Nat) (payload : Json) : UpcastChain eventType version payload version payload []
  | step {version target : Nat} {payload transformed result : Json} {u : EventPayloadUpcaster}
      {ids : List Str} (hu : r.upcasters.get? (eventType, version) = some u)
      (htransform : u.transform payload = .ok transformed)
      (rest : UpcastChain eventType (version + 1) transformed target result ids) :
      UpcastChain eventType version payload target result (u.upcasterId :: ids)

def ValidAt (eventType : Str) (version : Nat) (payload : Json) : Prop :=
  copyPayload engine payload = .ok () ∧
    ∃ registration, r.registrations.get? (eventType, version) = some registration ∧
      registration.schema.validatePayload payload = .ok ()

def UpcastersValid : Prop :=
  ∀ k u, r.upcasters.get? k = some u → ∀ payload, ValidAt r u.eventType u.fromVersion payload →
    ∃ transformed, u.transform payload = .ok transformed ∧
      ValidAt r u.eventType u.toVersion transformed

def ValidEvent (event : EventEnvelope) : Prop :=
  ∃ registration, r.registrations.get? (event.eventType, event.eventVersion) = some registration ∧
    checkSource registration event = .ok ()

def Readable (eventType : Str) (source target : Nat) : Prop :=
  ∃ rows, compatibilityMatrix r = .ok rows ∧ ∃ row ∈ rows, row.eventType = eventType ∧
    row.sourceVersion = source ∧ row.targetVersion = target ∧ row.compatibility ≠ .unsupported

variable {r}

theorem runTransform_eq_ok {u : EventPayloadUpcaster} {payload transformed : Json} :
    runTransform u payload = .ok transformed ↔ u.transform payload = .ok transformed := by
  unfold runTransform
  cases u.transform payload with
  | ok t => simp
  | error e => cases e <;> simp

theorem hasUpcastPath_self {eventType : Str} {version target : Nat} (h : target ≤ version) :
    hasUpcastPath r eventType version target = true := by
  rw [hasUpcastPath, if_neg (Nat.not_lt.mpr h)]

theorem hasUpcastPath_step {eventType : Str} {version target : Nat} (h : version < target) :
    hasUpcastPath r eventType version target = true ↔
      (∃ u, r.upcasters.get? (eventType, version) = some u) ∧
        hasUpcastPath r eventType (version + 1) target = true := by
  rw [hasUpcastPath, if_pos h, ← Dict.contains_iff]
  cases r.upcasters.contains (eventType, version) with
  | false => simp
  | true => simp

theorem upcastOnce_eq_ok {eventType : Str} {current : Nat} {payload : Json} {step : Json × Str}
    (h : upcastOnce r eventType current payload = .ok step) :
    ∃ u, r.upcasters.get? (eventType, current) = some u ∧ u.transform payload = .ok step.1 ∧
      step.2 = u.upcasterId := by
  simp only [upcastOnce, bind_eq_ok, exists_unit, demand_eq_ok, pure_eq_ok, runTransform_eq_ok] at h
  obtain ⟨u, hu, transformed, htransform, _, _, _, _, rfl⟩ := h
  exact ⟨u, hu, htransform, rfl⟩

theorem upcastOnce_valid (hwired : Wired r) (hvalid : UpcastersValid r) {eventType : Str}
    {current : Nat} {payload : Json} {u : EventPayloadUpcaster}
    (hu : r.upcasters.get? (eventType, current) = some u) (h : ValidAt r eventType current payload) :
    ∃ transformed, upcastOnce r eventType current payload = .ok (transformed, u.upcasterId) ∧
      ValidAt r eventType (current + 1) transformed := by
  obtain ⟨hkey, -⟩ := hwired.edges _ u hu
  obtain ⟨htype, hfrom⟩ := Prod.mk.inj hkey
  have hto : u.toVersion = current + 1 := by
    have hchecked := u.valid
    simp only [checkUpcaster, bind_eq_ok, exists_unit, raiseIf_eq_ok, not_not, ne_eq] at hchecked
    rw [hchecked.2.2.2.1, ← hfrom]
  rw [htype, hfrom] at h
  obtain ⟨transformed, htransform, hnext⟩ := hvalid _ u hu payload h
  rw [hto, ← htype] at hnext
  obtain ⟨hcopy, registration, hregistration, hschema⟩ := id hnext
  refine ⟨transformed, ?_, hnext⟩
  simp only [upcastOnce, bind_eq_ok, exists_unit, demand_eq_ok, pure_eq_ok, runTransform_eq_ok]
  exact ⟨u, hu, transformed, htransform, hcopy, registration, hregistration, hschema, rfl⟩

-- Induction on the versions still to go.
theorem upcastLoop_chain {eventType : Str} {target : Nat} :
    ∀ n current payload applied result, target - current = n → current ≤ target →
      upcastLoop r eventType target current payload applied = .ok result →
        ∃ ids, result.2 = applied ++ ids ∧
          UpcastChain r eventType current payload target result.1 ids ∧
            ids.length = target - current ∧
              hasUpcastPath r eventType current target = true := by
  intro n
  induction n with
  | zero =>
    intro current payload applied result hn hle h
    obtain rfl : current = target := by omega
    rw [upcastLoop, if_neg (Nat.lt_irrefl _)] at h
    obtain rfl := Except.ok.inj h
    exact ⟨[], by simp, .done _ _, by simp, hasUpcastPath_self (Nat.le_refl _)⟩
  | succ n ih =>
    intro current payload applied result hn hle h
    have hlt : current < target := by omega
    rw [upcastLoop, if_pos hlt] at h
    obtain ⟨step, hstep, hrest⟩ := bind_eq_ok.mp h
    obtain ⟨u, hu, htransform, hid⟩ := upcastOnce_eq_ok hstep
    obtain ⟨ids, hids, hchain, hlength, hpath⟩ := ih _ _ _ _ (by omega) hlt hrest
    refine ⟨u.upcasterId :: ids, ?_, .step hu htransform hchain, ?_, ?_⟩
    · rw [hids, hid, List.append_assoc]
      rfl
    · rw [List.length_cons, hlength]
      omega
    · exact (hasUpcastPath_step hlt).mpr ⟨⟨u, hu⟩, hpath⟩

theorem upcastLoop_succeeds (hwired : Wired r) (hvalid : UpcastersValid r) {eventType : Str}
    {target : Nat} :
    ∀ n current payload applied, target - current = n → current ≤ target →
      ValidAt r eventType current payload → hasUpcastPath r eventType current target = true →
        (∀ id ∈ applied, isBoundedIdentifier id = true) →
          ∃ result, upcastLoop r eventType target current payload applied = .ok result ∧
            copyPayload engine result.1 = .ok () ∧
              ∀ id ∈ result.2, isBoundedIdentifier id = true := by
  intro n
  induction n with
  | zero =>
    intro current payload applied hn hle hpayload hpath hids
    obtain rfl : current = target := by omega
    refine ⟨(payload, applied), ?_, hpayload.1, hids⟩
    rw [upcastLoop, if_neg (Nat.lt_irrefl _)]
  | succ n ih =>
    intro current payload applied hn hle hpayload hpath hids
    have hlt : current < target := by omega
    obtain ⟨⟨u, hu⟩, hrest⟩ := (hasUpcastPath_step hlt).mp hpath
    obtain ⟨transformed, hstep, hnext⟩ := upcastOnce_valid hwired hvalid hu hpayload
    have hidentifier : isBoundedIdentifier u.upcasterId = true := by
      have hchecked := u.valid
      simp only [checkUpcaster, checkIdentifier, bind_eq_ok, exists_unit, raiseIf_eq_ok,
        Bool.not_eq_false] at hchecked
      exact hchecked.2.2.2.2.1
    obtain ⟨result, hloop, hcopy, hall⟩ :=
      ih (current + 1) transformed (applied ++ [u.upcasterId]) (by omega) hlt hnext hrest (by
        intro id hid
        rcases List.mem_append.mp hid with hid | hid
        · exact hids id hid
        · rw [List.mem_singleton.mp hid]
          exact hidentifier)
    refine ⟨result, ?_, hcopy, hall⟩
    rw [upcastLoop, if_pos hlt, hstep]
    exact hloop

end Chains

section Compatibility

variable {r : EventTypeRegistry engine}

theorem length_flatMap_le {α β : Type} {l : List α} {f : α → List β} {n : Nat}
    (h : ∀ a ∈ l, (f a).length ≤ n) : (l.flatMap f).length ≤ l.length * n := by
  induction l with
  | nil => simp
  | cons a l ih =>
    obtain ⟨ha, hl⟩ := List.forall_mem_cons.mp h
    have hrest := ih hl
    rw [List.flatMap_cons, List.length_append, List.length_cons, Nat.succ_mul]
    omega

theorem length_orderBy {α κ : Type} [LinearOrder κ] (key : α → κ) (l : List α) :
    (orderBy key l).length = l.length := (orderBy_perm key l).length_eq

theorem allRows_bounded (h : Wired r) : (allRows r).length ≤ maxCompatibilityRows := by
  have hrow (eventType : Str) :
      ((orderBy id (r.versionsOf eventType)).flatMap (fun source =>
        (orderBy id (r.versionsOf eventType)).map (fun target =>
          (⟨eventType, source, target, compatibilityOf r eventType source target⟩ :
            EventCompatibilityRow)))).length ≤ maxVersionsPerType * maxVersionsPerType := by
    have hversions := h.versions eventType
    refine (length_flatMap_le (n := maxVersionsPerType) ?_).trans ?_
    · intro source _
      rw [List.length_map, length_orderBy]
      exact hversions
    · rw [length_orderBy]
      exact Nat.mul_le_mul_right _ hversions
  have htypes := h.types
  refine (length_flatMap_le fun eventType _ => hrow eventType).trans ?_
  rw [length_orderBy]
  exact (Nat.mul_le_mul_right _ htypes).trans (by decide)

theorem mem_versionsOf {eventType : Str} {version : Nat} :
    version ∈ r.versionsOf eventType ↔ (eventType, version) ∈ r.registrations.keys := by
  simp [EventTypeRegistry.versionsOf]

theorem mem_allRows {row : EventCompatibilityRow} :
    row ∈ allRows r ↔ (row.eventType, row.sourceVersion) ∈ r.registrations.keys ∧
      (row.eventType, row.targetVersion) ∈ r.registrations.keys ∧
        row.compatibility = compatibilityOf r row.eventType row.sourceVersion row.targetVersion := by
  obtain ⟨eventType, source, target, compatibility⟩ := row
  simp only [allRows, List.mem_flatMap, List.mem_map, mem_orderBy, mem_versionsOf,
    EventTypeRegistry.eventTypes, List.mem_dedup, EventCompatibilityRow.mk.injEq]
  constructor
  · rintro ⟨t, -, s, hs, v, hv, rfl, rfl, rfl, rfl⟩
    exact ⟨hs, hv, rfl⟩
  · rintro ⟨hs, hv, rfl⟩
    exact ⟨eventType, ⟨_, hs, rfl⟩, source, hs, target, hv, rfl, rfl, rfl, rfl⟩

theorem compatibilityOf_supported {eventType : Str} {source target : Nat} :
    compatibilityOf r eventType source target ≠ .unsupported ↔
      source ≤ target ∧ hasUpcastPath r eventType source target = true := by
  unfold compatibilityOf
  split
  · rename_i heq
    exact iff_of_true EventCompatibility.noConfusion
      ⟨heq.le, hasUpcastPath_self heq.ge⟩
  · rename_i hne
    split
    · rename_i hpath
      exact iff_of_true EventCompatibility.noConfusion ⟨hpath.1.le, hpath.2⟩
    · rename_i hpath
      refine iff_of_false (fun h => h rfl) ?_
      rintro ⟨hle, hup⟩
      exact hpath ⟨by omega, hup⟩

theorem readable_iff (h : Wired r) {eventType : Str} {source target : Nat} :
    Readable r eventType source target ↔ r.isSealed = true ∧
      (eventType, source) ∈ r.registrations.keys ∧ (eventType, target) ∈ r.registrations.keys ∧
        source ≤ target ∧ hasUpcastPath r eventType source target = true := by
  have hbounded : ¬maxCompatibilityRows < (allRows r).length := Nat.not_lt.mpr (allRows_bounded h)
  simp only [Readable, compatibilityMatrix, EventTypeRegistry.requireSealed, bind_eq_ok, exists_unit,
    raiseIf_eq_ok, pure_eq_ok, Bool.not_eq_false, hbounded, not_false_eq_true, true_and]
  constructor
  · rintro ⟨_, ⟨hsealed, rfl⟩, row, hrow, rfl, rfl, rfl, hsupported⟩
    obtain ⟨hs, ht, hcompatibility⟩ := mem_allRows.mp hrow
    rw [hcompatibility, compatibilityOf_supported] at hsupported
    exact ⟨hsealed, hs, ht, hsupported⟩
  · rintro ⟨hsealed, hs, ht, hsupported⟩
    exact ⟨_, ⟨hsealed, rfl⟩,
      ⟨eventType, source, target, compatibilityOf r eventType source target⟩,
      mem_allRows.mpr ⟨hs, ht, rfl⟩, rfl, rfl, rfl, compatibilityOf_supported.mpr hsupported⟩

end Compatibility

section Consumption

variable {r : EventTypeRegistry engine} {event : EventEnvelope}

theorem registered_version (h : Wired r) {eventType : Str} {version : Nat}
    {registration : EventPayloadRegistration engine}
    (hget : r.registrations.get? (eventType, version) = some registration) :
    checkVersion version "target_version" = .ok () := by
  obtain ⟨-, rfl⟩ := Prod.mk.inj (h.keyed _ registration hget)
  have hbounded := registration.boundedVersion
  simp only [checkVersion, raiseIf_eq_ok] at hbounded ⊢
  exact hbounded

theorem consume_eq_ok {targetVersion : Option Nat} {view : TypedEventView} :
    consume r event targetVersion = .ok view ↔
      r.isSealed = true ∧ ValidEvent r event ∧
        checkVersion (targetVersion.getD event.eventVersion) "target_version" = .ok () ∧
        event.eventVersion ≤ targetVersion.getD event.eventVersion ∧
        ∃ registration, r.registrations.get?
            (event.eventType, targetVersion.getD event.eventVersion) = some registration ∧
          ∃ typed, upcastLoop r event.eventType (targetVersion.getD event.eventVersion)
              event.eventVersion event.payload [] = .ok typed ∧
            view = ⟨event, event.eventType, event.eventVersion,
              targetVersion.getD event.eventVersion, registration.payloadSchema, typed.1, typed.2⟩ ∧
            checkTypedView engine view = .ok () := by
  simp only [consume, inspect, EventTypeRegistry.requireSealed, ValidEvent, bind_eq_ok, exists_unit,
    raiseIf_eq_ok, demand_eq_ok, pure_eq_ok, not_lt, Bool.not_eq_false]
  constructor
  · rintro ⟨_, ⟨hsealed, rfl⟩, source, hsource, hchecked, hversion, hle, registration, hregistration,
      typed, htyped, hview, rfl⟩
    exact ⟨hsealed, ⟨source, hsource, hchecked⟩, hversion, hle, registration, hregistration, typed,
      htyped, rfl, hview⟩
  · rintro ⟨hsealed, ⟨source, hsource, hchecked⟩, hversion, hle, registration, hregistration, typed,
      htyped, rfl, hview⟩
    exact ⟨_, ⟨hsealed, rfl⟩, source, hsource, hchecked, hversion, hle, registration, hregistration,
      typed, htyped, hview, rfl⟩

-- A loop that ended well leaves a view that passes its own checks.
theorem typedView_valid (hvalid : ValidEvent r event) {target : Nat}
    (hle : event.eventVersion ≤ target) {registration : EventPayloadRegistration engine}
    (hregistration : r.registrations.get? (event.eventType, target) = some registration)
    {typed : Json × List Str} (hcopy : copyPayload engine typed.1 = .ok ())
    (hids : ∀ id ∈ typed.2, isBoundedIdentifier id = true)
    (hlength : typed.2.length = target - event.eventVersion) :
    checkTypedView engine ⟨event, event.eventType, event.eventVersion, target,
      registration.payloadSchema, typed.1, typed.2⟩ = .ok () := by
  obtain ⟨source, hsource, hchecked⟩ := hvalid
  simp only [checkSource, bind_eq_ok, exists_unit, raiseIf_eq_ok, not_not, ne_eq] at hchecked
  have hschema : target = event.eventVersion → registration.payloadSchema = event.payloadSchema := by
    rintro rfl
    rw [hsource] at hregistration
    rw [hchecked.2.1, Option.some.inj hregistration]
  simp only [checkTypedView, bind_eq_ok, exists_unit, raiseIf_eq_ok, checkEach_eq_ok, checkIdentifier,
    ne_eq, not_true_eq_false, not_false_eq_true, not_or, not_and, not_not, not_lt, Bool.not_eq_false,
    true_and]
  exact ⟨⟨hle, hschema⟩, hlength, hids, hcopy⟩

theorem consume_agrees (calls : List (RegistryCall engine)) (event : EventEnvelope)
    (targetVersion : Option Nat) (hvalid : ValidEvent (afterCalls {} calls) event)
    (hupcasters : UpcastersValid (afterCalls {} calls)) :
    ((∃ view, consume (afterCalls {} calls) event targetVersion = .ok view) ↔
      Readable (afterCalls {} calls) event.eventType event.eventVersion
        (targetVersion.getD event.eventVersion)) ∧
    ∀ view, consume (afterCalls {} calls) event targetVersion = .ok view →
      UpcastChain (afterCalls {} calls) event.eventType event.eventVersion event.payload
          (targetVersion.getD event.eventVersion) view.payload view.appliedUpcasterIds ∧
        view.appliedUpcasterIds.length =
          targetVersion.getD event.eventVersion - event.eventVersion := by
  have hwired := wired_afterCalls (wired_empty : Wired ({} : EventTypeRegistry engine)) calls
  generalize afterCalls {} calls = r at hvalid hupcasters hwired ⊢
  generalize htarget : targetVersion.getD event.eventVersion = target
  obtain ⟨source, hsource, hchecked⟩ := id hvalid
  refine ⟨⟨?_, ?_⟩, ?_⟩
  · rintro ⟨view, hview⟩
    rw [consume_eq_ok, htarget] at hview
    obtain ⟨hsealed, -, -, hle, registration, hregistration, typed, htyped, -⟩ := hview
    obtain ⟨_, _, _, _, hpath⟩ := upcastLoop_chain _ _ _ _ _ rfl hle htyped
    exact (readable_iff hwired).mpr ⟨hsealed, Dict.mem_keys.mpr ⟨source, hsource⟩,
      Dict.mem_keys.mpr ⟨registration, hregistration⟩, hle, hpath⟩
  · intro hreadable
    obtain ⟨hsealed, -, hkey, hle, hpath⟩ := (readable_iff hwired).mp hreadable
    obtain ⟨registration, hregistration⟩ := Dict.mem_keys.mp hkey
    have hpayload : ValidAt r event.eventType event.eventVersion event.payload := by
      simp only [checkSource, bind_eq_ok, exists_unit] at hchecked
      exact ⟨hchecked.2.2.1, source, hsource, hchecked.2.2.2⟩
    obtain ⟨typed, htyped, hcopy, hids⟩ := upcastLoop_succeeds hwired hupcasters _ _ _ _ rfl hle
      hpayload hpath (List.forall_mem_nil _)
    obtain ⟨ids, heq, _, hlength, _⟩ := upcastLoop_chain _ _ _ _ _ rfl hle htyped
    have hview := typedView_valid hvalid hle hregistration hcopy hids (by rw [heq]; exact hlength)
    refine ⟨⟨event, event.eventType, event.eventVersion, target, registration.payloadSchema, typed.1,
      typed.2⟩, consume_eq_ok.mpr ?_⟩
    rw [htarget]
    exact ⟨hsealed, hvalid, registered_version hwired hregistration, hle, registration,
      hregistration, typed, htyped, rfl, hview⟩
  · intro view hview
    rw [consume_eq_ok, htarget] at hview
    obtain ⟨-, -, -, hle, registration, -, typed, htyped, rfl, -⟩ := hview
    obtain ⟨ids, heq, hchain, hlength, _⟩ := upcastLoop_chain _ _ _ _ _ rfl hle htyped
    rw [List.nil_append] at heq
    rw [← heq] at hchain hlength
    exact ⟨hchain, hlength⟩

end Consumption

section Samples

def sampleChild : Schema := constChild (.str (lit "lesson"))

def sampleRegistration (version : Nat) (name : String)
    (hversion : checkVersion version "event_version" = .ok ())
    (hname : isPayloadSchema (lit name) = true) : EventPayloadRegistration sampleEngine where
  eventType := lit "tbm.sample.recorded"
  eventVersion := version
  eventKind := .domain
  payloadSchema := lit name
  document := fieldDocument [(lit "const", .str (lit "lesson"))]
  schema := fieldSchema sampleChild
  canonicalType := rfl
  boundedVersion := hversion
  namedSchema := hname
  copied := rfl
  defined := rfl
  rooted := rfl

def sampleUpcaster : EventPayloadUpcaster where
  eventType := lit "tbm.sample.recorded"
  fromVersion := 1
  toVersion := 2
  upcasterId := lit "sample_1_to_2"
  producerVersion := lit "1"
  transform payload := .ok payload
  valid := rfl

def sampleCalls : List (RegistryCall sampleEngine) :=
  [.register (sampleRegistration 2 "tbm.sample.v2" rfl (by decide)),
    .register (sampleRegistration 1 "tbm.sample.v1" rfl (by decide)),
    .registerUpcaster sampleUpcaster, .sealRegistry]

def sampleTypedEvent : EventEnvelope :=
  { sampleEnvelope (lit "evt_1") 1 1 'a' none .publicly with
    payload := fieldPayload (.str (lit "lesson")) }

theorem sampleEvent_valid : ValidEvent (afterCalls {} sampleCalls) sampleTypedEvent := by
  refine ⟨sampleRegistration 1 "tbm.sample.v1" rfl (by decide), rfl, ?_⟩
  have hpayload : (fieldSchema sampleChild).validatePayload (fieldPayload (.str (lit "lesson"))) =
      .ok () := by
    rw [fieldSchema_validates, sampleChild, constChild_validates]
    decide
  simp only [checkSource, bind_eq_ok, exists_unit, raiseIf_eq_ok, not_not, ne_eq]
  exact ⟨rfl, rfl, rfl, hpayload⟩

theorem sampleUpcasters_valid : UpcastersValid (afterCalls {} sampleCalls) := by
  intro k u hu payload hpayload
  have hset : (afterCalls {} sampleCalls).upcasters =
      Dict.empty.set (lit "tbm.sample.recorded", 1) sampleUpcaster := rfl
  rw [hset, Dict.get?_set] at hu
  split at hu
  · obtain rfl := Option.some.inj hu
    obtain ⟨hcopy, registration, hregistration, hschema⟩ := hpayload
    obtain rfl : sampleRegistration 1 "tbm.sample.v1" rfl (by decide) = registration :=
      Option.some.inj hregistration
    exact ⟨payload, rfl, hcopy, sampleRegistration 2 "tbm.sample.v2" rfl (by decide), rfl, hschema⟩
  · rw [Dict.get?_empty] at hu
    cases hu

theorem consume_agrees_sample :
    ((∃ view, consume (afterCalls {} sampleCalls) sampleTypedEvent (some 2) = .ok view) ↔
      Readable (afterCalls {} sampleCalls) (lit "tbm.sample.recorded") 1 2) ∧
    ∀ view, consume (afterCalls {} sampleCalls) sampleTypedEvent (some 2) = .ok view →
      UpcastChain (afterCalls {} sampleCalls) (lit "tbm.sample.recorded") 1 sampleTypedEvent.payload 2
          view.payload view.appliedUpcasterIds ∧ view.appliedUpcasterIds.length = 2 - 1 :=
  consume_agrees sampleCalls sampleTypedEvent (some 2) sampleEvent_valid sampleUpcasters_valid

end Samples

end Registry

end TraceBackedMemory
