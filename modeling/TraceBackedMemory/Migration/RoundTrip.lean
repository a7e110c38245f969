import TraceBackedMemory.Migration.Texts
import TraceBackedMemory.Foundation.OrderBy
import Mathlib.Data.List.Perm.Basic

namespace TraceBackedMemory

open Text Raising OrderBy Json

namespace Migration

section Inversions

theorem utf8_of_required {limit : Nat} {value name : Str} (h : required limit value name = .ok ()) :
    utf8 value = true := by
  simp only [required, unicode, bind_eq_ok, exists_unit, raiseIf_eq_ok, Bool.not_eq_false] at h
  exact h.2

theorem utf8_of_digest {value name : Str} (h : digest value name = .ok ()) : utf8 value = true := by
  simp only [digest, raiseIf_eq_ok, Bool.not_eq_false] at h
  exact (ascii_of_digest h).utf8

theorem utf8_of_timestamp {value name : Str} (h : timestamp value name = .ok ()) : utf8 value = true := by
  simp only [timestamp, raiseIf_eq_ok] at h
  exact (ascii_of_instant h).utf8

theorem stringTuple_eq_ok {values : List Str} {name : Str} :
    stringTuple values name = .ok () ↔ values.length ≤ maxRegistryItems ∧
      (∀ v ∈ values, requiredMetadata v name = .ok ()) ∧ values.Nodup := by
  simp only [stringTuple, bind_eq_ok, exists_unit, raiseIf_eq_ok, not_lt, not_not, checkEach_eq_ok]

theorem stringTuple_perm {l m : List Str} {name : Str} (hperm : l.Perm m) :
    stringTuple l name = .ok () ↔ stringTuple m name = .ok () := by
  simp only [stringTuple_eq_ok, hperm.length_eq, hperm.mem_iff, hperm.nodup_iff]

theorem checkAttributes_eq_ok {seen : List Str} {attributes : List (Str × Str)} :
    checkAttributes seen attributes = .ok () ↔
      (∀ a ∈ attributes, requiredMetadata a.2 (lit "attribute " ++ a.1) = .ok () ∧ a.1 ∈ applicabilityFields ∧
        a.1 ∉ seen) ∧ (attributes.map Prod.fst).Nodup := by
  induction attributes generalizing seen with
  | nil => simp [checkAttributes]
  | cons a attributes ih =>
    simp only [checkAttributes, bind_eq_ok, exists_unit, raiseIf_eq_ok, not_not, ih, List.mem_cons, not_or,
      forall_eq_or_imp, List.map_cons, List.nodup_cons, List.mem_map, not_exists, not_and]
    constructor
    · rintro ⟨hvalue, hseen, hfield, hall, hnodup⟩
      exact ⟨⟨⟨hvalue, hfield, hseen⟩, fun b hb => ⟨(hall b hb).1, (hall b hb).2.1, (hall b hb).2.2.2⟩⟩,
        fun b hb => (hall b hb).2.2.1, hnodup⟩
    · rintro ⟨⟨⟨hvalue, hfield, hseen⟩, hall⟩, hfresh, hnodup⟩
      exact ⟨hvalue, hseen, hfield, fun b hb => ⟨(hall b hb).1, (hall b hb).2.1, hfresh b hb, (hall b hb).2.2⟩, hnodup⟩

theorem checkAttributes_perm {l m : List (Str × Str)} (hperm : l.Perm m) :
    checkAttributes [] l = .ok () ↔ checkAttributes [] m = .ok () := by
  simp only [checkAttributes_eq_ok, hperm.mem_iff, (hperm.map Prod.fst).nodup_iff]

end Inversions

section Canonical

def CanonicalRepository.canonical (r : CanonicalRepository) : CanonicalRepository :=
  { r with legacyAliases := sortedStrings r.legacyAliases }

def TenantIdentity.canonical (t : TenantIdentity) : TenantIdentity :=
  { t with legacyAliases := sortedStrings t.legacyAliases }

def AuthorizationScope.canonical (s : AuthorizationScope) : AuthorizationScope :=
  { s with attributes := orderBy Prod.fst s.attributes }

def MemoryScopeBinding.canonical (b : MemoryScopeBinding) : MemoryScopeBinding :=
  { b with scope := b.scope.canonical }

def RegressionEvidence.canonical (e : RegressionEvidence) : RegressionEvidence :=
  { e with artifactHashes := sortedStrings e.artifactHashes }

def SnapshotV3MigrationMapping.canonical (m : SnapshotV3MigrationMapping) : SnapshotV3MigrationMapping where
  repositories := (orderBy CanonicalRepository.repositoryId m.repositories).map CanonicalRepository.canonical
  tenants := (orderBy TenantIdentity.tenantId m.tenants).map TenantIdentity.canonical
  traceBindings := orderBy TraceIdentityBinding.traceId m.traceBindings
  memoryScopes := (orderBy scopeOrder m.memoryScopes).map MemoryScopeBinding.canonical
  regressionEvidence := (orderBy evidenceOrder m.regressionEvidence).map RegressionEvidence.canonical
  globalPolicyApprovals := orderBy GlobalPolicyApproval.policyId m.globalPolicyApprovals
  ancestryPolicy := m.ancestryPolicy

theorem sortedStrings_perm (l : List Str) : (sortedStrings l).Perm l := orderBy_perm id l

theorem CanonicalRepository.check_canonical {r : CanonicalRepository} :
    r.canonical.check = .ok () ↔ r.check = .ok () := by
  simp only [CanonicalRepository.check, CanonicalRepository.canonical, bind_eq_ok, exists_unit,
    stringTuple_perm (sortedStrings_perm r.legacyAliases)]

theorem TenantIdentity.check_canonical {t : TenantIdentity} : t.canonical.check = .ok () ↔ t.check = .ok () := by
  simp only [TenantIdentity.check, TenantIdentity.canonical, bind_eq_ok, exists_unit,
    stringTuple_perm (sortedStrings_perm t.legacyAliases)]

theorem AuthorizationScope.check_canonical {s : AuthorizationScope} :
    s.canonical.check = .ok () ↔ s.check = .ok () := by
  simp only [AuthorizationScope.check, bind_eq_ok, exists_unit, raiseIf_eq_ok]
  simp only [AuthorizationScope.canonical, checkAttributes_perm (orderBy_perm Prod.fst s.attributes)]

theorem MemoryScopeBinding.check_canonical {b : MemoryScopeBinding} :
    b.canonical.check = .ok () ↔ b.check = .ok () := by
  simp only [MemoryScopeBinding.check, MemoryScopeBinding.canonical, bind_eq_ok, exists_unit,
    AuthorizationScope.check_canonical]

theorem RegressionEvidence.check_canonical {e : RegressionEvidence} :
    e.canonical.check = .ok () ↔ e.check = .ok () := by
  have hperm := sortedStrings_perm e.artifactHashes
  simp only [RegressionEvidence.check, RegressionEvidence.canonical, RegressionEvidence.identifiers,
    RegressionEvidence.metadata, bind_eq_ok, exists_unit, raiseIf_eq_ok, checkEach_eq_ok, hperm.length_eq,
    hperm.mem_iff, hperm.nodup_iff]

theorem flatMap_perm_canonical {α : Type} {f : α → List Str} {c : α → α} (hc : ∀ a, (f (c a)).Perm (f a))
    {l m : List α} (hperm : l.Perm m) : ((l.map c).flatMap f).Perm (m.flatMap f) := by
  rw [List.flatMap_map]
  exact hperm.flatMap fun a _ => hc a

theorem unique_perm {α κ : Type} [DecidableEq κ] {key : α → κ} {l m : List α} {name label : String}
    (hperm : (l.map key).Perm (m.map key)) :
    unique key l name label = .ok () ↔ unique key m name label = .ok () := by
  simp only [unique, raiseIf_eq_ok, not_not, hperm.nodup_iff]

theorem uniqueAliases_perm {α : Type} {key : α → Str} {aliases : α → List Str} {l m : List α} {label : String}
    (hkeys : (l.map key).Perm (m.map key)) (haliases : (l.flatMap aliases).Perm (m.flatMap aliases)) :
    uniqueAliases key aliases l label = .ok () ↔ uniqueAliases key aliases m label = .ok () := by
  simp only [uniqueAliases, bind_eq_ok, exists_unit, raiseIf_eq_ok, not_not, haliases.nodup_iff, haliases.mem_iff,
    hkeys.mem_iff]

theorem typedTuple_length {α β : Type} {l : List α} {m : List β} {name : Str} (h : l.length = m.length) :
    typedTuple l name = .ok () ↔ typedTuple m name = .ok () := by
  simp only [typedTuple, raiseIf_eq_ok, h]

theorem map_canonical_perm {α κ : Type} {k : α → κ} {c : α → α} (hc : ∀ a, k (c a) = k a) {l m : List α}
    (hperm : l.Perm m) : ((l.map c).map k).Perm (m.map k) := by
  have hkey : k ∘ c = k := funext hc
  rw [List.map_map, hkey]
  exact hperm.map k

theorem check_canonical {m : SnapshotV3MigrationMapping} : m.canonical.check = .ok () ↔ m.check = .ok () := by
  have hrepositories := orderBy_perm CanonicalRepository.repositoryId m.repositories
  have htenants := orderBy_perm TenantIdentity.tenantId m.tenants
  have htraces := orderBy_perm TraceIdentityBinding.traceId m.traceBindings
  have hscopes := orderBy_perm scopeOrder m.memoryScopes
  have hevidence := orderBy_perm evidenceOrder m.regressionEvidence
  have happrovals := orderBy_perm GlobalPolicyApproval.policyId m.globalPolicyApprovals
  have hid := map_canonical_perm (k := CanonicalRepository.repositoryId) (c := CanonicalRepository.canonical)
    (fun _ => rfl) hrepositories
  have htenant := map_canonical_perm (k := TenantIdentity.tenantId) (c := TenantIdentity.canonical)
    (fun _ => rfl) htenants
  simp only [SnapshotV3MigrationMapping.check, SnapshotV3MigrationMapping.canonical, bind_eq_ok, exists_unit,
    typedTuple_length ((List.length_map _).trans hrepositories.length_eq),
    typedTuple_length ((List.length_map _).trans htenants.length_eq), typedTuple_length htraces.length_eq,
    typedTuple_length ((List.length_map _).trans hscopes.length_eq),
    typedTuple_length ((List.length_map _).trans hevidence.length_eq), typedTuple_length happrovals.length_eq,
    unique_perm hid, unique_perm htenant,
    unique_perm (map_canonical_perm (k := fun r : CanonicalRepository => (r.provider, r.providerRepositoryId))
      (c := CanonicalRepository.canonical) (fun _ => rfl) hrepositories),
    uniqueAliases_perm hid (flatMap_perm_canonical (f := CanonicalRepository.legacyAliases)
      (fun r => sortedStrings_perm r.legacyAliases) hrepositories),
    uniqueAliases_perm htenant (flatMap_perm_canonical (f := TenantIdentity.legacyAliases)
      (fun t => sortedStrings_perm t.legacyAliases) htenants),
    unique_perm (htraces.map TraceIdentityBinding.traceId),
    unique_perm (map_canonical_perm (k := scopeKey) (c := MemoryScopeBinding.canonical) (fun _ => rfl) hscopes),
    unique_perm (map_canonical_perm (k := RegressionEvidence.caseId) (c := RegressionEvidence.canonical)
      (fun _ => rfl) hevidence),
    unique_perm (map_canonical_perm (k := RegressionEvidence.evidenceId) (c := RegressionEvidence.canonical)
      (fun _ => rfl) hevidence),
    unique_perm (happrovals.map GlobalPolicyApproval.policyId)]

end Canonical

section Reads

theorem string_text {s : Str} (h : utf8 s = true) (label : Str) : string (.str s) label = .ok s := by
  rw [string, unicode, raiseIf_of_not (by simp [h])]
  rfl

variable {fields : Fields} (hkeys : (fields.map Prod.fst).Nodup)

include hkeys

theorem stringAt_get (i : Nat) (name : String) {s : Str} (hs : utf8 s = true)
    (h : fields[i]? = some (lit name, .str s)) : stringAt fields name = .ok s := by
  rw [stringAt, valueAt_get hkeys i _ _ h, string_text hs]

theorem nullableAt_get (i : Nat) (name : String) {s : Option Str} (hs : ∀ v ∈ s, utf8 v = true)
    (h : fields[i]? = some (lit name, nullable s)) : nullableAt fields name = .ok s := by
  rw [nullableAt, valueAt_get hkeys i _ _ h]
  cases s with
  | none => rfl
  | some v =>
    rw [nullable, Option.elim_some, nullableString, string_text (hs v rfl)]
    · rfl
    · intro h
      cases h

theorem stringsAt_get (i : Nat) (name : String) {l : List Str} (hlength : l.length ≤ maxRegistryItems)
    (hl : ∀ v ∈ l, utf8 v = true) (h : fields[i]? = some (lit name, jsonStrings l)) :
    stringsAt fields name = .ok l := by
  have hread : collect (fun item => string item (lit name)) (l.map .str) = .ok l := by
    clear hlength h
    induction l with
    | nil => rfl
    | cons v l ih =>
      rw [List.map_cons, collect, string_text (hl v List.mem_cons_self),
        ih fun w hw => hl w (List.mem_cons_of_mem _ hw)]
      rfl
  rw [stringsAt, valueAt_get hkeys i _ _ h, jsonStrings, array, raiseIf_of_not (by rw [List.length_map]; omega)]
  exact hread

theorem recordsAt_get {α : Type} {parse : Json → Except GateError α} {entries : α → Fields} {canonical : α → α}
    (i : Nat) (name : String) {l : List α} (hlength : l.length ≤ maxRegistryItems)
    (hl : ∀ a ∈ l, parse (.obj (entries a)) = .ok (canonical a))
    (h : fields[i]? = some (lit name, objects entries l)) :
    recordsAt parse fields name = .ok (l.map canonical) := by
  have hread : collect parse (l.map (fun a => .obj (entries a))) = .ok (l.map canonical) := by
    clear hlength h
    induction l with
    | nil => rfl
    | cons a l ih =>
      rw [List.map_cons, collect, hl a List.mem_cons_self, ih fun b hb => hl b (List.mem_cons_of_mem _ hb)]
      rfl
  rw [recordsAt, valueAt_get hkeys i _ _ h, objects, array, raiseIf_of_not (by rw [List.length_map]; omega)]
  exact hread

end Reads

section Tables

-- the names of a record's fields, each once and each encodable
structure Names (fields : Fields) (names : List Str) : Prop where
  keys : fields.map Prod.fst = names
  nodup : names.Nodup
  texts : ∀ name ∈ names, utf8 name = true

theorem Names.fields_nodup {fields : Fields} {names : List Str} (h : Names fields names) :
    (fields.map Prod.fst).Nodup := h.keys.symm ▸ h.nodup

theorem object_names {fields : Fields} {names : List Str} (h : Names fields names) (label : String) :
    object label names (.obj fields) = .ok fields := by
  have hunicode : checkEach (fun f : Str × Json => unicode f.1 (lit label ++ lit " field name")) fields = .ok () := by
    rw [checkEach_eq_ok]
    intro f hf
    have htext := h.texts f.1 (h.keys ▸ List.mem_map_of_mem hf)
    simp [unicode, htext]
  have hsame : firstOutside names names = none := firstOutside_eq_none.mpr fun _ hname => hname
  rw [object, hunicode, h.keys, missingField, unknownField, hsame]
  rfl

def goodNames (names : List Str) : Bool := decide names.Nodup && names.all utf8

theorem names_of_good {fields : Fields} {names : List Str} (h : goodNames names = true)
    (hkeys : fields.map Prod.fst = names) : Names fields names := by
  simp only [goodNames, Bool.and_eq_true, decide_eq_true_eq, List.all_eq_true] at h
  exact ⟨hkeys, h.1, h.2⟩

theorem named_text {α : Type} {values : List α} {text : α → Str} {a : α} (ha : a ∈ values)
    (hinj : ∀ b ∈ values, text b = text a → b = a) (message : Str) : named values text (text a) message = .ok a := by
  rw [named, demand_eq_ok]
  cases hfound : values.find? (fun b => decide (text b = text a)) with
  | none => exact absurd (List.find?_eq_none.mp hfound a ha) (by simp)
  | some b =>
    have htext := List.find?_some hfound
    rw [decide_eq_true_eq] at htext
    rw [hinj b (List.mem_of_find?_eq_some hfound) htext]

end Tables

end Migration

end TraceBackedMemory
