import TraceBackedMemory.Projection.Compare
import TraceBackedMemory.Foundation.SortedKeys
import TraceBackedMemory.Ledger.Interleaving
import Mathlib.Data.List.Dedup

namespace TraceBackedMemory

open Text Raising OrderBy

namespace Projection

section Positions

inductive Position where
  | added (path : Str) (shadow : Json)
  | removed (path : Str) (active : Json)
  | typeChanged (path : Str) (active shadow : Json)
  | compared (path : Str) (active shadow : Json)
  | entered (path : Str)

def Position.difference (sha : Sha256) (same : Json → Json → Bool) :
    Position → Option ProjectionDifference
  | .added path shadow => some (addedAt sha path shadow)
  | .removed path active => some (removedAt sha path active)
  | .typeChanged path active shadow => some (typeChangedAt sha path active shadow)
  | .compared path active shadow =>
    if same active shadow = true then none else some (changedAt sha path active shadow)
  | .entered _ => none

abbrev Locator := Json → Str → List Position

def locator? (key : Str) : List (Str × Locator) → Option Locator
  | [] => none
  | (k, locate) :: fields => if k = key then some locate else locator? key fields

def keyPositions (path : Str) : Option Json → Option Json → Option Locator → List Position
  | none, none, _ => []
  | none, some shadow, _ => [.added path shadow]
  | some active, none, _ => [.removed path active]
  | some _, some _, none => []
  | some _, some shadow, some locate => locate shadow path

def pairPositions (locators : List (Str × Locator)) (active shadow : Json) (path : Str) :
    List Position :=
  match active, shadow with
  | .obj fields, .obj shadowFields =>
    .entered path :: (sortedKeys (fields.map Prod.fst) (shadowFields.map Prod.fst)).flatMap
      (fun key => keyPositions (childPath path key) (Json.field? key fields)
        (Json.field? key shadowFields) (locator? key locators))
  | active, shadow =>
    if active.pyType ≠ shadow.pyType then [.typeChanged path active shadow]
    else [.compared path active shadow]

mutual

def positions : Json → Locator
  | .obj fields => pairPositions (locators fields) (.obj fields)
  | .null => pairPositions [] .null
  | .bool b => pairPositions [] (.bool b)
  | .num n => pairPositions [] (.num n)
  | .str s => pairPositions [] (.str s)
  | .arr items => pairPositions [] (.arr items)

def locators : List (Str × Json) → List (Str × Locator)
  | [] => []
  | (key, value) :: fields => (key, positions value) :: locators fields

end

def identical (active shadow : Json) : Bool := decide (active = shadow)

def visits (sha : Sha256) (same : Json → Json → Bool) (active shadow : Json) :
    List (Option ProjectionDifference) :=
  (positions active shadow (lit "state")).map (Position.difference sha same)

def exactDifferences (sha : Sha256) (active shadow : Json) : List ProjectionDifference :=
  (visits sha identical active shadow).reduceOption

end Positions

section Walk

theorem field_cons (key k : Str) (value : Json) (fields : List (Str × Json)) :
    Json.field? key ((k, value) :: fields) =
      if k = key then some value else Json.field? key fields := by
  by_cases hk : k = key
  · simp [Json.field?, hk]
  · simp [Json.field?, hk]

theorem locator_locators (key : Str) (fields : List (Str × Json)) :
    locator? key (locators fields) = (Json.field? key fields).map positions := by
  induction fields with
  | nil => rfl
  | cons field fields ih =>
    rw [locators, locator?, ih, field_cons]
    split <;> rfl

variable (sha : Sha256)

theorem activeField_activeFields (key : Str) (fields : List (Str × Json)) :
    activeField? key (activeFields sha fields) =
      (Json.field? key fields).map (fun value => ⟨value, collectDifferences sha value⟩) := by
  induction fields with
  | nil => rfl
  | cons field fields ih =>
    rw [activeFields, activeField?, ih, field_cons]
    split <;> rfl

theorem keys_activeFields (fields : List (Str × Json)) :
    (activeFields sha fields).map Prod.fst = fields.map Prod.fst := by
  induction fields with
  | nil => rfl
  | cons field fields ih => rw [activeFields, List.map_cons, List.map_cons, ih]

theorem positions_ne_nil (active shadow : Json) (path : Str) : positions active shadow path ≠ [] := by
  have hpair (locators : List (Str × Locator)) (active : Json) :
      pairPositions locators active shadow path ≠ [] := by
    unfold pairPositions
    split
    · simp
    · split <;> simp
  cases active <;> rw [positions] <;> exact hpair _ _

def fieldPositions (path key : Str) : Option Json → Option Json → List Position
  | none, none => []
  | none, some shadow => [.added (childPath path key) shadow]
  | some active, none => [.removed (childPath path key) active]
  | some active, some shadow => positions active shadow (childPath path key)

theorem positions_obj (fields shadowFields : List (Str × Json)) (path : Str) :
    positions (.obj fields) (.obj shadowFields) path =
      .entered path :: (sortedKeys (fields.map Prod.fst) (shadowFields.map Prod.fst)).flatMap
        (fun key =>
          fieldPositions path key (Json.field? key fields) (Json.field? key shadowFields)) := by
  rw [positions, pairPositions]
  congr 2
  funext key
  rw [locator_locators]
  cases Json.field? key fields <;> cases Json.field? key shadowFields <;> rfl

open CappedWalk

def walkDifferences (found : List Position) (sink : List ProjectionDifference) :
    Except ProjectionError (Bool × List ProjectionDifference) :=
  walk maxDifferences ProjectionDifference.check
    (found.map (Position.difference sha Json.pyEq)) sink

theorem walkDifferences_append (found rest : List Position) (sink : List ProjectionDifference) :
    walkDifferences sha (found ++ rest) sink =
      walkDifferences sha found sink >>= fun walked =>
        if walked.1 = true then .ok walked else walkDifferences sha rest walked.2 := by
  rw [walkDifferences, List.map_append, walk_append]
  rfl

theorem walkDifferences_full {found : List Position} {sink : List ProjectionDifference}
    (hfound : found ≠ []) (hfull : maxDifferences ≤ sink.length) :
    walkDifferences sha found sink = .ok (true, sink) :=
  walk_full (by simpa using hfound) hfull

theorem walkDifferences_one {position : Position} {found : ProjectionDifference}
    (h : position.difference sha Json.pyEq = some found) {sink : List ProjectionDifference}
    (hroom : ¬maxDifferences ≤ sink.length) :
    walkDifferences sha [position] sink =
      found.check >>= fun _ => .ok (false, sink ++ [found]) := by
  rw [walkDifferences, List.map_singleton, h, walk, if_neg hroom]
  rfl

theorem walkDifferences_none {position : Position}
    (h : position.difference sha Json.pyEq = none) {sink : List ProjectionDifference}
    (hroom : ¬maxDifferences ≤ sink.length) (rest : List Position) :
    walkDifferences sha (position :: rest) sink = walkDifferences sha rest sink := by
  rw [walkDifferences, List.map_cons, h, walk, if_neg hroom]
  rfl

def Collects (active : Json) : Prop :=
  ∀ shadow path sink, collectDifferences sha active shadow path sink =
    walkDifferences sha (positions active shadow path) sink

theorem field_mem {key : Str} {fields : List (Str × Json)} {value : Json}
    (h : Json.field? key fields = some value) : (key, value) ∈ fields := by
  rw [Json.field?, Option.map_eq_some_iff] at h
  obtain ⟨⟨k, v⟩, hfind, rfl⟩ := h
  have hk : k = key := by simpa using List.find?_some hfind
  exact hk ▸ List.mem_of_find?_eq_some hfind

theorem compareKeys_eq {fields shadowFields : List (Str × Json)} {path : Str}
    (hchild : ∀ field ∈ fields, Collects sha field.2) {keys : List Str}
    (hkeys : ∀ key ∈ keys, fieldPositions path key (Json.field? key fields)
      (Json.field? key shadowFields) ≠ []) (sink : List ProjectionDifference) :
    compareKeys sha (activeFields sha fields) shadowFields path keys sink =
      walkDifferences sha (keys.flatMap (fun key => fieldPositions path key
        (Json.field? key fields) (Json.field? key shadowFields))) sink := by
  induction keys generalizing sink with
  | nil => rfl
  | cons key keys ih =>
    have hkey := hkeys key List.mem_cons_self
    have hrest := ih fun k hk => hkeys k (List.mem_cons_of_mem _ hk)
    rw [List.flatMap_cons, walkDifferences_append, compareKeys, activeField_activeFields]
    by_cases hfull : maxDifferences ≤ sink.length
    · rw [if_pos hfull, walkDifferences_full sha hkey hfull]
      rfl
    · rw [if_neg hfull]
      cases hactive : Json.field? key fields with
      | none =>
        cases hshadow : Json.field? key shadowFields with
        | none =>
          rw [hactive, hshadow] at hkey
          exact absurd rfl hkey
        | some shadow =>
          simp only [Option.map_none, fieldPositions, hrest]
          rw [walkDifferences_one sha rfl hfull]
          cases ProjectionDifference.check (addedAt sha (childPath path key) shadow) <;> rfl
      | some active =>
        cases hshadow : Json.field? key shadowFields with
        | none =>
          simp only [Option.map_some, fieldPositions, hrest]
          rw [walkDifferences_one sha rfl hfull]
          cases ProjectionDifference.check (removedAt sha (childPath path key) active) <;> rfl
        | some shadow =>
          simp only [Option.map_some, fieldPositions, hrest]
          rw [hchild (key, active) (field_mem hactive)]
          rfl

theorem mem_sortedKeys {key : Str} {active shadow : List Str} :
    key ∈ sortedKeys active shadow ↔ key ∈ active ∨ key ∈ shadow := by
  rw [sortedKeys, mem_orderBy, List.mem_dedup, List.mem_append]

theorem field_isSome_iff {key : Str} {fields : List (Str × Json)} :
    key ∈ fields.map Prod.fst ↔ ∃ value, Json.field? key fields = some value := by
  constructor
  · intro h
    obtain ⟨field, hf, rfl⟩ := List.mem_map.mp h
    have hsome : (fields.find? (fun p => decide (p.1 = field.1))).isSome = true :=
      List.find?_isSome.mpr ⟨field, hf, decide_eq_true rfl⟩
    obtain ⟨found, hfound⟩ := Option.isSome_iff_exists.mp hsome
    exact ⟨found.2, by rw [Json.field?, hfound]; rfl⟩
  · rintro ⟨value, h⟩
    exact List.mem_map_of_mem (field_mem h)

theorem fieldPositions_ne_nil {fields shadowFields : List (Str × Json)} {path key : Str}
    (h : key ∈ sortedKeys (fields.map Prod.fst) (shadowFields.map Prod.fst)) :
    fieldPositions path key (Json.field? key fields) (Json.field? key shadowFields) ≠ [] := by
  rw [mem_sortedKeys, field_isSome_iff, field_isSome_iff] at h
  rcases h with ⟨value, h⟩ | ⟨value, h⟩
  · rw [h]
    cases Json.field? key shadowFields with
    | none => exact List.cons_ne_nil _ _
    | some shadow => exact positions_ne_nil _ _ _
  · rw [h]
    cases Json.field? key fields with
    | none => exact List.cons_ne_nil _ _
    | some active => exact positions_ne_nil _ _ _

def BothDicts (active shadow : Json) : Prop := active.pyType = .dict ∧ shadow.pyType = .dict

theorem pairPositions_leaf {active shadow : Json} (h : ¬BothDicts active shadow)
    (locators : List (Str × Locator)) (path : Str) :
    pairPositions locators active shadow path =
      if active.pyType ≠ shadow.pyType then [.typeChanged path active shadow]
      else [.compared path active shadow] := by
  unfold pairPositions
  split
  · exact absurd ⟨rfl, rfl⟩ h
  · rfl

theorem compareValues_leaf {active shadow : Json} (h : ¬BothDicts active shadow)
    (fields : List (Str × ActiveField)) (locators : List (Str × Locator)) (path : Str)
    (sink : List ProjectionDifference) :
    compareValues sha fields active shadow path sink =
      walkDifferences sha (pairPositions locators active shadow path) sink := by
  rw [pairPositions_leaf h]
  unfold compareValues
  by_cases hfull : maxDifferences ≤ sink.length
  · rw [if_pos hfull]
    split <;> rw [walkDifferences_full sha (List.cons_ne_nil _ _) hfull]
  · rw [if_neg hfull]
    split
    · rw [walkDifferences_one sha rfl hfull]
      rfl
    · split
      · exact absurd ⟨rfl, rfl⟩ h
      · split
        · next hsame =>
          rw [walkDifferences_none sha (by rw [Position.difference, if_pos hsame]) hfull]
          rfl
        · next hsame =>
          rw [walkDifferences_one sha (by rw [Position.difference, if_neg hsame]) hfull]
          rfl

theorem collectDifferences_eq (active : Json) : Collects sha active := by
  induction active using Json.inductOn with
  | obj fields ih =>
    intro shadow path sink
    by_cases hdicts : BothDicts (.obj fields) shadow
    · have hform := Json.pyType_form shadow
      rw [hdicts.2] at hform
      obtain ⟨shadowFields, rfl⟩ : ∃ shadowFields, shadow = .obj shadowFields := hform
      rw [positions_obj, collectDifferences, compareValues]
      by_cases hfull : maxDifferences ≤ sink.length
      · rw [if_pos hfull, walkDifferences_full sha (List.cons_ne_nil _ _) hfull]
      · rw [if_neg hfull, if_neg (fun h => h rfl), walkDifferences_none sha rfl hfull,
          keys_activeFields]
        exact compareKeys_eq sha ih (fun key hkey => fieldPositions_ne_nil hkey) sink
    · rw [positions, collectDifferences]
      exact compareValues_leaf sha hdicts _ _ path sink
  | num n =>
    intro shadow path sink
    rw [positions, collectDifferences]
    refine compareValues_leaf sha (fun hdicts => ?_) _ _ path sink
    cases n <;> cases hdicts.1
  | null | bool b | str s | arr items ih =>
    intro shadow path sink
    rw [positions, collectDifferences]
    refine compareValues_leaf sha (fun hdicts => ?_) _ _ path sink
    cases hdicts.1

end Walk

section Equality

theorem field_eq_of_mem {fields : List (Str × Json)} {key : Str} {value : Json}
    (hsorted : fields.Pairwise (fun a b => Json.increasing a.1 b.1 = true))
    (h : (key, value) ∈ fields) : Json.field? key fields = some value := by
  induction fields with
  | nil => cases h
  | cons field fields ih =>
    obtain ⟨hlt, htail⟩ := List.pairwise_cons.mp hsorted
    rw [field_cons]
    rcases List.mem_cons.mp h with rfl | h
    · rw [if_pos rfl]
    · have hne : field.1 ≠ key := ne_of_lt (of_decide_eq_true (hlt _ h))
      rw [if_neg hne, ih htail h]

theorem pyEq_refl {value : Json} (h : value.Plain) : value.pyEq value = true :=
  Json.pyEq_self (Json.shaped_imp (fun _ _ => Json.distinct_of_increasing) (fun _ => id)
    (fun _ => id) value h)

theorem fields_ext {fields fields' : List (Str × Json)}
    (hsorted : fields.Pairwise (fun a b => Json.increasing a.1 b.1 = true))
    (hsorted' : fields'.Pairwise (fun a b => Json.increasing a.1 b.1 = true))
    (h : ∀ key, Json.field? key fields = Json.field? key fields') : fields = fields' := by
  have hlt (a b : Str × Json) (hab : Json.increasing a.1 b.1 = true) : a.1 < b.1 :=
    of_decide_eq_true hab
  have hnodup {l : List (Str × Json)}
      (hl : l.Pairwise (fun a b => Json.increasing a.1 b.1 = true)) : l.Nodup :=
    hl.imp fun hab heq => absurd (hlt _ _ hab) (heq ▸ lt_irrefl _)
  have hmem (field : Str × Json) : field ∈ fields ↔ field ∈ fields' := by
    constructor
    · exact fun hf => field_mem ((h field.1).symm.trans (field_eq_of_mem hsorted hf))
    · exact fun hf => field_mem ((h field.1).trans (field_eq_of_mem hsorted' hf))
  have hperm : fields.Perm fields' :=
    (List.perm_ext_iff_of_nodup (hnodup hsorted) (hnodup hsorted')).mpr hmem
  refine hperm.eq_of_pairwise ?_ hsorted hsorted'
  intro a b _ _ hab hba
  exact absurd (hlt a b hab) (lt_asymm (hlt b a hba))

end Equality

section Exactness

variable {sha : Sha256}

def Agree (sha : Sha256) (found : List Position) : Prop :=
  ∀ p ∈ found, p.difference sha identical = none

theorem agree_leaf {active shadow : Json} (h : ¬BothDicts active shadow)
    (locators : List (Str × Locator)) (path : Str) :
    Agree sha (pairPositions locators active shadow path) ↔ active = shadow := by
  rw [pairPositions_leaf h]
  by_cases htype : active.pyType = shadow.pyType
  · rw [if_neg (not_not.mpr htype), Agree, List.forall_mem_singleton, Position.difference]
    simp [identical]
  · rw [if_pos htype, Agree, List.forall_mem_singleton, Position.difference]
    simp only [reduceCtorEq, false_iff]
    exact fun heq => htype (heq ▸ rfl)

theorem agree_obj {fields shadowFields : List (Str × Json)} {path : Str}
    (hsorted : fields.Pairwise (fun a b => Json.increasing a.1 b.1 = true))
    (hsorted' : shadowFields.Pairwise (fun a b => Json.increasing a.1 b.1 = true))
    (hchild : ∀ field ∈ fields, ∀ shadow ∈ shadowFields, ∀ path,
      Agree sha (positions field.2 shadow.2 path) ↔ field.2 = shadow.2) :
    Agree sha (positions (.obj fields) (.obj shadowFields) path) ↔ fields = shadowFields := by
  have hagree : Agree sha (positions (.obj fields) (.obj shadowFields) path) ↔
      ∀ key ∈ sortedKeys (fields.map Prod.fst) (shadowFields.map Prod.fst),
        Agree sha (fieldPositions path key (Json.field? key fields)
          (Json.field? key shadowFields)) := by
    rw [positions_obj, Agree, List.forall_mem_cons, List.forall_mem_flatMap]
    exact and_iff_right rfl
  have hkey (key : Str) (h : Json.field? key fields ≠ none ∨ Json.field? key shadowFields ≠ none) :
      Agree sha (fieldPositions path key (Json.field? key fields) (Json.field? key shadowFields)) ↔
        Json.field? key fields = Json.field? key shadowFields := by
    cases hactive : Json.field? key fields with
    | none =>
      cases hshadow : Json.field? key shadowFields with
      | none => simp [hactive, hshadow] at h
      | some shadow => simp [fieldPositions, Agree, Position.difference]
    | some active =>
      cases hshadow : Json.field? key shadowFields with
      | none => simp [fieldPositions, Agree, Position.difference]
      | some shadow =>
        rw [Option.some.injEq]
        exact hchild _ (field_mem hactive) _ (field_mem hshadow) _
  rw [hagree]
  constructor
  · intro h
    refine fields_ext hsorted hsorted' fun key => ?_
    by_cases hnone : Json.field? key fields = none ∧ Json.field? key shadowFields = none
    · rw [hnone.1, hnone.2]
    · have hsome := not_and_or.mp hnone
      refine (hkey key hsome).mp (h key ?_)
      rw [mem_sortedKeys, field_isSome_iff, field_isSome_iff]
      exact hsome.imp Option.ne_none_iff_exists'.mp Option.ne_none_iff_exists'.mp
  · rintro rfl key hmem
    rw [mem_sortedKeys, or_self, field_isSome_iff] at hmem
    obtain ⟨value, hvalue⟩ := hmem
    exact (hkey key (.inl (by rw [hvalue]; exact Option.some_ne_none _))).mpr rfl

theorem agree_iff {active shadow : Json} (ha : active.Plain) (hs : shadow.Plain) (path : Str) :
    Agree sha (positions active shadow path) ↔ active = shadow := by
  induction active using Json.inductOn generalizing shadow path with
  | obj fields ih =>
    by_cases hdicts : BothDicts (.obj fields) shadow
    · have hform := Json.pyType_form shadow
      rw [hdicts.2] at hform
      obtain ⟨shadowFields, rfl⟩ : ∃ shadowFields, shadow = .obj shadowFields := hform
      obtain ⟨hsorted, hfields⟩ := Json.shaped_obj.mp ha
      obtain ⟨hsorted', hfields'⟩ := Json.shaped_obj.mp hs
      rw [agree_obj hsorted hsorted', Json.obj.injEq]
      exact fun field hf shadow hsf path =>
        ih field hf (hfields field hf).2 (hfields' shadow hsf).2 path
    · rw [positions]
      exact agree_leaf hdicts _ path
  | num n =>
    rw [positions]
    refine agree_leaf (fun hdicts => ?_) _ path
    cases n <;> cases hdicts.1
  | null | bool b | str s | arr items ih =>
    rw [positions]
    refine agree_leaf (fun hdicts => ?_) _ path
    cases hdicts.1

theorem exactDifferences_eq_nil {active shadow : Json} (ha : active.Plain) (hs : shadow.Plain) :
    exactDifferences sha active shadow = [] ↔ active = shadow := by
  rw [← agree_iff ha hs (lit "state"), exactDifferences, visits, List.reduceOption, List.filterMap_map,
    List.filterMap_eq_nil_iff]
  rfl

def PositionLawful (path : Str) : Position → Prop
  | .added path' _ | .removed path' _ | .typeChanged path' _ _ | .entered path' =>
    path.length ≤ path'.length
  | .compared path' active _ => path.length ≤ path'.length ∧ active.Plain

theorem PositionLawful.longer {path path' : Str} (h : path.length ≤ path'.length) {p : Position}
    (hp : PositionLawful path' p) : PositionLawful path p := by
  cases p with
  | compared => exact ⟨Nat.le_trans h hp.1, hp.2⟩
  | _ => exact Nat.le_trans h hp

theorem lawful_leaf {active shadow : Json} (h : ¬BothDicts active shadow) (ha : active.Plain)
    (locators : List (Str × Locator)) (path : Str) :
    ∀ p ∈ pairPositions locators active shadow path, PositionLawful path p := by
  rw [pairPositions_leaf h]
  split
  · exact List.forall_mem_singleton.mpr (Nat.le_refl _)
  · exact List.forall_mem_singleton.mpr ⟨Nat.le_refl _, ha⟩

theorem positions_lawful {active shadow : Json} (ha : active.Plain) (path : Str) :
    ∀ p ∈ positions active shadow path, PositionLawful path p := by
  induction active using Json.inductOn generalizing shadow path with
  | obj fields ih =>
    by_cases hdicts : BothDicts (.obj fields) shadow
    · have hform := Json.pyType_form shadow
      rw [hdicts.2] at hform
      obtain ⟨shadowFields, rfl⟩ : ∃ shadowFields, shadow = .obj shadowFields := hform
      obtain ⟨-, hfields⟩ := Json.shaped_obj.mp ha
      rw [positions_obj, List.forall_mem_cons, List.forall_mem_flatMap]
      refine ⟨Nat.le_refl _, fun key _ p hp => ?_⟩
      have hlonger : path.length ≤ (childPath path key).length := by
        simp [childPath, List.length_append]
      apply PositionLawful.longer hlonger
      cases hactive : Json.field? key fields with
      | none =>
        cases hshadow : Json.field? key shadowFields with
        | none =>
          rw [hactive, hshadow] at hp
          cases hp
        | some shadow =>
          rw [hactive, hshadow] at hp
          obtain rfl := List.mem_singleton.mp hp
          exact Nat.le_refl _
      | some value =>
        have hmem := field_mem hactive
        cases hshadow : Json.field? key shadowFields with
        | none =>
          rw [hactive, hshadow] at hp
          obtain rfl := List.mem_singleton.mp hp
          exact Nat.le_refl _
        | some shadow =>
          rw [hactive, hshadow] at hp
          exact ih _ hmem (hfields _ hmem).2 _ p hp
    · rw [positions]
      exact lawful_leaf hdicts ha _ path
  | num n =>
    rw [positions]
    refine lawful_leaf (fun hdicts => ?_) ha _ path
    cases n <;> cases hdicts.1
  | null | bool b | str s | arr items ih =>
    rw [positions]
    refine lawful_leaf (fun hdicts => ?_) ha _ path
    cases hdicts.1

def Position.Blind : Position → Prop
  | .compared _ active shadow => active.pyEq shadow = true ∧ active ≠ shadow
  | .added _ _ | .removed _ _ | .typeChanged _ _ _ | .entered _ => False

instance decidableBlind : (p : Position) → Decidable p.Blind
  | .compared _ active shadow =>
    inferInstanceAs (Decidable (active.pyEq shadow = true ∧ active ≠ shadow))
  | .added _ _ | .removed _ _ | .typeChanged _ _ _ | .entered _ => isFalse id

theorem difference_cases {p : Position} {path : Str} (hp : PositionLawful path p) :
    (p.difference sha Json.pyEq = none ∨ p.difference sha Json.pyEq = p.difference sha identical) ∧
      (p.difference sha Json.pyEq = p.difference sha identical ↔ ¬p.Blind) := by
  cases p with
  | compared path' active shadow =>
    by_cases heq : active = shadow
    · subst heq
      simp [Position.difference, identical, pyEq_refl hp.2, Position.Blind]
    · by_cases hpy : active.pyEq shadow = true
      · simp [Position.difference, identical, hpy, heq, Position.Blind]
      · simp [Position.difference, identical, hpy, heq, Position.Blind]
  | _ => simp [Position.difference, Position.Blind]

theorem misses_of_plain {active shadow : Json} (ha : active.Plain) :
    CappedWalk.Misses (visits sha Json.pyEq active shadow) (visits sha identical active shadow) := by
  rw [CappedWalk.Misses, visits, visits, List.forall₂_map_left_iff, List.forall₂_map_right_iff,
    List.forall₂_same]
  exact fun p hp => (difference_cases (positions_lawful ha _ p hp)).1

theorem visits_eq_iff {active shadow : Json} (ha : active.Plain) :
    visits sha Json.pyEq active shadow = visits sha identical active shadow ↔
      ∀ p ∈ positions active shadow (lit "state"), ¬p.Blind := by
  rw [visits, visits, List.map_inj_left]
  exact forall₂_congr fun p hp => (difference_cases (positions_lawful ha _ p hp)).2

theorem runtimeDigest_domain (domain : Str) (value : Json) (name : Str) :
    runtimeDigest (sha.domain domain value) name = .ok () :=
  raiseIf_of_not (by rw [Sha256.validDigest_domain]; exact Bool.noConfusion)

theorem check_found {p : Position} {d : ProjectionDifference} {same : Json → Json → Bool}
    (hp : PositionLawful (lit "state") p) (h : p.difference sha same = some d) :
    d.check = .ok () ↔ d.path.length ≤ maxPath := by
  have hpath (path : Str) (hlength : (lit "state").length ≤ path.length) :
      ¬(path = [] ∨ maxPath < path.length) ↔ path.length ≤ maxPath := by
    have hpositive : 0 < path.length := Nat.lt_of_lt_of_le (by decide) hlength
    rw [not_or, not_lt, and_iff_right (List.ne_nil_of_length_pos hpositive)]
  cases p with
  | entered path => cases h
  | compared path active shadow =>
    rw [Position.difference] at h
    split at h
    · cases h
    · cases h
      rw [ProjectionDifference.check, seq_eq_ok, raiseIf_eq_ok]
      simp only [changedAt, valueSha256, Option.elim, runtimeDigest_domain, seq_eq_ok, and_true]
      exact hpath path hp.1
  | added path shadow | removed path active | typeChanged path active shadow =>
    cases h
    rw [ProjectionDifference.check, seq_eq_ok, raiseIf_eq_ok]
    simp only [addedAt, removedAt, typeChangedAt, valueSha256, Option.elim, runtimeDigest_domain,
      seq_eq_ok, and_true]
    exact hpath path hp

structure Comparable (sha : Sha256) (active shadow : ProjectionState) : Prop where
  short : ∀ d ∈ (visits sha Json.pyEq active.value shadow.value).reduceOption.take maxDifferences,
    d.path.length ≤ maxPath
  counted :
    if maxDifferences ≤ (visits sha Json.pyEq active.value shadow.value).dropLast.reduceOption.length
    then maxDifferences < (exactDifferences sha active.value shadow.value).length
    else ∀ p ∈ positions active.value shadow.value (lit "state"), ¬p.Blind

structure ExactReport (sha : Sha256) (active shadow : ProjectionState)
    (report : ProjectionComparison) : Prop where
  clean : report.differences = [] ∧ report.truncated = false ↔
    stateText active.value = stateText shadow.value
  cut : report.truncated = true ↔
    report.differences ≠ exactDifferences sha active.value shadow.value

theorem collect_eq_ok_iff {active shadow : ProjectionState} {truncated : Bool}
    {differences : List ProjectionDifference} :
    collectDifferences sha active.value shadow.value (lit "state") [] = .ok (truncated, differences) ↔
      (∀ d ∈ (visits sha Json.pyEq active.value shadow.value).reduceOption.take maxDifferences,
        d.path.length ≤ maxPath) ∧
      truncated = decide (maxDifferences ≤
        (visits sha Json.pyEq active.value shadow.value).dropLast.reduceOption.length) ∧
      differences =
        (visits sha Json.pyEq active.value shadow.value).reduceOption.take maxDifferences := by
  have hwalk := collectDifferences_eq sha active.value shadow.value (lit "state") []
  rw [hwalk]
  refine (CappedWalk.walk_eq_ok (by decide)).trans (and_congr_left' (forall₂_congr fun d hd => ?_))
  have hmem : d ∈ (visits sha Json.pyEq active.value shadow.value).reduceOption :=
    List.mem_of_mem_take hd
  obtain ⟨p, hp, hfound⟩ := List.mem_map.mp (List.reduceOption_mem_iff.mp hmem)
  exact check_found (positions_lawful active.plain _ p hp) hfound

theorem compare_eq_ok {store : CheckpointStore} {active shadow : ProjectionCheckpoint}
    (hactive : store.checkpoints.get? (active.buildId sha) = some active)
    (hshadow : store.checkpoints.get? (shadow.buildId sha) = some shadow)
    (hname : active.projectionName = shadow.projectionName)
    (hpartition : active.partitionSha256 = shadow.partitionSha256) {report : ProjectionComparison} :
    compare sha (active.buildId sha) (shadow.buildId sha) store = .ok report ↔
      ∃ truncated differences, collectDifferences sha active.state.value shadow.state.value
          (lit "state") [] = .ok (truncated, differences) ∧
        report = comparison sha active shadow truncated differences := by
  have hload (c : ProjectionCheckpoint) (hc : store.checkpoints.get? (c.buildId sha) = some c) :
      loadCheckpoint (c.buildId sha) store = .ok c := by
    simp only [loadCheckpoint, checkpointDigest, ProjectionCheckpoint.buildId,
      Sha256.validDigest_domain] at hc ⊢
    rw [hc]
    rfl
  have hscope : ¬(active.projectionName ≠ shadow.projectionName ∨
      active.partitionSha256 ≠ shadow.partitionSha256) := by
    rintro (h | h)
    · exact h hname
    · exact h hpartition
  have hcheck (truncated : Bool) (differences : List ProjectionDifference)
      (hlength : differences.length ≤ maxDifferences) :
      (comparison sha active shadow truncated differences).check = .ok () := by
    have hequivalent : (comparison sha active shadow truncated differences).equivalent =
        decide (active.stateSha256 sha = shadow.stateSha256 sha ∧
          active.globalPosition = shadow.globalPosition) := rfl
    rw [ProjectionComparison.check, seq_eq_ok, seq_eq_ok, seq_eq_ok, seq_eq_ok, seq_eq_ok,
      raiseIf_eq_ok, raiseIf_eq_ok]
    exact ⟨runtimeDigest_domain _ _ _, runtimeDigest_domain _ _ _, runtimeDigest_domain _ _ _,
      runtimeDigest_domain _ _ _, not_lt.mpr hlength, not_not.mpr hequivalent⟩
  have hstates : compare sha (active.buildId sha) (shadow.buildId sha) store = (do
      let compared ← collectDifferences sha active.state.value shadow.state.value (lit "state") []
      (comparison sha active shadow compared.1 compared.2).check
      return comparison sha active shadow compared.1 compared.2) := by
    simp only [compare, hload active hactive, hload shadow hshadow, raiseIf_of_not hscope,
      ProjectionState.canonical, bind, Except.bind]
  rw [hstates, bind_eq_ok]
  constructor
  · rintro ⟨⟨truncated, differences⟩, hcollect, hreport⟩
    obtain ⟨-, hreport⟩ := seq_eq_ok.mp hreport
    exact ⟨truncated, differences, hcollect, (pure_eq_ok.mp hreport).symm⟩
  · rintro ⟨truncated, differences, hcollect, rfl⟩
    have hlength : differences.length ≤ maxDifferences := by
      rw [(collect_eq_ok_iff.mp hcollect).2.2]
      exact List.length_take_le _ _
    exact ⟨_, hcollect, seq_eq_ok.mpr ⟨hcheck truncated differences hlength, rfl⟩⟩

theorem exactReport_iff {active shadow : ProjectionCheckpoint} {truncated : Bool}
    {differences : List ProjectionDifference}
    (htruncated : truncated = decide (maxDifferences ≤
      (visits sha Json.pyEq active.state.value shadow.state.value).dropLast.reduceOption.length))
    (hdifferences : differences =
      (visits sha Json.pyEq active.state.value shadow.state.value).reduceOption.take maxDifferences) :
    ExactReport sha active.state shadow.state (comparison sha active shadow truncated differences) ↔
      if maxDifferences ≤
          (visits sha Json.pyEq active.state.value shadow.state.value).dropLast.reduceOption.length
      then maxDifferences < (exactDifferences sha active.state.value shadow.state.value).length
      else ∀ p ∈ positions active.state.value shadow.state.value (lit "state"), ¬p.Blind := by
  have ha := active.state.plain
  have hs := shadow.state.plain
  have hmisses : CappedWalk.Misses (visits sha Json.pyEq active.state.value shadow.state.value)
      (visits sha identical active.state.value shadow.state.value) := misses_of_plain ha
  have hcut := @CappedWalk.Misses.cut_iff _ _ _ maxDifferences hmisses
  rw [visits_eq_iff ha] at hcut
  have hflag : truncated = true ↔ maxDifferences ≤
      (visits sha Json.pyEq active.state.value shadow.state.value).dropLast.reduceOption.length := by
    rw [htruncated, decide_eq_true_eq]
  have htext : stateText active.state.value = stateText shadow.state.value ↔
      exactDifferences sha active.state.value shadow.state.value = [] := by
    rw [stateText_inj, exactDifferences_eq_nil ha hs]
  rw [← exactDifferences, ← hdifferences] at hcut
  refine ⟨fun h => hcut.mp (hflag.symm.trans h.cut), fun h => ?_⟩
  have hexact := hflag.trans (hcut.mpr h)
  refine ⟨?_, hexact⟩
  rw [htext]
  constructor
  · rintro ⟨hempty, hwhole⟩
    have hall : differences = exactDifferences sha active.state.value shadow.state.value := by
      by_contra hne
      exact Bool.noConfusion ((hexact.mpr hne).symm.trans hwhole)
    exact hall.symm.trans hempty
  · intro hnone
    have hempty : differences = [] := by
      apply List.eq_nil_of_sublist_nil
      rw [← hnone, hdifferences]
      exact (List.take_sublist _ _).trans hmisses.sublist
    refine ⟨hempty, ?_⟩
    rw [← Bool.not_eq_true]
    exact fun htrue => hexact.mp htrue (hempty.trans hnone.symm)

theorem projection_comparison_exact_iff {store : CheckpointStore}
    {active shadow : ProjectionCheckpoint}
    (hactive : store.checkpoints.get? (active.buildId sha) = some active)
    (hshadow : store.checkpoints.get? (shadow.buildId sha) = some shadow)
    (hname : active.projectionName = shadow.projectionName)
    (hpartition : active.partitionSha256 = shadow.partitionSha256) :
    (∃ report, compare sha (active.buildId sha) (shadow.buildId sha) store = .ok report ∧
      ExactReport sha active.state shadow.state report) ↔
        Comparable sha active.state shadow.state := by
  constructor
  · rintro ⟨report, hreport, hexact⟩
    obtain ⟨truncated, differences, hcollect, rfl⟩ :=
      (compare_eq_ok hactive hshadow hname hpartition).mp hreport
    obtain ⟨hshort, htruncated, hdifferences⟩ := collect_eq_ok_iff.mp hcollect
    exact ⟨hshort, (exactReport_iff htruncated hdifferences).mp hexact⟩
  · rintro ⟨hshort, hcounted⟩
    have hcollect := collect_eq_ok_iff.mpr ⟨hshort, rfl, rfl⟩
    exact ⟨_, (compare_eq_ok hactive hshadow hname hpartition).mpr ⟨_, _, hcollect, rfl⟩,
      (exactReport_iff rfl rfl).mpr hcounted⟩

def sampleDescriptor : ReducerDescriptor where
  reducerId := lit "inventory"
  reducerVersion := 1
  inputEventTypes := [lit "*"]
  outputProjection := lit "inventory_v1"
  outputSchemaVersion := 1
  codeSha256 := sampleDigest 'a'
  configurationSha256 := sampleDigest 'b'
  deterministic := true
  targetEventVersions := []
  envelopeOnly := true
  valid := by decide

def sampleState (items : List Json) (hshaped : StateShaped (.obj [(lit "a", .arr items)]))
    (hnodes : nodeCount (.obj [(lit "a", .arr items)]) ≤ maxStateNodes)
    (hdepth : height (.obj [(lit "a", .arr items)]) ≤ maxStateDepth)
    (hbytes : checkEncoding (.obj [(lit "a", .arr items)]) = .ok ()) : ProjectionState :=
  ⟨[(lit "a", .arr items)], hshaped, hnodes, hdepth, hbytes⟩

def trueState : ProjectionState :=
  sampleState [.bool true] (by decide) (by decide) (by decide) (by decide)

def oneState : ProjectionState :=
  sampleState [.num (.int 1)] (by decide) (by decide) (by decide) (by decide)

def twoState : ProjectionState :=
  sampleState [.num (.int 2)] (by decide) (by decide) (by decide) (by decide)

def sampleFields : CheckpointFields where
  reducerDescriptor := sampleDescriptor
  partitionSha256 := sampleDigest 'c'
  globalPosition := 1
  eventHighWatermark := 1
  reducerRegistrySha256 := sampleDigest 'd'
  eventRegistrySha256 := none
  createdAt := lit "2026-01-01T00:00:00.000000Z"
  owner := lit "operator"
  rebuildGeneration := 1

def sampleCheckpoint (state : ProjectionState) : ProjectionCheckpoint :=
  ⟨sampleFields, state, by decide⟩

def sampleCheckpoints (active shadow : ProjectionState) : CheckpointStore where
  checkpoints := (Dict.empty.set ((sampleCheckpoint active).buildId sampleSha)
    (sampleCheckpoint active)).set ((sampleCheckpoint shadow).buildId sampleSha)
      (sampleCheckpoint shadow)
  checkpointKeys := Dict.empty

theorem sampleCheckpoints_active {active shadow : ProjectionState}
    (h : (sampleCheckpoint shadow).buildId sampleSha ≠ (sampleCheckpoint active).buildId sampleSha) :
    (sampleCheckpoints active shadow).checkpoints.get?
      ((sampleCheckpoint active).buildId sampleSha) = some (sampleCheckpoint active) := by
  rw [sampleCheckpoints, Dict.get?_set_of_ne _ _ h.symm, Dict.get?_set_self]

theorem sampleCheckpoints_shadow (active shadow : ProjectionState) :
    (sampleCheckpoints active shadow).checkpoints.get?
      ((sampleCheckpoint shadow).buildId sampleSha) = some (sampleCheckpoint shadow) := by
  rw [sampleCheckpoints, Dict.get?_set_self]

theorem projection_comparison_exact_sample :
    Comparable sampleSha oneState twoState ∧
      ∃ report, compare sampleSha ((sampleCheckpoint oneState).buildId sampleSha)
          ((sampleCheckpoint twoState).buildId sampleSha) (sampleCheckpoints oneState twoState) =
            .ok report ∧
        ExactReport sampleSha oneState twoState report := by
  have hcomparable : Comparable sampleSha oneState twoState :=
    ⟨by decide +kernel, by decide +kernel⟩
  have hids : (sampleCheckpoint twoState).buildId sampleSha ≠
      (sampleCheckpoint oneState).buildId sampleSha := by decide +kernel
  exact ⟨hcomparable, (projection_comparison_exact_iff (sampleCheckpoints_active hids)
    (sampleCheckpoints_shadow oneState twoState) rfl rfl).mpr hcomparable⟩

theorem projection_comparison_misses_boolean :
    ∃ report, compare sampleSha ((sampleCheckpoint trueState).buildId sampleSha)
        ((sampleCheckpoint oneState).buildId sampleSha) (sampleCheckpoints trueState oneState) =
          .ok report ∧
      report.differences = [] ∧ report.truncated = false ∧
        stateText trueState.value ≠ stateText oneState.value := by
  have hids : (sampleCheckpoint oneState).buildId sampleSha ≠
      (sampleCheckpoint trueState).buildId sampleSha := by decide +kernel
  have hcollect : collectDifferences sampleSha trueState.value oneState.value (lit "state") [] =
      .ok (false, []) := by decide +kernel
  exact ⟨_, (compare_eq_ok (sampleCheckpoints_active hids)
    (sampleCheckpoints_shadow trueState oneState) rfl rfl).mpr ⟨_, _, hcollect, rfl⟩, rfl, rfl,
      by decide⟩

end Exactness

end Projection

end TraceBackedMemory
