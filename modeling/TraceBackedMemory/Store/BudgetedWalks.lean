import Mathlib.Algebra.Order.Monoid.Prod
import TraceBackedMemory.Foundation.JsonBounds
import TraceBackedMemory.Foundation.StackWalk
import TraceBackedMemory.Store.Policy

namespace TraceBackedMemory

open Text Raising RunningBudget

section Measures

def textCost (s : Str) : Nat := (encodedBytes s).getD 0

mutual

-- UTF-8 bytes of all strings and object keys
def textSize : Json → Nat
  | .str s => textCost s
  | .arr items => textSizeItems items
  | .obj fields => textSizeFields fields
  | _ => 0

def textSizeItems : List Json → Nat
  | [] => 0
  | v :: items => textSize v + textSizeItems items

def textSizeFields : List (Str × Json) → Nat
  | [] => 0
  | (k, v) :: fields => textCost k + textSize v + textSizeFields fields

end

mutual

-- containers on the longest path, empty ones included
def levels : Json → Nat
  | .arr items => levelsItems items + 1
  | .obj fields => levelsFields fields + 1
  | _ => 0

def levelsItems : List Json → Nat
  | [] => 0
  | v :: items => max (levels v) (levelsItems items)

def levelsFields : List (Str × Json) → Nat
  | [] => 0
  | (_, v) :: fields => max (levels v) (levelsFields fields)

end

variable (number : Number → Bool)

mutual

def admissible : Json → Bool
  | .num n => number n
  | .str s => Json.encodes s
  | .arr items => admissibleItems items
  | .obj fields => admissibleFields fields
  | _ => true

def admissibleItems : List Json → Bool
  | [] => true
  | v :: items => admissible v && admissibleItems items

def admissibleFields : List (Str × Json) → Bool
  | [] => true
  | (k, v) :: fields => Json.encodes k && admissible v && admissibleFields fields

end

variable {number : Number → Bool} {items : List Json} {fields : List (Str × Json)}

theorem textSizeItems_eq (items : List Json) : textSizeItems items = (items.map textSize).sum := by
  induction items with
  | nil => rfl
  | cons v items ih => rw [textSizeItems, ih, List.map_cons, List.sum_cons]

theorem textSizeFields_eq (fields : List (Str × Json)) : textSizeFields fields =
    ((fields.map Prod.fst).map textCost).sum + (fields.map (fun f => textSize f.2)).sum := by
  induction fields with
  | nil => rfl
  | cons f fields ih =>
    simp only [textSizeFields, ih, List.map_cons, List.sum_cons]
    omega

theorem levelsItems_le {n : Nat} : levelsItems items ≤ n ↔ ∀ v ∈ items, levels v ≤ n := by
  induction items with
  | nil => simp [levelsItems]
  | cons v items ih => rw [levelsItems, Nat.max_le, ih, List.forall_mem_cons]

theorem levelsFields_le {n : Nat} : levelsFields fields ≤ n ↔ ∀ f ∈ fields, levels f.2 ≤ n := by
  induction fields with
  | nil => simp [levelsFields]
  | cons f fields ih => rw [levelsFields, Nat.max_le, ih, List.forall_mem_cons]

theorem admissibleItems_iff :
    admissibleItems number items = true ↔ ∀ v ∈ items, admissible number v = true := by
  induction items with
  | nil => simp [admissibleItems]
  | cons v items ih => rw [admissibleItems, Bool.and_eq_true, ih, List.forall_mem_cons]

theorem admissibleFields_iff : admissibleFields number fields = true ↔
    (∀ k ∈ fields.map Prod.fst, Json.encodes k = true) ∧
      ∀ f ∈ fields, admissible number f.2 = true := by
  induction fields with
  | nil => simp [admissibleFields]
  | cons f fields ih =>
    rw [admissibleFields, Bool.and_eq_true, Bool.and_eq_true, ih, List.map_cons,
      List.forall_mem_cons, List.forall_mem_cons]
    tauto

theorem sum_pairs {α : Type} (f g : α → Nat) (l : List α) :
    (l.map (fun a => (f a, g a))).sum = ((l.map f).sum, (l.map g).sum) := by
  induction l with
  | nil => rfl
  | cons a l ih =>
    rw [List.map_cons, List.sum_cons, ih]
    rfl

theorem encodes_some {s : Str} (h : Json.encodes s = true) : encodedBytes s = some (textCost s) := by
  obtain ⟨n, hn⟩ := Option.isSome_iff_exists.mp h
  rw [textCost, hn, Option.getD_some]

theorem length_le_textCost {s : Str} (h : Json.encodes s = true) : s.length ≤ textCost s := by
  have hone : ∀ c : CodePoint, 1 ≤ utf8Length c := by
    intro c
    unfold utf8Length
    split_ifs <;> omega
  have hsome := encodes_some h
  rw [encodedBytes] at hsome
  split at hsome
  · cases hsome
  · rw [← Option.some.inj hsome]
    exact Json.length_le_sum hone s

end Measures

section TraceJson

variable {py : Python} {path : Str} {depth : Nat} {b b' : TraceJsonBudget}

def TraceJsonBudget.spent (b : TraceJsonBudget) : Nat × Nat := (b.nodeCount, b.textBytes)

def traceJsonLimit : Nat × Nat := (traceJsonMaxNodes, traceJsonMaxTextBytes)

def traceNumber : Number → Bool
  | .int n => decide (n.natAbs < 10 ^ intMaxStrDigits)
  | .float x => x.isFinite

def cost (v : Json) : Nat × Nat := (Json.size v, textSize v)

theorem charges_consumeNode : Charges TraceJsonBudget.spent traceJsonLimit
    TraceJsonBudget.consumeNode True (1, 0) := by
  constructor
  · rintro b - - ⟨hnodes, -⟩
    have hroom : ¬traceJsonMaxNodes ≤ b.nodeCount := by
      have hle : b.nodeCount + 1 ≤ traceJsonMaxNodes := hnodes
      omega
    exact ⟨{ b with nodeCount := b.nodeCount + 1 }, by rw [TraceJsonBudget.consumeNode, raiseIf_of_not hroom]; rfl⟩
  · rintro b b' ⟨-, htext⟩ hrun
    simp only [TraceJsonBudget.consumeNode, bind_eq_ok, exists_unit, raiseIf_eq_ok, Nat.not_le,
      pure_eq_ok] at hrun
    obtain ⟨hnodes, rfl⟩ := hrun
    exact ⟨trivial, ⟨hnodes, htext⟩, rfl⟩

theorem charges_consumeText (s path : Str) : Charges TraceJsonBudget.spent traceJsonLimit
    (fun b => b.consumeText s path) (Json.encodes s = true) (0, textCost s) := by
  constructor
  · rintro b - hs ⟨-, htext⟩
    have hlength := length_le_textCost hs
    have hle : b.textBytes + textCost s ≤ traceJsonMaxTextBytes := htext
    refine ⟨{ b with textBytes := b.textBytes + textCost s }, ?_⟩
    simp only [TraceJsonBudget.consumeText, bind_eq_ok, exists_unit, raiseIf_eq_ok, demand_eq_ok,
      pure_eq_ok]
    exact ⟨by omega, textCost s, encodes_some hs, by omega, rfl⟩
  · rintro b b' ⟨hnodes, htext⟩ hrun
    have hspent : b.textBytes ≤ traceJsonMaxTextBytes := htext
    simp only [TraceJsonBudget.consumeText, bind_eq_ok, exists_unit, raiseIf_eq_ok, demand_eq_ok,
      pure_eq_ok] at hrun
    obtain ⟨_, n, hn, hroom, rfl⟩ := hrun
    have hcost : textCost s = n := by rw [textCost, hn, Option.getD_some]
    have hle : b.textBytes + textCost s ≤ traceJsonMaxTextBytes := by omega
    refine ⟨by rw [Json.encodes, hn]; rfl, ⟨hnodes, hle⟩, ?_⟩
    rw [hcost]
    rfl

theorem charges_consumeKeys (path : Str) (keys : List Str) :
    Charges TraceJsonBudget.spent traceJsonLimit (consumeKeys path keys)
      (∀ k ∈ keys, Json.encodes k = true) (0, (keys.map textCost).sum) := by
  refine (charges_accumulate fun k _ => charges_consumeText k (path ++ lit " object key")).congr
    Iff.rfl ?_
  rw [sum_pairs]
  simp

def TraceFits (depth : Nat) (v : Json) : Prop :=
  depth + levels v ≤ traceJsonMaxDepth ∧ admissible traceNumber v = true

theorem ensureChildCapacity_of_fits {c : Nat × Nat} {n : Nat} (hn : n ≤ c.1)
    (hlimit : b.spent + c ≤ traceJsonLimit) : b.ensureChildCapacity n = .ok () := by
  have hnodes : b.nodeCount + c.1 ≤ traceJsonMaxNodes := hlimit.1
  exact raiseIf_of_not (by omega)

theorem charges_items {items : List Json} {holds : Json → Prop}
    (h : ∀ v ∈ items, ∀ path, Charges TraceJsonBudget.spent traceJsonLimit
      (fun b => validateJsonValue py path (depth + 1) b v) (holds v) (cost v)) (path : Str)
    (index : Nat) : Charges TraceJsonBudget.spent traceJsonLimit
      (fun b => validateJsonItems py path depth index b items) (∀ v ∈ items, holds v)
      ((items.map cost).sum) := by
  induction items generalizing index with
  | nil => exact charges_pure.congr (by simp) rfl
  | cons v items ih =>
    obtain ⟨hv, hitems⟩ := List.forall_mem_cons.mp h
    refine Charges.congr ((hv (itemPath path index)).seq (ih hitems (index + 1))) ?_ ?_
    · rw [List.forall_mem_cons]
    · rw [List.map_cons, List.sum_cons]

theorem charges_fields {fields : List (Str × Json)} {holds : Json → Prop}
    (h : ∀ f ∈ fields, ∀ path, Charges TraceJsonBudget.spent traceJsonLimit
      (fun b => validateJsonValue py path (depth + 1) b f.2) (holds f.2) (cost f.2)) (path : Str) :
    Charges TraceJsonBudget.spent traceJsonLimit
      (fun b => validateJsonFields py path depth b fields) (∀ f ∈ fields, holds f.2)
      ((fields.map (fun f => cost f.2)).sum) := by
  induction fields with
  | nil => exact charges_pure.congr (by simp) rfl
  | cons f fields ih =>
    obtain ⟨hf, hfields⟩ := List.forall_mem_cons.mp h
    refine Charges.congr ((hf (childPath py path f.1)).seq (ih hfields)) ?_ ?_
    · rw [List.forall_mem_cons]
    · rw [List.map_cons, List.sum_cons]

theorem checkDepth_eq_ok : checkDepth path depth = .ok () ↔ depth < traceJsonMaxDepth := by
  rw [checkDepth, raiseIf_eq_ok, Nat.not_le]

theorem validateJsonInteger_eq_ok {n : Int} :
    validateJsonInteger n path = .ok () ↔ traceNumber (.int n) = true := by
  rw [validateJsonInteger, raiseIf_eq_ok, Nat.not_le, traceNumber, decide_eq_true_eq]

theorem cost_str (s : Str) : (1, 0) + (0, textCost s) = cost (.str s) := by
  rw [Prod.mk_add_mk, Nat.zero_add]
  rfl

theorem cost_arr (items : List Json) : (1, 0) + (items.map cost).sum = cost (.arr items) := by
  have hsum : (items.map cost).sum = ((items.map Json.size).sum, (items.map textSize).sum) :=
    sum_pairs Json.size textSize items
  rw [hsum, Prod.mk_add_mk, Nat.zero_add, cost, Json.size, Json.sizeItems_eq, textSize,
    textSizeItems_eq]

theorem cost_obj (fields : List (Str × Json)) : (1, 0) + ((0, (((fields.reverse).map Prod.fst).map
    textCost).sum) + (fields.map (fun f => cost f.2)).sum) = cost (.obj fields) := by
  have hsum : (fields.map (fun f => cost f.2)).sum =
      ((fields.map (fun f => Json.size f.2)).sum, (fields.map (fun f => textSize f.2)).sum) :=
    sum_pairs (fun f : Str × Json => Json.size f.2) (fun f => textSize f.2) fields
  rw [hsum, Prod.mk_add_mk, Prod.mk_add_mk, Nat.zero_add, Nat.zero_add, cost, Json.size,
    Json.sizeFields_eq, textSize, textSizeFields_eq, List.map_reverse, List.map_reverse,
    List.sum_reverse]

theorem length_le_costs {α : Type} {f : α → Json} (l : List α) :
    l.length ≤ (l.map (fun a => cost (f a))).sum.1 := by
  have hsum := sum_pairs (fun a => Json.size (f a)) (fun a => textSize (f a)) l
  have hlength := Json.length_le_sum (fun a => Json.one_le_size (f a)) l
  rw [show (fun a => cost (f a)) = (fun a => (Json.size (f a), textSize (f a))) from rfl, hsum]
  exact hlength

theorem fits_arr {items : List Json} (hdepth : depth < traceJsonMaxDepth) :
    (∀ v ∈ items, TraceFits (depth + 1) v) ↔ TraceFits depth (.arr items) := by
  rw [TraceFits, levels, admissible, admissibleItems_iff,
    show depth + (levelsItems items + 1) ≤ traceJsonMaxDepth ↔
      levelsItems items ≤ traceJsonMaxDepth - (depth + 1) by omega, levelsItems_le, ← forall₂_and]
  refine forall₂_congr fun v _ => and_congr_left fun _ => ?_
  omega

theorem fits_obj {fields : List (Str × Json)} (hdepth : depth < traceJsonMaxDepth) :
    ((∀ k ∈ fields.reverse.map Prod.fst, Json.encodes k = true) ∧
      ∀ f ∈ fields, TraceFits (depth + 1) f.2) ↔ TraceFits depth (.obj fields) := by
  rw [TraceFits, levels, admissible, admissibleFields_iff, List.map_reverse,
    show depth + (levelsFields fields + 1) ≤ traceJsonMaxDepth ↔
      levelsFields fields ≤ traceJsonMaxDepth - (depth + 1) by omega, levelsFields_le,
    and_left_comm, ← forall₂_and]
  simp only [List.mem_reverse]
  refine and_congr_right fun _ => forall₂_congr fun f _ => and_congr_left fun _ => ?_
  omega

theorem charges_validateJsonValue (v : Json) (path : Str) (hd : depth ≤ traceJsonMaxDepth) :
    Charges TraceJsonBudget.spent traceJsonLimit (fun b => validateJsonValue py path depth b v)
      (TraceFits depth v) (cost v) := by
  induction v using Json.inductOn generalizing path depth with
  | null | bool _ =>
    refine charges_consumeNode.congr (iff_of_true trivial ⟨?_, rfl⟩) rfl
    exact hd
  | str s =>
    refine (charges_consumeNode.seq (charges_consumeText s path)).congr ?_ (cost_str s)
    exact (and_iff_right trivial).trans (and_iff_right hd).symm
  | num n =>
    cases n with
    | int n =>
      refine (charges_consumeNode.seq (charges_pure.checked (validateJsonInteger n path))).congr ?_ rfl
      rw [validateJsonInteger_eq_ok, true_and, and_true]
      exact (and_iff_right hd).symm
    | float x =>
      refine (charges_consumeNode.seq (charges_pure.checked (raiseIf (x.isFinite = false)
        (Exn.valueError (lit "trace " ++ path ++ lit " must be a finite JSON number"))))).congr ?_ rfl
      rw [raiseIf_eq_ok, Bool.not_eq_false, true_and, and_true]
      exact (and_iff_right hd).symm
  | arr items ih =>
    by_cases hdepth : depth < traceJsonMaxDepth
    · have hitems := charges_items (fun v hv path => ih v hv path hdepth) path 0
      have hrun := (hitems.early fun b _ hlimit =>
        ensureChildCapacity_of_fits (length_le_costs items) hlimit).checked (checkDepth path depth)
      refine (charges_consumeNode.seq hrun).congr ?_ (cost_arr items)
      rw [checkDepth_eq_ok, and_iff_right trivial, and_iff_right hdepth, fits_arr hdepth]
    · refine charges_never (fun b b' h => ?_) fun h => ?_
      · simp only [validateJsonValue, bind_eq_ok, exists_unit, checkDepth_eq_ok] at h
        obtain ⟨_, _, hdepth', _⟩ := h
        exact hdepth hdepth'
      · have hlevels := h.1
        rw [levels] at hlevels
        omega
  | obj fields ih =>
    by_cases hdepth : depth < traceJsonMaxDepth
    · have hfields := charges_fields (fun f hf path => ih f hf path hdepth) path
      have hkeys := (charges_consumeKeys path (fields.reverse.map Prod.fst)).seq hfields
      have hlength := (length_le_costs (f := Prod.snd) fields).trans_eq (Nat.zero_add _).symm
      have hrun := (hkeys.early fun b _ hlimit => ensureChildCapacity_of_fits hlength hlimit).checked
        (checkDepth path depth)
      refine (charges_consumeNode.seq hrun).congr ?_ (cost_obj fields)
      rw [checkDepth_eq_ok, and_iff_right trivial, and_iff_right hdepth, fits_obj hdepth]
    · refine charges_never (fun b b' h => ?_) fun h => ?_
      · simp only [validateJsonValue, bind_eq_ok, exists_unit, checkDepth_eq_ok] at h
        obtain ⟨_, _, hdepth', _⟩ := h
        exact hdepth hdepth'
      · have hlevels := h.1
        rw [levels] at hlevels
        omega

end TraceJson

section TraceLoop

variable {py : Python} {path : Str} {depth : Nat}

-- the frames that only mark a container as left serve the cycle check, which no JSON value meets
structure JsonFrame where
  value : Json
  path : Str
  depth : Nat

def itemFrames (path : Str) (depth index : Nat) : List Json → List JsonFrame
  | [] => []
  | v :: items => ⟨v, itemPath path index, depth + 1⟩ :: itemFrames path depth (index + 1) items

def fieldFrames (py : Python) (path : Str) (depth : Nat) (fields : List (Str × Json)) :
    List JsonFrame :=
  fields.map (fun f => ⟨f.2, childPath py path f.1, depth + 1⟩)

def visitJson (py : Python) (b : TraceJsonBudget) (f : JsonFrame) :
    Except Exn (TraceJsonBudget × List JsonFrame) := do
  let b ← b.consumeNode
  match f.value with
  | .null => return (b, [])
  | .bool _ => return (b, [])
  | .str s => do
    let b ← b.consumeText s f.path
    return (b, [])
  | .num (.int n) => do
    validateJsonInteger n f.path
    return (b, [])
  | .num (.float x) => do
    raiseIf (x.isFinite = false)
      (.valueError (lit "trace " ++ f.path ++ lit " must be a finite JSON number"))
    return (b, [])
  | .arr items => do
    checkDepth f.path f.depth
    b.ensureChildCapacity items.length
    return (b, itemFrames f.path f.depth 0 items)
  | .obj fields => do
    checkDepth f.path f.depth
    b.ensureChildCapacity fields.length
    let b ← consumeKeys f.path (fields.reverse.map Prod.fst) b
    return (b, fieldFrames py f.path f.depth fields)

def walkJsonValue (py : Python) (value : Json) (rootPath : Str) (budget : TraceJsonBudget) :
    Option (Except Exn TraceJsonBudget) :=
  StackWalk.walk (visitJson py) (Json.size value) budget [⟨value, rootPath, 0⟩]

def recurseJson (py : Python) (b : TraceJsonBudget) (f : JsonFrame) : Except Exn TraceJsonBudget :=
  validateJsonValue py f.path f.depth b f.value

theorem accumulate_itemFrames (items : List Json) (index : Nat) (b : TraceJsonBudget) :
    accumulate (recurseJson py) b (itemFrames path depth index items) =
      validateJsonItems py path depth index b items := by
  induction items generalizing index b with
  | nil => rfl
  | cons v items ih =>
    rw [itemFrames, accumulate, validateJsonItems]
    exact congrArg _ (funext fun b => ih (index + 1) b)

theorem accumulate_fieldFrames (fields : List (Str × Json)) (b : TraceJsonBudget) :
    accumulate (recurseJson py) b (fieldFrames py path depth fields) =
      validateJsonFields py path depth b fields := by
  induction fields generalizing b with
  | nil => rfl
  | cons f fields ih =>
    rw [fieldFrames, List.map_cons, accumulate, validateJsonFields]
    exact congrArg _ (funext ih)

theorem weight_itemFrames (items : List Json) (index : Nat) :
    ((itemFrames path depth index items).map (fun f => Json.size f.value)).sum =
      (items.map Json.size).sum := by
  induction items generalizing index with
  | nil => rfl
  | cons v items ih => rw [itemFrames, List.map_cons, List.sum_cons, ih, List.map_cons, List.sum_cons]

theorem visitJson_unfolds :
    StackWalk.Unfolds (visitJson py) (recurseJson py) (fun f => Json.size f.value) := by
  constructor
  · rintro b ⟨v, path, depth⟩
    cases v with
    | null | bool _ =>
      simp only [recurseJson, validateJsonValue, visitJson, bind_assoc, pure_bind]
      exact (bind_pure _).symm
    | str s =>
      simp only [recurseJson, validateJsonValue, visitJson, bind_assoc, pure_bind]
      exact congrArg _ (funext fun b => (bind_pure _).symm)
    | num n =>
      cases n <;> simp only [recurseJson, validateJsonValue, visitJson, bind_assoc, pure_bind] <;> rfl
    | arr items =>
      simp only [recurseJson, validateJsonValue, visitJson, bind_assoc, pure_bind]
      simp only [← accumulate_itemFrames]
    | obj fields =>
      simp only [recurseJson, validateJsonValue, visitJson, bind_assoc, pure_bind]
      simp only [← accumulate_fieldFrames]
  · exact fun f => Json.one_le_size f.value
  · rintro b ⟨v, path, depth⟩ b' children h
    simp only [visitJson, bind_eq_ok] at h
    obtain ⟨_, _, h⟩ := h
    cases v with
    | null | bool _ =>
      obtain ⟨_, rfl⟩ := Prod.mk.inj (pure_eq_ok.mp h)
      exact Nat.one_pos
    | str s =>
      obtain ⟨_, _, h⟩ := bind_eq_ok.mp h
      obtain ⟨_, rfl⟩ := Prod.mk.inj (pure_eq_ok.mp h)
      exact Nat.one_pos
    | num n =>
      cases n <;> obtain ⟨_, _, h⟩ := bind_eq_ok.mp h <;>
        obtain ⟨_, rfl⟩ := Prod.mk.inj (pure_eq_ok.mp h) <;> exact Nat.one_pos
    | arr items =>
      simp only [bind_eq_ok, exists_unit, pure_eq_ok, Prod.mk.injEq] at h
      obtain ⟨_, _, _, rfl⟩ := h
      rw [weight_itemFrames, Json.size, Json.sizeItems_eq]
      omega
    | obj fields =>
      simp only [bind_eq_ok, exists_unit, pure_eq_ok, Prod.mk.injEq] at h
      obtain ⟨_, _, _, _, _, rfl⟩ := h
      rw [fieldFrames, List.map_map, Json.size, Json.sizeFields_eq]
      exact Nat.lt_one_add_iff.mpr (le_refl _)

theorem walkJsonValue_eq (v : Json) (path : Str) (b : TraceJsonBudget) :
    walkJsonValue py v path b = some (validateJsonValue py path 0 b v) := by
  rw [walkJsonValue, StackWalk.walk_eq_recursion visitJson_unfolds (by simp)]
  exact congrArg some (bind_pure _)

end TraceLoop

section DecisionPayloads

variable {depth : Nat} {b b' : PayloadBudget}

def PayloadBudget.spent (b : PayloadBudget) : Nat × Nat := (b.nodeCount, b.textBytes)

def payloadLimit : Nat × Nat := (llmGateResponseMaxNodes, llmGateResponseMaxBytes)

def PayloadFits (depth : Nat) (v : Json) : Prop :=
  depth + Json.height v ≤ llmGateResponseMaxDepth ∧ admissible Number.isFinite v = true

theorem payload_consumeNode : Charges PayloadBudget.spent payloadLimit
    PayloadBudget.consumeNode True (1, 0) := by
  constructor
  · rintro b - - ⟨hnodes, -⟩
    have hroom : ¬llmGateResponseMaxNodes < b.nodeCount + 1 := Nat.not_lt.mpr hnodes
    exact ⟨{ b with nodeCount := b.nodeCount + 1 },
      by rw [PayloadBudget.consumeNode, raiseIf_of_not hroom]; rfl⟩
  · rintro b b' ⟨-, htext⟩ hrun
    simp only [PayloadBudget.consumeNode, bind_eq_ok, exists_unit, raiseIf_eq_ok, Nat.not_lt,
      pure_eq_ok] at hrun
    obtain ⟨hnodes, rfl⟩ := hrun
    exact ⟨trivial, ⟨hnodes, htext⟩, rfl⟩

theorem payload_consumeText (s : Str) : Charges PayloadBudget.spent payloadLimit
    (fun b => b.consumeText s) (Json.encodes s = true) (0, textCost s) := by
  constructor
  · rintro b - hs ⟨-, htext⟩
    refine ⟨{ b with textBytes := b.textBytes + textCost s }, ?_⟩
    simp only [PayloadBudget.consumeText, bind_eq_ok, exists_unit, raiseIf_eq_ok, demand_eq_ok,
      pure_eq_ok, Nat.not_lt]
    exact ⟨textCost s, encodes_some hs, htext, rfl⟩
  · rintro b b' ⟨hnodes, -⟩ hrun
    simp only [PayloadBudget.consumeText, bind_eq_ok, exists_unit, raiseIf_eq_ok, demand_eq_ok,
      pure_eq_ok, Nat.not_lt] at hrun
    obtain ⟨n, hn, hroom, rfl⟩ := hrun
    have hcost : textCost s = n := by rw [textCost, hn, Option.getD_some]
    rw [hcost]
    exact ⟨by rw [Json.encodes, hn]; rfl, ⟨hnodes, hroom⟩, rfl⟩

theorem payload_consumeKeys (keys : List Str) : Charges PayloadBudget.spent payloadLimit
    (fun b => accumulate PayloadBudget.consumeText b keys) (∀ k ∈ keys, Json.encodes k = true)
    (0, (keys.map textCost).sum) := by
  refine (charges_accumulate fun k _ => payload_consumeText k).congr Iff.rfl ?_
  rw [sum_pairs]
  simp

theorem payload_items {items : List Json} {holds : Json → Prop}
    (h : ∀ v ∈ items, Charges PayloadBudget.spent payloadLimit
      (fun b => validatePayloadBudget (depth + 1) b v) (holds v) (cost v)) :
    Charges PayloadBudget.spent payloadLimit (fun b => validatePayloadItems depth b items)
      (∀ v ∈ items, holds v) ((items.map cost).sum) := by
  induction items with
  | nil => exact charges_pure.congr (by simp) rfl
  | cons v items ih =>
    obtain ⟨hv, hitems⟩ := List.forall_mem_cons.mp h
    refine Charges.congr (hv.seq (ih hitems)) ?_ ?_
    · rw [List.forall_mem_cons]
    · rw [List.map_cons, List.sum_cons]

theorem payload_fields {fields : List (Str × Json)} {holds : Json → Prop}
    (h : ∀ f ∈ fields, Charges PayloadBudget.spent payloadLimit
      (fun b => validatePayloadBudget (depth + 1) b f.2) (holds f.2) (cost f.2)) :
    Charges PayloadBudget.spent payloadLimit (fun b => validatePayloadFields depth b fields)
      (∀ f ∈ fields, holds f.2) ((fields.map (fun f => cost f.2)).sum) := by
  induction fields with
  | nil => exact charges_pure.congr (by simp) rfl
  | cons f fields ih =>
    obtain ⟨hf, hfields⟩ := List.forall_mem_cons.mp h
    refine Charges.congr (hf.seq (ih hfields)) ?_ ?_
    · rw [List.forall_mem_cons]
    · rw [List.map_cons, List.sum_cons]

theorem payload_fits_arr {items : List Json} (hd : depth ≤ llmGateResponseMaxDepth) :
    (∀ v ∈ items, PayloadFits (depth + 1) v) ↔ PayloadFits depth (.arr items) := by
  rw [PayloadFits, Json.height, admissible, admissibleItems_iff,
    show depth + Json.heightItems items ≤ llmGateResponseMaxDepth ↔
      Json.heightItems items ≤ llmGateResponseMaxDepth - depth by omega, Json.heightItems_le,
    ← forall₂_and]
  refine forall₂_congr fun v _ => and_congr_left fun _ => ?_
  omega

theorem payload_fits_obj {fields : List (Str × Json)} (hd : depth ≤ llmGateResponseMaxDepth) :
    ((∀ k ∈ fields.reverse.map Prod.fst, Json.encodes k = true) ∧
      ∀ f ∈ fields, PayloadFits (depth + 1) f.2) ↔ PayloadFits depth (.obj fields) := by
  rw [PayloadFits, Json.height, admissible, admissibleFields_iff, List.map_reverse,
    show depth + Json.heightFields fields ≤ llmGateResponseMaxDepth ↔
      Json.heightFields fields ≤ llmGateResponseMaxDepth - depth by omega, Json.heightFields_le,
    and_left_comm, ← forall₂_and]
  simp only [List.mem_reverse]
  refine and_congr_right fun _ => forall₂_congr fun f _ => and_congr_left fun _ => ?_
  omega

theorem enter_of_fits {c : Nat × Nat} {n : Nat} (hdepth : n = 0 ∨ depth < llmGateResponseMaxDepth)
    (hn : n ≤ c.1) (hlimit : b.spent + c ≤ payloadLimit) : b.enter depth n = .ok () := by
  have hnodes : b.nodeCount + c.1 ≤ llmGateResponseMaxNodes := hlimit.1
  simp only [PayloadBudget.enter, seq_eq_ok, raiseIf_eq_ok]
  exact ⟨by omega, by omega⟩

theorem charges_validatePayloadBudget (v : Json) (hd : depth ≤ llmGateResponseMaxDepth) :
    Charges PayloadBudget.spent payloadLimit (fun b => validatePayloadBudget depth b v)
      (PayloadFits depth v) (cost v) := by
  induction v using Json.inductOn generalizing depth with
  | null | bool _ =>
    refine payload_consumeNode.congr (iff_of_true trivial ⟨?_, rfl⟩) rfl
    exact hd
  | str s =>
    refine (payload_consumeNode.seq (payload_consumeText s)).congr ?_ (cost_str s)
    exact (and_iff_right trivial).trans (and_iff_right hd).symm
  | num n =>
    cases n with
    | int n =>
      refine payload_consumeNode.congr (iff_of_true trivial ⟨?_, rfl⟩) rfl
      exact hd
    | float x =>
      refine (payload_consumeNode.seq (charges_pure.checked (raiseIf (x.isFinite = false)
        (valueError "memory decision response must contain finite JSON numbers")))).congr ?_ rfl
      rw [raiseIf_eq_ok, Bool.not_eq_false, true_and, and_true]
      exact (and_iff_right hd).symm
  | arr items ih =>
    by_cases hdepth : items.length = 0 ∨ depth < llmGateResponseMaxDepth
    · have hitems : ∀ v ∈ items, Charges PayloadBudget.spent payloadLimit
          (fun b => validatePayloadBudget (depth + 1) b v) (PayloadFits (depth + 1) v) (cost v) := by
        intro v hv
        have hpos := List.length_pos_of_mem hv
        exact ih v hv (by omega)
      have hrun := (payload_items hitems).early fun b _ hlimit =>
        enter_of_fits hdepth (length_le_costs items) hlimit
      refine (payload_consumeNode.seq hrun).congr ?_ (cost_arr items)
      rw [and_iff_right trivial, payload_fits_arr hd]
    · refine charges_never (fun b b' h => ?_) fun h => ?_
      · simp only [validatePayloadBudget, bind_eq_ok, exists_unit, PayloadBudget.enter,
          raiseIf_eq_ok] at h
        obtain ⟨_, _, ⟨hopen, _⟩, _⟩ := h
        omega
      · obtain ⟨v, hv⟩ := List.exists_mem_of_length_pos (show 0 < items.length by omega)
        have hchild := ((payload_fits_arr hd).mpr h v hv).1
        omega
  | obj fields ih =>
    by_cases hdepth : fields.length = 0 ∨ depth < llmGateResponseMaxDepth
    · have hfields : ∀ f ∈ fields, Charges PayloadBudget.spent payloadLimit
          (fun b => validatePayloadBudget (depth + 1) b f.2) (PayloadFits (depth + 1) f.2)
          (cost f.2) := by
        intro f hf
        have hpos := List.length_pos_of_mem hf
        exact ih f hf (by omega)
      have hlength := (length_le_costs (f := Prod.snd) fields).trans_eq (Nat.zero_add _).symm
      have hrun := ((payload_consumeKeys (fields.reverse.map Prod.fst)).seq
        (payload_fields hfields)).early fun b _ hlimit => enter_of_fits hdepth hlength hlimit
      refine (payload_consumeNode.seq hrun).congr ?_ (cost_obj fields)
      rw [and_iff_right trivial, payload_fits_obj hd]
    · refine charges_never (fun b b' h => ?_) fun h => ?_
      · simp only [validatePayloadBudget, bind_eq_ok, exists_unit, PayloadBudget.enter,
          raiseIf_eq_ok] at h
        obtain ⟨_, _, ⟨hopen, _⟩, _⟩ := h
        omega
      · obtain ⟨f, hf⟩ := List.exists_mem_of_length_pos (show 0 < fields.length by omega)
        have hchild := (((payload_fits_obj hd).mpr h).2 f hf).1
        omega

end DecisionPayloads

section PayloadLoop

variable {depth : Nat}

structure PayloadFrame where
  value : Json
  depth : Nat

def childFrames (depth : Nat) (values : List Json) : List PayloadFrame :=
  values.map (fun v => ⟨v, depth + 1⟩)

def visitPayload (b : PayloadBudget) (f : PayloadFrame) :
    Except Exn (PayloadBudget × List PayloadFrame) := do
  let b ← b.consumeNode
  match f.value with
  | .null => return (b, [])
  | .bool _ => return (b, [])
  | .num (.int _) => return (b, [])
  | .num (.float x) => do
    raiseIf (x.isFinite = false)
      (valueError "memory decision response must contain finite JSON numbers")
    return (b, [])
  | .str s => do
    let b ← b.consumeText s
    return (b, [])
  | .arr items => do
    b.enter f.depth items.length
    return (b, childFrames f.depth items)
  | .obj fields => do
    b.enter f.depth fields.length
    let b ← accumulate PayloadBudget.consumeText b (fields.reverse.map Prod.fst)
    return (b, childFrames f.depth (fields.map Prod.snd))

def walkPayload (value : Json) : Option (Except Exn PayloadBudget) :=
  StackWalk.walk visitPayload (Json.size value) {} [⟨value, 0⟩]

def recursePayload (b : PayloadBudget) (f : PayloadFrame) : Except Exn PayloadBudget :=
  validatePayloadBudget f.depth b f.value

theorem accumulate_items (items : List Json) (b : PayloadBudget) :
    accumulate recursePayload b (childFrames depth items) = validatePayloadItems depth b items := by
  induction items generalizing b with
  | nil => rfl
  | cons v items ih =>
    rw [childFrames, List.map_cons, accumulate, validatePayloadItems]
    exact congrArg _ (funext ih)

theorem accumulate_fields (fields : List (Str × Json)) (b : PayloadBudget) :
    accumulate recursePayload b (childFrames depth (fields.map Prod.snd)) =
      validatePayloadFields depth b fields := by
  induction fields generalizing b with
  | nil => rfl
  | cons f fields ih =>
    rw [childFrames, List.map_cons, List.map_cons, accumulate, validatePayloadFields]
    exact congrArg _ (funext ih)

theorem visitPayload_unfolds :
    StackWalk.Unfolds visitPayload recursePayload (fun f => Json.size f.value) := by
  constructor
  · rintro b ⟨v, depth⟩
    cases v with
    | null | bool _ =>
      simp only [recursePayload, validatePayloadBudget, visitPayload, bind_assoc, pure_bind]
      exact (bind_pure _).symm
    | str s =>
      simp only [recursePayload, validatePayloadBudget, visitPayload, bind_assoc, pure_bind]
      exact congrArg _ (funext fun b => (bind_pure _).symm)
    | num n =>
      cases n with
      | int n =>
        simp only [recursePayload, validatePayloadBudget, visitPayload, bind_assoc, pure_bind]
        exact (bind_pure _).symm
      | float x =>
        simp only [recursePayload, validatePayloadBudget, visitPayload, bind_assoc, pure_bind]
        rfl
    | arr items =>
      simp only [recursePayload, validatePayloadBudget, visitPayload, bind_assoc, pure_bind]
      simp only [← accumulate_items]
    | obj fields =>
      simp only [recursePayload, validatePayloadBudget, visitPayload, bind_assoc, pure_bind]
      simp only [← accumulate_fields]
  · exact fun f => Json.one_le_size f.value
  · rintro b ⟨v, depth⟩ b' children h
    simp only [visitPayload, bind_eq_ok] at h
    obtain ⟨_, _, h⟩ := h
    cases v with
    | null | bool _ =>
      obtain ⟨_, rfl⟩ := Prod.mk.inj (pure_eq_ok.mp h)
      exact Nat.one_pos
    | str s =>
      obtain ⟨_, _, h⟩ := bind_eq_ok.mp h
      obtain ⟨_, rfl⟩ := Prod.mk.inj (pure_eq_ok.mp h)
      exact Nat.one_pos
    | num n =>
      cases n with
      | int n =>
        obtain ⟨_, rfl⟩ := Prod.mk.inj (pure_eq_ok.mp h)
        exact Nat.one_pos
      | float x =>
        obtain ⟨_, _, h⟩ := bind_eq_ok.mp h
        obtain ⟨_, rfl⟩ := Prod.mk.inj (pure_eq_ok.mp h)
        exact Nat.one_pos
    | arr items =>
      simp only [bind_eq_ok, exists_unit, pure_eq_ok, Prod.mk.injEq] at h
      obtain ⟨_, _, rfl⟩ := h
      rw [childFrames, List.map_map, Json.size, Json.sizeItems_eq]
      exact Nat.lt_one_add_iff.mpr (le_refl _)
    | obj fields =>
      simp only [bind_eq_ok, exists_unit, pure_eq_ok, Prod.mk.injEq] at h
      obtain ⟨_, _, _, _, rfl⟩ := h
      rw [childFrames, List.map_map, List.map_map, Json.size, Json.sizeFields_eq]
      exact Nat.lt_one_add_iff.mpr (le_refl _)

theorem walkPayload_eq (v : Json) : walkPayload v = some (validatePayloadBudget 0 {} v) := by
  rw [walkPayload, StackWalk.walk_eq_recursion visitPayload_unfolds (by simp)]
  exact congrArg some (bind_pure _)

end PayloadLoop

section Claim

-- the limits, computed on the whole value
structure TraceWithin (v : Json) : Prop where
  depth : levels v ≤ traceJsonMaxDepth
  nodes : Json.size v ≤ traceJsonMaxNodes
  bytes : textSize v ≤ traceJsonMaxTextBytes
  leaves : admissible traceNumber v = true

structure PayloadWithin (v : Json) : Prop where
  depth : Json.height v ≤ llmGateResponseMaxDepth
  nodes : Json.size v ≤ llmGateResponseMaxNodes
  bytes : textSize v ≤ llmGateResponseMaxBytes
  leaves : admissible Number.isFinite v = true

theorem walkJsonValue_eq_ok {py : Python} {v : Json} {path : Str} {b b' : TraceJsonBudget}
    (hb : b.spent ≤ traceJsonLimit) : walkJsonValue py v path b = some (.ok b') ↔
      levels v ≤ traceJsonMaxDepth ∧ admissible traceNumber v = true ∧
        b'.spent ≤ traceJsonLimit ∧ b'.spent = b.spent + cost v := by
  have hcharges : Charges TraceJsonBudget.spent traceJsonLimit
      (fun b => validateJsonValue py path 0 b v) (TraceFits 0 v) (cost v) :=
    charges_validateJsonValue v path (Nat.zero_le traceJsonMaxDepth)
  rw [walkJsonValue_eq, Option.some.injEq]
  constructor
  · intro h
    obtain ⟨⟨hdepth, hleaves⟩, hlimit, hspent⟩ := hcharges.exact b b' hb h
    rw [Nat.zero_add] at hdepth
    exact ⟨hdepth, hleaves, hspent.trans_le hlimit, hspent⟩
  · rintro ⟨hdepth, hleaves, hlimit, hspent⟩
    rw [hspent] at hlimit
    obtain ⟨b'', hrun⟩ := hcharges.total b hb ⟨by rwa [Nat.zero_add], hleaves⟩ hlimit
    obtain ⟨_, _, hspent'⟩ := hcharges.exact b b'' hb hrun
    obtain ⟨hnodes, htext⟩ := Prod.mk.inj (hspent.trans hspent'.symm)
    rw [hrun, Except.ok.injEq]
    cases b'
    cases b''
    cases hnodes
    cases htext
    rfl

theorem cost_le {v : Json} {nodes bytes : Nat} :
    (0, 0) + cost v ≤ (nodes, bytes) ↔ Json.size v ≤ nodes ∧ textSize v ≤ bytes := by
  rw [cost, Prod.mk_add_mk, Nat.zero_add, Nat.zero_add, Prod.mk_le_mk]

theorem budgeted_walks_exact (py : Python) :
    (∀ v path, (∃ b, walkJsonValue py v path {} = some (.ok b)) ↔ TraceWithin v) ∧
    (∀ v path b b', TraceJsonBudget.spent b ≤ traceJsonLimit →
      (walkJsonValue py v path b = some (.ok b') ↔ levels v ≤ traceJsonMaxDepth ∧
        admissible traceNumber v = true ∧ b'.spent ≤ traceJsonLimit ∧
          b'.spent = b.spent + (Json.size v, textSize v))) ∧
    ∀ v, (∃ b, walkPayload v = some (.ok b)) ↔ PayloadWithin v := by
  refine ⟨fun v path => ?_, fun v path b b' hb => walkJsonValue_eq_ok hb, fun v => ?_⟩
  · have hcharges : Charges TraceJsonBudget.spent traceJsonLimit
        (fun b => validateJsonValue py path 0 b v) (TraceFits 0 v) (cost v) :=
      charges_validateJsonValue v path (Nat.zero_le traceJsonMaxDepth)
    simp only [walkJsonValue_eq, Option.some.injEq]
    rw [hcharges.accepts (b := {}) (Prod.mk_le_mk.mpr ⟨Nat.zero_le _, Nat.zero_le _⟩), TraceFits,
      Nat.zero_add]
    constructor
    · rintro ⟨⟨hdepth, hleaves⟩, hlimit⟩
      obtain ⟨hnodes, hbytes⟩ := cost_le.mp hlimit
      exact ⟨hdepth, hnodes, hbytes, hleaves⟩
    · rintro ⟨hdepth, hnodes, hbytes, hleaves⟩
      exact ⟨⟨hdepth, hleaves⟩, cost_le.mpr ⟨hnodes, hbytes⟩⟩
  · have hcharges := charges_validatePayloadBudget v (Nat.zero_le llmGateResponseMaxDepth)
    simp only [walkPayload_eq, Option.some.injEq]
    rw [hcharges.accepts (b := {}) (Prod.mk_le_mk.mpr ⟨Nat.zero_le _, Nat.zero_le _⟩), PayloadFits,
      Nat.zero_add]
    constructor
    · rintro ⟨⟨hdepth, hleaves⟩, hlimit⟩
      obtain ⟨hnodes, hbytes⟩ := cost_le.mp hlimit
      exact ⟨hdepth, hnodes, hbytes, hleaves⟩
    · rintro ⟨hdepth, hnodes, hbytes, hleaves⟩
      exact ⟨⟨hdepth, hleaves⟩, cost_le.mpr ⟨hnodes, hbytes⟩⟩

end Claim

end TraceBackedMemory
