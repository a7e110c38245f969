import TraceBackedMemory.Store.Atomicity
import TraceBackedMemory.Store.RoundTrip
import TraceBackedMemory.Store.Staging

namespace TraceBackedMemory

open Text Raising

variable {py : Python} {s : Store} {c : MemoryContext} {r : Retrieval}

section Unbounded

def Store.metadataCandidates (py : Python) (s : Store) (c : MemoryContext) :
    Except Exn (List MemoryItem) := do
  let found ← collect (s.metadataCandidate py c) (s.metadataSources c)
  return found.filterMap id

def requireCommitRelations (anchors : List (Option Str)) (relations : Dict Str Bool) :
    Except Exn Unit :=
  refuseListed "commit ancestry evidence is missing anchors: "
    (sortedStrs ((anchors.filterMap id).filter (fun a => !relations.contains a)).dedup)

def Store.memoryAnchor (s : Store) (m : MemoryItem) : Except Exn (Str × Option Str) := do
  let anchor ← s.commitAnchor m.memoryId
  return (m.memoryId, anchor)

def relationKept (anchors : Dict Str (Option Str)) (relations : Dict Str Bool) (m : MemoryItem) :
    Bool :=
  match anchors.get? m.memoryId with
  | some (some anchor) => (relations.get? anchor).getD false
  | _ => true

def Store.filterCandidatesByAncestry (s : Store) (candidates : List MemoryItem)
    (relations : Dict Str Bool) : Except Exn (List MemoryItem) := do
  let anchors ← collect s.memoryAnchor candidates
  requireCommitRelations (Dict.ofList anchors).values relations
  return candidates.filter (relationKept (Dict.ofList anchors) relations)

def Store.applicable (s : Store) (candidates : List MemoryItem) :
    Option (Dict Str Bool) → Except Exn (List MemoryItem)
  | none => .ok candidates
  | some relations => s.filterCandidatesByAncestry candidates relations

def selected (py : Python) (r : Retrieval) (candidates : List MemoryItem) :
    Option (Dict Str Number × Nat) → List MemoryItem
  | some (scores, limit) =>
    ((candidates.filter (scoreKept scores r.minimumScore)).insertionSort (scoreBefore scores)).take
      limit
  | none =>
    (candidates.filter (queryKept py (tokens py (r.query.getD [])))).insertionSort
      (fun a b => a.memoryId ≤ b.memoryId)

-- the path without a result limit, the one a caller of the public method takes
def Store.allCandidateMemories (py : Python) (s : Store) (c : MemoryContext) (r : Retrieval) :
    Except Exn (List MemoryItem) := do
  validateMemoryContext c
  raiseIf (r.query.elim false (fun q => decide (retrievalQueryMaxChars < q.length)) = true)
    (.valueError (lit "query must be at most " ++ decimal retrievalQueryMaxChars ++
      lit " characters"))
  let scores ← validatedSemanticScores py r s.memoryKnown
  let relations ← validatedCommitAncestry c r.commitAncestry
  let found ← s.metadataCandidates py c
  let candidates ← s.applicable found relations
  return selected py r candidates scores

def Store.candidateCommitAnchors (py : Python) (s : Store) (c : MemoryContext) :
    Except Exn (List Str) := do
  validateMemoryContext c
  let found ← s.metadataCandidates py c
  let anchors ← collect (fun m => s.commitAnchor m.memoryId) found
  return sortedStrs (anchors.filterMap id).dedup

end Unbounded

section Ancestry

variable {relations : Dict Str Bool} {candidates : List MemoryItem}

def Store.Settles (s : Store) (relations : Option (Dict Str Bool)) (candidates : List MemoryItem) :
    Prop :=
  ∀ m ∈ candidates, ∃ b, s.keptByAncestry relations m = .ok b

def Store.kept (s : Store) (relations : Option (Dict Str Bool)) (m : MemoryItem) : Bool :=
  decide (s.keptByAncestry relations m = .ok true)

theorem keptByAncestry_some {m : MemoryItem} {b : Bool} :
    s.keptByAncestry (some relations) m = .ok b ↔ ∃ anchor, s.commitAnchor m.memoryId = .ok anchor ∧
      anchor.elim (b = true) (fun a => relations.get? a = some b) := by
  simp only [Store.keptByAncestry, bind_eq_ok]
  constructor
  · rintro ⟨anchor, hanchor, h⟩
    refine ⟨anchor, hanchor, ?_⟩
    cases anchor with
    | none => exact (Except.ok.inj h).symm
    | some a => exact demand_eq_ok.mp h
  · rintro ⟨anchor, hanchor, h⟩
    refine ⟨anchor, hanchor, ?_⟩
    cases anchor with
    | none => exact congrArg Except.ok (show b = true from h).symm
    | some a => exact demand_eq_ok.mpr h

theorem requireCommitRelations_eq_ok {anchors : List (Option Str)} :
    requireCommitRelations anchors relations = .ok () ↔
      ∀ a, some a ∈ anchors → relations.contains a = true := by
  rw [requireCommitRelations, refuseListed_eq_ok, sortedStrs_eq_nil, List.dedup_eq_nil,
    List.filter_eq_nil_iff]
  simp only [List.mem_filterMap, id_eq, exists_eq_right, Bool.not_eq_true', Bool.not_eq_false]

theorem memoryAnchor_eq_ok {m : MemoryItem} {p : Str × Option Str} :
    s.memoryAnchor m = .ok p ↔ s.commitAnchor m.memoryId = .ok p.2 ∧ p.1 = m.memoryId := by
  simp only [Store.memoryAnchor, bind_eq_ok, pure_eq_ok]
  constructor
  · rintro ⟨anchor, hanchor, rfl⟩
    exact ⟨hanchor, rfl⟩
  · rintro ⟨hanchor, hid⟩
    exact ⟨p.2, hanchor, by rw [← hid]⟩

theorem settles_iff : s.Settles (some relations) candidates ↔
    ∀ m ∈ candidates, ∃ anchor, s.commitAnchor m.memoryId = .ok anchor ∧
      ∀ a, anchor = some a → relations.contains a = true := by
  refine forall₂_congr fun m _ => ?_
  simp only [keptByAncestry_some]
  constructor
  · rintro ⟨b, anchor, hanchor, h⟩
    refine ⟨anchor, hanchor, ?_⟩
    rintro a rfl
    exact Dict.contains_iff.mpr ⟨b, h⟩
  · rintro ⟨anchor, hanchor, h⟩
    cases anchor with
    | none => exact ⟨true, none, hanchor, rfl⟩
    | some a =>
      obtain ⟨b, hb⟩ := Dict.contains_iff.mp (h a rfl)
      exact ⟨b, some a, hanchor, hb⟩

theorem anchor_at {anchors : List (Str × Option Str)} (h : collect s.memoryAnchor candidates = .ok anchors)
    {m : MemoryItem} (hm : m ∈ candidates) {anchor : Option Str}
    (hanchor : s.commitAnchor m.memoryId = .ok anchor) :
    (Dict.ofList anchors).get? m.memoryId = some anchor := by
  obtain ⟨p, hp, hmp⟩ := mem_of_forall₂ (collect_eq_ok.mp h) hm
  have hkey : m.memoryId ∈ (Dict.ofList anchors).keys := by
    rw [Dict.ofList, Dict.mem_keys_update]
    exact .inr (List.mem_map.mpr ⟨p, hp, (memoryAnchor_eq_ok.mp hmp).2⟩)
  obtain ⟨found, hfound⟩ := Dict.mem_keys.mp hkey
  obtain ⟨m', _, hm'⟩ := collect_mem h (Dict.mem_of_get?_ofList hfound)
  obtain ⟨hsame, hid⟩ := memoryAnchor_eq_ok.mp hm'
  rw [← hid, hanchor] at hsame
  rw [hfound, Except.ok.inj hsame]

theorem mem_anchors {anchors : List (Str × Option Str)}
    (h : collect s.memoryAnchor candidates = .ok anchors) {anchor : Option Str} :
    anchor ∈ (Dict.ofList anchors).values ↔ ∃ m ∈ candidates, s.commitAnchor m.memoryId = .ok anchor := by
  rw [Dict.mem_values]
  constructor
  · rintro ⟨k, hk⟩
    obtain ⟨m, hm, hmp⟩ := collect_mem h (Dict.mem_of_get?_ofList hk)
    exact ⟨m, hm, (memoryAnchor_eq_ok.mp hmp).1⟩
  · rintro ⟨m, hm, hanchor⟩
    exact ⟨m.memoryId, anchor_at h hm hanchor⟩

theorem relationKept_eq {anchors : List (Str × Option Str)}
    (h : collect s.memoryAnchor candidates = .ok anchors) {m : MemoryItem} (hm : m ∈ candidates)
    (hs : s.Settles (some relations) candidates) :
    relationKept (Dict.ofList anchors) relations m = s.kept (some relations) m := by
  obtain ⟨b, hb⟩ := hs m hm
  obtain ⟨anchor, hanchor, hrelation⟩ := keptByAncestry_some.mp hb
  rw [relationKept, anchor_at h hm hanchor, Store.kept, hb]
  cases anchor with
  | none =>
    rw [show b = true from hrelation]
    rfl
  | some a =>
    have hget : relations.get? a = some b := hrelation
    simp only [hget, Option.getD_some]
    cases b <;> rfl

theorem filterCandidatesByAncestry_eq_ok {kept : List MemoryItem} :
    s.filterCandidatesByAncestry candidates relations = .ok kept ↔
      s.Settles (some relations) candidates ∧ kept = candidates.filter (s.kept (some relations)) := by
  simp only [Store.filterCandidatesByAncestry, bind_eq_ok, exists_unit, pure_eq_ok,
    requireCommitRelations_eq_ok]
  constructor
  · rintro ⟨anchors, hanchors, hrelations, rfl⟩
    have hs : s.Settles (some relations) candidates := by
      refine settles_iff.mpr fun m hm => ?_
      obtain ⟨p, _, hp⟩ := mem_of_forall₂ (collect_eq_ok.mp hanchors) hm
      refine ⟨p.2, (memoryAnchor_eq_ok.mp hp).1, fun a ha => hrelations a ?_⟩
      exact (mem_anchors hanchors).mpr ⟨m, hm, ha ▸ (memoryAnchor_eq_ok.mp hp).1⟩
    exact ⟨hs, List.filter_congr fun m hm => relationKept_eq hanchors hm hs⟩
  · rintro ⟨hs, rfl⟩
    have hanchor := settles_iff.mp hs
    obtain ⟨anchors, hanchors⟩ := collect_total fun m hm => by
      obtain ⟨anchor, hm', _⟩ := hanchor m hm
      exact ⟨(m.memoryId, anchor), memoryAnchor_eq_ok.mpr ⟨hm', rfl⟩⟩
    refine ⟨anchors, hanchors, fun a ha => ?_,
      List.filter_congr fun m hm => relationKept_eq hanchors hm hs⟩
    obtain ⟨m, hm, hma⟩ := (mem_anchors hanchors).mp ha
    obtain ⟨anchor, hanchor, hcontains⟩ := hanchor m hm
    rw [hma] at hanchor
    exact hcontains a (Except.ok.inj hanchor).symm

theorem applicable_eq_ok {relations : Option (Dict Str Bool)} {kept : List MemoryItem} :
    s.applicable candidates relations = .ok kept ↔
      s.Settles relations candidates ∧ kept = candidates.filter (s.kept relations) := by
  cases relations with
  | none =>
    have hkept : candidates.filter (s.kept none) = candidates :=
      List.filter_eq_self.mpr fun m _ => decide_eq_true rfl
    rw [hkept]
    constructor
    · intro h
      exact ⟨fun m _ => ⟨true, rfl⟩, (Except.ok.inj h).symm⟩
    · rintro ⟨_, rfl⟩
      rfl
  | some relations => exact filterCandidatesByAncestry_eq_ok

end Ancestry

section Bounded

variable {relations : Option (Dict Str Bool)} {keep : MemoryItem → Bool} {limit : Option Nat}
  {acc acc' kept : List MemoryItem} {m : MemoryItem} {candidates : List MemoryItem}
  {sources : List MemorySource}

def candidateLimitExceeded (limit : Nat) : Exn :=
  .valueError (lit "gate request candidate limit exceeded: " ++ decimal (limit + 1) ++ lit " > " ++
    decimal limit)

def Store.keepStep (s : Store) (relations : Option (Dict Str Bool)) (keep : MemoryItem → Bool)
    (limit : Option Nat) (acc : List MemoryItem) (m : MemoryItem) : Except Exn (List MemoryItem) := do
  if (← s.keptByAncestry relations m) && keep m then
    raiseIf (exceeds limit (acc.length + 1) = true)
      (.valueError (lit "gate request candidate limit exceeded: " ++
        decimal (acc.length + 1) ++ lit " > " ++ decimal (limit.getD 0)))
    return acc ++ [m]
  else return acc

theorem candidateStep_none {source : MemorySource} (h : s.metadataCandidate py c source = .ok none) :
    s.candidateStep py c relations keep limit acc source = .ok acc := by
  rw [Store.candidateStep, h]
  rfl

theorem candidateStep_some {source : MemorySource}
    (h : s.metadataCandidate py c source = .ok (some m)) :
    s.candidateStep py c relations keep limit acc source = s.keepStep relations keep limit acc m := by
  rw [Store.candidateStep, h]
  rfl

theorem accumulate_found {found : List (Option MemoryItem)}
    (h : collect (s.metadataCandidate py c) sources = .ok found) :
    accumulate (s.candidateStep py c relations keep limit) acc sources =
      accumulate (s.keepStep relations keep limit) acc (found.filterMap id) := by
  have hforall := collect_eq_ok.mp h
  clear h
  induction hforall generalizing acc with
  | nil => rfl
  | @cons source o sources found ho _ ih =>
    cases o with
    | none =>
      rw [List.filterMap_cons_none rfl, ← ih, accumulate, candidateStep_none ho]
      rfl
    | some m =>
      have hcons : (some m :: found).filterMap id = m :: found.filterMap id := rfl
      rw [hcons, accumulate, accumulate, candidateStep_some ho]
      exact congrArg _ (funext fun acc => ih)

theorem found_of_accumulate (h : accumulate (s.candidateStep py c relations keep limit) acc sources =
    .ok kept) : ∃ found, collect (s.metadataCandidate py c) sources = .ok found := by
  refine collect_total ?_
  induction sources generalizing acc with
  | nil => simp
  | cons source sources ih =>
    obtain ⟨next, hnext, hrest⟩ := bind_eq_ok.mp h
    obtain ⟨o, ho, _⟩ := bind_eq_ok.mp hnext
    exact List.forall_mem_cons.mpr ⟨⟨o, ho⟩, ih hrest⟩

theorem keepStep_eq_ok : s.keepStep relations keep limit acc m = .ok acc' ↔
    (∃ b, s.keptByAncestry relations m = .ok b) ∧
      acc' = acc ++ [m].filter (fun m => s.kept relations m && keep m) ∧
      ((s.kept relations m && keep m) = true → exceeds limit (acc.length + 1) = false) := by
  simp only [Store.keepStep, bind_eq_ok]
  constructor
  · rintro ⟨b, hb, h⟩
    have hkept : s.kept relations m = b := by
      rw [Store.kept, hb]
      cases b <;> rfl
    refine ⟨⟨b, hb⟩, ?_⟩
    rw [List.filter_cons, hkept]
    split_ifs at h ⊢ with hkeep
    · simp only [bind_eq_ok, exists_unit, raiseIf_eq_ok, Bool.not_eq_true, pure_eq_ok] at h
      exact ⟨h.2.symm, fun _ => h.1⟩
    · rw [List.filter_nil, List.append_nil]
      exact ⟨(pure_eq_ok.mp h).symm, fun hkeep' => absurd hkeep' hkeep⟩
  · rintro ⟨⟨b, hb⟩, rfl, hlimit⟩
    have hkept : s.kept relations m = b := by
      rw [Store.kept, hb]
      cases b <;> rfl
    rw [hkept] at hlimit
    rw [List.filter_cons, hkept]
    refine ⟨b, hb, ?_⟩
    split_ifs with hkeep
    · simp only [bind_eq_ok, exists_unit, raiseIf_eq_ok, Bool.not_eq_true, pure_eq_ok]
      exact ⟨hlimit hkeep, rfl⟩
    · rw [List.filter_nil, List.append_nil]
      rfl

theorem exceeds_mono {n k : Nat} (h : exceeds limit k = false) (hn : n ≤ k) :
    exceeds limit n = false := by
  cases limit with
  | none => rfl
  | some max =>
    simp only [exceeds, decide_eq_false_iff_not, Nat.not_lt] at h ⊢
    exact hn.trans h

theorem accumulate_keep : accumulate (s.keepStep relations keep limit) acc candidates = .ok kept ↔
    s.Settles relations candidates ∧
      kept = acc ++ candidates.filter (fun m => s.kept relations m && keep m) ∧
      (acc.length < kept.length → exceeds limit kept.length = false) := by
  induction candidates generalizing acc with
  | nil =>
    simp only [List.filter_nil, List.append_nil]
    constructor
    · intro h
      obtain rfl := Except.ok.inj h
      exact ⟨by simp [Store.Settles], rfl, fun h => absurd h (lt_irrefl _)⟩
    · rintro ⟨_, rfl, _⟩
      rfl
  | cons m candidates ih =>
    rw [accumulate, bind_eq_ok]
    simp only [keepStep_eq_ok, ih, Store.Settles, List.forall_mem_cons]
    by_cases hkeep : (s.kept relations m && keep m) = true
    · -- the item is taken: the limit has to hold for it, and for what follows it
      simp only [List.filter_cons, List.filter_nil, hkeep, ↓reduceIte, forall_const]
      constructor
      · rintro ⟨next, ⟨hm, rfl, hfirst⟩, hrest, rfl, hlimit⟩
        refine ⟨⟨hm, hrest⟩, by simp, fun _ => ?_⟩
        by_cases hend : candidates.filter (fun m => s.kept relations m && keep m) = []
        · simpa [hend] using hfirst
        · exact hlimit (by simpa using List.length_pos_iff.mpr hend)
      · rintro ⟨⟨hm, hrest⟩, rfl, hlimit⟩
        have hall := hlimit (by simp)
        refine ⟨_, ⟨hm, rfl, exceeds_mono hall ?_⟩, hrest, by simp, fun _ => hall⟩
        simp
    · simp only [List.filter_cons, List.filter_nil, if_neg hkeep, List.append_nil]
      constructor
      · rintro ⟨next, ⟨hm, rfl, _⟩, hrest, hkept, hlimit⟩
        exact ⟨⟨hm, hrest⟩, hkept, hlimit⟩
      · rintro ⟨⟨hm, hrest⟩, hkept, hlimit⟩
        exact ⟨acc, ⟨hm, rfl, fun h => absurd h hkeep⟩, hrest, hkept, hlimit⟩

theorem accumulate_exceeds {k : Nat} (hs : s.Settles relations candidates) (hacc : acc.length ≤ k)
    (hk : k < (acc ++ candidates.filter (fun m => s.kept relations m && keep m)).length) :
    accumulate (s.keepStep relations keep (some k)) acc candidates =
      .error (candidateLimitExceeded k) := by
  induction candidates generalizing acc with
  | nil =>
    rw [List.filter_nil, List.append_nil] at hk
    exact absurd hk (Nat.not_lt.mpr hacc)
  | cons m candidates ih =>
    obtain ⟨hm, hrest⟩ := List.forall_mem_cons.mp hs
    obtain ⟨b, hb⟩ := hm
    have hkept : s.kept relations m = b := by
      rw [Store.kept, hb]
      cases b <;> rfl
    have hstep : s.keepStep relations keep (some k) acc m =
        if b && keep m then
          (raiseIf (k < acc.length + 1) (.valueError (lit "gate request candidate limit exceeded: " ++
            decimal (acc.length + 1) ++ lit " > " ++ decimal k)) >>= fun _ => .ok (acc ++ [m]))
        else .ok acc := by
      rw [Store.keepStep, hb]
      simp only [exceeds, decide_eq_true_eq, Option.getD_some]
      rfl
    rw [accumulate, hstep]
    by_cases hkeep : (b && keep m) = true
    · rw [if_pos hkeep]
      by_cases hfull : k < acc.length + 1
      · have hlength : acc.length = k := by omega
        rw [raiseIf_of hfull, hlength]
        rfl
      · rw [raiseIf_of_not hfull]
        refine ih hrest (by simpa using hfull) ?_
        rw [List.filter_cons, hkept, if_pos hkeep] at hk
        simpa using hk
    · rw [if_neg hkeep]
      rw [List.filter_cons, hkept, if_neg hkeep] at hk
      exact ih hrest hacc hk

end Bounded

section Exactness

variable {k : Nat} {l : List MemoryItem}

-- what both paths go through before they look at any record
def Store.Asked (py : Python) (s : Store) (c : MemoryContext) (r : Retrieval)
    (scores : Option (Dict Str Number × Nat)) (relations : Option (Dict Str Bool)) : Prop :=
  validateMemoryContext c = .ok () ∧
    r.query.elim false (fun q => decide (retrievalQueryMaxChars < q.length)) = false ∧
    validatedSemanticScores py r s.memoryKnown = .ok scores ∧
    validatedCommitAncestry c r.commitAncestry = .ok relations

theorem metadataCandidates_eq_ok {found : List MemoryItem} :
    s.metadataCandidates py c = .ok found ↔ ∃ items,
      collect (s.metadataCandidate py c) (s.metadataSources c) = .ok items ∧
        found = items.filterMap id := by
  simp only [Store.metadataCandidates, bind_eq_ok, pure_eq_ok]
  exact exists_congr fun items => and_congr_right fun _ => eq_comm

theorem allCandidateMemories_eq_ok : s.allCandidateMemories py c r = .ok l ↔
    ∃ scores relations, s.Asked py c r scores relations ∧
      ∃ found, s.metadataCandidates py c = .ok found ∧ s.Settles relations found ∧
        l = selected py r (found.filter (s.kept relations)) scores := by
  simp only [Store.allCandidateMemories, Store.Asked, bind_eq_ok, exists_unit, raiseIf_eq_ok,
    Bool.not_eq_true, pure_eq_ok, applicable_eq_ok]
  constructor
  · rintro ⟨hc, hq, scores, hscores, relations, hrelations, found, hfound, _, ⟨hs, rfl⟩, rfl⟩
    exact ⟨scores, relations, ⟨hc, hq, hscores, hrelations⟩, found, hfound, hs, rfl⟩
  · rintro ⟨scores, relations, ⟨hc, hq, hscores, hrelations⟩, found, hfound, hs, rfl⟩
    exact ⟨hc, hq, scores, hscores, relations, hrelations, found, hfound, _, ⟨hs, rfl⟩, rfl⟩

def queryRelevant (py : Python) (r : Retrieval) (m : MemoryItem) : Bool :=
  queryKept py (tokens py (r.query.getD [])) m

def Store.boundedSelection (py : Python) (s : Store) (c : MemoryContext) (r : Retrieval) (k : Nat)
    (relations : Option (Dict Str Bool)) :
    Option (Dict Str Number × Nat) → Except Exn (List MemoryItem)
  | some (scores, limit) => do
    let kept ← accumulate (s.candidateStep py c relations (scoreKept scores r.minimumScore) none) []
      (s.metadataSources c)
    return (kept.insertionSort (scoreBefore scores)).take limit
  | none => do
    let kept ← accumulate (s.candidateStep py c relations (queryRelevant py r) (some k)) []
      (s.metadataSources c)
    return kept.insertionSort (fun a b => a.memoryId ≤ b.memoryId)

theorem candidateMemories_of_asked {scores : Option (Dict Str Number × Nat)}
    {relations : Option (Dict Str Bool)} (h : s.Asked py c r scores relations) :
    s.candidateMemories py c r k = s.boundedSelection py c r k relations scores := by
  obtain ⟨hc, hq, hscores, hrelations⟩ := h
  rw [Store.candidateMemories, hc, raiseIf_of_not (by rw [hq]; decide), hscores, hrelations]
  cases scores <;> rfl

theorem asked_of_candidateMemories (h : s.candidateMemories py c r k = .ok l) :
    ∃ scores relations, s.Asked py c r scores relations := by
  simp only [Store.candidateMemories, bind_eq_ok, exists_unit, raiseIf_eq_ok, Bool.not_eq_true] at h
  obtain ⟨hc, hq, scores, hscores, relations, hrelations, _⟩ := h
  exact ⟨scores, relations, hc, hq, hscores, hrelations⟩

theorem validatedSemanticScores_none (h : validatedSemanticScores py r s.memoryKnown = .ok none) :
    r.semanticScores = none := by
  unfold validatedSemanticScores at h
  cases hs : r.semanticScores with
  | none => rfl
  | some scores =>
    rw [hs] at h
    simp only [bind_eq_ok, pure_eq_ok, reduceCtorEq, and_false, exists_false] at h

theorem validatedSemanticScores_some {scores : Dict Str Number} {limit : Nat}
    (h : validatedSemanticScores py r s.memoryKnown = .ok (some (scores, limit))) :
    r.semanticScores = some scores ∧ r.maxCandidates = some (limit : Int) := by
  unfold validatedSemanticScores at h
  cases hs : r.semanticScores with
  | none =>
    rw [hs] at h
    simp only [bind_eq_ok, exists_unit, pure_eq_ok, reduceCtorEq, and_false] at h
  | some given =>
    rw [hs] at h
    simp only [bind_eq_ok, exists_unit, demand_eq_ok, raiseIf_eq_ok, Decidable.not_not, pure_eq_ok,
      Option.some.injEq, Prod.mk.injEq] at h
    obtain ⟨_, _, max, hmax, hbounds, _, _, _, rfl, rfl⟩ := h
    refine ⟨rfl, ?_⟩
    rw [hmax, Int.toNat_of_nonneg (by omega)]

theorem accumulate_candidates {relations : Option (Dict Str Bool)} {keep : MemoryItem → Bool}
    {limit : Option Nat} {kept : List MemoryItem} :
    accumulate (s.candidateStep py c relations keep limit) [] (s.metadataSources c) = .ok kept ↔
      ∃ found, s.metadataCandidates py c = .ok found ∧ s.Settles relations found ∧
        kept = (found.filter (s.kept relations)).filter keep ∧
          (0 < kept.length → exceeds limit kept.length = false) := by
  have hboth : ∀ found : List MemoryItem, (found.filter (s.kept relations)).filter keep =
      found.filter (fun m => s.kept relations m && keep m) := by
    intro found
    rw [List.filter_filter]
    exact List.filter_congr fun m _ => Bool.and_comm _ _
  simp only [hboth]
  constructor
  · intro h
    obtain ⟨items, hitems⟩ := found_of_accumulate h
    rw [accumulate_found hitems, accumulate_keep] at h
    exact ⟨_, metadataCandidates_eq_ok.mpr ⟨items, hitems, rfl⟩, h⟩
  · rintro ⟨found, hfound, h⟩
    obtain ⟨items, hitems, rfl⟩ := metadataCandidates_eq_ok.mp hfound
    rw [accumulate_found hitems, accumulate_keep]
    exact h

theorem boundedSelection_eq_ok {scores : Option (Dict Str Number × Nat)}
    {relations : Option (Dict Str Bool)} : s.boundedSelection py c r k relations scores = .ok l ↔
      ∃ found, s.metadataCandidates py c = .ok found ∧ s.Settles relations found ∧
        l = selected py r (found.filter (s.kept relations)) scores ∧
          (scores = none → l.length ≤ k) := by
  cases scores with
  | some p =>
    simp only [Store.boundedSelection, bind_eq_ok, accumulate_candidates, pure_eq_ok, selected]
    constructor
    · rintro ⟨_, ⟨found, hfound, hs, rfl, _⟩, rfl⟩
      exact ⟨found, hfound, hs, rfl, fun h => by cases h⟩
    · rintro ⟨found, hfound, hs, rfl, _⟩
      exact ⟨_, ⟨found, hfound, hs, rfl, fun _ => rfl⟩, rfl⟩
  | none =>
    simp only [Store.boundedSelection, bind_eq_ok, accumulate_candidates, pure_eq_ok, selected,
      forall_const, exceeds, decide_eq_false_iff_not, Nat.not_lt]
    constructor
    · rintro ⟨kept, ⟨found, hfound, hs, rfl, hlimit⟩, rfl⟩
      refine ⟨found, hfound, hs, rfl, ?_⟩
      rw [List.length_insertionSort]
      exact (Nat.eq_zero_or_pos _).elim (fun h => h.le.trans (Nat.zero_le k)) hlimit
    · rintro ⟨found, hfound, hs, rfl, hlimit⟩
      rw [List.length_insertionSort] at hlimit
      exact ⟨_, ⟨found, hfound, hs, rfl, fun _ => hlimit⟩, rfl⟩

theorem bounded_iff : s.candidateMemories py c r k = .ok l ↔
    s.allCandidateMemories py c r = .ok l ∧ (r.semanticScores = none → l.length ≤ k) := by
  have hnone : ∀ {scores relations}, s.Asked py c r scores relations →
      (scores = none ↔ r.semanticScores = none) := by
    intro scores relations h
    cases scores with
    | none => exact ⟨fun _ => validatedSemanticScores_none h.2.2.1, fun _ => rfl⟩
    | some p =>
      rw [(validatedSemanticScores_some h.2.2.1).1]
      exact iff_of_false (Option.some_ne_none p) (Option.some_ne_none _)
  rw [allCandidateMemories_eq_ok]
  constructor
  · intro h
    obtain ⟨scores, relations, hasked⟩ := asked_of_candidateMemories h
    rw [candidateMemories_of_asked hasked, boundedSelection_eq_ok] at h
    obtain ⟨found, hfound, hs, hl, hlimit⟩ := h
    exact ⟨⟨scores, relations, hasked, found, hfound, hs, hl⟩,
      fun h => hlimit ((hnone hasked).mpr h)⟩
  · rintro ⟨⟨scores, relations, hasked, found, hfound, hs, hl⟩, hlimit⟩
    rw [candidateMemories_of_asked hasked, boundedSelection_eq_ok]
    exact ⟨found, hfound, hs, hl, fun h => hlimit ((hnone hasked).mp h)⟩

theorem bounded_refused (h : s.allCandidateMemories py c r = .ok l) (hnone : r.semanticScores = none)
    (hk : k < l.length) : s.candidateMemories py c r k = .error (candidateLimitExceeded k) := by
  obtain ⟨scores, relations, hasked, found, hfound, hs, rfl⟩ := allCandidateMemories_eq_ok.mp h
  have hscores : scores = none := by
    have hvalid := hasked.2.2.1
    rw [validatedSemanticScores, hnone] at hvalid
    simp only [bind_eq_ok, exists_unit, pure_eq_ok] at hvalid
    exact hvalid.2.2.symm
  obtain rfl := hscores
  obtain ⟨items, hitems, rfl⟩ := metadataCandidates_eq_ok.mp hfound
  have hfull : accumulate (s.candidateStep py c relations (queryRelevant py r) (some k)) []
      (s.metadataSources c) = .error (candidateLimitExceeded k) := by
    rw [accumulate_found hitems]
    refine accumulate_exceeds hs (Nat.zero_le k) ?_
    rw [selected, List.length_insertionSort, List.filter_filter] at hk
    rw [List.nil_append]
    refine hk.trans_eq (congrArg _ (List.filter_congr fun m _ => ?_))
    exact Bool.and_comm _ _
  rw [candidateMemories_of_asked hasked, Store.boundedSelection, hfull]
  rfl

end Exactness

section Ranking

variable {scores : Dict Str Number}

theorem scoreBefore_total (a b : MemoryItem) : scoreBefore scores a b ∨ scoreBefore scores b a := by
  simp only [scoreBefore, Number.lt, decide_eq_true_eq]
  rcases lt_trichotomy ((scores.get? a.memoryId).getD .zero).scaled
    ((scores.get? b.memoryId).getD .zero).scaled with hlt | heq | hgt
  · exact .inr (.inl hlt)
  · rcases le_total a.memoryId b.memoryId with hid | hid
    · exact .inl (.inr ⟨heq.symm, hid⟩)
    · exact .inr (.inr ⟨heq, hid⟩)
  · exact .inl (.inl hgt)

theorem scoreBefore_trans {a b d : MemoryItem} (hab : scoreBefore scores a b)
    (hbd : scoreBefore scores b d) : scoreBefore scores a d := by
  simp only [scoreBefore, Number.lt, decide_eq_true_eq] at *
  rcases hab with hab | ⟨hab, hid⟩ <;> rcases hbd with hbd | ⟨hbd, hid'⟩
  · exact .inl (hbd.trans hab)
  · exact .inl (hbd.trans_lt hab)
  · exact .inl (hbd.trans_eq hab)
  · exact .inr ⟨hbd.trans hab, hid.trans hid'⟩

theorem pairwise_scoreBefore (l : List MemoryItem) :
    (l.insertionSort (scoreBefore scores)).Pairwise (scoreBefore scores) := by
  have : Std.Total (scoreBefore scores) := ⟨scoreBefore_total⟩
  have : IsTrans MemoryItem (scoreBefore scores) := ⟨fun _ _ _ => scoreBefore_trans⟩
  exact List.pairwise_insertionSort _ l

end Ranking

section Claim

def Store.eligible (s : Store) (scores : Dict Str Number) (relations : Option (Dict Str Bool))
    (r : Retrieval) (m : MemoryItem) : Bool :=
  s.kept relations m && scoreKept scores r.minimumScore m

theorem bounded_selection (py : Python) (s : Store) (c : MemoryContext) (r : Retrieval) (k : Nat)
    (l : List MemoryItem) :
    (s.candidateMemories py c r k = .ok l ↔
      s.allCandidateMemories py c r = .ok l ∧ (r.semanticScores = none → l.length ≤ k)) ∧
    (s.allCandidateMemories py c r = .ok l → r.semanticScores = none → k < l.length →
      s.candidateMemories py c r k = .error (candidateLimitExceeded k)) ∧
    (s.candidateMemories py c r k = .ok l → ∀ scores, r.semanticScores = some scores →
      ∃ limit : Nat, r.maxCandidates = some (limit : Int) ∧
      ∃ found, s.metadataCandidates py c = .ok found ∧
      ∃ relations, validatedCommitAncestry c r.commitAncestry = .ok relations ∧
      ∃ ranked : List MemoryItem, ranked.Perm (found.filter (s.eligible scores relations r)) ∧
        ranked.Pairwise (scoreBefore scores) ∧ l = ranked.take limit) := by
  refine ⟨bounded_iff, bounded_refused, fun h scores hscores => ?_⟩
  obtain ⟨valid, relations, hasked, found, hfound, _, rfl⟩ :=
    allCandidateMemories_eq_ok.mp (bounded_iff.mp h).1
  cases valid with
  | none =>
    rw [validatedSemanticScores_none hasked.2.2.1] at hscores
    cases hscores
  | some p =>
    obtain ⟨hsame, hlimit⟩ := validatedSemanticScores_some hasked.2.2.1
    rw [hscores] at hsame
    obtain rfl := Option.some.inj hsame
    have helig : (found.filter (s.kept relations)).filter (scoreKept p.1 r.minimumScore) =
        found.filter (s.eligible p.1 relations r) := by
      rw [List.filter_filter]
      exact List.filter_congr fun m _ => Bool.and_comm _ _
    refine ⟨p.2, hlimit, found, hfound, relations, hasked.2.2.2, _, ?_, ?_, rfl⟩
    · rw [← helig]
      exact List.perm_insertionSort _ _
    · exact pairwise_scoreBefore _

def corePolicy (policyId : String) : ProjectPolicy where
  policyId := lit policyId
  policyText := lit "Acquire locks in order."
  scope := Dict.ofList [(lit "repo", lit "core")]

def policyCalls : List (Env × Operation) :=
  [(sampleEnv, .addProjectPolicy (corePolicy "policy_1")),
    (sampleEnv, .addProjectPolicy (corePolicy "policy_2"))]

def policyStore : Store := runStore asciiPython (Store.fresh 0 sampleSession) policyCalls

set_option maxRecDepth 20000 in
theorem bounded_selection_raises : Reachable asciiPython policyStore ∧
    (policyStore.allCandidateMemories asciiPython sampleContext {}).map (·.map (·.memoryId)) =
      .ok [lit "policy_1", lit "policy_2"] ∧
    (policyStore.candidateMemories asciiPython sampleContext {} 1).map (·.map (·.memoryId)) =
      .error (candidateLimitExceeded 1) :=
  ⟨(Reachable.fresh 0 sampleSession).run policyCalls, by decide +kernel, by decide +kernel⟩

end Claim

end TraceBackedMemory
