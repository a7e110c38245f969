import TraceBackedMemory.Foundation.JsonText
import TraceBackedMemory.Store.GateSafety
import TraceBackedMemory.Store.YamlRoundTrip

namespace TraceBackedMemory

open Text Raising

variable {py : Python}

section Builder

def requestedInjection (requested : Option Str) (decision : Option MemoryDecision) :
    Except Exn Injection :=
  match requested with
  | some text => demand (injectionOfText text) unknownInjection
  | none => .ok (decision.elim .shortSummary MemoryDecision.recommendedInjection)

def checkGuardrails (py : Python) (memories : List MemoryItem) : Except Exn Unit :=
  checkEach (fun m => match snippetGuardrailError py m with
    | some e => .error (cannotBeInjected py m e)
    | none => .ok ()) memories

def validateInjectionDecision (py : Python) (memories : List MemoryItem)
    (decision : Option MemoryDecision) (requested : Option Str) : Except Exn Unit := do
  checkGuardrails py memories
  match decision with
  | none => raiseIf (memories ≠ []) (valueError "memory decision is required before injecting memory")
  | some d => do
    let (allowedMemoryIds, blockedMemoryIds) ← validatedDecisionFields d none
    refuseError (memoryDecisionConsistencyError d.useMemory allowedMemoryIds d.recommendedInjection)
    raiseIf (requested.elim false (fun text => decide (text ≠ injectionText d.recommendedInjection)) =
        true)
      (valueError "recommended_injection must match the memory decision")
    if d.useMemory = false then
      raiseIf (memories ≠ []) (valueError "memory decision does not allow injection")
    else
      let memoryIds := memories.map MemoryItem.memoryId
      raiseIf (¬memoryIds.Nodup)
        (valueError "injection memories must not contain duplicate memory IDs")
      raiseIf (∃ i ∈ memoryIds, i ∉ allowedMemoryIds)
        (valueError "injection memories must be listed in decision.allowed_memory_ids")
      raiseIf (∃ i ∈ memoryIds, i ∈ blockedMemoryIds)
        (valueError "injection memories must not include decision.blocked_memory_ids")

def checkBenchmarkSources (py : Python) (memories : List MemoryItem)
    (context : Option MemoryContext) : Except Exn Unit := do
  if memories.any (fun m => m.sourceEvalSuite.isSome) then
    let c ← demand context (valueError "context is required for benchmark source identity")
    validateMemoryContext c
    checkEach (fun m => raiseIf (isCurrentBenchmarkExample c m = true)
      (cannotBeInjected py m (lit "memory originates from current benchmark example"))) memories

def snippetHeader : Str := lit "Relevant verified memory:"

-- the public function, with the arguments the store's own call leaves at their defaults
def injectionSnippet (py : Python) (memories : List MemoryItem) (requested : Option Str)
    (decision : Option MemoryDecision) (context : Option MemoryContext) : Except Exn Str := do
  let validated ← validatedMemoryCollection py memories (lit "memories") true
  raiseIf (injectionMaxMemories < validated.length)
    (.valueError (lit "injection accepts at most " ++ decimal injectionMaxMemories ++
      lit " memories"))
  let injection ← requestedInjection requested decision
  validateInjectionDecision py validated decision requested
  checkBenchmarkSources py validated context
  if injection = .none ∨ validated = [] then return []
  else
    let snippet := joinNewline (snippetHeader :: numberedSnippetLines injection 1 validated)
    raiseIf (injectionSnippetMaxChars < snippet.length)
      (.valueError (lit "injection snippet exceeds " ++ decimal injectionSnippetMaxChars ++
        lit " characters"))
    return snippet

end Builder

section Lines

theorem splitlinesFrom_free_line {s acc : Str} (h : Free s) (hne : acc ≠ [] ∨ s ≠ []) :
    splitlinesFrom false acc s = [acc.reverse ++ s] := by
  induction s generalizing acc with
  | nil =>
    have hacc : acc ≠ [] := hne.resolve_right (fun h => h rfl)
    rw [splitlinesFrom, if_neg (by simpa using hacc), List.append_nil]
  | cons c s ih =>
    have hc : isLineBoundary c = false := h c List.mem_cons_self
    have htail : splitlinesFrom false (c :: acc) s = [(c :: acc).reverse ++ s] :=
      ih (fun d hd => h d (List.mem_cons_of_mem _ hd)) (.inl (List.cons_ne_nil c acc))
    simp only [splitlinesFrom, lineStep, hc]
    simpa using htail

theorem splitlines_joined (a : Str) (ls : List Str) (h : ∀ l ∈ a :: ls, Free l)
    (hlast : (a :: ls).getLast? ≠ some []) : splitlines (joinNewline (a :: ls)) = a :: ls := by
  induction ls generalizing a with
  | nil =>
    have ha : a ≠ [] := fun h => hlast (by rw [h]; rfl)
    have hjoin : joinNewline [a] = a := by simp [joinNewline]
    rw [hjoin, splitlines, splitlinesFrom_free_line (h a List.mem_cons_self) (.inr ha)]
    rfl
  | cons b ls ih =>
    rw [joinNewline_cons_cons, splitlines_line _ _ (h a List.mem_cons_self), ih b]
    · exact fun l hl => h l (List.mem_cons_of_mem _ hl)
    · rwa [List.getLast?_cons_cons] at hlast

end Lines

section Outline

variable {injection : Injection} {m : MemoryItem} {l : List MemoryItem} {n : Nat}

def entryLine (n : Nat) (m : MemoryItem) : Str :=
  decimal n ++ lit ". [type: " ++ dumpsString m.memoryType.text ++ lit "][id: " ++
    dumpsString m.memoryId ++ lit "][source: " ++ dumpsString (sourceText m) ++ lit "]"

def entryScope (m : MemoryItem) : Str := lit "Scope: " ++ scopeText m.scope

def entryBody (injection : Injection) (m : MemoryItem) : List Str :=
  match injection with
  | .shortSummary => [lit "Rule: " ++ dumpsString (capInjectedText m.text injectionTextMaxChars)]
  | .fullCaseSummary =>
    [lit "Details: " ++ dumpsString (capInjectedText
      (if nonEmpty m.fullText then m.fullText.getD [] else m.text) fullCaseInjectionTextMaxChars)]
  | _ => []

-- the lines a reader of the snippet sees below its header
def snippetEntries (injection : Injection) : Nat → List MemoryItem → List Str
  | _, [] => []
  | n, m :: l => [] :: entryLine n m :: entryScope m :: (entryBody injection m ++
      snippetEntries injection (n + 1) l)

def entryLines : Nat → List MemoryItem → List Str
  | _, [] => []
  | n, m :: l => entryLine n m :: entryLines (n + 1) l

def startsEntry (line : Str) : Bool := line.head?.elim false isNumeral

theorem snippetLines_eq (n : Nat) (m : MemoryItem) : snippetLines injection n m =
    (newline :: entryLine n m) :: entryScope m :: entryBody injection m := by
  cases injection <;> rfl

theorem entryBody_cases (injection : Injection) (m : MemoryItem) :
    entryBody injection m = [] ∨ ∃ label t, (label = lit "Rule: " ∨ label = lit "Details: ") ∧
      entryBody injection m = [label ++ dumpsString t] := by
  cases injection with
  | none | pointerOnly => exact .inl rfl
  | shortSummary => exact .inr ⟨_, _, .inl rfl, rfl⟩
  | fullCaseSummary => exact .inr ⟨_, _, .inr rfl, rfl⟩

theorem joinNewline_numbered (n : Nat) (l : List MemoryItem) (a : Str) :
    joinNewline (a :: numberedSnippetLines injection n l) = joinNewline (a :: snippetEntries injection n l) := by
  induction l generalizing n a with
  | nil => rfl
  | cons m l ih =>
    rw [numberedSnippetLines, snippetLines_eq, snippetEntries, List.cons_append, List.cons_append,
      joinNewline_cons_cons, joinNewline_cons_cons, joinNewline_cons_cons, joinNewline_cons_cons,
      joinNewline_cons_cons]
    have hrest : joinNewline (entryScope m :: (entryBody injection m ++
        numberedSnippetLines injection (n + 1) l)) =
        joinNewline (entryScope m :: (entryBody injection m ++ snippetEntries injection (n + 1) l)) := by
      rcases entryBody_cases injection m with h | ⟨label, t, _, h⟩
      · rw [h]
        exact ih (n + 1) _
      · rw [h, List.cons_append, List.cons_append, List.nil_append, List.nil_append,
          joinNewline_cons_cons, joinNewline_cons_cons, ih]
    rw [hrest]
    rfl

theorem injectionOfText_eq {text : Str} {i : Injection} (h : injectionOfText text = some i) :
    text = injectionText i := by
  unfold injectionOfText at h
  split_ifs at h <;> obtain rfl := Option.some.inj h <;> assumption

def Printable (s : Str) : Prop := ∀ c ∈ s, 32 ≤ c.val ∧ c.val ≤ 126

theorem Printable.free {s : Str} (h : Printable s) : Free s :=
  fun c hc => printable_not_boundary (h c hc)

theorem Printable.append {s t : Str} (hs : Printable s) (ht : Printable t) : Printable (s ++ t) := by
  intro c hc
  rcases List.mem_append.mp hc with hc | hc
  · exact hs c hc
  · exact ht c hc

theorem printable_of_all {s : Str} (h : s.all (fun c => decide (32 ≤ c.val ∧ c.val ≤ 126)) = true) :
    Printable s := fun c hc => of_decide_eq_true (List.all_eq_true.mp h c hc)

theorem printable_dumpsString (s : Str) : Printable (dumpsString s) :=
  fun _ => mem_dumpsString_printable

theorem printable_decimal (n : Nat) : Printable (decimal n) := by
  intro c hc
  have hdigit := isNumeral_of_mem_decimal hc
  simp only [isNumeral, decide_eq_true_eq] at hdigit
  omega

theorem printable_joinWith {sep : Str} {ls : List Str} (hsep : Printable sep)
    (h : ∀ l ∈ ls, Printable l) : Printable (joinWith sep ls) := by
  induction ls with
  | nil => exact fun c hc => absurd hc (by simp [joinWith])
  | cons a ls ih =>
    have hrest := ih fun l hl => h l (List.mem_cons_of_mem _ hl)
    cases ls with
    | nil => simpa [joinWith] using h a List.mem_cons_self
    | cons b ls =>
      rw [joinWith, List.intercalate_cons_cons]
      exact ((h a List.mem_cons_self).append hsep).append hrest

theorem printable_scopeText (scope : Scope) : Printable (scopeText scope) := by
  refine ((printable_of_all (by decide)).append (printable_joinWith (printable_of_all (by decide))
    fun l hl => ?_)).append (printable_of_all (by decide))
  obtain ⟨f, _, rfl⟩ := List.mem_map.mp hl
  exact ((printable_dumpsString _).append (printable_of_all (by decide))).append
    (printable_dumpsString _)

theorem printable_entryLine (n : Nat) (m : MemoryItem) : Printable (entryLine n m) := by
  have hlit : ∀ s, (lit s).all (fun c => decide (32 ≤ c.val ∧ c.val ≤ 126)) = true →
      Printable (lit s) := fun _ => printable_of_all
  refine .append (.append (.append (.append (.append (.append (.append ?_ ?_) ?_) ?_) ?_) ?_) ?_) ?_
  · exact printable_decimal n
  all_goals first
    | exact printable_dumpsString _
    | exact hlit _ (by decide)

theorem printable_entries (injection : Injection) (n : Nat) (l : List MemoryItem) :
    ∀ line ∈ snippetEntries injection n l, Printable line := by
  induction l generalizing n with
  | nil => simp [snippetEntries]
  | cons m l ih =>
    simp only [snippetEntries, List.forall_mem_cons, List.forall_mem_append]
    refine ⟨fun c hc => absurd hc (by simp), printable_entryLine n m, ?_, ?_, ih (n + 1)⟩
    · exact (printable_of_all (by decide)).append (printable_scopeText m.scope)
    · rcases entryBody_cases injection m with h | ⟨label, t, hlabel, h⟩
      · simp [h]
      · rw [h, List.forall_mem_singleton]
        refine .append (printable_of_all ?_) (printable_dumpsString t)
        rcases hlabel with rfl | rfl <;> decide

theorem last_entries (injection : Injection) (n : Nat) (m : MemoryItem) (l : List MemoryItem) :
    (snippetEntries injection n (m :: l)).getLast? ≠ some [] := by
  induction l generalizing n m with
  | nil =>
    rcases entryBody_cases injection m with h | ⟨label, t, hlabel, h⟩
    · rw [snippetEntries, snippetEntries, h]
      exact fun h => by cases h
    · rw [snippetEntries, snippetEntries, h]
      simp [dumpsString]
  | cons m' l ih =>
    rw [snippetEntries]
    have hrest := ih (n + 1) m'
    have hne : snippetEntries injection (n + 1) (m' :: l) ≠ [] := by simp [snippetEntries]
    rw [show ([] :: entryLine n m :: entryScope m :: (entryBody injection m ++
        snippetEntries injection (n + 1) (m' :: l))) = ([] :: entryLine n m :: entryScope m ::
          entryBody injection m) ++ snippetEntries injection (n + 1) (m' :: l) from rfl,
      List.getLast?_append_of_ne_nil _ hne]
    exact hrest

theorem startsEntry_entryLine (n : Nat) (m : MemoryItem) : startsEntry (entryLine n m) = true := by
  obtain ⟨c, t, hc, hdigit⟩ := decimal_head n
  simpa [startsEntry, entryLine, hc] using hdigit

theorem filter_entries (injection : Injection) (n : Nat) (l : List MemoryItem) :
    (snippetEntries injection n l).filter startsEntry = entryLines n l := by
  induction l generalizing n with
  | nil => rfl
  | cons m l ih =>
    have hscope : startsEntry (entryScope m) = false := rfl
    have hbody : (entryBody injection m).filter startsEntry = [] := by
      rcases entryBody_cases injection m with h | ⟨label, t, rfl | rfl, h⟩ <;> rw [h] <;> rfl
    have hblank : startsEntry [] = false := rfl
    rw [snippetEntries, entryLines, List.filter_cons, List.filter_cons, List.filter_cons,
      List.filter_append, hblank, hscope, startsEntry_entryLine, hbody, ih]
    rfl

theorem header_not_mem (injection : Injection) (n : Nat) (l : List MemoryItem) :
    snippetHeader ∉ snippetEntries injection n l := by
  induction l generalizing n with
  | nil => simp [snippetEntries]
  | cons m l ih =>
    simp only [snippetEntries, List.mem_cons, List.mem_append, not_or]
    refine ⟨by decide, fun h => ?_, fun h => ?_, fun h => ?_, ih (n + 1)⟩
    · have hstart := startsEntry_entryLine n m
      rw [← h] at hstart
      exact absurd hstart (by decide)
    · have hhead := congrArg List.head? h
      exact absurd hhead (by simp [entryScope, snippetHeader, lit_eq_map]; decide)
    · rcases entryBody_cases injection m with h' | ⟨label, t, rfl | rfl, h'⟩
      · simp [h'] at h
      · rw [h', List.mem_singleton] at h
        have hthird := congrArg (·[1]?) h
        exact absurd hthird (by simp [snippetHeader, lit_eq_map]; decide)
      · rw [h', List.mem_singleton] at h
        have hhead := congrArg List.head? h
        exact absurd hhead (by simp [snippetHeader, lit_eq_map]; decide)

end Outline

section Acceptance

variable {memories : List MemoryItem} {requested : Option Str} {decision : Option MemoryDecision}
  {context : Option MemoryContext} {injection : Injection} {snippet : Str} {d : MemoryDecision}
  {c : MemoryContext}

-- what the builder checks of every memory it renders
structure Admitted (py : Python) (memories : List MemoryItem) (decision : Option MemoryDecision)
    (context : Option MemoryContext) (injection : Injection) : Prop where
  few : memories.length ≤ injectionMaxMemories
  nodup : (memories.map MemoryItem.memoryId).Nodup
  guarded : ∀ m ∈ memories, snippetGuardrailError py m = none
  decided : ∀ m ∈ memories, ∃ d, decision = some d ∧ d.useMemory = true ∧
    d.recommendedInjection = injection ∧ m.memoryId ∈ d.allowedMemoryIds ∧
    m.memoryId ∉ d.blockedMemoryIds
  foreign : ∀ m ∈ memories, m.sourceEvalSuite.isSome = true →
    ∃ c, context = some c ∧ isCurrentBenchmarkExample c m = false

-- what a reader sees: one entry a memory in order, and no line that could pass for another
structure Shows (injection : Injection) (memories : List MemoryItem) (snippet : Str) : Prop where
  short : snippet.length ≤ injectionSnippetMaxChars
  lines : splitlines snippet =
    if memories = [] then [] else snippetHeader :: snippetEntries injection 1 memories
  entries : (splitlines snippet).filter startsEntry = entryLines 1 memories
  header : (splitlines snippet).count snippetHeader = if memories = [] then 0 else 1
  printable : ∀ line ∈ splitlines snippet, Printable line

theorem requestedInjection_eq (hdecided : requestedInjection requested decision = .ok injection)
    (hrequested : ∀ d text, decision = some d → requested = some text →
      text = injectionText d.recommendedInjection) (hd : decision = some d) :
    d.recommendedInjection = injection := by
  obtain rfl := hd
  cases requested with
  | none => exact Except.ok.inj hdecided
  | some text =>
    have htext := injectionOfText_eq (demand_eq_ok.mp hdecided)
    have hsame := (hrequested d text rfl rfl).symm.trans htext
    revert hsame
    cases d.recommendedInjection <;> cases injection <;> decide

theorem refuseError_eq_ok {e : Option Str} : refuseError e = .ok () ↔ e = none := by
  cases e with
  | none => exact iff_of_true rfl rfl
  | some m => exact iff_of_false (fun h => by cases h) (Option.some_ne_none m)

theorem checkGuardrails_eq_ok : checkGuardrails py memories = .ok () ↔
    ∀ m ∈ memories, snippetGuardrailError py m = none := by
  rw [checkGuardrails, checkEach_eq_ok]
  refine forall₂_congr fun m _ => ?_
  cases snippetGuardrailError py m with
  | none => exact iff_of_true rfl rfl
  | some e => exact iff_of_false (fun h => by cases h) (Option.some_ne_none e)

theorem validateInjectionDecision_eq_ok
    (h : validateInjectionDecision py memories decision requested = .ok ()) :
    (∀ m ∈ memories, snippetGuardrailError py m = none) ∧
      (∀ d text, decision = some d → requested = some text →
        text = injectionText d.recommendedInjection) ∧
      ∀ m ∈ memories, ∃ d, decision = some d ∧ d.useMemory = true ∧
        d.recommendedInjection ≠ .none ∧ m.memoryId ∈ d.allowedMemoryIds ∧
        m.memoryId ∉ d.blockedMemoryIds := by
  simp only [validateInjectionDecision, seq_eq_ok, checkGuardrails_eq_ok] at h
  obtain ⟨hguarded, h⟩ := h
  refine ⟨hguarded, ?_⟩
  cases decision with
  | none =>
    rw [raiseIf_eq_ok, Decidable.not_not] at h
    exact ⟨by simp, by simp [h]⟩
  | some d =>
    simp only [bind_eq_ok, exists_unit, validatedDecisionFields, stringList, raiseIf_eq_ok,
      pure_eq_ok] at h
    obtain ⟨_, ⟨_, ⟨_, _, _, _, rfl⟩, _, ⟨_, _, _, _, rfl⟩, _, rfl⟩, hconsistent, hrequested, h⟩ := h
    refine ⟨?_, fun m hm => ⟨d, rfl, ?_⟩⟩
    · rintro _ text ⟨⟩ rfl
      simpa using hrequested
    · split_ifs at h with huse
      · rw [raiseIf_eq_ok, Decidable.not_not] at h
        rw [h] at hm
        cases hm
      · simp only [seq_eq_ok, raiseIf_eq_ok, not_exists, not_and, Decidable.not_not] at h
        have hid : m.memoryId ∈ memories.map MemoryItem.memoryId := List.mem_map_of_mem hm
        have huses : d.useMemory = true := by simpa using huse
        refine ⟨huses, fun hnone => ?_, h.2.1 _ hid, h.2.2 _ hid⟩
        have hallowed : d.allowedMemoryIds ≠ [] := List.ne_nil_of_mem (h.2.1 _ hid)
        rw [refuseError_eq_ok, memoryDecisionConsistencyError, if_pos huses, if_neg hallowed,
          if_pos hnone] at hconsistent
        cases hconsistent

theorem checkBenchmarkSources_eq_ok (h : checkBenchmarkSources py memories context = .ok ()) :
    ∀ m ∈ memories, m.sourceEvalSuite.isSome = true →
      ∃ c, context = some c ∧ isCurrentBenchmarkExample c m = false := by
  intro m hm hsuite
  rw [checkBenchmarkSources, if_pos (List.any_eq_true.mpr ⟨m, hm, hsuite⟩)] at h
  simp only [bind_eq_ok, exists_unit, demand_eq_ok, checkEach_eq_ok, raiseIf_eq_ok,
    Bool.not_eq_true] at h
  obtain ⟨c, hc, _, h⟩ := h
  exact ⟨c, hc, h m hm⟩

theorem shows_nil : Shows injection [] [] :=
  ⟨Nat.zero_le _, rfl, rfl, rfl, by simp [splitlines, splitlinesFrom]⟩

theorem shows_joined (hne : memories ≠ []) (hshort : (joinNewline (snippetHeader ::
      numberedSnippetLines injection 1 memories)).length ≤ injectionSnippetMaxChars) :
    Shows injection memories (joinNewline (snippetHeader ::
      numberedSnippetLines injection 1 memories)) := by
  have hprintable : ∀ line ∈ snippetHeader :: snippetEntries injection 1 memories, Printable line :=
    List.forall_mem_cons.mpr ⟨printable_of_all (by decide), printable_entries injection 1 memories⟩
  have hlines : splitlines (joinNewline (snippetHeader :: numberedSnippetLines injection 1 memories)) =
      snippetHeader :: snippetEntries injection 1 memories := by
    rw [joinNewline_numbered]
    refine splitlines_joined _ _ (fun l hl => (hprintable l hl).free) ?_
    obtain ⟨m, l, rfl⟩ := List.exists_cons_of_ne_nil hne
    have hlast := last_entries injection 1 m l
    rwa [snippetEntries] at hlast ⊢
  refine ⟨hshort, by rw [hlines, if_neg hne], ?_, ?_, by rwa [hlines]⟩
  · rw [hlines, List.filter_cons_of_neg (by decide), filter_entries]
  · rw [hlines, List.count_cons_self, List.count_eq_zero_of_not_mem (header_not_mem injection 1 memories),
      if_neg hne]

theorem injectionSnippet_admits
    (h : injectionSnippet py memories requested decision context = .ok snippet) :
    ∃ injection, requestedInjection requested decision = .ok injection ∧
      Admitted py memories decision context injection ∧ Shows injection memories snippet := by
  simp only [injectionSnippet, validatedMemoryCollection, bind_eq_ok, exists_unit, raiseIf_eq_ok,
    Nat.not_lt, Decidable.not_not, pure_eq_ok] at h
  obtain ⟨_, ⟨_, hnodup, rfl⟩, hfew, injection, hinjection, hdecision, hbenchmark, h⟩ := h
  obtain ⟨hguarded, hrequested, hallowed⟩ := validateInjectionDecision_eq_ok hdecision
  have hadmitted : Admitted py memories decision context injection := by
    refine ⟨hfew, hnodup, hguarded, fun m hm => ?_, checkBenchmarkSources_eq_ok hbenchmark⟩
    obtain ⟨d, hd, huse, _, hids⟩ := hallowed m hm
    exact ⟨d, hd, huse, requestedInjection_eq hinjection hrequested hd, hids⟩
  refine ⟨injection, hinjection, hadmitted, ?_⟩
  by_cases hempty : memories = []
  · rw [if_pos (.inr hempty)] at h
    obtain rfl := pure_eq_ok.mp h
    rw [hempty]
    exact shows_nil
  · have hmode : injection ≠ .none := by
      obtain ⟨m, hm⟩ := List.exists_mem_of_ne_nil _ hempty
      obtain ⟨d, hd, _, hmode, _⟩ := hallowed m hm
      rwa [← requestedInjection_eq hinjection hrequested hd]
    rw [if_neg (not_or.mpr ⟨hmode, hempty⟩)] at h
    simp only [bind_eq_ok, exists_unit, raiseIf_eq_ok, Nat.not_lt, pure_eq_ok] at h
    obtain ⟨hshort, rfl⟩ := h
    exact shows_joined hempty hshort

end Acceptance

section Finalization

variable {env : Env} {s s' : Store} {a : FinalizeArguments} {result : GatedMemoryResult}

-- the store's own call passes its decision and its request's context
theorem validateInjectionInputs_eq (memories : List MemoryItem) (d : MemoryDecision) :
    validateInjectionInputs py memories d = validateInjectionDecision py memories (some d) none := rfl

theorem buildInjectionSnippet_eq (memories : List MemoryItem) (d : MemoryDecision)
    (c : MemoryContext) : buildInjectionSnippet py memories d c =
      injectionSnippet py memories none (some d) (some c) := by
  unfold buildInjectionSnippet injectionSnippet
  refine bind_congr fun validated => bind_congr fun _ => ?_
  rw [validateInjectionInputs_eq]
  refine bind_congr fun _ => ?_
  rw [checkBenchmarkSources]
  by_cases hany : validated.any (fun m => m.sourceEvalSuite.isSome) = true
  · rw [if_pos hany, if_pos hany]
    change _ = ((validateMemoryContext c >>= fun _ => checkEach _ validated) >>= _)
    rw [bind_assoc]
    rfl
  · rw [if_neg hany, if_neg hany]
    rfl

theorem found_ids {allowed : List MemoryItem} {requested : List Str}
    (h : requested ⊆ allowed.map MemoryItem.memoryId) :
    (requested.filterMap (fun i => allowed.find? (fun m => decide (m.memoryId = i)))).map
      MemoryItem.memoryId = requested := by
  induction requested with
  | nil => rfl
  | cons i requested ih =>
    obtain ⟨hi, hrest⟩ := List.cons_subset.mp h
    obtain ⟨m, hm, hid⟩ := List.mem_map.mp hi
    have hsome : (allowed.find? (fun m => decide (m.memoryId = i))).isSome = true :=
      List.find?_isSome.mpr ⟨m, hm, decide_eq_true hid⟩
    obtain ⟨m', hm'⟩ := Option.isSome_iff_exists.mp hsome
    have hid' : m'.memoryId = i := by simpa using List.find?_some hm'
    simp only [List.filterMap_cons, hm', List.map_cons, ih hrest, hid']

theorem applied_memories {allowed : List MemoryItem} {blocked : Dict Str Str} {d : MemoryDecision}
    {p : List MemoryItem × MemoryDecision} (h : applyLlmGateDecision py allowed blocked d = .ok p) :
    p.1 ⊆ allowed ∧ p.1.map MemoryItem.memoryId = p.2.allowedMemoryIds := by
  simp only [applyLlmGateDecision, validatedMemoryCollection, validatedDecisionFields, bind_eq_ok,
    exists_unit, pure_eq_ok] at h
  obtain ⟨_, ⟨_, _, rfl⟩, _, _, ⟨ids, _, blockedIds, _, _, rfl⟩, _, rfl⟩ := h
  refine ⟨fun m hm => ?_, found_ids fun i hi => ?_⟩
  · obtain ⟨_, _, hm⟩ := List.mem_filterMap.mp hm
    exact List.mem_of_find?_eq_some hm
  · rw [List.mem_ite_nil_right] at hi
    exact of_decide_eq_true (List.mem_filter.mp hi.2).2

-- what a finalized request shows is what passed the System Gate in its context
theorem finalizeMemory_shows (h : finalizeMemory py env a s = .ok result s') :
    ∃ candidates g memories injection,
      s.memoryItems py a.request.candidateMemoryIds = .ok candidates ∧
      systemGate py a.request.context candidates = .ok g ∧ memories ⊆ g.1 ∧
      memories.map MemoryItem.memoryId = result.allowedMemoryIds ∧
      (∀ m ∈ memories, blockedReason py a.request.context m = none) ∧
      Shows injection memories result.snippet := by
  obtain ⟨f, _, hf, _, _, rfl⟩ := finalizeMemory_spec h
  simp only [Store.finalization, bind_eq_ok, exists_unit, pure_eq_ok] at hf
  obtain ⟨_, _, _, _, _, t, _, _, _, candidates, hcandidates, b, hb, decision, _, p, hp, snippet,
    hsnippet, log, _, rfl⟩ := hf
  obtain ⟨g, hg, hsub, _⟩ := boundedSystemGate_eq_ok hb
  obtain ⟨happlied, hids⟩ := applied_memories hp
  rw [buildInjectionSnippet_eq] at hsnippet
  obtain ⟨injection, _, _, hshows⟩ := injectionSnippet_admits hsnippet
  refine ⟨candidates, g, p.1, injection, hcandidates, hg, fun _ hm => hsub (happlied hm), hids, fun m hm => ?_,
    hshows⟩
  have hpassed := hsub (happlied hm)
  rw [(systemGate_eq_ok hg).1] at hpassed
  exact Option.isNone_iff_eq_none.mp (List.mem_filter.mp hpassed).2

theorem injection_bounded_and_faithful (py : Python) :
    (∀ memories requested decision context snippet,
      injectionSnippet py memories requested decision context = .ok snippet →
      ∃ injection, Admitted py memories decision context injection ∧
        Shows injection memories snippet) ∧
    ∀ env s s' a result, finalizeMemory py env a s = .ok result s' →
      ∃ candidates g memories injection,
        s.memoryItems py a.request.candidateMemoryIds = .ok candidates ∧
        systemGate py a.request.context candidates = .ok g ∧ memories ⊆ g.1 ∧
        memories.map MemoryItem.memoryId = result.allowedMemoryIds ∧
        (∀ m ∈ memories, blockedReason py a.request.context m = none) ∧
        Shows injection memories result.snippet := by
  refine ⟨fun _ _ _ _ _ h => ?_, fun _ _ _ _ _ => finalizeMemory_shows⟩
  obtain ⟨injection, _, hadmitted, hshows⟩ := injectionSnippet_admits h
  exact ⟨injection, hadmitted, hshows⟩

def coreItem : MemoryItem where
  memoryId := lit "lesson_1"
  status := .active
  memoryType := .procedural
  scope := Dict.ofList [(lit "repo", lit "core")]
  text := lit "Acquire locks in order."
  sourceCaseId := some (lit "case_1")
  confidence := .int 1
  fullText := some (lit ("Lesson: Acquire locks in order.\nFailure: worker hangs\n" ++
    "Root cause: lock order\nFix: acquire locks in order\nSource commit: c0ffee1\n" ++
    "Fix commit: c0ffee2\nRegression: passed\nReviewed by: reviewer"))

def otherContext : MemoryContext := { sampleContext with repo := lit "other" }

set_option maxRecDepth 20000 in
theorem injected_past_the_gate : Reachable asciiPython sampleStore ∧
    sampleStore.memoryItem? asciiPython (lit "lesson_1") = .ok (some coreItem) ∧
    (injectionSnippet asciiPython [coreItem] none (some sampleDecision) (some otherContext)).map
      (fun snippet => (splitlines snippet).filter startsEntry) = .ok [entryLine 1 coreItem] ∧
    blockedReason asciiPython otherContext coreItem =
      some (lit "scope does not match current context") :=
  ⟨sampleStore_reachable, by decide +kernel⟩

end Finalization

end TraceBackedMemory
