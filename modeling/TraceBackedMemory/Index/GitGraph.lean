import TraceBackedMemory.Index.Contracts
import TraceBackedMemory.Foundation.GraphSearch
import TraceBackedMemory.Foundation.Dict

namespace TraceBackedMemory

open Text Raising GraphSearch

namespace Index

section Search

def parents (edges : List ManagedGitEdge) : Dict Str (List Str) :=
  edges.foldl (fun d e => d.set e.childCommitSha ((d.get? e.childCommitSha).getD [] ++ [e.parentCommitSha])) Dict.empty

def parentGraph (edges : List ManagedGitEdge) : Graph Str where
  next commit := ((parents edges).get? commit).getD []
  nodes := (parents edges).keys
  listed commit h := by
    rw [Dict.mem_keys]
    cases hparents : (parents edges).get? commit with
    | none => simp [hparents] at h
    | some l => exact ⟨l, rfl⟩

def validateAcyclicGitGraph (commits : List Str) (edges : List ManagedGitEdge) : Except IndexError Unit :=
  raiseIf ((sweep (parentGraph edges) commits unvisited).isNone = true) (invalid (lit "managed Git graph must be acyclic"))

def ancestors (gitCommits : List Str) (gitEdges : List ManagedGitEdge) (currentCommitSha : Str) :
    Except IndexError (Finset Str) := do
  raiseIf (currentCommitSha ∉ gitCommits)
    (.query (lit "TBM_MANAGED_INDEX_QUERY_UNAVAILABLE") (lit "current commit is absent from the managed Git graph"))
  return collect (parentGraph gitEdges) [currentCommitSha] ∅

end Search

section Laws

variable {commits : List Str} {edges : List ManagedGitEdge}

def IsParent (edges : List ManagedGitEdge) (child parent : Str) : Prop := ⟨child, parent⟩ ∈ edges

theorem get?_parents (edges : List ManagedGitEdge) (commit : Str) : ((parents edges).get? commit).getD [] =
    (edges.filter fun e => decide (e.childCommitSha = commit)).map ManagedGitEdge.parentCommitSha := by
  induction edges using List.reverseRecOn with
  | nil => rfl
  | append_singleton edges e ih =>
    rw [parents, List.foldl_append, List.foldl_cons, List.foldl_nil, Dict.get?_set, List.filter_append, List.map_append,
      ← ih]
    by_cases he : commit = e.childCommitSha
    · subst he
      simp [parents]
    · have hne : e.childCommitSha ≠ commit := fun heq => he heq.symm
      simp [he, hne, parents]

theorem edge_iff {child parent : Str} : (parentGraph edges).Edge child parent ↔ IsParent edges child parent := by
  change parent ∈ ((parents edges).get? child).getD [] ↔ _
  rw [get?_parents, List.mem_map, IsParent]
  constructor
  · rintro ⟨e, he, rfl⟩
    obtain ⟨hmem, hchild⟩ := List.mem_filter.mp he
    rw [← of_decide_eq_true hchild]
    exact hmem
  · intro h
    exact ⟨_, List.mem_filter.mpr ⟨h, decide_eq_true rfl⟩, rfl⟩

theorem edge_eq : (parentGraph edges).Edge = IsParent edges := funext fun _ => funext fun _ => propext edge_iff

theorem validateAcyclicGitGraph_eq_error (h : ∀ e ∈ edges, e.childCommitSha ∈ commits) :
    (∃ error, validateAcyclicGitGraph commits edges = .error error) ↔
      ∃ commit, Relation.TransGen (IsParent edges) commit commit := by
  have hstarts : ∀ commit, (parentGraph edges).next commit ≠ [] → commit ∈ commits := by
    intro commit hne
    obtain ⟨parent, hparent⟩ := List.exists_mem_of_ne_nil _ hne
    exact h _ (edge_iff.mp hparent)
  rw [← edge_eq, ← sweep_eq_none hstarts, validateAcyclicGitGraph]
  by_cases hnone : sweep (parentGraph edges) commits unvisited = none
  · simp [hnone, raiseIf]
  · simp [hnone, raiseIf]

theorem mem_ancestors {current : Str} (hcurrent : current ∈ commits) : ∃ found,
    ancestors commits edges current = .ok found ∧
      ∀ commit, commit ∈ found ↔ Relation.ReflTransGen (IsParent edges) current commit := by
  refine ⟨collect (parentGraph edges) [current] ∅, ?_, fun commit => ?_⟩
  · rw [ancestors, raiseIf_of_not (not_not.mpr hcurrent)]
    rfl
  · rw [mem_collect, edge_eq]

theorem git_graph_exact (commits : List Str) (edges : List ManagedGitEdge)
    (h : ∀ e ∈ edges, e.childCommitSha ∈ commits ∧ e.parentCommitSha ∈ commits) :
    ((∃ error, validateAcyclicGitGraph commits edges = .error error) ↔
      ∃ commit, Relation.TransGen (IsParent edges) commit commit) ∧
    (validateAcyclicGitGraph commits edges = .ok () → ∀ current ∈ commits, ∃ found,
      ancestors commits edges current = .ok found ∧
        ∀ commit, commit ∈ found ↔ Relation.ReflTransGen (IsParent edges) current commit) :=
  ⟨validateAcyclicGitGraph_eq_error fun e he => (h e he).1, fun _ _ hcurrent => mem_ancestors hcurrent⟩

def mergedEdges : List ManagedGitEdge :=
  [⟨lit "d", lit "b"⟩, ⟨lit "d", lit "c"⟩, ⟨lit "b", lit "a"⟩, ⟨lit "c", lit "a"⟩]

theorem git_graph_exact_merged : ∃ found, ancestors [lit "a", lit "b", lit "c", lit "d"] mergedEdges (lit "d") = .ok found ∧
    lit "a" ∈ found := by
  obtain ⟨hrejected, haccepted⟩ := git_graph_exact [lit "a", lit "b", lit "c", lit "d"] mergedEdges (by decide)
  have hsmaller : ∀ child parent, IsParent mergedEdges child parent → parent < child := by
    intro child parent h
    have hall : ∀ e ∈ mergedEdges, e.parentCommitSha < e.childCommitSha := by decide
    exact hall _ h
  cases hvalid : validateAcyclicGitGraph [lit "a", lit "b", lit "c", lit "d"] mergedEdges with
  | error e =>
    obtain ⟨commit, hcycle⟩ := hrejected.mp ⟨e, hvalid⟩
    have hless : commit < commit :=
      @Relation.transGen_minimal _ _ (fun child parent : Str => parent < child) _ hsmaller commit commit hcycle
    exact absurd hless (lt_irrefl commit)
  | ok u =>
    obtain ⟨found, hfound, hmem⟩ := haccepted hvalid (lit "d") (by decide)
    have hfirst : IsParent mergedEdges (lit "d") (lit "b") :=
      show (⟨lit "d", lit "b"⟩ : ManagedGitEdge) ∈ mergedEdges by decide
    have hsecond : IsParent mergedEdges (lit "b") (lit "a") :=
      show (⟨lit "b", lit "a"⟩ : ManagedGitEdge) ∈ mergedEdges by decide
    exact ⟨found, hfound, (hmem _).mpr ((Relation.ReflTransGen.single hfirst).tail hsecond)⟩

end Laws

end Index

end TraceBackedMemory
