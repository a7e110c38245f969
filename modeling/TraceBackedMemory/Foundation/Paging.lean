import TraceBackedMemory.Foundation.Raising

namespace Paging

variable {α : Type}

section Windows

variable (pos : α → Nat)

def remaining (l : List α) (n : Nat) : List α := l.filter (fun a => decide (n ≤ pos a))

variable {pos}

theorem mem_remaining {l : List α} {n : Nat} {a : α} :
    a ∈ remaining pos l n ↔ a ∈ l ∧ n ≤ pos a := by
  simp [remaining]

theorem remaining_remaining {l : List α} {m n : Nat} (h : m ≤ n) :
    remaining pos (remaining pos l m) n = remaining pos l n := by
  simp only [remaining, List.filter_filter]
  apply List.filter_congr
  intro a _
  by_cases hn : n ≤ pos a
  · have hm : m ≤ pos a := Nat.le_trans h hn
    simp [hn, hm]
  · simp [hn]

theorem remaining_append {l m : List α} {n : Nat} (hl : ∀ a ∈ l, pos a < n)
    (hm : ∀ a ∈ m, n ≤ pos a) : remaining pos (l ++ m) n = m := by
  have hleft : l.filter (fun a => decide (n ≤ pos a)) = [] := by
    rw [List.filter_eq_nil_iff]
    intro a ha
    have := hl a ha
    simpa using this
  have hright : m.filter (fun a => decide (n ≤ pos a)) = m := by
    rw [List.filter_eq_self]
    intro a ha
    simpa using hm a ha
  rw [remaining, List.filter_append, hleft, hright, List.nil_append]

theorem pairwise_remaining {l : List α} (h : l.Pairwise (fun a b => pos a < pos b)) (n : Nat) :
    (remaining pos l n).Pairwise (fun a b => pos a < pos b) :=
  h.sublist List.filter_sublist

theorem le_last_of_pairwise {l : List α} (h : l.Pairwise (fun a b => pos a < pos b)) {a : α}
    (hlast : l.getLast? = some a) : ∀ b ∈ l, pos b ≤ pos a := by
  obtain ⟨front, rfl⟩ := List.getLast?_eq_some_iff.mp hlast
  intro b hb
  rcases List.mem_append.mp hb with hb | hb
  · exact Nat.le_of_lt ((List.pairwise_append.mp h).2.2 b hb a (by simp))
  · exact Nat.le_of_eq (congrArg pos (List.mem_singleton.mp hb))

theorem remaining_after_window {l : List α} (h : l.Pairwise (fun a b => pos a < pos b))
    {n limit : Nat} {a : α} (hlast : ((remaining pos l n).take limit).getLast? = some a) :
    remaining pos l (pos a + 1) = (remaining pos l n).drop limit := by
  have hmem : a ∈ remaining pos l n := List.mem_of_mem_take (List.mem_of_getLast? hlast)
  have hn : n ≤ pos a + 1 := Nat.le_succ_of_le (mem_remaining.mp hmem).2
  have hsorted := pairwise_remaining h n
  rw [← remaining_remaining hn]
  nth_rewrite 1 [← List.take_append_drop limit (remaining pos l n)]
  rw [← List.take_append_drop limit (remaining pos l n)] at hsorted
  obtain ⟨htake, _, hcross⟩ := List.pairwise_append.mp hsorted
  refine remaining_append (fun b hb => ?_) fun b hb => ?_
  · have := le_last_of_pairwise htake hlast b hb
    omega
  · have := hcross a (List.mem_of_getLast? hlast) b hb
    omega

end Windows

end Paging
