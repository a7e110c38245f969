import Mathlib
import TraceBackedMemory.Foundation.Dict

abbrev Counter (κ : Type) [DecidableEq κ] : Type := Dict κ Nat

namespace Counter

variable {κ ι : Type} [DecidableEq κ]

def count (c : Counter κ) (k : κ) : Nat := (c.get? k).getD 0

def add (c : Counter κ) (k : κ) : Counter κ := c.set k (c.count k + 1)

def update (c : Counter κ) (ks : List κ) : Counter κ := ks.foldl add c

@[simp] theorem count_empty (k : κ) : count (Dict.empty : Counter κ) k = 0 := by
  simp [count]

theorem count_add (c : Counter κ) (k j : κ) :
    (c.add k).count j = c.count j + if k = j then 1 else 0 := by
  rw [count, add, Dict.get?_set]
  by_cases h : j = k
  · rw [if_pos h, if_pos h.symm, h, Option.getD_some]
  · rw [if_neg h, if_neg (Ne.symm h), Nat.add_zero, count]

variable [BEq κ] [LawfulBEq κ]

theorem count_update (c : Counter κ) (ks : List κ) (j : κ) :
    (c.update ks).count j = c.count j + ks.count j := by
  induction ks generalizing c with
  | nil => rfl
  | cons k ks ih =>
    have hstep : c.update (k :: ks) = (c.add k).update ks := rfl
    rw [hstep, ih, count_add, List.count_cons, Nat.add_assoc, Nat.add_comm (List.count j ks)]
    simp only [beq_iff_eq]

theorem sum_indicator {ks : List κ} (hn : ks.Nodup) {k : κ} (hk : k ∈ ks) :
    (ks.map (fun j => if k = j then 1 else 0)).sum = 1 := by
  have hcount : ∀ l : List κ, (l.map (fun j => if k = j then 1 else 0)).sum = l.count k := by
    intro l
    induction l with
    | nil => rfl
    | cons j l ih =>
      rw [List.map_cons, List.sum_cons, ih, List.count_cons, Nat.add_comm]
      by_cases h : k = j
      · simp [h]
      · simp [h, Ne.symm h]
  rw [hcount, List.count_eq_one_of_mem hn hk]

-- counted key by key, nothing is missed and nothing counted twice
theorem sum_count {ks l : List κ} (hn : ks.Nodup) (hsub : ∀ k ∈ l, k ∈ ks) :
    (ks.map (fun k => l.count k)).sum = l.length := by
  induction l with
  | nil => simp
  | cons k l ih =>
    have hl := ih fun j hj => hsub j (List.mem_cons_of_mem k hj)
    simp only [List.count_cons, beq_iff_eq, List.sum_map_add, List.length_cons]
    rw [hl, sum_indicator hn (hsub k List.mem_cons_self)]

theorem sum_sum_count {ks : List κ} (hn : ks.Nodup) {logs : List ι} {ids : ι → List κ}
    (hsub : ∀ a ∈ logs, ∀ k ∈ ids a, k ∈ ks) :
    (ks.map (fun k => (logs.map (fun a => (ids a).count k)).sum)).sum =
      (logs.map (fun a => (ids a).length)).sum := by
  induction logs with
  | nil => simp
  | cons a logs ih =>
    simp only [List.map_cons, List.sum_cons, List.sum_map_add]
    rw [ih fun b hb => hsub b (List.mem_cons_of_mem a hb), sum_count hn (hsub a List.mem_cons_self)]

end Counter
