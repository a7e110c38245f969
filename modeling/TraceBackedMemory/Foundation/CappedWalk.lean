import TraceBackedMemory.Foundation.Raising
import Mathlib.Data.List.ReduceOption

namespace CappedWalk

open Raising

variable {δ ε : Type}

section Walking

variable (cap : Nat) (check : δ → Except ε Unit)

def walk : List (Option δ) → List δ → Except ε (Bool × List δ)
  | [], sink => .ok (false, sink)
  | none :: visits, sink => if cap ≤ sink.length then .ok (true, sink) else walk visits sink
  | some found :: visits, sink =>
    if cap ≤ sink.length then .ok (true, sink)
    else do
      check found
      walk visits (sink ++ [found])

variable {cap check}

theorem walk_full {visits : List (Option δ)} {sink : List δ} (hvisits : visits ≠ [])
    (hfull : cap ≤ sink.length) : walk cap check visits sink = .ok (true, sink) := by
  cases visits with
  | nil => exact absurd rfl hvisits
  | cons visit visits => cases visit <;> rw [walk, if_pos hfull]

theorem walk_append (visits rest : List (Option δ)) (sink : List δ) :
    walk cap check (visits ++ rest) sink =
      walk cap check visits sink >>= fun walked =>
        if walked.1 = true then .ok walked else walk cap check rest walked.2 := by
  induction visits generalizing sink with
  | nil => rfl
  | cons visit visits ih =>
    by_cases hfull : cap ≤ sink.length
    · rw [walk_full (by simp) hfull, walk_full (by simp) hfull]
      rfl
    · cases visit with
      | none => simp only [List.cons_append, walk, if_neg hfull, ih]
      | some found =>
        simp only [List.cons_append, walk, if_neg hfull]
        cases hfound : check found with
        | error e => rfl
        | ok u => exact ih (sink ++ [found])

theorem walk_from_eq_ok {visits : List (Option δ)} {sink : List δ} (hsink : sink.length ≤ cap)
    {truncated : Bool} {report : List δ} :
    walk cap check visits sink = .ok (truncated, report) ↔
      (∀ found ∈ visits.reduceOption.take (cap - sink.length), check found = .ok ()) ∧
        truncated = decide (visits ≠ [] ∧ cap ≤ sink.length + visits.dropLast.reduceOption.length) ∧
          report = sink ++ visits.reduceOption.take (cap - sink.length) := by
  induction visits generalizing sink with
  | nil => simp [walk, eq_comm]
  | cons visit visits ih =>
    by_cases hfull : cap ≤ sink.length
    · have hzero : cap - sink.length = 0 := by omega
      have hcut : cap ≤ sink.length + (visit :: visits).dropLast.reduceOption.length := by omega
      rw [walk_full (by simp) hfull, hzero]
      simp [hcut, eq_comm]
    · cases visit with
      | none =>
        rw [walk, if_neg hfull, ih hsink, List.reduceOption_cons_of_none]
        cases visits with
        | nil => simp [hfull]
        | cons next visits => simp [List.dropLast_cons_cons, List.reduceOption_cons_of_none]
      | some found =>
        have hlength : (sink ++ [found]).length = sink.length + 1 := by simp
        have htake : cap - sink.length = cap - (sink.length + 1) + 1 := by omega
        rw [walk, if_neg hfull, seq_eq_ok, ih (by omega), hlength, List.reduceOption_cons_of_some,
          htake, List.take_succ_cons, List.forall_mem_cons, List.append_assoc, and_assoc]
        cases visits with
        | nil => simp [hfull]
        | cons next visits =>
          have hcount (n : Nat) : sink.length + 1 + n = sink.length + (n + 1) := by omega
          simp [List.dropLast_cons_cons, List.reduceOption_cons_of_some, hcount]

theorem walk_eq_ok {visits : List (Option δ)} (hcap : 0 < cap) {truncated : Bool}
    {report : List δ} :
    walk cap check visits [] = .ok (truncated, report) ↔
      (∀ found ∈ visits.reduceOption.take cap, check found = .ok ()) ∧
        truncated = decide (cap ≤ visits.dropLast.reduceOption.length) ∧
          report = visits.reduceOption.take cap := by
  rw [walk_from_eq_ok (Nat.zero_le cap)]
  cases visits with
  | nil =>
    have hnone : ¬cap ≤ 0 := by omega
    simp [hnone]
  | cons visit visits => simp

end Walking

section Blindness

def Misses (seen real : List (Option δ)) : Prop :=
  List.Forall₂ (fun s r => s = none ∨ s = r) seen real

variable {seen real : List (Option δ)}

theorem Misses.sublist (h : Misses seen real) : seen.reduceOption.Sublist real.reduceOption := by
  induction h with
  | nil => exact List.Sublist.refl _
  | @cons s r seen real hs _ ih =>
    rcases hs with rfl | rfl
    · rw [List.reduceOption_cons_of_none]
      cases r with
      | none => exact ih
      | some found => exact ih.cons found
    · cases s with
      | none => exact ih
      | some found => exact ih.cons_cons found

theorem Misses.eq_iff (h : Misses seen real) :
    seen.reduceOption = real.reduceOption ↔ seen = real := by
  refine ⟨fun heq => ?_, fun heq => heq ▸ rfl⟩
  induction h with
  | nil => rfl
  | @cons s r seen real hs htail ih =>
    rcases hs with rfl | rfl
    · cases r with
      | none => exact congrArg _ (ih heq)
      | some found =>
        have hlength := congrArg List.length heq
        have hle := (Misses.sublist htail).length_le
        rw [List.reduceOption_cons_of_none, List.reduceOption_cons_of_some, List.length_cons]
          at hlength
        omega
    · cases s with
      | none => exact congrArg _ (ih heq)
      | some found => exact congrArg _ (ih (List.cons.inj heq).2)

theorem length_reduceOption_le_dropLast (visits : List (Option δ)) :
    visits.reduceOption.length ≤ visits.dropLast.reduceOption.length + 1 := by
  cases h : visits.getLast? with
  | none => simp [List.getLast?_eq_none_iff.mp h]
  | some last =>
    obtain ⟨front, rfl⟩ := List.getLast?_eq_some_iff.mp h
    rw [List.dropLast_concat, List.reduceOption_append, List.length_append]
    cases last <;> simp [List.reduceOption_cons_of_none, List.reduceOption_cons_of_some]

theorem length_dropLast_reduceOption_le (visits : List (Option δ)) :
    visits.dropLast.reduceOption.length ≤ visits.reduceOption.length :=
  ((List.dropLast_sublist visits).filterMap id).length_le

theorem Misses.cut_iff {cap : Nat} (h : Misses seen real) :
    (cap ≤ seen.dropLast.reduceOption.length ↔ seen.reduceOption.take cap ≠ real.reduceOption) ↔
      if cap ≤ seen.dropLast.reduceOption.length then cap < real.reduceOption.length
      else seen = real := by
  have hsub : (seen.reduceOption.take cap).Sublist real.reduceOption :=
    (List.take_sublist _ _).trans h.sublist
  by_cases hcut : cap ≤ seen.dropLast.reduceOption.length
  · have hfull : (seen.reduceOption.take cap).length = cap := by
      rw [List.length_take]
      exact Nat.min_eq_left (Nat.le_trans hcut (length_dropLast_reduceOption_le seen))
    have hle := hsub.length_le
    rw [if_pos hcut, iff_true_left hcut, ne_eq, ← hsub.length_eq]
    omega
  · have hshort : seen.reduceOption.length ≤ cap := by
      have := length_reduceOption_le_dropLast seen
      omega
    rw [if_neg hcut, iff_false_left hcut, not_not, List.take_of_length_le hshort]
    exact h.eq_iff

end Blindness

end CappedWalk
