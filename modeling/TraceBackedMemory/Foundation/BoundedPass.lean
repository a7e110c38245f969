import Mathlib.Data.List.Infix
import Mathlib.Logic.Function.Iterate
import Mathlib.Data.List.Nodup

namespace BoundedPass

variable {α : Type} (stuck : α → Bool) (n : Nat)

def pass (l : List α) : List α := (l.take n).filter stuck ++ l.drop n

theorem pass_sublist (l : List α) : (pass stuck n l).Sublist l := by
  have h : ((l.take n).filter stuck ++ l.drop n).Sublist (l.take n ++ l.drop n) :=
    List.Sublist.append List.filter_sublist (List.Sublist.refl _)
  rwa [List.take_append_drop] at h

theorem pass_of_long {before after : List α} {x : α} (h : n ≤ before.length) :
    pass stuck n (before ++ x :: after) = pass stuck n before ++ x :: after := by
  simp only [pass, List.take_append_of_le_length h, List.drop_append_of_le_length h,
    List.append_assoc]

theorem filter_eq_pass [DecidableEq α] {l : List α} (h : l.Nodup) :
    l.filter (fun a => !(decide (a ∈ l.take n) && !stuck a)) = pass stuck n l := by
  have hdisjoint := List.disjoint_of_nodup_append ((List.take_append_drop n l).symm ▸ h)
  calc l.filter (fun a => !(decide (a ∈ l.take n) && !stuck a))
      = (l.take n ++ l.drop n).filter (fun a => !(decide (a ∈ l.take n) && !stuck a)) := by
        rw [List.take_append_drop]
    _ = (l.take n).filter stuck ++ l.drop n := by
      rw [List.filter_append]
      congr 1
      · apply List.filter_congr
        intro a ha
        simp [ha]
      · rw [List.filter_eq_self]
        intro a ha
        have hnot : a ∉ l.take n := fun htake => hdisjoint htake ha
        simp [hnot]

theorem filter_pass (l : List α) : (pass stuck n l).filter stuck = l.filter stuck := by
  calc (pass stuck n l).filter stuck
      = (l.take n).filter stuck ++ (l.drop n).filter stuck := by
        rw [pass, List.filter_append, List.filter_filter]
        simp only [Bool.and_self]
    _ = (l.take n ++ l.drop n).filter stuck := by rw [List.filter_append]
    _ = l.filter stuck := by rw [List.take_append_drop]

theorem length_pass_lt {l : List α} (hlong : n ≤ l.length) (h : (l.filter stuck).length < n) :
    (pass stuck n l).length < l.length := by
  have htake : ((l.take n).filter stuck).length ≤ (l.filter stuck).length :=
    ((List.take_sublist n l).filter stuck).length_le
  rw [pass, List.length_append, List.length_drop]
  omega

theorem iterate_of_blocked {before after : List α} {x : α} (h : n ≤ (before.filter stuck).length)
    (k : Nat) : ∃ before', (pass stuck n)^[k] (before ++ x :: after) = before' ++ x :: after := by
  induction k generalizing before with
  | zero => exact ⟨before, rfl⟩
  | succ k ih =>
    have hlong : n ≤ before.length := h.trans (List.length_filter_le _ _)
    rw [Function.iterate_succ_apply, pass_of_long stuck n hlong]
    apply ih
    rwa [filter_pass]

theorem exists_served {before after : List α} {x : α} (hx : stuck x = false)
    (hnodup : (before ++ x :: after).Nodup) (h : (before.filter stuck).length < n) :
    ∃ k, x ∉ (pass stuck n)^[k] (before ++ x :: after) := by
  induction hlen : before.length using Nat.strong_induction_on generalizing before with
  | _ m ih =>
    by_cases hlong : n ≤ before.length
    · have hpass : pass stuck n (before ++ x :: after) = pass stuck n before ++ x :: after :=
        pass_of_long stuck n hlong
      have hnodup' : (pass stuck n before ++ x :: after).Nodup := by
        rw [← hpass]
        exact hnodup.sublist (pass_sublist stuck n _)
      have hshorter := length_pass_lt stuck n hlong h
      obtain ⟨k, hk⟩ := ih _ (by omega) hnodup' (by rwa [filter_pass]) rfl
      refine ⟨k + 1, ?_⟩
      rwa [Function.iterate_succ_apply, hpass]
    · refine ⟨1, ?_⟩
      have hmem : x ∉ (before ++ x :: after).drop n := by
        have hdrop : ((before ++ x :: after).drop n).Sublist after := by
          rw [List.drop_append, List.drop_eq_nil_of_le (by omega), List.nil_append]
          obtain ⟨j, hj⟩ : ∃ j, n - before.length = j + 1 := ⟨n - before.length - 1, by omega⟩
          rw [hj, List.drop_succ_cons]
          exact List.drop_sublist j after
        intro hx'
        have hnotin : x ∉ after := (List.nodup_cons.mp (List.nodup_append.mp hnodup).2.1).1
        exact hnotin (hdrop.subset hx')
      show x ∉ pass stuck n (before ++ x :: after)
      rw [pass, List.mem_append, not_or]
      refine ⟨?_, hmem⟩
      intro hfiltered
      rw [(List.mem_filter.mp hfiltered).2] at hx
      cases hx

end BoundedPass
