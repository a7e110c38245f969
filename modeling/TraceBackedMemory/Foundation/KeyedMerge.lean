import TraceBackedMemory.Foundation.Raising
import Mathlib.Data.List.Induction

namespace KeyedMerge

open Raising

variable {α κ ε : Type} [DecidableEq κ] {key : α → κ} {same : α → α → Bool} {conflict : α → ε}
  {l m merged : List α} {a v w : α}

section Merge

def place (key : α → κ) (merged : List α) (v : α) : List α :=
  if merged.any (fun w => decide (key w = key v)) then
    merged.map (fun w => if key w = key v then v else w)
  else merged ++ [v]

def merge (key : α → κ) (same : α → α → Bool) (conflict : α → ε) (merged : List α) (v : α) :
    Except ε (List α) := do
  raiseIf (∃ w ∈ merged, key w = key v ∧ same w v = false) (conflict v)
  return place key merged v

def Agree (key : α → κ) (same : α → α → Bool) (l : List α) : Prop :=
  ∀ v ∈ l, ∀ w ∈ l, key v = key w → same v w = true

structure Latest (key : α → κ) (l m : List α) : Prop where
  nodup : (m.map key).Nodup
  subset : m ⊆ l
  covers : ∀ v ∈ l, key v ∈ m.map key

theorem map_key_place : (place key merged v).map key =
    if key v ∈ merged.map key then merged.map key else merged.map key ++ [key v] := by
  have hany : merged.any (fun w => decide (key w = key v)) = true ↔ key v ∈ merged.map key := by
    simp
  rw [place]
  by_cases h : key v ∈ merged.map key
  · rw [if_pos (hany.mpr h), if_pos h, List.map_map]
    refine List.map_congr_left fun w _ => ?_
    simp only [Function.comp]
    split
    · rename_i hw
      exact hw.symm
    · rfl
  · rw [if_neg (mt hany.mp h), if_neg h, List.map_append]
    rfl

theorem mem_place (hw : w ∈ place key merged v) : w = v ∨ w ∈ merged ∧ key w ≠ key v := by
  rw [place] at hw
  split at hw
  · obtain ⟨u, hu, rfl⟩ := List.mem_map.mp hw
    split
    · exact .inl rfl
    · rename_i hne
      exact .inr ⟨hu, hne⟩
  · rename_i hany
    rcases List.mem_append.mp hw with hw | hw
    · refine .inr ⟨hw, fun heq => hany ?_⟩
      exact List.any_eq_true.mpr ⟨w, hw, decide_eq_true heq⟩
    · exact .inl (List.mem_singleton.mp hw)

theorem Latest.place (h : Latest key l m) (v : α) : Latest key (l ++ [v]) (place key m v) := by
  have hkeys := @map_key_place _ _ _ key m v
  constructor
  · rw [hkeys]
    split
    · exact h.nodup
    · rename_i hv
      exact List.nodup_append.mpr ⟨h.nodup, by simp, by grind⟩
  · intro w hw
    rcases mem_place hw with rfl | ⟨hw, _⟩
    · simp
    · exact List.mem_append_left _ (h.subset hw)
  · intro w hw
    rw [hkeys]
    have hmem : key w ∈ m.map key ∨ w = v := by
      rcases List.mem_append.mp hw with hw | hw
      · exact .inl (h.covers w hw)
      · exact .inr (List.mem_singleton.mp hw)
    grind

theorem merge_eq_ok : merge key same conflict merged v = .ok m ↔
    (∀ w ∈ merged, key w = key v → same w v = true) ∧ m = place key merged v := by
  rw [merge, seq_eq_ok, raiseIf_eq_ok, pure_eq_ok]
  refine and_congr ?_ eq_comm
  simp

end Merge

section Accumulate

theorem latest_of_merge (h : accumulate (merge key same conflict) [] l = .ok m) :
    Latest key l m := by
  induction l using List.reverseRecOn generalizing m with
  | nil =>
    cases h
    exact ⟨List.nodup_nil, List.Subset.refl _, by simp⟩
  | append_singleton l v ih =>
    rw [accumulate_append, bind_eq_ok] at h
    obtain ⟨merged, hmerged, h⟩ := h
    rw [accumulate, bind_eq_ok] at h
    obtain ⟨next, hnext, h⟩ := h
    cases h
    obtain ⟨_, rfl⟩ := merge_eq_ok.mp hnext
    exact (ih hmerged).place v

theorem exists_merge (h : Agree key same l) :
    ∃ m, accumulate (merge key same conflict) [] l = .ok m := by
  induction l using List.reverseRecOn with
  | nil => exact ⟨[], rfl⟩
  | append_singleton l v ih =>
    have hl : Agree key same l := fun a ha b hb =>
      h a (List.mem_append_left _ ha) b (List.mem_append_left _ hb)
    obtain ⟨merged, hmerged⟩ := ih hl
    have hlatest := latest_of_merge hmerged
    refine ⟨place key merged v, ?_⟩
    rw [accumulate_append, hmerged]
    change accumulate (merge key same conflict) merged [v] = .ok _
    refine bind_eq_ok.mpr ⟨_, merge_eq_ok.mpr ⟨fun w hw hkey => ?_, rfl⟩, rfl⟩
    exact h w (List.mem_append_left _ (hlatest.subset hw)) v (by simp) hkey

theorem agree_of_merge (hrefl : ∀ v ∈ l, same v v = true)
    (hsymm : ∀ v ∈ l, ∀ w ∈ l, same v w = true → same w v = true)
    (htrans : ∀ a b c, same a b = true → same b c = true → same a c = true)
    (h : accumulate (merge key same conflict) [] l = .ok m) : Agree key same l := by
  induction l using List.reverseRecOn generalizing m with
  | nil => simp [Agree]
  | append_singleton l v ih =>
    rw [accumulate_append, bind_eq_ok] at h
    obtain ⟨merged, hmerged, h⟩ := h
    rw [accumulate, bind_eq_ok] at h
    obtain ⟨next, hnext, _⟩ := h
    obtain ⟨hfits, _⟩ := merge_eq_ok.mp hnext
    have hlatest := latest_of_merge hmerged
    have hl := ih (fun a ha => hrefl a (List.mem_append_left _ ha))
      (fun a ha b hb => hsymm a (List.mem_append_left _ ha) b (List.mem_append_left _ hb)) hmerged
    -- the entry kept for the key stands between the new value and every earlier one
    have hnew : ∀ a ∈ l, key a = key v → same a v = true := by
      intro a ha hkey
      obtain ⟨w, hw, hwkey⟩ := List.mem_map.mp (hlatest.covers a ha)
      exact htrans a w v (hl a ha w (hlatest.subset hw) hwkey.symm) (hfits w hw (hwkey.trans hkey))
    intro a ha b hb hkey
    rcases List.mem_append.mp ha with ha' | ha' <;> rcases List.mem_append.mp hb with hb' | hb'
    · exact hl a ha' b hb' hkey
    · cases List.mem_singleton.mp hb'
      exact hnew a ha' hkey
    · cases List.mem_singleton.mp ha'
      exact hsymm b hb _ ha (hnew b hb' hkey.symm)
    · cases List.mem_singleton.mp ha'
      cases List.mem_singleton.mp hb'
      exact hrefl _ ha

end Accumulate

end KeyedMerge
