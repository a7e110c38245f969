import TraceBackedMemory.Migration.Documents
import TraceBackedMemory.Projection.Reducer

namespace TraceBackedMemory

open Text Raising OrderBy Json

namespace Migration

section Encodable

theorem lit_ofList (l : List Char) : lit (String.ofList l) = l.map cp := by
  rw [lit_eq_map, String.toList_ofList]

theorem utf8_iff {s : Str} : utf8 s = true ↔ ∀ c ∈ s, isSurrogate c = false := Projection.encodedBytes_isSome

theorem utf8_append {s t : Str} : utf8 (s ++ t) = true ↔ utf8 s = true ∧ utf8 t = true := by
  rw [utf8_iff, utf8_iff, utf8_iff, List.forall_mem_append]

def Ascii (s : Str) : Prop := ∀ c ∈ s, c.val < 128

theorem Ascii.utf8 {s : Str} (h : Ascii s) : utf8 s = true := by
  refine utf8_iff.mpr fun c hc => ?_
  have hbound := h c hc
  rw [isSurrogate, decide_eq_false_iff_not]
  omega

theorem ascii_of_asciiDigit {c : CodePoint} (h : (asciiDigit? c).isSome = true) : c.val < 128 := by
  unfold asciiDigit? at h
  split at h
  · omega
  · cases h

theorem foldl_none (s : Str) :
    s.foldl (fun acc c => match acc, asciiDigit? c with
      | some n, some d => some (n * 10 + d)
      | _, _ => none) none = none := by
  induction s with
  | nil => rfl
  | cons c s ih => exact ih

theorem ascii_of_fold {s : Str} {acc n : Nat}
    (h : s.foldl (fun acc c => match acc, asciiDigit? c with
      | some n, some d => some (n * 10 + d)
      | _, _ => none) (some acc) = some n) : Ascii s := by
  induction s generalizing acc with
  | nil => exact List.forall_mem_nil _
  | cons c s ih =>
    rw [List.foldl_cons] at h
    cases hd : asciiDigit? c with
    | none =>
      rw [hd, foldl_none] at h
      cases h
    | some d =>
      rw [hd] at h
      exact List.forall_mem_cons.mpr ⟨ascii_of_asciiDigit (by rw [hd]; rfl), ih h⟩

theorem ascii_of_asciiNumber {s : Str} {n : Nat} (h : asciiNumber? s = some n) : Ascii s := by
  cases s with
  | nil => exact List.forall_mem_nil _
  | cons c s => exact ascii_of_fold h

theorem ascii_cons {c : CodePoint} {s : Str} : Ascii (c :: s) ↔ c.val < 128 ∧ Ascii s := List.forall_mem_cons

theorem ascii_of_zone {s : Str} (h : validZone s = true) : Ascii s := by
  unfold validZone at h
  split at h
  · obtain rfl := of_decide_eq_true h
    exact ascii_cons.mpr ⟨by decide, List.forall_mem_nil _⟩
  · simp only [Bool.and_eq_true, decide_eq_true_eq] at h
    obtain ⟨⟨hsign, rfl⟩, h⟩ := h
    split at h
    · rename_i hours minutes
      have hh := ascii_of_asciiNumber hours
      have hm := ascii_of_asciiNumber minutes
      simp only [ascii_cons] at hh hm ⊢
      refine ⟨?_, hh.1, hh.2.1, by decide, hm.1, hm.2⟩
      rcases hsign with rfl | rfl <;> decide
    · cases h
  · cases h

theorem ascii_of_fraction {s : Str} (h : validFractionAndZone s = true) : Ascii s := by
  unfold validFractionAndZone at h
  split at h
  · cases h
  · rename_i c rest
    split at h
    · rename_i hdot
      rw [Bool.and_eq_true] at h
      have hzone := ascii_of_zone h.2
      refine ascii_cons.mpr ⟨by rw [hdot]; decide, ?_⟩
      rw [← List.takeWhile_append_dropWhile (p := fun d => (asciiDigit? d).isSome) (l := rest)]
      refine List.forall_mem_append.mpr ⟨fun d hd => ?_, hzone⟩
      have hdigit : (asciiDigit? d).isSome = true := List.mem_takeWhile_imp (p := fun d => (asciiDigit? d).isSome) hd
      exact ascii_of_asciiDigit hdigit
    · exact ascii_of_zone h

theorem ascii_of_rfc3339 {s : Str} (h : isRfc3339 s = true) : Ascii s := by
  unfold isRfc3339 at h
  split at h
  · simp only [Bool.and_eq_true, decide_eq_true_eq] at h
    obtain ⟨⟨⟨⟨rfl, rfl, rfl, rfl, rfl⟩, hdate⟩, htime⟩, hrest⟩ := h
    split at hdate
    · rename_i year month day
      split at htime
      · rename_i hour minute second
        have hy := ascii_of_asciiNumber year
        have hm := ascii_of_asciiNumber month
        have hd := ascii_of_asciiNumber day
        have hh := ascii_of_asciiNumber hour
        have hn := ascii_of_asciiNumber minute
        have hs := ascii_of_asciiNumber second
        simp only [ascii_cons] at hy hm hd hh hn hs ⊢
        refine ⟨hy.1, hy.2.1, hy.2.2.1, hy.2.2.2.1, by decide, hm.1, hm.2.1, by decide, hd.1, hd.2.1, by decide, hh.1,
          hh.2.1, by decide, hn.1, hn.2.1, by decide, hs.1, hs.2.1, ascii_of_fraction hrest⟩
      · cases htime
    · cases hdate
  · cases h

theorem ascii_of_instant {s : Str} (h : instant? s ≠ none) : Ascii s := by
  unfold instant? at h
  split at h
  · rename_i hform
    exact ascii_of_rfc3339 hform
  · exact absurd rfl h

theorem ascii_of_digest {s : Str} (h : validDigest s = true) : Ascii s := by
  simp only [validDigest, Bool.and_eq_true, decide_eq_true_eq, List.isPrefixOf_iff_prefix] at h
  obtain ⟨⟨-, rest, rfl⟩, hhex⟩ := h
  have hlength : (lit "sha256:").length = 7 := by decide
  rw [List.drop_left' hlength] at hhex
  refine List.forall_mem_append.mpr ⟨?_, fun c hc => ?_⟩
  · have hprefix : (lit "sha256:").all (fun c => decide (c.val < 128)) = true := by decide
    exact fun c hc => of_decide_eq_true (List.all_eq_true.mp hprefix c hc)
  · have hdigit := List.all_eq_true.mp hhex c hc
    simp only [isLowerHex, decide_eq_true_eq] at hdigit
    omega

end Encodable

end Migration

end TraceBackedMemory
