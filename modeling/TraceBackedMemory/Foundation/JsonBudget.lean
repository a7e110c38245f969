import TraceBackedMemory.Foundation.JsonLimits
import TraceBackedMemory.Foundation.JsonSize

namespace Json

open Text OrderBy

variable {floatText : Double → Str}

section Texts

variable {n : Nat} {s : Str}

def Brief (n : Nat) (s : Str) : Prop := s.length ≤ n ∧ encodes s = true

theorem encodedBytes_le (h : encodes s = true) (hlength : s.length ≤ n) :
    ∃ bytes, encodedBytes s = some bytes ∧ bytes ≤ n * 4 := by
  obtain ⟨bytes, hbytes⟩ := Option.isSome_iff_exists.mp h
  have hopen := hbytes
  rw [encodedBytes] at hopen
  split at hopen
  · cases hopen
  · obtain rfl := Option.some.inj hopen
    exact ⟨_, hbytes, (sum_utf8Length_le s).trans (Nat.mul_le_mul_right 4 hlength)⟩

end Texts

section Values

-- a value of bounded depth with at most so many characters and nodes
structure Carried (floatText : Double → Str) (depth chars nodes : Nat) (v : Json) : Prop where
  portable : Portable depth v
  slim : Slim floatText chars v
  nodes : size v ≤ nodes

variable {depth chars nodes n : Nat} {v : Json}

theorem Carried.mono {m : Nat} (h : Carried floatText depth m nodes v) (hle : m ≤ chars) :
    Carried floatText depth chars nodes v := ⟨h.portable, h.slim.mono hle, h.nodes⟩

theorem carried_str {s : Str} (h : Brief n s) : Carried floatText depth (n * 6 + 2) 1 (.str s) :=
  ⟨portable_str h.2, slim_str h.1, le_refl 1⟩

theorem carried_null : Carried floatText depth (n * 6 + 4) 1 .null :=
  ⟨portable_null, slim_null.mono (Nat.le_add_left 4 _), le_refl 1⟩

theorem carried_int {i : Int} (h : (decimal i.natAbs).length ≤ intMaxStrDigits) :
    Carried floatText depth (intMaxStrDigits + 1) 1 (.num (.int i)) := by
  refine ⟨portable_num (decide_eq_true h) rfl, ?_, le_refl 1⟩
  have hsign : (lit "-").length = 1 := rfl
  rw [Slim, canonicalText, decimalInt]
  split
  · rw [List.length_append, hsign]
    omega
  · omega

theorem carried_strings {l : List Str} {m : Nat} (hlength : l.length ≤ m) (h : ∀ s ∈ l, Brief n s) :
    Carried floatText (depth + 1) (m * (n * 6 + 3) + 2) (m + 1) (.arr (l.map .str)) := by
  have hslim : Slim floatText ((l.map Json.str).length * (n * 6 + 2 + 1) + 2) (.arr (l.map .str)) := by
    refine slim_arr fun v hv => ?_
    obtain ⟨s, hs, rfl⟩ := List.mem_map.mp hv
    exact slim_str (h s hs).1
  refine ⟨portable_strings fun s hs => (h s hs).2, hslim.mono ?_, ?_⟩
  · rw [List.length_map]
    exact Nat.add_le_add_right (Nat.mul_le_mul_right _ hlength) 2
  · have hone : (l.map Json.str).map size = l.map fun _ => 1 := by
      rw [List.map_map]
      rfl
    rw [size, sizeItems_eq, hone, List.map_const', List.sum_replicate_nat]
    omega

end Values

section Records

variable {depth k : Nat} {fields : List (Str × Json)} {budgets : List (Nat × Nat)}

def FieldCarried (floatText : Double → Str) (depth : Nat) (f : Str × Json) (budget : Nat × Nat) : Prop :=
  Carried floatText depth budget.1 budget.2 f.2

theorem mem_fieldCarried (h : List.Forall₂ (FieldCarried floatText depth) fields budgets) {f : Str × Json}
    (hf : f ∈ fields) : ∃ b, FieldCarried floatText depth f b := by
  induction h with
  | nil => exact absurd hf List.not_mem_nil
  | cons hone _ ih =>
    rcases List.mem_cons.mp hf with rfl | hf
    · exact ⟨_, hone⟩
    · exact ih hf

theorem slim_fields (hnames : ∀ f ∈ fields, f.1.length ≤ k)
    (h : List.Forall₂ (FieldCarried floatText depth) fields budgets) :
    Slim floatText ((budgets.map fun b => b.1 + (k * 6 + 6)).sum + 2) (.obj fields) := by
  induction h with
  | nil =>
    rw [Slim, canonicalText]
    exact le_refl 2
  | @cons f b fields budgets hf _ ih =>
    obtain ⟨hname, hnames⟩ := List.forall_mem_cons.mp hnames
    have hone : Slim floatText (1 * (k * 6 + b.1 + 4) + 2) (.obj [f]) :=
      slim_obj (List.forall_mem_singleton.mpr hname) (List.forall_mem_singleton.mpr hf.slim)
    refine (slim_append hone (ih hnames)).mono ?_
    rw [List.map_cons, List.sum_cons]
    omega

theorem size_fields_le (h : List.Forall₂ (FieldCarried floatText depth) fields budgets) :
    size (.obj fields) ≤ 1 + (budgets.map Prod.snd).sum := by
  rw [size, sizeFields_eq]
  refine Nat.add_le_add_left ?_ 1
  induction h with
  | nil => exact Nat.le_refl _
  | cons hf _ ih =>
    rw [List.map_cons, List.sum_cons, List.map_cons, List.sum_cons]
    exact Nat.add_le_add hf.nodes ih

theorem carried_obj (hkeys : (fields.map Prod.fst).Nodup) (hnames : ∀ f ∈ fields, Brief k f.1)
    (h : List.Forall₂ (FieldCarried floatText depth) fields budgets) :
    Carried floatText (depth + 1) ((budgets.map fun b => b.1 + (k * 6 + 6)).sum + 2)
      (1 + (budgets.map Prod.snd).sum) (.obj fields) := by
  refine ⟨portable_obj hkeys fun f hf => ?_, slim_fields (fun f hf => (hnames f hf).1) h, size_fields_le h⟩
  obtain ⟨b, hb⟩ := mem_fieldCarried h hf
  exact ⟨(hnames f hf).2, hb.portable⟩

end Records

end Json
