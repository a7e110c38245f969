import TraceBackedMemory.Foundation.JsonSize

namespace Text

def character (c : CodePoint) : Char := Char.ofNat c.val

-- a text with a surrogate has no encoding
def encodeUtf8 (s : Str) : Option (List UInt8) :=
  if s.any isSurrogate then none else some (s.flatMap fun c => String.utf8EncodeChar (character c))

section Characters

variable {c : CodePoint}

theorem val_character (h : isSurrogate c = false) : (character c).toNat = c.val := by
  have hvalid : c.val.isValidChar := by
    have hrange := of_decide_eq_false h
    have hbound := c.isLt
    rw [Nat.isValidChar]
    omega
  rw [character, Char.ofNat, dif_pos hvalid]
  rfl

theorem cp_character (h : isSurrogate c = false) : cp (character c) = c := by
  rw [cp, val_character h]
  exact Fin.ofNat_val_eq_self c

end Characters

section Texts

variable {s : Str} {content : List UInt8}

theorem encodeUtf8_eq_some : encodeUtf8 s = some content ↔
    (∀ c ∈ s, isSurrogate c = false) ∧ s.flatMap (fun c => String.utf8EncodeChar (character c)) = content := by
  have hnone : s.any isSurrogate = true ↔ ¬∀ c ∈ s, isSurrogate c = false := by
    simp
  unfold encodeUtf8
  split
  · rename_i h
    exact iff_of_false (Option.some_ne_none _).symm (fun hall => hnone.mp h hall.1)
  · rename_i h
    rw [Option.some.injEq]
    exact (and_iff_right (not_not.mp (mt hnone.mpr h))).symm

theorem fromUTF8_encodeUtf8 (h : encodeUtf8 s = some content) :
    (String.fromUTF8? ⟨content.toArray⟩).map lit = some s := by
  obtain ⟨hclean, rfl⟩ := encodeUtf8_eq_some.mp h
  have hbytes : (⟨(s.flatMap fun c => String.utf8EncodeChar (character c)).toArray⟩ : ByteArray) =
      (String.ofList (s.map character)).toByteArray := by
    refine ByteArray.ext (Array.toList_inj.mp ?_)
    rw [String.toByteArray_ofList, List.utf8Encode, List.toList_data_toByteArray, List.flatMap_map]
  have hback : lit (String.ofList (s.map character)) = s := by
    rw [lit_eq_map, String.toList_ofList, List.map_map]
    exact (List.map_congr_left fun c hc => cp_character (hclean c hc)).trans (List.map_id s)
  rw [hbytes, String.fromUTF8?, dif_pos (String.isValidUTF8 _)]
  exact congrArg some hback

end Texts

end Text
