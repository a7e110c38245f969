import Mathlib.Data.List.TakeWhile
import Mathlib.Data.List.Infix
import Mathlib.Order.Fin.Basic
import Mathlib.Data.List.Lex

namespace Text

instance neZeroCodePoints : @NeZero Nat Zero.ofOfNat0 0x110000 := ⟨by decide⟩

abbrev CodePoint := Fin 0x110000

abbrev Str := List CodePoint

instance lawfulBEqStr : LawfulBEq Str := inferInstance

def cp (c : Char) : CodePoint := Fin.ofNat 0x110000 c.toNat

-- The code points of UTF-8 bytes; on bytes that encode no text, what could be read.
def codePoints : List UInt8 → Str
  | [] => []
  | a :: bytes =>
    if a.toNat < 128 then Fin.ofNat 0x110000 a.toNat :: codePoints bytes
    else
      match bytes with
      | [] => []
      | b :: bytes =>
        if a.toNat < 224 then
          Fin.ofNat 0x110000 ((a.toNat - 192) * 64 + (b.toNat - 128)) :: codePoints bytes
        else
          match bytes with
          | [] => []
          | c :: bytes =>
            if a.toNat < 240 then
              Fin.ofNat 0x110000 ((a.toNat - 224) * 4096 + (b.toNat - 128) * 64 + (c.toNat - 128)) ::
                codePoints bytes
            else
              match bytes with
              | [] => []
              | d :: bytes =>
                Fin.ofNat 0x110000 ((a.toNat - 240) * 262144 + (b.toNat - 128) * 4096 +
                  (c.toNat - 128) * 64 + (d.toNat - 128)) :: codePoints bytes

def lit (s : String) : Str := codePoints s.toByteArray.data.toList

def newline : CodePoint := 10

def isSpace (c : CodePoint) : Bool :=
  c.val ∈ [9, 10, 11, 12, 13, 28, 29, 30, 31, 32, 133, 160, 5760, 8192, 8193, 8194, 8195, 8196,
    8197, 8198, 8199, 8200, 8201, 8202, 8232, 8233, 8239, 8287, 12288]

def isLineBoundary (c : CodePoint) : Bool :=
  c.val ∈ [10, 11, 12, 13, 28, 29, 30, 133, 8232, 8233]

def isLowerHex (c : CodePoint) : Bool :=
  decide ((48 ≤ c.val ∧ c.val ≤ 57) ∨ (97 ≤ c.val ∧ c.val ≤ 102))

structure Uuid where
  text : Str
  length_text : text.length = 32
  hex_text : text.all isLowerHex = true
  deriving DecidableEq

def lstrip (s : Str) : Str := s.dropWhile isSpace

def rstrip (s : Str) : Str := (s.reverse.dropWhile isSpace).reverse

def strip (s : Str) : Str := rstrip (lstrip s)

def isBlank (s : Str) : Bool := (strip s).isEmpty

def lineStep (c : CodePoint) (afterReturn : Bool) (acc : Str) : List Str × Bool × Str :=
  if c = 10 ∧ afterReturn = true then ([], false, [])
  else if isLineBoundary c then ([acc.reverse], decide (c = 13), [])
  else ([], false, c :: acc)

def splitlinesFrom (afterReturn : Bool) (acc : Str) : Str → List Str
  | [] => if acc.isEmpty then [] else [acc.reverse]
  | c :: s =>
    (lineStep c afterReturn acc).1 ++
      splitlinesFrom (lineStep c afterReturn acc).2.1 (lineStep c afterReturn acc).2.2 s

def splitlines (s : Str) : List Str := splitlinesFrom false [] s

def splitNewline (s : Str) : List Str := s.splitOn newline

def joinNewline (ls : List Str) : Str := [newline].intercalate ls

def joinWith (sep : Str) (ls : List Str) : Str := sep.intercalate ls

theorem bytes_eq_flatMap (s : String) :
    s.toByteArray.data.toList = s.toList.flatMap String.utf8EncodeChar := by
  rw [← String.utf8Encode_toList, List.utf8Encode]
  simp

theorem codePoints_encoded (c : Char) (bytes : List UInt8) :
    codePoints (String.utf8EncodeChar c ++ bytes) = cp c :: codePoints bytes := by
  have hvalid : c.val.toNat < 0x110000 := by
    rcases c.valid with h | h <;> omega
  fun_cases String.utf8EncodeChar c with
  | case1 v _ | case2 v _ _ | case3 v _ _ _ | case4 v _ _ _ =>
    have hcp : ∀ n, n = v → (Fin.ofNat 0x110000 n : CodePoint) = cp c := by
      rintro _ rfl
      rfl
    rw [codePoints.eq_def]
    simp (disch := omega) only [List.cons_append, List.nil_append, UInt8.toNat_ofNat', Nat.reducePow,
      Nat.mod_eq_of_lt, if_pos, if_neg]
    rw [hcp _ (by omega)]

theorem codePoints_flatMap (l : List Char) : codePoints (l.flatMap String.utf8EncodeChar) = l.map cp := by
  induction l with
  | nil => rfl
  | cons c l ih => rw [List.flatMap_cons, codePoints_encoded, ih, List.map_cons]

theorem lit_eq_map (s : String) : lit s = s.toList.map cp := by
  rw [lit, bytes_eq_flatMap, codePoints_flatMap]

theorem rstrip_eq_nil {s : Str} : rstrip s = [] ↔ ∀ c ∈ s, isSpace c = true := by
  simp [rstrip, List.dropWhile_eq_nil_iff]

theorem isBlank_iff {s : Str} : isBlank s = true ↔ ∀ c ∈ s, isSpace c = true := by
  rw [isBlank, List.isEmpty_iff, strip, rstrip_eq_nil]
  constructor
  · intro h c hc
    rw [← List.takeWhile_append_dropWhile (p := isSpace) (l := s), List.mem_append] at hc
    rcases hc with hc | hc
    · exact List.mem_takeWhile_imp hc
    · exact h c hc
  · intro h c hc
    exact h c (List.dropWhile_sublist isSpace |>.subset hc)

structure Tight (s : Str) : Prop where
  head : ∃ c, s.head? = some c ∧ isSpace c = false
  last : ∃ c, s.getLast? = some c ∧ isSpace c = false

theorem dropWhile_isSpace_append {p s : Str} (hp : ∀ c ∈ p, isSpace c = true) {c : CodePoint}
    (hs : s.head? = some c) (hc : isSpace c = false) : (p ++ s).dropWhile isSpace = s := by
  rw [List.dropWhile_append_of_pos hp]
  cases s with
  | nil => cases hs
  | cons d s =>
    cases hs
    exact List.dropWhile_cons_of_neg (by simp [hc])

theorem strip_append {p s q : Str} (hp : ∀ c ∈ p, isSpace c = true)
    (hq : ∀ c ∈ q, isSpace c = true) (h : Tight s) : strip (p ++ (s ++ q)) = s := by
  obtain ⟨⟨c, hhead, hc⟩, d, hlast, hd⟩ := h
  have hcons : (s ++ q).head? = some c := by
    cases s with
    | nil => cases hhead
    | cons e s => exact hhead
  have hl : lstrip (p ++ (s ++ q)) = s ++ q := dropWhile_isSpace_append hp hcons hc
  have hr : (q.reverse ++ s.reverse).dropWhile isSpace = s.reverse := by
    refine dropWhile_isSpace_append (fun e he => hq e (List.mem_reverse.mp he)) ?_ hd
    rw [List.head?_reverse]
    exact hlast
  rw [strip, hl, rstrip, List.reverse_append, hr, List.reverse_reverse]

theorem mem_replicate_space {n : Nat} {c : CodePoint} (h : c ∈ List.replicate n (32 : CodePoint)) :
    isSpace c = true := by
  rw [List.eq_of_mem_replicate h]
  decide

theorem strip_pad (n : Nat) {s : Str} (h : Tight s) : strip (List.replicate n 32 ++ s) = s := by
  have hs := strip_append (fun c hc => mem_replicate_space (n := n) hc) (q := []) (by simp) h
  rwa [List.append_nil] at hs

theorem strip_tight {s : Str} (h : Tight s) : strip s = s := strip_pad 0 h

theorem Tight.ne_nil {s : Str} (h : Tight s) : s ≠ [] := by
  rintro rfl
  obtain ⟨_, h, _⟩ := h.head
  cases h

theorem Tight.append {s m t : Str} (hs : Tight s) (ht : Tight t) : Tight (s ++ m ++ t) := by
  obtain ⟨c, hc, hcs⟩ := hs.head
  obtain ⟨d, hd, hds⟩ := ht.last
  refine ⟨⟨c, ?_, hcs⟩, ⟨d, ?_, hds⟩⟩
  · cases s with
    | nil => cases hc
    | cons e s => exact hc
  · rw [List.getLast?_append, hd]
    rfl

theorem splitlinesFrom_append_newline (s t : Str) (r : Bool) (acc : Str) :
    splitlinesFrom r acc (s ++ newline :: t) =
      splitlinesFrom r acc (s ++ [newline]) ++ splitlines t := by
  induction s generalizing r acc with
  | nil =>
    by_cases h : r = true
    · simp [splitlinesFrom, lineStep, newline, h, splitlines]
    · simp [splitlinesFrom, lineStep, newline, h, splitlines, isLineBoundary]
  | cons c s ih =>
    simp only [List.cons_append, splitlinesFrom]
    rw [ih, List.append_assoc]

theorem splitlinesFrom_of_free (s : Str) (acc : Str)
    (h : ∀ c ∈ s, isLineBoundary c = false) :
    splitlinesFrom false acc (s ++ [newline]) = [acc.reverse ++ s] := by
  induction s generalizing acc with
  | nil => simp [splitlinesFrom, lineStep, newline, isLineBoundary]
  | cons c s ih =>
    have hc : isLineBoundary c = false := h c (by simp)
    have ht := ih (c :: acc) (fun d hd => h d (by simp [hd]))
    simp only [List.cons_append, splitlinesFrom, lineStep, hc]
    simpa using ht

theorem splitlines_line (s t : Str) (h : ∀ c ∈ s, isLineBoundary c = false) :
    splitlines (s ++ newline :: t) = s :: splitlines t := by
  rw [splitlines, splitlinesFrom_append_newline, splitlinesFrom_of_free s [] h]
  simp

theorem splitlinesFrom_free (s : Str) (r : Bool) (acc : Str)
    (ha : ∀ c ∈ acc, isLineBoundary c = false) :
    ∀ l ∈ splitlinesFrom r acc s, ∀ c ∈ l, isLineBoundary c = false := by
  induction s generalizing r acc with
  | nil =>
    intro l hl c hc
    simp only [splitlinesFrom] at hl
    split at hl
    · simp at hl
    · simp only [List.mem_singleton] at hl
      exact ha c (by simpa [hl] using hc)
  | cons d s ih =>
    intro l hl c hc
    simp only [splitlinesFrom, List.mem_append] at hl
    unfold lineStep at hl
    split at hl
    · rcases hl with hl | hl
      · simp at hl
      · exact ih _ [] (by simp) l hl c hc
    · split at hl
      · rcases hl with hl | hl
        · simp only [List.mem_singleton] at hl
          exact ha c (by simpa [hl] using hc)
        · exact ih _ [] (by simp) l hl c hc
      · rename_i hd
        rcases hl with hl | hl
        · simp at hl
        · refine ih _ (d :: acc) ?_ l hl c hc
          intro e he
          rcases List.mem_cons.mp he with rfl | he
          · simpa using hd
          · exact ha e he

theorem splitlines_free (s : Str) :
    ∀ l ∈ splitlines s, ∀ c ∈ l, isLineBoundary c = false :=
  splitlinesFrom_free s false [] (by simp)

theorem splitlines_append_newline (s t : Str) :
    splitlines (s ++ newline :: t) = splitlines (s ++ [newline]) ++ splitlines t :=
  splitlinesFrom_append_newline s t false []

theorem splitlines_of_free {s : Str} (h : ∀ c ∈ s, isLineBoundary c = false) :
    splitlines (s ++ [newline]) = [s] :=
  splitlines_line s [] h

theorem joinNewline_cons_cons (a b : Str) (ls : List Str) :
    joinNewline (a :: b :: ls) = a ++ newline :: joinNewline (b :: ls) := by
  simp [joinNewline, List.intercalate_cons_cons]

theorem splitlines_joinNewline (a : Str) (ls : List Str) :
    splitlines (joinNewline (a :: ls) ++ [newline]) =
      (a :: ls).flatMap (fun l => splitlines (l ++ [newline])) := by
  induction ls generalizing a with
  | nil => simp [joinNewline]
  | cons b ls ih =>
    rw [joinNewline_cons_cons, List.append_assoc, List.cons_append, splitlines_append_newline, ih]
    simp only [List.flatMap_cons]

theorem joinNewline_splitNewline (s : Str) : joinNewline (splitNewline s) = s :=
  List.intercalate_splitOn newline

end Text
