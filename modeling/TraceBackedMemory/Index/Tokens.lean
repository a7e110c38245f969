import TraceBackedMemory.Index.Contracts
import TraceBackedMemory.Foundation.OrderBy
import TraceBackedMemory.Foundation.JsonSize
import Mathlib.Data.List.Dedup
import Mathlib.Algebra.BigOperators.Group.List.Basic

namespace TraceBackedMemory

open Text Raising OrderBy

namespace Index

-- Case folding works character by character, and what it gives is not folded further.
structure Unicode where
  fold : CodePoint → Str
  isAlphanumeric : CodePoint → Bool
  fold_fold : ∀ c, ∀ d ∈ fold c, fold d = [d]
  fold_surrogate : ∀ c, isSurrogate c = false → ∀ d ∈ fold c, isSurrogate d = false
  fold_ascii : ∀ c : CodePoint, c.val < 128 → fold c = [if 65 ≤ c.val ∧ c.val ≤ 90 then c + 32 else c]
  ascii_alphanumeric : ∀ c : CodePoint, c.val < 128 → isAlphanumeric c =
    decide ((48 ≤ c.val ∧ c.val ≤ 57) ∨ (65 ≤ c.val ∧ c.val ≤ 90) ∨ (97 ≤ c.val ∧ c.val ≤ 122))

section Tokenizing

variable (u : Unicode)

def casefold (value : Str) : Str := value.flatMap u.fold

-- the matches of [^\W_]+
def words (value : Str) : List Str := (value.splitOnP (fun c => !u.isAlphanumeric c)).filter (fun w => decide (w ≠ []))

def bigrams (token : Str) : List Str := (List.range (token.length - 1)).map (fun index => (token.drop index).take 2)

def wordTokens (token : Str) : List Str :=
  (if 2 ≤ token.length then [token] else []) ++
    if token.any (fun character => decide (127 < character.val)) then bigrams token else []

def sortedSet (values : List Str) : List Str := orderBy id values.dedup

def tokenize (value : Str) : List Str := sortedSet ((words u (casefold u value)).flatMap wordTokens)

def singleToken (value : Str) : Except IndexError Str := do
  boundedText value "query_token" metadataMaxChars
  raiseIf (casefold u value ∉ tokenize u value) (invalid (lit "query_token must be one canonical retrieval token"))
  return casefold u value

def tokens (values : List Str) : Except IndexError Unit := do
  raiseIf (maxTokensPerCandidate < values.length ∨ values ≠ sortedSet values)
    (invalid (lit "lexical_tokens must be a unique sorted bounded tuple"))
  checkEach (fun value => do
    let token ← singleToken u value
    raiseIf (token ≠ value) (invalid (lit "lexical_tokens must contain canonical tokens"))) values

-- the lexical part of one round of the builder's loop, and of the candidate that the round makes
def candidateTokens (s : ManagedIndexSource) : Except IndexError (List Str) := do
  let lexicalTokens := s.indexText.elim [] (tokenize u)
  raiseIf (maxTokensPerCandidate < lexicalTokens.length)
    (invalid (lit "managed index source contains too many lexical tokens"))
  tokens u lexicalTokens
  raiseIf (s.sensitive = true ∧ lexicalTokens ≠ [])
    (invalid (lit "sensitive candidates cannot contain lexical or semantic index data"))
  return lexicalTokens

def buildTokens (sources : List ManagedIndexSource) : Except IndexError (List (List Str)) :=
  collect (candidateTokens u) sources

end Tokenizing

section Canonical

variable {u : Unicode} {value token word : Str}

theorem mem_splitOnP {p : CodePoint → Bool} (h : word ∈ value.splitOnP p) : ∀ c ∈ word, p c = false ∧ c ∈ value := by
  induction value generalizing word with
  | nil =>
    rw [List.splitOnP_nil, List.mem_singleton] at h
    rw [h]
    exact fun c hc => absurd hc List.not_mem_nil
  | cons x value ih =>
    rw [List.splitOnP_cons_eq_if_modifyHead] at h
    by_cases hx : p x = true
    · rw [if_pos hx] at h
      rcases List.mem_cons.mp h with rfl | h
      · exact fun c hc => absurd hc List.not_mem_nil
      · exact fun c hc => ⟨(ih h c hc).1, List.mem_cons_of_mem x (ih h c hc).2⟩
    · obtain ⟨first, later, hsplit⟩ := List.exists_cons_of_ne_nil (List.splitOnP_ne_nil p value)
      rw [if_neg hx, hsplit, List.modifyHead_cons] at h
      rcases List.mem_cons.mp h with rfl | h
      · intro c hc
        rcases List.mem_cons.mp hc with rfl | hc
        · exact ⟨Bool.eq_false_iff.mpr hx, List.mem_cons_self⟩
        · have hfirst := ih (hsplit ▸ List.mem_cons_self) c hc
          exact ⟨hfirst.1, List.mem_cons_of_mem x hfirst.2⟩
      · have hlater := ih (hsplit ▸ List.mem_cons_of_mem first h)
        exact fun c hc => ⟨(hlater c hc).1, List.mem_cons_of_mem x (hlater c hc).2⟩

theorem mem_words (h : word ∈ words u value) : ∀ c ∈ word, u.isAlphanumeric c = true ∧ c ∈ value := by
  intro c hc
  obtain ⟨hword, hmem⟩ := mem_splitOnP (List.mem_filter.mp h).1 c hc
  exact ⟨by simpa using hword, hmem⟩

-- a text that the tokenizer keeps whole
structure Canonical (u : Unicode) (token : Str) : Prop where
  alphanumeric : ∀ c ∈ token, u.isAlphanumeric c = true
  folded : ∀ c ∈ token, u.fold c = [c]
  clean : ∀ c ∈ token, isSurrogate c = false
  long : 2 ≤ token.length

theorem mem_casefold {c : CodePoint} (hclean : ∀ d ∈ value, isSurrogate d = false) (hc : c ∈ casefold u value) :
    u.fold c = [c] ∧ isSurrogate c = false := by
  obtain ⟨d, hd, hmem⟩ := List.mem_flatMap.mp hc
  exact ⟨u.fold_fold d c hmem, u.fold_surrogate d (hclean d hd) c hmem⟩

theorem mem_wordTokens : token ∈ wordTokens word ↔ 2 ≤ word.length ∧ token = word ∨
    word.any (fun character => decide (127 < character.val)) = true ∧ token ∈ bigrams word := by
  rw [wordTokens, List.mem_append]
  by_cases hlong : 2 ≤ word.length <;>
    by_cases hwide : word.any (fun character => decide (127 < character.val)) = true <;>
      simp [hlong, hwide]

theorem mem_bigrams (h : token ∈ bigrams word) : token.length = 2 ∧ ∀ c ∈ token, c ∈ word := by
  obtain ⟨index, hindex, rfl⟩ := List.mem_map.mp h
  rw [List.mem_range] at hindex
  refine ⟨?_, fun c hc => List.mem_of_mem_drop (List.mem_of_mem_take hc)⟩
  rw [List.length_take, List.length_drop]
  omega

theorem mem_tokenize : token ∈ tokenize u value ↔ ∃ word ∈ words u (casefold u value), token ∈ wordTokens word := by
  rw [tokenize, sortedSet, mem_orderBy, List.mem_dedup, List.mem_flatMap]

theorem canonical_of_mem (hclean : ∀ c ∈ value, isSurrogate c = false) (h : token ∈ tokenize u value) :
    Canonical u token := by
  obtain ⟨word, hword, htoken⟩ := mem_tokenize.mp h
  have hinside : 2 ≤ token.length ∧ ∀ c ∈ token, c ∈ word := by
    rcases mem_wordTokens.mp htoken with ⟨hlong, rfl⟩ | ⟨-, hbigram⟩
    · exact ⟨hlong, fun c hc => hc⟩
    · obtain ⟨hlength, hmem⟩ := mem_bigrams hbigram
      exact ⟨hlength.ge, hmem⟩
  have hfolded (c : CodePoint) (hc : c ∈ token) := mem_casefold hclean (mem_words hword c (hinside.2 c hc)).2
  exact ⟨fun c hc => (mem_words hword c (hinside.2 c hc)).1, fun c hc => (hfolded c hc).1, fun c hc => (hfolded c hc).2,
    hinside.1⟩

theorem Canonical.casefold (h : Canonical u token) : casefold u token = token := by
  have hfolded := h.folded
  rw [Index.casefold]
  clear h
  induction token with
  | nil => rfl
  | cons c token ih =>
    rw [List.flatMap_cons, hfolded c List.mem_cons_self, ih fun d hd => hfolded d (List.mem_cons_of_mem c hd)]
    rfl

theorem Canonical.words (h : Canonical u token) : words u (Index.casefold u token) = [token] := by
  have hsplit : token.splitOnP (fun c => !u.isAlphanumeric c) = [token] :=
    List.splitOnP_eq_singleton fun c hc => by simp [h.alphanumeric c hc]
  have hne : token ≠ [] := List.ne_nil_of_length_pos (Nat.lt_of_lt_of_le Nat.zero_lt_two h.long)
  rw [h.casefold, Index.words, hsplit]
  exact List.filter_cons_of_pos (decide_eq_true hne)

theorem Canonical.mem_tokenize (h : Canonical u token) : token ∈ tokenize u token := by
  refine Index.mem_tokenize.mpr ⟨token, ?_, mem_wordTokens.mpr (.inl ⟨h.long, rfl⟩)⟩
  rw [h.words]
  exact List.mem_singleton_self token

def utf8Bytes (value : Str) : Nat := (value.map utf8Length).sum

theorem encodedBytes_of_clean (h : ∀ c ∈ value, isSurrogate c = false) : encodedBytes value = some (utf8Bytes value) := by
  have hnone : value.any isSurrogate = false := List.any_eq_false.mpr fun c hc => by simp [h c hc]
  rw [encodedBytes, hnone]
  rfl

theorem clean_of_encodedBytes {n : Nat} (h : encodedBytes value = some n) : ∀ c ∈ value, isSurrogate c = false := by
  rw [encodedBytes] at h
  split at h
  · exact absurd h.symm (Option.some_ne_none n)
  · rename_i hnone
    intro c hc
    exact Bool.eq_false_iff.mpr fun hsurrogate => hnone (List.any_eq_true.mpr ⟨c, hc, hsurrogate⟩)

theorem length_le_utf8Bytes (value : Str) : value.length ≤ utf8Bytes value := by
  induction value with
  | nil => exact Nat.le_refl _
  | cons c value ih =>
    have hpositive : 1 ≤ utf8Length c := by
      unfold utf8Length
      split_ifs <;> decide
    rw [utf8Bytes, List.map_cons, List.sum_cons, List.length_cons]
    rw [utf8Bytes] at ih
    omega

theorem Canonical.singleToken_eq_ok (h : Canonical u token) :
    (singleToken u token >>= fun normalized => raiseIf (normalized ≠ token)
      (invalid (lit "lexical_tokens must contain canonical tokens"))) = .ok () ↔ utf8Bytes token ≤ metadataMaxChars := by
  have hpositive := length_le_utf8Bytes token
  have hlong := h.long
  rw [singleToken, h.casefold]
  simp only [boundedText, encodedBytes_of_clean h.clean, bind_eq_ok, exists_unit, demand_eq_ok, raiseIf_eq_ok,
    Option.some.injEq, pure_eq_ok, not_not]
  constructor
  · rintro ⟨_, ⟨⟨_, rfl, hsize⟩, -⟩, -⟩
    omega
  · intro hsize
    exact ⟨token, ⟨⟨_, rfl, by omega⟩, h.mem_tokenize, rfl⟩, rfl⟩

end Canonical

section Acceptance

variable {u : Unicode} {value text token : Str}

-- each word of the folded text takes at most 512 bytes
def WordsFit (u : Unicode) (text : Str) : Prop := ∀ word ∈ words u (casefold u text), utf8Bytes word ≤ metadataMaxChars

theorem sortedSet_sortedSet (values : List Str) : sortedSet (sortedSet values) = sortedSet values := by
  have hnodup : (sortedSet values).Nodup := (orderBy_perm id _).nodup_iff.mpr (List.nodup_dedup values)
  rw [sortedSet, hnodup.dedup, sortedSet]
  exact orderBy_of_pairwise (orderBy_pairwise id _)

theorem tokens_fit_iff : (∀ token ∈ tokenize u text, utf8Bytes token ≤ metadataMaxChars) ↔ WordsFit u text := by
  constructor
  · intro h word hword
    by_cases hlong : 2 ≤ word.length
    · exact h word (mem_tokenize.mpr ⟨word, hword, mem_wordTokens.mpr (.inl ⟨hlong, rfl⟩)⟩)
    · have hsmall : utf8Bytes word ≤ word.length * 4 := sum_utf8Length_le word
      rw [metadataMaxChars]
      omega
  · intro h token htoken
    obtain ⟨word, hword, htoken⟩ := mem_tokenize.mp htoken
    rcases mem_wordTokens.mp htoken with ⟨-, rfl⟩ | ⟨-, hbigram⟩
    · exact h token hword
    · have hsmall : utf8Bytes token ≤ token.length * 4 := sum_utf8Length_le token
      rw [(mem_bigrams hbigram).1] at hsmall
      rw [metadataMaxChars]
      omega

theorem tokens_tokenize (hclean : ∀ c ∈ text, isSurrogate c = false)
    (hfew : (tokenize u text).length ≤ maxTokensPerCandidate) :
    tokens u (tokenize u text) = .ok () ↔ WordsFit u text := by
  have hsorted : tokenize u text = sortedSet (tokenize u text) := (sortedSet_sortedSet _).symm
  rw [← tokens_fit_iff, tokens, seq_eq_ok, raiseIf_eq_ok, checkEach_eq_ok]
  constructor
  · intro h token htoken
    exact (canonical_of_mem hclean htoken).singleToken_eq_ok.mp (h.2 token htoken)
  · intro h
    exact ⟨fun hbad => hbad.elim (fun hmany => Nat.not_lt.mpr hfew hmany) fun hne => hne hsorted,
      fun token htoken => (canonical_of_mem hclean htoken).singleToken_eq_ok.mpr (h token htoken)⟩

-- a source as the builder receives it, whose text has at most the allowed number of tokens
structure Admissible (u : Unicode) (s : ManagedIndexSource) : Prop where
  checked : s.check = .ok ()
  few : ∀ text, s.indexText = some text → (tokenize u text).length ≤ maxTokensPerCandidate

theorem Admissible.clean {s : ManagedIndexSource} (h : Admissible u s) (htext : s.indexText = some text) :
    ∀ c ∈ text, isSurrogate c = false := by
  have hchecked := h.checked
  rw [ManagedIndexSource.check, htext, Option.elim_some, seq_eq_ok, boundedText, bind_eq_ok] at hchecked
  obtain ⟨⟨encoded, hencoded, -⟩, -⟩ := hchecked
  exact clean_of_encodedBytes (demand_eq_ok.mp hencoded)

theorem Admissible.candidateTokens {s : ManagedIndexSource} (h : Admissible u s) :
    (∃ built, candidateTokens u s = .ok built) ↔ ∀ text, s.indexText = some text → WordsFit u text := by
  simp only [Index.candidateTokens, bind_eq_ok, exists_unit, raiseIf_eq_ok, pure_eq_ok]
  cases htext : s.indexText with
  | none =>
    refine iff_of_true ⟨[], Nat.not_lt.mpr (Nat.zero_le _), ?_, fun hbad => hbad.2 rfl, rfl⟩ fun _ hbad => ?_
    · rfl
    · exact absurd hbad.symm (Option.some_ne_none _)
  | some text =>
    have hopen : s.sensitive ≠ true := by
      have hchecked := h.checked
      rw [ManagedIndexSource.check, seq_eq_ok, raiseIf_eq_ok, htext] at hchecked
      exact fun hsensitive => hchecked.2 ⟨hsensitive, rfl⟩
    have htokens := tokens_tokenize (h.clean htext) (h.few text htext)
    constructor
    · rintro ⟨_, -, haccepted, -⟩ other hother
      exact Option.some.inj hother ▸ htokens.mp haccepted
    · intro hfit
      exact ⟨_, Nat.not_lt.mpr (h.few text htext), htokens.mpr (hfit text rfl), fun hbad => hopen hbad.1, rfl⟩

theorem candidateTokens_of_build {sources : List ManagedIndexSource} {s : ManagedIndexSource}
    (h : ∃ built, buildTokens u sources = .ok built) (hs : s ∈ sources) : ∃ built, candidateTokens u s = .ok built := by
  obtain ⟨built, hbuilt⟩ := h
  have hrounds : List.Forall₂ (fun tokens s => candidateTokens u s = .ok tokens) built sources :=
    (collect_eq_ok.mp hbuilt).flip
  obtain ⟨tokens, -, htokens⟩ := exists_of_forall₂ hrounds hs
  exact ⟨tokens, htokens⟩

theorem buildTokens_iff {sources : List ManagedIndexSource} (h : ∀ s ∈ sources, Admissible u s) :
    (∃ built, buildTokens u sources = .ok built) ↔
      ∀ s ∈ sources, ∀ text, s.indexText = some text → WordsFit u text :=
  ⟨fun hbuilt s hs => (h s hs).candidateTokens.mp (candidateTokens_of_build hbuilt hs),
    fun hfit => collect_total fun s hs => (h s hs).candidateTokens.mpr (hfit s hs)⟩

theorem val_lowered {c : CodePoint} (h : c.val ≤ 90) : (c + 32).val = c.val + 32 :=
  Fin.val_add_eq_of_add_lt (by change c.val + 32 < 1114112; omega)

theorem lowered_lowered (c : CodePoint) : ∀ d ∈ [if 65 ≤ c.val ∧ c.val ≤ 90 then c + 32 else c],
    [if 65 ≤ d.val ∧ d.val ≤ 90 then d + 32 else d] = [d] := by
  intro d hd
  rw [List.mem_singleton] at hd
  by_cases hupper : 65 ≤ c.val ∧ c.val ≤ 90
  · rw [if_pos hupper] at hd
    have hlowered := val_lowered hupper.2
    rw [← hd] at hlowered
    rw [if_neg (by omega)]
  · rw [if_neg hupper] at hd
    rw [hd, if_neg hupper]

theorem surrogate_lowered (c : CodePoint) (hc : isSurrogate c = false) :
    ∀ d ∈ [if 65 ≤ c.val ∧ c.val ≤ 90 then c + 32 else c], isSurrogate d = false := by
  intro d hd
  rw [List.mem_singleton] at hd
  by_cases hupper : 65 ≤ c.val ∧ c.val ≤ 90
  · rw [if_pos hupper] at hd
    have hlowered := val_lowered hupper.2
    rw [← hd] at hlowered
    rw [isSurrogate, decide_eq_false_iff_not]
    omega
  · rw [if_neg hupper] at hd
    rw [hd]
    exact hc

def asciiUnicode : Unicode where
  fold c := [if 65 ≤ c.val ∧ c.val ≤ 90 then c + 32 else c]
  isAlphanumeric c := decide ((48 ≤ c.val ∧ c.val ≤ 57) ∨ (65 ≤ c.val ∧ c.val ≤ 90) ∨ (97 ≤ c.val ∧ c.val ≤ 122))
  fold_fold := lowered_lowered
  fold_surrogate := surrogate_lowered
  fold_ascii c _ := rfl
  ascii_alphanumeric c _ := rfl

def sampleSource : ManagedIndexSource := ⟨some (lit "Repair cache"), false⟩

theorem sampleSource_admissible : Admissible asciiUnicode sampleSource := by
  refine ⟨by decide, fun text htext => ?_⟩
  obtain rfl := Option.some.inj htext
  decide

def longWord : Str := List.replicate 513 97

theorem canonical_longWord (u : Unicode) : Canonical u longWord := by
  have hletter : ∀ c ∈ longWord, c = 97 := fun c hc => List.eq_of_mem_replicate hc
  have hlow : (97 : CodePoint).val < 128 := by decide
  refine ⟨fun c hc => ?_, fun c hc => ?_, fun c hc => ?_, ?_⟩
  · rw [hletter c hc, u.ascii_alphanumeric 97 hlow]
    rfl
  · rw [hletter c hc, u.fold_ascii 97 hlow]
    rfl
  · rw [hletter c hc]
    rfl
  · rw [longWord, List.length_replicate]
    decide

theorem utf8Bytes_longWord : utf8Bytes longWord = 513 := by
  rw [utf8Bytes, longWord, List.map_replicate, List.sum_replicate]
  rfl

theorem length_tokenize_longWord (u : Unicode) : (tokenize u longWord).length ≤ 1 := by
  have hnarrow : (longWord.any fun character => decide (127 < character.val)) = false := by
    refine List.any_eq_false.mpr fun c hc => ?_
    rw [List.eq_of_mem_replicate hc]
    decide
  rw [tokenize, (canonical_longWord u).words, List.flatMap_singleton, wordTokens, hnarrow, sortedSet, length_orderBy]
  refine (List.dedup_sublist _).length_le.trans ?_
  rw [if_pos (canonical_longWord u).long]
  exact Nat.le_refl 1

theorem admissible_longWord (u : Unicode) : Admissible u ⟨some longWord, false⟩ := by
  refine ⟨?_, fun text htext => ?_⟩
  · simp only [ManagedIndexSource.check, Option.elim_some, boundedText,
      encodedBytes_of_clean (canonical_longWord u).clean, utf8Bytes_longWord]
    rfl
  · obtain rfl := Option.some.inj htext
    exact (length_tokenize_longWord u).trans (by decide)

end Acceptance

end Index

end TraceBackedMemory
