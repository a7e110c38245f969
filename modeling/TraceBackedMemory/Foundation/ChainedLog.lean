import Mathlib.Data.List.Basic
import Mathlib.Data.List.Range

structure LogShape (α κ η : Type) where
  key : α → κ
  version : α → Nat
  position : α → Nat
  digest : α → η
  parent : α → Option η

namespace LogShape

variable {α κ η : Type} (F : LogShape α κ η)

section Links

def tailDigest (l : List α) : Option η := l.getLast?.map F.digest

def Linked : Option η → List α → Prop
  | _, [] => True
  | prev, e :: l => F.parent e = prev ∧ Linked (some (F.digest e)) l

theorem linked_snoc {prev : Option η} {l : List α} {e : α} :
    F.Linked prev (l ++ [e]) ↔
      F.Linked prev l ∧ F.parent e = (F.tailDigest l).or prev := by
  induction l generalizing prev with
  | nil => simp [Linked, tailDigest]
  | cons a l ih =>
    have htail : (F.tailDigest (a :: l)).or prev = (F.tailDigest l).or (some (F.digest a)) := by
      cases l with
      | nil => rfl
      | cons b l =>
        obtain ⟨c, hc⟩ : ∃ c, (b :: l).getLast? = some c :=
          ⟨_, List.getLast?_eq_some_getLast (by simp)⟩
        simp only [tailDigest, List.getLast?_cons_cons, hc]
        rfl
    rw [List.cons_append, Linked, ih, Linked, htail, and_assoc]

theorem range'_snoc (n : Nat) : List.range' 1 (n + 1) = List.range' 1 n ++ [n + 1] := by
  rw [List.range'_concat]
  simp [Nat.add_comm]

theorem pairwise_lt_of_range' {l : List α} {f : α → Nat} (h : l.map f = List.range' 1 l.length) :
    l.Pairwise (fun a b => f a < f b) := by
  have hp : (l.map f).Pairwise (· < ·) := by
    rw [h]
    exact List.pairwise_lt_range'
  exact List.pairwise_map.mp hp

end Links

variable [DecidableEq κ]

section Streams

def stream (log : List α) (k : κ) : List α := log.filter (fun e => decide (F.key e = k))

theorem stream_append (log more : List α) (k : κ) :
    F.stream (log ++ more) k = F.stream log k ++ F.stream more k := by
  simp [stream]

theorem stream_snoc_self (log : List α) (e : α) :
    F.stream (log ++ [e]) (F.key e) = F.stream log (F.key e) ++ [e] := by
  simp [stream]

theorem stream_snoc_of_ne (log : List α) {e : α} {k : κ} (h : F.key e ≠ k) :
    F.stream (log ++ [e]) k = F.stream log k := by
  simp [stream, h]

theorem key_of_mem_stream {log : List α} {k : κ} {e : α} (h : e ∈ F.stream log k) : F.key e = k := by
  simpa using (List.mem_filter.mp h).2

end Streams

section Growth

structure Extends (log : List α) (e : α) : Prop where
  position : F.position e = log.length + 1
  version : F.version e = (F.stream log (F.key e)).length + 1
  parent : F.parent e = F.tailDigest (F.stream log (F.key e))

inductive Grown : List α → Prop
  | nil : Grown []
  | snoc {log : List α} {e : α} (h : Grown log) (he : F.Extends log e) : Grown (log ++ [e])

variable {F}

theorem Grown.positions {log : List α} (h : F.Grown log) :
    log.map F.position = List.range' 1 log.length := by
  induction h with
  | nil => rfl
  | snoc _ he ih =>
    rw [List.map_append, ih, List.length_append, List.length_singleton, range'_snoc]
    simp [he.position]

theorem Grown.versions {log : List α} (h : F.Grown log) (k : κ) :
    (F.stream log k).map F.version = List.range' 1 (F.stream log k).length := by
  induction h with
  | nil => rfl
  | @snoc log e _ he ih =>
    by_cases hk : F.key e = k
    · subst hk
      rw [F.stream_snoc_self, List.map_append, ih, List.length_append, List.length_singleton,
        range'_snoc]
      simp [he.version]
    · rw [F.stream_snoc_of_ne log hk, ih]

theorem Grown.linked {log : List α} (h : F.Grown log) (k : κ) : F.Linked none (F.stream log k) := by
  induction h with
  | nil => exact True.intro
  | @snoc log e _ he ih =>
    by_cases hk : F.key e = k
    · subst hk
      rw [F.stream_snoc_self, F.linked_snoc]
      exact ⟨ih, by rw [he.parent, Option.or_none]⟩
    · rwa [F.stream_snoc_of_ne log hk]

end Growth

end LogShape
