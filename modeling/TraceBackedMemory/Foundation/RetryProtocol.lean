import Mathlib.Data.List.Induction
import Mathlib.Data.List.Count

namespace RetryProtocol

variable {δ τ : Type}

section Protocol

inductive Act (δ τ : Type) where
  | start (time : τ)
  | submit
  | lose
  | receive
  | confirm
  | miss
  | wonder
  | schedule (due : δ)
  | abandon

structure Move (δ τ : Type) where
  attempt : Nat
  act : Act δ τ

inductive Phase (δ : Type) where
  | idle
  | inFlight
  | submitted
  | unknown
  | notFound
  | waiting (due : δ)
  | dead
  | done

structure Course (δ : Type) where
  number : Nat
  phase : Phase δ

inductive Step (ready : δ → τ → Prop) : Course δ → Move δ τ → Course δ → Prop where
  | first (time : τ) : Step ready ⟨0, .idle⟩ ⟨1, .start time⟩ ⟨1, .inFlight⟩
  | retry {n : Nat} {due : δ} {time : τ} (h : ready due time) :
      Step ready ⟨n, .waiting due⟩ ⟨n + 1, .start time⟩ ⟨n + 1, .inFlight⟩
  | submit (n : Nat) : Step ready ⟨n, .inFlight⟩ ⟨n, .submit⟩ ⟨n, .submitted⟩
  | lose {n : Nat} {p : Phase δ} (h : p = .inFlight ∨ p = .submitted) :
      Step ready ⟨n, p⟩ ⟨n, .lose⟩ ⟨n, .unknown⟩
  | receive {n : Nat} {p : Phase δ} (h : p = .inFlight ∨ p = .submitted) :
      Step ready ⟨n, p⟩ ⟨n, .receive⟩ ⟨n, .done⟩
  | confirm (n : Nat) : Step ready ⟨n, .unknown⟩ ⟨n, .confirm⟩ ⟨n, .done⟩
  | miss (n : Nat) : Step ready ⟨n, .unknown⟩ ⟨n, .miss⟩ ⟨n, .notFound⟩
  | wonder (n : Nat) : Step ready ⟨n, .unknown⟩ ⟨n, .wonder⟩ ⟨n, .unknown⟩
  | schedule (n : Nat) (due : δ) :
      Step ready ⟨n, .notFound⟩ ⟨n, .schedule due⟩ ⟨n, .waiting due⟩
  | abandon (n : Nat) : Step ready ⟨n, .notFound⟩ ⟨n, .abandon⟩ ⟨n, .dead⟩

inductive Run (ready : δ → τ → Prop) : List (Move δ τ) → Course δ → Prop where
  | nil : Run ready [] ⟨0, .idle⟩
  | snoc {moves : List (Move δ τ)} {c c' : Course δ} {m : Move δ τ} (h : Run ready moves c)
      (hm : Step ready c m c') : Run ready (moves ++ [m]) c'

end Protocol

section Runs

variable {ready : δ → τ → Prop} {moves before after : List (Move δ τ)} {c : Course δ}

def startNumber (m : Move δ τ) : Option Nat :=
  match m.act with
  | .start _ => some m.attempt
  | _ => none

def Phase.successes : Phase δ → Nat
  | .done => 1
  | _ => 0

def succeeds (m : Move δ τ) : Bool :=
  match m.act with
  | .receive | .confirm => true
  | _ => false

theorem Run.last_step {m : Move δ τ} (h : Run ready (moves ++ [m]) c) :
    ∃ c₁, Run ready moves c₁ ∧ Step ready c₁ m c := by
  generalize hmoves : moves ++ [m] = all at h
  cases h with
  | nil => simp at hmoves
  | snoc h hm =>
    obtain ⟨rfl, hlast⟩ := List.append_inj' hmoves rfl
    cases hlast
    exact ⟨_, h, hm⟩

theorem Run.numbered (h : Run ready moves c) : moves.filterMap startNumber = List.range' 1 c.number := by
  induction h with
  | nil => rfl
  | snoc _ hm ih =>
    rw [List.filterMap_append, ih]
    cases hm with
    | first => rfl
    | retry =>
      simp only [List.filterMap_cons, startNumber, List.filterMap_nil, List.range'_concat]
      rw [Nat.one_mul, Nat.add_comm]
    | _ => simp [startNumber]

theorem Run.idle_nil {n : Nat} (h : Run ready moves ⟨n, .idle⟩) : moves = [] ∧ n = 0 := by
  generalize hc : (⟨n, .idle⟩ : Course δ) = c at h
  cases h with
  | nil =>
    cases hc
    exact ⟨rfl, rfl⟩
  | snoc _ hm =>
    subst hc
    cases hm

theorem Run.notFound_tail {n : Nat} (h : Run ready moves ⟨n, .notFound⟩) :
    ∃ front, moves = front ++ [⟨n, .miss⟩] := by
  generalize hc : (⟨n, .notFound⟩ : Course δ) = c at h
  cases h with
  | nil => cases hc
  | snoc _ hm =>
    subst hc
    cases hm
    exact ⟨_, rfl⟩

theorem Run.waiting_tail {n : Nat} {due : δ} (h : Run ready moves ⟨n, .waiting due⟩) :
    ∃ front, moves = front ++ [⟨n, .miss⟩, ⟨n, .schedule due⟩] := by
  generalize hc : (⟨n, .waiting due⟩ : Course δ) = c at h
  cases h with
  | nil => cases hc
  | snoc hrun hm =>
    subst hc
    cases hm
    obtain ⟨front, rfl⟩ := hrun.notFound_tail
    exact ⟨front, by simp⟩

-- A retry is allowed in one phase only, and that phase fixes the last two moves.
theorem Run.start_after {n : Nat} {time : τ} (h : Run ready (before ++ [⟨n, .start time⟩]) c) :
    (n = 1 ∧ before = []) ∨ ∃ front k due, n = k + 1 ∧ ready due time ∧
      before = front ++ [⟨k, .miss⟩, ⟨k, .schedule due⟩] := by
  obtain ⟨c₁, hrun, hm⟩ := h.last_step
  cases hm with
  | first => exact .inl ⟨rfl, hrun.idle_nil.1⟩
  | retry hready =>
    obtain ⟨front, hfront⟩ := hrun.waiting_tail
    exact .inr ⟨front, _, _, rfl, hready, hfront⟩

theorem Run.successes (h : Run ready moves c) : moves.countP succeeds = c.phase.successes := by
  induction h with
  | nil => rfl
  | snoc _ hm ih =>
    rw [List.countP_append, ih]
    cases hm with
    | receive hp => rcases hp with rfl | rfl <;> rfl
    | lose hp => rcases hp with rfl | rfl <;> rfl
    | _ => rfl

end Runs

end RetryProtocol
