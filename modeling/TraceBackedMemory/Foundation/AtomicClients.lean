import Mathlib.Data.List.Basic

inductive AtomicClient (σ : Type) where
  | stopped
  | act (effect : σ → σ) (next : σ → AtomicClient σ)

namespace AtomicClient

variable {σ ε α : Type}

section Programs

def requiring (x : Except ε α) (next : α → AtomicClient σ) : AtomicClient σ :=
  match x with
  | .ok a => next a
  | .error _ => .stopped

def reading (read : σ → Except ε α) (next : α → AtomicClient σ) : AtomicClient σ :=
  .act id (fun s => requiring (read s) next)

def written (write : σ → Except ε σ) (s : σ) : σ :=
  match write s with
  | .ok t => t
  | .error _ => s

def writing (write : σ → Except ε σ) : AtomicClient σ := .act (written write) (fun _ => .stopped)

end Programs

section Runs

-- One atomic action of client i; a stopped or missing client changes nothing.
def step (clients : List (AtomicClient σ)) (s : σ) (i : Nat) : List (AtomicClient σ) × σ :=
  match clients[i]? with
  | some (.act effect next) => (clients.set i (next s), effect s)
  | _ => (clients, s)

def run : List (AtomicClient σ) → σ → List Nat → List (AtomicClient σ) × σ
  | clients, s, [] => (clients, s)
  | clients, s, i :: schedule => run (step clients s i).1 (step clients s i).2 schedule

end Runs

section Safety

variable (holds : σ → Prop) (later : σ → σ → Prop)

-- Whatever state the others have reached, the next action keeps the invariant and only moves on.
def Safe : AtomicClient σ → σ → Prop
  | .stopped, _ => True
  | .act effect next, s => ∀ t, later s t → holds t →
      holds (effect t) ∧ later t (effect t) ∧ Safe (next t) (effect t)

variable {holds later}

theorem Safe.mono (trans : ∀ a b c, later a b → later b c → later a c) {c : AtomicClient σ}
    {s t : σ} (hsafe : Safe holds later c s) (hlater : later s t) : Safe holds later c t := by
  cases c with
  | stopped => trivial
  | act effect next =>
    intro u hu hholds
    exact hsafe u (trans s t u hlater hu) hholds

theorem safe_requiring {x : Except ε α} {next : α → AtomicClient σ} {s : σ}
    (h : ∀ a, x = .ok a → Safe holds later (next a) s) : Safe holds later (requiring x next) s := by
  cases x with
  | ok a => exact h a rfl
  | error e => trivial

theorem safe_reading (refl : ∀ s, later s s) {read : σ → Except ε α} {next : α → AtomicClient σ}
    {s : σ} (h : ∀ t, later s t → holds t → ∀ a, read t = .ok a → Safe holds later (next a) t) :
    Safe holds later (reading read next) s := by
  intro t hlater hholds
  exact ⟨hholds, refl t, safe_requiring fun a ha => h t hlater hholds a ha⟩

theorem safe_writing (refl : ∀ s, later s s) {write : σ → Except ε σ} {s : σ}
    (h : ∀ t, later s t → holds t → ∀ u, write t = .ok u → holds u ∧ later t u) :
    Safe holds later (writing write) s := by
  intro t hlater hholds
  cases hwrite : write t with
  | error e =>
    rw [written, hwrite]
    exact ⟨hholds, refl t, trivial⟩
  | ok u =>
    rw [written, hwrite]
    obtain ⟨hu, hmoved⟩ := h t hlater hholds u hwrite
    exact ⟨hu, hmoved, trivial⟩

theorem step_safe (refl : ∀ s, later s s) (trans : ∀ a b c, later a b → later b c → later a c)
    {clients : List (AtomicClient σ)} {s : σ} (hholds : holds s)
    (hsafe : ∀ c ∈ clients, Safe holds later c s) (i : Nat) :
    holds (step clients s i).2 ∧ later s (step clients s i).2 ∧
      ∀ c ∈ (step clients s i).1, Safe holds later c (step clients s i).2 := by
  unfold step
  split
  · rename_i effect next hclient
    have hmem := List.mem_of_getElem? hclient
    obtain ⟨hafter, hmoved, hnext⟩ := hsafe _ hmem s (refl s) hholds
    refine ⟨hafter, hmoved, ?_⟩
    intro c hc
    rcases List.mem_or_eq_of_mem_set hc with hc | rfl
    · exact (hsafe c hc).mono trans hmoved
    · exact hnext
  · exact ⟨hholds, refl s, hsafe⟩

-- Induction on the schedule: every client stays safe whichever of them acts next.
theorem run_safe (refl : ∀ s, later s s) (trans : ∀ a b c, later a b → later b c → later a c)
    {clients : List (AtomicClient σ)} {s : σ} (hholds : holds s)
    (hsafe : ∀ c ∈ clients, Safe holds later c s) (schedule : List Nat) :
    holds (run clients s schedule).2 ∧ later s (run clients s schedule).2 := by
  induction schedule generalizing clients s with
  | nil => exact ⟨hholds, refl s⟩
  | cons i schedule ih =>
    obtain ⟨hafter, hmoved, hnext⟩ := step_safe refl trans hholds hsafe i
    obtain ⟨hend, hrest⟩ := ih hafter hnext
    exact ⟨hend, trans _ _ _ hmoved hrest⟩

end Safety

end AtomicClient
