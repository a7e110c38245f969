import Mathlib
import TraceBackedMemory.Foundation.Raising

namespace RunningBudget

open Raising

variable {α β ε κ : Type} [AddCommMonoid κ] [PartialOrder κ]
  {spent : β → κ} {limit c c₁ c₂ : κ} {run run₁ run₂ : β → Except ε β} {ok ok₁ ok₂ : Prop}

-- A run with a budget succeeds exactly when its own condition holds and its cost still fits, and
-- then it has spent exactly that cost.
structure Charges (spent : β → κ) (limit : κ) (run : β → Except ε β) (ok : Prop) (c : κ) : Prop where
  total : ∀ b, spent b ≤ limit → ok → spent b + c ≤ limit → ∃ b', run b = .ok b'
  exact : ∀ b b', spent b ≤ limit → run b = .ok b' →
    ok ∧ spent b + c ≤ limit ∧ spent b' = spent b + c

section Rules

theorem Charges.accepts (h : Charges spent limit run ok c) {b : β} (hb : spent b ≤ limit) :
    (∃ b', run b = .ok b') ↔ ok ∧ spent b + c ≤ limit := by
  constructor
  · rintro ⟨b', hrun⟩
    obtain ⟨hok, hlimit, _⟩ := h.exact b b' hb hrun
    exact ⟨hok, hlimit⟩
  · rintro ⟨hok, hlimit⟩
    exact h.total b hb hok hlimit

theorem Charges.congr (h : Charges spent limit run ok₁ c₁) (hok : ok₁ ↔ ok₂) (hc : c₁ = c₂) :
    Charges spent limit run ok₂ c₂ := by
  obtain rfl := hc
  refine ⟨fun b hb hp hlimit => h.total b hb (hok.mpr hp) hlimit, fun b b' hb hrun => ?_⟩
  obtain ⟨hp, hrest⟩ := h.exact b b' hb hrun
  exact ⟨hok.mp hp, hrest⟩

theorem charges_never (hrun : ∀ b b', run b ≠ .ok b') (hok : ¬ok) : Charges spent limit run ok c :=
  ⟨fun _ _ h => absurd h hok, fun b b' _ h => absurd h (hrun b b')⟩

theorem charges_pure : Charges spent limit (fun b => (.ok b : Except ε β)) True 0 := by
  refine ⟨fun b _ _ _ => ⟨b, rfl⟩, fun b b' hb hrun => ?_⟩
  obtain rfl := Except.ok.inj hrun
  rw [add_zero]
  exact ⟨trivial, hb, rfl⟩

-- a check that does not look at the budget
theorem Charges.checked (h : Charges spent limit run ok c) (check : Except ε Unit) :
    Charges spent limit (fun b => check >>= fun _ => run b) (check = .ok () ∧ ok) c := by
  constructor
  · rintro b hb ⟨hcheck, hok⟩ hlimit
    obtain ⟨b', hrun⟩ := h.total b hb hok hlimit
    exact ⟨b', bind_eq_ok.mpr ⟨(), hcheck, hrun⟩⟩
  · intro b b' hb hrun
    obtain ⟨_, hcheck, hrun⟩ := bind_eq_ok.mp hrun
    obtain ⟨hok, hrest⟩ := h.exact b b' hb hrun
    exact ⟨⟨hcheck, hok⟩, hrest⟩

-- an early exit that only refuses what the run would refuse later
theorem Charges.early {guard : β → Except ε Unit} (h : Charges spent limit run ok c)
    (hguard : ∀ b, ok → spent b + c ≤ limit → guard b = .ok ()) :
    Charges spent limit (fun b => guard b >>= fun _ => run b) ok c := by
  constructor
  · intro b hb hok hlimit
    obtain ⟨b', hrun⟩ := h.total b hb hok hlimit
    exact ⟨b', bind_eq_ok.mpr ⟨(), hguard b hok hlimit, hrun⟩⟩
  · intro b b' hb hrun
    obtain ⟨_, _, hrun⟩ := bind_eq_ok.mp hrun
    exact h.exact b b' hb hrun

end Rules

section Composition

variable [CanonicallyOrderedAdd κ]

theorem Charges.seq (h₁ : Charges spent limit run₁ ok₁ c₁) (h₂ : Charges spent limit run₂ ok₂ c₂) :
    Charges spent limit (fun b => run₁ b >>= run₂) (ok₁ ∧ ok₂) (c₁ + c₂) := by
  constructor
  · rintro b hb ⟨hok₁, hok₂⟩ hlimit
    rw [← add_assoc] at hlimit
    have hfirst : spent b + c₁ ≤ limit := le_self_add.trans hlimit
    obtain ⟨b₁, hrun₁⟩ := h₁.total b hb hok₁ hfirst
    obtain ⟨_, _, hspent⟩ := h₁.exact b b₁ hb hrun₁
    rw [← hspent] at hfirst hlimit
    obtain ⟨b₂, hrun₂⟩ := h₂.total b₁ hfirst hok₂ hlimit
    exact ⟨b₂, bind_eq_ok.mpr ⟨b₁, hrun₁, hrun₂⟩⟩
  · intro b b₂ hb hrun
    obtain ⟨b₁, hrun₁, hrun₂⟩ := bind_eq_ok.mp hrun
    obtain ⟨hok₁, hfirst, hspent₁⟩ := h₁.exact b b₁ hb hrun₁
    rw [← hspent₁] at hfirst
    obtain ⟨hok₂, hlimit, hspent₂⟩ := h₂.exact b₁ b₂ hfirst hrun₂
    rw [hspent₁, add_assoc] at hlimit hspent₂
    exact ⟨⟨hok₁, hok₂⟩, hlimit, hspent₂⟩

theorem charges_accumulate {f : β → α → Except ε β} {holds : α → Prop} {cost : α → κ} {l : List α}
    (h : ∀ a ∈ l, Charges spent limit (fun b => f b a) (holds a) (cost a)) :
    Charges spent limit (fun b => accumulate f b l) (∀ a ∈ l, holds a) ((l.map cost).sum) := by
  induction l with
  | nil => exact charges_pure.congr (by simp) rfl
  | cons a l ih =>
    obtain ⟨ha, hl⟩ := List.forall_mem_cons.mp h
    refine (ha.seq (ih hl)).congr ?_ ?_
    · rw [List.forall_mem_cons]
    · rw [List.map_cons, List.sum_cons]

end Composition

end RunningBudget

namespace StackWalk

open Raising

variable {β ε φ : Type}

-- A loop over an explicit stack: each frame popped may change the state, end the loop with a fault
-- or push its children. The fuel bounds the number of frames popped.
def walk (visit : β → φ → Except ε (β × List φ)) : Nat → β → List φ → Option (Except ε β)
  | _, b, [] => some (.ok b)
  | 0, _, _ :: _ => none
  | fuel + 1, b, f :: stack =>
    match visit b f with
    | .error e => some (.error e)
    | .ok (b', children) => walk visit fuel b' (children ++ stack)

variable {visit : β → φ → Except ε (β × List φ)} {recurse : β → φ → Except ε β} {weight : φ → Nat}

structure Unfolds (visit : β → φ → Except ε (β × List φ)) (recurse : β → φ → Except ε β)
    (weight : φ → Nat) : Prop where
  step : ∀ b f, recurse b f = visit b f >>= fun p => accumulate recurse p.1 p.2
  pos : ∀ f, 0 < weight f
  smaller : ∀ b f b' children, visit b f = .ok (b', children) →
    (children.map weight).sum < weight f

theorem walk_eq_recursion (h : Unfolds visit recurse weight) {fuel : Nat} {b : β} {stack : List φ}
    (hfuel : (stack.map weight).sum ≤ fuel) :
    walk visit fuel b stack = some (accumulate recurse b stack) := by
  induction fuel generalizing b stack with
  | zero =>
    cases stack with
    | nil => rfl
    | cons f stack =>
      have hpos := h.pos f
      rw [List.map_cons, List.sum_cons] at hfuel
      omega
  | succ fuel ih =>
    cases stack with
    | nil => rfl
    | cons f stack =>
      rw [List.map_cons, List.sum_cons] at hfuel
      rw [walk, accumulate, h.step]
      cases hvisit : visit b f with
      | error e => rfl
      | ok p =>
        obtain ⟨b', children⟩ := p
        have hsmaller := h.smaller b f b' children hvisit
        have hrest : ((children ++ stack).map weight).sum ≤ fuel := by
          rw [List.map_append, List.sum_append]
          omega
        have hwalk := ih (b := b') hrest
        rw [accumulate_append] at hwalk
        exact hwalk

end StackWalk
