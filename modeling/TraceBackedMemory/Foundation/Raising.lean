import Mathlib.Data.List.Forall2
import Mathlib.Logic.Relation

namespace Raising

variable {ε σ α β : Type}

section Checks

def raiseIf (p : Prop) [Decidable p] (e : ε) : Except ε Unit :=
  if p then .error e else .ok ()

def demand (o : Option α) (e : ε) : Except ε α :=
  match o with
  | none => .error e
  | some a => .ok a

def checkEach (f : α → Except ε Unit) : List α → Except ε Unit
  | [] => .ok ()
  | a :: l => do
    f a
    checkEach f l

def collect (f : α → Except ε β) : List α → Except ε (List β)
  | [] => .ok []
  | a :: l => do
    let b ← f a
    let bs ← collect f l
    return b :: bs

def accumulate (f : β → α → Except ε β) (b : β) : List α → Except ε β
  | [] => .ok b
  | a :: l => do
    let b' ← f b a
    accumulate f b' l

theorem bind_eq_ok {x : Except ε α} {f : α → Except ε β} {b : β} :
    (x >>= f) = .ok b ↔ ∃ a, x = .ok a ∧ f a = .ok b := by
  cases x with
  | error e =>
    constructor
    · intro h
      cases h
    · rintro ⟨a, h, _⟩
      cases h
  | ok a =>
    constructor
    · intro h
      exact ⟨a, rfl, h⟩
    · rintro ⟨a', h, hf⟩
      cases h
      exact hf

theorem exists_unit {P : Unit → Prop} : (∃ u, P u) ↔ P () := by
  constructor
  · rintro ⟨⟨⟩, h⟩
    exact h
  · exact fun h => ⟨(), h⟩

theorem pure_eq_ok {a b : α} : (pure a : Except ε α) = .ok b ↔ a = b := by
  constructor
  · intro h
    cases h
    rfl
  · rintro rfl
    rfl

theorem map_eq_ok {x : Except ε α} {f : α → β} {b : β} :
    (f <$> x) = .ok b ↔ ∃ a, x = .ok a ∧ f a = b := by
  cases x with
  | error e =>
    constructor
    · intro h
      cases h
    · rintro ⟨a, h, _⟩
      cases h
  | ok a =>
    constructor
    · intro h
      cases h
      exact ⟨a, rfl, rfl⟩
    · rintro ⟨a', h, rfl⟩
      cases h
      rfl

theorem seq_eq_ok {x : Except ε Unit} {y : Except ε β} {b : β} :
    (x >>= fun _ => y) = .ok b ↔ x = .ok () ∧ y = .ok b := by
  rw [bind_eq_ok]
  constructor
  · rintro ⟨⟨⟩, hx, hy⟩
    exact ⟨hx, hy⟩
  · rintro ⟨hx, hy⟩
    exact ⟨(), hx, hy⟩

@[simp] theorem raiseIf_eq_ok {p : Prop} [Decidable p] {e : ε} {u : Unit} :
    raiseIf p e = .ok u ↔ ¬p := by
  unfold raiseIf
  split <;> simp_all

theorem raiseIf_of {p : Prop} [Decidable p] {e : ε} (h : p) : raiseIf p e = .error e := if_pos h

theorem raiseIf_of_not {p : Prop} [Decidable p] {e : ε} (h : ¬p) : raiseIf p e = .ok () := if_neg h

@[simp] theorem demand_eq_ok {o : Option α} {e : ε} {a : α} : demand o e = .ok a ↔ o = some a := by
  cases o <;> simp [demand]

theorem checkEach_eq_ok {f : α → Except ε Unit} {l : List α} :
    checkEach f l = .ok () ↔ ∀ a ∈ l, f a = .ok () := by
  induction l with
  | nil => simp [checkEach]
  | cons a l ih => simp [checkEach, seq_eq_ok, ih]

theorem collect_eq_ok {f : α → Except ε β} {l : List α} {bs : List β} :
    collect f l = .ok bs ↔ List.Forall₂ (fun a b => f a = .ok b) l bs := by
  induction l generalizing bs with
  | nil =>
    rw [List.forall₂_nil_left_iff]
    constructor
    · intro h
      cases h
      rfl
    · rintro rfl
      rfl
  | cons a l ih =>
    simp only [collect, bind_eq_ok, pure_eq_ok, ih, List.forall₂_cons_left_iff]
    constructor
    · rintro ⟨b, hb, bs', hbs, rfl⟩
      exact ⟨b, bs', hb, hbs, rfl⟩
    · rintro ⟨b, bs', hb, hbs, rfl⟩
      exact ⟨b, hb, bs', hbs, rfl⟩

theorem exists_of_forall₂ {R : α → β → Prop} {l : List α} {bs : List β} (h : List.Forall₂ R l bs)
    {b : β} (hb : b ∈ bs) : ∃ a ∈ l, R a b := by
  induction h with
  | nil => simp at hb
  | cons hab _ ih =>
    rcases List.mem_cons.mp hb with rfl | hb
    · exact ⟨_, by simp, hab⟩
    · obtain ⟨a, ha, hr⟩ := ih hb
      exact ⟨a, List.mem_cons_of_mem _ ha, hr⟩

theorem collect_mem {f : α → Except ε β} {l : List α} {bs : List β} (h : collect f l = .ok bs)
    {b : β} (hb : b ∈ bs) : ∃ a ∈ l, f a = .ok b :=
  exists_of_forall₂ (collect_eq_ok.mp h) hb

theorem collect_total {f : α → Except ε β} {l : List α}
    (h : ∀ a ∈ l, ∃ b, f a = .ok b) : ∃ bs, collect f l = .ok bs := by
  induction l with
  | nil => exact ⟨[], rfl⟩
  | cons a l ih =>
    obtain ⟨b, hb⟩ := h a (by simp)
    obtain ⟨bs, hbs⟩ := ih fun c hc => h c (List.mem_cons_of_mem _ hc)
    exact ⟨b :: bs, by simp [collect, bind_eq_ok, hb, hbs]⟩

theorem accumulate_append {f : β → α → Except ε β} (l m : List α) (b : β) :
    accumulate f b (l ++ m) = accumulate f b l >>= fun c => accumulate f c m := by
  induction l generalizing b with
  | nil => rfl
  | cons a l ih =>
    simp only [List.cons_append, accumulate]
    cases f b a with
    | error e => rfl
    | ok c => exact ih c

theorem accumulate_invariant {f : β → α → Except ε β} {P : β → Prop} {l : List α}
    (hstep : ∀ b a c, a ∈ l → P b → f b a = .ok c → P c) {b c : β} (hb : P b)
    (h : accumulate f b l = .ok c) : P c := by
  induction l generalizing b with
  | nil =>
    cases h
    exact hb
  | cons a l ih =>
    simp only [accumulate, bind_eq_ok] at h
    obtain ⟨d, hd, hr⟩ := h
    exact ih (fun b a' c ha => hstep b a' c (List.mem_cons_of_mem _ ha))
      (hstep b a d (by simp) hb hd) hr

theorem bind_eq_error {x : Except ε α} {f : α → Except ε β} {e : ε} :
    (x >>= f) = .error e ↔ x = .error e ∨ ∃ a, x = .ok a ∧ f a = .error e := by
  cases x with
  | error e' =>
    constructor
    · intro h
      cases h
      exact .inl rfl
    · rintro (h | ⟨a, h, _⟩)
      · cases h
        rfl
      · cases h
  | ok a =>
    constructor
    · exact fun h => .inr ⟨a, rfl, h⟩
    · rintro (h | ⟨a', h, hf⟩)
      · cases h
      · cases h
        exact hf

theorem map_eq_error {x : Except ε α} {f : α → β} {e : ε} :
    (f <$> x) = .error e ↔ x = .error e := by
  cases x with
  | error e' =>
    constructor
    · intro h
      cases h
      rfl
    · intro h
      cases h
      rfl
  | ok a =>
    constructor
    · intro h
      cases h
    · intro h
      cases h

end Checks

section Failures

def Raises (p : ε → Prop) (x : Except ε α) : Prop := ∀ e, x = .error e → p e

variable {p : ε → Prop}

theorem raises_ok (a : α) : Raises p (.ok a : Except ε α) := by
  intro e h
  cases h

theorem raises_pure (a : α) : Raises p (pure a : Except ε α) := raises_ok a

theorem raises_error {e : ε} (h : p e) : Raises p (.error e : Except ε α) := by
  intro e' he
  cases he
  exact h

theorem raises_raiseIf {q : Prop} [Decidable q] {e : ε} (h : p e) : Raises p (raiseIf q e) := by
  unfold raiseIf
  split
  · exact raises_error h
  · exact raises_ok ()

theorem raises_demand {o : Option α} {e : ε} (h : p e) : Raises p (demand o e) := by
  cases o with
  | none => exact raises_error h
  | some a => exact raises_ok a

theorem Raises.bind {x : Except ε α} {f : α → Except ε β} (hx : Raises p x)
    (hf : ∀ a, Raises p (f a)) : Raises p (x >>= f) := by
  intro e h
  rcases bind_eq_error.mp h with h | ⟨a, -, h⟩
  · exact hx e h
  · exact hf a e h

theorem raises_checkEach {f : α → Except ε Unit} (h : ∀ a, Raises p (f a)) (l : List α) :
    Raises p (checkEach f l) := by
  induction l with
  | nil => exact raises_ok ()
  | cons a l ih => exact (h a).bind (fun _ => ih)

theorem Raises.imp {q : ε → Prop} {x : Except ε α} (h : Raises p x) (hpq : ∀ e, p e → q e) :
    Raises q x := fun e he => hpq e (h e he)

end Failures

section Programs

abbrev Program (ε σ α : Type) := EStateM ε σ α

def inspect (f : σ → Except ε α) : Program ε σ α := fun s =>
  match f s with
  | .ok a => .ok a s
  | .error e => .error e s

def assign (f : σ → σ) : Program ε σ Unit := fun s => .ok () (f s)

def undoing (m : Program ε σ α) (undo : σ → σ) : Program ε σ α := fun s =>
  match m s with
  | .ok a s' => .ok a s'
  | .error e s' => .error e (undo s')

def forEach (f : α → Program ε σ β) : List α → Program ε σ Unit
  | [] => pure ()
  | a :: l => do
    let _ ← f a
    forEach f l

def finalState : EStateM.Result ε σ α → σ
  | .ok _ s => s
  | .error _ s => s

def returns : EStateM.Result ε σ α → Bool
  | .ok _ _ => true
  | .error _ _ => false

def ReadOnly (m : Program ε σ α) : Prop :=
  ∀ s, (∃ a, m s = .ok a s) ∨ ∃ e, m s = .error e s

def Total (m : Program ε σ α) : Prop := ∀ s, ∃ a s', m s = .ok a s'

def Atomic (m : Program ε σ α) : Prop := ∀ s e s', m s = .error e s' → s' = s

theorem exists_of_returns {r : EStateM.Result ε σ α} (h : returns r = true) :
    ∃ a s, r = .ok a s := by
  cases r with
  | ok a s => exact ⟨a, s, rfl⟩
  | error e s => cases h

theorem exists_of_not_returns {r : EStateM.Result ε σ α} (h : returns r = false) :
    ∃ e s, r = .error e s := by
  cases r with
  | ok a s => cases h
  | error e s => exact ⟨e, s, rfl⟩

theorem bind_apply (m : Program ε σ α) (f : α → Program ε σ β) (s : σ) :
    (m >>= f) s =
      match m s with
      | .ok a s' => f a s'
      | .error e s' => .error e s' := rfl

theorem run_bind_eq_ok {m : Program ε σ α} {f : α → Program ε σ β} {s s' : σ} {b : β} :
    (m >>= f) s = .ok b s' ↔ ∃ a t, m s = .ok a t ∧ f a t = .ok b s' := by
  rw [bind_apply]
  cases m s with
  | error e t => simp
  | ok a t => simp

theorem run_pure_eq_ok {a b : α} {s s' : σ} :
    (pure a : Program ε σ α) s = .ok b s' ↔ a = b ∧ s = s' := by
  constructor
  · intro h
    cases h
    exact ⟨rfl, rfl⟩
  · rintro ⟨rfl, rfl⟩
    rfl

theorem run_inspect_eq_ok {f : σ → Except ε α} {s s' : σ} {a : α} :
    inspect f s = .ok a s' ↔ f s = .ok a ∧ s = s' := by
  unfold inspect
  cases f s with
  | error e => simp
  | ok b => simp

theorem run_assign_eq_ok {f : σ → σ} {s s' : σ} {u : Unit} :
    (assign f : Program ε σ Unit) s = .ok u s' ↔ s' = f s := by
  constructor
  · intro h
    cases h
    rfl
  · rintro rfl
    rfl

theorem run_undoing_eq_ok {m : Program ε σ α} {undo : σ → σ} {s s' : σ} {a : α} :
    undoing m undo s = .ok a s' ↔ m s = .ok a s' := by
  unfold undoing
  cases m s with
  | error e t => simp
  | ok b t => simp

theorem run_map_eq_ok {m : Program ε σ α} {f : α → β} {s s' : σ} {b : β} :
    (f <$> m) s = .ok b s' ↔ ∃ a, m s = .ok a s' ∧ f a = b := by
  show EStateM.map f m s = _ ↔ _
  unfold EStateM.map
  cases m s with
  | error e t => simp
  | ok a t =>
    constructor
    · intro h
      cases h
      exact ⟨a, rfl, rfl⟩
    · rintro ⟨a', h, rfl⟩
      cases h
      rfl

theorem run_map_eq_error {m : Program ε σ α} {f : α → β} {s s' : σ} {e : ε} :
    (f <$> m) s = .error e s' ↔ m s = .error e s' := by
  show EStateM.map f m s = _ ↔ _
  unfold EStateM.map
  cases m s with
  | error e' t => simp
  | ok a t => simp

theorem run_bind_eq_error {m : Program ε σ α} {f : α → Program ε σ β} {s s' : σ} {e : ε} :
    (m >>= f) s = .error e s' ↔
      m s = .error e s' ∨ ∃ a t, m s = .ok a t ∧ f a t = .error e s' := by
  rw [bind_apply]
  cases m s with
  | error e' t => simp
  | ok a t => simp

theorem run_inspect_eq_error {f : σ → Except ε α} {s s' : σ} {e : ε} :
    inspect f s = .error e s' ↔ f s = .error e ∧ s = s' := by
  unfold inspect
  cases f s with
  | error e => simp
  | ok b => simp

theorem run_assign_eq_error {f : σ → σ} {s s' : σ} {e : ε} :
    (assign f : Program ε σ Unit) s = .error e s' ↔ False := by
  simp [assign]

theorem run_pure_eq_error {a : α} {s s' : σ} {e : ε} :
    (pure a : Program ε σ α) s = .error e s' ↔ False := by
  constructor
  · intro h
    cases h
  · exact False.elim

theorem run_undoing_eq_error {m : Program ε σ α} {undo : σ → σ} {s s' : σ} {e : ε} :
    undoing m undo s = .error e s' ↔ ∃ t, m s = .error e t ∧ s' = undo t := by
  unfold undoing
  cases m s with
  | error e' t =>
    constructor
    · intro h
      cases h
      exact ⟨t, rfl, rfl⟩
    · rintro ⟨t', h, rfl⟩
      cases h
      rfl
  | ok b t => simp

theorem forEach_invariant {f : α → Program ε σ β} {P : σ → σ → Prop} {l : List α}
    (hrefl : ∀ s, P s s) (htrans : ∀ s t u, P s t → P t u → P s u)
    (hstep : ∀ a ∈ l, ∀ s b t, f a s = .ok b t → P s t) {s s' : σ} {u : Unit}
    (h : forEach f l s = .ok u s') : P s s' := by
  induction l generalizing s with
  | nil =>
    cases h
    exact hrefl _
  | cons a l ih =>
    obtain ⟨b, t, hb, hr⟩ := run_bind_eq_ok.mp h
    exact htrans s t s' (hstep a (by simp) s b t hb)
      (ih (fun c hc => hstep c (List.mem_cons_of_mem _ hc)) hr)

theorem forEach_total {f : α → Program ε σ β} {P : σ → List α → Prop}
    (hstep : ∀ s a l, P s (a :: l) → ∃ b t, f a s = .ok b t ∧ P t l) {l : List α} {s : σ}
    (h : P s l) : ∃ t, forEach f l s = .ok () t ∧ P t [] := by
  induction l generalizing s with
  | nil => exact ⟨s, rfl, h⟩
  | cons a l ih =>
    obtain ⟨b, t, hb, ht⟩ := hstep s a l h
    obtain ⟨u, hu, hdone⟩ := ih ht
    exact ⟨u, run_bind_eq_ok.mpr ⟨b, t, hb, hu⟩, hdone⟩

theorem readOnly_inspect (f : σ → Except ε α) : ReadOnly (inspect f) := by
  intro s
  unfold inspect
  cases f s with
  | error e => exact .inr ⟨e, rfl⟩
  | ok a => exact .inl ⟨a, rfl⟩

theorem total_assign (f : σ → σ) : Total (assign f : Program ε σ Unit) := fun s => ⟨(), f s, rfl⟩

theorem total_pure (a : α) : Total (pure a : Program ε σ α) := fun s => ⟨a, s, rfl⟩

theorem Total.bind {m : Program ε σ α} {f : α → Program ε σ β} (hm : Total m)
    (hf : ∀ a, Total (f a)) : Total (m >>= f) := by
  intro s
  obtain ⟨a, t, ha⟩ := hm s
  obtain ⟨b, s', hb⟩ := hf a t
  exact ⟨b, s', run_bind_eq_ok.mpr ⟨a, t, ha, hb⟩⟩

theorem Total.atomic {m : Program ε σ α} (hm : Total m) : Atomic m := by
  intro s e s' h
  obtain ⟨a, t, ha⟩ := hm s
  rw [ha] at h
  cases h

theorem Atomic.bind_of_readOnly {m : Program ε σ α} {f : α → Program ε σ β} (hm : ReadOnly m)
    (hf : ∀ a, Atomic (f a)) : Atomic (m >>= f) := by
  intro s e s' h
  rw [bind_apply] at h
  rcases hm s with ⟨a, ha⟩ | ⟨e', he⟩
  · rw [ha] at h
    exact hf a s e s' h
  · rw [he] at h
    cases h
    rfl

theorem Atomic.bind_of_total {m : Program ε σ α} {f : α → Program ε σ β} (hm : Atomic m)
    (hf : ∀ a, Total (f a)) : Atomic (m >>= f) := by
  intro s e s' h
  rw [bind_apply] at h
  cases hms : m s with
  | error e' t =>
    rw [hms] at h
    cases h
    exact hm s e s' hms
  | ok a t =>
    rw [hms] at h
    obtain ⟨b, u, hb⟩ := hf a t
    simp only [hb] at h
    cases h

theorem atomic_inspect_bind {f : σ → Except ε α} {g : α → Program ε σ β} (hg : ∀ a, Atomic (g a)) :
    Atomic (inspect f >>= g) :=
  Atomic.bind_of_readOnly (readOnly_inspect f) hg

end Programs

end Raising
