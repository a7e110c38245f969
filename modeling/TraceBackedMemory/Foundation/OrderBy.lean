import Mathlib.Data.List.Sort
import Mathlib.Data.Prod.Lex

namespace OrderBy

variable {α κ μ : Type} [LinearOrder κ] [LinearOrder μ]

def orderBy (key : α → κ) (l : List α) : List α := l.insertionSort (fun a b => key a ≤ key b)

theorem orderBy_perm (key : α → κ) (l : List α) : (orderBy key l).Perm l :=
  List.perm_insertionSort _ l

theorem mem_orderBy {key : α → κ} {l : List α} {a : α} : a ∈ orderBy key l ↔ a ∈ l :=
  (orderBy_perm key l).mem_iff

theorem length_orderBy (key : α → κ) (l : List α) : (orderBy key l).length = l.length :=
  (orderBy_perm key l).length_eq

theorem orderBy_pairwise (key : α → κ) (l : List α) :
    (orderBy key l).Pairwise (fun a b => key a ≤ key b) := by
  have : Std.Total (fun a b : α => key a ≤ key b) := ⟨fun a b => le_total (key a) (key b)⟩
  have : IsTrans α (fun a b : α => key a ≤ key b) := ⟨fun _ _ _ => le_trans⟩
  exact List.pairwise_insertionSort _ l

theorem orderBy_of_pairwise {key : α → κ} {l : List α}
    (h : l.Pairwise (fun a b => key a ≤ key b)) : orderBy key l = l :=
  h.insertionSort_eq

theorem pairwise_agree {l : List α} {f : α → κ} {g : α → μ}
    (hf : l.Pairwise (fun a b => f a ≤ f b)) (hg : l.Pairwise (fun a b => g a ≤ g b))
    (injf : ∀ a ∈ l, ∀ b ∈ l, f a = f b → a = b) (injg : ∀ a ∈ l, ∀ b ∈ l, g a = g b → a = b)
    {a b : α} (ha : a ∈ l) (hb : b ∈ l) (h : f a ≤ f b) : g a ≤ g b := by
  induction l with
  | nil => cases ha
  | cons c l ih =>
    obtain ⟨hfc, hfl⟩ := List.pairwise_cons.mp hf
    obtain ⟨hgc, hgl⟩ := List.pairwise_cons.mp hg
    rcases List.mem_cons.mp ha with rfl | ha'
    · rcases List.mem_cons.mp hb with rfl | hb'
      · exact le_refl _
      · exact hgc b hb'
    · rcases List.mem_cons.mp hb with rfl | hb'
      · rw [injf a ha b hb (le_antisymm h (hfc a ha'))]
      · exact ih hfl hgl (fun x hx y hy => injf x (List.mem_cons_of_mem _ hx) y (List.mem_cons_of_mem _ hy))
          (fun x hx y hy => injg x (List.mem_cons_of_mem _ hx) y (List.mem_cons_of_mem _ hy)) ha' hb'

theorem orderBy_eq_of_agree {l : List α} {f : α → κ} {g : α → μ}
    (injf : ∀ a ∈ l, ∀ b ∈ l, f a = f b → a = b)
    (h : ∀ a ∈ l, ∀ b ∈ l, f a ≤ f b ↔ g a ≤ g b) : orderBy f l = orderBy g l := by
  have hperm : (orderBy f l).Perm (orderBy g l) := (orderBy_perm f l).trans (orderBy_perm g l).symm
  refine hperm.eq_of_pairwise ?_ (orderBy_pairwise f l) ?_
  · intro a b ha hb hab hba
    exact injf a (mem_orderBy.mp ha) b (mem_orderBy.mp hb) (le_antisymm hab hba)
  · refine (orderBy_pairwise g l).imp_of_mem ?_
    intro a b ha hb hab
    exact (h a (mem_orderBy.mp ha) b (mem_orderBy.mp hb)).mpr hab

theorem orderBy_eq_of_perm {key : α → κ} {l m : List α} (hperm : l.Perm m)
    (hl : (l.map key).Nodup) : orderBy key l = orderBy key m := by
  have hperm' : (orderBy key l).Perm (orderBy key m) :=
    (orderBy_perm key l).trans (hperm.trans (orderBy_perm key m).symm)
  refine hperm'.eq_of_pairwise ?_ (orderBy_pairwise key l) (orderBy_pairwise key m)
  intro a b ha hb hab hba
  exact List.inj_on_of_nodup_map hl (mem_orderBy.mp ha)
    (hperm.mem_iff.mpr (mem_orderBy.mp hb)) (le_antisymm hab hba)

theorem orderBy_filter_eq_iff {l : List α} {p q : α → Bool} {f : α → κ} {g : α → μ}
    (injf : ∀ a ∈ l, ∀ b ∈ l, f a = f b → a = b) (injg : ∀ a ∈ l, ∀ b ∈ l, g a = g b → a = b) :
    orderBy f (l.filter p) = orderBy g (l.filter q) ↔
      (∀ a ∈ l, p a = q a) ∧
        ∀ a ∈ l.filter q, ∀ b ∈ l.filter q, f a ≤ f b ↔ g a ≤ g b := by
  have sub {a : α} {r : α → Bool} (h : a ∈ l.filter r) : a ∈ l := List.mem_of_mem_filter h
  constructor
  · intro h
    have hselect : ∀ a ∈ l, p a = q a := by
      intro a ha
      have hmem : a ∈ l.filter p ↔ a ∈ l.filter q := by
        rw [← @mem_orderBy _ _ _ f, h, mem_orderBy]
      rw [List.mem_filter, List.mem_filter] at hmem
      rw [Bool.eq_iff_iff]
      exact ⟨fun hp => (hmem.mp ⟨ha, hp⟩).2, fun hq => (hmem.mpr ⟨ha, hq⟩).2⟩
    refine ⟨hselect, ?_⟩
    rw [List.filter_congr hselect] at h
    intro a ha b hb
    have hf : (orderBy f (l.filter q)).Pairwise (fun x y => f x ≤ f y) := orderBy_pairwise f _
    have hg : (orderBy f (l.filter q)).Pairwise (fun x y => g x ≤ g y) := h ▸ orderBy_pairwise g _
    have hinjf : ∀ x ∈ orderBy f (l.filter q), ∀ y ∈ orderBy f (l.filter q), f x = f y → x = y :=
      fun x hx y hy => injf x (sub (mem_orderBy.mp hx)) y (sub (mem_orderBy.mp hy))
    have hinjg : ∀ x ∈ orderBy f (l.filter q), ∀ y ∈ orderBy f (l.filter q), g x = g y → x = y :=
      fun x hx y hy => injg x (sub (mem_orderBy.mp hx)) y (sub (mem_orderBy.mp hy))
    constructor
    · exact pairwise_agree hf hg hinjf hinjg (mem_orderBy.mpr ha) (mem_orderBy.mpr hb)
    · exact pairwise_agree hg hf hinjg hinjf (mem_orderBy.mpr ha) (mem_orderBy.mpr hb)
  · rintro ⟨hselect, hagree⟩
    rw [List.filter_congr hselect]
    exact orderBy_eq_of_agree (fun a ha b hb => injf a (sub ha) b (sub hb)) hagree

theorem orderBy_filter {l : List α} {key : α → κ} (p : α → Bool)
    (inj : ∀ a ∈ l, ∀ b ∈ l, key a = key b → a = b) :
    orderBy key (l.filter p) = (orderBy key l).filter p := by
  have hperm : (orderBy key (l.filter p)).Perm ((orderBy key l).filter p) :=
    (orderBy_perm key _).trans ((orderBy_perm key l).filter p).symm
  refine hperm.eq_of_pairwise ?_ (orderBy_pairwise key _)
    ((orderBy_pairwise key l).sublist List.filter_sublist)
  intro a b ha hb hab hba
  have hmem : ∀ x ∈ orderBy key (l.filter p), x ∈ l := fun x hx =>
    List.mem_of_mem_filter (mem_orderBy.mp hx)
  exact inj a (hmem a ha) b (hmem b (hperm.mem_iff.mpr hb)) (le_antisymm hab hba)

theorem take_eq_iff {a b : List α} {n : Nat} (hn : 1 ≤ n) (ha : a.length ≤ n) (hb : b.length ≤ n) :
    (∀ limit, 1 ≤ limit → limit ≤ n → a.take limit = b.take limit) ↔ a = b := by
  constructor
  · intro h
    have hfull := h n hn le_rfl
    rwa [List.take_of_length_le ha, List.take_of_length_le hb] at hfull
  · rintro rfl limit _ _
    rfl

end OrderBy
