import Mathlib

namespace GraphSearch

variable {V : Type}

structure Graph (V : Type) where
  next : V → List V
  nodes : List V
  listed : ∀ v, next v ≠ [] → v ∈ nodes

def Graph.Edge (g : Graph V) (v w : V) : Prop := w ∈ g.next v

inductive Color where
  | fresh
  | opened
  | closed
  deriving DecidableEq

section Measure

-- how many edges leave a node of the list that is still ahead
def edgesAhead (next : V → List V) (ahead : V → Bool) (l : List V) : Nat :=
  (l.map fun v => if ahead v then (next v).length else 0).sum

variable {next : V → List V} {ahead rest : V → Bool} {v : V} {l : List V}

theorem edgesAhead_le (h : ∀ w, rest w = true → ahead w = true) : edgesAhead next rest l ≤ edgesAhead next ahead l := by
  induction l with
  | nil => exact Nat.le_refl _
  | cons w l ih =>
    rw [edgesAhead, edgesAhead, List.map_cons, List.map_cons, List.sum_cons, List.sum_cons]
    refine Nat.add_le_add ?_ ih
    by_cases hw : rest w = true
    · rw [if_pos hw, if_pos (h w hw)]
    · rw [if_neg hw]
      exact Nat.zero_le _

theorem edgesAhead_visit (h : ∀ w, rest w = true → ahead w = true) (hv : ahead v = true) (hdone : rest v = false)
    (hmem : v ∈ l) : edgesAhead next rest l + (next v).length ≤ edgesAhead next ahead l := by
  induction l with
  | nil => exact absurd hmem List.not_mem_nil
  | cons w l ih =>
    rw [edgesAhead, edgesAhead, List.map_cons, List.map_cons, List.sum_cons, List.sum_cons]
    rcases List.mem_cons.mp hmem with rfl | hrest
    · have htail := @edgesAhead_le _ next _ _ l h
      rw [edgesAhead, edgesAhead] at htail
      rw [if_pos hv, hdone]
      simp only [Bool.false_eq_true, if_false]
      omega
    · have htail := ih hrest
      rw [edgesAhead, edgesAhead] at htail
      have hhead : (if rest w then (next w).length else 0) ≤ if ahead w then (next w).length else 0 := by
        by_cases hw : rest w = true
        · rw [if_pos hw, if_pos (h w hw)]
        · rw [if_neg hw]
          exact Nat.zero_le _
      omega

theorem Graph.edgesAhead_visit (g : Graph V) (h : ∀ w, rest w = true → ahead w = true) (hv : ahead v = true)
    (hdone : rest v = false) :
    edgesAhead g.next rest g.nodes + (g.next v).length ≤ edgesAhead g.next ahead g.nodes := by
  by_cases hnil : g.next v = []
  · rw [hnil]
    exact edgesAhead_le h
  · exact GraphSearch.edgesAhead_visit h hv hdone (g.listed v hnil)

end Measure

section Frames

variable (g : Graph V)

def frameWeight (frame : V × Bool) : Nat := if frame.2 then 1 else 2

def stackWeight (stack : List (V × Bool)) : Nat := (stack.map frameWeight).sum

-- a frame is a node with whether it is being left
def entered (colors : V → Color) (v : V) : List (V × Bool) :=
  ((g.next v).filter fun w => decide (colors w ≠ .closed)).reverse.map fun w => (w, false)

theorem stackWeight_entered (colors : V → Color) (v : V) :
    stackWeight (entered g colors v) ≤ 2 * (g.next v).length := by
  have hweight : (entered g colors v).map frameWeight = List.replicate (entered g colors v).length 2 := by
    rw [List.eq_replicate_iff, List.length_map]
    refine ⟨rfl, fun n hn => ?_⟩
    obtain ⟨frame, hframe, rfl⟩ := List.mem_map.mp hn
    obtain ⟨w, -, rfl⟩ := List.mem_map.mp hframe
    rfl
  have hlength : (entered g colors v).length ≤ (g.next v).length := by
    rw [entered, List.length_map, List.length_reverse]
    exact List.length_filter_le _ _
  rw [stackWeight, hweight, List.sum_replicate]
  change (entered g colors v).length * 2 ≤ 2 * (g.next v).length
  omega

end Frames

section Stacks

variable {g : Graph V} {stack : List (V × Bool)} {colors : V → Color} {v w : V}

-- the nearest node below that is still open
def opener : List (V × Bool) → Option V
  | [] => none
  | (v, true) :: _ => some v
  | (_, false) :: stack => opener stack

-- each frame is for a neighbour of the open node below it
def Traced (g : Graph V) : List (V × Bool) → Prop
  | [] => True
  | frame :: stack => (∀ u ∈ opener stack, g.Edge u frame.1) ∧ Traced g stack

theorem Traced.reaches {frame : V × Bool} (h : Traced g (frame :: stack)) (hv : (v, true) ∈ stack) :
    Relation.TransGen g.Edge v frame.1 := by
  induction stack generalizing frame with
  | nil => exact absurd hv List.not_mem_nil
  | cons top stack ih =>
    obtain ⟨hopener, hrest⟩ := h
    obtain ⟨u, leaving⟩ := top
    cases leaving with
    | true =>
      have hedge : g.Edge u frame.1 := hopener u rfl
      rcases List.mem_cons.mp hv with heq | hv
      · obtain ⟨rfl, -⟩ := Prod.mk.inj heq
        exact .single hedge
      · exact (ih hrest hv).tail hedge
    | false =>
      rcases List.mem_cons.mp hv with heq | hv
      · exact absurd (Prod.mk.inj heq).2 Bool.noConfusion
      · exact ih ⟨hopener, hrest.2⟩ hv

theorem opener_entered (l : List V) : opener (l.map (fun w => (w, false)) ++ (v, true) :: stack) = some v := by
  induction l with
  | nil => rfl
  | cons w l ih => exact ih

theorem traced_entered {l : List V} (h : ∀ w ∈ l, g.Edge v w) (ht : Traced g ((v, true) :: stack)) :
    Traced g (l.map (fun w => (w, false)) ++ (v, true) :: stack) := by
  induction l with
  | nil => exact ht
  | cons w l ih =>
    refine ⟨fun u hu => ?_, ih fun u hu => h u (List.mem_cons_of_mem w hu)⟩
    have hopener : u ∈ some v := @opener_entered _ stack v l ▸ hu
    rw [← Option.mem_some_iff.mp hopener]
    exact h w List.mem_cons_self

theorem mem_entered : (w, true) ∈ entered g colors v ++ stack ↔ (w, true) ∈ stack := by
  simp [entered]

-- the open nodes are those that are still to be left
structure Balanced (g : Graph V) (stack : List (V × Bool)) (colors : V → Color) : Prop where
  traced : Traced g stack
  opened : ∀ v, colors v = .opened ↔ (v, true) ∈ stack
  once : (stack.filter Prod.snd).Nodup

theorem Balanced.skip (h : Balanced g ((v, false) :: stack) colors) : Balanced g stack colors := by
  refine ⟨h.traced.2, fun w => ?_, h.once⟩
  rw [h.opened, List.mem_cons]
  exact or_iff_right fun heq => absurd (Prod.mk.inj heq).2.symm Bool.noConfusion

theorem Balanced.start (h : Balanced g [] colors) (v : V) : Balanced g [(v, false)] colors := by
  refine ⟨⟨fun u hu => absurd hu (Option.not_mem_none u), trivial⟩, fun w => ?_, List.nodup_nil⟩
  rw [h.opened]
  simp

-- no infinite path starts at a node
def Grounded (g : Graph V) (v : V) : Prop := Acc (fun w u => g.Edge u w) v

theorem Grounded.no_cycle (h : Grounded g v) : ¬Relation.TransGen g.Edge v v := by
  induction h with
  | intro u _ ih =>
    intro hcycle
    obtain ⟨w, hedge, hback⟩ := Relation.TransGen.head'_iff.mp hcycle
    exact ih w hedge (Relation.TransGen.tail' hback hedge)

-- what a closed node leads to is closed, and what an open one leads to is closed or above it on the stack
structure Settled (g : Graph V) (stack : List (V × Bool)) (colors : V → Color) : Prop where
  grounded : ∀ v, colors v = .closed → Grounded g v
  pending : ∀ above v below, stack = above ++ (v, true) :: below →
    ∀ w, g.Edge v w → colors w = .closed ∨ ∃ leaving, (w, leaving) ∈ above

theorem Settled.skip (h : Settled g ((v, false) :: stack) colors) (hv : colors v = .closed) : Settled g stack colors := by
  refine ⟨h.grounded, fun above u below hstack w hw => ?_⟩
  rcases h.pending ((v, false) :: above) u below (by rw [hstack]; rfl) w hw with hclosed | ⟨leaving, hmem⟩
  · exact .inl hclosed
  · rcases List.mem_cons.mp hmem with heq | hmem
    · obtain ⟨rfl, -⟩ := Prod.mk.inj heq
      exact .inl hv
    · exact .inr ⟨leaving, hmem⟩

theorem Settled.start (h : Settled g [] colors) (v : V) : Settled g [(v, false)] colors := by
  refine ⟨h.grounded, fun above u below hstack => ?_⟩
  have hmem : (u, true) ∈ [(v, false)] := by
    rw [hstack]
    exact List.mem_append_right above List.mem_cons_self
  exact absurd (Prod.mk.inj (List.mem_singleton.mp hmem)).2.symm Bool.noConfusion

-- where the node just opened, or one below it, stands on the stack
theorem split_entered {l above below : List (V × Bool)} {u : V} (hl : (u, true) ∉ l)
    (h : l ++ (v, true) :: stack = above ++ (u, true) :: below) :
    above = l ∧ u = v ∨ ∃ higher, above = l ++ (v, true) :: higher ∧ stack = higher ++ (u, true) :: below := by
  rcases List.append_eq_append_iff.mp h with ⟨between, habove, hbelow⟩ | ⟨between, habove, hbelow⟩
  · cases between with
    | nil =>
      rw [List.append_nil] at habove
      exact .inl ⟨habove, (Prod.mk.inj (List.cons.inj hbelow).1).1.symm⟩
    | cons frame between =>
      obtain ⟨rfl, hstack⟩ := List.cons.inj hbelow
      exact .inr ⟨between, habove, hstack⟩
  · cases between with
    | nil =>
      rw [List.append_nil] at habove
      exact .inl ⟨habove.symm, (Prod.mk.inj (List.cons.inj hbelow).1).1⟩
    | cons frame between =>
      obtain ⟨rfl, -⟩ := List.cons.inj hbelow
      exact absurd (by rw [habove]; exact List.mem_append_right above List.mem_cons_self) hl

def unvisited (_ : V) : Color := .fresh

theorem balanced_unvisited : Balanced g [] unvisited :=
  ⟨trivial, fun _ => ⟨fun h => Color.noConfusion h, fun h => absurd h List.not_mem_nil⟩, List.nodup_nil⟩

theorem settled_unvisited : Settled g [] unvisited :=
  ⟨fun _ h => Color.noConfusion h, fun _ _ _ h => absurd h.symm (by simp)⟩

end Stacks

section Searching

variable [DecidableEq V] (g : Graph V)

-- The head of a list is the top of the stack, so the last neighbour is searched first.
def stacked (v : V) : List V := (g.next v).reverse

def collect (pending : List V) (found : Finset V) : Finset V :=
  match pending with
  | [] => found
  | v :: pending =>
    if v ∈ found then collect pending found
    else collect (stacked g v ++ pending) (insert v found)
termination_by pending.length + edgesAhead g.next (fun w => decide (w ∉ found)) g.nodes
decreasing_by
  · simp only [List.length_cons]
    omega
  · rename_i hnew
    have hvisit : edgesAhead g.next (fun w => decide (w ∉ insert v found)) g.nodes + (g.next v).length ≤
        edgesAhead g.next (fun w => decide (w ∉ found)) g.nodes :=
      g.edgesAhead_visit (by simp) (by simpa using hnew) (by simp)
    simp only [List.length_cons, List.length_append, stacked, List.length_reverse]
    omega

theorem fresh_of_update {colors : V → Color} {v w : V} {c : Color} (hc : c ≠ .fresh)
    (h : decide (Function.update colors v c w = .fresh) = true) : decide (colors w = .fresh) = true := by
  rw [decide_eq_true_eq] at h ⊢
  by_cases hw : w = v
  · rw [hw, Function.update_self] at h
    exact absurd h hc
  · rwa [Function.update_of_ne hw] at h

def descend (stack : List (V × Bool)) (colors : V → Color) : Option (V → Color) :=
  match stack with
  | [] => some colors
  | (v, true) :: stack => descend stack (Function.update colors v .closed)
  | (v, false) :: stack =>
    match hv : colors v with
    | .opened => none
    | .closed => descend stack colors
    | .fresh =>
      if (g.next v).any (fun w => decide (Function.update colors v .opened w = .opened)) then none
      else
        descend (entered g (Function.update colors v .opened) v ++ (v, true) :: stack) (Function.update colors v .opened)
termination_by stackWeight stack + 2 * edgesAhead g.next (fun w => decide (colors w = .fresh)) g.nodes
decreasing_by
  · have hle : edgesAhead g.next (fun w => decide (Function.update colors v .closed w = .fresh)) g.nodes ≤
        edgesAhead g.next (fun w => decide (colors w = .fresh)) g.nodes :=
      edgesAhead_le fun w => fresh_of_update (fun h => Color.noConfusion h)
    simp only [stackWeight, List.map_cons, List.sum_cons, frameWeight, if_true]
    omega
  · simp only [stackWeight, List.map_cons, List.sum_cons, frameWeight, Bool.false_eq_true, if_false]
    omega
  · have hvisit : edgesAhead g.next (fun w => decide (Function.update colors v .opened w = .fresh)) g.nodes +
        (g.next v).length ≤ edgesAhead g.next (fun w => decide (colors w = .fresh)) g.nodes :=
      g.edgesAhead_visit (fun w => fresh_of_update (fun h => Color.noConfusion h)) (by simp [hv]) (by simp)
    have hentered := stackWeight_entered g (Function.update colors v .opened) v
    simp only [stackWeight, List.map_append, List.map_cons, List.sum_append, List.sum_cons, frameWeight, if_true,
      Bool.false_eq_true, if_false] at hentered ⊢
    omega

def sweep (starts : List V) (colors : V → Color) : Option (V → Color) :=
  match starts with
  | [] => some colors
  | start :: starts =>
    if colors start = .closed then sweep starts colors
    else (descend g [(start, false)] colors).bind (sweep starts)

end Searching

section Closure

variable [DecidableEq V] {g : Graph V} {pending : List V} {found : Finset V} {s v w : V}

theorem subset_collect (g : Graph V) (pending : List V) (found : Finset V) :
    (∀ v ∈ found, v ∈ collect g pending found) ∧ ∀ v ∈ pending, v ∈ collect g pending found := by
  fun_induction collect g pending found with
  | case1 found => exact ⟨fun v hv => hv, fun v hv => absurd hv List.not_mem_nil⟩
  | case2 found u pending hu ih =>
    refine ⟨ih.1, fun v hv => ?_⟩
    rcases List.mem_cons.mp hv with rfl | hv
    · exact ih.1 v hu
    · exact ih.2 v hv
  | case3 found u pending hu ih =>
    refine ⟨fun v hv => ih.1 v (Finset.mem_insert_of_mem hv), fun v hv => ?_⟩
    rcases List.mem_cons.mp hv with rfl | hv
    · exact ih.1 v (Finset.mem_insert_self v found)
    · exact ih.2 v (List.mem_append_right _ hv)

theorem collect_sound {P : V → Prop} (hstep : ∀ v w, P v → g.Edge v w → P w) (hfound : ∀ v ∈ found, P v)
    (hpending : ∀ v ∈ pending, P v) : ∀ v ∈ collect g pending found, P v := by
  fun_induction collect g pending found with
  | case1 found => exact hfound
  | case2 found u pending hu ih => exact ih hfound fun v hv => hpending v (List.mem_cons_of_mem u hv)
  | case3 found u pending hu ih =>
    have hu' := hpending u List.mem_cons_self
    refine ih ?_ ?_
    · intro v hv
      rcases Finset.mem_insert.mp hv with rfl | hv
      · exact hu'
      · exact hfound v hv
    · intro v hv
      rcases List.mem_append.mp hv with hv | hv
      · exact hstep u v hu' (List.mem_reverse.mp hv)
      · exact hpending v (List.mem_cons_of_mem u hv)

-- the neighbours of a found node are found or pending
theorem collect_closed (h : ∀ v ∈ found, ∀ w, g.Edge v w → w ∈ found ∨ w ∈ pending) :
    ∀ v ∈ collect g pending found, ∀ w, g.Edge v w → w ∈ collect g pending found := by
  fun_induction collect g pending found with
  | case1 found => exact fun v hv w hw => (h v hv w hw).resolve_right List.not_mem_nil
  | case2 found u pending hu ih =>
    refine ih fun v hv w hw => ?_
    rcases h v hv w hw with hw | hw
    · exact .inl hw
    · rcases List.mem_cons.mp hw with rfl | hw
      · exact .inl hu
      · exact .inr hw
  | case3 found u pending hu ih =>
    refine ih fun v hv w hw => ?_
    rcases Finset.mem_insert.mp hv with rfl | hv
    · exact .inr (List.mem_append_left _ (List.mem_reverse.mpr hw))
    · rcases h v hv w hw with hw | hw
      · exact .inl (Finset.mem_insert_of_mem hw)
      · rcases List.mem_cons.mp hw with rfl | hw
        · exact .inl (Finset.mem_insert_self w found)
        · exact .inr (List.mem_append_right _ hw)

theorem mem_collect : v ∈ collect g [s] ∅ ↔ Relation.ReflTransGen g.Edge s v := by
  constructor
  · refine collect_sound (fun u w hu hw => hu.tail hw) (fun u hu => absurd hu (Finset.notMem_empty u)) ?_ v
    intro u hu
    rw [List.mem_singleton.mp hu]
  · intro h
    induction h with
    | refl => exact (subset_collect g [s] ∅).2 s (List.mem_singleton_self s)
    | tail _ hw ih => exact collect_closed (fun u hu => absurd hu (Finset.notMem_empty u)) _ ih _ hw

end Closure

section Cycles

variable [DecidableEq V] {g : Graph V} {stack rest : List (V × Bool)} {colors final : V → Color} {v w : V}

theorem Balanced.leave (h : Balanced g ((v, true) :: stack) colors) :
    Balanced g stack (Function.update colors v .closed) := by
  have honce := h.once
  rw [List.filter_cons_of_pos rfl, List.nodup_cons] at honce
  have hleft : (v, true) ∉ stack := fun hmem => honce.1 (List.mem_filter.mpr ⟨hmem, rfl⟩)
  refine ⟨h.traced.2, fun w => ?_, honce.2⟩
  by_cases hw : w = v
  · subst hw
    rw [Function.update_self]
    exact ⟨fun hc => Color.noConfusion hc, fun hmem => absurd hmem hleft⟩
  · rw [Function.update_of_ne hw, h.opened, List.mem_cons]
    exact or_iff_right fun heq => hw (Prod.mk.inj heq).1

theorem Balanced.enter (h : Balanced g ((v, false) :: stack) colors) (hv : colors v = .fresh) :
    Balanced g (entered g (Function.update colors v .opened) v ++ (v, true) :: stack)
      (Function.update colors v .opened) := by
  have hrest := h.skip
  have hnew : (v, true) ∉ stack := fun hmem => by
    rw [(hrest.opened v).mpr hmem] at hv
    exact Color.noConfusion hv
  refine ⟨traced_entered (fun w hw => ?_) h.traced, fun w => ?_, ?_⟩
  · exact (List.mem_filter.mp (List.mem_reverse.mp hw)).1
  · rw [mem_entered, List.mem_cons]
    by_cases hw : w = v
    · subst hw
      rw [Function.update_self]
      exact ⟨fun _ => .inl rfl, fun _ => rfl⟩
    · rw [Function.update_of_ne hw, hrest.opened]
      exact (or_iff_right fun heq => hw (Prod.mk.inj heq).1).symm
  · have hnone : (entered g (Function.update colors v .opened) v).filter Prod.snd = [] := by
      rw [List.filter_eq_nil_iff]
      intro frame hframe
      obtain ⟨w, -, rfl⟩ := List.mem_map.mp hframe
      exact Bool.noConfusion
    rw [List.filter_append, hnone, List.nil_append, List.filter_cons_of_pos rfl, List.nodup_cons]
    exact ⟨fun hmem => hnew (List.mem_filter.mp hmem).1, hrest.once⟩

theorem descend_none (h : Balanced g stack colors) (hfail : descend g stack colors = none) :
    ∃ v, Relation.TransGen g.Edge v v := by
  fun_induction descend g stack colors with
  | case1 colors => exact absurd hfail.symm (Option.some_ne_none _).symm
  | case2 colors v stack ih => exact ih h.leave hfail
  | case3 colors v stack hv => exact ⟨v, h.traced.reaches ((h.skip.opened v).mp hv)⟩
  | case4 colors v stack hv ih => exact ih h.skip hfail
  | case5 colors v stack hv hopen =>
    obtain ⟨w, hw, hcolor⟩ := List.any_eq_true.mp hopen
    rw [decide_eq_true_eq, (h.enter hv).opened, mem_entered, List.mem_cons] at hcolor
    refine ⟨w, ?_⟩
    rcases hcolor with heq | hbelow
    · obtain ⟨rfl, -⟩ := Prod.mk.inj heq
      exact .single hw
    · exact (h.traced.reaches hbelow).tail hw
  | case6 colors v stack hv hopen ih => exact ih (h.enter hv) hfail

-- every frame ends closed, and no node stays open
structure Finished (g : Graph V) (stack : List (V × Bool)) (colors final : V → Color) : Prop where
  balanced : Balanced g [] final
  kept : ∀ v, colors v = .closed → final v = .closed
  closed : ∀ frame ∈ stack, final frame.1 = .closed

theorem closed_update {c : Color} (hv : colors v ≠ .closed ∨ c = .closed) (hw : colors w = .closed) :
    Function.update colors v c w = .closed := by
  by_cases heq : w = v
  · subst heq
    rw [Function.update_self]
    exact hv.resolve_left fun hne => hne hw
  · rwa [Function.update_of_ne heq]

theorem descend_some (h : Balanced g stack colors) (hout : descend g stack colors = some final) :
    Finished g stack colors final := by
  fun_induction descend g stack colors with
  | case1 colors =>
    obtain rfl := Option.some.inj hout
    exact ⟨h, fun v hv => hv, fun frame hframe => absurd hframe List.not_mem_nil⟩
  | case2 colors v stack ih =>
    have hdone := ih h.leave hout
    refine ⟨hdone.balanced, fun w hw => hdone.kept w (closed_update (.inr rfl) hw), fun frame hframe => ?_⟩
    rcases List.mem_cons.mp hframe with rfl | hframe
    · exact hdone.kept v (Function.update_self ..)
    · exact hdone.closed frame hframe
  | case3 colors v stack hv => exact absurd hout.symm (Option.some_ne_none _)
  | case4 colors v stack hv ih =>
    have hdone := ih h.skip hout
    refine ⟨hdone.balanced, hdone.kept, fun frame hframe => ?_⟩
    rcases List.mem_cons.mp hframe with rfl | hframe
    · exact hdone.kept v hv
    · exact hdone.closed frame hframe
  | case5 colors v stack hv hopen => exact absurd hout.symm (Option.some_ne_none _)
  | case6 colors v stack hv hopen ih =>
    have hdone := ih (h.enter hv) hout
    have hfresh : colors v ≠ .closed := fun hc => Color.noConfusion (hv.symm.trans hc)
    refine ⟨hdone.balanced, fun w hw => hdone.kept w (closed_update (.inl hfresh) hw), fun frame hframe => ?_⟩
    rcases List.mem_cons.mp hframe with rfl | hframe
    · exact hdone.closed (v, true) (List.mem_append_right _ List.mem_cons_self)
    · exact hdone.closed frame (List.mem_append_right _ (List.mem_cons_of_mem _ hframe))

theorem Settled.leave (h : Settled g ((v, true) :: stack) colors) :
    Settled g stack (Function.update colors v .closed) := by
  have hnext (w : V) (hw : g.Edge v w) : colors w = .closed :=
    (h.pending [] v stack rfl w hw).resolve_right fun hmem => List.not_mem_nil hmem.choose_spec
  refine ⟨fun u hu => ?_, fun above u below hstack w hw => ?_⟩
  · by_cases heq : u = v
    · subst heq
      exact Acc.intro u fun w hw => h.grounded w (hnext w hw)
    · rw [Function.update_of_ne heq] at hu
      exact h.grounded u hu
  · rcases h.pending ((v, true) :: above) u below (by rw [hstack]; rfl) w hw with hclosed | ⟨leaving, hmem⟩
    · exact .inl (closed_update (.inr rfl) hclosed)
    · rcases List.mem_cons.mp hmem with heq | hmem
      · obtain ⟨rfl, -⟩ := Prod.mk.inj heq
        exact .inl (Function.update_self ..)
      · exact .inr ⟨leaving, hmem⟩

theorem Settled.enter (h : Settled g ((v, false) :: stack) colors) (hv : colors v = .fresh) :
    Settled g (entered g (Function.update colors v .opened) v ++ (v, true) :: stack)
      (Function.update colors v .opened) := by
  have hfresh : colors v ≠ .closed := fun hc => Color.noConfusion (hv.symm.trans hc)
  refine ⟨fun u hu => ?_, fun above u below hstack w hw => ?_⟩
  · by_cases heq : u = v
    · subst heq
      rw [Function.update_self] at hu
      exact Color.noConfusion hu
    · rw [Function.update_of_ne heq] at hu
      exact h.grounded u hu
  · have hentered : (u, true) ∉ entered g (Function.update colors v .opened) v := fun hmem => by
      simpa using mem_entered.mp (List.mem_append_left ([] : List (V × Bool)) hmem)
    obtain ⟨rfl, rfl⟩ | ⟨higher, rfl, hbelow⟩ := split_entered hentered hstack
    · by_cases hclosed : Function.update colors u .opened w = .closed
      · exact .inl hclosed
      · exact .inr ⟨false, List.mem_map.mpr ⟨w, List.mem_reverse.mpr
          (List.mem_filter.mpr ⟨hw, decide_eq_true hclosed⟩), rfl⟩⟩
    · rcases h.pending ((v, false) :: higher) u below (by rw [hbelow]; rfl) w hw with hclosed | ⟨leaving, hmem⟩
      · exact .inl (closed_update (.inl hfresh) hclosed)
      · refine .inr ?_
        rcases List.mem_cons.mp hmem with heq | hmem
        · obtain ⟨rfl, -⟩ := Prod.mk.inj heq
          exact ⟨true, List.mem_append_right _ List.mem_cons_self⟩
        · exact ⟨leaving, List.mem_append_right _ (List.mem_cons_of_mem _ hmem)⟩

theorem descend_settled (h : Settled g stack colors) (hout : descend g stack colors = some final) :
    Settled g [] final := by
  fun_induction descend g stack colors with
  | case1 colors => exact Option.some.inj hout ▸ h
  | case2 colors v stack ih => exact ih h.leave hout
  | case3 colors v stack hv => exact absurd hout.symm (Option.some_ne_none _)
  | case4 colors v stack hv ih => exact ih (h.skip hv) hout
  | case5 colors v stack hv hopen => exact absurd hout.symm (Option.some_ne_none _)
  | case6 colors v stack hv hopen ih => exact ih (h.enter hv) hout

variable {starts : List V}

theorem sweep_none (h : Balanced g [] colors) (hfail : sweep g starts colors = none) :
    ∃ v, Relation.TransGen g.Edge v v := by
  induction starts generalizing colors with
  | nil => exact absurd hfail.symm (Option.some_ne_none _).symm
  | cons start starts ih =>
    rw [sweep] at hfail
    by_cases hclosed : colors start = .closed
    · rw [if_pos hclosed] at hfail
      exact ih h hfail
    · rw [if_neg hclosed] at hfail
      cases hdescend : descend g [(start, false)] colors with
      | none => exact descend_none (h.start start) hdescend
      | some reached =>
        rw [hdescend, Option.bind_some] at hfail
        exact ih (descend_some (h.start start) hdescend).balanced hfail

theorem sweep_some (h : Balanced g [] colors) (hs : Settled g [] colors) (hout : sweep g starts colors = some final) :
    Settled g [] final ∧ (∀ v, colors v = .closed → final v = .closed) ∧ ∀ v ∈ starts, final v = .closed := by
  induction starts generalizing colors with
  | nil =>
    obtain rfl := Option.some.inj hout
    exact ⟨hs, fun v hv => hv, fun v hv => absurd hv List.not_mem_nil⟩
  | cons start starts ih =>
    rw [sweep] at hout
    by_cases hclosed : colors start = .closed
    · rw [if_pos hclosed] at hout
      obtain ⟨hsettled, hkept, hstarts⟩ := ih h hs hout
      refine ⟨hsettled, hkept, fun v hv => ?_⟩
      rcases List.mem_cons.mp hv with rfl | hv
      · exact hkept v hclosed
      · exact hstarts v hv
    · rw [if_neg hclosed] at hout
      obtain ⟨reached, hdescend, hrest⟩ := Option.bind_eq_some_iff.mp hout
      have hdone := descend_some (h.start start) hdescend
      obtain ⟨hsettled, hkept, hstarts⟩ := ih hdone.balanced (descend_settled (hs.start start) hdescend) hrest
      refine ⟨hsettled, fun v hv => hkept v (hdone.kept v hv), fun v hv => ?_⟩
      rcases List.mem_cons.mp hv with rfl | hv
      · exact hkept v (hdone.closed (v, false) (List.mem_singleton_self _))
      · exact hstarts v hv

-- each node with a neighbour is a start
theorem sweep_eq_none (hstarts : ∀ v, g.next v ≠ [] → v ∈ starts) :
    sweep g starts unvisited = none ↔ ∃ v, Relation.TransGen g.Edge v v := by
  refine ⟨sweep_none balanced_unvisited, fun hcycle => ?_⟩
  obtain ⟨v, hcycle⟩ := hcycle
  cases hout : sweep g starts unvisited with
  | none => rfl
  | some final =>
    obtain ⟨hsettled, -, hclosed⟩ := sweep_some balanced_unvisited settled_unvisited hout
    obtain ⟨w, hedge, -⟩ := Relation.TransGen.head'_iff.mp hcycle
    exact absurd hcycle (hsettled.grounded v (hclosed v (hstarts v (List.ne_nil_of_mem hedge)))).no_cycle

end Cycles

end GraphSearch
