import InfoFlow.Graph.Reach
import InfoFlow.Graph.Walk
import Mathlib.Data.List.Basic
import Mathlib.Logic.Relation
/-!
# The searches find the walks

Both searches drop the arrows of a node when they visit it. Nothing is lost by that: a path that
comes back to the node may as well start at its last visit. So a search through the arrows that are
left sees what a search through all of them would, and what the searches answer can be said in
walks: the closure holds the ends of the walks, and the avoiding search finds a walk around the
blocked nodes exactly if there is one.
-/

namespace InfoFlow.Graph

open Relation

/-- From node to node along arrows, never into a blocked node. -/
def Leads (blocked : Node → Bool) (arrows : List (Node × Node)) : Node → Node → Prop :=
  ReflTransGen fun a b => (a, b) ∈ arrows ∧ blocked b = false

variable {blocked : Node → Bool} {arrows : List (Node × Node)}

/-! ## Dropping the arrows of a node -/

theorem mem_without {a b n : Node} :
    (a, b) ∈ arrows.filter (·.1 ≠ n) ↔ (a, b) ∈ arrows ∧ a ≠ n := by
  rw [List.mem_filter, decide_eq_true_eq]

theorem length_without_add_length_heads (arrows : List (Node × Node)) (n : Node) :
    (arrows.filter (·.1 ≠ n)).length + (heads arrows n).length = arrows.length := by
  have h := List.length_eq_length_filter_add (l := arrows) fun e => decide (e.1 = n)
  simp only [heads, List.length_map, ne_eq, decide_not]
  omega

theorem Leads.of_without {n q t : Node} (h : Leads blocked (arrows.filter (·.1 ≠ n)) q t) :
    Leads blocked arrows q t := by
  have hstep (a b : Node) (hab : (a, b) ∈ arrows.filter (·.1 ≠ n) ∧ blocked b = false) :
      (a, b) ∈ arrows ∧ blocked b = false := ⟨(mem_without.1 hab.1).1, hab.2⟩
  exact ReflTransGen.mono hstep q t h

/-- A path either never leaves `n` or goes on, after its last departure from `n`, without it. -/
theorem Leads.cut {q t : Node} (h : Leads blocked arrows q t) (n : Node) :
    q = n ∧ t = n ∨ (q ≠ n ∧ Leads blocked (arrows.filter (·.1 ≠ n)) q t) ∨
      ∃ m ∈ heads arrows n, blocked m = false ∧
        Leads blocked (arrows.filter (·.1 ≠ n)) m t := by
  have refl (x : Node) : Leads blocked (arrows.filter (·.1 ≠ n)) x x := ReflTransGen.refl
  -- by the first arrow of the path; what comes after it is cut already
  induction h using ReflTransGen.head_induction_on with
  | refl =>
    by_cases ht : t = n
    · exact .inl ⟨ht, ht⟩
    · exact .inr (.inl ⟨ht, refl t⟩)
  | @head a c hac _ ih =>
    rcases ih with ⟨rfl, rfl⟩ | ⟨hc, hct⟩ | hlast
    · -- the path steps onto `n` and ends there
      by_cases ha : a = t
      · exact .inl ⟨ha, rfl⟩
      · exact .inr (.inl ⟨ha, ReflTransGen.single ⟨mem_without.2 ⟨hac.1, ha⟩, hac.2⟩⟩)
    · -- the rest avoids `n`, so a departure from `n` here is the last one
      by_cases ha : a = n
      · subst ha
        exact .inr (.inr ⟨c, mem_heads.2 hac.1, hac.2, hct⟩)
      · exact .inr (.inl ⟨ha, ReflTransGen.head ⟨mem_without.2 ⟨hac.1, ha⟩, hac.2⟩ hct⟩)
    · exact .inr (.inr hlast)

/-- Visiting a node replaces it in the queue by the free nodes that its arrows lead to. -/
theorem exists_leads_cons {n t : Node} {queue : List Node} :
    (∃ q ∈ n :: queue, Leads blocked arrows q t) ↔
      t = n ∨ ∃ q ∈ queue ++ (heads arrows n).filter (!blocked ·),
        Leads blocked (arrows.filter (·.1 ≠ n)) q t := by
  constructor
  · rintro ⟨q, hq, hqt⟩
    rcases hqt.cut n with ⟨_, ht⟩ | ⟨hne, hqt⟩ | ⟨m, hm, hfree, hmt⟩
    · exact .inl ht
    · have hq : q ∈ queue := (List.mem_cons.1 hq).resolve_left hne
      exact .inr ⟨q, List.mem_append_left _ hq, hqt⟩
    · refine .inr ⟨m, List.mem_append_right _ (List.mem_filter.2 ⟨hm, ?_⟩), hmt⟩
      rw [hfree]
      rfl
  · rintro (rfl | ⟨q, hq, hqt⟩)
    · exact ⟨t, List.mem_cons_self, ReflTransGen.refl⟩
    · rcases List.mem_append.1 hq with hq | hq
      · exact ⟨q, List.mem_cons_of_mem _ hq, hqt.of_without⟩
      · obtain ⟨hq, hfree⟩ := List.mem_filter.1 hq
        rw [Bool.not_eq_true'] at hfree
        exact ⟨n, List.mem_cons_self, ReflTransGen.head ⟨mem_heads.1 hq, hfree⟩ hqt.of_without⟩

theorem Leads.eq_of_no_arrow {n t : Node} (h : Leads blocked arrows n t)
    (hno : ∀ e ∈ arrows, e.1 ≠ n) : t = n := by
  rcases ReflTransGen.cases_head h with rfl | ⟨c, ⟨hnc, _⟩, _⟩
  · rfl
  · exact absurd rfl (hno _ hnc)

/-! ## The closure -/

/-- The invariant of the closure is that no arrow starts at a node that has been seen. -/
theorem mem_visit {steps : Nat} {queue seen : List Node} {t : Node}
    (hsteps : arrows.length + queue.length ≤ steps) (hseen : ∀ e ∈ arrows, e.1 ∉ seen) :
    t ∈ visit steps arrows queue seen ↔
      t ∈ seen ∨ ∃ q ∈ queue, Leads (fun _ => false) arrows q t := by
  -- every step takes a node off the queue, and what it adds to the queue it drops from the arrows
  induction steps generalizing arrows queue seen with
  | zero =>
    have hq : queue = [] := List.length_eq_zero_iff.1 (by omega)
    simp [visit, hq]
  | succ steps ih =>
    cases queue with
    | nil => simp [visit]
    | cons n queue =>
      rw [List.length_cons] at hsteps
      by_cases hn : n ∈ seen
      · rw [visit, if_pos hn, ih (by omega) hseen]
        have hno : ∀ e ∈ arrows, e.1 ≠ n := fun e he h => hseen e he (h ▸ hn)
        constructor
        · rintro (ht | ⟨q, hq, hqt⟩)
          · exact .inl ht
          · exact .inr ⟨q, List.mem_cons_of_mem _ hq, hqt⟩
        · rintro (ht | ⟨q, hq, hqt⟩)
          · exact .inl ht
          · rcases List.mem_cons.1 hq with rfl | hq
            · -- no arrow is left at a node that has been seen, so the path stays there
              exact .inl (hqt.eq_of_no_arrow hno ▸ hn)
            · exact .inr ⟨q, hq, hqt⟩
      · have hlength := length_without_add_length_heads arrows n
        have hseen' : ∀ e ∈ arrows.filter (·.1 ≠ n), e.1 ∉ n :: seen := by
          rintro ⟨a, b⟩ he
          obtain ⟨he, hne⟩ := mem_without.1 he
          rw [List.mem_cons, not_or]
          exact ⟨hne, hseen _ he⟩
        have hfree : (heads arrows n).filter (fun m => !(fun _ => false) m) = heads arrows n :=
          List.filter_eq_self.2 fun _ _ => rfl
        rw [visit, if_neg hn, ih (by rw [List.length_append]; omega) hseen', exists_leads_cons,
          hfree, List.mem_cons, or_comm (a := t = n), or_assoc]

/-- Paths that end with an arrow are the walks between free nodes. -/
theorem walk_avoiding_iff {g : Graph} {k : EdgeKind} {s t : Node} :
    (∃ ms, Walk g k s ms t ∧ ∀ n ∈ ms, blocked n = false) ↔
      ∃ p, Leads blocked (g.arrows k) s p ∧ (p, t) ∈ g.arrows k := by
  constructor
  · rintro ⟨ms, w, hfree⟩
    induction w with
    | edge h => exact ⟨_, ReflTransGen.refl, mem_arrows.2 h⟩
    | step h _ ih =>
      obtain ⟨p, hmp, hpt⟩ := ih fun n hn => hfree n (List.mem_cons_of_mem _ hn)
      exact ⟨p, ReflTransGen.head ⟨mem_arrows.2 h, hfree _ List.mem_cons_self⟩ hmp, hpt⟩
  · rintro ⟨p, hsp, hpt⟩
    induction hsp using ReflTransGen.head_induction_on with
    | refl => exact ⟨[], .edge (mem_arrows.1 hpt), fun _ hn => absurd hn List.not_mem_nil⟩
    | @head a c hac _ ih =>
      obtain ⟨ms, w, hfree⟩ := ih
      refine ⟨c :: ms, .step (mem_arrows.1 hac.1) w, fun n hn => ?_⟩
      rcases List.mem_cons.1 hn with rfl | hn
      · exact hac.2
      · exact hfree n hn

theorem reaches_iff_leads {g : Graph} {k : EdgeKind} {s t : Node} :
    g.Reaches k s t ↔
      ∃ q ∈ heads (g.arrows k) s, Leads (fun _ => false) (g.arrows k) q t := by
  let r : Node → Node → Prop := fun a b => (a, b) ∈ g.arrows k ∧ (fun _ => false) b = false
  have hwalk : g.Reaches k s t ↔ ∃ p, ReflTransGen r s p ∧ r p t := by
    have h : (∃ ms, Walk g k s ms t ∧ ∀ n ∈ ms, (fun _ => false) n = false) ↔
        ∃ p, Leads (fun _ => false) (g.arrows k) s p ∧ (p, t) ∈ g.arrows k := walk_avoiding_iff
    simp only [implies_true, and_true] at h
    simp only [Reaches, h, r, and_true, Leads]
  have hhead : (∃ q ∈ heads (g.arrows k) s, Leads (fun _ => false) (g.arrows k) q t) ↔
      ∃ q, r s q ∧ ReflTransGen r q t := by
    simp only [mem_heads, r, and_true, Leads]
  -- one arrow more at the end is one arrow more at the front
  rw [hwalk, hhead, ← TransGen.tail'_iff, ← TransGen.head'_iff]

theorem mem_reachedFrom {g : Graph} {ns : List Node} {k : EdgeKind} {t : Node} :
    t ∈ g.reachedFrom ns k ↔ ∃ n ∈ ns, g.Reaches k n t := by
  unfold reachedFrom
  rw [mem_visit (Nat.le_refl _) fun _ _ => List.not_mem_nil]
  simp only [List.not_mem_nil, false_or, List.mem_flatMap, reaches_iff_leads]
  constructor
  · rintro ⟨q, ⟨n, hn, hq⟩, hqt⟩
    exact ⟨n, hn, q, hq, hqt⟩
  · rintro ⟨n, hn, q, hq, hqt⟩
    exact ⟨q, ⟨n, hn, hq⟩, hqt⟩

/-- The closure of a node holds the ends of its walks. -/
theorem mem_reached {g : Graph} {n : Node} {k : EdgeKind} {t : Node} :
    t ∈ g.reached n k ↔ g.Reaches k n t := by
  rw [reached, mem_reachedFrom]
  constructor
  · rintro ⟨m, hm, h⟩
    exact List.mem_singleton.1 hm ▸ h
  · exact fun h => ⟨n, List.mem_singleton_self n, h⟩

theorem mem_influencees {g : Graph} {n : Node} {k : EdgeKind} {t : Node} :
    t ∈ g.influencees n k ↔ g.Reaches k n t := by
  rw [influencees, NodeSet.mem_ofList, mem_reached]

theorem flowsTo_iff_reaches {g : Graph} {s t : Node} {k : EdgeKind} :
    g.flowsTo s t k = true ↔ g.Reaches k s t := by
  rw [flowsTo_iff, mem_influencees]

/-! ## The search around blocked nodes -/

theorem arrives_iff {steps : Nat} {queue : List Node} {t : Node}
    (hsteps : arrows.length + queue.length ≤ steps) :
    arrives blocked t steps arrows queue = true ↔
      ∃ p, (∃ q ∈ queue, Leads blocked arrows q p) ∧ (p, t) ∈ arrows := by
  induction steps generalizing arrows queue with
  | zero =>
    have hq : queue = [] := List.length_eq_zero_iff.1 (by omega)
    simp [arrives, hq]
  | succ steps ih =>
    cases queue with
    | nil => simp [arrives]
    | cons n queue =>
      rw [List.length_cons] at hsteps
      have hlength := length_without_add_length_heads arrows n
      have hfree := List.length_filter_le (!blocked ·) (heads arrows n)
      rw [arrives, Bool.or_eq_true, decide_eq_true_eq, ih (by rw [List.length_append]; omega),
        mem_heads]
      constructor
      · rintro (hnt | ⟨p, hp, hpt⟩)
        · exact ⟨n, ⟨n, List.mem_cons_self, ReflTransGen.refl⟩, hnt⟩
        · exact ⟨p, exists_leads_cons.2 (.inr hp), (mem_without.1 hpt).1⟩
      · rintro ⟨p, hp, hpt⟩
        -- an arrow into the target that starts elsewhere is still there
        by_cases hpn : p = n
        · exact .inl (hpn ▸ hpt)
        · have hp := (exists_leads_cons.1 hp).resolve_left hpn
          exact .inr ⟨p, hp, mem_without.2 ⟨hpt, hpn⟩⟩

/-- The avoiding search succeeds exactly if some walk, its ends included, meets no blocked node. -/
theorem flowsAvoiding_iff {g : Graph} {s t : Node} :
    g.flowsAvoiding s t blocked = true ↔
      ∃ ms, Walk g .data s ms t ∧ ∀ n ∈ s :: (ms ++ [t]), blocked n = false := by
  have hsearch : arrives blocked t ((g.arrows .data).length + 1) (g.arrows .data) [s] = true ↔
      ∃ ms, Walk g .data s ms t ∧ ∀ n ∈ ms, blocked n = false := by
    rw [arrives_iff (show _ + [s].length ≤ _ + 1 from Nat.le_refl _), walk_avoiding_iff]
    simp only [List.mem_singleton, exists_eq_left]
  unfold flowsAvoiding
  simp only [Bool.and_eq_true, Bool.not_eq_true', hsearch, List.mem_cons, List.mem_append,
    List.not_mem_nil, or_false, forall_eq_or_imp]
  constructor
  · rintro ⟨⟨hs, ht⟩, ms, w, hms⟩
    refine ⟨ms, w, hs, fun n hn => ?_⟩
    rcases hn with hn | rfl
    · exact hms n hn
    · exact ht
  · rintro ⟨ms, w, hs, hms⟩
    exact ⟨⟨hs, hms t (.inr rfl)⟩, ms, w, fun n hn => hms n (.inl hn)⟩

end InfoFlow.Graph
