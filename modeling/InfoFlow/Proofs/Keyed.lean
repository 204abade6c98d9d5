import Mathlib.Data.List.Forall2
import InfoFlow.Keyed
/-!
# Rows and tables that are read

A row of unchecked items is read item by item, and the first item that cannot be read ends the
reading. A table that is made by puts has each of its keys once; reading its values leaves each
value under its key.
-/

namespace InfoFlow

/-! ## Rows -/

section Rows

variable {α β ε : Type} {f : α → Except ε β}

theorem except_bind_eq_ok {x : Except ε α} {b : β} :
    x >>= f = .ok b ↔ ∃ a, x = .ok a ∧ f a = .ok b := by
  cases x with
  | error e => exact iff_of_false nofun nofun
  | ok a =>
    constructor
    · exact fun h => ⟨a, rfl, h⟩
    · rintro ⟨_, ha, h⟩
      rw [← Except.ok.inj ha] at h
      exact h

theorem except_bind_eq_error {x : Except ε α} {e : ε} :
    x >>= f = .error e ↔ x = .error e ∨ ∃ a, x = .ok a ∧ f a = .error e := by
  cases x with
  | error e' =>
    constructor
    · exact fun h => .inl (congrArg Except.error (Except.error.inj h))
    · rintro (h | ⟨_, ha, _⟩)
      · exact congrArg Except.error (Except.error.inj h)
      · exact nomatch ha
  | ok a =>
    constructor
    · exact fun h => .inr ⟨a, rfl, h⟩
    · rintro (h | ⟨_, ha, h⟩)
      · exact nomatch h
      · rw [← Except.ok.inj ha] at h
        exact h

theorem except_pure_eq_ok {a b : α} : (pure a : Except ε α) = .ok b ↔ a = b :=
  iff_of_eq (Except.ok.injEq a b)

/-- A row is read exactly if each of its items is. -/
theorem mapM_eq_ok_iff {l : List α} {r : List β} :
    l.mapM f = .ok r ↔ List.Forall₂ (fun a b => f a = .ok b) l r := by
  induction l generalizing r with
  | nil =>
    rw [List.mapM_nil, List.forall₂_nil_left_iff, except_pure_eq_ok, eq_comm]
  | cons a l ih =>
    rw [List.mapM_cons, List.forall₂_cons_left_iff]
    simp only [except_bind_eq_ok, except_pure_eq_ok, ih]
    constructor
    · rintro ⟨b, hb, r, hr, rfl⟩
      exact ⟨b, r, hb, hr, rfl⟩
    · rintro ⟨b, r, hb, hr, rfl⟩
      exact ⟨b, hb, r, hr, rfl⟩

theorem mem_of_mapM_eq_ok {l : List α} {r : List β} (h : l.mapM f = .ok r) (b : β) :
    b ∈ r ↔ ∃ a ∈ l, f a = .ok b := by
  have hread := mapM_eq_ok_iff.1 h
  clear h
  induction hread with
  | nil => simp only [List.not_mem_nil, false_and, exists_false]
  | cons ha _ ih =>
    simp only [List.mem_cons, exists_eq_or_imp, ih, ha, Except.ok.injEq, eq_comm (a := b)]

theorem exists_mapM_eq_ok {l : List α} :
    (∃ r, l.mapM f = .ok r) ↔ ∀ a ∈ l, ∃ b, f a = .ok b := by
  induction l with
  | nil => exact iff_of_true ⟨[], List.mapM_nil⟩ nofun
  | cons a l ih =>
    rw [List.forall_mem_cons, ← ih]
    simp only [List.mapM_cons, except_bind_eq_ok, except_pure_eq_ok]
    constructor
    · rintro ⟨_, b, hb, r, hr, rfl⟩
      exact ⟨⟨b, hb⟩, r, hr⟩
    · rintro ⟨⟨b, hb⟩, r, hr⟩
      exact ⟨b :: r, b, hb, r, hr, rfl⟩

theorem forM_eq_ok {f : α → Except ε Unit} {l : List α} (h : l.forM f = .ok ())
    {x : α} (hx : x ∈ l) : f x = .ok () := by
  induction l with
  | nil => exact nomatch hx
  | cons y l ih =>
    obtain ⟨⟨⟩, hy, hl⟩ := except_bind_eq_ok.1 h
    rcases List.mem_cons.1 hx with rfl | hx
    · exact hy
    · exact ih hl hx

end Rows

/-! ## Tables -/

namespace Keyed

variable {κ α β ε : Type} {f : α → Except ε β}

/-- Entry by entry, the key stays and the value is read. -/
theorem forall₂_of_mapM_eq_ok {t : Keyed κ α} {u : Keyed κ β}
    (h : t.mapM (fun e => do return (e.1, ← f e.2)) = .ok u) :
    List.Forall₂ (fun e e' => e'.1 = e.1 ∧ f e.2 = .ok e'.2) t u := by
  apply (mapM_eq_ok_iff.1 h).imp
  intro e e' he
  simp only [except_bind_eq_ok, except_pure_eq_ok] at he
  obtain ⟨b, hb, rfl⟩ := he
  exact ⟨rfl, hb⟩

theorem keys_of_mapM_eq_ok {t : Keyed κ α} {u : Keyed κ β}
    (h : t.mapM (fun e => do return (e.1, ← f e.2)) = .ok u) : u.keys = t.keys := by
  have hread := forall₂_of_mapM_eq_ok h
  clear h
  induction hread with
  | nil => rfl
  | @cons e e' t u he _ ih =>
    show e'.1 :: keys u = e.1 :: keys t
    rw [he.1, ih]

variable [DecidableEq κ]

theorem nodup_keys_put {t : Keyed κ α} (h : t.keys.Nodup) (key : κ) (value : α) :
    (t.put key value).keys.Nodup := by
  rw [keys_put]
  by_cases hkey : key ∈ t.keys
  · rw [if_pos hkey]
    exact h
  · rw [if_neg hkey]
    exact (List.perm_append_singleton key t.keys).nodup_iff.2 (List.nodup_cons.2 ⟨hkey, h⟩)

/-- A table that is made by puts has each of its keys once. -/
theorem nodup_keys_ofList (entries : List (κ × α)) : (ofList entries).keys.Nodup := by
  have hall (t : Keyed κ α) (ht : t.keys.Nodup) :
      (entries.foldl (fun t e => put t e.1 e.2) t).keys.Nodup := by
    induction entries generalizing t with
    | nil => exact ht
    | cons e entries ih => exact ih _ (nodup_keys_put ht e.1 e.2)
  exact hall [] .nil

/-- A new key goes to the end. -/
theorem put_of_not_mem {t : Keyed κ α} {key : κ} (h : key ∉ t.keys) (value : α) :
    t.put key value = t ++ [(key, value)] := by
  induction t with
  | nil => rfl
  | cons e t ih =>
    obtain ⟨k, v⟩ := e
    have hkey : k ≠ key := fun hk => h (hk ▸ List.mem_cons_self)
    rw [put, if_neg hkey, ih fun ht => h (List.mem_cons_of_mem k ht)]
    rfl

/-- A row with each of its keys once is the table that it gives. -/
theorem ofList_of_nodup {entries : List (κ × α)} (h : (keys entries).Nodup) :
    ofList entries = entries := by
  have hall (t : Keyed κ α) (ht : (keys (t ++ entries)).Nodup) :
      entries.foldl (fun t e => put t e.1 e.2) t = t ++ entries := by
    clear h
    induction entries generalizing t with
    | nil => rw [List.append_nil, List.foldl_nil]
    | cons e entries ih =>
      obtain ⟨k, v⟩ := e
      have hnew : k ∉ t.keys := by
        intro hk
        rw [keys, List.map_append] at ht
        exact (List.nodup_append.1 ht).2.2 k hk k List.mem_cons_self rfl
      rw [List.foldl_cons, put_of_not_mem hnew, ih, List.append_assoc]
      · rfl
      · rw [List.append_assoc]
        exact ht
  exact hall [] h

theorem get?_eq_some_iff {t : Keyed κ α} (h : t.keys.Nodup) {key : κ} {value : α} :
    t.get? key = some value ↔ (key, value) ∈ t := by
  induction t with
  | nil => exact iff_of_false nofun List.not_mem_nil
  | cons e t ih =>
    obtain ⟨k, v⟩ := e
    obtain ⟨hk, ht⟩ := List.nodup_cons.1 h
    rw [get?, List.mem_cons, Prod.mk.injEq]
    by_cases hkey : k = key
    · subst hkey
      -- the key of the first entry is the key of no other
      have hother : (k, value) ∉ t := fun hmem => hk (List.mem_map.2 ⟨_, hmem, rfl⟩)
      simp only [if_true, Option.some.injEq, true_and, hother, or_false, eq_comm]
    · simp only [if_neg hkey, Ne.symm hkey, false_and, false_or, ih ht]

theorem mem_of_get?_eq_some {t : Keyed κ α} {key : κ} {value : α} (h : t.get? key = some value) :
    (key, value) ∈ t := by
  induction t with
  | nil => exact nomatch h
  | cons e t ih =>
    obtain ⟨k, v⟩ := e
    rw [get?] at h
    by_cases hkey : k = key
    · rw [if_pos hkey] at h
      rw [← hkey, ← Option.some.inj h]
      exact List.mem_cons_self
    · rw [if_neg hkey] at h
      exact List.mem_cons_of_mem _ (ih h)

theorem get?_map (g : α → β) (t : Keyed κ α) (key : κ) :
    get? (t.map fun e => (e.1, g e.2)) key = (t.get? key).map g := by
  induction t with
  | nil => rfl
  | cons e t ih =>
    obtain ⟨k, a⟩ := e
    by_cases hkey : k = key
    · rw [List.map_cons, get?, get?, if_pos hkey, if_pos hkey]
      rfl
    · rw [List.map_cons, get?, get?, if_neg hkey, if_neg hkey, ih]

/-- The order of the entries does not matter to a look-up. -/
theorem get?_of_perm {t u : Keyed κ α} (ht : t.keys.Nodup) (h : u.Perm t) (key : κ) :
    u.get? key = t.get? key := by
  have hu : u.keys.Nodup := (h.map Prod.fst).nodup_iff.2 ht
  apply Option.ext
  intro value
  rw [get?_eq_some_iff hu, get?_eq_some_iff ht, h.mem_iff]

/-- A look-up in a part of a table sees an entry if it is in that part. -/
theorem get?_filter {t : Keyed κ α} (h : t.keys.Nodup) (p : κ × α → Bool) (key : κ) :
    get? (t.filter p) key = (t.get? key).filter fun value => p (key, value) := by
  have hfilter : (keys (t.filter p)).Nodup := h.sublist (List.filter_sublist.map Prod.fst)
  apply Option.ext
  intro value
  rw [get?_eq_some_iff hfilter, List.mem_filter, Option.filter_eq_some_iff, get?_eq_some_iff h]

/-- Of two tables, the one on top is looked at first. -/
theorem get?_overlay (base : Keyed κ α) {top : Keyed κ α} (h : top.keys.Nodup) (key : κ) :
    (base.overlay top).get? key = (top.get? key).or (base.get? key) := by
  induction top generalizing base with
  | nil => rfl
  | cons e top ih =>
    obtain ⟨k, v⟩ := e
    obtain ⟨hk, htop⟩ := List.nodup_cons.1 h
    have hput : (base.overlay ((k, v) :: top)).get? key =
        (get? top key).or ((base.put k v).get? key) := ih (base.put k v) htop
    rw [hput, get?_put, get?]
    by_cases hkey : k = key
    · subst hkey
      -- what is put on top under a key is put there once
      have hnone : get? top k = none := by
        rw [Option.eq_none_iff_forall_ne_some]
        intro value hvalue
        exact hk (List.mem_map.2 ⟨_, (get?_eq_some_iff htop).1 hvalue, rfl⟩)
      rw [hnone, if_pos rfl, if_pos rfl]
      rfl
    · rw [if_neg hkey, if_neg hkey]

/-- Reading the values of a table leaves each under its key. -/
theorem get?_of_mapM_eq_ok {t : Keyed κ α} {u : Keyed κ β}
    (h : t.mapM (fun e => do return (e.1, ← f e.2)) = .ok u) (key : κ) :
    Option.Rel (fun a b => f a = .ok b) (t.get? key) (u.get? key) := by
  have hread := forall₂_of_mapM_eq_ok h
  clear h
  induction hread with
  | nil => exact .none
  | @cons e e' t u he _ ih =>
    obtain ⟨k, a⟩ := e
    obtain ⟨k', b⟩ := e'
    obtain ⟨rfl, ha⟩ := he
    by_cases hkey : k' = key
    · rw [get?, get?, if_pos hkey, if_pos hkey]
      exact .some ha
    · rw [get?, get?, if_neg hkey, if_neg hkey]
      exact ih

end Keyed

end InfoFlow
