import InfoFlow.Grammar.Parser
/-!
# Reading words

A parser succeeds exactly if the tokens begin with the words of its result and go on as that result
lets them. The lemmas here say so of the steps that all parsers are made of; the parsers of the
grammar are put together from them in the order of their definitions.
-/

namespace InfoFlow

/-! ## Words in front -/

/-- The tokens begin with some words, and other tokens are left after them. -/
def Tokens.Spells (ts : Tokens) (ws : List String) (us : Tokens) : Prop :=
  ∃ front, front.map Token.text = ws ∧ ts = ⟨front ++ us.rest, us.stop⟩

/-- The text of the next token, if one is left. -/
def Tokens.next (ts : Tokens) : Option String := ts.rest.head?.map Token.text

namespace Tokens

variable {ts us ms : Tokens} {ws vs : List String} {w v : String}

@[simp] theorem spells_nil : ts.Spells [] us ↔ ts = us := by
  constructor
  · rintro ⟨front, hfront, rfl⟩
    rw [List.map_eq_nil_iff.1 hfront]
    rfl
  · rintro rfl
    exact ⟨[], rfl, rfl⟩

theorem spells_append :
    ts.Spells (ws ++ vs) us ↔ ∃ ms, ts.Spells ws ms ∧ ms.Spells vs us := by
  constructor
  · rintro ⟨front, hfront, rfl⟩
    obtain ⟨xs, ys, rfl, hxs, hys⟩ := List.map_eq_append_iff.1 hfront
    refine ⟨⟨ys ++ us.rest, us.stop⟩, ⟨xs, hxs, ?_⟩, ⟨ys, hys, rfl⟩⟩
    rw [List.append_assoc]
  · rintro ⟨ms, ⟨xs, hxs, rfl⟩, ⟨ys, hys, rfl⟩⟩
    refine ⟨xs ++ ys, ?_, ?_⟩
    · rw [List.map_append, hxs, hys]
    · rw [List.append_assoc]

theorem spells_cons : ts.Spells (w :: ws) us ↔ ∃ ms, ts.Spells [w] ms ∧ ms.Spells ws us := by
  rw [← spells_append]
  rfl

/-- Splits a word off a row that is longer than one, so that rewriting comes to an end. -/
theorem spells_cons_cons :
    ts.Spells (w :: v :: ws) us ↔ ∃ ms, ts.Spells [w] ms ∧ ms.Spells (v :: ws) us := spells_cons

theorem spells_iff :
    ts.Spells ws us ↔ (ts.rest.take ws.length).map Token.text = ws ∧
      us = { ts with rest := ts.rest.drop ws.length } := by
  constructor
  · rintro ⟨front, rfl, rfl⟩
    rw [List.length_map, List.take_left, List.drop_left]
    exact ⟨rfl, rfl⟩
  · rintro ⟨hfront, rfl⟩
    refine ⟨_, hfront, ?_⟩
    rw [List.take_append_drop]

/-- What is left is determined by how many words are taken. -/
theorem Spells.eq (h : ts.Spells ws us) (k : ts.Spells vs ms) (hlength : ws.length = vs.length) :
    ws = vs ∧ us = ms := by
  obtain ⟨hws, hus⟩ := spells_iff.1 h
  obtain ⟨hvs, hms⟩ := spells_iff.1 k
  rw [hlength] at hws hus
  exact ⟨hws.symm.trans hvs, hus.trans hms.symm⟩

theorem Spells.next (h : ts.Spells (w :: ws) us) : ts.next = some w := by
  obtain ⟨front, hfront, rfl⟩ := h
  obtain ⟨t, front, rfl, ht, -⟩ := List.map_eq_cons_iff.1 hfront
  unfold Tokens.next
  rw [List.cons_append, List.head?_cons, Option.map_some, ht]

theorem exists_spells_iff : (∃ us, ts.Spells [w] us) ↔ ts.next = some w := by
  constructor
  · exact fun ⟨_, h⟩ => h.next
  · intro h
    obtain ⟨rest, stop⟩ := ts
    cases rest with
    | nil => exact nomatch h
    | cons t rest => exact ⟨⟨rest, stop⟩, [t], by rw [← Option.some.inj h]; rfl, rfl⟩

theorem Spells.length_le (h : ts.Spells ws us) :
    ws.length + us.rest.length = ts.rest.length := by
  obtain ⟨front, rfl, rfl⟩ := h
  rw [List.length_map, List.length_append]

end Tokens

namespace Parser

open Grammar Tokens

variable {α β : Type} {p : Parser α} {ts us ms : Tokens} {ws : List String} {w : String}

/-- A parser succeeds exactly if the tokens begin with the words of its result and the next token
lets the result end there. -/
def Reads (p : Parser α) (words : α → List String) (ends : α → Option String → Prop) : Prop :=
  ∀ ts us a, p ts = .ok (a, us) ↔ ts.Spells (words a) us ∧ ends a us.next

theorem Reads.iff {words : α → List String} {ends : α → Option String → Prop}
    (h : Reads p words ends) {a : α} :
    p ts = .ok (a, us) ↔ ts.Spells (words a) us ∧ ends a us.next := h ts us a

/-! ## Composition -/

theorem bind_eq_ok {q : α → Parser β} {b : β} :
    (p >>= q) ts = .ok (b, us) ↔ ∃ a ms, p ts = .ok (a, ms) ∧ q a ms = .ok (b, us) := by
  change (p ts >>= fun x => q x.1 x.2) = _ ↔ _
  cases p ts with
  | error e => exact ⟨nofun, fun ⟨_, _, h, _⟩ => nomatch h⟩
  | ok x =>
    obtain ⟨a, ms⟩ := x
    constructor
    · exact fun h => ⟨a, ms, rfl, h⟩
    · rintro ⟨a', ms', h, hq⟩
      obtain ⟨rfl, rfl⟩ := Prod.mk.inj (Except.ok.inj h)
      exact hq

theorem bind_of_ok {q : α → Parser β} {a : α} (h : p ts = .ok (a, us)) :
    (p >>= q) ts = q a us := by
  change (p ts >>= fun x => q x.1 x.2) = _
  rw [h]
  rfl

theorem bind_of_error {q : α → Parser β} {e : SyntaxError} (h : p ts = .error e) :
    (p >>= q) ts = .error e := by
  change (p ts >>= fun x => q x.1 x.2) = _
  rw [h]
  rfl

theorem pure_eq_ok {a b : α} : (pure a : Parser α) ts = .ok (b, us) ↔ a = b ∧ ts = us := by
  change Except.ok (a, ts) = _ ↔ _
  rw [Except.ok.injEq, Prod.mk.injEq]

@[simp] theorem fail_eq_ok {cause : SyntaxCause} {at' : Position} {a : α} :
    (fail cause at' : Parser α) ts = .ok (a, us) ↔ False := iff_of_false nofun id

@[simp] theorem failHere_eq_ok {cause : Token → SyntaxCause} {a : α} :
    (failHere cause : Parser α) ts = .ok (a, us) ↔ False := iff_of_false nofun id

theorem peek_eq_ok {t : Token} :
    peek ts = .ok (t, us) ↔ ts.rest.headD ts.finish = t ∧ ts = us := by
  rw [peek, Except.ok.injEq, Prod.mk.injEq]

/-! ## Fixed words -/

theorem accept_of_spells (h : ts.Spells ws us) : accept ws ts = .ok (true, us) := by
  obtain ⟨hws, rfl⟩ := spells_iff.1 h
  change (if decide _ = true then (skip ws.length >>= fun _ => pure true) else pure false) ts = _
  rw [if_pos (decide_eq_true hws)]
  rfl

theorem accept_of_not_spells (h : ∀ us, ¬ts.Spells ws us) : accept ws ts = .ok (false, ts) := by
  have hws : (ts.rest.take ws.length).map Token.text ≠ ws :=
    fun hws => h _ (spells_iff.2 ⟨hws, rfl⟩)
  change (if decide _ = true then (skip ws.length >>= fun _ => pure true) else pure false) ts = _
  rw [if_neg (by rw [decide_eq_true_eq]; exact hws)]
  rfl

/-- Goes on in one of two ways, as some words come next or not. -/
theorem ite_accept_eq_ok {q : Parser α} {a : α} :
    (accept ws >>= fun b => if b = true then p else q) ts = .ok (a, us) ↔
      (∃ ms, ts.Spells ws ms ∧ p ms = .ok (a, us)) ∨
        (∀ ms, ¬ts.Spells ws ms) ∧ q ts = .ok (a, us) := by
  change (accept ws ts >>= fun x => (if x.1 = true then p else q) x.2) = _ ↔ _
  by_cases h : ∃ ms, ts.Spells ws ms
  · obtain ⟨ms, hms⟩ := h
    rw [accept_of_spells hms]
    constructor
    · exact fun hp => .inl ⟨ms, hms, hp⟩
    · rintro (⟨ms', hms', hp⟩ | ⟨hnone, -⟩)
      · obtain ⟨-, rfl⟩ := hms'.eq hms rfl
        exact hp
      · exact absurd hms (hnone ms)
  · have hnone : ∀ ms, ¬ts.Spells ws ms := fun ms hms => h ⟨ms, hms⟩
    rw [accept_of_not_spells hnone]
    constructor
    · exact fun hq => .inr ⟨hnone, hq⟩
    · rintro (⟨ms, hms, -⟩ | ⟨-, hq⟩)
      · exact absurd hms (hnone ms)
      · exact hq

/-- Goes on in one of two ways, and the words that decide are not taken. -/
theorem ite_looksAt_eq_ok {q : Parser α} {a : α} :
    (looksAt ws >>= fun b => if b = true then p else q) ts = .ok (a, us) ↔
      (∃ ms, ts.Spells ws ms) ∧ p ts = .ok (a, us) ∨
        (∀ ms, ¬ts.Spells ws ms) ∧ q ts = .ok (a, us) := by
  have hiff : (∃ ms, ts.Spells ws ms) ↔ (ts.rest.take ws.length).map Token.text = ws := by
    simp only [spells_iff, exists_and_left, exists_eq, and_true]
  change (if decide _ = true then p else q) ts = _ ↔ _
  rw [← not_exists, hiff]
  by_cases h : (ts.rest.take ws.length).map Token.text = ws
  · rw [if_pos (decide_eq_true h)]
    simp only [h, true_and, not_true_eq_false, false_and, or_false]
  · rw [if_neg (by rw [decide_eq_true_eq]; exact h)]
    simp only [h, false_and, not_false_eq_true, true_and, false_or]

theorem expect_eq_ok {u : Unit} : expect w ts = .ok (u, us) ↔ ts.Spells [w] us := by
  by_cases h : ∃ ms, ts.Spells [w] ms
  · obtain ⟨ms, hms⟩ := h
    have hrun : expect w ts = .ok ((), ms) := by
      change (accept [w] ts >>= _) = _
      rw [accept_of_spells hms]
      rfl
    rw [hrun]
    constructor
    · intro heq
      obtain ⟨-, rfl⟩ := Prod.mk.inj (Except.ok.inj heq)
      exact hms
    · intro hus
      rw [(hus.eq hms rfl).2]
  · have hrun : expect w ts = failHere (.expectedText w) ts := by
      change (accept [w] ts >>= _) = _
      rw [accept_of_not_spells fun ms hms => h ⟨ms, hms⟩]
      rfl
    rw [hrun, failHere_eq_ok]
    exact iff_of_false id fun hus => h ⟨us, hus⟩

end Parser

end InfoFlow
