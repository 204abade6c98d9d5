import InfoFlow.Proofs.Grammar.Reading
/-!
# Reading names, premises and ends

The phrases that no recursion is needed for. Names and keywords never get into each other's way: a
token whose text is a word that is not a keyword is a name, whatever else is asked of it.
-/

namespace InfoFlow

open Grammar

/-! ## Names -/

theorem not_isWordStart_of_isMark {c : Char} (h : isMark c = true) : isWordStart c = false := by
  simp only [isMark, Bool.or_eq_true, decide_eq_true_eq] at h
  rcases h with (((rfl | rfl) | rfl) | rfl) | rfl <;> decide

/-- The text of a token tells that it is a word. -/
theorem TokenKind.eq_word {k : TokenKind} {cs : List Char} (h : k.admits cs = true)
    (hword : word.admits cs = true) : k = word := by
  cases cs with
  | nil => exact nomatch hword
  | cons c cs =>
    cases k with
    | word => rfl
    | finish => exact nomatch h
    | mark =>
      cases cs with
      | cons d ds => exact nomatch h
      | nil =>
        rw [admits_word_cons, Bool.and_eq_true] at hword
        rw [not_isWordStart_of_isMark h] at hword
        exact absurd hword.1 Bool.false_ne_true

namespace Grammar.Name

theorem eq_of_text {n m : Name} (h : n.text = m.text) : n = m := by
  obtain ⟨text, _, _⟩ := n
  obtain ⟨text', _, _⟩ := m
  obtain rfl : text = text' := h
  rfl

theorem isName_of_text {t : Token} {n : Name} (h : t.text = n.text) : t.isName = true := by
  have hword : t.kind = .word := TokenKind.eq_word t.formed (by rw [h]; exact n.formed)
  rw [Token.isName, Bool.and_eq_true, decide_eq_true_eq, Bool.not_eq_true', h]
  exact ⟨hword, n.free⟩

theorem ofToken_eq {t : Token} {n : Name} {h : t.isName = true} :
    Name.ofToken t h = n ↔ t.text = n.text := by
  constructor
  · rintro rfl
    rfl
  · exact fun htext => eq_of_text htext

theorem text_ne_keyword (n : Name) {w : String} (h : keywords.contains w = true) : n.text ≠ w := by
  rintro rfl
  rw [n.free] at h
  exact Bool.false_ne_true h

theorem text_ne_mark (n : Name) {c : Char} (h : isMark c = true) :
    n.text ≠ String.singleton c := by
  intro htext
  have hformed := n.formed
  rw [htext, String.toList_singleton] at hformed
  rw [TokenKind.admits_word_cons, Bool.and_eq_true] at hformed
  rw [not_isWordStart_of_isMark h] at hformed
  exact Bool.false_ne_true hformed.1

end Grammar.Name

namespace Grammar

theorem Premise.side?_eq_some {f : Premise} {m : Name} {side : Side} :
    f.side? m = some side ↔ m = f.name side := by
  unfold side?
  cases side with
  | source =>
    by_cases h : m = f.source
    · simp [h, name]
    · by_cases k : m = f.destination <;> simp [h, k, name]
  | destination =>
    by_cases h : m = f.source
    · simp [h, name, f.distinct]
    · by_cases k : m = f.destination <;> simp [h, k, name, f.distinct.symm]

/-- What may come after a passage: no checkpoint if it has none. -/
def Passage.EndsBefore {k : EdgeKind} (p : Passage k) (next : Option String) : Prop :=
  p.checkpoint = none → next ≠ some "through"

end Grammar

theorem Tokens.spells_singleton_iff {t : Token} {rest : List Token} {stop : Position}
    {w : String} {us : Tokens} :
    (Tokens.mk (t :: rest) stop).Spells [w] us ↔ t.text = w ∧ us = ⟨rest, stop⟩ := by
  rw [spells_iff]
  change [t.text] = [w] ∧ _ ↔ _
  rw [List.singleton_inj]
  rfl

theorem Tokens.next_ne_of_not_spells {ts : Tokens} {w : String} (h : ∀ us, ¬ts.Spells [w] us) :
    ts.next ≠ some w := fun hnext => by
  obtain ⟨us, hus⟩ := exists_spells_iff.2 hnext
  exact h us hus

theorem Tokens.not_spells_of_next_ne {ts us : Tokens} {w : String} {ws : List String}
    (h : ts.next ≠ some w) : ¬ts.Spells (w :: ws) us := fun hus => h hus.next

namespace Parser

open Tokens

variable {ts us : Tokens}

theorem marker_eq_ok {n : Name} : marker ts = .ok (n, us) ↔ ts.Spells [n.text] us := by
  obtain ⟨rest, stop⟩ := ts
  cases rest with
  | nil =>
    have hnone : (⟨[], stop⟩ : Tokens).next ≠ some n.text := nofun
    exact iff_of_false nofun (not_spells_of_next_ne hnone)
  | cons t rest =>
    rw [spells_singleton_iff]
    by_cases h : t.isName = true
    · have hrun : marker ⟨t :: rest, stop⟩ = .ok (.ofToken t h, ⟨rest, stop⟩) := by
        change (if h : t.isName = true then skip 1 >>= fun _ => pure (Name.ofToken t h)
          else fail (.expectedMarker t) t.position) _ = _
        rw [dif_pos h]
        rfl
      rw [hrun, Except.ok.injEq, Prod.mk.injEq, Name.ofToken_eq, eq_comm (a := us)]
    · have hrun : marker ⟨t :: rest, stop⟩ =
          fail (.expectedMarker t) t.position ⟨t :: rest, stop⟩ := by
        change (if h : t.isName = true then skip 1 >>= fun _ => pure (Name.ofToken t h)
          else fail (.expectedMarker t) t.position) _ = _
        rw [dif_neg h]
      rw [hrun, fail_eq_ok]
      exact iff_of_false id fun hspells => h (Name.isName_of_text hspells.1)

/-! ## Quantifiers and relations -/

theorem quantifier?_eq_some {q : Quantifier} :
    quantifier? ts = .ok (some q, us) ↔ ts.Spells [Choice.word q] us := by
  unfold quantifier?
  rw [ite_accept_eq_ok, ite_accept_eq_ok]
  simp only [pure_eq_ok, Option.some.injEq, reduceCtorEq, false_and, and_false, or_false]
  constructor
  · rintro (⟨ms, hms, rfl, rfl⟩ | ⟨-, ms, hms, rfl, rfl⟩)
    · exact hms
    · exact hms
  · intro h
    cases q with
    | some => exact .inl ⟨us, h, rfl, rfl⟩
    | all =>
      refine .inr ⟨fun ms hms => ?_, us, h, rfl, rfl⟩
      have hboth := h.next.symm.trans hms.next
      exact absurd hboth (by decide)

theorem quantifier?_eq_none :
    quantifier? ts = .ok (none, us) ↔
      ts = us ∧ ∀ q : Quantifier, ts.next ≠ some (Choice.word q) := by
  unfold quantifier?
  rw [ite_accept_eq_ok, ite_accept_eq_ok]
  simp only [pure_eq_ok, reduceCtorEq, false_and, and_false, exists_false, false_or, true_and]
  constructor
  · rintro ⟨hsome, hall, rfl⟩
    refine ⟨rfl, fun q => ?_⟩
    cases q with
    | some => exact next_ne_of_not_spells hsome
    | all => exact next_ne_of_not_spells hall
  · rintro ⟨rfl, h⟩
    exact ⟨fun ms => not_spells_of_next_ne (h .some), fun ms => not_spells_of_next_ne (h .all), rfl⟩

theorem quantifier_eq_ok {q : Quantifier} :
    quantifier ts = .ok (q, us) ↔ ts.Spells [Choice.word q] us := by
  unfold quantifier
  rw [bind_eq_ok, ← quantifier?_eq_some]
  constructor
  · rintro ⟨q', ms, h, hq⟩
    cases q' with
    | none => exact (failHere_eq_ok.1 hq).elim
    | some q' =>
      obtain ⟨rfl, rfl⟩ := pure_eq_ok.1 hq
      exact h
  · exact fun h => ⟨some q, us, h, pure_eq_ok.2 ⟨rfl, rfl⟩⟩

theorem relation_eq_ok {k : EdgeKind} :
    relation ts = .ok (k, us) ↔ ts.Spells k.relationWords us := by
  unfold relation
  rw [ite_accept_eq_ok, ite_accept_eq_ok]
  simp only [pure_eq_ok, failHere_eq_ok, and_false, or_false]
  constructor
  · rintro (⟨ms, hms, rfl, rfl⟩ | ⟨-, ms, hms, rfl, rfl⟩)
    · exact hms
    · exact hms
  · intro h
    cases k with
    | data => exact .inl ⟨us, h, rfl, rfl⟩
    | control =>
      refine .inr ⟨fun ms hms => ?_, us, h, rfl, rfl⟩
      have hboth := h.next.symm.trans hms.next
      exact absurd hboth (by decide)

/-! ## Premises -/

theorem premise_eq_ok {f : Premise} : premise ts = .ok (f, us) ↔ ts.Spells f.words us := by
  unfold premise Premise.words
  simp only [spells_append, spells_cons_cons, bind_eq_ok, peek_eq_ok, quantifier_eq_ok,
    marker_eq_ok, relation_eq_ok]
  constructor
  · rintro ⟨q, t1, h1, t, _, ⟨-, rfl⟩, a, t2, h2, k, t3, h3, r, t4, h4, b, t5, h5, hlast⟩
    by_cases hab : a = b
    · rw [dif_pos hab] at hlast
      exact (fail_eq_ok.1 hlast).elim
    · rw [dif_neg hab] at hlast
      obtain ⟨rfl, rfl⟩ := pure_eq_ok.1 hlast
      exact ⟨t2, ⟨t1, h1, h2⟩, t3, h3, t4, h4, h5⟩
  · rintro ⟨t2, ⟨t1, h1, h2⟩, t3, h3, t4, h4, h5⟩
    refine ⟨_, t1, h1, _, _, ⟨rfl, rfl⟩, _, t2, h2, _, t3, h3, _, t4, h4, _, us, h5, ?_⟩
    rw [dif_neg f.distinct]
    exact pure_eq_ok.2 ⟨rfl, rfl⟩

/-! ## Passages and ends -/

theorem passage_eq_ok {k : EdgeKind} {p : Passage k} :
    passage k ts = .ok (p, us) ↔ ts.Spells p.words us ∧ p.EndsBefore us.next := by
  unfold passage
  rw [ite_looksAt_eq_ok]
  constructor
  · rintro (⟨-, h⟩ | ⟨hnone, h⟩)
    · by_cases hk : k = .data
      · rw [dif_pos hk] at h
        simp only [bind_eq_ok, expect_eq_ok, marker_eq_ok, pure_eq_ok] at h
        obtain ⟨-, t1, h1, -, t2, h2, m, t3, h3, rfl, rfl⟩ := h
        refine ⟨?_, nofun⟩
        simp only [Passage.words, spells_cons_cons]
        exact ⟨t1, h1, t2, h2, h3⟩
      · rw [dif_neg hk] at h
        exact (failHere_eq_ok.1 h).elim
    · obtain ⟨rfl, rfl⟩ := pure_eq_ok.1 h
      exact ⟨spells_nil.2 rfl, fun _ => next_ne_of_not_spells hnone⟩
  · obtain ⟨checkpoint, data⟩ := p
    cases checkpoint with
    | none =>
      rintro ⟨h, hnext⟩
      obtain rfl := spells_nil.1 h
      exact .inr ⟨fun ms => not_spells_of_next_ne (hnext rfl), pure_eq_ok.2 ⟨rfl, rfl⟩⟩
    | some m =>
      rintro ⟨h, -⟩
      refine .inl ⟨exists_spells_iff.2 h.next, ?_⟩
      simp only [Passage.words, spells_cons_cons] at h
      obtain ⟨t1, h1, t2, h2, h3⟩ := h
      rw [dif_pos (data rfl)]
      simp only [bind_eq_ok, expect_eq_ok, marker_eq_ok, pure_eq_ok]
      exact ⟨(), t1, h1, (), t2, h2, m, us, h3, rfl, rfl⟩

theorem endpoint_eq_ok {f : Premise} {e : End} :
    endpoint f ts = .ok (e, us) ↔ ts.Spells (e.words f) us := by
  unfold endpoint
  rw [bind_eq_ok]
  constructor
  · rintro ⟨q, t1, h1, h⟩
    cases q with
    | some q =>
      simp only [bind_eq_ok, marker_eq_ok, pure_eq_ok] at h
      obtain ⟨m, t2, h2, rfl, rfl⟩ := h
      exact spells_cons_cons.2 ⟨t1, quantifier?_eq_some.1 h1, h2⟩
    | none =>
      obtain ⟨rfl, -⟩ := quantifier?_eq_none.1 h1
      -- no quantifier comes next, so the marker has to be one that the premise binds
      simp only [bind_eq_ok, peek_eq_ok, marker_eq_ok] at h
      obtain ⟨t, _, ⟨-, rfl⟩, m, t2, h2, h⟩ := h
      cases hside : f.side? m with
      | none =>
        rw [hside] at h
        exact (fail_eq_ok.1 h).elim
      | some side =>
        rw [hside] at h
        obtain ⟨rfl, rfl⟩ := pure_eq_ok.1 h
        obtain rfl := Premise.side?_eq_some.1 hside
        exact h2
  · intro h
    cases e with
    | quantified q m =>
      obtain ⟨t1, h1, h2⟩ := spells_cons_cons.1 h
      refine ⟨some q, t1, quantifier?_eq_some.2 h1, ?_⟩
      simp only [bind_eq_ok, marker_eq_ok, pure_eq_ok]
      exact ⟨m, us, h2, rfl, rfl⟩
    | bare side =>
      -- the words of quantifiers are keywords, and a name is none
      have hnone (q : Quantifier) : ts.next ≠ some (Choice.word q) := by
        rw [h.next]
        intro htext
        apply (f.name side).text_ne_keyword _ (Option.some.inj htext)
        cases q <;> decide
      refine ⟨none, ts, quantifier?_eq_none.2 ⟨rfl, hnone⟩, ?_⟩
      simp only [bind_eq_ok, peek_eq_ok, marker_eq_ok]
      refine ⟨_, _, ⟨rfl, rfl⟩, f.name side, us, h, ?_⟩
      rw [Premise.side?_eq_some.2 rfl]
      exact pure_eq_ok.2 ⟨rfl, rfl⟩

end Parser

end InfoFlow
