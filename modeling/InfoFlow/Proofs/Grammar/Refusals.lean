import InfoFlow.Proofs.Grammar.Acceptance
import InfoFlow.Proofs.Grammar.Cutting
import InfoFlow.Proofs.Grammar.Making
import Mathlib.Data.List.Duplicate
/-!
# Which policies are refused

A text is refused for a character that is out of place, for one of its tokens or their end, or for a
name that two of its statements have, and always at a place that lies in it. The lemmas on tokens
follow the parsers in the order of their definitions. The fuel of the descent is never what is
missing: from one parenthesis or joining word to the next there are three steps, and each of these
takes a token away.
-/

namespace InfoFlow

open Grammar

/-- What is wrong with the tokens is wrong at a token: it is the one that is found in place of
another, or the one whose text the cause speaks of. -/
inductive SyntaxCause.Blames : SyntaxCause → Token → Prop where
  | text {w : String} {t : Token} : Blames (.expectedText w t) t
  | quantifier {t : Token} : Blames (.expectedQuantifier t) t
  | marker {t : Token} : Blames (.expectedMarker t) t
  | relation {t : Token} : Blames (.expectedRelation t) t
  | through {t : Token} (h : t.text = "through") : Blames .throughNeedsData t
  | sameMarkers {m : Marker} {t : Token} (h : t.text = m.text) : Blames (.sameMarkers m) t
  /-- An end that is not bound is a quantifier and a marker, and the quantifier is blamed. -/
  | unboundSubject {q : Quantifier} {t : Token} (h : t.text = Choice.word q) :
    Blames .unboundSubject t
  | unboundMarker {m : Marker} {t : Token} (h : t.text = m.text) : Blames (.unboundMarker m) t

namespace Tokens

/-- An error blames one of some tokens, or their end, and is reported where it stands. -/
def Blamed (ts : Tokens) (e : SyntaxError) : Prop :=
  ∃ t, (t ∈ ts.rest ∨ t = ts.finish) ∧ e.cause.Blames t ∧ e.position = t.position

/-- The next token, or the end. -/
def head (ts : Tokens) : Token := ts.rest.headD ts.finish

variable {ts us : Tokens} {ws : List String} {w : String} {e : SyntaxError}

theorem blamed_head (h : e.cause.Blames ts.head) (hplace : e.position = ts.head.position) :
    ts.Blamed e := by
  refine ⟨ts.head, ?_, h, hplace⟩
  unfold head
  cases ts.rest with
  | nil => exact .inr rfl
  | cons t rest => exact .inl List.mem_cons_self

theorem Spells.blamed (h : ts.Spells ws us) (hus : us.Blamed e) : ts.Blamed e := by
  obtain ⟨front, -, rfl⟩ := h
  obtain ⟨t, ht, hblames⟩ := hus
  exact ⟨t, ht.imp_left (List.mem_append_right front), hblames⟩

theorem Spells.head_text (h : ts.Spells (w :: ws) us) : ts.head.text = w := by
  obtain ⟨front, hfront, rfl⟩ := h
  obtain ⟨t, front, rfl, ht, -⟩ := List.map_eq_cons_iff.1 hfront
  exact ht

end Tokens

namespace Parser

open Tokens

variable {α β : Type} {p : Parser α} {ts us : Tokens} {ws : List String} {w : String}
  {e : SyntaxError} {f : Premise} {n : Nat}

/-! ## Steps -/

theorem bind_eq_error {q : α → Parser β} :
    (p >>= q) ts = .error e ↔
      p ts = .error e ∨ ∃ a us, p ts = .ok (a, us) ∧ q a us = .error e := by
  cases hp : p ts with
  | error e' =>
    rw [bind_of_error hp]
    constructor
    · exact fun h => .inl (congrArg _ (Except.error.inj h))
    · rintro (h | ⟨_, _, h, -⟩)
      · exact congrArg _ (Except.error.inj h)
      · exact nomatch h
  | ok x =>
    obtain ⟨a, us⟩ := x
    rw [bind_of_ok hp]
    constructor
    · exact fun h => .inr ⟨a, us, rfl, h⟩
    · rintro (h | ⟨_, _, heq, h⟩)
      · exact nomatch h
      · obtain ⟨rfl, rfl⟩ := Prod.mk.inj (Except.ok.inj heq)
        exact h

@[simp] theorem pure_eq_error {a : α} : (pure a : Parser α) ts = .error e ↔ False :=
  iff_of_false nofun id

@[simp] theorem peek_eq_error : peek ts = .error e ↔ False := iff_of_false nofun id

theorem fail_eq_error {cause : SyntaxCause} {at' : Position} :
    (fail cause at' : Parser α) ts = .error e ↔ e = ⟨cause, at'⟩ := by
  change Except.error _ = _ ↔ _
  rw [Except.error.injEq, eq_comm]

theorem failHere_eq_error {cause : Token → SyntaxCause} :
    (failHere cause : Parser α) ts = .error e ↔ e = ⟨cause ts.head, ts.head.position⟩ := by
  change (fail (cause ts.head) ts.head.position : Parser α) ts = _ ↔ _
  exact fail_eq_error

theorem ite_accept_eq_error {q : Parser α} :
    (accept ws >>= fun b => if b = true then p else q) ts = .error e ↔
      (∃ ms, ts.Spells ws ms ∧ p ms = .error e) ∨
        (∀ ms, ¬ts.Spells ws ms) ∧ q ts = .error e := by
  by_cases h : ∃ ms, ts.Spells ws ms
  · obtain ⟨ms, hms⟩ := h
    rw [bind_of_ok (accept_of_spells hms), if_pos rfl]
    constructor
    · exact fun hp => .inl ⟨ms, hms, hp⟩
    · rintro (⟨ms', hms', hp⟩ | ⟨hnone, -⟩)
      · obtain ⟨-, rfl⟩ := hms'.eq hms rfl
        exact hp
      · exact absurd hms (hnone ms)
  · have hnone : ∀ ms, ¬ts.Spells ws ms := fun ms hms => h ⟨ms, hms⟩
    rw [bind_of_ok (accept_of_not_spells hnone), if_neg Bool.false_ne_true]
    constructor
    · exact fun hq => .inr ⟨hnone, hq⟩
    · rintro (⟨ms, hms, -⟩ | ⟨-, hq⟩)
      · exact absurd hms (hnone ms)
      · exact hq

theorem ite_looksAt_eq_error {q : Parser α}
    (h : (looksAt [w] >>= fun b => if b = true then p else q) ts = .error e) :
    ts.head.text = w ∧ p ts = .error e ∨ q ts = .error e := by
  change (if decide _ = true then p else q) ts = _ at h
  by_cases hw : (ts.rest.take [w].length).map Token.text = [w]
  · rw [if_pos (decide_eq_true hw)] at h
    have hspells : ts.Spells [w] _ := spells_iff.2 ⟨hw, rfl⟩
    exact .inl ⟨hspells.head_text, h⟩
  · rw [if_neg (by rw [decide_eq_true_eq]; exact hw)] at h
    exact .inr h

/-- A parser fails only for one of the tokens that it is given, or for their end. -/
def BlamesTokens (p : Parser α) : Prop := ∀ ts e, p ts = .error e → ts.Blamed e

/-- What a parser takes from the tokens is some words in front. -/
def Takes (p : Parser α) : Prop := ∀ ts a us, p ts = .ok (a, us) → ∃ ws, ts.Spells ws us

theorem BlamesTokens.or_of_bind {q : α → Parser β} {P : Prop} (hp : BlamesTokens p)
    (htakes : Takes p) (h : (p >>= q) ts = .error e)
    (hq : ∀ a us, q a us = .error e → us.Blamed e ∨ P) : ts.Blamed e ∨ P := by
  rcases bind_eq_error.1 h with h | ⟨a, us, h1, h⟩
  · exact .inl (hp ts e h)
  · obtain ⟨ws, hspells⟩ := htakes ts a us h1
    exact (hq a us h).imp_left hspells.blamed

theorem BlamesTokens.bind {q : α → Parser β} (hp : BlamesTokens p) (htakes : Takes p)
    (hq : ∀ a, BlamesTokens (q a)) : BlamesTokens (p >>= q) := by
  intro ts e h
  have hor := hp.or_of_bind (P := False) htakes h fun a us h => .inl (hq a us e h)
  exact hor.resolve_right id

theorem blamesTokens_pure (a : α) : BlamesTokens (pure a : Parser α) :=
  fun _ _ h => (pure_eq_error.1 h).elim

theorem BlamesTokens.ite_accept {q : Parser α} (hp : BlamesTokens p) (hq : BlamesTokens q) :
    BlamesTokens (accept ws >>= fun b => if b = true then p else q) := by
  intro ts e h
  rcases ite_accept_eq_error.1 h with ⟨ms, hms, h⟩ | ⟨-, h⟩
  · exact hms.blamed (hp ms e h)
  · exact hq ts e h

theorem Reads.takes {words : α → List String} {ends : α → Option String → Prop}
    (h : Reads p words ends) : Takes p := fun _ a _ ha => ⟨words a, (h.iff.1 ha).1⟩

theorem takes_expect (w : String) : Takes (expect w) := fun _ _ _ h => ⟨_, expect_eq_ok.1 h⟩

theorem takes_marker : Takes marker := fun _ _ _ h => ⟨_, marker_eq_ok.1 h⟩

theorem takes_relation : Takes relation := fun _ _ _ h => ⟨_, relation_eq_ok.1 h⟩

theorem takes_endpoint (f : Premise) : Takes (endpoint f) := fun _ _ _ h => ⟨_, endpoint_eq_ok.1 h⟩

theorem takes_premise : Takes premise := fun _ _ _ h => ⟨_, premise_eq_ok.1 h⟩

theorem blamesTokens_expect (w : String) : BlamesTokens (expect w) := by
  intro ts e h
  by_cases hspells : ∃ ms, ts.Spells [w] ms
  · obtain ⟨ms, hms⟩ := hspells
    rw [(expect_eq_ok (u := ())).2 hms] at h
    exact nomatch h
  · have hrun : expect w ts = failHere (.expectedText w) ts :=
      bind_of_ok (accept_of_not_spells fun ms hms => hspells ⟨ms, hms⟩)
    rw [hrun, failHere_eq_error] at h
    subst h
    exact blamed_head .text rfl

theorem blamesTokens_marker : BlamesTokens marker := by
  intro ts e h
  have hfail : e = ⟨.expectedMarker ts.head, ts.head.position⟩ := by
    change (if h : ts.head.isName = true then skip 1 >>= fun _ => pure (Name.ofToken ts.head h)
      else fail (.expectedMarker ts.head) ts.head.position) ts = _ at h
    split at h
    · cases h
    · exact fail_eq_error.1 h
  subst hfail
  exact blamed_head .marker rfl

/-! ## Premises -/

theorem quantifier?_ne_error : quantifier? ts ≠ .error e := by
  unfold quantifier?
  rw [ne_eq, ite_accept_eq_error, ite_accept_eq_error]
  simp only [pure_eq_error, and_false, exists_false, or_false, not_false_eq_true]

theorem blamesTokens_quantifier : BlamesTokens quantifier := by
  intro ts e h
  unfold quantifier at h
  rcases bind_eq_error.1 h with h | ⟨q, us, hq, h⟩
  · exact absurd h quantifier?_ne_error
  · cases q with
    | some q => exact nomatch h
    | none =>
      obtain ⟨rfl, -⟩ := quantifier?_eq_none.1 hq
      obtain rfl := failHere_eq_error.1 h
      exact blamed_head .quantifier rfl

theorem blamesTokens_relation : BlamesTokens relation := by
  intro ts e h
  unfold relation at h
  rw [ite_accept_eq_error, ite_accept_eq_error] at h
  simp only [pure_eq_error, and_false, exists_false, false_or, failHere_eq_error] at h
  obtain ⟨-, -, rfl⟩ := h
  exact blamed_head .relation rfl

theorem blamesTokens_premise : BlamesTokens premise := by
  intro ts e h
  unfold premise at h
  rcases bind_eq_error.1 h with h | ⟨q, t1, h1, h⟩
  · exact blamesTokens_quantifier ts e h
  refine (quantifier_eq_ok.1 h1).blamed ?_
  rcases bind_eq_error.1 h with h | ⟨t, t2, hpeek, h⟩
  · exact (peek_eq_error.1 h).elim
  obtain ⟨rfl, rfl⟩ := peek_eq_ok.1 hpeek
  rcases bind_eq_error.1 h with h | ⟨a, t3, h3, h⟩
  · exact blamesTokens_marker _ e h
  have hsource := marker_eq_ok.1 h3
  rcases bind_eq_error.1 h with h | ⟨k, t4, h4, h⟩
  · exact hsource.blamed (blamesTokens_relation _ e h)
  rcases bind_eq_error.1 h with h | ⟨r, t5, h5, h⟩
  · exact hsource.blamed ((relation_eq_ok.1 h4).blamed (blamesTokens_quantifier _ e h))
  rcases bind_eq_error.1 h with h | ⟨b, t6, h6, h⟩
  · exact hsource.blamed ((relation_eq_ok.1 h4).blamed
      ((quantifier_eq_ok.1 h5).blamed (blamesTokens_marker _ e h)))
  -- both markers are read, and the source is blamed if they are equal
  split at h
  · obtain rfl := fail_eq_error.1 h
    exact blamed_head (.sameMarkers hsource.head_text) rfl
  · exact (pure_eq_error.1 h).elim

/-! ## Obligations -/

theorem blamesTokens_passage (k : EdgeKind) : BlamesTokens (passage k) := by
  intro ts e h
  unfold passage at h
  rcases ite_looksAt_eq_error h with ⟨hthrough, h⟩ | h
  · by_cases hk : k = .data
    · rw [dif_pos hk] at h
      refine BlamesTokens.bind (blamesTokens_expect _) (takes_expect _) (fun _ => ?_) ts e h
      refine BlamesTokens.bind (blamesTokens_expect _) (takes_expect _) (fun _ => ?_)
      exact BlamesTokens.bind blamesTokens_marker takes_marker fun _ => blamesTokens_pure _
    · rw [dif_neg hk] at h
      obtain rfl := failHere_eq_error.1 h
      exact blamed_head (.through hthrough) rfl
  · exact (pure_eq_error.1 h).elim

theorem blamesTokens_endpoint (f : Premise) : BlamesTokens (endpoint f) := by
  intro ts e h
  unfold endpoint at h
  rcases bind_eq_error.1 h with h | ⟨q, t1, h1, h⟩
  · exact absurd h quantifier?_ne_error
  cases q with
  | some q =>
    refine (quantifier?_eq_some.1 h1).blamed ?_
    exact BlamesTokens.bind blamesTokens_marker takes_marker (fun _ => blamesTokens_pure _) t1 e h
  | none =>
    obtain ⟨rfl, -⟩ := quantifier?_eq_none.1 h1
    rcases bind_eq_error.1 h with h | ⟨t, t2, hpeek, h⟩
    · exact (peek_eq_error.1 h).elim
    obtain ⟨rfl, rfl⟩ := peek_eq_ok.1 hpeek
    rcases bind_eq_error.1 h with h | ⟨m, t3, h3, h⟩
    · exact blamesTokens_marker _ e h
    have hmarker := marker_eq_ok.1 h3
    cases hside : f.side? m with
    | some side =>
      rw [hside] at h
      exact (pure_eq_error.1 h).elim
    | none =>
      rw [hside] at h
      obtain rfl := fail_eq_error.1 h
      exact blamed_head (.unboundMarker hmarker.head_text) rfl

theorem authorization_eq_error {subject : End} {at' : Position}
    (h : authorization subject at' ts = .error e) :
    ts.Blamed e ∨ ∃ q m, subject = .quantified q m ∧ e = ⟨.unboundSubject, at'⟩ := by
  unfold authorization at h
  refine (blamesTokens_expect _).or_of_bind (takes_expect _) h fun _ _ h => ?_
  refine (blamesTokens_expect _).or_of_bind (takes_expect _) h fun _ _ h => ?_
  refine (blamesTokens_expect _).or_of_bind (takes_expect _) h fun _ _ h => ?_
  refine blamesTokens_marker.or_of_bind takes_marker h fun _ _ h => ?_
  cases subject with
  | bare side => exact nomatch h
  | quantified q n => exact .inr ⟨q, n, rfl, fail_eq_error.1 h⟩

theorem blamesTokens_flow (f : Premise) : BlamesTokens (flow f) := by
  intro ts e h
  unfold flow at h
  rcases bind_eq_error.1 h with h | ⟨t, t1, hpeek, h⟩
  · exact (peek_eq_error.1 h).elim
  obtain ⟨rfl, rfl⟩ := peek_eq_ok.1 hpeek
  rcases bind_eq_error.1 h with h | ⟨subject, t2, h2, h⟩
  · exact blamesTokens_endpoint f _ e h
  have hsubject := endpoint_eq_ok.1 h2
  rcases ite_accept_eq_error.1 h with ⟨t3, h3, h⟩ | ⟨-, h⟩
  · rcases authorization_eq_error h with h | ⟨q, m, rfl, rfl⟩
    · exact hsubject.blamed (h3.blamed h)
    · exact blamed_head (.unboundSubject hsubject.head_text) rfl
  · refine hsubject.blamed ?_
    refine BlamesTokens.bind blamesTokens_relation takes_relation (fun k => ?_) t2 e h
    refine BlamesTokens.bind (blamesTokens_endpoint f) (takes_endpoint f) (fun _ => ?_)
    exact BlamesTokens.bind (blamesTokens_passage k) (Reads.takes fun _ _ _ => passage_eq_ok)
      fun _ => blamesTokens_pure _

/-- With fuel for so many steps, some tokens are refused only for one of them or for their end. -/
def BlamesWithin (p : Parser α) (n steps : Nat) : Prop :=
  ∀ ts e, 3 * ts.rest.length + steps ≤ n → p ts = .error e → ts.Blamed e

theorem parts_blamesWithin {γ : Type} {one : α → γ} {more : α → β → γ} {part : Parser α}
    {others : Parser β} {steps : Nat} (hpart : BlamesWithin part n steps) (htakes : Takes part)
    (hothers : BlamesWithin others n (steps + 1)) :
    BlamesWithin (do
      let a ← part
      if ← accept [w] then return more a (← others) else return one a : Parser γ)
      (n + 1) (steps + 1) := by
  intro ts e hle h
  rcases bind_eq_error.1 h with h | ⟨a, t1, h1, h⟩
  · exact hpart ts e (by omega) h
  · obtain ⟨ws, hspells⟩ := htakes ts a t1 h1
    have hfront := hspells.length_le
    rcases ite_accept_eq_error.1 h with ⟨t2, h2, h⟩ | ⟨-, h⟩
    · have hword := h2.length_le
      rw [List.length_singleton] at hword
      rcases bind_eq_error.1 h with h | ⟨_, _, -, h⟩
      · exact hspells.blamed (h2.blamed (hothers t2 e (by omega) h))
      · exact (pure_eq_error.1 h).elim
    · exact (pure_eq_error.1 h).elim

theorem atom_blamesWithin (hinner : BlamesWithin (disjunction f n) n 3)
    (htakes : Takes (disjunction f n)) : BlamesWithin (atom f (n + 1)) (n + 1) 1 := by
  intro ts e hle h
  rw [atom] at h
  rcases ite_accept_eq_error.1 h with ⟨t1, h1, h⟩ | ⟨-, h⟩
  · have hword := h1.length_le
    rw [List.length_singleton] at hword
    refine h1.blamed ?_
    rcases bind_eq_error.1 h with h | ⟨o, t2, h2, h⟩
    · exact hinner t1 e (by omega) h
    · obtain ⟨ws, hspells⟩ := htakes t1 o t2 h2
      refine hspells.blamed ?_
      exact BlamesTokens.bind (blamesTokens_expect _) (takes_expect _)
        (fun _ => blamesTokens_pure _) t2 e h
  · exact blamesTokens_flow f ts e h

theorem blamesWithin_of_fuel (f : Premise) (n : Nat) :
    BlamesWithin (atom f n) n 1 ∧ BlamesWithin (conjunction f n) n 2 ∧
      BlamesWithin (disjunction f n) n 3 := by
  induction n with
  | zero =>
    exact ⟨fun ts e hle _ => by omega, fun ts e hle _ => by omega, fun ts e hle _ => by omega⟩
  | succ n ih =>
    obtain ⟨hatom, hconjunction, hdisjunction⟩ := ih
    obtain ⟨ratom, rconjunction, rdisjunction⟩ := reads_of_fuel f n
    refine ⟨atom_blamesWithin hdisjunction rdisjunction.takes, ?_, ?_⟩
    · rw [conjunction]
      exact parts_blamesWithin hatom ratom.takes hconjunction
    · rw [disjunction]
      exact parts_blamesWithin hconjunction rconjunction.takes hdisjunction

theorem blamesTokens_obligation (f : Premise) : BlamesTokens (obligation f) :=
  fun ts e h => (blamesWithin_of_fuel f _).2.2 ts e (Nat.le_refl _) h

/-! ## Statements -/

theorem blamesTokens_clause? (f : Premise) : BlamesTokens (clause? f) := by
  unfold clause?
  refine BlamesTokens.ite_accept ?_ (blamesTokens_pure _)
  exact BlamesTokens.bind (blamesTokens_obligation f) obligation_eq_ok.takes
    fun _ => blamesTokens_pure _

theorem blamesTokens_body : BlamesTokens body := by
  unfold body
  refine BlamesTokens.ite_accept ?_ ?_
  · refine BlamesTokens.bind blamesTokens_premise takes_premise fun f => ?_
    refine BlamesTokens.bind (blamesTokens_expect _) (takes_expect _) fun _ => ?_
    exact BlamesTokens.bind (blamesTokens_obligation f) obligation_eq_ok.takes
      fun _ => blamesTokens_pure _
  · refine BlamesTokens.bind blamesTokens_premise takes_premise fun f => ?_
    refine BlamesTokens.bind (blamesTokens_passage _) (Reads.takes fun _ _ _ => passage_eq_ok)
      fun _ => ?_
    exact BlamesTokens.bind (blamesTokens_clause? f) clause?_eq_ok.takes
      fun _ => blamesTokens_pure _

theorem name?_ne_error : name? ts ≠ .error e := by
  obtain ⟨rest, stop⟩ := ts
  intro h
  rcases rest with _ | ⟨t, _ | ⟨c, rest⟩⟩
  · cases h
  · cases h
  · simp only [name?] at h
    split at h <;> cases h

theorem blamesTokens_opening : BlamesTokens opening := by
  unfold opening
  refine BlamesTokens.ite_accept ?_ (blamesTokens_pure _)
  exact BlamesTokens.ite_accept (blamesTokens_pure _) (blamesTokens_pure _)

theorem blamesTokens_sentence : BlamesTokens sentence := by
  have hname : BlamesTokens name? := fun ts e h => absurd h name?_ne_error
  have htakes : Takes name? := fun _ _ _ h => ⟨_, spells_of_name? h⟩
  unfold sentence
  refine BlamesTokens.bind hname htakes fun _ => ?_
  refine BlamesTokens.bind blamesTokens_opening opening_eq_ok.takes fun _ => ?_
  refine BlamesTokens.bind blamesTokens_body body_eq_ok.takes fun _ => ?_
  exact BlamesTokens.bind (blamesTokens_expect _) (takes_expect _) fun _ => blamesTokens_pure _

/-- The checks of a statement refuse nothing, so a sentence that cannot be read is all that is
refused. -/
theorem blamesTokens_statement (index : Nat) : BlamesTokens (statement index) := by
  intro ts e h
  unfold statement at h
  rcases bind_eq_error.1 h with h | ⟨t, t1, hpeek, h⟩
  · exact (peek_eq_error.1 h).elim
  obtain ⟨-, rfl⟩ := peek_eq_ok.1 hpeek
  rcases bind_eq_error.1 h with h | ⟨d, t2, h2, h⟩
  · exact blamesTokens_sentence ts e h
  · rw [Sentence.statement_eq] at h
    exact (pure_eq_error.1 h).elim

theorem statements_blamed {fuel index : Nat} (hle : ts.rest.length < fuel)
    (h : statements fuel index ts = .error e) : ts.Blamed e := by
  induction fuel generalizing index ts with
  | zero => omega
  | succ fuel ih =>
    rw [statements] at h
    change (if ts.rest.isEmpty = true then Except.ok ([], ts) else _) = _ at h
    split at h
    · cases h
    · rcases bind_eq_error.1 h with h | ⟨s, t1, h1, h⟩
      · exact blamesTokens_statement index ts e h
      · obtain ⟨d, hspells, -⟩ := statement_eq_ok.1 h1
        have hlength := hspells.length_le
        have hpos := d.length_words_pos
        rcases bind_eq_error.1 h with h | ⟨_, _, -, h⟩
        · exact hspells.blamed (ih (by omega) h)
        · exact (pure_eq_error.1 h).elim

end Parser

/-! ## Policies -/

theorem Tokens.Blamed.liesIn {text : String} {ts : Tokens} {e : SyntaxError}
    (htext : Tokens.ofText text = .ok ts) (h : ts.Blamed e) : e.position.LiesIn text := by
  obtain ⟨t, ht, -, hplace⟩ := h
  rw [hplace]
  rcases ht with ht | rfl
  · obtain ⟨front, rest, hsplit, hstands⟩ := (mem_of_ofText htext).1 ht
    rw [hstands.place]
    exact Position.liesIn_behind hsplit
  · change ts.stop.LiesIn text
    rw [(row_of_ofText htext).2]
    exact Position.liesIn_behind (List.append_nil _).symm

namespace Policy

variable {text : String} {name : Value} {e : SyntaxError}

theorem duplicate_of_firstRepeated? {seen ns : List String} {n : String}
    (h : firstRepeated? seen ns = some n) : n ∈ seen ∧ n ∈ ns ∨ ns.Duplicate n := by
  induction ns generalizing seen with
  | nil => exact nomatch h
  | cons m ns ih =>
    rw [firstRepeated?] at h
    split at h
    · rename_i hm
      obtain rfl := Option.some.inj h
      exact .inl ⟨hm, List.mem_cons_self⟩
    · rcases ih h with ⟨hseen, hns⟩ | hns
      · rcases List.mem_cons.1 hseen with rfl | hseen
        · exact .inr (List.Mem.duplicate_cons_self hns)
        · exact .inl ⟨hseen, List.mem_cons_of_mem m hns⟩
      · exact .inr (hns.duplicate_cons m)

theorem ofStatements_eq_error {ss : List Statement} {cause : Malformed}
    (h : ofStatements name ss = .error cause) :
    ∃ n, (ss.map Statement.name).Duplicate n ∧ cause = .declaredTwice name n := by
  unfold ofStatements at h
  split at h
  · rename_i n hn
    have hduplicate := (duplicate_of_firstRepeated? hn).resolve_left fun h => nomatch h.1
    exact ⟨n, hduplicate, (Except.error.inj h).symm⟩
  · exact nomatch h

theorem ofTokens_eq_error {ts : Tokens} (h : ofTokens name ts = .error e) :
    ts.Blamed e ∨ ∃ ds n, ts.Derives ds ∧ (Sentence.namesFrom 1 ds).Duplicate n ∧
      e = ⟨.malformed (.declaredTwice name n), {}⟩ := by
  unfold ofTokens at h
  change ((Parser.statements (ts.rest.length + 1) 1 ts).map Prod.fst >>= _) = _ at h
  cases hrun : Parser.statements (ts.rest.length + 1) 1 ts with
  | error e' =>
    rw [hrun] at h
    obtain rfl := Except.error.inj h
    exact .inl (Parser.statements_blamed (Nat.lt_succ_self _) hrun)
  | ok x =>
    obtain ⟨ss, us⟩ := x
    rw [hrun] at h
    change (ofStatements name ss).mapError _ = _ at h
    cases hmake : ofStatements name ss with
    | ok p =>
      rw [hmake] at h
      exact nomatch h
    | error cause =>
      rw [hmake] at h
      obtain rfl := Except.error.inj h
      obtain ⟨n, hn, rfl⟩ := ofStatements_eq_error hmake
      obtain ⟨hus, ds, -, hspells, rfl⟩ := Parser.statements_eq_ok.1 hrun
      rw [Sentence.map_name_denotedFrom] at hn
      exact .inr ⟨ds, n, Tokens.derives_iff.2 ⟨us, hus, hspells⟩, hn, rfl⟩

theorem parse_eq_error (h : parse text name = .error e) :
    Tokens.ofText text = .error e ∨ ∃ ts, Tokens.ofText text = .ok ts ∧
      (ts.Blamed e ∨ ∃ ds n, ts.Derives ds ∧ (Sentence.namesFrom 1 ds).Duplicate n ∧
        e = ⟨.malformed (.declaredTwice name n), {}⟩) := by
  unfold parse at h
  cases htext : Tokens.ofText text with
  | error e' =>
    rw [htext] at h
    obtain rfl := Except.error.inj h
    exact .inl rfl
  | ok ts =>
    rw [htext] at h
    exact .inr ⟨ts, rfl, ofTokens_eq_error h⟩

theorem liesIn_of_parse_eq_error (h : parse text name = .error e) : e.position.LiesIn text := by
  rcases parse_eq_error h with hcut | ⟨ts, htext, hblamed | ⟨_, _, _, _, rfl⟩⟩
  · obtain ⟨front, c, rest, hsplit, -, -, rfl⟩ := Tokens.ofText_eq_error hcut
    exact Position.liesIn_behind hsplit
  · exact hblamed.liesIn htext
  · have hstart : (Position.behind []).LiesIn text := Position.liesIn_behind rfl
    exact hstart

/-- A text is accepted, or it is refused at a place that lies in it: for a character that is out of
place, for one of its tokens or their end, or for a name that two of its statements have. Nothing
else that is put together is ever refused: no atom of an obligation, nothing that "and" or "or"
joins, and no statement. -/
theorem parse_safe (text : String) (name : Value) :
    ((∃ p, parse text name = .ok p) ∨
      ∃ e, parse text name = .error e ∧ e.position.LiesIn text ∧
        ((∃ front c rest, text.toList = front ++ c :: rest ∧ Lexer.OutOfPlace front c ∧
            e = ⟨.unexpectedCharacter c, .behind front⟩) ∨
          ∃ ts, Tokens.ofText text = .ok ts ∧
            (ts.Blamed e ∨ ∃ ds n, ts.Derives ds ∧ (Sentence.namesFrom 1 ds).Duplicate n ∧
              e = ⟨.malformed (.declaredTwice name n), {}⟩))) ∧
      (∀ (f : Premise) (a : Atom), a.made f = .ok (.pair (a.formula f))) ∧
      (∀ (f : Premise) (o : Disjunction), o.obligation f = .ok (.pair (o.formula f))) ∧
      ∀ (d : Sentence) (index : Nat),
        d.made index = d.statement index ∧ d.statement index = .ok (d.denoted index) := by
  refine ⟨?_, fun f a => a.made_eq f, fun f o => o.obligation_eq f, fun d index => ?_⟩
  · cases h : parse text name with
    | ok p => exact .inl ⟨p, rfl⟩
    | error e =>
      refine .inr ⟨e, rfl, liesIn_of_parse_eq_error h, (parse_eq_error h).imp_left fun hcut => ?_⟩
      obtain ⟨front, c, rest, hsplit, hout, -, rfl⟩ := Tokens.ofText_eq_error hcut
      exact ⟨front, c, rest, hsplit, hout, rfl⟩
  · rw [d.made_eq, d.statement_eq]
    exact ⟨rfl, rfl⟩

/-- A text with two statements of one name. -/
def repeatedText : String := "gate: some a flows to all b.\n# again\ngate: some b flows to all a."

theorem repeatedText_parse :
    ∃ e, parse repeatedText (.text "doors") = .error e ∧ e.position.LiesIn repeatedText := by
  obtain ⟨⟨p, hp⟩ | ⟨e, he, hplace, -⟩, -⟩ := parse_safe repeatedText (.text "doors")
  · have hnone : (parse repeatedText (.text "doors")).toOption.isNone = true := by decide +kernel
    rw [hp] at hnone
    exact nomatch hnone
  · exact ⟨e, he, hplace⟩

end Policy

end InfoFlow
