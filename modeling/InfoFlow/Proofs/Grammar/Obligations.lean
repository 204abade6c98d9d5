import InfoFlow.Proofs.Grammar.Phrases
/-!
# Reading obligations

Atoms, conjunctions and disjunctions are read exactly as they are written, whatever fuel the parser
is given beyond the depth of the tree. The induction is on the fuel; each step is a lemma about one
rule of the grammar. Where a tree may end is told by the token after it.
-/

namespace InfoFlow

namespace Grammar

/-! ## Depth -/

mutual

/-- How many steps down the tree of an atom goes. -/
def Atom.depth : Atom → Nat
  | .group inner => inner.depth + 1
  | .flow _ _ _ _ => 1
  | .authorized _ _ => 1

/-- How many steps down the tree of a conjunction goes. -/
def Conjunction.depth : Conjunction → Nat
  | .one a => a.depth + 1
  | .and a others => max a.depth others.depth + 1

/-- How many steps down the tree of an obligation goes. -/
def Disjunction.depth : Disjunction → Nat
  | .one c => c.depth + 1
  | .or c others => max c.depth others.depth + 1

end

theorem Atom.depth_pos (a : Atom) : 0 < a.depth := by
  cases a with
  | group inner => exact Nat.succ_pos _
  | flow subject kind target passage => exact Nat.one_pos
  | authorized side m => exact Nat.one_pos

theorem Conjunction.depth_pos (c : Conjunction) : 0 < c.depth := by
  cases c with
  | one a => exact Nat.succ_pos _
  | and a others => exact Nat.succ_pos _

theorem Disjunction.depth_pos (o : Disjunction) : 0 < o.depth := by
  cases o with
  | one c => exact Nat.succ_pos _
  | or c others => exact Nat.succ_pos _

theorem End.length_words_pos (f : Premise) (e : End) : 0 < (e.words f).length := by
  cases e with
  | quantified q m => exact Nat.succ_pos _
  | bare side => exact Nat.succ_pos _

mutual

/-- Two parentheses make up for the three steps from one atom to an atom inside it. -/
theorem Atom.depth_le (f : Premise) : ∀ a : Atom, a.depth ≤ 3 * (a.words f).length
  | .group inner => by
    have h := inner.depth_le f
    rw [Atom.depth, Atom.words]
    simp only [List.length_cons, List.length_append, List.length_nil]
    omega
  | .flow subject kind target passage => by
    have h := subject.length_words_pos f
    rw [Atom.depth, Atom.words]
    simp only [List.length_append]
    omega
  | .authorized side m => by
    rw [Atom.depth, Atom.words]
    simp only [List.length_cons]
    omega

theorem Conjunction.depth_le (f : Premise) :
    ∀ c : Conjunction, c.depth ≤ 3 * (c.words f).length + 1
  | .one a => by
    have h := a.depth_le f
    rw [Conjunction.depth, Conjunction.words]
    omega
  | .and a others => by
    have h := a.depth_le f
    have k := others.depth_le f
    rw [Conjunction.depth, Conjunction.words]
    simp only [List.length_cons, List.length_append]
    omega

theorem Disjunction.depth_le (f : Premise) :
    ∀ o : Disjunction, o.depth ≤ 3 * (o.words f).length + 2
  | .one c => by
    have h := c.depth_le f
    rw [Disjunction.depth, Disjunction.words]
    omega
  | .or c others => by
    have h := c.depth_le f
    have k := others.depth_le f
    rw [Disjunction.depth, Disjunction.words]
    simp only [List.length_cons, List.length_append]
    omega

end

/-! ## Where a tree ends -/

/-- What may come after an atom. -/
def Atom.EndsBefore (next : Option String) : Atom → Prop
  | .flow _ _ _ passage => passage.EndsBefore next
  | _ => True

/-- What may come after a conjunction. -/
def Conjunction.EndsBefore (next : Option String) : Conjunction → Prop
  | .one a => a.EndsBefore next ∧ next ≠ some Formula.andWord
  | .and _ others => others.EndsBefore next

/-- What may come after an obligation. -/
def Disjunction.EndsBefore (next : Option String) : Disjunction → Prop
  | .one c => c.EndsBefore next ∧ next ≠ some Formula.orWord
  | .or _ others => others.EndsBefore next

theorem Atom.endsBefore_of_ne {next : Option String} (h : next ≠ some "through") :
    ∀ a : Atom, a.EndsBefore next
  | .group _ => trivial
  | .flow _ _ _ _ => fun _ => h
  | .authorized _ _ => trivial

theorem Conjunction.endsBefore_of_ne {next : Option String} (h : next ≠ some "through")
    (hand : next ≠ some Formula.andWord) : ∀ c : Conjunction, c.EndsBefore next
  | .one a => ⟨a.endsBefore_of_ne h, hand⟩
  | .and _ others => others.endsBefore_of_ne h hand

theorem Disjunction.endsBefore_of_ne {next : Option String} (h : next ≠ some "through")
    (hand : next ≠ some Formula.andWord) (hor : next ≠ some Formula.orWord) :
    ∀ o : Disjunction, o.EndsBefore next
  | .one c => ⟨c.endsBefore_of_ne h hand, hor⟩
  | .or _ others => others.endsBefore_of_ne h hand hor

end Grammar

namespace Parser

open Grammar Tokens

/-! ## Flows and authorizations -/

/-- A group starts with a parenthesis, and nothing else does. -/
theorem next_ne_parenthesis {f : Premise} {e : End} {ws : List String} {ts us : Tokens}
    (h : ts.Spells (e.words f ++ ws) us) : ts.next ≠ some "(" := by
  cases e with
  | quantified q m =>
    rw [End.words, List.cons_append] at h
    rw [h.next]
    cases q <;> decide
  | bare side =>
    rw [End.words, List.cons_append] at h
    rw [h.next]
    intro hmark
    exact (f.name side).text_ne_mark (c := '(') rfl (Option.some.inj hmark)

theorem authorization_eq_ok {subject : End} {at' : Position} {ts us : Tokens}
    {a : Atom} :
    authorization subject at' ts = .ok (a, us) ↔
      ∃ side m, subject = .bare side ∧ a = .authorized side m ∧
        ts.Spells ["authorized", "by", "some", m.text] us := by
  unfold authorization
  simp only [bind_eq_ok, expect_eq_ok, marker_eq_ok, spells_cons_cons]
  constructor
  · rintro ⟨-, t1, h1, -, t2, h2, -, t3, h3, m, t4, h4, h⟩
    cases subject with
    | quantified q n => exact (fail_eq_ok.1 h).elim
    | bare side =>
      obtain ⟨rfl, rfl⟩ := pure_eq_ok.1 h
      exact ⟨side, m, rfl, rfl, t1, h1, t2, h2, t3, h3, h4⟩
  · rintro ⟨side, m, rfl, rfl, t1, h1, t2, h2, t3, h3, h4⟩
    exact ⟨(), t1, h1, (), t2, h2, (), t3, h3, m, us, h4, pure_eq_ok.2 ⟨rfl, rfl⟩⟩

theorem flow_eq_ok {f : Premise} {ts us : Tokens} {a : Atom} :
    flow f ts = .ok (a, us) ↔
      (∀ inner, a ≠ .group inner) ∧ ts.Spells (a.words f) us ∧ a.EndsBefore us.next := by
  unfold flow
  simp only [↓ite_accept_eq_ok, bind_eq_ok, peek_eq_ok, endpoint_eq_ok, relation_eq_ok,
    passage_eq_ok, authorization_eq_ok, pure_eq_ok]
  constructor
  · rintro ⟨-, _, ⟨-, rfl⟩, subject, t1, h1,
      ⟨t2, h2, side, m, rfl, rfl, h3⟩ | ⟨-, k, t2, h2, target, t3, h3, p, t4, ⟨h4, hp⟩, rfl, rfl⟩⟩
    · refine ⟨nofun, ?_, trivial⟩
      rw [Atom.words, spells_cons_cons]
      exact ⟨t1, h1, spells_cons_cons.2 ⟨t2, h2, h3⟩⟩
    · refine ⟨nofun, ?_, hp⟩
      simp only [Atom.words, spells_append]
      exact ⟨t1, h1, t2, h2, t3, h3, h4⟩
  · rintro ⟨hgroup, hspells, hends⟩
    -- the word after the subject decides: a relation never starts with "is"
    cases a with
    | group inner => exact absurd rfl (hgroup inner)
    | authorized side m =>
      rw [Atom.words, spells_cons_cons] at hspells
      obtain ⟨t1, h1, hspells⟩ := hspells
      obtain ⟨t2, h2, h3⟩ := spells_cons_cons.1 hspells
      exact ⟨_, ts, ⟨rfl, rfl⟩, .bare side, t1, h1, .inl ⟨t2, h2, side, m, rfl, rfl, h3⟩⟩
    | flow subject k target p =>
      simp only [Atom.words, spells_append] at hspells
      obtain ⟨t1, h1, t2, h2, t3, h3, h4⟩ := hspells
      refine ⟨_, ts, ⟨rfl, rfl⟩, subject, t1, h1, .inr ⟨fun ms => ?_, k, t2, h2, target, t3, h3, p,
        us, ⟨h4, hends⟩, rfl, rfl⟩⟩
      apply not_spells_of_next_ne
      cases k <;> rw [h2.next] <;> decide

/-! ## One step of the descent -/

variable {f : Premise} {n : Nat}

theorem atom_succ
    (hinner : Reads (disjunction f n) (Disjunction.words f)
      fun o next => o.depth ≤ n ∧ o.EndsBefore next) :
    Reads (atom f (n + 1)) (Atom.words f) fun a next => a.depth ≤ n + 1 ∧ a.EndsBefore next := by
  intro ts us a
  rw [atom, ite_accept_eq_ok]
  simp only [bind_eq_ok, expect_eq_ok, pure_eq_ok, flow_eq_ok, hinner.iff]
  constructor
  · rintro (⟨t1, h1, o, t2, ⟨h2, hdepth, -⟩, -, t3, h3, rfl, rfl⟩ | ⟨-, hgroup, h, hends⟩)
    · refine ⟨?_, Nat.succ_le_succ hdepth, trivial⟩
      rw [Atom.words, spells_cons]
      exact ⟨t1, h1, spells_append.2 ⟨t2, h2, h3⟩⟩
    · refine ⟨h, ?_, hends⟩
      cases a with
      | group inner => exact absurd rfl (hgroup inner)
      | flow subject k target p => exact Nat.succ_pos n
      | authorized side m => exact Nat.succ_pos n
  · rintro ⟨h, hdepth, hends⟩
    cases a with
    | group inner =>
      rw [Atom.words, spells_cons] at h
      obtain ⟨t1, h1, h⟩ := h
      obtain ⟨t2, h2, h3⟩ := spells_append.1 h
      -- any obligation may end before a parenthesis
      have hclose : inner.EndsBefore t2.next := by
        rw [h3.next]
        exact inner.endsBefore_of_ne (by decide) (by decide) (by decide)
      exact .inl ⟨t1, h1, inner, t2, ⟨h2, Nat.le_of_succ_le_succ hdepth, hclose⟩, (), us, h3, rfl,
        rfl⟩
    | flow subject k target p =>
      refine .inr ⟨fun ms => not_spells_of_next_ne ?_, nofun, h, hends⟩
      rw [Atom.words] at h
      exact next_ne_parenthesis h
    | authorized side m =>
      refine .inr ⟨fun ms => not_spells_of_next_ne ?_, nofun, h, hends⟩
      exact next_ne_parenthesis (e := .bare side) h

/-- A part, and as long as a word comes next, others. -/
theorem parts_eq_ok {α β : Type} {part : Parser α} {others : Parser β} {partWords : α → List String}
    {othersWords : β → List String} {partEnds : α → Option String → Prop}
    {othersEnds : β → Option String → Prop} {w : String} {one : α → β} {more : α → β → β}
    (hpart : Reads part partWords partEnds) (hothers : Reads others othersWords othersEnds)
    {ts us : Tokens} {b : β} :
    (do let a ← part
        if ← accept [w] then return more a (← others) else return one a : Parser β) ts =
        .ok (b, us) ↔
      (∃ a, b = one a ∧ ts.Spells (partWords a) us ∧ partEnds a us.next ∧ us.next ≠ some w) ∨
        ∃ a c, b = more a c ∧ ts.Spells (partWords a ++ w :: othersWords c) us ∧
          partEnds a (some w) ∧ othersEnds c us.next := by
  simp only [↓ite_accept_eq_ok, bind_eq_ok, pure_eq_ok, hpart.iff, hothers.iff]
  constructor
  · rintro ⟨a, t1, ⟨h1, hends⟩, ⟨t2, h2, c, t3, ⟨h3, hothersEnds⟩, rfl, rfl⟩ | ⟨hnone, rfl, rfl⟩⟩
    · -- what comes after the part is the word itself
      refine .inr ⟨a, c, rfl, ?_, ?_, hothersEnds⟩
      · exact spells_append.2 ⟨t1, h1, spells_cons.2 ⟨t2, h2, h3⟩⟩
      · rw [← h2.next]
        exact hends
    · exact .inl ⟨a, rfl, h1, hends, next_ne_of_not_spells hnone⟩
  · rintro (⟨a, rfl, h, hends, hnext⟩ | ⟨a, c, rfl, h, hends, hothersEnds⟩)
    · exact ⟨a, us, ⟨h, hends⟩, .inr ⟨fun ms => not_spells_of_next_ne hnext, rfl, rfl⟩⟩
    · obtain ⟨t1, h1, h⟩ := spells_append.1 h
      obtain ⟨t2, h2, h3⟩ := spells_cons.1 h
      have hends : partEnds a t1.next := by
        rw [h2.next]
        exact hends
      exact ⟨a, t1, ⟨h1, hends⟩, .inl ⟨t2, h2, c, us, ⟨h3, hothersEnds⟩, rfl, rfl⟩⟩

theorem conjunction_succ
    (hatom : Reads (atom f n) (Atom.words f) fun a next => a.depth ≤ n ∧ a.EndsBefore next)
    (hothers : Reads (conjunction f n) (Conjunction.words f)
      fun c next => c.depth ≤ n ∧ c.EndsBefore next) :
    Reads (conjunction f (n + 1)) (Conjunction.words f)
      fun c next => c.depth ≤ n + 1 ∧ c.EndsBefore next := by
  intro ts us c
  rw [conjunction]
  refine (parts_eq_ok hatom hothers).trans ⟨?_, ?_⟩
  · rintro (⟨a, rfl, h, ⟨hdepth, hends⟩, hnext⟩ | ⟨a, d, rfl, h, ⟨hdepth, -⟩, hothersDepth, hends⟩)
    · exact ⟨h, Nat.succ_le_succ hdepth, hends, hnext⟩
    · exact ⟨h, Nat.succ_le_succ (Nat.max_le.2 ⟨hdepth, hothersDepth⟩), hends⟩
  · rintro ⟨h, hdepth, hends⟩
    cases c with
    | one a => exact .inl ⟨a, rfl, h, ⟨Nat.le_of_succ_le_succ hdepth, hends.1⟩, hends.2⟩
    | and a d =>
      obtain ⟨ha, hd⟩ := Nat.max_le.1 (Nat.le_of_succ_le_succ hdepth)
      exact .inr ⟨a, d, rfl, h, ⟨ha, a.endsBefore_of_ne (by decide)⟩, hd, hends⟩

theorem disjunction_succ
    (hconjunction : Reads (conjunction f n) (Conjunction.words f)
      fun c next => c.depth ≤ n ∧ c.EndsBefore next)
    (hothers : Reads (disjunction f n) (Disjunction.words f)
      fun o next => o.depth ≤ n ∧ o.EndsBefore next) :
    Reads (disjunction f (n + 1)) (Disjunction.words f)
      fun o next => o.depth ≤ n + 1 ∧ o.EndsBefore next := by
  intro ts us o
  rw [disjunction]
  refine (parts_eq_ok hconjunction hothers).trans ⟨?_, ?_⟩
  · rintro (⟨c, rfl, h, ⟨hdepth, hends⟩, hnext⟩ | ⟨c, d, rfl, h, ⟨hdepth, -⟩, hothersDepth, hends⟩)
    · exact ⟨h, Nat.succ_le_succ hdepth, hends, hnext⟩
    · exact ⟨h, Nat.succ_le_succ (Nat.max_le.2 ⟨hdepth, hothersDepth⟩), hends⟩
  · rintro ⟨h, hdepth, hends⟩
    cases o with
    | one c => exact .inl ⟨c, rfl, h, ⟨Nat.le_of_succ_le_succ hdepth, hends.1⟩, hends.2⟩
    | or c d =>
      obtain ⟨hc, hd⟩ := Nat.max_le.1 (Nat.le_of_succ_le_succ hdepth)
      exact .inr ⟨c, d, rfl, h, ⟨hc, c.endsBefore_of_ne (by decide) (by decide)⟩, hd, hends⟩

/-! ## The whole descent -/

theorem reads_of_fuel (f : Premise) (n : Nat) :
    Reads (atom f n) (Atom.words f) (fun a next => a.depth ≤ n ∧ a.EndsBefore next) ∧
      Reads (conjunction f n) (Conjunction.words f)
        (fun c next => c.depth ≤ n ∧ c.EndsBefore next) ∧
      Reads (disjunction f n) (Disjunction.words f)
        (fun o next => o.depth ≤ n ∧ o.EndsBefore next) := by
  induction n with
  | zero =>
    refine ⟨fun ts us a => ?_, fun ts us c => ?_, fun ts us o => ?_⟩
    · rw [atom, failHere_eq_ok]
      exact iff_of_false id fun h => Nat.not_le_of_lt a.depth_pos h.2.1
    · rw [conjunction, failHere_eq_ok]
      exact iff_of_false id fun h => Nat.not_le_of_lt c.depth_pos h.2.1
    · rw [disjunction, failHere_eq_ok]
      exact iff_of_false id fun h => Nat.not_le_of_lt o.depth_pos h.2.1
  | succ n ih =>
    obtain ⟨hatom, hconjunction, hdisjunction⟩ := ih
    exact ⟨atom_succ hdisjunction, conjunction_succ hatom hconjunction,
      disjunction_succ hconjunction hdisjunction⟩

/-- The fuel suffices for whatever obligation the tokens spell. -/
theorem obligation_eq_ok {f : Premise} :
    Reads (obligation f) (Disjunction.words f) fun o next => o.EndsBefore next := by
  intro ts us o
  unfold obligation
  rw [(reads_of_fuel f _).2.2.iff]
  constructor
  · rintro ⟨h, -, hends⟩
    exact ⟨h, hends⟩
  · rintro ⟨h, hends⟩
    -- the words are among the tokens, and their number bounds the depth
    have hlength := h.length_le
    have hdepth := o.depth_le f
    exact ⟨h, by omega, hends⟩

end Parser

end InfoFlow
