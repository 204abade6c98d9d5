import InfoFlow.Proofs.Grammar.Obligations
/-!
# Reading sentences

A sentence is read exactly as it is written, and nothing has to be known of what comes after its
period. What is optional in front of a premise is told apart by the first word of the premise, which
is a keyword.
-/

namespace InfoFlow

namespace Grammar

/-! ## Where the parts of a sentence end -/

/-- What may come after an opening. -/
def Opening.EndsBefore (next : Option String) : Opening → Prop
  | none => next ≠ some "always"
  | always => next ≠ some ","
  | comma => True

/-- What may come after a clause. -/
def ClauseEndsBefore (next : Option String) : Option Disjunction → Prop
  | none => next ≠ some "then"
  | some o => o.EndsBefore next

/-- What may come after a body. -/
def Body.EndsBefore (next : Option String) : Body → Prop
  | plain _ passage clause =>
    (clause = none → passage.EndsBefore next) ∧ ClauseEndsBefore next clause
  | conditional _ clause => clause.EndsBefore next

/-- The words that would go on with a body. -/
theorem Body.endsBefore_of_ne {next : Option String} (h : next ≠ some "through")
    (hthen : next ≠ some "then") (hand : next ≠ some Formula.andWord)
    (hor : next ≠ some Formula.orWord) (b : Body) : b.EndsBefore next := by
  have hends (o : Disjunction) : o.EndsBefore next := o.endsBefore_of_ne h hand hor
  cases b with
  | conditional f clause => exact hends clause
  | plain f passage clause =>
    refine ⟨fun _ _ => h, ?_⟩
    cases clause with
    | none => exact hthen
    | some o => exact hends o

/-- The words of a sentence in front of its period. -/
def Sentence.front (d : Sentence) : List String :=
  d.name.elim [] (fun n => [n.text, ":"]) ++ (d.opening.words ++ d.body.words)

theorem Sentence.words_eq_front (d : Sentence) : d.words = d.front ++ ["."] := by
  unfold words front
  simp only [List.append_assoc]

end Grammar

namespace Parser

open Grammar Tokens

variable {ts us : Tokens}

/-! ## In front of a body -/

theorem name?_of_spells {n : Name} (h : ts.Spells [n.text, ":"] us) :
    name? ts = .ok (some n, us) := by
  obtain ⟨front, hfront, rfl⟩ := h
  obtain ⟨t, front, rfl, ht, hfront⟩ := List.map_eq_cons_iff.1 hfront
  obtain ⟨c, front, rfl, hc, hfront⟩ := List.map_eq_cons_iff.1 hfront
  obtain rfl := List.map_eq_nil_iff.1 hfront
  have hname : t.isName = true := Name.isName_of_text ht
  simp only [name?, List.cons_append, List.nil_append]
  rw [dif_pos ⟨hname, hc⟩, Name.ofToken_eq.2 ht]

theorem name?_of_not_spells (h : ∀ (n : Name) ms, ¬ts.Spells [n.text, ":"] ms) :
    name? ts = .ok (none, ts) := by
  obtain ⟨rest, stop⟩ := ts
  match rest with
  | [] => rfl
  | [t] => rfl
  | t :: c :: rest =>
    have hnot : ¬(t.isName = true ∧ c.text = ":") := by
      rintro ⟨hname, hc⟩
      apply h (.ofToken t hname) ⟨rest, stop⟩
      exact ⟨[t, c], by rw [← hc]; rfl, rfl⟩
    simp only [name?]
    rw [dif_neg hnot]

theorem opening_eq_ok : Reads opening Opening.words fun o next => o.EndsBefore next := by
  intro ts us o
  unfold opening
  simp only [↓ite_accept_eq_ok, pure_eq_ok]
  constructor
  · rintro (⟨t1, h1, ⟨t2, h2, rfl, rfl⟩ | ⟨hnone, rfl, rfl⟩⟩ | ⟨hnone, rfl, rfl⟩)
    · exact ⟨spells_cons_cons.2 ⟨t1, h1, h2⟩, trivial⟩
    · exact ⟨h1, next_ne_of_not_spells hnone⟩
    · exact ⟨spells_nil.2 rfl, next_ne_of_not_spells hnone⟩
  · rintro ⟨h, hends⟩
    cases o with
    | none =>
      obtain rfl := spells_nil.1 h
      exact .inr ⟨fun ms => not_spells_of_next_ne hends, rfl, rfl⟩
    | always =>
      exact .inl ⟨us, h, .inr ⟨fun ms => not_spells_of_next_ne hends, rfl, rfl⟩⟩
    | comma =>
      obtain ⟨t1, h1, h2⟩ := spells_cons_cons.1 h
      exact .inl ⟨t1, h1, .inl ⟨us, h2, rfl, rfl⟩⟩

/-! ## Bodies -/

theorem clause?_eq_ok {f : Premise} :
    Reads (clause? f) (clauseWords f) fun clause next => ClauseEndsBefore next clause := by
  intro ts us clause
  unfold clause?
  simp only [↓ite_accept_eq_ok, bind_eq_ok, pure_eq_ok, obligation_eq_ok.iff]
  constructor
  · rintro (⟨t1, h1, o, t2, ⟨h2, hends⟩, rfl, rfl⟩ | ⟨hnone, rfl, rfl⟩)
    · exact ⟨spells_cons.2 ⟨t1, h1, h2⟩, hends⟩
    · exact ⟨spells_nil.2 rfl, next_ne_of_not_spells hnone⟩
  · rintro ⟨h, hends⟩
    cases clause with
    | none =>
      obtain rfl := spells_nil.1 h
      exact .inr ⟨fun ms => not_spells_of_next_ne hends, rfl, rfl⟩
    | some o =>
      obtain ⟨t1, h1, h2⟩ := spells_cons.1 h
      exact .inl ⟨t1, h1, o, us, ⟨h2, hends⟩, rfl, rfl⟩

theorem passage_endsBefore {f : Premise} {k : EdgeKind} {p : Passage k}
    {clause : Option Disjunction} (h : ts.Spells (clauseWords f clause) us) :
    p.EndsBefore ts.next ↔ (clause = none → p.EndsBefore us.next) := by
  cases clause with
  | none =>
    obtain rfl := spells_nil.1 h
    simp only [forall_const]
  | some o =>
    have hnext : ts.next = some "then" := h.next
    -- the clause starts with its own word, which is no checkpoint's
    rw [hnext]
    exact iff_of_true (fun _ => by decide) nofun

theorem body_eq_ok : Reads body Body.words fun b next => b.EndsBefore next := by
  intro ts us b
  unfold body
  simp only [↓ite_accept_eq_ok, bind_eq_ok, pure_eq_ok, premise_eq_ok, expect_eq_ok,
    obligation_eq_ok.iff, passage_eq_ok, clause?_eq_ok.iff]
  constructor
  · rintro (⟨t1, h1, f, t2, h2, -, t3, h3, o, t4, ⟨h4, hends⟩, rfl, rfl⟩ |
      ⟨-, f, t1, h1, p, t2, ⟨h2, hp⟩, clause, t3, ⟨h3, hends⟩, rfl, rfl⟩)
    · refine ⟨spells_cons.2 ⟨t1, h1, spells_append.2 ⟨t2, h2, ?_⟩⟩, hends⟩
      exact spells_cons.2 ⟨t3, h3, h4⟩
    · refine ⟨spells_append.2 ⟨t1, h1, spells_append.2 ⟨t2, h2, h3⟩⟩, ?_, hends⟩
      exact (passage_endsBefore h3).1 hp
  · rintro ⟨h, hends⟩
    cases b with
    | conditional f clause =>
      obtain ⟨t1, h1, h⟩ := spells_cons.1 h
      obtain ⟨t2, h2, h⟩ := spells_append.1 h
      obtain ⟨t3, h3, h4⟩ := spells_cons.1 h
      exact .inl ⟨t1, h1, f, t2, h2, (), t3, h3, clause, us, ⟨h4, hends⟩, rfl, rfl⟩
    | plain f p clause =>
      obtain ⟨t1, h1, h⟩ := spells_append.1 h
      obtain ⟨t2, h2, h3⟩ := spells_append.1 h
      refine .inr ⟨fun ms => not_spells_of_next_ne ?_, f, t1, h1, p, t2,
        ⟨h2, (passage_endsBefore h3).2 hends.1⟩, clause, us, ⟨h3, hends.2⟩, rfl, rfl⟩
      rw [h1.next]
      cases f.sourceQuantifier <;> decide

/-! ## Sentences -/

/-- The words with which a body starts. -/
theorem next_of_spells_body {b : Body} {ws : List String} (h : ts.Spells (b.words ++ ws) us) :
    ts.next ∈ [some "if", some "some", some "all"] := by
  cases b with
  | conditional f clause =>
    rw [Body.words, List.cons_append] at h
    rw [h.next]
    decide
  | plain f p clause =>
    simp only [Body.words, Premise.words, List.cons_append] at h
    rw [h.next]
    cases f.sourceQuantifier <;> decide

/-- The words with which a sentence without a name starts: they name nothing. -/
theorem next_ne_name {d : Opening} {b : Body} {ws : List String}
    (h : ts.Spells (d.words ++ (b.words ++ ws)) us) (n : Name) : ts.next ≠ some n.text := by
  have hword : ∃ w, keywords.contains w = true ∧ ts.next = some w := by
    cases d with
    | none =>
      have hnext := next_of_spells_body h
      simp only [List.mem_cons, List.not_mem_nil, or_false] at hnext
      rcases hnext with hnext | hnext | hnext <;> exact ⟨_, by decide, hnext⟩
    | always => exact ⟨"always", by decide, h.next⟩
    | comma => exact ⟨"always", by decide, h.next⟩
  obtain ⟨w, hkeyword, hnext⟩ := hword
  rw [hnext]
  exact fun heq => n.text_ne_keyword hkeyword (Option.some.inj heq).symm

theorem spells_of_name? {n : Option Name} (h : name? ts = .ok (n, us)) :
    ts.Spells (n.elim [] fun n => [n.text, ":"]) us := by
  by_cases hspells : ∃ (m : Name) (ms : Tokens), ts.Spells [m.text, ":"] ms
  · obtain ⟨m, ms, hms⟩ := hspells
    rw [name?_of_spells hms] at h
    obtain ⟨rfl, rfl⟩ := Prod.mk.inj (Except.ok.inj h)
    exact hms
  · rw [name?_of_not_spells fun m ms hms => hspells ⟨m, ms, hms⟩] at h
    obtain ⟨rfl, rfl⟩ := Prod.mk.inj (Except.ok.inj h)
    exact spells_nil.2 rfl

/-- What stands in front of the period of a sentence is read if what comes next lets its body end
there. What is left out in front of the body is told by the first word of the body. -/
theorem front_eq_ok {d : Sentence} (h : ts.Spells d.front us) (hends : d.body.EndsBefore us.next) :
    ∃ t1 t2, name? ts = .ok (d.name, t1) ∧ opening t1 = .ok (d.opening, t2) ∧
      body t2 = .ok (d.body, us) := by
  obtain ⟨name, o, b⟩ := d
  obtain ⟨t1, h1, hrest⟩ := spells_append.1 h
  obtain ⟨t2, h2, h3⟩ := spells_append.1 hrest
  refine ⟨t1, t2, ?_, opening_eq_ok.iff.2 ⟨h2, ?_⟩, body_eq_ok.iff.2 ⟨h3, hends⟩⟩
  · cases name with
    | some n => exact name?_of_spells h1
    | none =>
      obtain rfl := spells_nil.1 h1
      have hbody : ts.Spells (o.words ++ (b.words ++ [])) us := by
        rw [List.append_nil]
        exact hrest
      exact name?_of_not_spells fun n ms => not_spells_of_next_ne (next_ne_name hbody n)
  · have hnext : t2.next ∈ [some "if", some "some", some "all"] := by
      rw [← List.append_nil b.words] at h3
      exact next_of_spells_body h3
    cases o with
    | none => exact fun heq => absurd (heq ▸ hnext) (by decide)
    | always => exact fun heq => absurd (heq ▸ hnext) (by decide)
    | comma => trivial

theorem sentence_eq_ok {d : Sentence} : sentence ts = .ok (d, us) ↔ ts.Spells d.words us := by
  unfold sentence
  simp only [bind_eq_ok, opening_eq_ok.iff, body_eq_ok.iff, expect_eq_ok, pure_eq_ok]
  constructor
  · rintro ⟨n, t1, h1, o, t2, ⟨h2, -⟩, b, t3, ⟨h3, -⟩, -, t4, h4, rfl, rfl⟩
    refine spells_append.2 ⟨t1, spells_of_name? h1, spells_append.2 ⟨t2, h2, ?_⟩⟩
    exact spells_append.2 ⟨t3, h3, h4⟩
  · intro h
    rw [d.words_eq_front] at h
    obtain ⟨t3, hfront, hperiod⟩ := spells_append.1 h
    have hends : d.body.EndsBefore t3.next := by
      rw [hperiod.next]
      exact d.body.endsBefore_of_ne (by decide) (by decide) (by decide) (by decide)
    obtain ⟨t1, t2, h1, h2, h3⟩ := front_eq_ok hfront hends
    exact ⟨d.name, t1, h1, d.opening, t2, opening_eq_ok.iff.1 h2, d.body, t3,
      body_eq_ok.iff.1 h3, (), us, hperiod, rfl, rfl⟩

end Parser

end InfoFlow
