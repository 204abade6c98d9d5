import InfoFlow.Proofs.Grammar.Closing
import InfoFlow.Proofs.Grammar.Naming
/-!
# Ways to write one statement

The word `always` in front of a body and the word `if` in front of a premise say nothing, and a
checkpoint after a data premise is short for an obligation about what the premise binds. A statement
that is written in another of these ways is the same statement, whatever obligation comes behind the
premise: what is joined to a checkpoint is joined to it as a whole.
-/

namespace InfoFlow

open Grammar

/-! ## Texts and their words -/

/-- The words and marks of a text are these. Where they stand and what is noted between them is not
asked. -/
def Text.Writes (text : String) (ws : List String) : Prop :=
  ∃ ts, Tokens.ofText text = .ok ts ∧ ts.rest.map Token.text = ws

theorem Tokens.Spells.words_eq {ts us : Tokens} {ws vs : List String} (h : ts.Spells ws us)
    (k : ts.Spells vs us) : ws = vs := by
  have hws := h.length_le
  have hvs := k.length_le
  exact (h.eq k (by omega)).1

namespace Grammar

variable {f : Premise} {os : List String} {b c : Body} {index : Nat}

/-- What may stand in front of the body of a sentence. -/
def heading (n : Option Name) (o : Opening) : List String :=
  n.elim [] (fun n => [n.text, ":"]) ++ o.words

/-- Two ways to write the body of a sentence. Behind the same name or none, and with the word always
or without it, each of them is the text of one statement, and this is the same one. -/
def SameBody (ws vs : List String) : Prop :=
  ∀ (n : Option Name) (o o' : Opening) (first second : String) (name : Value),
    Text.Writes first (heading n o ++ (ws ++ ["."])) →
    Text.Writes second (heading n o' ++ (vs ++ ["."])) →
    ∃ p s, Policy.parse first name = .ok p ∧ Policy.parse second name = .ok p ∧
      p.statements = [s] ∧ Statement.parse first none = .ok s ∧ Statement.parse second none = .ok s

/-- Some words are accepted as the obligation behind a premise. -/
def Premise.Admits (f : Premise) (os : List String) : Prop :=
  ∃ text name p s, Text.Writes text (f.words ++ "then" :: (os ++ ["."])) ∧
    Policy.parse text name = .ok p ∧ p.statements = [s]

/-- The obligation that what a premise binds is passed on through a checkpoint. -/
def Premise.passing (f : Premise) (m : Name) : List String :=
  [f.source.text, "flows", "to", f.destination.text, "through", "some", m.text]

/-! ## Bodies of one meaning -/

theorem Sentence.denoted_congr (n : Option Name) (o o' : Opening)
    (hpremise : b.premise = c.premise) (hformula : b.formula = c.formula) :
    (Sentence.mk n o b).denoted index = (Sentence.mk n o' c).denoted index := by
  unfold denoted statementName
  simp only [hpremise, hformula]

theorem parse_of_writes {text : String} {d : Sentence} (htext : Text.Writes text d.words) :
    (∀ p : Policy, p.statements = [d.denoted 1] → Policy.parse text p.name = .ok p) ∧
      Statement.parse text none = .ok (d.denoted 1) := by
  obtain ⟨ts, hts, hwords⟩ := htext
  have hds : ts.Derives [d] := by
    show _ = [d].flatMap Sentence.words
    rw [hwords, List.flatMap_singleton]
  refine ⟨fun p hp => Policy.parse_eq_ok.2 ⟨ts, [d], hts, hds, rfl, hp⟩, ?_⟩
  -- the last word is a period, so closing the text adds none
  obtain ⟨us, hus, hkeep, -⟩ := Tokens.ofText_closed hts
  have hlast : (ts.rest.map Token.text).getLast? = some "." := by
    rw [hwords, d.words_eq_front, List.getLast?_concat]
  have hclosed : us.Derives [d] := (hkeep (.inr hlast)).trans hds
  exact Statement.parse_of_derives hus hclosed none

theorem sameBody_of_formula (hpremise : b.premise = c.premise) (hformula : b.formula = c.formula) :
    SameBody b.words c.words := by
  intro n o o' first second name hfirst hsecond
  have hwords (o : Opening) (b : Body) :
      heading n o ++ (b.words ++ ["."]) = (Sentence.mk n o b).words := List.append_assoc ..
  rw [hwords] at hfirst hsecond
  have hsame : (Sentence.mk n o b).denoted 1 = (Sentence.mk n o' c).denoted 1 :=
    Sentence.denoted_congr n o o' hpremise hformula
  obtain ⟨hp, hs⟩ := parse_of_writes hfirst
  obtain ⟨hq, ht⟩ := parse_of_writes hsecond
  rw [← hsame] at hq ht
  -- both texts are the policy of this one statement
  let p : Policy := ⟨name, [(Sentence.mk n o b).denoted 1], List.nodup_singleton _⟩
  exact ⟨p, _, hp p rfl, hq p rfl, rfl, hs, ht⟩

/-! ## Obligations behind a premise -/

/-- A sentence that starts with a quantifier is a premise and what comes behind it. -/
theorem exists_plain_of_next {ts us : Tokens} {d : Sentence} {q : Quantifier}
    (hd : ts.Spells d.words us) (hnext : ts.next = some (Choice.word q)) :
    ∃ f p clause, d = ⟨none, .none, .plain f p clause⟩ := by
  have hquantifier : Choice.word q ∈ ["some", "all"] := by cases q <;> decide
  -- another sentence starts with another word
  have hother {w : String} {ws : List String} (hw : w ∉ ["some", "all"]) :
      ¬ts.Spells (w :: ws) us := fun h =>
    hw (Option.some.inj (hnext.symm.trans h.next) ▸ hquantifier)
  obtain ⟨n, o, b⟩ := d
  cases n with
  | some n =>
    refine absurd hd (hother fun hmem => ?_)
    have hkeyword : ∀ w ∈ ["some", "all"], keywords.contains w = true := by decide
    exact n.text_ne_keyword (hkeyword n.text hmem) rfl
  | none =>
    cases o with
    | always => exact absurd hd (hother (by decide))
    | comma => exact absurd hd (hother (by decide))
    | none =>
      cases b with
      | conditional f clause => exact absurd hd (hother (by decide))
      | plain f p clause => exact ⟨f, p, clause, rfl⟩

/-- What is accepted as an obligation behind a premise is written as one. -/
theorem Premise.Admits.exists_obligation (h : f.Admits os) : ∃ o : Disjunction, os = o.words f := by
  obtain ⟨text, name, p, s, ⟨ts, hts, hwords⟩, hp, hs⟩ := h
  obtain ⟨ts', d, hts', hd, -⟩ := Policy.parse_eq_ok_singleton hp hs
  obtain rfl := Except.ok.inj (hts.symm.trans hts')
  have hspells {ws : List String} (h : ts.rest.map Token.text = ws) : ts.Spells ws ⟨[], ts.stop⟩ :=
    ⟨ts.rest, h, by rw [List.append_nil]⟩
  rw [← d.words_eq_front] at hd
  obtain ⟨t1, hf, hrest⟩ := Tokens.spells_append.1 (hspells hwords)
  obtain ⟨g, passage, clause, rfl⟩ := exists_plain_of_next (hspells hd) hf.next
  have hplain : ts.Spells (g.words ++ (passage.words ++ clauseWords g clause ++ ["."]))
      ⟨[], ts.stop⟩ := by
    rw [← List.append_assoc]
    exact hspells hd
  obtain ⟨t2, hg, hother⟩ := Tokens.spells_append.1 hplain
  -- the premise is the one that is read
  have hread := (Parser.premise_eq_ok.2 hf).symm.trans (Parser.premise_eq_ok.2 hg)
  obtain ⟨rfl, rfl⟩ := Prod.mk.inj (Except.ok.inj hread)
  have hsame := hother.words_eq hrest
  obtain ⟨checkpoint, hdata⟩ := passage
  cases checkpoint with
  | some m => exact absurd (List.cons.inj hsame).1 (by decide)
  | none =>
    cases clause with
    | none => exact absurd (List.cons.inj hsame).1 (by decide)
    | some o => exact ⟨o, (List.append_cancel_right (List.cons.inj hsame).2).symm⟩

/-! ## The ways -/

/-- The atom that a data premise asks for with its checkpoint. -/
def Premise.passingAtom (m : Name) : Atom :=
  .flow (.bare .source) .data (.bare .destination) ⟨some m, fun _ => rfl⟩

/-- The word always says nothing, and neither does the word if in front of a premise that has an
obligation. A checkpoint behind a data premise says what an obligation about its markers says, and
any obligation may be joined to it, in parentheses. -/
theorem sameBody_variants :
    (∀ b : Body, SameBody b.words b.words) ∧ ∀ f : Premise,
      (f.kind = .data → ∀ m : Name,
        SameBody (f.words ++ ["through", "some", m.text]) (f.words ++ "then" :: f.passing m)) ∧
      ∀ os, f.Admits os →
        SameBody ("if" :: (f.words ++ "then" :: os)) (f.words ++ "then" :: os) ∧
        (f.kind = .data → ∀ m : Name,
          SameBody (f.words ++ ["through", "some", m.text] ++ "then" :: os)
            (f.words ++
              "then" :: "(" :: (f.passing m ++ ")" :: "and" :: "(" :: (os ++ [")"])))) := by
  refine ⟨fun b => sameBody_of_formula rfl rfl, fun f => ⟨fun hdata m => ?_, fun os hos => ?_⟩⟩
  · let b := Body.plain f ⟨some m, fun _ => hdata⟩ none
    let c := (f.sentence (.one (.one (Premise.passingAtom m)))).body
    exact sameBody_of_formula (b := b) (c := c) rfl rfl
  · obtain ⟨o, rfl⟩ := hos.exists_obligation
    constructor
    · let b := Body.conditional f o
      let c := (f.sentence o).body
      exact sameBody_of_formula (b := b) (c := c) rfl rfl
    · intro hdata m
      let b := Body.plain f ⟨some m, fun _ => hdata⟩ (some o)
      -- parentheses leave nothing behind, so the two joins are made of the same parts
      let c := (f.sentence (.one (.and (.group (.one (.one (Premise.passingAtom m))))
        (.one (.group o))))).body
      rw [List.append_assoc]
      exact sameBody_of_formula (b := b) (c := c) rfl rfl

/-- An obligation in which two are joined. -/
def turnWords : List String :=
  ["b", "flows", "to", "a", "or", "a", "is", "authorized", "by", "some", "gate"]

/-- A premise and this obligation. -/
def thenText : String :=
  "some a flows to some b then b flows to a or a is authorized by some gate."

/-- The same with the words that say nothing. -/
def ifText : String :=
  "always, if some a flows to some b\nthen b flows to a or a is authorized by some gate."

/-- The same with a checkpoint. -/
def throughText : String :=
  "some a flows to some b through some gate # and more\n" ++
    "then b flows to a or a is authorized by some gate."

/-- The same with the checkpoint as an obligation. -/
def bothText : String :=
  "some a flows to some b then (a flows to b through some gate) and " ++
    "(b flows to a or a is authorized by some gate)."

theorem doorway_variants :
    Policy.doorway.Admits turnWords ∧
      (∃ p s, Policy.parse ifText .null = .ok p ∧ Policy.parse thenText .null = .ok p ∧
        p.statements = [s]) ∧
      ∃ p s, Policy.parse throughText .null = .ok p ∧ Policy.parse bothText .null = .ok p ∧
        p.statements = [s] := by
  have hwrites {text : String} {ws : List String} (h : Policy.words? text = some ws) :
      Text.Writes text ws := Policy.exists_of_words? h
  have hadmits : Policy.doorway.Admits turnWords := by
    obtain ⟨p, s, hp, hs, -⟩ :=
      Policy.exists_of_names thenText .null "statement_1" (by decide +kernel)
    exact ⟨thenText, .null, p, s, hwrites (by decide +kernel), hp, hs⟩
  obtain ⟨-, hpremise⟩ := sameBody_variants
  obtain ⟨hif, hthrough⟩ := (hpremise Policy.doorway).2 turnWords hadmits
  refine ⟨hadmits, ?_, ?_⟩
  · obtain ⟨p, s, hp, hq, hs, -⟩ := hif none .comma .none ifText thenText .null
      (hwrites (by decide +kernel)) (hwrites (by decide +kernel))
    exact ⟨p, s, hp, hq, hs⟩
  · obtain ⟨p, s, hp, hq, hs, -⟩ := hthrough rfl Policy.gateName none .none .none throughText
      bothText .null (hwrites (by decide +kernel)) (hwrites (by decide +kernel))
    exact ⟨p, s, hp, hq, hs⟩

end Grammar

end InfoFlow
