import InfoFlow.Proofs.Grammar.Acceptance
import InfoFlow.Proofs.Grammar.Lexing
/-!
# Reading back what was rendered

The text of an obligation has parentheses around every part of a join and nowhere else, so it reads
back as the join of these parts, with or without the parentheses with which it was written first.
The checkpoint of a premise is rendered as an obligation about the two ends, and reads back as one.
-/

namespace InfoFlow

open Lexer (Spelled)

/-! ## Rendered rows -/

theorem Lexer.Spelled.intercalate {w : String} {ws : List String}
    (h : ∀ v ∈ w :: ws, TokenKind.word.admits v.toList = true) :
    Spelled (String.intercalate " " (w :: ws)) (w :: ws) := by
  induction ws generalizing w with
  | nil =>
    rw [String.intercalate_singleton]
    exact .word (h w List.mem_cons_self)
  | cons v vs ih =>
    rw [String.intercalate_cons_cons]
    have hword : Spelled w [w] := .word (h w List.mem_cons_self)
    exact hword.append (ih fun u hu => h u (List.mem_cons_of_mem w hu))

/-- Two texts with a phrase between them. -/
theorem Lexer.Spelled.phrase {s phrase t : String} {ws us vs : List String} (hs : Spelled s ws)
    (hphrase : Spelled phrase us) (ht : Spelled t vs) :
    Spelled (s ++ (" " ++ phrase ++ " ") ++ t) (ws ++ (us ++ vs)) := by
  have h := hs.append (hphrase.append ht)
  simp only [String.append_assoc] at h ⊢
  exact h

theorem spelled_joinParts_singleton (joiner : String) {part : String} {ws : List String}
    (h : Spelled part ws) :
    Spelled (Formula.joinParts joiner [part]) ("(" :: (ws ++ [")"])) := by
  unfold Formula.joinParts
  rw [List.map_singleton, String.intercalate_singleton]
  exact h.parentheses

theorem spelled_joinParts_cons {joiner part : String} {parts ws vs : List String}
    (hjoiner : TokenKind.word.admits joiner.toList = true) (hne : parts ≠ []) (h : Spelled part ws)
    (hparts : Spelled (Formula.joinParts joiner parts) vs) :
    Spelled (Formula.joinParts joiner (part :: parts)) ("(" :: (ws ++ [")"]) ++ joiner :: vs) := by
  cases parts with
  | nil => exact absurd rfl hne
  | cons q qs =>
    unfold Formula.joinParts at hparts ⊢
    rw [List.map_cons, List.map_cons, String.intercalate_cons_cons]
    exact h.parentheses.phrase (.word hjoiner) hparts

namespace Grammar

variable {f : Premise}

/-! ## Rendered ends -/

theorem Name.spelled (n : Name) : Spelled n.text [n.text] := .word n.formed

theorem spelled_quantifier (q : Quantifier) : Spelled (Choice.word q) [Choice.word q] := by
  cases q <;> exact .word rfl

theorem spelled_relation (k : EdgeKind) : Spelled k.relation k.relationWords := by
  cases k with
  | data => exact .intercalate (by decide)
  | control => exact .intercalate (by decide)

theorem End.spelled (e : End) : Spelled (e.endpoint f).label (e.words f) := by
  cases e with
  | quantified q m => exact (spelled_quantifier q).append m.spelled
  | bare side => exact (f.name side).spelled

/-! ## Rendered obligations -/

/-- A formula is rendered as an obligation is written that asks the same after a premise. -/
def ReadsBack (f : Premise) (p : Formula PairAtom) : Prop :=
  ∃ o : Disjunction, o.formula f = p ∧ Spelled (p.render PairAtom.label) (o.words f)

theorem readsBack_atom {a : Atom} (h : Spelled ((a.formula f).render PairAtom.label) (a.words f)) :
    ReadsBack f (a.formula f) := ⟨.one (.one a), rfl, h⟩

theorem readsBack_flow (subject target : End) (k : EdgeKind) (passage : Passage k) :
    ReadsBack f (Atom.formula f (.flow subject k target passage)) := by
  apply readsBack_atom
  have hends := ((subject.spelled (f := f)).append (spelled_relation k)).append
    (target.spelled (f := f))
  rw [Atom.formula, Atom.words]
  unfold Passage.words
  cases hcheckpoint : passage.checkpoint with
  | none =>
    rw [List.append_assoc] at hends
    simp only [List.append_nil]
    exact hends
  | some m =>
    -- only data pass a checkpoint
    obtain rfl : k = .data := passage.data (by rw [hcheckpoint]; rfl)
    have hphrase : Spelled _ ["through", "some"] := .intercalate (by decide)
    have hthrough := hends.phrase hphrase m.spelled
    simp only [List.append_assoc] at hthrough
    exact hthrough

theorem readsBack_authorized (side : Side) (m : Name) :
    ReadsBack f (Atom.formula f (.authorized side m)) := by
  apply readsBack_atom
  have hphrase : Spelled _ ["is", "authorized", "by", "some"] := .intercalate (by decide)
  exact (f.name side).spelled.phrase hphrase m.spelled

/-- A row of parts reads back as a conjunction of groups. -/
theorem exists_conjunction {ps : List (Formula PairAtom)} (hne : ps ≠ [])
    (h : ∀ p ∈ ps, ReadsBack f p) :
    ∃ c : Conjunction, c.formulas f = ps ∧
      Spelled (Formula.joinParts Formula.andWord (Formula.renderParts PairAtom.label ps))
        (c.words f) := by
  induction ps with
  | nil => exact absurd rfl hne
  | cons p ps ih =>
    obtain ⟨o, rfl, hspelled⟩ := h p List.mem_cons_self
    cases ps with
    | nil => exact ⟨.one (.group o), rfl, spelled_joinParts_singleton _ hspelled⟩
    | cons q qs =>
      obtain ⟨c, hc, hparts⟩ := ih (List.cons_ne_nil q qs) fun r hr => h r (.tail _ hr)
      refine ⟨.and (.group o) c, ?_, spelled_joinParts_cons rfl ?_ hspelled hparts⟩
      · rw [Conjunction.formulas, hc]
        rfl
      · exact List.cons_ne_nil _ _

/-- A row of parts reads back as a disjunction of groups. -/
theorem exists_disjunction {ps : List (Formula PairAtom)} (hne : ps ≠ [])
    (h : ∀ p ∈ ps, ReadsBack f p) :
    ∃ o : Disjunction, o.formulas f = ps ∧
      Spelled (Formula.joinParts Formula.orWord (Formula.renderParts PairAtom.label ps))
        (o.words f) := by
  induction ps with
  | nil => exact absurd rfl hne
  | cons p ps ih =>
    obtain ⟨o, rfl, hspelled⟩ := h p List.mem_cons_self
    cases ps with
    | nil => exact ⟨.one (.one (.group o)), rfl, spelled_joinParts_singleton _ hspelled⟩
    | cons q qs =>
      obtain ⟨others, hothers, hparts⟩ := ih (List.cons_ne_nil q qs) fun r hr => h r (.tail _ hr)
      refine ⟨.or (.one (.group o)) others, ?_, spelled_joinParts_cons rfl ?_ hspelled hparts⟩
      · rw [Disjunction.formulas, hothers]
        rfl
      · exact List.cons_ne_nil _ _

theorem readsBack_allOf {ps : List (Formula PairAtom)} (hne : ps ≠ [])
    (h : ∀ p ∈ ps, ReadsBack f p) : ReadsBack f (joined .allOf ps) := by
  match ps with
  | [] => exact absurd rfl hne
  | [p] => exact h p List.mem_cons_self
  | p :: q :: ps =>
    obtain ⟨c, hc, hspelled⟩ := exists_conjunction hne h
    refine ⟨.one c, ?_, hspelled⟩
    show joined .allOf (c.formulas f) = _
    rw [hc]

theorem readsBack_anyOf {ps : List (Formula PairAtom)} (hne : ps ≠ [])
    (h : ∀ p ∈ ps, ReadsBack f p) : ReadsBack f (joined .anyOf ps) := by
  match ps with
  | [] => exact absurd rfl hne
  | [p] => exact h p List.mem_cons_self
  | p :: q :: ps =>
    obtain ⟨o, ho, hspelled⟩ := exists_disjunction hne h
    refine ⟨o, ?_, hspelled⟩
    unfold Disjunction.formula
    rw [ho]

-- A tree does not read back as itself: groups are added around parts of joins, and groups of one
-- part are gone. So the claim on a row is one on the parts that it stands for.
mutual

theorem Atom.readsBack : ∀ a : Atom, ReadsBack f (a.formula f)
  | .group inner => by
    rw [Atom.formula]
    exact readsBack_anyOf inner.formulas_ne_nil inner.readsBack
  | .flow subject kind target passage => readsBack_flow subject target kind passage
  | .authorized side m => readsBack_authorized side m

theorem Conjunction.readsBack : ∀ c : Conjunction, ∀ p ∈ c.formulas f, ReadsBack f p
  | .one a => by
    rw [Conjunction.formulas, List.forall_mem_singleton]
    exact a.readsBack
  | .and a others => by
    rw [Conjunction.formulas, List.forall_mem_cons]
    exact ⟨a.readsBack, others.readsBack⟩

theorem Disjunction.readsBack : ∀ o : Disjunction, ∀ p ∈ o.formulas f, ReadsBack f p
  | .one c => by
    rw [Disjunction.formulas, List.forall_mem_singleton]
    exact readsBack_allOf c.formulas_ne_nil c.readsBack
  | .or c others => by
    rw [Disjunction.formulas, List.forall_mem_cons]
    exact ⟨readsBack_allOf c.formulas_ne_nil c.readsBack, others.readsBack⟩

end

/-! ## Rendered statements -/

theorem premiseThrough_readsBack (m : Name) : ReadsBack f (premiseThrough f m) :=
  readsBack_flow (.bare .source) (.bare .destination) .data ⟨some m, fun _ => rfl⟩

theorem Disjunction.formula_readsBack (o : Disjunction) : ReadsBack f (o.formula f) :=
  readsBack_anyOf o.formulas_ne_nil o.readsBack

theorem readsBack_stated {x y : Option (Formula PairAtom)} (hx : ∀ p ∈ x, ReadsBack f p)
    (hy : ∀ p ∈ y, ReadsBack f p) (h : stated x y ≠ .atom .always) : ReadsBack f (stated x y) := by
  match x, y with
  | none, none => exact absurd rfl h
  | some p, none => exact hx p rfl
  | none, some q => exact hy q rfl
  | some p, some q =>
    apply readsBack_allOf (List.cons_ne_nil p [q])
    rw [List.forall_mem_cons, List.forall_mem_singleton]
    exact ⟨hx p rfl, hy q rfl⟩

/-- Whatever a body asks reads back, unless it asks nothing. -/
theorem Body.readsBack (b : Body) (h : b.formula ≠ .atom .always) :
    ReadsBack b.premise b.formula := by
  cases b with
  | conditional f clause => exact clause.formula_readsBack
  -- the checkpoint and the clause of a plain body are rendered as one clause
  | plain f passage clause =>
    refine readsBack_stated (fun p hp => ?_) (fun p hp => ?_) h
    · obtain ⟨m, -, rfl⟩ := Option.map_eq_some_iff.1 hp
      exact premiseThrough_readsBack m
    · obtain ⟨o, -, rfl⟩ := Option.map_eq_some_iff.1 hp
      exact o.formula_readsBack

theorem Sentence.denotedFrom_eq_singleton {index : Nat} {ds : List Sentence} {s : Statement} :
    denotedFrom index ds = [s] ↔ ∃ d, ds = [d] ∧ d.denoted index = s := by
  cases ds with
  | nil => simp [denotedFrom]
  | cons d ds => cases ds <;> simp [denotedFrom]

/-- The sentence without a name that has an obligation after a plain premise. -/
def Premise.sentence (f : Premise) (o : Disjunction) : Sentence where
  name := none
  opening := .none
  body := .plain f ⟨none, fun h => absurd h Bool.false_ne_true⟩ (some o)

/-- A statement is rendered as its premise with one clause is written. -/
theorem Sentence.render_spelled (d : Sentence) (index : Nat) {o : Disjunction}
    (h : Spelled (d.body.formula.render PairAtom.label) (o.words d.body.premise)) :
    Spelled (d.denoted index).render
      (d.body.premise.words ++ "then" :: o.words d.body.premise) := by
  have hsource := (spelled_quantifier d.body.premise.sourceQuantifier).append
    d.body.premise.source.spelled
  have hrelation := hsource.append (spelled_relation d.body.premise.kind)
  have hquantifier := hrelation.append
    (spelled_quantifier d.body.premise.destinationQuantifier)
  have hpremise := hquantifier.append d.body.premise.destination.spelled
  have hrender := hpremise.phrase (.word (w := "then") rfl) h
  unfold Premise.words
  simp only [List.append_assoc, List.cons_append, List.nil_append] at hrender ⊢
  exact hrender

end Grammar

namespace Statement

open Grammar

/-! ## Texts of one statement -/

/-- The statement under the name that it has if it is given none, as the first of a policy. -/
def unnamed (s : Statement) : Statement :=
  { s with name := defaultName 1, name_ne_blank := defaultName_not_blank 1 }

theorem rename_eq_ok {s t : Statement} {name : Value} (h : s.rename name = .ok t) :
    t.unnamed = s.unnamed := by
  unfold rename at h
  cases hname : checkNameValue name with
  | error e =>
    rw [hname] at h
    exact nomatch h
  | ok n =>
    rw [hname] at h
    obtain rfl := Except.ok.inj h
    rfl

theorem rename_text (s : Statement) {name : String} (h : Text.isBlankText name = false) :
    s.rename (.text name) = .ok { s with name, name_ne_blank := h } := by
  unfold rename checkNameValue checkName
  simp only
  rw [dif_pos h]
  rfl

/-- The statement under another name, if one is given. -/
def renamed (s : Statement) : Option Value → Except Malformed Statement
  | none => .ok s
  | some name => s.rename name

/-- A text of one statement is a policy of one statement, which may be given another name. -/
theorem parse_eq_ok_iff_policy {text : String} {name : Option Value} {s : Statement} :
    parse text name = .ok s ↔
      ∃ p t, Policy.parse (closed text) (.text "statement") = .ok p ∧ p.statements = [t] ∧
        t.renamed name = .ok s := by
  unfold parse
  cases hp : Policy.parse (closed text) (.text "statement") with
  | error e => exact iff_of_false nofun fun ⟨_, _, h, _⟩ => nomatch h
  | ok p =>
    simp only [Except.ok.injEq, exists_and_left, exists_eq_left']
    obtain ⟨pname, ss, distinct⟩ := p
    cases ss with
    | nil => exact iff_of_false nofun fun ⟨_, h, _⟩ => nomatch h
    | cons t ss =>
      cases ss with
      | cons u us => exact iff_of_false nofun fun ⟨_, h, _⟩ => nomatch h
      | nil =>
        simp only [List.cons.injEq, and_true, exists_eq_left']
        cases name with
        | none =>
          -- the two sides can fail in different ways, so they are not the same by definition
          show (Except.ok t : Except SyntaxError _) = .ok s ↔
            (Except.ok t : Except Malformed _) = .ok s
          simp only [Except.ok.injEq]
        | some v => exact Policy.mapError_eq_ok

/-- What is read is what the sentence denotes that the text spells. -/
theorem parse_eq_ok {text : String} {name : Option Value} {s : Statement} :
    parse text name = .ok s ↔
      ∃ ts d, Tokens.ofText (closed text) = .ok ts ∧ ts.Derives [d] ∧
        (d.denoted 1).renamed name = .ok s := by
  rw [parse_eq_ok_iff_policy]
  constructor
  · rintro ⟨p, t, hp, ht, hs⟩
    obtain ⟨ts, ds, htext, hds, -, hstatements⟩ := Policy.parse_eq_ok.1 hp
    obtain ⟨d, rfl, rfl⟩ := Sentence.denotedFrom_eq_singleton.1 (hstatements.symm.trans ht)
    exact ⟨ts, d, htext, hds, hs⟩
  · rintro ⟨ts, d, htext, hd, hs⟩
    have hp : Policy.parse (closed text) (.text "statement") =
        .ok ⟨.text "statement", [d.denoted 1], by simp⟩ :=
      Policy.parse_eq_ok.2 ⟨ts, [d], htext, hd, rfl, rfl⟩
    exact ⟨_, _, hp, rfl, hs⟩

/-- A statement that is read is one that a sentence denotes, up to its name. -/
theorem exists_denoted {text : String} {name : Option Value} {s : Statement}
    (h : parse text name = .ok s) : ∃ d : Sentence, (d.denoted 1).unnamed = s.unnamed := by
  obtain ⟨-, d, -, -, hrenamed⟩ := parse_eq_ok.1 h
  refine ⟨d, ?_⟩
  cases name with
  | none => rw [Except.ok.inj hrenamed]
  | some v => exact (rename_eq_ok hrenamed).symm

/-- A sentence whose obligation is not empty is rendered as a text of the same statement. -/
theorem exists_rereading (d : Sentence) (hne : d.body.formula ≠ .atom .always) :
    ∃ ts e, Tokens.ofText (closed (d.denoted 1).render) = .ok ts ∧ ts.Derives [e] ∧
      e.denoted 1 = (d.denoted 1).unnamed := by
  obtain ⟨o, ho, hspelled⟩ := d.body.readsBack hne
  obtain ⟨ts, htext, hwords⟩ := (d.render_spelled 1 hspelled).ofText_closed
  have hformula : (d.body.premise.sentence o).body.formula = d.body.formula := ho
  refine ⟨ts, d.body.premise.sentence o, htext, ?_, ?_⟩
  · show ts.rest.map Token.text = [d.body.premise.sentence o].flatMap Sentence.words
    rw [hwords, List.flatMap_singleton]
    rfl
  · unfold Sentence.denoted unnamed
    simp only [hformula]
    rfl

/-- The text of a statement that was read, and whose obligation is not empty, reads back as a
statement with the same markers, the same relation and quantifiers and the very same obligation. It
is the same statement if it is given the same name, and it is rendered by the same text in any
case. -/
theorem parse_render {text : String} {name : Option Value} {s : Statement}
    (h : parse text name = .ok s) (hobligation : s.obligation ≠ .always) :
    ∃ t, parse s.render none = .ok t ∧ t.source = s.source ∧ t.destination = s.destination ∧
      t.kind = s.kind ∧ t.sourceQuantifier = s.sourceQuantifier ∧
      t.destinationQuantifier = s.destinationQuantifier ∧ t.obligation = s.obligation ∧
      parse s.render (some (.text s.name)) = .ok s ∧ t.render = s.render ∧
      parse t.render none = .ok t := by
  obtain ⟨d, hd⟩ := exists_denoted h
  have hrender : s.render = (d.denoted 1).render := by
    show s.unnamed.render = (d.denoted 1).unnamed.render
    rw [hd]
  have hne : d.body.formula ≠ .atom .always := by
    intro hformula
    apply hobligation
    have hsame : Obligation.pair d.body.formula = s.obligation := congrArg obligation hd
    rw [← hsame, hformula]
    rfl
  obtain ⟨ts, e, htext, he, hdenoted⟩ := exists_rereading d hne
  rw [hd] at hdenoted
  rw [← hrender] at htext
  have hplain : parse s.render none = .ok s.unnamed :=
    parse_eq_ok.2 ⟨ts, e, htext, he, congrArg Except.ok hdenoted⟩
  have hnamed : parse s.render (some (.text s.name)) = .ok s := by
    refine parse_eq_ok.2 ⟨ts, e, htext, he, ?_⟩
    rw [hdenoted]
    exact s.unnamed.rename_text s.name_ne_blank
  exact ⟨s.unnamed, hplain, rfl, rfl, rfl, rfl, rfl, rfl, hnamed, rfl, hplain⟩

/-- A text that joins a checkpoint of the premise and a disjunction, the last part of which is a
group for no need. -/
def joinedText : String :=
  "gate: some a flows to all b through some c then a flows to b and b flows to a or (b flows to b)"

/-- The text of the statement, which is named otherwise if it is not told its name. -/
def joinedRendering : String :=
  "some a flows to all b then (a flows to b through some c) and " ++
  "(((a flows to b) and (b flows to a)) or (b flows to b))"

theorem joinedText_render :
    ∃ s t, parse joinedText none = .ok s ∧ s.obligation ≠ .always ∧ s.render = joinedRendering ∧
      parse joinedRendering none = .ok t ∧ s.name = "gate" ∧ t.render = joinedRendering ∧
      parse joinedRendering (some (.text "gate")) = .ok s := by
  have hrun : (parse joinedText none).toOption.map (fun s =>
      (s.obligation.isAlways, s.render, s.name)) = some (false, joinedRendering, "gate") := by
    decide +kernel
  obtain ⟨s, hs, hparts⟩ := Policy.toOption_map_eq_some.1 hrun
  rw [Prod.mk.injEq, Prod.mk.injEq] at hparts
  have hobligation : s.obligation ≠ .always := by
    intro halways
    rw [halways] at hparts
    exact nomatch hparts.1
  obtain ⟨t, ht, -, -, -, -, -, -, hnamed, hrender, -⟩ := parse_render hs hobligation
  rw [hparts.2.1] at ht hnamed hrender
  rw [hparts.2.2] at hnamed
  exact ⟨s, t, hs, hobligation, hparts.2.1, ht, hparts.2.2, hrender, hnamed⟩

end Statement

end InfoFlow
