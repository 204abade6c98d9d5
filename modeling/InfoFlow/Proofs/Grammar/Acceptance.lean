import InfoFlow.Proofs.Grammar.Denotation
import InfoFlow.Proofs.Grammar.Sentences
/-!
# Which policies are accepted

A policy is accepted exactly if its tokens are written as a row of sentences and the statements that
these denote have distinct names. There is at most one such row, and the policy holds what it
denotes.
-/

namespace InfoFlow

open Grammar

/-- The tokens are written as a row of sentences. -/
def Tokens.Derives (ts : Tokens) (ds : List Sentence) : Prop :=
  ts.rest.map Token.text = ds.flatMap Sentence.words

theorem Tokens.derives_iff {ts : Tokens} {ds : List Sentence} :
    ts.Derives ds ↔ ∃ us : Tokens, us.rest = [] ∧ ts.Spells (ds.flatMap Sentence.words) us := by
  constructor
  · intro h
    exact ⟨⟨[], ts.stop⟩, rfl, ts.rest, h, by rw [List.append_nil]⟩
  · rintro ⟨us, hus, front, hfront, rfl⟩
    unfold Derives
    rw [hus, List.append_nil]
    exact hfront

namespace Parser

open Tokens

/-! ## Statements -/

theorem demand_eq_ok {α : Type} {at' : Position} {x : Except Malformed α} {ts us : Tokens} {a : α} :
    demand at' x ts = .ok (a, us) ↔ x = .ok a ∧ ts = us := by
  cases x with
  | error cause => exact iff_of_false nofun nofun
  | ok b => rw [demand, pure_eq_ok, Except.ok.injEq]

theorem statement_eq_ok {index : Nat} {ts us : Tokens} {s : Statement} :
    statement index ts = .ok (s, us) ↔
      ∃ d : Sentence, ts.Spells d.words us ∧ d.denoted index = s := by
  unfold statement
  simp only [bind_eq_ok, peek_eq_ok, sentence_eq_ok, demand_eq_ok, Sentence.statement_eq,
    Except.ok.injEq]
  constructor
  · rintro ⟨-, _, ⟨-, rfl⟩, d, t1, h, rfl, rfl⟩
    exact ⟨d, h, rfl⟩
  · rintro ⟨d, h, rfl⟩
    exact ⟨_, ts, ⟨rfl, rfl⟩, d, us, h, rfl, rfl⟩

theorem statements_eq_ok {fuel index : Nat} {ts us : Tokens} {ss : List Statement} :
    statements fuel index ts = .ok (ss, us) ↔
      us.rest = [] ∧ ∃ ds : List Sentence, ds.length < fuel ∧
        ts.Spells (ds.flatMap Sentence.words) us ∧ Sentence.denotedFrom index ds = ss := by
  induction fuel generalizing index ts us ss with
  | zero =>
    rw [statements, failHere_eq_ok]
    exact iff_of_false id fun ⟨_, _, hlength, _⟩ => Nat.not_lt_zero _ hlength
  | succ fuel ih =>
    rw [statements]
    change (if ts.rest.isEmpty = true then Except.ok ([], ts) else _) = _ ↔ _
    by_cases hrest : ts.rest = []
    · rw [if_pos (List.isEmpty_iff.2 hrest), Except.ok.injEq, Prod.mk.injEq]
      constructor
      · rintro ⟨rfl, rfl⟩
        exact ⟨hrest, [], Nat.succ_pos fuel, spells_nil.2 rfl, rfl⟩
      · rintro ⟨-, ds, -, hspells, rfl⟩
        cases ds with
        | nil => exact ⟨rfl, spells_nil.1 hspells⟩
        | cons d ds =>
          have hlength := hspells.length_le
          have hpos := d.length_words_pos
          rw [List.flatMap_cons, List.length_append, hrest, List.length_nil] at hlength
          omega
    · rw [if_neg (by rw [List.isEmpty_iff]; exact hrest)]
      simp only [bind_eq_ok, statement_eq_ok, pure_eq_ok, ih]
      constructor
      · rintro ⟨_, t1, ⟨d, h1, rfl⟩, _, t2, ⟨hend, ds, hlength, h2, rfl⟩, rfl, rfl⟩
        refine ⟨hend, d :: ds, Nat.succ_lt_succ hlength, ?_, rfl⟩
        exact spells_append.2 ⟨t1, h1, h2⟩
      · rintro ⟨hend, ds, hlength, hspells, rfl⟩
        cases ds with
        | nil =>
          obtain rfl := spells_nil.1 hspells
          exact absurd hend hrest
        | cons d ds =>
          obtain ⟨t1, h1, h2⟩ := spells_append.1 hspells
          exact ⟨_, t1, ⟨d, h1, rfl⟩, _, us, ⟨hend, ds, Nat.lt_of_succ_lt_succ hlength, h2, rfl⟩,
            rfl, rfl⟩

/-- A row of sentences has no more sentences than words. -/
theorem length_le_length_words (ds : List Sentence) :
    ds.length ≤ (ds.flatMap Sentence.words).length := by
  induction ds with
  | nil => exact Nat.le_refl _
  | cons d ds ih =>
    have hpos := d.length_words_pos
    rw [List.length_cons, List.flatMap_cons, List.length_append]
    omega

end Parser

/-! ## Derivations are unique -/

theorem Tokens.Derives.unique {ts : Tokens} {ds es : List Sentence} (hds : ts.Derives ds)
    (hes : ts.Derives es) : ds = es := by
  have hempty {ts : Tokens} {d : Sentence} {ds : List Sentence} (h : ts.Derives (d :: ds)) :
      ¬ts.Derives [] := by
    intro hnil
    have hpos := d.length_words_pos
    have hlength := congrArg List.length (h.symm.trans hnil)
    rw [List.flatMap_cons, List.length_append, List.flatMap_nil, List.length_nil] at hlength
    omega
  induction ds generalizing ts es with
  | nil =>
    cases es with
    | nil => rfl
    | cons e es => exact absurd hds (hempty hes)
  | cons d ds ih =>
    cases es with
    | nil => exact absurd hes (hempty hds)
    | cons e es =>
      obtain ⟨us, hus, h⟩ := derives_iff.1 hds
      obtain ⟨vs, hvs, k⟩ := derives_iff.1 hes
      obtain ⟨t1, h1, h2⟩ := spells_append.1 h
      obtain ⟨t2, k1, k2⟩ := spells_append.1 k
      -- both sentences are what the parser reads
      have hboth := (Parser.sentence_eq_ok.2 h1).symm.trans (Parser.sentence_eq_ok.2 k1)
      obtain ⟨rfl, rfl⟩ := Prod.mk.inj (Except.ok.inj hboth)
      rw [ih (derives_iff.2 ⟨us, hus, h2⟩) (derives_iff.2 ⟨vs, hvs, k2⟩)]

/-! ## Policies -/

namespace Policy

theorem ofStatements_eq_ok {name : Value} {ss : List Statement} {p : Policy} :
    ofStatements name ss = .ok p ↔ p.name = name ∧ p.statements = ss := by
  unfold ofStatements
  split
  · rename_i n hrepeated
    refine iff_of_false nofun fun ⟨_, hss⟩ => ?_
    have hdistinct := p.distinct
    rw [hss] at hdistinct
    have hnone := firstRepeated?_eq_none.2 ⟨hdistinct, fun _ _ => List.not_mem_nil⟩
    rw [hnone] at hrepeated
    exact nomatch hrepeated
  · obtain ⟨name', statements, distinct⟩ := p
    rw [Except.ok.injEq, Policy.mk.injEq, eq_comm (a := name), eq_comm (a := ss)]

theorem mapError_eq_ok {α ε δ : Type} {x : Except ε α} {g : ε → δ} {a : α} :
    x.mapError g = .ok a ↔ x = .ok a := by
  cases x with
  | error e => exact iff_of_false nofun nofun
  | ok b =>
    change Except.ok b = Except.ok a ↔ _
    rw [Except.ok.injEq, Except.ok.injEq]

theorem toOption_map_eq_some {α ε β : Type} {x : Except ε α} {g : α → β} {b : β} :
    x.toOption.map g = some b ↔ ∃ a, x = .ok a ∧ g a = b := by
  cases x with
  | error e => exact iff_of_false nofun fun ⟨_, h, _⟩ => nomatch h
  | ok a =>
    show some (g a) = some b ↔ _
    simp only [Option.some.injEq, Except.ok.injEq, exists_eq_left']

theorem ofTokens_eq_ok {name : Value} {ts : Tokens} {p : Policy} :
    ofTokens name ts = .ok p ↔
      ∃ ds, ts.Derives ds ∧ p.name = name ∧ p.statements = Sentence.denotedFrom 1 ds := by
  have hrun : ofTokens name ts = .ok p ↔
      ∃ ss us, Parser.statements (ts.rest.length + 1) 1 ts = .ok (ss, us) ∧
        ofStatements name ss = .ok p := by
    unfold ofTokens
    change ((Parser.statements (ts.rest.length + 1) 1 ts).map Prod.fst >>= _) = _ ↔ _
    cases Parser.statements (ts.rest.length + 1) 1 ts with
    | error e => exact ⟨nofun, fun ⟨_, _, h, _⟩ => nomatch h⟩
    | ok x =>
      change (ofStatements name x.1).mapError _ = _ ↔ _
      rw [mapError_eq_ok]
      constructor
      · exact fun hp => ⟨x.1, x.2, rfl, hp⟩
      · rintro ⟨ss, us, hx, hp⟩
        obtain rfl := Except.ok.inj hx
        exact hp
  rw [hrun]
  simp only [Parser.statements_eq_ok, ofStatements_eq_ok]
  constructor
  · rintro ⟨ss, us, ⟨hus, ds, -, hspells, rfl⟩, hname, hss⟩
    exact ⟨ds, Tokens.derives_iff.2 ⟨us, hus, hspells⟩, hname, hss⟩
  · rintro ⟨ds, hds, hname, hss⟩
    obtain ⟨us, hus, hspells⟩ := Tokens.derives_iff.1 hds
    have hlength := hspells.length_le
    have hle := Parser.length_le_length_words ds
    exact ⟨_, us, ⟨hus, ds, by omega, hspells, rfl⟩, hname, hss⟩

theorem parse_eq_ok {text : String} {name : Value} {p : Policy} :
    parse text name = .ok p ↔
      ∃ ts ds, Tokens.ofText text = .ok ts ∧ ts.Derives ds ∧ p.name = name ∧
        p.statements = Sentence.denotedFrom 1 ds := by
  unfold parse
  cases htext : Tokens.ofText text with
  | error e => exact iff_of_false nofun fun ⟨_, _, h, _⟩ => nomatch h
  | ok ts =>
    show ofTokens name ts = .ok p ↔ _
    rw [ofTokens_eq_ok]
    constructor
    · rintro ⟨ds, hds, hname, hss⟩
      exact ⟨ts, ds, rfl, hds, hname, hss⟩
    · rintro ⟨us, ds, hus, hds, hname, hss⟩
      obtain rfl := Except.ok.inj hus
      exact ⟨ds, hds, hname, hss⟩

/-- The tokens of a text are a row of sentences in at most one way; the policy is accepted exactly
if they are and the names are distinct; and then it holds, in order, what the sentences denote. -/
theorem ofTokens_accepts_iff_derives (name : Value) (ts : Tokens) :
    (∀ text, Tokens.ofText text = .ok ts → parse text name = ofTokens name ts) ∧
      (∀ ds es, ts.Derives ds → ts.Derives es → ds = es) ∧
      ((∃ p, ofTokens name ts = .ok p) ↔
        ∃ ds, ts.Derives ds ∧ (Sentence.namesFrom 1 ds).Nodup) ∧
      ∀ p, ofTokens name ts = .ok p ↔
        ∃ ds, ts.Derives ds ∧ p.name = name ∧ p.statements = Sentence.denotedFrom 1 ds := by
  refine ⟨fun text htext => ?_, fun ds es => Tokens.Derives.unique, ?_, fun p => ofTokens_eq_ok⟩
  · unfold parse
    rw [htext]
    rfl
  · constructor
    · rintro ⟨p, hp⟩
      obtain ⟨ds, hds, -, hss⟩ := ofTokens_eq_ok.1 hp
      refine ⟨ds, hds, ?_⟩
      rw [← Sentence.map_name_denotedFrom, ← hss]
      exact p.distinct
    · rintro ⟨ds, hds, hnames⟩
      rw [← Sentence.map_name_denotedFrom] at hnames
      exact ⟨⟨name, Sentence.denotedFrom 1 ds, hnames⟩, ofTokens_eq_ok.2 ⟨ds, hds, rfl, rfl⟩⟩

/-- A text of two statements, the second of which is named by its place. -/
def sampleText : String :=
  "a: if some x flows to all y then (x is authorized by some z) and y flows to x through some w." ++
  " some x has control flow influence on all y."

theorem sampleText_derives :
    ∃ ts ds, Tokens.ofText sampleText = .ok ts ∧ ts.Derives ds ∧
      Sentence.namesFrom 1 ds = ["a", "statement_2"] := by
  have hrun : ((Tokens.ofText sampleText).toOption.bind fun ts => (ofTokens .null ts).toOption.map
      fun p => p.statements.map Statement.name) = some ["a", "statement_2"] := by decide +kernel
  cases hts : Tokens.ofText sampleText with
  | error e =>
    rw [hts] at hrun
    exact nomatch hrun
  | ok ts =>
    obtain ⟨-, -, -, hiff⟩ := ofTokens_accepts_iff_derives .null ts
    cases hp : ofTokens .null ts with
    | error e =>
      simp only [hts, Except.toOption, Option.bind_some, hp, Option.map_none, reduceCtorEq] at hrun
    | ok p =>
      simp only [hts, Except.toOption, Option.bind_some, hp, Option.map_some,
        Option.some.injEq] at hrun
      obtain ⟨ds, hds, -, hss⟩ := (hiff p).1 hp
      refine ⟨ts, ds, rfl, hds, ?_⟩
      rw [← Sentence.map_name_denotedFrom, ← hss]
      exact hrun

end Policy

end InfoFlow
