import InfoFlow.Proofs.Grammar.Closing
/-!
# Joined policy texts

A line feed completes whatever a text ends in, so the tokens of two texts with a line feed between
them are the tokens of the one and then those of the other. As a sentence ends at its own period,
the sentences are too. What the second text states is stated behind what the first one does: only
the names that stand for a place change.
-/

namespace InfoFlow

open Grammar

/-! ## Tokens -/

theorem Lexer.Passes.joined {mode m : Mode} {p q : Position} {cs ds : List Char}
    {us vs : List Token} {n : Mode} {r s : Position} (h : Passes mode p cs us m q)
    (hds : Passes .between r ds vs n s) :
    ∃ ws k t, Passes mode p (cs ++ '\n' :: ds) ws k t ∧
      (ws ++ k.pending).map Token.text =
        (us ++ m.pending).map Token.text ++ (vs ++ n.pending).map Token.text := by
  -- behind the line feed nothing is being read, so the other text is read as if it stood alone
  obtain ⟨ws, k, t, hws, htexts, halike⟩ := hds.elsewhere (Mode.Alike.refl .between) (q.after '\n')
  have hline : Steps q '\n' m m.pending .between := steps_newline.2 ⟨rfl, rfl⟩
  refine ⟨us ++ (m.pending ++ ws), k, t, passes_append.2 ⟨us, _, m, q, h, .cons hline hws, rfl⟩, ?_⟩
  simp only [List.map_append, htexts, halike.pending, List.append_assoc]

theorem Tokens.ofText_joined {first second : String} {ts us : Tokens}
    (hts : ofText first = .ok ts) (hus : ofText second = .ok us) :
    ∃ vs, ofText (first ++ "\n" ++ second) = .ok vs ∧
      vs.rest.map Token.text = ts.rest.map Token.text ++ us.rest.map Token.text := by
  obtain ⟨xs, m, hxs, hfirst⟩ := ofText_eq_ok.1 hts
  obtain ⟨ys, n, hys, hsecond⟩ := ofText_eq_ok.1 hus
  obtain ⟨zs, k, stop, hzs, htexts⟩ := hxs.joined hys
  have hchars : (first ++ "\n" ++ second).toList = first.toList ++ '\n' :: second.toList := by
    rw [String.toList_append, String.toList_append, List.append_assoc]
    rfl
  rw [← hchars] at hzs
  refine ⟨⟨zs ++ k.pending, stop⟩, ofText_eq_ok.2 ⟨zs, k, hzs, rfl⟩, ?_⟩
  rw [hfirst, hsecond]
  exact htexts

/-! ## Statements -/

namespace Grammar.Sentence

/-- The statement that a sentence denotes at a place, once so many others stand in front of it. Only
a name that stands for the place changes. -/
def moved (before : Nat) (d : Sentence) (index : Nat) (s : Statement) : Statement :=
  match d.name with
  | some _ => s
  | none =>
    { s with
      name := defaultName (before + index)
      name_ne_blank := defaultName_not_blank (before + index) }

/-- The statements that a row of sentences denotes from a place on, once so many others stand in
front of them. -/
def movedFrom (before index : Nat) : List Sentence → List Statement → List Statement
  | d :: ds, s :: ss => d.moved before index s :: movedFrom before (index + 1) ds ss
  | _, _ => []

theorem moved_denoted (before index : Nat) (d : Sentence) :
    d.moved before index (d.denoted index) = d.denoted (before + index) := by
  obtain ⟨name, opening, body⟩ := d
  cases name <;> rfl

theorem movedFrom_denotedFrom (before index : Nat) (ds : List Sentence) :
    movedFrom before index ds (denotedFrom index ds) = denotedFrom (before + index) ds := by
  induction ds generalizing index with
  | nil => rfl
  | cons d ds ih =>
    rw [denotedFrom, movedFrom, moved_denoted, ih]
    rfl

theorem denotedFrom_append (index : Nat) (ds es : List Sentence) :
    denotedFrom index (ds ++ es) = denotedFrom index ds ++ denotedFrom (ds.length + index) es := by
  induction ds generalizing index with
  | nil => rw [List.nil_append, denotedFrom, List.nil_append, List.length_nil, Nat.zero_add]
  | cons d ds ih =>
    rw [List.cons_append, denotedFrom, denotedFrom, ih, List.length_cons, List.cons_append,
      Nat.add_right_comm, Nat.add_assoc]

theorem length_denotedFrom (index : Nat) (ds : List Sentence) :
    (denotedFrom index ds).length = ds.length := by
  induction ds generalizing index with
  | nil => rfl
  | cons d ds ih => rw [denotedFrom, List.length_cons, ih, List.length_cons]

end Grammar.Sentence

/-! ## Policies -/

namespace Policy

theorem parse_iff_of_derives {text : String} {ts : Tokens} {ds : List Sentence}
    (htext : Tokens.ofText text = .ok ts) (hds : ts.Derives ds) (name : Value) :
    ((∃ p, parse text name = .ok p) ↔
        ((Sentence.denotedFrom 1 ds).map Statement.name).Nodup) ∧
      ∀ p, parse text name = .ok p ↔ p.name = name ∧ p.statements = Sentence.denotedFrom 1 ds := by
  have hiff (p : Policy) :
      parse text name = .ok p ↔ p.name = name ∧ p.statements = Sentence.denotedFrom 1 ds := by
    rw [parse_eq_ok]
    constructor
    · rintro ⟨us, es, hus, hes, hname, hss⟩
      obtain rfl := Except.ok.inj (htext.symm.trans hus)
      obtain rfl := hds.unique hes
      exact ⟨hname, hss⟩
    · exact fun ⟨hname, hss⟩ => ⟨ts, ds, htext, hds, hname, hss⟩
  refine ⟨⟨?_, fun h => ⟨⟨name, _, h⟩, (hiff _).2 ⟨rfl, rfl⟩⟩⟩, hiff⟩
  rintro ⟨p, hp⟩
  rw [← ((hiff p).1 hp).2]
  exact p.distinct

/-- Two texts of policies, with a line feed between them, are the text of a policy exactly if the
names of their statements are distinct once those of the second text that stand for a place are
moved behind the first one. The policy then holds the statements of the first text and behind them
those of the second one, which but for these names are as they were. -/
theorem parse_joined {first second : String} {m n : Value} {p q : Policy}
    (hp : parse first m = .ok p) (hq : parse second n = .ok q) (name : Value) :
    ∃ ts ds, Tokens.ofText second = .ok ts ∧ (∀ es, ts.Derives es ↔ es = ds) ∧
      ds.length = q.statements.length ∧
      let ss := p.statements ++ Sentence.movedFrom p.statements.length 1 ds q.statements
      ((∃ r, parse (first ++ "\n" ++ second) name = .ok r) ↔ (ss.map Statement.name).Nodup) ∧
        ∀ r, parse (first ++ "\n" ++ second) name = .ok r ↔ r.name = name ∧ r.statements = ss := by
  obtain ⟨ts, ds, hts, hds, -, hfirst⟩ := parse_eq_ok.1 hp
  obtain ⟨us, es, hus, hes, -, hsecond⟩ := parse_eq_ok.1 hq
  obtain ⟨vs, hvs, htexts⟩ := Tokens.ofText_joined hts hus
  have hboth : vs.Derives (ds ++ es) := by
    unfold Tokens.Derives
    rw [htexts, hds, hes, List.flatMap_append]
  have hss : Sentence.denotedFrom 1 (ds ++ es) =
      p.statements ++ Sentence.movedFrom p.statements.length 1 es q.statements := by
    rw [hfirst, hsecond, Sentence.denotedFrom_append, Sentence.movedFrom_denotedFrom,
      Sentence.length_denotedFrom]
  refine ⟨us, es, hus, fun es' => ⟨fun h => h.unique hes, fun h => h ▸ hes⟩, ?_, ?_⟩
  · rw [hsecond, Sentence.length_denotedFrom]
  · rw [← hss]
    exact parse_iff_of_derives hvs hboth name

/-- A text that ends in a comment. -/
def frontText : String := "some a flows to all b. # doors."

/-- A text with a statement that is named by its place, and one that has a name. -/
def backText : String := "all b flows to some a.\tgate: some b flows to some a."

theorem frontText_joined_backText :
    ∃ p q r ds, parse frontText .null = .ok p ∧ parse backText .null = .ok q ∧
      parse (frontText ++ "\n" ++ backText) .null = .ok r ∧
      r.statements = p.statements ++ Sentence.movedFrom 1 1 ds q.statements ∧
      r.statements.map Statement.name = ["statement_1", "statement_2", "gate"] := by
  have hfront : (parse frontText .null).toOption.map (fun p => p.statements.length) = some 1 := by
    decide +kernel
  have hback : (parse backText .null).toOption.isSome = true := by decide +kernel
  have hboth : (parse (frontText ++ "\n" ++ backText) .null).toOption.map
      (fun p => p.statements.map Statement.name) = some ["statement_1", "statement_2", "gate"] := by
    decide +kernel
  obtain ⟨p, hp, hlength⟩ := toOption_map_eq_some.1 hfront
  obtain ⟨r, hr, hnames⟩ := toOption_map_eq_some.1 hboth
  cases hq : parse backText .null with
  | error e =>
    rw [hq] at hback
    exact nomatch hback
  | ok q =>
    obtain ⟨-, ds, -, -, -, -, hiff⟩ := parse_joined hp hq .null
    rw [hlength] at hiff
    exact ⟨p, q, r, ds, hp, rfl, hr, ((hiff r).1 hr).2, hnames⟩

end Policy

end InfoFlow
