import InfoFlow.Proofs.Grammar.Refusals
/-!
# Where tokens stand

Layout, line ends and comments decide where the tokens of a text stand, and nothing else. A parser
looks at the kind and the text of a token, and at its place only to say where something is wrong. So
two texts with the same tokens are read alike, step by step: what one step leaves to the next is the
same row of tokens again, though at other places.
-/

namespace InfoFlow

open Grammar

/-! ## The same tokens -/

/-- What a token is, wherever it stands. -/
def Token.lexeme (t : Token) : TokenKind × String := (t.kind, t.text)

/-- The same tokens, perhaps at other places. -/
def Tokens.SameLexemes (ts us : Tokens) : Prop :=
  ts.rest.map Token.lexeme = us.rest.map Token.lexeme

namespace Token

variable {t u : Token}

theorem text_eq (h : t.lexeme = u.lexeme) : t.text = u.text := congrArg Prod.snd h

theorem kind_eq (h : t.lexeme = u.lexeme) : t.kind = u.kind := congrArg Prod.fst h

theorem describe_eq (h : t.lexeme = u.lexeme) : t.describe = u.describe := by
  unfold describe
  rw [kind_eq h, text_eq h]

theorem isName_eq (h : t.lexeme = u.lexeme) : t.isName = u.isName := by
  unfold isName
  rw [kind_eq h, text_eq h]

end Token

namespace Tokens.SameLexemes

variable {ts us : Tokens}

theorem symm (h : ts.SameLexemes us) : us.SameLexemes ts := Eq.symm h

theorem length_eq (h : ts.SameLexemes us) : ts.rest.length = us.rest.length := by
  have hlength := congrArg List.length h
  rwa [List.length_map, List.length_map] at hlength

theorem head_eq (h : ts.SameLexemes us) : ts.head.lexeme = us.head.lexeme := by
  obtain ⟨rest, stop⟩ := ts
  obtain ⟨rest', stop'⟩ := us
  change rest.map Token.lexeme = rest'.map Token.lexeme at h
  cases rest with
  | nil =>
    -- the end of a text is the same token wherever the text ends
    obtain rfl := List.map_eq_nil_iff.1 h.symm
    rfl
  | cons t rest =>
    obtain ⟨u, rest', rfl, hu, -⟩ := List.map_eq_cons_iff.1 h.symm
    exact hu.symm

theorem drop (h : ts.SameLexemes us) (n : Nat) :
    SameLexemes { ts with rest := ts.rest.drop n } { us with rest := us.rest.drop n } := by
  change (ts.rest.drop n).map Token.lexeme = (us.rest.drop n).map Token.lexeme
  rw [List.map_drop, List.map_drop, h]

theorem texts_eq (h : ts.SameLexemes us) : ts.rest.map Token.text = us.rest.map Token.text := by
  have htexts := congrArg (List.map Prod.snd) h
  rwa [List.map_map, List.map_map] at htexts

theorem spells (h : ts.SameLexemes us) {ws : List String} {ms : Tokens} (hms : ts.Spells ws ms) :
    ∃ ns, us.Spells ws ns ∧ ms.SameLexemes ns := by
  obtain ⟨hws, rfl⟩ := spells_iff.1 hms
  rw [List.map_take, h.texts_eq, ← List.map_take] at hws
  exact ⟨_, spells_iff.2 ⟨hws, rfl⟩, h.drop ws.length⟩

end Tokens.SameLexemes

namespace Parser

open Tokens

variable {α β : Type}

/-! ## Steps -/

/-- Two readings end alike: with related results and the same tokens left, or for the same
reason. -/
inductive EndsAlike (R : α → α → Prop) :
    Except SyntaxError (α × Tokens) → Except SyntaxError (α × Tokens) → Prop where
  | ok {a b : α} {ts us : Tokens} (hab : R a b) (h : ts.SameLexemes us) :
    EndsAlike R (.ok (a, ts)) (.ok (b, us))
  | error {e e' : SyntaxError} (h : e.reason = e'.reason) : EndsAlike R (.error e) (.error e')

/-- Two parsers read the same tokens alike, wherever these stand. -/
def ReadsAlike (R : α → α → Prop) (p q : Parser α) : Prop :=
  ∀ ts us, ts.SameLexemes us → EndsAlike R (p ts) (q us)

/-- A parser reads the same result from the same tokens, wherever these stand. -/
def Placeless (p : Parser α) : Prop := ReadsAlike Eq p p

theorem ReadsAlike.bind {R : α → α → Prop} {S : β → β → Prop} {p q : Parser α}
    {f f' : α → Parser β} (h : ReadsAlike R p q) (hf : ∀ a b, R a b → ReadsAlike S (f a) (f' b)) :
    ReadsAlike S (p >>= f) (q >>= f') := by
  intro ts us hsame
  change EndsAlike S (p ts >>= fun x => f x.1 x.2) (q us >>= fun x => f' x.1 x.2)
  have hend := h ts us hsame
  generalize p ts = x at hend
  generalize q us = y at hend
  cases hend with
  | ok hab hsame => exact hf _ _ hab _ _ hsame
  | error h => exact .error h

variable {p q : Parser α} {ws : List String}

theorem Placeless.bind {S : β → β → Prop} {f f' : α → Parser β} (hp : Placeless p)
    (hf : ∀ a, ReadsAlike S (f a) (f' a)) : ReadsAlike S (p >>= f) (p >>= f') := by
  refine ReadsAlike.bind hp ?_
  rintro a _ rfl
  exact hf a

theorem placeless_pure (a : α) : Placeless (pure a : Parser α) := fun _ _ hsame => .ok rfl hsame

theorem fail_alike {R : α → α → Prop} {cause cause' : SyntaxCause} (p p' : Position)
    (h : cause.reason = cause'.reason) : ReadsAlike R (fail cause p) (fail cause' p') :=
  fun _ _ _ => .error h

theorem peek_alike : ReadsAlike (fun t u => t.lexeme = u.lexeme) peek peek :=
  fun _ _ hsame => .ok hsame.head_eq hsame

theorem placeless_skip (n : Nat) : Placeless (skip n) := fun _ _ hsame => .ok rfl (hsame.drop n)

theorem placeless_looksAt (ws : List String) : Placeless (looksAt ws) := by
  intro ts us hsame
  refine .ok ?_ hsame
  rw [List.map_take, List.map_take, hsame.texts_eq]

theorem Placeless.ite_looksAt (hp : Placeless p) (hq : Placeless q) :
    Placeless (looksAt ws >>= fun b => if b = true then p else q) := by
  refine (placeless_looksAt ws).bind fun b => ?_
  cases b with
  | true => exact hp
  | false => exact hq

theorem placeless_accept (ws : List String) : Placeless (accept ws) :=
  Placeless.ite_looksAt ((placeless_skip _).bind fun _ => placeless_pure true)
    (placeless_pure false)

theorem Placeless.ite_accept (hp : Placeless p) (hq : Placeless q) :
    Placeless (accept ws >>= fun b => if b = true then p else q) := by
  refine (placeless_accept ws).bind fun b => ?_
  cases b with
  | true => exact hp
  | false => exact hq

theorem placeless_failHere {cause : Token → SyntaxCause}
    (h : ∀ t u : Token, t.lexeme = u.lexeme → (cause t).reason = (cause u).reason) :
    Placeless (failHere cause : Parser α) :=
  peek_alike.bind fun t u htu => fail_alike t.position u.position (h t u htu)

theorem placeless_expect (w : String) : Placeless (expect w) := by
  have hfail : Placeless (failHere (.expectedText w) : Parser Unit) :=
    placeless_failHere fun _ _ h => congrArg (_ ++ _ ++ _ ++ ·) (Token.describe_eq h)
  refine (placeless_accept [w]).bind fun b => ?_
  cases b with
  | true => exact placeless_pure ()
  | false => exact hfail

theorem placeless_marker : Placeless marker := by
  unfold marker
  refine peek_alike.bind fun t u htu => ?_
  by_cases ht : t.isName = true
  · have hu : u.isName = true := (Token.isName_eq htu).symm.trans ht
    have hname : Name.ofToken t ht = Name.ofToken u hu := Name.ofToken_eq.2 (Token.text_eq htu)
    rw [dif_pos ht, dif_pos hu, hname]
    exact (placeless_skip 1).bind fun _ => placeless_pure _
  · have hu : ¬u.isName = true := fun hu => ht ((Token.isName_eq htu).trans hu)
    rw [dif_neg ht, dif_neg hu]
    exact fail_alike _ _ (congrArg (_ ++ ·) (Token.describe_eq htu))

/-! ## Premises -/

theorem placeless_quantifier? : Placeless quantifier? :=
  (placeless_pure _).ite_accept ((placeless_pure _).ite_accept (placeless_pure _))

theorem placeless_quantifier : Placeless quantifier := by
  have hfail : Placeless (failHere .expectedQuantifier : Parser Quantifier) :=
    placeless_failHere fun _ _ h => congrArg (_ ++ ·) (Token.describe_eq h)
  refine placeless_quantifier?.bind fun q => ?_
  cases q with
  | some q => exact placeless_pure q
  | none => exact hfail

theorem placeless_relation : Placeless relation := by
  have hfail : Placeless (failHere .expectedRelation : Parser EdgeKind) :=
    placeless_failHere fun _ _ h => congrArg (_ ++ ·) (Token.describe_eq h)
  exact (placeless_pure _).ite_accept ((placeless_pure _).ite_accept hfail)

theorem placeless_premise : Placeless premise := by
  refine placeless_quantifier.bind fun q => ?_
  -- the token of the source is kept for its place only
  refine peek_alike.bind fun t u _ => ?_
  refine placeless_marker.bind fun a => ?_
  refine placeless_relation.bind fun k => ?_
  refine placeless_quantifier.bind fun r => ?_
  refine placeless_marker.bind fun b => ?_
  split
  · exact fail_alike _ _ rfl
  · exact placeless_pure _

/-! ## Obligations -/

theorem placeless_passage (k : EdgeKind) : Placeless (passage k) := by
  unfold passage
  refine Placeless.ite_looksAt ?_ (placeless_pure _)
  split
  · refine (placeless_expect _).bind fun _ => (placeless_expect _).bind fun _ => ?_
    exact placeless_marker.bind fun _ => placeless_pure _
  · exact placeless_failHere fun _ _ _ => rfl

theorem placeless_endpoint (f : Premise) : Placeless (endpoint f) := by
  refine placeless_quantifier?.bind fun q => ?_
  cases q with
  | some q => exact placeless_marker.bind fun m => placeless_pure _
  | none =>
    refine peek_alike.bind fun t u _ => ?_
    refine placeless_marker.bind fun m => ?_
    cases f.side? m with
    | some side => exact placeless_pure _
    | none => exact fail_alike _ _ rfl

theorem authorization_alike (subject : End) (p p' : Position) :
    ReadsAlike Eq (authorization subject p) (authorization subject p') := by
  refine (placeless_expect _).bind fun _ => (placeless_expect _).bind fun _ => ?_
  refine (placeless_expect _).bind fun _ => placeless_marker.bind fun m => ?_
  cases subject with
  | bare side => exact placeless_pure _
  | quantified q n => exact fail_alike _ _ rfl

theorem placeless_flow (f : Premise) : Placeless (flow f) := by
  refine peek_alike.bind fun t u _ => ?_
  refine (placeless_endpoint f).bind fun subject => ?_
  refine (placeless_accept _).bind fun b => ?_
  cases b with
  | true => exact authorization_alike subject t.position u.position
  | false =>
    refine placeless_relation.bind fun k => ?_
    refine (placeless_endpoint f).bind fun target => ?_
    exact (placeless_passage k).bind fun _ => placeless_pure _

theorem placeless_of_fuel (f : Premise) (n : Nat) :
    Placeless (atom f n) ∧ Placeless (conjunction f n) ∧ Placeless (disjunction f n) := by
  induction n with
  | zero =>
    have hdeep {γ : Type} : Placeless (failHere fun _ => .tooDeep : Parser γ) :=
      placeless_failHere fun _ _ _ => rfl
    exact ⟨hdeep, hdeep, hdeep⟩
  | succ n ih =>
    obtain ⟨hatom, hconjunction, hdisjunction⟩ := ih
    refine ⟨?_, ?_, ?_⟩
    · refine Placeless.ite_accept ?_ (placeless_flow f)
      refine hdisjunction.bind fun inner => ?_
      exact (placeless_expect _).bind fun _ => placeless_pure _
    · refine hatom.bind fun a => ?_
      exact Placeless.ite_accept (hconjunction.bind fun _ => placeless_pure _) (placeless_pure _)
    · refine hconjunction.bind fun c => ?_
      exact Placeless.ite_accept (hdisjunction.bind fun _ => placeless_pure _) (placeless_pure _)

theorem placeless_obligation (f : Premise) : Placeless (obligation f) := by
  intro ts us hsame
  -- the same tokens are as many, so both readings have the same fuel
  unfold obligation
  rw [hsame.length_eq]
  exact (placeless_of_fuel f _).2.2 ts us hsame

/-! ## Statements -/

theorem placeless_name? : Placeless name? := by
  intro ts us hsame
  by_cases h : ∃ (n : Name) (ms : Tokens), ts.Spells [n.text, ":"] ms
  · obtain ⟨n, ms, hms⟩ := h
    obtain ⟨ns, hns, hrest⟩ := hsame.spells hms
    rw [name?_of_spells hms, name?_of_spells hns]
    exact .ok rfl hrest
  · have hnone (n : Name) (ns : Tokens) (hns : us.Spells [n.text, ":"] ns) : False := by
      obtain ⟨ms, hms, -⟩ := hsame.symm.spells hns
      exact h ⟨n, ms, hms⟩
    rw [name?_of_not_spells fun n ms hms => h ⟨n, ms, hms⟩, name?_of_not_spells hnone]
    exact .ok rfl hsame

theorem placeless_opening : Placeless opening :=
  Placeless.ite_accept ((placeless_pure _).ite_accept (placeless_pure _)) (placeless_pure _)

theorem placeless_clause? (f : Premise) : Placeless (clause? f) :=
  Placeless.ite_accept ((placeless_obligation f).bind fun _ => placeless_pure _) (placeless_pure _)

theorem placeless_body : Placeless body := by
  refine Placeless.ite_accept ?_ ?_
  · refine placeless_premise.bind fun f => (placeless_expect _).bind fun _ => ?_
    exact (placeless_obligation f).bind fun _ => placeless_pure _
  · refine placeless_premise.bind fun f => (placeless_passage _).bind fun p => ?_
    exact (placeless_clause? f).bind fun _ => placeless_pure _

theorem placeless_sentence : Placeless sentence := by
  refine placeless_name?.bind fun name => placeless_opening.bind fun opening => ?_
  refine placeless_body.bind fun body => ?_
  exact (placeless_expect _).bind fun _ => placeless_pure _

theorem demand_alike (p p' : Position) (x : Except Malformed α) :
    ReadsAlike Eq (demand p x) (demand p' x) := by
  cases x with
  | ok a => exact placeless_pure a
  | error cause => exact fail_alike p p' rfl

theorem placeless_statement (index : Nat) : Placeless (statement index) := by
  refine peek_alike.bind fun t u _ => ?_
  exact placeless_sentence.bind fun d => demand_alike t.position u.position _

theorem placeless_statements (fuel index : Nat) : Placeless (statements fuel index) := by
  induction fuel generalizing index with
  | zero => exact placeless_failHere fun _ _ _ => rfl
  | succ fuel ih =>
    intro ts us hsame
    have hempty : us.rest = [] ↔ ts.rest = [] := by
      rw [← List.length_eq_zero_iff, ← List.length_eq_zero_iff, hsame.length_eq]
    have hnext : Placeless (do return (← statement index) :: (← statements fuel (index + 1))) :=
      (placeless_statement index).bind fun s => (ih (index + 1)).bind fun _ => placeless_pure _
    rw [statements]
    change EndsAlike Eq (if ts.rest.isEmpty = true then Except.ok ([], ts) else _)
      (if us.rest.isEmpty = true then Except.ok ([], us) else _)
    simp only [List.isEmpty_iff, hempty]
    split
    · exact .ok rfl hsame
    · exact hnext ts us hsame

end Parser

/-! ## Policies -/

namespace Policy

theorem ofTokens_alike {ts us : Tokens} (hsame : ts.SameLexemes us) (name : Value) :
    (∃ p, ofTokens name ts = .ok p ∧ ofTokens name us = .ok p) ∨
      ∃ e e', ofTokens name ts = .error e ∧ ofTokens name us = .error e' ∧
        e.reason = e'.reason := by
  have hend := Parser.placeless_statements (ts.rest.length + 1) 1 ts us hsame
  unfold ofTokens
  rw [← hsame.length_eq]
  change (∃ p, ((Parser.statements (ts.rest.length + 1) 1 ts).map Prod.fst >>= _) = _ ∧
      ((Parser.statements (ts.rest.length + 1) 1 us).map Prod.fst >>= _) = _) ∨
    ∃ e e', ((Parser.statements (ts.rest.length + 1) 1 ts).map Prod.fst >>= _) = _ ∧
      ((Parser.statements (ts.rest.length + 1) 1 us).map Prod.fst >>= _) = _ ∧ _
  generalize Parser.statements (ts.rest.length + 1) 1 ts = x at hend
  generalize Parser.statements (ts.rest.length + 1) 1 us = y at hend
  cases hend with
  | error h => exact .inr ⟨_, _, rfl, rfl, h⟩
  | @ok ss ss' vs vs' hss _ =>
    subst hss
    change (∃ p, (ofStatements name ss).mapError _ = _ ∧ (ofStatements name ss).mapError _ = _) ∨
      ∃ e e', (ofStatements name ss).mapError _ = _ ∧ (ofStatements name ss).mapError _ = _ ∧ _
    cases ofStatements name ss with
    | ok p => exact .inl ⟨p, rfl, rfl⟩
    | error cause => exact .inr ⟨_, _, rfl, rfl, rfl⟩

/-- Texts that are cut into the same tokens, wherever these stand, are read as the same policy, or
both are refused for the same reason. -/
theorem parse_of_sameLexemes {first second : String} {ts us : Tokens}
    (hfirst : Tokens.ofText first = .ok ts) (hsecond : Tokens.ofText second = .ok us)
    (hsame : ts.SameLexemes us) (name : Value) :
    (∃ p, parse first name = .ok p ∧ parse second name = .ok p) ∨
      ∃ e e', parse first name = .error e ∧ parse second name = .error e' ∧
        e.reason = e'.reason := by
  unfold parse
  rw [hfirst, hsecond]
  exact ofTokens_alike hsame name

/-- A text without a blank that could be left out. -/
def crowdedText : String := "gate:some a flows to some b then(a flows to b)."

/-- The same tokens with blanks, line ends and a comment between them. -/
def spreadText : String :=
  "gate :\n some a # the door.\n\tflows to some b\r\n then ( a flows to b ) ."

/-- A premise that uses a marker twice. -/
def twiceText : String := "some a flows to some a."

/-- The same premise on several lines. -/
def spreadTwiceText : String := "\nsome a #\n flows to some\n\ta."

/-- What the tokens of a text are, if it can be cut into tokens. -/
def lexemes? (text : String) : Option (List (TokenKind × String)) :=
  (Tokens.ofText text).toOption.map fun ts => ts.rest.map Token.lexeme

theorem exists_sameLexemes {first second : String} (hcut : (lexemes? first).isSome = true)
    (h : lexemes? first = lexemes? second) :
    ∃ ts us, Tokens.ofText first = .ok ts ∧ Tokens.ofText second = .ok us ∧ ts.SameLexemes us := by
  obtain ⟨ls, hls⟩ := Option.isSome_iff_exists.1 hcut
  obtain ⟨ts, hts, hfirst⟩ := toOption_map_eq_some.1 hls
  obtain ⟨us, hus, hsecond⟩ := toOption_map_eq_some.1 (h.symm.trans hls)
  exact ⟨ts, us, hts, hus, hfirst.trans hsecond.symm⟩

theorem spreadText_sameLexemes :
    (∃ ts us p, Tokens.ofText crowdedText = .ok ts ∧ Tokens.ofText spreadText = .ok us ∧
      ts.SameLexemes us ∧ parse crowdedText .null = .ok p ∧ parse spreadText .null = .ok p) ∧
    ∃ ts us e e', Tokens.ofText twiceText = .ok ts ∧ Tokens.ofText spreadTwiceText = .ok us ∧
      ts.SameLexemes us ∧ parse twiceText .null = .error e ∧
      parse spreadTwiceText .null = .error e' ∧ e.reason = e'.reason := by
  have haccepted : (parse crowdedText .null).toOption.isSome = true := by decide +kernel
  have hrefused : (parse twiceText .null).toOption.isNone = true := by decide +kernel
  constructor
  · have hlexemes : lexemes? crowdedText = lexemes? spreadText := by decide +kernel
    obtain ⟨ts, us, hts, hus, hsame⟩ := exists_sameLexemes (by decide +kernel) hlexemes
    rcases parse_of_sameLexemes hts hus hsame .null with ⟨p, hp, hq⟩ | ⟨e, _, he, -⟩
    · exact ⟨ts, us, p, hts, hus, hsame, hp, hq⟩
    · rw [he] at haccepted
      exact nomatch haccepted
  · have hlexemes : lexemes? twiceText = lexemes? spreadTwiceText := by decide +kernel
    obtain ⟨ts, us, hts, hus, hsame⟩ := exists_sameLexemes (by decide +kernel) hlexemes
    rcases parse_of_sameLexemes hts hus hsame .null with ⟨p, hp, -⟩ | ⟨e, e', he, he', hreason⟩
    · rw [hp] at hrefused
      exact nomatch hrefused
    · exact ⟨ts, us, e, e', hts, hus, hsame, he, he', hreason⟩

end Policy

end InfoFlow
