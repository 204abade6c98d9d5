import InfoFlow.Proofs.Grammar.Layout
import InfoFlow.Proofs.Grammar.Markers
import InfoFlow.Proofs.Grammar.Rendering
/-!
# Texts of one statement

A text of one statement is stripped and, unless it then ends with a period, closed by one. A text
that is complete already is read as it is. A text that lacks its period is read as if it had it,
unless its last line has a comment: the period that closes it is then part of the comment, and the
statement ends where its period is expected.
-/

namespace InfoFlow

open Grammar

namespace Lexer

variable {mode m : Mode} {p q : Position} {c : Char} {cs : List Char} {us : List Token}

/-! ## Periods -/

theorem Begun.token_text_ne_period (w : Begun) : w.token.text ≠ "." := by
  intro h
  have hformed := w.token.formed
  rw [h] at hformed
  exact nomatch hformed

theorem markToken_text_eq_period {h : isMark c = true} :
    (markToken p c h).text = "." ↔ c = '.' := by
  show String.singleton c = "." ↔ _
  constructor
  · intro heq
    have hchars := congrArg String.toList heq
    rw [String.toList_singleton] at hchars
    exact (List.cons.inj hchars).1
  · rintro rfl
    rfl

theorem Steps.exists_last (h : Steps p c mode us m) (hm : m ≠ .comment)
    (hc : Text.isBlank c = false) :
    ∃ front t, us ++ m.pending = front ++ [t] ∧ (t.text = "." ↔ c = '.') := by
  -- a word has no period in it, so it is not one, and neither is what it goes on with
  have hword (w : Begun) (hpart : isWordPart c = true) : w.token.text = "." ↔ c = '.' := by
    refine iff_of_false w.token_text_ne_period ?_
    rintro rfl
    exact absurd hpart (by decide)
  cases h with
  | comment => exact absurd rfl hm
  | word h => exact ⟨[], _, rfl, hword _ h⟩
  | start _ hs =>
    cases hs with
    | comment => exact absurd rfl hm
    | space h => exact absurd (isBlank_of_isSpace h) (Bool.eq_false_iff.1 hc)
    | word h =>
      refine ⟨_, _, rfl, hword _ ?_⟩
      unfold isWordPart
      rw [h, Bool.true_or]
    | mark h => exact ⟨mode.pending, _, List.append_nil _, markToken_text_eq_period⟩

theorem Passes.last_period_iff (h : Passes .between p cs us m q) (hm : m ≠ .comment)
    (hlast : ∀ c ∈ cs.getLast?, Text.isBlank c = false) :
    ((us ++ m.pending).map Token.text).getLast? = some "." ↔ cs.getLast? = some '.' := by
  rcases List.eq_nil_or_concat cs with rfl | ⟨front, c, rfl⟩
  · cases h
    exact iff_of_false nofun nofun
  · rw [List.concat_eq_append] at h hlast ⊢
    obtain ⟨vs, ws, n, r, -, hc, rfl⟩ := passes_append.1 h
    rw [List.getLast?_concat] at hlast ⊢
    -- the last token is the one that the last character belongs to
    obtain ⟨xs, t, hxs, ht⟩ := (passes_singleton.1 hc).1.exists_last hm (hlast c rfl)
    rw [List.append_assoc, hxs, ← List.append_assoc, List.map_append, List.map_singleton,
      List.getLast?_concat, Option.some.injEq, Option.some.injEq]
    exact ht

theorem steps_period (hm : mode ≠ .comment) :
    Steps p '.' mode us m ↔ us = mode.pending ++ [markToken p '.' rfl] ∧ m = .between := by
  have hrun : step mode p '.' = .ok (mode.pending ++ [markToken p '.' rfl], .between) := by
    cases mode with
    | between => rfl
    | comment => exact absurd rfl hm
    | word w => rfl
  rw [steps_iff, hrun, Except.ok.injEq, Prod.mk.injEq, eq_comm, eq_comm (a := Mode.between)]

theorem steps_newline : Steps p '\n' mode us m ↔ us = mode.pending ∧ m = .between := by
  have hrun : step mode p '\n' = .ok (mode.pending, .between) := by cases mode <;> rfl
  rw [steps_iff, hrun, Except.ok.injEq, Prod.mk.injEq, eq_comm, eq_comm (a := Mode.between)]

theorem map_period (us : List Token) (m : Mode) (p : Position) :
    (us ++ (m.pending ++ [markToken p '.' rfl]) ++ Mode.between.pending).map Token.text =
      (us ++ m.pending).map Token.text ++ ["."] := by
  show (us ++ (m.pending ++ [_]) ++ []).map Token.text = _
  rw [List.append_nil, ← List.append_assoc, List.map_append]
  rfl

/-- A period behind a text is its last token, unless the text ends in a comment, which the period
then goes on with. -/
theorem Passes.period (h : Passes mode p cs us m q) :
    ∃ vs n, Passes mode p (cs ++ ['.']) vs n (q.after '.') ∧
      (m = .comment → vs ++ n.pending = us ++ m.pending) ∧
      (m ≠ .comment →
        (vs ++ n.pending).map Token.text = (us ++ m.pending).map Token.text ++ ["."]) := by
  have hgo {n : Mode} {vs : List Token} (hstep : Steps q '.' m vs n) :
      Passes mode p (cs ++ ['.']) (us ++ vs) n (q.after '.') :=
    passes_append.2 ⟨us, vs, m, q, h, passes_singleton.2 ⟨hstep, rfl⟩, rfl⟩
  by_cases hm : m = .comment
  · subst hm
    refine ⟨_, _, hgo (.comment (by decide)), fun _ => ?_, fun hm => absurd rfl hm⟩
    rw [List.append_nil]
  · refine ⟨_, _, hgo ((steps_period hm).2 ⟨rfl, rfl⟩), fun h => absurd h hm, fun _ => ?_⟩
    exact map_period us m q

/-- A period on a line of its own is the last token whatever the text is. -/
theorem Passes.of_period_line (h : Passes mode p (cs ++ ['\n', '.']) us m q) :
    ∃ vs n r, Passes mode p cs vs n r ∧
      (us ++ m.pending).map Token.text = (vs ++ n.pending).map Token.text ++ ["."] := by
  obtain ⟨vs, ws, n, r, hvs, hend, rfl⟩ := passes_append.1 h
  refine ⟨vs, n, r, hvs, ?_⟩
  cases hend with
  | cons hline hperiod =>
    -- the line end completes what is being read, also if that is a comment
    obtain ⟨rfl, rfl⟩ := steps_newline.1 hline
    obtain ⟨hperiod, -⟩ := passes_singleton.1 hperiod
    have hbetween : Mode.between ≠ .comment := nofun
    obtain ⟨rfl, rfl⟩ := (steps_period hbetween).1 hperiod
    exact map_period vs n _

end Lexer

/-! ## Closed texts -/

theorem Text.getLast?_stripChars (cs : List Char) :
    ∀ c ∈ (Text.stripChars cs).getLast?, Text.isBlank c = false := by
  intro c hc
  unfold Text.stripChars at hc
  rw [List.getLast?_reverse] at hc
  have hhead := List.head?_dropWhile_not Text.isBlank (cs.dropWhile Text.isBlank).reverse
  rw [Option.mem_def.1 hc] at hhead
  exact hhead

namespace Tokens

open Lexer

variable {text : String} {ts : Tokens}

theorem ofText_eq_ok :
    ofText text = .ok ts ↔
      ∃ us m, Passes .between {} text.toList us m ts.stop ∧ ts.rest = us ++ m.pending := scan_eq_ok

theorem ofText_of_period_line (h : ofText (text ++ "\n.") = .ok ts) :
    ∃ us, ofText text = .ok us ∧ ts.rest.map Token.text = us.rest.map Token.text ++ ["."] := by
  obtain ⟨us, m, hpasses, hrest⟩ := ofText_eq_ok.1 h
  have hchars : (text ++ "\n.").toList = text.toList ++ ['\n', '.'] := by
    rw [String.toList_append]
    rfl
  rw [hchars] at hpasses
  obtain ⟨vs, n, r, hvs, htexts⟩ := hpasses.of_period_line
  refine ⟨⟨vs ++ n.pending, r⟩, ofText_eq_ok.2 ⟨vs, n, hvs, rfl⟩, ?_⟩
  rw [hrest]
  exact htexts

/-- A stripped text is cut into the same tokens. It ends with a period exactly if its tokens do,
unless it ends in a comment. -/
theorem passes_strip (h : ofText text = .ok ts) :
    ∃ vs n q, Passes .between {} (Text.strip text).toList vs n q ∧
      (vs ++ n.pending).map Token.text = ts.rest.map Token.text ∧
      (n = .comment ↔ EndsInComment (Text.strip text).toList) ∧
      (n ≠ .comment → ((ts.rest.map Token.text).getLast? = some "." ↔
        (Text.strip text).toList.getLast? = some '.')) := by
  obtain ⟨us, m, hpasses, hrest⟩ := ofText_eq_ok.1 h
  obtain ⟨vs, n, q, hvs, htexts⟩ := hpasses.strip {}
  rw [← hrest] at htexts
  have hstrip : (Text.strip text).toList = Text.stripChars text.toList := String.toList_ofList
  rw [hstrip]
  refine ⟨vs, n, q, hvs, htexts, ?_, fun hn => ?_⟩
  · rw [hvs.eq_comment_iff]
    simp only [reduceCtorEq, false_and, false_or]
  · rw [← htexts]
    exact hvs.last_period_iff hn (Text.getLast?_stripChars text.toList)

/-- To close a text is to leave its tokens as they are if it ends with a period or in a comment, and
to add a period to them if it does not. -/
theorem ofText_closed (h : ofText text = .ok ts) :
    ∃ us, ofText (Statement.closed text) = .ok us ∧
      (EndsInComment (Text.strip text).toList ∨
          (ts.rest.map Token.text).getLast? = some "." →
        us.rest.map Token.text = ts.rest.map Token.text) ∧
      (¬EndsInComment (Text.strip text).toList →
          (ts.rest.map Token.text).getLast? ≠ some "." →
        us.rest.map Token.text = ts.rest.map Token.text ++ ["."]) := by
  obtain ⟨vs, n, q, hvs, htexts, hcomment, hlast⟩ := passes_strip h
  rw [← hcomment]
  unfold Statement.closed
  simp only
  split
  -- nothing is put behind a period, not even if the period stands in a comment
  · rename_i hperiod
    refine ⟨⟨vs ++ n.pending, q⟩, ofText_eq_ok.2 ⟨vs, n, hvs, rfl⟩, fun _ => htexts, ?_⟩
    exact fun hn hne => absurd ((hlast hn).2 hperiod) hne
  · rename_i hperiod
    obtain ⟨ws, k, hws, hin, hout⟩ := hvs.period
    have hchars : (Text.strip text ++ ".").toList = (Text.strip text).toList ++ ['.'] := by
      rw [String.toList_append]
      rfl
    rw [← hchars] at hws
    -- the period that is put behind is read unless the text ends in a comment
    refine ⟨⟨ws ++ k.pending, _⟩, ofText_eq_ok.2 ⟨ws, k, hws, rfl⟩, fun hor => ?_, fun hn _ => ?_⟩
    · by_cases hn : n = .comment
      · exact (congrArg (List.map Token.text) (hin hn)).trans htexts
      · exact absurd ((hlast hn).1 (hor.resolve_left hn)) hperiod
    · rw [← htexts]
      exact hout hn

end Tokens

/-! ## Where the period lacks -/

namespace Grammar

theorem Body.words_ne_nil (b : Body) : b.words ≠ [] := by
  cases b <;> exact List.cons_ne_nil _ _

theorem Sentence.front_ne_nil (d : Sentence) : d.front ≠ [] := by
  refine List.append_ne_nil_of_right_ne_nil _ (List.append_ne_nil_of_right_ne_nil _ ?_)
  exact d.body.words_ne_nil

theorem Sentence.getLast?_front_ne (d : Sentence) : d.front.getLast? ≠ some "." :=
  fun h => d.front_ne_period "." (List.mem_of_getLast? h) rfl

end Grammar

namespace Parser

variable {ts us : Tokens} {e : SyntaxError}

theorem expect_of_end (w : String) (h : ts.rest = []) :
    expect w ts = .error ⟨.expectedText w ts.finish, ts.stop⟩ := by
  obtain ⟨rest, stop⟩ := ts
  obtain rfl : rest = [] := h
  have hnot : ∀ ms, ¬Tokens.Spells ⟨[], stop⟩ [w] ms := fun ms hms => nomatch hms.next
  exact bind_of_ok (accept_of_not_spells hnot)

theorem sentence_of_front {d : Sentence} (h : ts.Spells d.front us) (hus : us.rest = []) :
    sentence ts = .error ⟨.expectedText "." us.finish, us.stop⟩ := by
  have hnext : us.next = none := by
    unfold Tokens.next
    rw [hus]
    rfl
  have hends : d.body.EndsBefore us.next := by
    rw [hnext]
    exact d.body.endsBefore_of_ne (by decide) (by decide) (by decide) (by decide)
  -- everything in front of the period is read, as nothing comes next that could go on with it
  obtain ⟨t1, t2, h1, h2, h3⟩ := front_eq_ok h hends
  unfold sentence
  rw [bind_of_ok h1, bind_of_ok h2, bind_of_ok h3]
  exact bind_of_error (expect_of_end "." hus)

theorem statements_of_error (fuel index : Nat) (hts : ts.rest ≠ []) (h : sentence ts = .error e) :
    statements (fuel + 1) index ts = .error e := by
  have hstatement : statement index ts = .error e :=
    (bind_of_ok (p := peek) rfl).trans (bind_of_error h)
  rw [statements]
  change (if ts.rest.isEmpty = true then Except.ok ([], ts) else _) = _
  rw [if_neg (by rw [List.isEmpty_iff]; exact hts)]
  exact bind_of_error hstatement

end Parser

/-! ## Texts of one statement -/

namespace Policy

theorem parse_of_front {text : String} {ts : Tokens} {d : Sentence} (name : Value)
    (htext : Tokens.ofText text = .ok ts) (hd : ts.rest.map Token.text = d.front) :
    parse text name = .error ⟨.expectedText "." ts.finish, ts.stop⟩ := by
  have hspells : ts.Spells d.front ⟨[], ts.stop⟩ := ⟨ts.rest, hd, by rw [List.append_nil]⟩
  have hne : ts.rest ≠ [] := by
    intro hnil
    rw [hnil] at hd
    exact d.front_ne_nil hd.symm
  have hrun := Parser.statements_of_error ts.rest.length 1 hne
    (Parser.sentence_of_front hspells rfl)
  unfold parse ofTokens
  rw [htext]
  show ((Parser.statements (ts.rest.length + 1) 1 ts).map Prod.fst >>= _) = _
  rw [hrun]
  rfl

/-- A policy of one statement is one sentence, and its last word is a period. -/
theorem parse_eq_ok_singleton {text : String} {name : Value} {p : Policy} {s : Statement}
    (h : parse text name = .ok p) (hs : p.statements = [s]) :
    ∃ ts, ∃ d : Sentence, Tokens.ofText text = .ok ts ∧ ts.rest.map Token.text = d.front ++ ["."] ∧
      d.denoted 1 = s := by
  obtain ⟨ts, ds, htext, hds, -, hstatements⟩ := parse_eq_ok.1 h
  obtain ⟨d, rfl, hd⟩ := Sentence.denotedFrom_eq_singleton.1 (hstatements.symm.trans hs)
  refine ⟨ts, d, htext, ?_, hd⟩
  rw [← d.words_eq_front, ← List.flatMap_singleton (f := Sentence.words)]
  exact hds

theorem exists_of_names (text : String) (name : Value) (n : String)
    (h : (parse text name).toOption.map (fun p => p.statements.map Statement.name) = some [n]) :
    ∃ p s, parse text name = .ok p ∧ p.statements = [s] ∧ s.name = n := by
  obtain ⟨p, hp, hnames⟩ := toOption_map_eq_some.1 h
  obtain ⟨s, hs, hname⟩ := List.map_eq_singleton_iff.1 hnames
  exact ⟨p, s, hp, hs, hname⟩

end Policy

namespace Statement

variable {text : String} {ts : Tokens} {d : Sentence} {p : Policy} {s : Statement} {name : Value}

theorem parse_of_derives (htext : Tokens.ofText (closed text) = .ok ts) (hd : ts.Derives [d])
    (n : Option Value) :
    parse text n = ((d.denoted 1).renamed n).mapError fun cause => ⟨.malformed cause, {}⟩ := by
  have hp : Policy.parse (closed text) (.text "statement") =
      .ok ⟨.text "statement", [d.denoted 1], by simp⟩ :=
    Policy.parse_eq_ok.2 ⟨ts, [d], htext, hd, rfl, rfl⟩
  unfold parse
  rw [hp]
  cases n <;> rfl

theorem rename_blank (s : Statement) {n : String} (h : Text.isBlankText n = true) :
    s.rename (.text n) = .error .blankName := by
  unfold rename checkNameValue checkName
  simp only
  rw [dif_neg (ne_false_of_eq_true h)]
  rfl

/-- A text that is a policy of one statement is a text of that statement, however it begins and
ends. Under another name it is the statement of that name, and a blank name is refused. -/
theorem parse_of_parse_policy (h : Policy.parse text name = .ok p) (hs : p.statements = [s]) :
    parse text none = .ok s ∧
      (∀ n (hn : Text.isBlankText n = false),
        parse text (some (.text n)) = .ok { s with name := n, name_ne_blank := hn }) ∧
      ∀ n, Text.isBlankText n = true →
        parse text (some (.text n)) = .error ⟨.malformed .blankName, {}⟩ := by
  obtain ⟨ts, d, htext, hwords, rfl⟩ := Policy.parse_eq_ok_singleton h hs
  obtain ⟨us, hclosed, hkeep, -⟩ := Tokens.ofText_closed htext
  -- its last token is a period, so closing the text adds no token
  have hlast : (ts.rest.map Token.text).getLast? = some "." := by
    rw [hwords, List.getLast?_concat]
  have hd : us.Derives [d] := by
    show us.rest.map Token.text = [d].flatMap Sentence.words
    rw [hkeep (.inr hlast), hwords, List.flatMap_singleton, d.words_eq_front]
  have hrun := parse_of_derives hclosed hd
  refine ⟨hrun none, fun n hn => ?_, fun n hn => ?_⟩
  · rw [hrun, renamed, rename_text _ hn]
    rfl
  · rw [hrun, renamed, rename_blank _ hn]
    rfl

/-- A text of one statement with a comment and a name in front of it, and with a remark behind it
that ends with a blank and has no period. -/
def remarkedText : String := "\n# doors\ngate: some a flows to all b.\t# to be split\u00a0"

theorem remarkedText_parse :
    ∃ p s, Policy.parse remarkedText (.text "doors") = .ok p ∧ p.statements = [s] ∧
      s.name = "gate" ∧ parse remarkedText none = .ok s ∧
      parse remarkedText (some (.text "door")) =
        .ok { s with name := "door", name_ne_blank := by decide } ∧
      parse remarkedText (some (.text " \t")) = .error ⟨.malformed .blankName, {}⟩ := by
  obtain ⟨p, s, hp, hs, hname⟩ :=
    Policy.exists_of_names remarkedText (.text "doors") "gate" (by decide +kernel)
  obtain ⟨hplain, hnamed, hblank⟩ := parse_of_parse_policy hp hs
  exact ⟨p, s, hp, hs, hname, hplain, hnamed "door" (by decide), hblank " \t" (by decide)⟩

/-- A text that is a policy of one statement once a period is put on a line below it is a text of
that statement, unless its last line has a comment. Then the period that closes it is read as part
of the comment, and the end of the text is refused, where the period is expected. -/
theorem parse_of_parse_period_line (h : Policy.parse (text ++ "\n.") name = .ok p)
    (hs : p.statements = [s]) :
    (¬Lexer.EndsInComment (Text.strip text).toList → parse text none = .ok s) ∧
      (Lexer.EndsInComment (Text.strip text).toList →
        ∃ ts, Tokens.ofText (closed text) = .ok ts ∧
          parse text none = .error ⟨.expectedText "." ts.finish, ts.stop⟩) := by
  obtain ⟨vs, d, hline, hwords, rfl⟩ := Policy.parse_eq_ok_singleton h hs
  obtain ⟨ts, htext, htexts⟩ := Tokens.ofText_of_period_line hline
  obtain ⟨us, hclosed, hkeep, hadd⟩ := Tokens.ofText_closed htext
  -- without the period line the text is the sentence up to its period, which is its only one
  have hfront : ts.rest.map Token.text = d.front :=
    List.append_cancel_right (htexts.symm.trans hwords)
  rw [hfront] at hkeep hadd
  constructor
  · intro hcomment
    have hd : us.Derives [d] := by
      show us.rest.map Token.text = [d].flatMap Sentence.words
      rw [hadd hcomment d.getLast?_front_ne, List.flatMap_singleton, d.words_eq_front]
    exact parse_of_derives hclosed hd none
  · intro hcomment
    refine ⟨us, hclosed, ?_⟩
    unfold parse
    rw [Policy.parse_of_front _ hclosed (hkeep (.inl hcomment))]
    rfl

/-- A text that lacks its period and has comments above its last line. -/
def headedText : String := "# doors\nsome a flows to all b # by hand.\n then b flows to a\t\n"

/-- A text that lacks its period and ends in a comment. -/
def notedText : String := "some a flows to some b # note"

theorem headedText_parse_notedText_not :
    (∃ p s, Policy.parse (headedText ++ "\n.") (.text "doors") = .ok p ∧ p.statements = [s] ∧
        parse headedText none = .ok s) ∧
      ∃ p s ts, Policy.parse (notedText ++ "\n.") (.text "doors") = .ok p ∧ p.statements = [s] ∧
        Tokens.ofText (closed notedText) = .ok ts ∧
        parse notedText none = .error ⟨.expectedText "." ts.finish, ts.stop⟩ := by
  obtain ⟨p, s, hp, hs, -⟩ :=
    Policy.exists_of_names (headedText ++ "\n.") (.text "doors") "statement_1" (by decide +kernel)
  obtain ⟨q, t, hq, ht, -⟩ :=
    Policy.exists_of_names (notedText ++ "\n.") (.text "doors") "statement_1" (by decide +kernel)
  have hparse := (parse_of_parse_period_line hp hs).1 (by decide +kernel)
  obtain ⟨ts, hts, herror⟩ := (parse_of_parse_period_line hq ht).2 (by decide +kernel)
  exact ⟨⟨p, s, hp, hs, hparse⟩, q, t, ts, hq, ht, hts, herror⟩

/-- The period of a text that ends in a comment is not optional. -/
theorem notedText_not_parsed :
    ∃ p s, Policy.parse (notedText ++ "\n.") (.text "doors") = .ok p ∧ p.statements = [s] ∧
      parse notedText none ≠ .ok s := by
  obtain ⟨p, s, hp, hs, -⟩ :=
    Policy.exists_of_names (notedText ++ "\n.") (.text "doors") "statement_1" (by decide +kernel)
  have hnone : (parse notedText none).toOption.isNone = true := by decide +kernel
  refine ⟨p, s, hp, hs, fun heq => ?_⟩
  rw [heq] at hnone
  exact nomatch hnone

end Statement

end InfoFlow
