import InfoFlow.Proofs.Grammar.Refusals
import InfoFlow.Proofs.Text.Margins
/-!
# Where errors are reported

A text of one statement is read without the blanks at its ends, and what is wrong is reported at its
place in what is left. The blanks in front move that place, so it is the place in the text only if
there are none, or if they put no line above it and it is not on the first line.
-/

namespace InfoFlow

open Grammar Lexer

/-! ## Blanks in front -/

namespace Lexer

variable {lead front cs : List Char} {c : Char}

theorem endsInComment_lead (hlead : ∀ c ∈ lead, Text.isBlank c = true) :
    EndsInComment (lead ++ cs) ↔ EndsInComment cs := by
  have hnone : ¬EndsInComment lead :=
    not_endsInComment_of_not_mem fun hmem => absurd (hlead '#' hmem) (by decide)
  rw [endsInComment_append]
  simp only [hnone, false_and, false_or]

theorem endsInWord_lead (hlead : ∀ c ∈ lead, Text.isBlank c = true) :
    EndsInWord (lead ++ cs) ↔ EndsInWord cs := by
  constructor
  · rintro ⟨front, w, hsplit, hw⟩
    rcases List.append_eq_append_iff.1 hsplit with ⟨a, rfl, hcs⟩ | ⟨a, rfl, rfl⟩
    · exact ⟨a, w, hcs, hw⟩
    · -- the word would begin with a blank
      cases a with
      | nil => exact ⟨[], cs, rfl, hw⟩
      | cons c a =>
        have hblank := hlead c (List.mem_append_right front List.mem_cons_self)
        have hpart := isWordPart_of_admits hw List.mem_cons_self
        exact absurd hpart (Bool.eq_false_iff.1 (not_isWordPart_of_isBlank hblank))
  · rintro ⟨front, w, rfl, hw⟩
    exact ⟨lead ++ front, w, (List.append_assoc ..).symm, hw⟩

theorem outOfPlace_lead (hlead : ∀ c ∈ lead, Text.isBlank c = true) :
    OutOfPlace (lead ++ front) c ↔ OutOfPlace front c := by
  have hcomment : EndsInComment (lead ++ front ++ [c]) ↔ EndsInComment (front ++ [c]) := by
    rw [List.append_assoc]
    exact endsInComment_lead hlead
  have hword : EndsInWord (lead ++ front) ↔ EndsInWord front := endsInWord_lead hlead
  constructor
  · intro h
    refine ⟨hcomment.not.1 h.outside, h.space, h.mark, h.start, fun hd => ?_⟩
    exact h.digit (hd.imp_right hword.2)
  · intro h
    refine ⟨hcomment.not.2 h.outside, h.space, h.mark, h.start, fun hd => ?_⟩
    exact h.digit (hd.imp_right hword.1)

theorem EndsWord.of_append {rest rest' : List Char} (h : EndsWord (cs ++ rest))
    (hrest : EndsWord rest') : EndsWord (cs ++ rest') := by
  cases cs with
  | nil => exact hrest
  | cons c cs => exact endsWord_cons (h c rfl)

end Lexer

theorem Token.Stands.lead {t : Token} {lead front rest rest' : List Char}
    (h : t.Stands front rest) (hlead : ∀ c ∈ lead, Text.isBlank c = true)
    (hrest : EndsWord rest → EndsWord rest') :
    Token.Stands { t with position := .behind (lead ++ front) } (lead ++ front) rest' := by
  refine ⟨rfl, (endsInComment_lead hlead).not.2 h.outside, h.whole.imp_right ?_⟩
  rintro ⟨hword, hfront, hend⟩
  refine ⟨hword, fun c hc => ?_, hrest hend⟩
  rw [List.getLast?_append] at hc
  cases hlast : front.getLast? with
  | some d =>
    rw [hlast] at hc
    obtain rfl := Option.some.inj hc
    exact hfront d hlast
  | none =>
    rw [hlast] at hc
    exact not_isWordPart_of_isBlank (hlead c (List.mem_of_getLast? hc))

/-- A token with a period in it is the period. -/
theorem Token.text_eq_period {t : Token} {v : List Char} (hkind : t.kind ≠ .finish)
    (h : t.text.toList = v ++ ['.']) : v = [] ∧ t.text = "." := by
  have hmem : '.' ∈ t.text.toList := h ▸ List.mem_append_right v List.mem_cons_self
  rcases Token.text_cases hkind with ⟨hword, -⟩ | ⟨-, c, htext, -⟩
  · exact absurd (Token.isWordPart_of_mem hword hmem) (by decide)
  · have hboth : [] ++ [c] = v ++ ['.'] := htext.symm.trans h
    obtain ⟨hv, hc⟩ := List.append_inj' hboth rfl
    obtain rfl := List.singleton_inj.1 hc
    exact ⟨hv.symm, String.toList_inj.1 htext⟩

/-! ## What is left of a text -/

namespace Statement

variable {text : String} {front w rest : List Char}

/-- Some characters of a closed text are in the text, or the last one of them is the period that
closes it. -/
theorem split_closed (h : (closed text).toList = front ++ (w ++ rest)) (hw : w ≠ []) :
    (∃ rest', text.toList = Text.lead text ++ (front ++ (w ++ rest')) ∧
        (EndsWord rest → EndsWord rest')) ∨
      ∃ v, w = v ++ ['.'] ∧ (Text.strip text).toList = front ++ v ∧
        closed text = Text.strip text ++ "." := by
  obtain ⟨trail, htext, htrail⟩ := Text.exists_trail text
  have hend : EndsWord trail := fun c hc =>
    not_isWordPart_of_isBlank (htrail c (List.mem_of_head? hc))
  have hkeep (r : List Char) (hr : (Text.strip text).toList = front ++ (w ++ r)) :
      text.toList = Text.lead text ++ (front ++ (w ++ (r ++ trail))) := by
    rw [htext, hr]
    simp only [List.append_assoc]
  by_cases hperiod : (Text.strip text).toList.getLast? = some '.'
  · have hclosed : closed text = Text.strip text := if_pos hperiod
    rw [hclosed] at h
    refine .inl ⟨rest ++ trail, hkeep rest h, fun hrest => ?_⟩
    rw [← List.append_nil rest] at hrest
    exact hrest.of_append hend
  · have hclosed : closed text = Text.strip text ++ "." := if_neg hperiod
    rw [hclosed, String.toList_append] at h
    change (Text.strip text).toList ++ ['.'] = _ at h
    -- the period stands behind these characters or is the last one of them
    rcases List.eq_nil_or_concat rest with rfl | ⟨r, c, rfl⟩
    · obtain ⟨v, c, rfl⟩ := (List.eq_nil_or_concat w).resolve_left hw
      rw [List.append_nil, List.concat_eq_append, ← List.append_assoc] at h
      obtain ⟨hv, hc⟩ := List.append_inj' h rfl
      obtain rfl := List.singleton_inj.1 hc
      exact .inr ⟨v, List.concat_eq_append, hv, hclosed⟩
    · rw [List.concat_eq_append, ← List.append_assoc, ← List.append_assoc] at h
      obtain ⟨hr, -⟩ := List.append_inj' h rfl
      rw [List.append_assoc] at hr
      refine .inl ⟨r ++ trail, hkeep r hr, fun hrest => ?_⟩
      rw [List.concat_eq_append] at hrest
      exact hrest.of_append hend

end Statement

/-! ## Errors -/

/-- What is wrong with a text is wrong with some of its characters: with one that is out of place,
but for blanks the first such one, or with those of a token that is blamed. -/
inductive SyntaxError.IsAbout (e : SyntaxError) (front : List Char) :
    List Char → List Char → Prop where
  | character {c : Char} {rest : List Char} (hc : e.cause = .unexpectedCharacter c)
    (hout : OutOfPlace front c)
    (hfirst : ∀ pre d post, front = pre ++ d :: post → OutOfPlace pre d → Text.isBlank d = true) :
    e.IsAbout front [c] rest
  | token {t : Token} {rest : List Char} (ht : e.cause.Blames t)
    (hstands : Token.Stands { t with position := .behind front } front rest) :
    e.IsAbout front t.text.toList rest

namespace Statement

variable {text : String} {name : Option Value} {e : SyntaxError}

theorem parse_eq_error (h : parse text name = .error e) :
    Policy.parse (closed text) (.text "statement") = .error e ∨
      e.position = {} ∧
        ((∃ n, n ≠ 1 ∧ e.cause = .notOneStatement n) ∨ ∃ cause, e.cause = .malformed cause) := by
  unfold parse at h
  cases hp : Policy.parse (closed text) (.text "statement") with
  | error e' =>
    rw [hp] at h
    obtain rfl := Except.error.inj h
    exact .inl rfl
  | ok p =>
    rw [hp] at h
    obtain ⟨_, ss, _⟩ := p
    rcases ss with _ | ⟨s, _ | ⟨t, ss⟩⟩
    · obtain rfl := Except.error.inj h
      exact .inr ⟨rfl, .inl ⟨0, by decide, rfl⟩⟩
    · cases name with
      | none => exact nomatch h
      | some n =>
        change (s.rename n).mapError _ = _ at h
        cases hname : s.rename n with
        | ok s' =>
          rw [hname] at h
          exact nomatch h
        | error cause =>
          rw [hname] at h
          obtain rfl := Except.error.inj h
          exact .inr ⟨rfl, .inr ⟨cause, rfl⟩⟩
    · obtain rfl := Except.error.inj h
      exact .inr ⟨rfl, .inl ⟨_, Nat.succ_succ_ne_one _, rfl⟩⟩

/-- A character that is out of place in a closed text is so in the text, and so is the first one. -/
theorem isAbout_character {c : Char} {p : Position} (h : (closed text).toList = front ++ c :: rest)
    (hout : OutOfPlace front c)
    (hfirst : ∀ pre d post, front = pre ++ d :: post → ¬OutOfPlace pre d) :
    ∃ rest', text.toList = Text.lead text ++ (front ++ ([c] ++ rest')) ∧
      SyntaxError.IsAbout ⟨.unexpectedCharacter c, p⟩ (Text.lead text ++ front) [c] rest' := by
  have hlead := Text.isBlank_of_mem_lead (s := text)
  rcases split_closed (w := [c]) h (List.cons_ne_nil c []) with ⟨rest', htext, -⟩ | ⟨v, hv, -⟩
  · refine ⟨rest', htext, .character rfl ((outOfPlace_lead hlead).2 hout) ?_⟩
    intro pre d post hpre hd
    rcases append_eq_append_cons hpre with ⟨b, hblanks, -⟩ | ⟨a, rfl, hfront⟩
    · refine hlead d ?_
      rw [hblanks]
      exact List.mem_append_right pre List.mem_cons_self
    · exact absurd ((outOfPlace_lead hlead).1 hd) (hfirst a d post hfront)
  · -- the period that closes the text is in its place
    have hboth : [] ++ [c] = v ++ ['.'] := hv
    obtain ⟨-, hc⟩ := List.append_inj' hboth rfl
    obtain rfl := List.singleton_inj.1 hc
    exact absurd hout.mark (by decide)

/-- A token of a closed text stands in the text, or it is the period that closes it. -/
theorem isAbout_token {t : Token} (h : t.IsIn (closed text).toList) (he : e.cause.Blames t) :
    (∃ front rest, text.toList = Text.lead text ++ (front ++ (t.text.toList ++ rest)) ∧
        e.IsAbout (Text.lead text ++ front) t.text.toList rest ∧ t.position = .behind front) ∨
      t.text = "." ∧ closed text = Text.strip text ++ "." ∧
        t.position = .behind (Text.strip text).toList := by
  obtain ⟨front, rest, hsplit, hstands⟩ := h
  have hne : t.text.toList ≠ [] := by
    obtain ⟨c, cs, htext⟩ := Token.exists_cons hstands.kind_ne
    rw [htext]
    exact List.cons_ne_nil c cs
  rcases split_closed hsplit hne with ⟨rest', htext, hrest⟩ | ⟨v, hv, hstrip, hclosed⟩
  · have hstands' := hstands.lead (Text.isBlank_of_mem_lead (s := text)) hrest
    exact .inl ⟨front, rest', htext, .token he hstands', hstands.place⟩
  · obtain ⟨rfl, hperiod⟩ := Token.text_eq_period hstands.kind_ne hv
    rw [List.append_nil] at hstrip
    exact .inr ⟨hperiod, hclosed, by rw [hstands.place, hstrip]⟩

/-- An error about a character or a token of a text is reported at its place behind the blanks in
front of the text. This is its place in the text exactly if there are no such blanks, or if all of
them stand on the first line and the character or token does not. Another error is about the end of
the text or about the period that closes it, or it is reported where the text starts. -/
theorem parse_reported (h : parse text name = .error e) :
    (∃ front w rest, text.toList = Text.lead text ++ (front ++ (w ++ rest)) ∧
        e.IsAbout (Text.lead text ++ front) w rest ∧ e.position = .behind front ∧
        (e.position = .behind (Text.lead text ++ front) ↔
          Text.lead text = [] ∨ '\n' ∉ Text.lead text ∧ '\n' ∈ front)) ∨
      (∃ t, e.cause.Blames t ∧
        (t.kind = .finish ∧ e.position = .behind (closed text).toList ∨
          t.text = "." ∧ closed text = Text.strip text ++ "." ∧
            e.position = .behind (Text.strip text).toList)) ∨
      e.position = {} ∧
        ((∃ n, n ≠ 1 ∧ e.cause = .notOneStatement n) ∨ ∃ cause, e.cause = .malformed cause) := by
  have hmoved := Position.behind_eq_behind_append_iff (Text.lead text)
  rcases parse_eq_error h with h | h
  · rcases Policy.parse_eq_error h with h | ⟨ts, hts, ⟨t, ht, hblames, hplace⟩ | ⟨_, _, _, _, rfl⟩⟩
    · obtain ⟨front, c, rest, hsplit, hout, hfirst, rfl⟩ := Tokens.ofText_eq_error h
      obtain ⟨rest', htext, habout⟩ := isAbout_character hsplit hout hfirst
      exact .inl ⟨front, [c], rest', htext, habout, rfl, hmoved front⟩
    · rw [hplace]
      rcases ht with ht | rfl
      · rcases isAbout_token ((Tokens.mem_of_ofText hts).1 ht) hblames with
          ⟨front, rest, htext, habout, hfront⟩ | hperiod
        · rw [hfront]
          exact .inl ⟨front, t.text.toList, rest, htext, habout, rfl, hmoved front⟩
        · exact .inr (.inl ⟨t, hblames, .inr hperiod⟩)
      · have hstop : ts.finish.position = .behind (closed text).toList :=
          (Tokens.row_of_ofText hts).2
        exact .inr (.inl ⟨ts.finish, hblames, .inl ⟨rfl, hstop⟩⟩)
    · exact .inr (.inr ⟨rfl, .inr ⟨_, rfl⟩⟩)
  · exact .inr (.inr h)

/-- A text with a space in front and with a character that is out of place on its second line. -/
def indentedText : String := " some a flows to all b\nthen ?"

theorem indentedText_reported :
    ∃ e front w rest, parse indentedText none = .error e ∧
      indentedText.toList = [' '] ++ (front ++ (w ++ rest)) ∧ e.IsAbout ([' '] ++ front) w rest ∧
      e.position = .behind ([' '] ++ front) := by
  have hrun : parse indentedText none = .error ⟨.unexpectedCharacter '?', ⟨2, 6⟩⟩ := rfl
  have hlead : Text.lead indentedText = [' '] := by decide
  rcases parse_reported hrun with
    ⟨front, w, rest, htext, habout, hfront, hiff⟩ | ⟨t, ht, -⟩ | ⟨h, -⟩
  · rw [hlead] at htext habout hiff
    -- two lines are reported, so one ends in front of the place
    have hline : 2 = 1 + front.count '\n' := congrArg Position.line hfront
    have hmem : '\n' ∈ front := List.count_pos_iff.1 (by omega)
    exact ⟨_, front, w, rest, hrun, htext, habout, hiff.2 (.inr ⟨by decide, hmem⟩)⟩
  · exact nomatch ht
  · exact absurd h (by decide)

/-- A text with a space in front of a character that is out of place. -/
def spacedText : String := " ?"

/-- The character is reported where it does not stand: on the first line the space moves it. -/
theorem spacedText_misreported :
    ∃ e, parse spacedText none = .error e ∧ e.cause = .unexpectedCharacter '?' ∧
      ∀ front rest, spacedText.toList = front ++ '?' :: rest → e.position ≠ .behind front := by
  refine ⟨⟨.unexpectedCharacter '?', {}⟩, rfl, rfl, fun front rest h => ?_⟩
  change [' ', '?'] = _ at h
  rcases front with _ | ⟨c, _ | ⟨d, front⟩⟩
  · exact absurd (List.cons.inj h).1 (by decide)
  · obtain ⟨rfl, -⟩ := List.cons.inj h
    decide
  · have hlength := congrArg List.length h
    simp only [List.length_cons, List.length_append, List.length_nil] at hlength
    omega

end Statement

end InfoFlow
