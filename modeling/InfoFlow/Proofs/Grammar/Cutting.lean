import InfoFlow.Proofs.Grammar.Lexemes
/-!
# What a text is cut into

Whether a character is out of place is told by what stands in front of it: whether that ends in a
comment, and whether it ends in a word. A text is cut exactly if no character is out of place, and
if it is not, the first such character is the one that is refused. The tokens of a text that is cut
are the words and marks that stand in it.
-/

namespace InfoFlow

namespace Lexer

variable {front mid rest cs : List Char} {c : Char} {ts us : List Token} {m mode : Mode}
  {p q : Position} {e : SyntaxError}

/-! ## Characters that are out of place -/

/-- Some characters end in a word, or in what may go on as one. -/
def EndsInWord (cs : List Char) : Prop :=
  ∃ front w, cs = front ++ w ∧ TokenKind.word.admits w = true

/-- A character is out of place behind others: it is outside comments and is neither space nor a
mark nor the start of a word, nor a digit that a word goes on with. -/
structure OutOfPlace (front : List Char) (c : Char) : Prop where
  outside : ¬EndsInComment (front ++ [c])
  space : isSpace c = false
  mark : isMark c = false
  start : isWordStart c = false
  digit : ¬(c.isDigit = true ∧ EndsInWord front)

/-- Every character of a row is in its place. -/
theorem Row.not_outOfPlace (h : Row front cs ts) (hparted : Parted front cs)
    (hsplit : cs = mid ++ c :: rest) : ¬OutOfPlace (front ++ mid) c := by
  intro hout
  rcases h.covers hparted hsplit with
    hspace | hcomment | ⟨t, -, pre, a, b, post, hpre, htext, -, ht⟩
  · exact absurd hspace (Bool.eq_false_iff.1 hout.space)
  · rw [← List.append_assoc] at hcomment
    exact hout.outside hcomment
  · rcases Token.text_cases ht.kind_ne with ⟨-, d, ds, hds, hd, hparts⟩ | ⟨-, d, hds, hd⟩
    · rw [htext] at hds
      cases a with
      | nil =>
        obtain ⟨rfl, -⟩ := List.cons.inj hds
        exact absurd hd (Bool.eq_false_iff.1 hout.start)
      | cons _ a =>
        rw [List.cons_append] at hds
        obtain ⟨rfl, rfl⟩ := List.cons.inj hds
        rw [List.all_append, List.all_cons, Bool.and_eq_true, Bool.and_eq_true] at hparts
        obtain ⟨ha, hc, -⟩ := hparts
        -- it is a part of a word but starts none, so it is a digit, and the word starts in front
        rw [isWordPart, hout.start, Bool.false_or] at hc
        refine hout.digit ⟨hc, pre, _, hpre, ?_⟩
        rw [TokenKind.admits_word_cons, hd, ha]
        rfl
    · rw [htext] at hds
      rcases List.append_eq_singleton_iff.1 hds with ⟨-, hone⟩ | ⟨-, hnone⟩
      · obtain ⟨rfl, -⟩ := List.cons.inj hone
        exact absurd hd (Bool.eq_false_iff.1 hout.mark)
      · exact absurd hnone (List.cons_ne_nil c b)

theorem start_eq_error (h : start p c = .error e) :
    e = ⟨.unexpectedCharacter c, p⟩ ∧ isSpace c = false ∧ c ≠ '#' ∧ isWordStart c = false ∧
      isMark c = false := by
  unfold start at h
  split at h
  · cases h
  · split at h
    · cases h
    · split at h
      · cases h
      · split at h
        · cases h
        · rename_i hspace hcomment hword hmark
          exact ⟨(Except.error.inj h).symm, Bool.eq_false_iff.2 hspace, hcomment,
            Bool.eq_false_iff.2 hword, Bool.eq_false_iff.2 hmark⟩

theorem step_eq_error (h : step mode p c = .error e) :
    mode.takes c = false ∧ start p c = .error e := by
  have htakes : mode.takes c = false := by
    rw [Bool.eq_false_iff]
    intro htakes
    cases mode with
    | between => cases htakes
    | comment => cases h
    | word w =>
      rw [step_of_isWordPart w p htakes] at h
      cases h
  rw [step_of_not_takes p htakes] at h
  refine ⟨htakes, ?_⟩
  cases hstart : start p c with
  | error e' =>
    rw [hstart] at h
    exact h
  | ok x =>
    rw [hstart] at h
    cases h

/-- A text that is refused is read up to a character that cannot be read there. -/
theorem scan_eq_error (h : scan mode p cs = .error e) :
    ∃ front c rest us m q, cs = front ++ c :: rest ∧ Passes mode p front us m q ∧
      step m q c = .error e := by
  induction cs generalizing mode p with
  | nil => cases h
  | cons c cs ih =>
    cases hstep : step mode p c with
    | error e' =>
      rw [scan, hstep] at h
      obtain rfl := Except.error.inj h
      exact ⟨[], c, cs, [], mode, p, rfl, .nil, hstep⟩
    | ok x =>
      obtain ⟨us, m⟩ := x
      rw [scan, hstep] at h
      cases hscan : scan m (p.after c) cs with
      | ok ts =>
        change (scan m (p.after c) cs >>= _) = _ at h
        rw [hscan] at h
        cases h
      | error e' =>
        change (scan m (p.after c) cs >>= _) = _ at h
        rw [hscan] at h
        obtain rfl := Except.error.inj h
        obtain ⟨front, d, rest, vs, n, q, rfl, hfront, hd⟩ := ih hscan
        exact ⟨c :: front, d, rest, _, n, q, rfl, .cons (steps_iff.2 hstep) hfront, hd⟩

theorem Passes.place (h : Passes mode (.behind front) cs us m q) : q = .behind (front ++ cs) := by
  generalize hp : Position.behind front = p at h
  induction h generalizing front with
  | nil => rw [List.append_nil, hp]
  | cons _ _ ih =>
    subst hp
    rw [ih (Position.behind_concat front _), ← List.append_cons]

/-- Outside comments, a reading that has come to the end of a word stands in it. -/
theorem Passes.exists_word (h : Passes .between p cs us m q) (hm : m ≠ .comment)
    (hcs : EndsInWord cs) : ∃ w, m = .word w := by
  obtain ⟨front, w, rfl, hw⟩ := hcs
  rcases List.eq_nil_or_concat w with rfl | ⟨w, c, rfl⟩
  · exact nomatch hw
  · rw [List.concat_eq_append] at h hw
    have hc : isWordPart c = true :=
      isWordPart_of_admits hw (List.mem_append_right w List.mem_cons_self)
    rw [← List.append_assoc] at h
    obtain ⟨vs, ws, n, r, -, hend, -⟩ := passes_append.1 h
    cases (passes_singleton.1 hend).1 with
    | comment => exact absurd rfl hm
    | word => exact ⟨_, rfl⟩
    | start _ hs =>
      cases hs with
      | comment => exact absurd rfl hm
      | word => exact ⟨_, rfl⟩
      | space hspace =>
        have hpart := not_isWordPart_of_isBlank (isBlank_of_isSpace hspace)
        exact absurd hc (Bool.eq_false_iff.1 hpart)
      | mark hmark => exact absurd hc (Bool.eq_false_iff.1 (not_isWordPart_of_isMark hmark))

end Lexer

/-! ## Texts -/

namespace Token

open Lexer

variable {t u : Token} {front rest rest' : List Char}

/-- Behind the same characters stands at most one token. -/
theorem Stands.unique (ht : t.Stands front rest) (hu : u.Stands front rest')
    (h : t.text.toList ++ rest = u.text.toList ++ rest') : t = u := by
  have hword {v : Token} {rest : List Char} (hv : v.Stands front rest) (hkind : v.kind = .word) :
      (v.text.toList ++ rest).takeWhile isWordPart = v.text.toList := by
    rw [List.takeWhile_append_of_pos fun c hc => isWordPart_of_mem hkind hc]
    rcases hv.whole with hmark | ⟨-, -, hend⟩
    · rw [hkind] at hmark
      exact nomatch hmark
    · cases rest with
      | nil => rw [List.takeWhile_nil, List.append_nil]
      | cons c rest =>
        rw [List.takeWhile_cons_of_neg (Bool.eq_false_iff.1 (hend c rfl)), List.append_nil]
  have hboth : t.kind = u.kind ∧ t.text.toList = u.text.toList := by
    rcases text_cases ht.kind_ne with ⟨hkt, c, cs, hct, hc, -⟩ | ⟨hkt, c, hct, hc⟩
    · rcases text_cases hu.kind_ne with ⟨hku, -⟩ | ⟨-, d, hdu, hd⟩
      · exact ⟨hkt.trans hku.symm, (hword ht hkt).symm.trans (h ▸ hword hu hku)⟩
      · rw [hct, hdu] at h
        obtain ⟨rfl, -⟩ := List.cons.inj h
        exact absurd hc (Bool.eq_false_iff.1 (not_isWordStart_of_isMark hd))
    · rcases text_cases hu.kind_ne with ⟨-, d, ds, hdu, hd, -⟩ | ⟨hku, d, hdu, hd⟩
      · rw [hct, hdu] at h
        obtain ⟨rfl, -⟩ := List.cons.inj h
        exact absurd hd (Bool.eq_false_iff.1 (not_isWordStart_of_isMark hc))
      · rw [hct, hdu] at h
        obtain ⟨rfl, -⟩ := List.cons.inj h
        exact ⟨hkt.trans hku.symm, hct.trans hdu.symm⟩
  have hplace := ht.place.trans hu.place.symm
  obtain ⟨kind, text, position, formed⟩ := t
  obtain ⟨kind', text', position', formed'⟩ := u
  obtain ⟨rfl, htext⟩ : kind = kind' ∧ text.toList = text'.toList := hboth
  obtain rfl := String.toList_inj.1 htext
  obtain rfl : position = position' := hplace
  rfl

theorem Stands.eq_of_holds {c : Char} {cs : List Char} (ht : t.Stands front rest)
    (htext : t.text.toList = c :: cs) (hu : u.Holds front c (cs ++ rest)) : t = u := by
  obtain ⟨pre, a, b, post, rfl, hutext, hpost, hstands⟩ := hu
  rcases List.eq_nil_or_concat a with rfl | ⟨a, d, rfl⟩
  · rw [List.append_nil] at ht
    refine ht.unique hstands ?_
    rw [htext, hutext, List.nil_append, List.cons_append, hpost, List.cons_append]
  · -- the other token would be a word that has a character in front of this one
    rw [List.concat_eq_append] at ht hutext
    have hkind : u.kind = .word := by
      rcases text_cases hstands.kind_ne with ⟨hword, -⟩ | ⟨-, x, hx, -⟩
      · exact hword
      · have hlength := congrArg List.length (hutext.symm.trans hx)
        simp only [List.length_append, List.length_cons, List.length_nil] at hlength
        omega
    have hd : isWordPart d = true := isWordPart_of_mem hkind (by rw [hutext]; simp)
    have hc : isWordPart c = true := isWordPart_of_mem hkind (by rw [hutext]; simp)
    rcases ht.whole with hmark | ⟨-, hfront, -⟩
    · rcases text_cases ht.kind_ne with ⟨hword, -⟩ | ⟨-, x, hx, hxmark⟩
      · rw [hmark] at hword
        exact nomatch hword
      · rw [htext] at hx
        obtain ⟨rfl, -⟩ := List.cons.inj hx
        exact absurd hc (Bool.eq_false_iff.1 (not_isWordPart_of_isMark hxmark))
    · rw [← List.append_assoc, List.getLast?_concat] at hfront
      exact absurd hd (Bool.eq_false_iff.1 (hfront d rfl))

end Token

namespace Tokens

open Lexer

variable {text : String} {ts : Tokens} {t : Token} {e : SyntaxError}

theorem row_of_ofText (h : ofText text = .ok ts) :
    Row [] text.toList ts.rest ∧ ts.stop = .behind text.toList := by
  have hscan : scan .between (.behind []) text.toList = .ok ts := h
  exact row_of_scan hscan

/-- The tokens of a text are the words and marks that stand in it. -/
theorem mem_of_ofText (h : ofText text = .ok ts) : t ∈ ts.rest ↔ t.IsIn text.toList := by
  have hrow := (row_of_ofText h).1
  have hparted := parted_nil text.toList
  constructor
  · intro ht
    obtain ⟨front, rest, hsplit, hstands⟩ := hrow.stands hparted ht
    exact ⟨front, rest, hsplit, hstands⟩
  · rintro ⟨front, rest, hsplit, hstands⟩
    obtain ⟨c, cs, htext⟩ := Token.exists_cons hstands.kind_ne
    have hc : c ∈ t.text.toList := htext ▸ List.mem_cons_self
    have hblank := Token.not_isBlank_of_mem hstands.kind_ne hc
    rw [htext, List.cons_append] at hsplit
    rcases hrow.covers hparted hsplit with hspace | hcomment | ⟨u, hu, hholds⟩
    · exact absurd (isBlank_of_isSpace hspace) (Bool.eq_false_iff.1 hblank)
    · have hline : c ≠ '\n' := by
        rintro rfl
        exact absurd hblank (by decide)
      rw [List.nil_append, endsInComment_concat hline] at hcomment
      rcases hcomment with hcomment | rfl
      · exact absurd hcomment hstands.outside
      · exact absurd hc (Token.not_mem_text hstands.kind_ne)
    · rw [hstands.eq_of_holds htext hholds]
      exact hu

theorem ofText_eq_error (h : ofText text = .error e) :
    ∃ front c rest, text.toList = front ++ c :: rest ∧ OutOfPlace front c ∧
      (∀ pre d post, front = pre ++ d :: post → ¬OutOfPlace pre d) ∧
      e = ⟨.unexpectedCharacter c, .behind front⟩ := by
  obtain ⟨front, c, rest, us, m, q, hsplit, hpasses, herror⟩ := scan_eq_error h
  have hread : Passes .between (.behind []) front us m q := hpasses
  have hplace : q = .behind front := hread.place
  obtain ⟨htakes, hstart⟩ := step_eq_error herror
  obtain ⟨rfl, hspace, hnumber, hword, hmark⟩ := start_eq_error hstart
  have hline : c ≠ '\n' := by
    rintro rfl
    exact absurd hspace (by decide)
  have hm : m ≠ .comment := by
    rintro rfl
    exact hline (by simpa [Mode.takes] using htakes)
  have hfront : ¬EndsInComment front := fun h => hm (hpasses.eq_comment_iff.2 (.inr h))
  refine ⟨front, c, rest, hsplit, ⟨?_, hspace, hmark, hword, ?_⟩, ?_, by rw [hplace]⟩
  · rw [endsInComment_concat hline]
    rintro (h | h)
    · exact hfront h
    · exact hnumber h
  · rintro ⟨hdigit, hends⟩
    -- a word in front would have taken the digit
    obtain ⟨w, rfl⟩ := hpasses.exists_word hm hends
    change isWordPart c = false at htakes
    rw [isWordPart, hdigit, Bool.or_true] at htakes
    exact Bool.false_ne_true htakes.symm
  · -- what has been read has every character in its place
    intro pre d post hpre hout
    have hscan : scan .between (.behind []) front = .ok ⟨us ++ m.pending, q⟩ :=
      scan_eq_ok.2 ⟨us, m, hread, rfl⟩
    have hrow : Row [] front _ := (row_of_scan hscan).1
    exact hrow.not_outOfPlace (parted_nil front) hpre hout

/-- A text is refused exactly if it has a character that is out of place, and then for the first
one and at its place. Otherwise its tokens, in order, are the words and marks that stand in it, and
every other character is a space or in a comment; behind the tokens stands the end of the text. -/
theorem ofText_exact (text : String) :
    ((∃ e, ofText text = .error e) ↔
        ∃ front c rest, text.toList = front ++ c :: rest ∧ OutOfPlace front c) ∧
      (∀ e, ofText text = .error e →
        ∃ front c rest, text.toList = front ++ c :: rest ∧ OutOfPlace front c ∧
          (∀ pre d post, front = pre ++ d :: post → ¬OutOfPlace pre d) ∧
          e = ⟨.unexpectedCharacter c, .behind front⟩) ∧
      ∀ ts, ofText text = .ok ts →
        (∀ t, t ∈ ts.rest ↔ t.IsIn text.toList) ∧
        ts.rest.Pairwise (Token.Precedes text.toList) ∧
        (∀ front c rest, text.toList = front ++ c :: rest →
          isSpace c = true ∨ EndsInComment (front ++ [c]) ∨ ∃ t ∈ ts.rest, t.Holds front c rest) ∧
        ts.finish.kind = .finish ∧ ts.finish.position = .behind text.toList := by
  refine ⟨⟨?_, ?_⟩, fun e => ofText_eq_error, fun ts h => ?_⟩
  · rintro ⟨e, h⟩
    obtain ⟨front, c, rest, hsplit, hout, -⟩ := ofText_eq_error h
    exact ⟨front, c, rest, hsplit, hout⟩
  · rintro ⟨front, c, rest, hsplit, hout⟩
    cases h : ofText text with
    | error e => exact ⟨e, rfl⟩
    | ok ts => exact absurd hout ((row_of_ofText h).1.not_outOfPlace (parted_nil _) hsplit)
  · obtain ⟨hrow, hstop⟩ := row_of_ofText h
    have hparted := parted_nil text.toList
    exact ⟨fun t => mem_of_ofText h, hrow.pairwise hparted,
      fun front c rest hsplit => hrow.covers hparted hsplit, rfl, hstop⟩

/-- A text with a character that is out of place, and with the same one in a comment. -/
def accentedText : String := "a1 # caf\u00e9\r\nx\u00e9 ."

theorem accentedText_exact :
    ∃ e front c rest, ofText accentedText = .error e ∧ accentedText.toList = front ++ c :: rest ∧
      OutOfPlace front c ∧ (∀ pre d post, front = pre ++ d :: post → ¬OutOfPlace pre d) ∧
      e = ⟨.unexpectedCharacter c, .behind front⟩ := by
  obtain ⟨hiff, herror, -⟩ := ofText_exact accentedText
  have hout : OutOfPlace "a1 # caf\u00e9\r\nx".toList 'é' :=
    ⟨by decide, by decide, by decide, by decide, fun h => absurd h.1 (by decide)⟩
  obtain ⟨e, he⟩ := hiff.2 ⟨_, _, " .".toList, rfl, hout⟩
  obtain ⟨front, c, rest, hrefused⟩ := herror e he
  exact ⟨e, front, c, rest, he, hrefused⟩

end Tokens

end InfoFlow
