import InfoFlow.Proofs.Grammar.Layout
import InfoFlow.Proofs.Grammar.Phrases
import InfoFlow.Proofs.Grammar.Places
/-!
# The lexemes of a text

A text that is read is a row of spaces, comments, words and punctuation marks. A comment goes on up
to the end of its line, and a word as far as it can, so a lexeme never goes on with the one in front
of it. Hence each token stands in the text at its place, tokens do not overlap, and what is in no
token is a space or in a comment. The inductions are on the row; what they carry along is how the
characters in front of the row may end.
-/

namespace InfoFlow

/-! ## The characters of tokens -/

theorem not_isWordPart_of_isMark {c : Char} (h : isMark c = true) : isWordPart c = false := by
  simp only [isMark, Bool.or_eq_true, decide_eq_true_eq] at h
  rcases h with (((rfl | rfl) | rfl) | rfl) | rfl <;> decide

theorem not_isWordPart_of_isBlank {c : Char} (h : Text.isBlank c = true) :
    isWordPart c = false := by
  rw [Bool.eq_false_iff]
  intro hpart
  exact absurd h (Bool.eq_false_iff.1 (not_isBlank_of_isWordPart hpart))

theorem isWordPart_of_isWordStart {c : Char} (h : isWordStart c = true) : isWordPart c = true := by
  rw [isWordPart, h, Bool.true_or]

/-- A word has a first character, and a mark has one character. -/
theorem Token.text_cases {t : Token} (h : t.kind ≠ .finish) :
    (t.kind = .word ∧ ∃ c cs, t.text.toList = c :: cs ∧ isWordStart c = true ∧
        cs.all isWordPart = true) ∨
      t.kind = .mark ∧ ∃ c, t.text.toList = [c] ∧ isMark c = true := by
  have hformed := t.formed
  cases hkind : t.kind with
  | finish => exact absurd hkind h
  | word =>
    rw [hkind] at hformed
    cases hcs : t.text.toList with
    | nil =>
      rw [hcs] at hformed
      exact nomatch hformed
    | cons c cs =>
      rw [hcs, TokenKind.admits_word_cons, Bool.and_eq_true] at hformed
      exact .inl ⟨rfl, c, cs, rfl, hformed⟩
  | mark =>
    rw [hkind] at hformed
    rcases hcs : t.text.toList with _ | ⟨c, _ | ⟨d, cs⟩⟩
    · rw [hcs] at hformed
      exact nomatch hformed
    · rw [hcs] at hformed
      exact .inr ⟨rfl, c, rfl, hformed⟩
    · rw [hcs] at hformed
      exact nomatch hformed

/-- Every character of a word is a part of words. -/
theorem isWordPart_of_admits {w : List Char} (hw : TokenKind.word.admits w = true) {c : Char}
    (hc : c ∈ w) : isWordPart c = true := by
  cases w with
  | nil => exact nomatch hc
  | cons d w =>
    rw [TokenKind.admits_word_cons, Bool.and_eq_true] at hw
    rcases List.mem_cons.1 hc with rfl | hc
    · exact isWordPart_of_isWordStart hw.1
    · exact List.all_eq_true.1 hw.2 c hc

theorem Token.isWordPart_of_mem {t : Token} (h : t.kind = .word) {c : Char}
    (hc : c ∈ t.text.toList) : isWordPart c = true := by
  have hformed := t.formed
  rw [h] at hformed
  exact isWordPart_of_admits hformed hc

theorem Token.exists_cons {t : Token} (h : t.kind ≠ .finish) : ∃ c cs, t.text.toList = c :: cs := by
  rcases Token.text_cases h with ⟨-, c, cs, htext, -⟩ | ⟨-, c, htext, -⟩
  · exact ⟨c, cs, htext⟩
  · exact ⟨c, [], htext⟩

theorem Token.not_isBlank_of_mem {t : Token} (h : t.kind ≠ .finish) {c : Char}
    (hc : c ∈ t.text.toList) : Text.isBlank c = false := by
  rcases Token.text_cases h with ⟨hword, -⟩ | ⟨-, d, htext, hd⟩
  · exact not_isBlank_of_isWordPart (Token.isWordPart_of_mem hword hc)
  · rw [htext] at hc
    exact Lexer.not_isBlank_of_isMark (List.mem_singleton.1 hc ▸ hd)

/-- No comment starts in a token. -/
theorem Token.not_mem_text {t : Token} (h : t.kind ≠ .finish) : '#' ∉ t.text.toList := by
  intro hc
  rcases Token.text_cases h with ⟨hword, -⟩ | ⟨-, d, htext, hd⟩
  · exact absurd (Token.isWordPart_of_mem hword hc) (by decide)
  · rw [htext] at hc
    exact absurd (List.mem_singleton.1 hc ▸ hd) (by decide)

namespace Lexer

variable {front rest cs ds : List Char} {c : Char} {t : Token} {ts us vs : List Token}
  {m mode : Mode}

/-! ## Rows of lexemes -/

/-- Characters that stand behind others are a row of spaces, comments and tokens. -/
inductive Row : List Char → List Char → List Token → Prop where
  | finish {front : List Char} : Row front [] []
  | space {front cs : List Char} {c : Char} {ts : List Token} (hc : isSpace c = true)
    (hcs : Row (front ++ [c]) cs ts) : Row front (c :: cs) ts
  | comment {front inner cs : List Char} {ts : List Token} (hinner : '\n' ∉ inner)
    (hend : ∀ c ∈ cs.head?, c = '\n') (hcs : Row (front ++ '#' :: inner) cs ts) :
    Row front ('#' :: (inner ++ cs)) ts
  | token {front cs : List Char} {t : Token} {ts : List Token} (hkind : t.kind ≠ .finish)
    (hplace : t.position = .behind front) (hend : t.kind = .word → EndsWord cs)
    (hcs : Row (front ++ t.text.toList) cs ts) : Row front (t.text.toList ++ cs) (t :: ts)

/-- Characters that stand behind others go on with what is being read, and are a row behind it. -/
def GoesOn (front cs : List Char) (ts : List Token) : Mode → Prop
  | .between => Row front cs ts
  | .comment => ∃ inner rest, cs = inner ++ rest ∧ '\n' ∉ inner ∧ (∀ c ∈ rest.head?, c = '\n') ∧
      Row (front ++ inner) rest ts
  | .word w => ∃ parts rest us, ∃ t : Token, cs = parts ++ rest ∧ EndsWord rest ∧ ts = t :: us ∧
      t.kind = .word ∧ t.text.toList = w.done.reverse ++ parts ∧ t.position = w.start ∧
      Row (front ++ parts) rest us

theorem Starts.row (h : Starts (.behind front) c us m) (hcs : GoesOn (front ++ [c]) cs vs m) :
    Row front (c :: cs) (us ++ vs) := by
  cases h with
  | space h => exact .space h hcs
  | comment h =>
    subst h
    obtain ⟨inner, rest, rfl, hinner, hend, hrest⟩ := hcs
    rw [List.append_assoc] at hrest
    exact .comment hinner hend hrest
  | word h =>
    obtain ⟨parts, rest, us, t, rfl, hend, rfl, hkind, htext, hplace, hrest⟩ := hcs
    change t.text.toList = c :: parts at htext
    have hne : t.kind ≠ .finish := by
      rw [hkind]
      decide
    rw [List.append_assoc, List.singleton_append, ← htext] at hrest
    have htoken := Row.token hne hplace (fun _ => hend) hrest
    rw [htext] at htoken
    exact htoken
  | mark h =>
    have htext : (markToken (.behind front) c h).text.toList = [c] := String.toList_singleton c
    have hmark : (markToken (.behind front) c h).kind ≠ .finish := nofun
    change Row (front ++ [c]) cs vs at hcs
    rw [← htext] at hcs
    have htoken := Row.token hmark rfl nofun hcs
    rw [htext] at htoken
    exact htoken

/-- What a text is read as is what stands in it. -/
theorem row_of_scan {ts : Tokens} (h : scan mode (.behind front) cs = .ok ts) :
    GoesOn front cs ts.rest mode ∧ ts.stop = .behind (front ++ cs) := by
  induction cs generalizing front mode ts with
  | nil =>
    obtain rfl := Except.ok.inj h
    refine ⟨?_, by rw [List.append_nil]⟩
    cases mode with
    | between => exact .finish
    | comment => exact ⟨[], [], rfl, List.not_mem_nil, nofun, .finish⟩
    | word w =>
      refine ⟨[], [], [], w.token, rfl, nofun, rfl, rfl, ?_, rfl, .finish⟩
      show (String.ofList w.done.reverse).toList = _
      rw [String.toList_ofList, List.append_nil]
  | cons c cs ih =>
    rw [scan] at h
    simp only [except_bind_eq_ok, except_pure_eq_ok, Prod.exists, ← steps_iff] at h
    obtain ⟨us, m, hstep, ts', hscan, rfl⟩ := h
    rw [← Position.behind_concat] at hscan
    obtain ⟨hrow, hstop⟩ := ih hscan
    refine ⟨?_, by rw [List.append_cons]; exact hstop⟩
    cases hstep with
    | comment hc =>
      obtain ⟨inner, rest, rfl, hinner, hend, hrest⟩ := hrow
      rw [List.append_assoc] at hrest
      exact ⟨c :: inner, rest, rfl, List.not_mem_cons_of_ne_of_not_mem hc.symm hinner, hend, hrest⟩
    | @word w hc =>
      obtain ⟨parts, rest, us, t, rfl, hend, hts, hkind, htext, hplace, hrest⟩ := hrow
      rw [List.append_assoc] at hrest
      change t.text.toList = (c :: w.done).reverse ++ parts at htext
      rw [List.reverse_cons, List.append_assoc] at htext
      exact ⟨c :: parts, rest, us, t, rfl, hend, hts, hkind, htext, hplace, hrest⟩
    | @start _ _ vs htakes hs =>
      have hnext := hs.row hrow
      show GoesOn front (c :: cs) (mode.pending ++ vs ++ ts'.rest) mode
      rw [List.append_assoc]
      -- what is being read ends here, and the row begins with this character
      cases mode with
      | between => exact hnext
      | comment =>
        obtain rfl : c = '\n' := by simpa [Mode.takes] using htakes
        refine ⟨[], '\n' :: cs, rfl, List.not_mem_nil, fun d hd => ?_, ?_⟩
        · exact (Option.some.inj hd).symm
        · rw [List.append_nil]
          exact hnext
      | word w =>
        refine ⟨[], c :: cs, _, w.token, rfl, endsWord_cons htakes, rfl, rfl, ?_, rfl, ?_⟩
        · show (String.ofList w.done.reverse).toList = _
          rw [String.toList_ofList, List.append_nil]
        · rw [List.append_nil]
          exact hnext

/-! ## What may come behind -/

theorem endsInComment_append :
    EndsInComment (cs ++ ds) ↔ EndsInComment cs ∧ '\n' ∉ ds ∨ EndsInComment ds := by
  induction cs with
  | nil => simp only [List.nil_append, not_endsInComment_nil, false_and, false_or]
  | cons c cs ih =>
    rw [List.cons_append, endsInComment_cons, endsInComment_cons, ih, List.mem_append, not_or,
      or_and_right, and_assoc, or_assoc]

theorem not_endsInComment_of_not_mem (h : '#' ∉ cs) : ¬EndsInComment cs := by
  rintro ⟨front, inner, rfl, -⟩
  exact h (List.mem_append_right front List.mem_cons_self)

theorem endsInComment_concat (hc : c ≠ '\n') :
    EndsInComment (cs ++ [c]) ↔ EndsInComment cs ∨ c = '#' := by
  rw [endsInComment_append, endsInComment_cons]
  simp only [List.mem_singleton, hc.symm, not_false_eq_true, and_true, List.not_mem_nil,
    not_endsInComment_nil, or_false]

/-- What comes behind some characters does not go on with a comment or a word that they end in. -/
structure Parted (front cs : List Char) : Prop where
  comment : EndsInComment front → ∀ c ∈ cs.head?, c = '\n'
  word : ∀ c ∈ front.getLast?, isWordPart c = true → EndsWord cs

theorem parted_nil (cs : List Char) : Parted [] cs :=
  ⟨fun h => absurd h not_endsInComment_nil, nofun⟩

/-- Outside comments and words, anything may come. -/
theorem parted_concat (hcomment : ¬EndsInComment (front ++ [c])) (hc : isWordPart c = false)
    (cs : List Char) : Parted (front ++ [c]) cs := by
  refine ⟨fun h => absurd h hcomment, fun d hd hpart => ?_⟩
  rw [List.getLast?_concat] at hd
  obtain rfl := Option.some.inj hd
  exact absurd hpart (Bool.eq_false_iff.1 hc)

theorem Parted.not_endsInComment (h : Parted front (c :: cs)) (hc : c ≠ '\n') :
    ¬EndsInComment front := fun hcomment => hc (h.comment hcomment c rfl)

theorem Parted.space (h : Parted front (c :: cs)) (hc : isSpace c = true) (ds : List Char) :
    Parted (front ++ [c]) ds := by
  refine parted_concat ?_ (not_isWordPart_of_isBlank (isBlank_of_isSpace hc)) ds
  by_cases hline : c = '\n'
  · subst hline
    rw [endsInComment_append]
    rintro (⟨-, hnot⟩ | hnot)
    · exact hnot List.mem_cons_self
    · exact absurd hnot (not_endsInComment_of_not_mem (by decide))
  · rw [endsInComment_concat hline]
    rintro (hcomment | rfl)
    · exact h.not_endsInComment hline hcomment
    · exact absurd hc (by decide)

theorem parted_comment (front : List Char) {inner : List Char} (hend : ∀ c ∈ cs.head?, c = '\n') :
    Parted (front ++ '#' :: inner) cs := by
  refine ⟨fun _ => hend, fun _ _ _ c hc => ?_⟩
  rw [hend c hc]
  decide

theorem Parted.outside (h : Parted front (t.text.toList ++ cs)) (hkind : t.kind ≠ .finish) :
    ¬EndsInComment front := by
  obtain ⟨c, ds, htext⟩ := Token.exists_cons hkind
  have hblank : Text.isBlank c = false :=
    Token.not_isBlank_of_mem hkind (htext ▸ List.mem_cons_self)
  rw [htext] at h
  refine h.not_endsInComment ?_
  rintro rfl
  exact absurd hblank (by decide)

theorem Parted.token (h : Parted front (t.text.toList ++ cs)) (hkind : t.kind ≠ .finish)
    (hend : t.kind = .word → EndsWord cs) : Parted (front ++ t.text.toList) cs := by
  have hcomment : ¬EndsInComment (front ++ t.text.toList) := by
    rw [endsInComment_append]
    rintro (⟨hfront, -⟩ | htext)
    · exact h.outside hkind hfront
    · exact not_endsInComment_of_not_mem (Token.not_mem_text hkind) htext
  rcases Token.text_cases hkind with ⟨hword, -⟩ | ⟨-, c, htext, hc⟩
  · exact ⟨fun h => absurd h hcomment, fun _ _ _ => hend hword⟩
  · rw [htext] at hcomment ⊢
    exact parted_concat hcomment (not_isWordPart_of_isMark hc) cs

end Lexer

/-! ## Tokens in a text -/

namespace Token

open Lexer

/-- A token stands between some characters: it is at its place and outside comments, and if it is a
word it goes as far as it can to both sides. -/
structure Stands (t : Token) (front rest : List Char) : Prop where
  place : t.position = .behind front
  outside : ¬EndsInComment front
  whole : t.kind = .mark ∨
    t.kind = .word ∧ (∀ c ∈ front.getLast?, isWordPart c = false) ∧ EndsWord rest

theorem Stands.kind_ne {t : Token} {front rest : List Char} (h : t.Stands front rest) :
    t.kind ≠ .finish := by
  rcases h.whole with hmark | ⟨hword, -⟩
  · rw [hmark]
    decide
  · rw [hword]
    decide

/-- A token is a word or a mark that stands in a text. -/
def IsIn (t : Token) (cs : List Char) : Prop :=
  ∃ front rest, cs = front ++ (t.text.toList ++ rest) ∧ t.Stands front rest

/-- A token holds the character of a text between some others. -/
def Holds (t : Token) (front : List Char) (c : Char) (rest : List Char) : Prop :=
  ∃ pre a b post, front = pre ++ a ∧ t.text.toList = a ++ c :: b ∧ rest = b ++ post ∧
    t.Stands pre post

/-- A token ends in a text where another one starts, or in front of that. -/
def Precedes (cs : List Char) (t u : Token) : Prop :=
  ∃ front mid rest, cs = front ++ (t.text.toList ++ (mid ++ (u.text.toList ++ rest))) ∧
    t.position = .behind front ∧ u.position = .behind (front ++ (t.text.toList ++ mid))

end Token

namespace Lexer

variable {front mid rest cs ds : List Char} {c : Char} {t : Token} {ts : List Token}

theorem Parted.stands (h : Parted front (t.text.toList ++ cs)) (hkind : t.kind ≠ .finish)
    (hplace : t.position = .behind front) (hend : t.kind = .word → EndsWord cs) :
    t.Stands front cs := by
  refine ⟨hplace, h.outside hkind, ?_⟩
  rcases Token.text_cases hkind with ⟨hword, c, ds, htext, hc, -⟩ | ⟨hmark, -⟩
  · refine .inr ⟨hword, fun d hd => ?_, hend hword⟩
    rw [Bool.eq_false_iff]
    intro hpart
    have hends := h.word d hd hpart
    rw [htext] at hends
    exact absurd (isWordPart_of_isWordStart hc) (Bool.eq_false_iff.1 (hends c rfl))
  · exact .inl hmark

theorem Row.stands (h : Row front cs ts) (hparted : Parted front cs) (ht : t ∈ ts) :
    ∃ mid rest, cs = mid ++ (t.text.toList ++ rest) ∧ t.Stands (front ++ mid) rest := by
  induction h with
  | finish => exact nomatch ht
  | @space front cs c ts hc _ ih =>
    obtain ⟨mid, rest, rfl, hstands⟩ := ih (hparted.space hc _) ht
    rw [List.append_assoc] at hstands
    exact ⟨c :: mid, rest, rfl, hstands⟩
  | @comment front inner cs ts _ hend _ ih =>
    obtain ⟨mid, rest, rfl, hstands⟩ := ih (parted_comment front hend) ht
    rw [List.append_assoc] at hstands
    refine ⟨'#' :: (inner ++ mid), rest, ?_, hstands⟩
    rw [List.cons_append, List.append_assoc]
  | @token front cs u ts hkind hplace hend _ ih =>
    rcases List.mem_cons.1 ht with rfl | ht
    · refine ⟨[], cs, rfl, ?_⟩
      rw [List.append_nil]
      exact hparted.stands hkind hplace hend
    · obtain ⟨mid, rest, rfl, hstands⟩ := ih (hparted.token hkind hend) ht
      rw [List.append_assoc] at hstands
      exact ⟨u.text.toList ++ mid, rest, (List.append_assoc ..).symm, hstands⟩

theorem Row.pairwise (h : Row front cs ts) (hparted : Parted front cs) :
    ts.Pairwise (Token.Precedes (front ++ cs)) := by
  induction h with
  | finish => exact .nil
  | @space front cs c ts hc _ ih =>
    have hrest := ih (hparted.space hc _)
    rwa [List.append_assoc] at hrest
  | @comment front inner cs ts _ hend _ ih =>
    have hrest := ih (parted_comment front hend)
    rwa [List.append_assoc] at hrest
  | @token front cs t ts hkind hplace hend hcs ih =>
    have hrest := ih (hparted.token hkind hend)
    rw [List.append_assoc] at hrest
    refine .cons (fun u hu => ?_) hrest
    obtain ⟨mid, rest, rfl, hstands⟩ := hcs.stands (hparted.token hkind hend) hu
    refine ⟨front, mid, rest, rfl, hplace, ?_⟩
    rw [hstands.place, List.append_assoc]

/-- A character of joined rows is in the first or in the second one. -/
theorem append_eq_append_cons (h : cs ++ ds = mid ++ c :: rest) :
    (∃ b, cs = mid ++ c :: b ∧ rest = b ++ ds) ∨ ∃ a, mid = cs ++ a ∧ ds = a ++ c :: rest := by
  rcases List.append_eq_append_iff.1 h with ⟨a, hmid, hds⟩ | ⟨b, hcs, hrest⟩
  · exact .inr ⟨a, hmid, hds⟩
  · cases b with
    | nil =>
      rw [List.append_nil] at hcs
      exact .inr ⟨[], by rw [List.append_nil, hcs], hrest.symm⟩
    | cons d b =>
      obtain ⟨rfl, rfl⟩ := List.cons.inj hrest
      exact .inl ⟨b, hcs, rfl⟩

/-- Every character is a space, in a comment or in a token. -/
theorem Row.covers (h : Row front cs ts) (hparted : Parted front cs)
    (hsplit : cs = mid ++ c :: rest) :
    isSpace c = true ∨ EndsInComment (front ++ (mid ++ [c])) ∨
      ∃ t ∈ ts, t.Holds (front ++ mid) c rest := by
  induction h generalizing mid with
  | finish => exact absurd hsplit (List.append_ne_nil_of_right_ne_nil _ (List.cons_ne_nil _ _)).symm
  | @space front cs d ts hd _ ih =>
    cases mid with
    | nil =>
      obtain ⟨rfl, -⟩ := List.cons.inj hsplit
      exact .inl hd
    | cons _ mid =>
      obtain ⟨rfl, hcs⟩ := List.cons.inj hsplit
      have hrest := ih (hparted.space hd _) hcs
      rwa [List.append_assoc, List.append_assoc] at hrest
  | @comment front inner cs ts hinner hend _ ih =>
    cases mid with
    | nil =>
      obtain ⟨rfl, -⟩ := List.cons.inj hsplit
      exact .inr (.inl ⟨front, [], rfl, List.not_mem_nil⟩)
    | cons _ mid =>
      obtain ⟨rfl, htail⟩ := List.cons.inj hsplit
      rcases append_eq_append_cons htail with ⟨b, rfl, -⟩ | ⟨a, rfl, hcs⟩
      · refine .inr (.inl ⟨front, mid ++ [c], rfl, fun hmem => hinner ?_⟩)
        rw [List.append_cons]
        exact List.mem_append_left b hmem
      · have hrest := ih (parted_comment front hend) hcs
        simpa only [List.cons_append, List.append_assoc] using hrest
  | @token front cs t ts hkind hplace hend _ ih =>
    rcases append_eq_append_cons hsplit with ⟨b, htext, rfl⟩ | ⟨a, rfl, hcs⟩
    · have hstands := hparted.stands hkind hplace hend
      exact .inr (.inr ⟨t, List.mem_cons_self, front, mid, b, cs, rfl, htext, rfl, hstands⟩)
    · have hrest := ih (hparted.token hkind hend) hcs
      rw [List.append_assoc, List.append_assoc] at hrest
      simp only [List.append_assoc]
      refine hrest.imp_right (Or.imp_right ?_)
      exact fun ⟨u, hu, hholds⟩ => ⟨u, List.mem_cons_of_mem t hu, hholds⟩

end Lexer

end InfoFlow
