import InfoFlow.Grammar.Parser
import InfoFlow.Proofs.Grammar.Denotation
/-!
# Cutting texts that are spaced out

A text in which spaces part the words is cut into these words, whatever stands around it. Such texts
are put together from words, by a space between two of them or parentheses around one.
-/

namespace InfoFlow

theorem not_isBlank_of_isWordPart {c : Char} (h : isWordPart c = true) :
    Text.isBlank c = false := by
  have hblank : ∀ p ∈ Text.blankPoints, isWordPart (Char.ofNat p) = false := by decide
  rw [Bool.eq_false_iff, Text.isBlank, ne_eq, List.contains_iff_mem]
  intro hmem
  have hnot := hblank c.toNat hmem
  rw [Char.ofNat_toNat, h] at hnot
  exact Bool.false_ne_true hnot.symm

namespace Lexer

variable {cs rest : List Char} {ws vs : List String} {c : Char}

/-- Characters between tokens are cut into tokens with these texts, wherever they stand. -/
def Cuts (cs : List Char) (ws : List String) : Prop :=
  ∀ p, ∃ ts, scan .between p cs = .ok ts ∧ ts.rest.map Token.text = ws

/-- A word does not go on with these characters. -/
def EndsWord (cs : List Char) : Prop := ∀ c ∈ cs.head?, isWordPart c = false

theorem endsWord_cons (hc : isWordPart c = false) : EndsWord (c :: cs) := by
  intro d hd
  obtain rfl := Option.some.inj hd
  exact hc

theorem scan_cons {mode mode' : Mode} {p : Position} {us : List Token} {ts : Tokens}
    (hstep : step mode p c = .ok (us, mode')) (hrest : scan mode' (p.after c) cs = .ok ts) :
    scan mode p (c :: cs) = .ok { ts with rest := us ++ ts.rest } := by
  rw [scan, hstep]
  show (scan mode' (p.after c) cs >>= fun tokens => _) = _
  rw [hrest]
  rfl

theorem cuts_nil : Cuts [] [] := fun p => ⟨⟨[], p⟩, rfl, rfl⟩

theorem Cuts.space (h : Cuts cs ws) : Cuts (' ' :: cs) ws := by
  intro p
  obtain ⟨ts, hts, hws⟩ := h (p.after ' ')
  exact ⟨_, scan_cons rfl hts, hws⟩

theorem Cuts.mark (hc : isMark c = true) (h : Cuts cs ws) :
    Cuts (c :: cs) (String.singleton c :: ws) := by
  intro p
  obtain ⟨ts, hts, hws⟩ := h (p.after c)
  have hstep : step .between p c = .ok ([markToken p c hc], .between) := by
    simp only [isMark, Bool.or_eq_true, decide_eq_true_eq] at hc
    rcases hc with (((rfl | rfl) | rfl) | rfl) | rfl <;> rfl
  refine ⟨_, scan_cons hstep hts, ?_⟩
  show String.singleton c :: ts.rest.map Token.text = _
  rw [hws]

theorem step_of_isWordStart (p : Position) (hc : isWordStart c = true) :
    step .between p c = .ok ([], .word (.first p c hc)) := by
  have hspace : isSpace c = false := by
    rw [Bool.eq_false_iff]
    intro h
    simp only [isSpace, Bool.or_eq_true, decide_eq_true_eq] at h
    rcases h with ((rfl | rfl) | rfl) | rfl <;> exact nomatch hc
  have hcomment : c ≠ '#' := by
    rintro rfl
    exact nomatch hc
  show start p c = _
  unfold start
  rw [hspace, if_neg Bool.false_ne_true, if_neg hcomment, dif_pos hc]

theorem step_of_isWordPart (w : Begun) (p : Position) (hc : isWordPart c = true) :
    step (.word w) p c = .ok ([], .word (w.push c hc)) := dif_pos hc

theorem step_of_not_isWordPart (w : Begun) (p : Position) (hc : isWordPart c = false) :
    step (.word w) p c = (start p c >>= fun x => .ok (w.token :: x.1, x.2)) :=
  dif_neg (Bool.eq_false_iff.1 hc)

/-- Characters after which a word has ended are read as if nothing stood in front of them. -/
theorem scan_word_of_endsWord (w : Begun) (p : Position) (hrest : EndsWord rest)
    {ts : Tokens} (h : scan .between p rest = .ok ts) :
    scan (.word w) p rest = .ok { ts with rest := w.token :: ts.rest } := by
  cases rest with
  | nil =>
    obtain rfl := Except.ok.inj h
    rfl
  | cons c cs =>
    have hpart : isWordPart c = false := hrest c rfl
    rw [scan] at h
    change ((start p c : Except SyntaxError _) >>= _) = _ at h
    cases hstart : start p c with
    | error e =>
      rw [hstart] at h
      exact nomatch h
    | ok x =>
      obtain ⟨us, mode⟩ := x
      rw [hstart] at h
      change (scan mode (p.after c) cs >>= _) = _ at h
      cases hscan : scan mode (p.after c) cs with
      | error e =>
        rw [hscan] at h
        exact nomatch h
      | ok us' =>
        rw [hscan] at h
        obtain rfl := Except.ok.inj h
        have hstep : step (.word w) p c = .ok (w.token :: us, mode) := by
          rw [step_of_not_isWordPart w p hpart, hstart]
          rfl
        exact scan_cons hstep hscan

/-- A word that has begun takes the word parts that come next. -/
theorem scan_word (w : Begun) (hcs : cs.all isWordPart = true) (hrest : EndsWord rest)
    (h : Cuts rest vs) (p : Position) :
    ∃ ts, scan (.word w) p (cs ++ rest) = .ok ts ∧
      ts.rest.map Token.text = String.ofList (w.done.reverse ++ cs) :: vs := by
  -- the characters that have been taken are kept in reverse
  induction cs generalizing w p with
  | nil =>
    obtain ⟨ts, hts, hvs⟩ := h p
    refine ⟨_, scan_word_of_endsWord w p hrest hts, ?_⟩
    show w.token.text :: ts.rest.map Token.text = _
    rw [hvs, List.append_nil]
    rfl
  | cons c cs ih =>
    rw [List.all_cons, Bool.and_eq_true] at hcs
    obtain ⟨ts, hts, hvs⟩ := ih (w.push c hcs.1) hcs.2 (p.after c)
    refine ⟨_, scan_cons (step_of_isWordPart w p hcs.1) hts, ?_⟩
    show ts.rest.map Token.text = _
    rw [hvs]
    show String.ofList ((c :: w.done).reverse ++ cs) :: vs = _
    rw [List.reverse_cons, List.append_assoc, List.singleton_append]

theorem Cuts.word {w : String} (hw : TokenKind.word.admits w.toList = true)
    (hrest : EndsWord rest) (h : Cuts rest vs) : Cuts (w.toList ++ rest) (w :: vs) := by
  intro p
  cases hcs : w.toList with
  | nil =>
    rw [hcs] at hw
    exact nomatch hw
  | cons c cs =>
    rw [hcs, TokenKind.admits_word_cons, Bool.and_eq_true] at hw
    obtain ⟨ts, hts, hvs⟩ := scan_word (.first p c hw.1) hw.2 hrest h (p.after c)
    refine ⟨_, scan_cons (step_of_isWordStart p hw.1) hts, ?_⟩
    show ts.rest.map Token.text = _
    rw [hvs]
    show String.ofList (c :: cs) :: vs = _
    rw [← hcs, String.ofList_toList]

/-! ## Texts put together from words -/

/-- A text is cut into words in front of whatever does not go on with the last one. No blank is at
its ends, and no period at its end. -/
structure Spelled (s : String) (ws : List String) : Prop where
  cuts : ∀ {rest vs}, EndsWord rest → Cuts rest vs → Cuts (s.toList ++ rest) (ws ++ vs)
  first : ∃ c cs, s.toList = c :: cs ∧ Text.isBlank c = false
  last : ∃ cs c, s.toList = cs ++ [c] ∧ Text.isBlank c = false ∧ c ≠ '.'

namespace Spelled

variable {s t w : String}

theorem word (hw : TokenKind.word.admits w.toList = true) : Spelled w [w] := by
  have hcuts {rest : List Char} {vs : List String} (hrest : EndsWord rest) (h : Cuts rest vs) :
      Cuts (w.toList ++ rest) (w :: vs) := h.word hw hrest
  cases hcs : w.toList with
  | nil =>
    rw [hcs] at hw
    exact nomatch hw
  | cons c cs =>
    rw [hcs, TokenKind.admits_word_cons, Bool.and_eq_true] at hw
    have hparts : ∀ d ∈ c :: cs, isWordPart d = true := by
      intro d hd
      rcases List.mem_cons.1 hd with rfl | hd
      · show (isWordStart d || _) = true
        rw [hw.1, Bool.true_or]
      · exact List.all_eq_true.1 hw.2 d hd
    have hne : c :: cs ≠ [] := List.cons_ne_nil c cs
    have hlast := hparts _ (List.getLast_mem hne)
    refine ⟨hcuts, ⟨c, cs, hcs, not_isBlank_of_isWordStart hw.1⟩, (c :: cs).dropLast,
      (c :: cs).getLast hne, ?_, not_isBlank_of_isWordPart hlast, fun hperiod => ?_⟩
    · rw [hcs, List.dropLast_concat_getLast]
    · rw [hperiod] at hlast
      exact nomatch hlast

/-- Two texts with a space between them. -/
theorem append (hs : Spelled s ws) (ht : Spelled t vs) : Spelled (s ++ " " ++ t) (ws ++ vs) := by
  have hchars : (s ++ " " ++ t).toList = s.toList ++ ' ' :: t.toList := by
    rw [String.toList_append, String.toList_append, List.append_assoc]
    rfl
  obtain ⟨c, cs, hfirst, hc⟩ := hs.first
  obtain ⟨front, d, hlast, hd⟩ := ht.last
  refine ⟨fun hrest h => ?_, ⟨c, cs ++ ' ' :: t.toList, ?_, hc⟩,
    s.toList ++ ' ' :: front, d, ?_, hd⟩
  · rw [hchars, List.append_assoc, List.append_assoc]
    exact hs.cuts (endsWord_cons rfl) (ht.cuts hrest h).space
  · rw [hchars, hfirst]
    rfl
  · rw [hchars, hlast, List.append_assoc]
    rfl

/-- A text between parentheses. -/
theorem parentheses (hs : Spelled s ws) : Spelled ("(" ++ s ++ ")") ("(" :: (ws ++ [")"])) := by
  have hchars : ("(" ++ s ++ ")").toList = '(' :: (s.toList ++ [')']) := by
    rw [String.toList_append, String.toList_append]
    rfl
  refine ⟨@fun rest vs _ h => ?_, ⟨'(', s.toList ++ [')'], hchars, rfl⟩, '(' :: s.toList, ')',
    hchars, rfl, by decide⟩
  rw [hchars]
  show Cuts ('(' :: (s.toList ++ [')'] ++ rest)) ("(" :: (ws ++ [")"] ++ vs))
  rw [List.append_assoc, List.append_assoc]
  exact (hs.cuts (endsWord_cons rfl) (h.mark rfl)).mark rfl

/-- A statement that is spelled so is read as these words and the period that closes it. -/
theorem ofText_closed (hs : Spelled s ws) :
    ∃ ts, Tokens.ofText (Statement.closed s) = .ok ts ∧ ts.rest.map Token.text = ws ++ ["."] := by
  obtain ⟨c, cs, hfirst, hc⟩ := hs.first
  obtain ⟨front, d, hlast, hd, hperiod⟩ := hs.last
  have hstrip : Text.strip s = s := by
    unfold Text.strip
    rw [Text.stripChars_eq_self, String.ofList_toList]
    · rw [hfirst]
      exact fun e he => Option.some.inj he ▸ hc
    · rw [hlast, List.getLast?_concat]
      exact fun e he => Option.some.inj he ▸ hd
  have hclosed : Statement.closed s = s ++ "." := by
    unfold Statement.closed
    rw [hstrip]
    show (if s.toList.getLast? = some '.' then s else s ++ ".") = _
    rw [hlast, List.getLast?_concat]
    exact if_neg fun h => hperiod (Option.some.inj h)
  rw [hclosed]
  unfold Tokens.ofText
  rw [String.toList_append]
  exact hs.cuts (endsWord_cons rfl) (cuts_nil.mark rfl) {}

end Spelled

end Lexer

end InfoFlow
