import InfoFlow.Proofs.Grammar.Lexing
import InfoFlow.Proofs.Keyed
/-!
# Layout

A text is read in parts: what a part is cut into is not changed by what comes after it, and only the
places of its tokens depend on what comes in front. So layout at the ends of a text can be told
apart from the text: blanks there make no difference, and whether the last line ends in a comment
decides whether what is put behind the text is read at all.
-/

namespace InfoFlow.Lexer

variable {mode mode' m n : Mode} {p q r : Position} {c : Char} {cs ds : List Char}
  {us vs : List Token}

/-! ## One character -/

/-- Whether what is being read goes on with a character. -/
def Mode.takes : Mode → Char → Bool
  | .between, _ => false
  | .comment, c => c ≠ '\n'
  | .word _, c => isWordPart c

theorem step_of_not_takes (p : Position) (h : mode.takes c = false) :
    step mode p c = start p c >>= fun x => .ok (mode.pending ++ x.1, x.2) := by
  -- what is being read ends, and the character is read as if nothing stood in front of it
  cases mode with
  | between =>
    show start p c = _
    cases start p c <;> rfl
  | comment =>
    obtain rfl : c = '\n' := by simpa [Mode.takes] using h
    rfl
  | word w => exact step_of_not_isWordPart w p h

/-- What a character between tokens is: the tokens that it completes, and where the reading then
stands. -/
inductive Starts (p : Position) (c : Char) : List Token → Mode → Prop where
  | space (h : isSpace c = true) : Starts p c [] .between
  | comment (h : c = '#') : Starts p c [] .comment
  | word (h : isWordStart c = true) : Starts p c [] (.word (.first p c h))
  | mark (h : isMark c = true) : Starts p c [markToken p c h] .between

theorem starts_iff : Starts p c us m ↔ start p c = .ok (us, m) := by
  constructor
  · intro h
    cases h with
    | space h => exact if_pos h
    | comment h =>
      subst h
      rfl
    | word h => exact step_of_isWordStart p h
    | mark h =>
      simp only [isMark, Bool.or_eq_true, decide_eq_true_eq] at h
      rcases h with (((rfl | rfl) | rfl) | rfl) | rfl <;> rfl
  · intro h
    unfold start at h
    split at h
    · rename_i hc
      obtain ⟨rfl, rfl⟩ := Prod.mk.inj (Except.ok.inj h)
      exact .space hc
    · split at h
      · rename_i hc
        obtain ⟨rfl, rfl⟩ := Prod.mk.inj (Except.ok.inj h)
        exact .comment hc
      · split at h
        · rename_i hc
          obtain ⟨rfl, rfl⟩ := Prod.mk.inj (Except.ok.inj h)
          exact .word hc
        · split at h
          · rename_i hc
            obtain ⟨rfl, rfl⟩ := Prod.mk.inj (Except.ok.inj h)
            exact .mark hc
          · cases h

/-- What a character is, wherever the reading stands. -/
inductive Steps (p : Position) (c : Char) : Mode → List Token → Mode → Prop where
  | comment (h : c ≠ '\n') : Steps p c .comment [] .comment
  | word {w : Begun} (h : isWordPart c = true) : Steps p c (.word w) [] (.word (w.push c h))
  | start {mode m : Mode} {us : List Token} (h : mode.takes c = false) (hc : Starts p c us m) :
    Steps p c mode (mode.pending ++ us) m

theorem steps_iff : Steps p c mode us m ↔ step mode p c = .ok (us, m) := by
  constructor
  · intro h
    cases h with
    | comment h =>
      show Except.ok ([], if c = '\n' then Mode.between else .comment) = _
      rw [if_neg h]
    | word h => exact step_of_isWordPart _ p h
    | start h hc =>
      rw [step_of_not_takes p h, starts_iff.1 hc]
      rfl
  · intro h
    cases htakes : mode.takes c with
    | false =>
      rw [step_of_not_takes p htakes] at h
      obtain ⟨⟨vs, n⟩, hstart, hok⟩ := except_bind_eq_ok.1 h
      obtain ⟨rfl, rfl⟩ := Prod.mk.inj (Except.ok.inj hok)
      exact .start htakes (starts_iff.2 hstart)
    | true =>
      cases mode with
      | between => cases htakes
      | comment =>
        have hc : c ≠ '\n' := by simpa [Mode.takes] using htakes
        change Except.ok ([], if c = '\n' then Mode.between else .comment) = _ at h
        rw [if_neg hc] at h
        obtain ⟨rfl, rfl⟩ := Prod.mk.inj (Except.ok.inj h)
        exact .comment hc
      | word w =>
        rw [step_of_isWordPart w p htakes] at h
        obtain ⟨rfl, rfl⟩ := Prod.mk.inj (Except.ok.inj h)
        exact .word htakes

/-! ## Parts of a text -/

/-- A row of characters is read from a place on: the tokens that it completes, where the reading
then stands, and the place after it. The text may go on after it. -/
inductive Passes : Mode → Position → List Char → List Token → Mode → Position → Prop where
  | nil {mode : Mode} {p : Position} : Passes mode p [] [] mode p
  | cons {mode m n : Mode} {p q : Position} {c : Char} {cs : List Char} {us vs : List Token}
    (h : Steps p c mode us m) (hcs : Passes m (p.after c) cs vs n q) :
    Passes mode p (c :: cs) (us ++ vs) n q

theorem passes_singleton : Passes mode p [c] us m q ↔ Steps p c mode us m ∧ q = p.after c := by
  constructor
  · intro h
    cases h with
    | cons h hcs =>
      cases hcs
      rw [List.append_nil]
      exact ⟨h, rfl⟩
  · rintro ⟨h, rfl⟩
    have hone := Passes.cons h .nil
    rwa [List.append_nil] at hone

theorem passes_append :
    Passes mode p (cs ++ ds) us n q ↔ ∃ vs ws m r, Passes mode p cs vs m r ∧
      Passes m r ds ws n q ∧ us = vs ++ ws := by
  constructor
  · intro h
    induction cs generalizing mode p us with
    | nil => exact ⟨[], us, mode, p, .nil, h, rfl⟩
    | cons c cs ih =>
      cases h with
      | cons hc hcs =>
        obtain ⟨vs, ws, m, r, hvs, hws, rfl⟩ := ih hcs
        exact ⟨_, ws, m, r, .cons hc hvs, hws, (List.append_assoc ..).symm⟩
  · rintro ⟨vs, ws, m, r, hvs, hws, rfl⟩
    induction hvs with
    | nil => exact hws
    | cons hc _ ih =>
      rw [List.append_assoc]
      exact .cons hc (ih hws)

theorem scan_eq_ok {ts : Tokens} :
    scan mode p cs = .ok ts ↔
      ∃ us m, Passes mode p cs us m ts.stop ∧ ts.rest = us ++ m.pending := by
  induction cs generalizing mode p ts with
  | nil =>
    -- what is being read at the end of the text is its last token
    obtain ⟨rest, stop⟩ := ts
    rw [scan, Except.ok.injEq, Tokens.mk.injEq]
    constructor
    · rintro ⟨rfl, rfl⟩
      exact ⟨[], mode, .nil, rfl⟩
    · rintro ⟨us, m, h, rfl⟩
      cases h
      exact ⟨rfl, rfl⟩
  | cons c cs ih =>
    rw [scan]
    simp only [except_bind_eq_ok, except_pure_eq_ok, Prod.exists, ← steps_iff, ih]
    constructor
    · rintro ⟨us, m, hc, ⟨rest, stop⟩, ⟨vs, n, hcs, rfl⟩, rfl⟩
      exact ⟨us ++ vs, n, .cons hc hcs, (List.append_assoc ..).symm⟩
    · rintro ⟨us, n, h, hrest⟩
      cases h with
      | @cons _ m _ _ _ _ _ us vs hc hcs =>
        refine ⟨us, m, hc, ⟨vs ++ n.pending, ts.stop⟩, ⟨vs, n, hcs, rfl⟩, ?_⟩
        obtain ⟨rest, stop⟩ := ts
        obtain rfl : rest = _ := hrest
        rw [List.append_assoc]

/-! ## Places -/

/-- Two readings stand at the same characters, wherever these are. -/
inductive Mode.Alike : Mode → Mode → Prop where
  | between : Alike .between .between
  | comment : Alike .comment .comment
  | word {w v : Begun} (h : w.done = v.done) : Alike (.word w) (.word v)

theorem Mode.Alike.refl (m : Mode) : m.Alike m := by
  cases m with
  | between => exact .between
  | comment => exact .comment
  | word w => exact .word rfl

theorem Mode.Alike.pending (h : m.Alike n) :
    m.pending.map Token.text = n.pending.map Token.text := by
  cases h with
  | between => rfl
  | comment => rfl
  | @word w v h =>
    show [String.ofList w.done.reverse] = [String.ofList v.done.reverse]
    rw [h]

theorem Mode.Alike.takes_eq (h : m.Alike n) (c : Char) : m.takes c = n.takes c := by
  cases h <;> rfl

theorem Starts.elsewhere (h : Starts p c us m) (q : Position) :
    ∃ vs n, Starts q c vs n ∧ vs.map Token.text = us.map Token.text ∧ m.Alike n := by
  cases h with
  | space h => exact ⟨[], _, .space h, rfl, .between⟩
  | comment h => exact ⟨[], _, .comment h, rfl, .comment⟩
  | word h => exact ⟨[], _, .word h, rfl, .word rfl⟩
  | mark h => exact ⟨_, _, .mark h, rfl, .between⟩

theorem Steps.elsewhere (h : Steps p c mode us m) (halike : mode.Alike mode') (q : Position) :
    ∃ vs n, Steps q c mode' vs n ∧ vs.map Token.text = us.map Token.text ∧ m.Alike n := by
  cases h with
  | comment h =>
    cases halike
    exact ⟨[], _, .comment h, rfl, .comment⟩
  | word h =>
    cases halike with
    | word hdone => exact ⟨[], _, .word h, rfl, .word (congrArg (List.cons c) hdone)⟩
  | start h hc =>
    obtain ⟨vs, n, hn, htexts, hmode⟩ := hc.elsewhere q
    refine ⟨_, n, .start ((halike.takes_eq c).symm.trans h) hn, ?_, hmode⟩
    rw [List.map_append, List.map_append, htexts, halike.pending]

theorem Passes.elsewhere (h : Passes mode p cs us m q) (halike : mode.Alike mode')
    (p' : Position) :
    ∃ vs n q', Passes mode' p' cs vs n q' ∧ vs.map Token.text = us.map Token.text ∧
      m.Alike n := by
  -- only the words so far carry over from one character to the next, not where they stand
  induction h generalizing mode' p' with
  | nil => exact ⟨[], mode', p', .nil, rfl, halike⟩
  | cons hc _ ih =>
    obtain ⟨vs, n, hn, htexts, hmode⟩ := hc.elsewhere halike p'
    obtain ⟨ws, n', q', hws, hrest, hend⟩ := ih hmode (p'.after _)
    refine ⟨vs ++ ws, n', q', .cons hn hws, ?_, hend⟩
    rw [List.map_append, List.map_append, htexts, hrest]

/-! ## Blanks at the ends -/

theorem not_isBlank_of_isMark (h : isMark c = true) : Text.isBlank c = false := by
  simp only [isMark, Bool.or_eq_true, decide_eq_true_eq] at h
  rcases h with (((rfl | rfl) | rfl) | rfl) | rfl <;> decide

theorem isBlank_of_isSpace (h : isSpace c = true) : Text.isBlank c = true := by
  simp only [isSpace, Bool.or_eq_true, decide_eq_true_eq] at h
  rcases h with ((rfl | rfl) | rfl) | rfl <;> decide

theorem Starts.blank (h : Starts p c us m) (hc : Text.isBlank c = true) :
    us = [] ∧ m = .between := by
  cases h with
  | space => exact ⟨rfl, rfl⟩
  | comment h =>
    subst h
    exact absurd hc (by decide)
  | word h => exact absurd hc (Bool.eq_false_iff.1 (not_isBlank_of_isWordStart h))
  | mark h => exact absurd hc (Bool.eq_false_iff.1 (not_isBlank_of_isMark h))

theorem Steps.blank (h : Steps p c mode us m) (hc : Text.isBlank c = true) :
    us ++ m.pending = mode.pending := by
  -- a blank is no part of a word, so it completes one, and it starts nothing
  cases h with
  | comment => rfl
  | word h => exact absurd hc (Bool.eq_false_iff.1 (not_isBlank_of_isWordPart h))
  | start _ hs =>
    obtain ⟨rfl, rfl⟩ := hs.blank hc
    exact (List.append_nil _).trans (List.append_nil _)

theorem Passes.blanks (h : Passes mode p cs us m q) (hcs : ∀ c ∈ cs, Text.isBlank c = true) :
    us ++ m.pending = mode.pending := by
  induction h with
  | nil => rfl
  | cons hc _ ih =>
    rw [List.forall_mem_cons] at hcs
    rw [List.append_assoc, ih hcs.2, hc.blank hcs.1]

theorem Passes.dropBlanks (h : Passes .between p cs us m q) :
    ∃ r, Passes .between r (cs.dropWhile Text.isBlank) us m q := by
  induction cs generalizing p us with
  | nil => exact ⟨p, h⟩
  | cons c cs ih =>
    by_cases hc : Text.isBlank c = true
    · rw [List.dropWhile_cons_of_pos hc]
      cases h with
      | cons hstep hcs =>
        cases hstep with
        | start _ hs =>
          -- nothing is being read in front of the text, so only the place has changed
          obtain ⟨rfl, rfl⟩ := hs.blank hc
          exact ih hcs
    · rw [List.dropWhile_cons_of_neg hc]
      exact ⟨p, h⟩

/-- A text without the blanks at its ends is cut into the same tokens, though at other places. -/
theorem Passes.strip (h : Passes .between p cs us m q) (r : Position) :
    ∃ vs n q', Passes .between r (Text.stripChars cs) vs n q' ∧
      (vs ++ n.pending).map Token.text = (us ++ m.pending).map Token.text := by
  obtain ⟨p', hfront⟩ := h.dropBlanks
  -- what is left ends with the blanks that its reverse starts with
  have hsplit : cs.dropWhile Text.isBlank = Text.stripChars cs ++
      ((cs.dropWhile Text.isBlank).reverse.takeWhile Text.isBlank).reverse := by
    unfold Text.stripChars
    rw [← List.reverse_append, List.takeWhile_append_dropWhile, List.reverse_reverse]
  rw [hsplit] at hfront
  obtain ⟨xs, ys, n, p'', hxs, hys, rfl⟩ := passes_append.1 hfront
  have hblanks : ∀ c ∈ ((cs.dropWhile Text.isBlank).reverse.takeWhile Text.isBlank).reverse,
      Text.isBlank c = true :=
    fun c hc => List.all_eq_true.1 List.all_takeWhile c (List.mem_reverse.1 hc)
  have hpending := hys.blanks hblanks
  obtain ⟨vs, n', q', hvs, htexts, halike⟩ := hxs.elsewhere (.refl .between) r
  refine ⟨vs, n', q', hvs, ?_⟩
  rw [List.append_assoc, hpending, List.map_append, List.map_append, htexts, halike.pending]

/-! ## Comments at the end -/

/-- The last line has a number sign, with which a comment starts. -/
def EndsInComment (cs : List Char) : Prop :=
  ∃ front inner, cs = front ++ '#' :: inner ∧ '\n' ∉ inner

theorem not_endsInComment_nil : ¬EndsInComment [] := by
  rintro ⟨front, inner, h, -⟩
  exact List.append_ne_nil_of_right_ne_nil front (List.cons_ne_nil _ _) h.symm

theorem endsInComment_cons :
    EndsInComment (c :: cs) ↔ c = '#' ∧ '\n' ∉ cs ∨ EndsInComment cs := by
  constructor
  · rintro ⟨front, inner, heq, hinner⟩
    cases front with
    | nil =>
      obtain ⟨rfl, rfl⟩ := List.cons.inj heq
      exact .inl ⟨rfl, hinner⟩
    | cons d front =>
      obtain ⟨-, rfl⟩ := List.cons.inj heq
      exact .inr ⟨front, inner, rfl, hinner⟩
  · rintro (⟨rfl, hcs⟩ | ⟨front, inner, rfl, hinner⟩)
    · exact ⟨[], cs, rfl, hcs⟩
    · exact ⟨c :: front, inner, rfl, hinner⟩

instance decidableEndsInComment : DecidablePred EndsInComment
  | [] => .isFalse not_endsInComment_nil
  | _ :: cs =>
    have := decidableEndsInComment cs
    decidable_of_iff _ endsInComment_cons.symm

theorem Starts.eq_comment_iff (h : Starts p c us m) : m = .comment ↔ c = '#' := by
  constructor
  · rintro rfl
    cases h with
    | comment h => exact h
  · rintro rfl
    -- a number sign starts nothing but a comment
    have hrun : start p '#' = .ok ([], .comment) := rfl
    have heq := (starts_iff.1 h).symm.trans hrun
    exact (Prod.mk.inj (Except.ok.inj heq)).2

theorem Steps.eq_comment_iff (h : Steps p c mode us m) :
    m = .comment ↔ c = '#' ∨ mode = .comment ∧ c ≠ '\n' := by
  cases h with
  | comment h => exact iff_of_true rfl (.inr ⟨rfl, h⟩)
  | word h =>
    refine iff_of_false nofun ?_
    rintro (rfl | ⟨hmode, -⟩)
    · exact absurd h (by decide)
    · cases hmode
  | start h hs =>
    rw [hs.eq_comment_iff, iff_self_or]
    rintro ⟨rfl, hc⟩
    exact absurd h (by simpa [Mode.takes] using hc)

/-- A reading stands in a comment exactly if one has started since the last line end. -/
theorem Passes.eq_comment_iff (h : Passes mode p cs us m q) :
    m = .comment ↔ mode = .comment ∧ '\n' ∉ cs ∨ EndsInComment cs := by
  induction h with
  | nil =>
    simp only [List.not_mem_nil, not_false_eq_true, and_true, not_endsInComment_nil, or_false]
  | cons hc _ ih =>
    rw [ih, hc.eq_comment_iff, endsInComment_cons, List.mem_cons, not_or, or_and_right, and_assoc,
      ← or_assoc, or_comm (a := _ ∧ _), ne_comm]

end InfoFlow.Lexer
