import InfoFlow.Proofs.Evaluation.Unknown
import InfoFlow.Proofs.Grammar.Acceptance
import Mathlib.Data.List.Forall2
/-!
# The markers of an accepted text

Every statement of a policy text ends at its period, so the periods cut the tokens into the texts of
the statements. A statement speaks of exactly the markers that are written in its text: the
induction is on the tree, and a bare end, which adds no marker of its own, repeats one of the
premise. So a marker that is misspelt anywhere in the text is a marker of the statement, and found
out if the graph does not declare it.
-/

namespace InfoFlow

namespace Token

/-! ## The texts of statements -/

/-- The tokens cut behind every period. -/
def parts : List Token → List (List Token)
  | [] => []
  | t :: ts =>
    if t.text = "." then [t] :: parts ts
    else
      match parts ts with
      | [] => [[t]]
      | part :: others => (t :: part) :: others

/-- A part without the name and the colon in front, if it has them. -/
def unnamed : List Token → List Token
  | n :: c :: ts => if c.text = ":" then ts else n :: c :: ts
  | ts => ts

/-- The words of a part that name markers: those that are no keywords, apart from the name of the
statement. -/
def markerWords (part : List Token) : List String :=
  ((unnamed part).filter isName).map text

theorem parts_append_period (front : List Token) {t : Token} (rest : List Token)
    (hfront : ∀ u ∈ front, u.text ≠ ".") (ht : t.text = ".") :
    parts (front ++ t :: rest) = (front ++ [t]) :: parts rest := by
  induction front with
  | nil =>
    show parts (t :: rest) = _
    rw [parts, if_pos ht]
    rfl
  | cons u front ih =>
    have htail := ih fun v hv => hfront v (List.mem_cons_of_mem u hv)
    rw [List.cons_append, parts, if_neg (hfront u List.mem_cons_self), htail]
    rfl

theorem flatten_parts (ts : List Token) : (parts ts).flatten = ts := by
  induction ts with
  | nil => rfl
  | cons t ts ih =>
    rw [parts]
    by_cases ht : t.text = "."
    · rw [if_pos ht, List.flatten_cons, ih]
      rfl
    · rw [if_neg ht]
      cases hparts : parts ts with
      | nil =>
        rw [hparts] at ih
        rw [← ih]
        rfl
      | cons part others =>
        rw [hparts] at ih
        rw [← ih]
        rfl

theorem unnamed_of_ne_colon {part : List Token} (h : ∀ t ∈ part, t.text ≠ ":") :
    unnamed part = part := by
  match part with
  | [] => rfl
  | [t] => rfl
  | n :: c :: ts =>
    have hc : c.text ≠ ":" := h c (List.mem_cons_of_mem n List.mem_cons_self)
    rw [unnamed, if_neg hc]

end Token

namespace Grammar

/-! ## Words that name something -/

/-- Whether a word is one that can name a marker or a statement. -/
def isNameWord (w : String) : Bool := TokenKind.word.admits w.toList && !keywords.contains w

theorem isName_eq_isNameWord (t : Token) : t.isName = isNameWord t.text := by
  have hkind : decide (t.kind = .word) = TokenKind.word.admits t.text.toList := by
    rw [Bool.eq_iff_iff, decide_eq_true_eq]
    constructor
    · intro h
      rw [← h]
      exact t.formed
    · exact fun h => TokenKind.eq_word t.formed h
  rw [Token.isName, isNameWord, hkind]

theorem Name.isNameWord_text (n : Name) : isNameWord n.text = true := by
  rw [isNameWord, n.formed, n.free]
  rfl

theorem map_text_filter_isName (ts : List Token) :
    (ts.filter Token.isName).map Token.text = (ts.map Token.text).filter isNameWord := by
  have hname : Token.isName = isNameWord ∘ Token.text := funext isName_eq_isNameWord
  rw [List.filter_map, hname]

/-- A word is the text of one of the two markers of a premise. -/
def Premise.Binds (f : Premise) (w : String) : Prop := w = f.source.text ∨ w = f.destination.text

/-- The words that name markers are the texts of some markers, apart from the two markers of the
premise; and no word is a period or a colon. -/
structure Speaks (f : Premise) (ws : List String) (ms : List Marker) : Prop where
  names : ∀ w, w ∈ ws.filter isNameWord ∨ f.Binds w ↔ w ∈ ms.map Marker.text ∨ f.Binds w
  inner : ∀ w ∈ ws, w ≠ "." ∧ w ≠ ":"

theorem Name.text_ne_inner (n : Name) : n.text ≠ "." ∧ n.text ≠ ":" :=
  ⟨n.text_ne_mark (c := '.') rfl, n.text_ne_mark (c := ':') rfl⟩

namespace Speaks

variable {f : Premise} {ws vs : List String} {ms ns : List Marker}

theorem silent (h : ∀ w ∈ ws, isNameWord w = false ∧ w ≠ "." ∧ w ≠ ":") : Speaks f ws [] := by
  refine ⟨fun w => ?_, fun w hw => (h w hw).2⟩
  have hnone : ws.filter isNameWord = [] := by
    refine List.filter_eq_nil_iff.2 fun v hv => ?_
    rw [(h v hv).1]
    exact Bool.false_ne_true
  rw [hnone]
  rfl

theorem append (h : Speaks f ws ms) (k : Speaks f vs ns) : Speaks f (ws ++ vs) (ms ++ ns) := by
  constructor
  · intro w
    have hleft := h.names w
    have hright := k.names w
    rw [List.filter_append, List.map_append, List.mem_append, List.mem_append]
    by_cases hbound : f.Binds w
    · exact iff_of_true (.inr hbound) (.inr hbound)
    · simp only [hbound, or_false] at hleft hright ⊢
      rw [hleft, hright]
  · intro w hw
    rcases List.mem_append.1 hw with hw | hw
    · exact h.inner w hw
    · exact k.inner w hw

theorem marker (n : Name) : Speaks f [n.text] [n.marker] := by
  refine ⟨fun w => ?_, fun w hw => ?_⟩
  · rw [List.filter_cons_of_pos n.isNameWord_text]
    rfl
  · rw [List.mem_singleton.1 hw]
    exact n.text_ne_inner

theorem bound (side : Side) : Speaks f [(f.name side).text] [] := by
  refine ⟨fun w => ?_, fun w hw => ?_⟩
  -- the word names a marker of the premise, and those are left out of account
  · have hbinds : f.Binds (f.name side).text := by
      cases side with
      | source => exact .inl rfl
      | destination => exact .inr rfl
    rw [List.filter_cons_of_pos (f.name side).isNameWord_text]
    constructor
    · rintro (hw | hw)
      · rw [List.mem_singleton.1 hw]
        exact .inr hbinds
      · exact .inr hw
    · rintro (hw | hw)
      · exact nomatch hw
      · exact .inr hw
  · rw [List.mem_singleton.1 hw]
    exact (f.name side).text_ne_inner

theorem relation (k : EdgeKind) : Speaks f k.relationWords [] := by
  refine silent ?_
  cases k <;> decide

theorem quantifier (q : Quantifier) : Speaks f [Choice.word q] [] := by
  refine silent ?_
  cases q <;> decide

theorem cons {v : String} (h : Speaks f ws ms)
    (hv : isNameWord v = false ∧ v ≠ "." ∧ v ≠ ":") : Speaks f (v :: ws) ms := by
  have hfirst : Speaks f [v] [] := silent fun w hw => by
    rw [List.mem_singleton.1 hw]
    exact hv
  exact hfirst.append h

end Speaks

/-! ## Trees speak of the markers of what they ask -/

/-- The markers of a row of formulas. -/
def markersOf (fs : List (Formula PairAtom)) : List Marker :=
  (Formula.atomsOf fs).flatMap PairAtom.markers

theorem markersOf_cons (g : Formula PairAtom) (fs : List (Formula PairAtom)) :
    markersOf (g :: fs) = (Obligation.pair g).markers ++ markersOf fs := by
  unfold markersOf
  rw [Formula.atomsOf, List.flatMap_append]
  rfl

theorem markersOf_singleton (g : Formula PairAtom) :
    markersOf [g] = (Obligation.pair g).markers := by
  rw [markersOf_cons]
  exact List.append_nil _

theorem markers_atom (a : PairAtom) : (Obligation.pair (.atom a)).markers = a.markers :=
  List.append_nil _

/-- A join has the markers of its parts, also if it is no join because there is only one. -/
theorem markers_joined {join : List (Formula PairAtom) → Formula PairAtom}
    (hjoin : ∀ fs, (join fs).atoms = Formula.atomsOf fs) (fs : List (Formula PairAtom)) :
    (Obligation.pair (joined join fs)).markers = markersOf fs := by
  have hparts (fs : List (Formula PairAtom)) :
      (Obligation.pair (join fs)).markers = markersOf fs := by
    show (join fs).atoms.flatMap PairAtom.markers = _
    rw [hjoin]
    rfl
  match fs with
  | [] => exact hparts []
  | [g] => exact (markersOf_singleton g).symm
  | g :: h :: fs => exact hparts (g :: h :: fs)

theorem End.speaks (f : Premise) (e : End) : Speaks f (e.words f) (e.endpoint f).markers := by
  cases e with
  | quantified q m => exact (Speaks.quantifier q).append (.marker m)
  | bare side => exact .bound side

theorem Passage.speaks (f : Premise) {k : EdgeKind} (p : Passage k) :
    Speaks f p.words (p.checkpoint.toList.map Name.marker) := by
  unfold Passage.words
  cases p.checkpoint with
  | none => exact .silent nofun
  | some m =>
    have hwords : Speaks f ["through", "some"] [] := .silent (by decide)
    exact hwords.append (.marker m)

mutual

theorem Atom.speaks (f : Premise) :
    ∀ a : Atom, Speaks f (a.words f) (Obligation.pair (a.formula f)).markers
  | .group inner => by
    have hinner := inner.speaks f
    have hclose : Speaks f [")"] [] := .silent (by decide)
    have hgroup := (hinner.append hclose).cons (v := "(") (by decide)
    rw [List.append_nil] at hgroup
    rw [Atom.words, Atom.formula, markers_joined fun _ => rfl]
    exact hgroup
  | .flow subject kind target passage => by
    have hends := (subject.speaks f).append ((Speaks.relation kind).append
      ((target.speaks f).append (passage.speaks f)))
    rw [Atom.words, Atom.formula]
    cases hcheckpoint : passage.checkpoint with
    | none =>
      rw [hcheckpoint] at hends
      simp only [markers_atom, PairAtom.markers]
      simpa only [Option.toList_none, List.map_nil, List.nil_append, List.append_nil] using hends
    | some m =>
      rw [hcheckpoint] at hends
      simp only [markers_atom, PairAtom.markers]
      simpa only [Option.toList_some, List.map_cons, List.map_nil, List.nil_append,
        List.append_assoc] using hends
  | .authorized side m => by
    have hwords : Speaks f ["is", "authorized", "by", "some"] [] := .silent (by decide)
    exact (Speaks.bound side).append (hwords.append (.marker m))

theorem Conjunction.speaks (f : Premise) :
    ∀ c : Conjunction, Speaks f (c.words f) (markersOf (c.formulas f))
  | .one a => by
    rw [Conjunction.words, Conjunction.formulas, markersOf_singleton]
    exact a.speaks f
  | .and a others => by
    have hothers := (others.speaks f).cons (v := Formula.andWord) (by decide)
    rw [Conjunction.words, Conjunction.formulas, markersOf_cons]
    exact (a.speaks f).append hothers

theorem Disjunction.speaks (f : Premise) :
    ∀ o : Disjunction, Speaks f (o.words f) (markersOf (o.formulas f))
  | .one c => by
    rw [Disjunction.words, Disjunction.formulas, markersOf_singleton, markers_joined fun _ => rfl]
    exact c.speaks f
  | .or c others => by
    have hothers := (others.speaks f).cons (v := Formula.orWord) (by decide)
    rw [Disjunction.words, Disjunction.formulas, markersOf_cons, markers_joined fun _ => rfl]
    exact (c.speaks f).append hothers

end

/-! ## Statements speak of the markers of their texts -/

theorem Premise.speaks (f : Premise) : Speaks f f.words [] := by
  have hsource := (Speaks.quantifier f.sourceQuantifier).append (Speaks.bound (f := f) .source)
  have hdestination := (Speaks.quantifier f.destinationQuantifier).append
    (Speaks.bound (f := f) .destination)
  exact hsource.append ((Speaks.relation f.kind).append hdestination)

theorem Premise.mem_words_of_binds {f : Premise} {w : String} (h : f.Binds w) :
    w ∈ f.words.filter isNameWord := by
  have hname : isNameWord w = true := by
    rcases h with rfl | rfl <;> exact Name.isNameWord_text _
  refine List.mem_filter.2 ⟨?_, hname⟩
  unfold Premise.words
  rcases h with rfl | rfl <;> simp

theorem clauseWords_speaks (f : Premise) (clause : Option Disjunction) :
    Speaks f (clauseWords f clause)
      (markersOf (clause.map (Disjunction.formula f)).toList) := by
  cases clause with
  | none => exact .silent nofun
  | some o =>
    show Speaks f ("then" :: o.words f) (markersOf [o.formula f])
    rw [markersOf_singleton, Disjunction.formula, markers_joined fun _ => rfl]
    exact (o.speaks f).cons (by decide)

/-- What is stated has the markers of the premise's checkpoint and those of the clause. -/
theorem markers_stated (x y : Option (Formula PairAtom)) :
    (Obligation.pair (stated x y)).markers = markersOf x.toList ++ markersOf y.toList := by
  cases x with
  | none =>
    cases y with
    | none => rfl
    | some g => exact (markersOf_singleton g).symm
  | some f =>
    cases y with
    | none =>
      rw [Option.toList_some, markersOf_singleton]
      exact (List.append_nil _).symm
    | some g =>
      rw [Option.toList_some, Option.toList_some, markersOf_singleton]
      exact markersOf_cons f [g]

theorem Body.speaks (b : Body) :
    Speaks b.premise b.words (Obligation.pair b.formula).markers := by
  cases b with
  | plain f passage clause =>
    have hpassage : Speaks f passage.words
        (markersOf (passage.checkpoint.map (premiseThrough f)).toList) := by
      have h := passage.speaks f
      cases hcheckpoint : passage.checkpoint with
      | none =>
        rw [hcheckpoint] at h
        exact h
      | some m =>
        rw [hcheckpoint] at h
        exact h
    rw [Body.formula, markers_stated]
    exact f.speaks.append (hpassage.append (clauseWords_speaks f clause))
  | conditional f clause =>
    have hclause := clauseWords_speaks f (some clause)
    rw [Option.map_some, Option.toList_some, markersOf_singleton] at hclause
    exact (f.speaks.append hclause).cons (by decide)

/-- The words of a body that name markers are the texts of the statement's markers: a marker of the
premise is written in the premise, whether or not it is repeated. -/
theorem Body.mem_names {b : Body} {w : String} :
    w ∈ b.words.filter isNameWord ↔
      b.premise.Binds w ∨ w ∈ (Obligation.pair b.formula).markers.map Marker.text := by
  have hpremise : b.premise.Binds w → w ∈ b.words.filter isNameWord := by
    intro h
    have hmem := List.mem_filter.1 (Premise.mem_words_of_binds h)
    refine List.mem_filter.2 ⟨?_, hmem.2⟩
    cases b with
    | plain f passage clause => exact List.mem_append_left _ hmem.1
    | conditional f clause => exact List.mem_cons_of_mem _ (List.mem_append_left _ hmem.1)
  rw [or_comm, ← b.speaks.names w]
  exact ⟨.inl, fun h => h.elim id hpremise⟩

theorem Opening.inner (o : Opening) :
    ∀ w ∈ o.words, isNameWord w = false ∧ w ≠ "." ∧ w ≠ ":" := by
  cases o <;> decide

namespace Sentence

/-- The words of a sentence after its name. -/
def tail (d : Sentence) : List String := d.opening.words ++ (d.body.words ++ ["."])

theorem tail_ne_colon (d : Sentence) : ∀ w ∈ d.tail, w ≠ ":" := by
  intro w hw
  rcases List.mem_append.1 hw with hw | hw
  · exact (d.opening.inner w hw).2.2
  · rcases List.mem_append.1 hw with hw | hw
    · exact (d.body.speaks.inner w hw).2
    · rw [List.mem_singleton.1 hw]
      decide

/-- The only period of a sentence is its last word. -/
theorem front_ne_period (d : Sentence) : ∀ w ∈ d.front, w ≠ "." := by
  intro w hw
  rcases List.mem_append.1 hw with hw | hw
  · cases hname : d.name with
    | none =>
      rw [hname] at hw
      exact nomatch hw
    | some n =>
      rw [hname] at hw
      rcases List.mem_pair.1 hw with rfl | rfl
      · exact n.text_ne_inner.1
      · decide
  · rcases List.mem_append.1 hw with hw | hw
    · exact (d.opening.inner w hw).2.1
    · exact (d.body.speaks.inner w hw).1

/-- What is left of a written sentence without its name. -/
theorem map_text_unnamed {d : Sentence} {part : List Token}
    (h : part.map Token.text = d.words) : (Token.unnamed part).map Token.text = d.tail := by
  have hwords : d.words = d.name.elim [] (fun n => [n.text, ":"]) ++ d.tail := rfl
  rw [hwords] at h
  cases hname : d.name with
  | none =>
    rw [hname] at h
    replace h : part.map Token.text = d.tail := h
    have hcolon : ∀ t ∈ part, t.text ≠ ":" := by
      intro t ht
      refine d.tail_ne_colon t.text ?_
      rw [← h]
      exact List.mem_map_of_mem ht
    rw [Token.unnamed_of_ne_colon hcolon]
    exact h
  | some n =>
    rw [hname] at h
    obtain ⟨t, others, rfl, -, hothers⟩ := List.map_eq_cons_iff.1 h
    obtain ⟨c, rest, rfl, hc, hrest⟩ := List.map_eq_cons_iff.1 hothers
    rw [Token.unnamed, if_pos hc]
    exact hrest

/-- The marker words of a written sentence are the texts of the markers of its statement. -/
theorem mem_markerWords {d : Sentence} {part : List Token} (h : part.map Token.text = d.words)
    (index : Nat) (w : String) :
    w ∈ Token.markerWords part ↔ ∃ m ∈ (d.denoted index).markers, m.text = w := by
  have hopening : d.opening.words.filter isNameWord = [] := by
    refine List.filter_eq_nil_iff.2 fun v hv => ?_
    rw [(d.opening.inner v hv).1]
    exact Bool.false_ne_true
  have hperiod : ["."].filter isNameWord = [] := by decide
  have hnames : Token.markerWords part = d.body.words.filter isNameWord := by
    unfold Token.markerWords
    rw [map_text_filter_isName, map_text_unnamed h, tail, List.filter_append, List.filter_append,
      hopening, hperiod, List.append_nil, List.nil_append]
  have hmarkers : (d.denoted index).markers = d.body.premise.source.marker ::
      d.body.premise.destination.marker :: (Obligation.pair d.body.formula).markers := rfl
  rw [hnames, Body.mem_names, hmarkers]
  simp only [List.mem_cons, exists_eq_or_imp, List.mem_map, Premise.Binds, Name.marker, or_assoc,
    eq_comm]

/-- The periods cut a row of sentences into the sentences. -/
theorem forall₂_parts {ts : List Token} {ds : List Sentence}
    (h : ts.map Token.text = ds.flatMap words) :
    List.Forall₂ (fun part d => part.map Token.text = words d) (Token.parts ts) ds := by
  induction ds generalizing ts with
  | nil =>
    obtain rfl : ts = [] := List.map_eq_nil_iff.1 h
    exact .nil
  | cons d ds ih =>
    rw [List.flatMap_cons] at h
    obtain ⟨part, rest, rfl, hpart, hrest⟩ := List.map_eq_append_iff.1 h
    rw [d.words_eq_front] at hpart
    obtain ⟨inner, period, rfl, hinner, hperiod⟩ := List.map_eq_append_iff.1 hpart
    obtain ⟨t, rfl, ht⟩ := List.map_eq_singleton_iff.1 hperiod
    have hne : ∀ u ∈ inner, u.text ≠ "." := by
      intro u hu
      refine d.front_ne_period u.text ?_
      rw [← hinner]
      exact List.mem_map_of_mem hu
    rw [List.append_assoc, List.singleton_append, Token.parts_append_period inner rest hne ht]
    exact .cons (by rw [hpart, d.words_eq_front]) (ih hrest)

theorem forall₂_denotedFrom {parts : List (List Token)} {ds : List Sentence} (index : Nat)
    (h : List.Forall₂ (fun part d => part.map Token.text = words d) parts ds) :
    List.Forall₂ (fun part s => ∃ d i, part.map Token.text = words d ∧ d.denoted i = s) parts
      (denotedFrom index ds) := by
  induction h generalizing index with
  | nil => exact .nil
  | cons hfirst _ ih => exact .cons ⟨_, index, hfirst, rfl⟩ (ih (index + 1))

end Sentence

end Grammar

namespace Policy

open Grammar

/-- The periods of an accepted text cut it into the texts of its statements. A statement speaks of
exactly the markers whose words are written in its text; so if unknown markers are errors, it cannot
be evaluated exactly if some marker word in its text is not declared. -/
theorem parse_markers {text : String} {name : Value} {p : Policy} (h : parse text name = .ok p) :
    ∃ ts, Tokens.ofText text = .ok ts ∧ (Token.parts ts.rest).flatten = ts.rest ∧
      List.Forall₂ (fun part s =>
        (∀ w, w ∈ Token.markerWords part ↔ ∃ m ∈ s.markers, m.text = w) ∧
          ∀ g exhaustive,
            (∃ m, (s.evaluate g exhaustive .error).result = .error (.unknownMarker m)) ↔
              ∃ m : Marker, m.text ∈ Token.markerWords part ∧ g.declares m = false)
        (Token.parts ts.rest) p.statements := by
  unfold parse at h
  cases htext : Tokens.ofText text with
  | error e =>
    rw [htext] at h
    exact nomatch h
  | ok ts =>
    rw [htext] at h
    obtain ⟨ds, hds, -, hstatements⟩ := ofTokens_eq_ok.1 h
    have hparts := Sentence.forall₂_denotedFrom 1 (Sentence.forall₂_parts hds)
    rw [← hstatements] at hparts
    refine ⟨ts, rfl, Token.flatten_parts ts.rest, hparts.imp ?_⟩
    rintro part s ⟨d, index, hpart, rfl⟩
    have hmarkers := Sentence.mem_markerWords hpart index
    refine ⟨hmarkers, fun g exhaustive => ?_⟩
    rw [Statement.exists_unknown_iff]
    constructor
    · rintro ⟨m, hm, hdeclared⟩
      exact ⟨m, (hmarkers m.text).2 ⟨m, hm, rfl⟩, hdeclared⟩
    · rintro ⟨m, hm, hdeclared⟩
      obtain ⟨n, hn, htext⟩ := (hmarkers m.text).1 hm
      exact ⟨m, Marker.eq_of_text htext ▸ hn, hdeclared⟩

/-- A text of two statements. The name of the first is a marker of the second only, and a marker of
the first stands between parentheses only. -/
def gateText : String :=
  "gate: if some a flows to all b then (some c flows to b) and a is authorized by some d. " ++
  "some gate flows to all b through some a."

theorem gateText_markers :
    ∃ p s t, parse gateText .null = .ok p ∧ p.statements = [s, t] ∧
      (∀ w, w ∈ ["a", "b", "c", "b", "a", "d"] ↔ ∃ m ∈ s.markers, m.text = w) ∧
      ∀ w, w ∈ ["gate", "b", "a"] ↔ ∃ m ∈ t.markers, m.text = w := by
  have hrun : ((Tokens.ofText gateText).toOption.bind fun ts => (ofTokens .null ts).toOption.map
      fun _ => (Token.parts ts.rest).map Token.markerWords) =
        some [["a", "b", "c", "b", "a", "d"], ["gate", "b", "a"]] := by decide +kernel
  cases hts : Tokens.ofText gateText with
  | error e =>
    rw [hts] at hrun
    exact nomatch hrun
  | ok ts =>
    cases hp : ofTokens .null ts with
    | error e =>
      simp only [hts, Except.toOption, Option.bind_some, hp, Option.map_none, reduceCtorEq] at hrun
    | ok p =>
      simp only [hts, Except.toOption, Option.bind_some, hp, Option.map_some,
        Option.some.injEq] at hrun
      have hparse : parse gateText .null = .ok p := by
        unfold parse
        rw [hts]
        exact hp
      obtain ⟨us, hus, -, hall⟩ := parse_markers hparse
      obtain rfl : ts = us := Except.ok.inj (hts.symm.trans hus)
      obtain ⟨first, others, hsplit, hfirst, hothers⟩ := List.map_eq_cons_iff.1 hrun
      obtain ⟨second, rfl, hsecond⟩ := List.map_eq_singleton_iff.1 hothers
      rw [hsplit] at hall
      obtain ⟨s, ss, hs, hrest, hstatements⟩ := List.forall₂_cons_left_iff.1 hall
      obtain ⟨t, ss', ht, hend, rfl⟩ := List.forall₂_cons_left_iff.1 hrest
      obtain rfl : ss' = [] := List.forall₂_nil_left_iff.1 hend
      refine ⟨p, s, t, hparse, hstatements, ?_, ?_⟩
      · rw [← hfirst]
        exact hs.1
      · rw [← hsecond]
        exact ht.1

end Policy

end InfoFlow
