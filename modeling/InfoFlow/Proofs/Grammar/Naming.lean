import InfoFlow.Proofs.Grammar.Joining
import InfoFlow.Proofs.Grammar.Refusals
import InfoFlow.Proofs.Node.Quoted
/-!
# Written names and names that stand for a place

The names that stand for places are numbered, so no two of them are the same. They are ordinary
names all the same: a sentence may be written with one of them. A policy whose written names are
distinct is therefore refused exactly if a written name stands for the place of a sentence that has
none.
-/

namespace InfoFlow

open Grammar

namespace Grammar

theorem defaultName_injective {j k : Nat} (h : defaultName j = defaultName k) : j = k := by
  unfold defaultName at h
  have hchars := congrArg String.toList h
  rw [String.toList_append, String.toList_append] at hchars
  have hnumbers : (Nat.repr j).toList = (Nat.repr k).toList := List.append_cancel_left hchars
  rw [Nat.toList_repr, Nat.toList_repr] at hnumbers
  exact Node.toDigits_ten_injective hnumbers

namespace Sentence

/-! ## Two kinds of names -/

/-- The names that a row of sentences is written with. -/
def writtenNames (ds : List Sentence) : List String := ds.filterMap fun d => d.name.map Name.text

/-- The names for the places of the sentences that are written without one. -/
def placeNamesFrom (index : Nat) : List Sentence → List String
  | [] => []
  | d :: ds =>
    d.name.elim [defaultName index] (fun _ => []) ++ placeNamesFrom (index + 1) ds

/-- A row of sentences writes the name for the place of one that has none, counted from zero. -/
def Clashes (ds : List Sentence) (k : Nat) : Prop :=
  (∃ d, ds[k]? = some d ∧ d.name = none) ∧ defaultName (k + 1) ∈ writtenNames ds

variable {ds : List Sentence} {index : Nat} {n : String}

theorem namesFrom_perm (index : Nat) (ds : List Sentence) :
    (namesFrom index ds).Perm (placeNamesFrom index ds ++ writtenNames ds) := by
  induction ds generalizing index with
  | nil => exact .nil
  | cons d ds ih =>
    obtain ⟨name, opening, body⟩ := d
    cases name with
    | none => exact (ih (index + 1)).cons _
    | some n => exact ((ih (index + 1)).cons n.text).trans List.perm_middle.symm

theorem mem_placeNamesFrom :
    n ∈ placeNamesFrom index ds ↔
      ∃ k, (∃ d, ds[k]? = some d ∧ d.name = none) ∧ n = defaultName (k + index) := by
  induction ds generalizing index with
  | nil => exact iff_of_false List.not_mem_nil fun ⟨_, ⟨_, h, _⟩, _⟩ => nomatch h
  | cons d ds ih =>
    have hhead : n ∈ d.name.elim [defaultName index] (fun _ => []) ↔
        d.name = none ∧ n = defaultName index := by
      cases d.name with
      | none => rw [Option.elim_none, List.mem_singleton, eq_self, true_and]
      | some m => exact iff_of_false List.not_mem_nil nofun
    rw [placeNamesFrom, List.mem_append, hhead, ih]
    constructor
    · rintro (⟨hnone, rfl⟩ | ⟨k, hk, rfl⟩)
      · exact ⟨0, ⟨d, rfl, hnone⟩, by rw [Nat.zero_add]⟩
      · exact ⟨k + 1, hk, by rw [Nat.add_right_comm, Nat.add_assoc]⟩
    · rintro ⟨k, ⟨e, he, hnone⟩, rfl⟩
      cases k with
      | zero =>
        obtain rfl := Option.some.inj he
        exact .inl ⟨hnone, by rw [Nat.zero_add]⟩
      | succ k => exact .inr ⟨k, ⟨e, he, hnone⟩, by rw [Nat.add_right_comm, Nat.add_assoc]⟩

theorem nodup_placeNamesFrom (index : Nat) (ds : List Sentence) :
    (placeNamesFrom index ds).Nodup := by
  induction ds generalizing index with
  | nil => exact List.nodup_nil
  | cons d ds ih =>
    rw [placeNamesFrom]
    cases d.name with
    | some n => exact ih (index + 1)
    | none =>
      refine List.nodup_cons.2 ⟨fun hmem => ?_, ih (index + 1)⟩
      -- the names behind stand for later places
      obtain ⟨k, -, hk⟩ := mem_placeNamesFrom.1 hmem
      have hplaces := defaultName_injective hk
      omega

theorem clashes_of_duplicate (hwritten : (writtenNames ds).Nodup)
    (h : (namesFrom 1 ds).Duplicate n) : ∃ k, Clashes ds k ∧ n = defaultName (k + 1) := by
  have htwice := List.duplicate_iff_two_le_count.1 h
  rw [(namesFrom_perm 1 ds).count_eq, List.count_append] at htwice
  have hplaces := List.nodup_iff_count_le_one.1 (nodup_placeNamesFrom 1 ds) n
  have honce := List.nodup_iff_count_le_one.1 hwritten n
  have hboth : n ∈ placeNamesFrom 1 ds ∧ n ∈ writtenNames ds :=
    ⟨List.count_pos_iff.1 (by omega), List.count_pos_iff.1 (by omega)⟩
  obtain ⟨k, hk, rfl⟩ := mem_placeNamesFrom.1 hboth.1
  exact ⟨k, ⟨hk, hboth.2⟩, rfl⟩

theorem nodup_namesFrom (hwritten : (writtenNames ds).Nodup) :
    (namesFrom 1 ds).Nodup ↔ ∀ k, ¬Clashes ds k := by
  constructor
  · rintro hnodup k ⟨hk, hmem⟩
    have hapart := (List.nodup_append.1 ((namesFrom_perm 1 ds).nodup hnodup)).2.2
    exact hapart _ (mem_placeNamesFrom.2 ⟨k, hk, rfl⟩) _ hmem rfl
  · intro hnone
    by_contra hrepeated
    obtain ⟨n, hn⟩ := List.exists_duplicate_iff_not_nodup.2 hrepeated
    obtain ⟨k, hk, -⟩ := clashes_of_duplicate hwritten hn
    exact hnone k hk

end Sentence

end Grammar

/-! ## Policies -/

namespace Policy

variable {text : String} {ts : Tokens} {ds : List Sentence}

/-- Nothing but a repeated name is wrong with a text that is a row of sentences. -/
theorem parse_of_derives (htext : Tokens.ofText text = .ok ts) (hds : ts.Derives ds)
    (name : Value) :
    parse text name =
      (ofStatements name (Sentence.denotedFrom 1 ds)).mapError fun cause =>
        ⟨.malformed cause, {}⟩ := by
  obtain ⟨us, hus, hspells⟩ := Tokens.derives_iff.1 hds
  have hlength := hspells.length_le
  have hle := Parser.length_le_length_words ds
  have hrun : Parser.statements (ts.rest.length + 1) 1 ts =
      .ok (Sentence.denotedFrom 1 ds, us) :=
    Parser.statements_eq_ok.2 ⟨hus, ds, by omega, hspells, rfl⟩
  unfold parse
  rw [htext]
  show ofTokens name ts = _
  unfold ofTokens
  change ((Parser.statements (ts.rest.length + 1) 1 ts).map Prod.fst >>= _) = _
  rw [hrun]
  rfl

/-- A row of sentences whose written names are distinct is accepted, and holds what the sentences
denote, unless one of these names stands for the place of a sentence without a name. Such a name is
then reported as declared twice. -/
theorem parse_of_nodup_writtenNames (htext : Tokens.ofText text = .ok ts) (hds : ts.Derives ds)
    (hwritten : (Sentence.writtenNames ds).Nodup) (name : Value) :
    ((∀ k, ¬Sentence.Clashes ds k) → ∃ p, parse text name = .ok p ∧ p.name = name ∧
        p.statements = Sentence.denotedFrom 1 ds) ∧
      ((∃ k, Sentence.Clashes ds k) → ∃ k, Sentence.Clashes ds k ∧
        parse text name = .error ⟨.malformed (.declaredTwice name (defaultName (k + 1))), {}⟩) := by
  obtain ⟨haccepts, hholds⟩ := parse_iff_of_derives htext hds name
  rw [Sentence.map_name_denotedFrom, Sentence.nodup_namesFrom hwritten] at haccepts
  constructor
  · intro hnone
    obtain ⟨p, hp⟩ := haccepts.2 hnone
    exact ⟨p, hp, (hholds p).1 hp⟩
  · rintro ⟨j, hj⟩
    have hrun := parse_of_derives htext hds name
    cases hmake : ofStatements name (Sentence.denotedFrom 1 ds) with
    | ok p =>
      rw [hmake] at hrun
      exact absurd hj (haccepts.1 ⟨p, hrun⟩ j)
    | error cause =>
      rw [hmake] at hrun
      obtain ⟨n, hn, rfl⟩ := ofStatements_eq_error hmake
      rw [Sentence.map_name_denotedFrom] at hn
      obtain ⟨k, hk, rfl⟩ := Sentence.clashes_of_duplicate hwritten hn
      exact ⟨k, hk, hrun⟩

/-- The marker of one side of a door. -/
def nearName : Name := ⟨"a", by decide, by decide⟩

/-- The marker of the other side. -/
def farName : Name := ⟨"b", by decide, by decide⟩

/-- Something of the one side reaches something of the other one. -/
def doorway : Premise := ⟨.some, nearName, .data, .some, farName, by decide⟩

/-- The same the other way round. -/
def wayBack : Premise := ⟨.some, farName, .data, .some, nearName, doorway.distinct.symm⟩

theorem isSome_none_imp (k : EdgeKind) (h : (none : Option Name).isSome = true) : k = .data :=
  absurd h Bool.false_ne_true

/-- No checkpoint, whatever the kind of the edges. -/
def noPassage (k : EdgeKind) : Passage k := ⟨none, isSome_none_imp k⟩

/-- A premise and nothing more, under a name or without one. -/
def alone (f : Premise) (name : Option Name) : Sentence :=
  ⟨name, .none, .plain f (noPassage f.kind) none⟩

/-- Two sentences of which the first has a name. -/
def doors (n : Name) : List Sentence := [alone doorway (some n), alone wayBack none]

/-- How they are written. -/
def doorsText (n : Name) : String :=
  n.text ++ ": some a flows to some b. some b flows to some a."

/-- The words and marks of a text, if it can be cut into tokens. -/
def words? (text : String) : Option (List String) :=
  (Tokens.ofText text).toOption.map fun ts => ts.rest.map Token.text

theorem exists_of_words? {text : String} {ws : List String} (h : words? text = some ws) :
    ∃ ts, Tokens.ofText text = .ok ts ∧ ts.rest.map Token.text = ws := toOption_map_eq_some.1 h

/-- A name that stands for no place. -/
def gateName : Name := ⟨"gate", by decide, by decide⟩

/-- A name that stands for the second place. -/
def secondName : Name := ⟨"statement_2", by decide, by decide⟩

theorem doorsText_parse :
    (∃ ts, Tokens.ofText (doorsText gateName) = .ok ts ∧ ts.Derives (doors gateName) ∧
      (Sentence.writtenNames (doors gateName)).Nodup ∧
      ∃ p, parse (doorsText gateName) .null = .ok p) ∧
    ∃ ts, Tokens.ofText (doorsText secondName) = .ok ts ∧ ts.Derives (doors secondName) ∧
      (Sentence.writtenNames (doors secondName)).Nodup ∧
      ∃ e, parse (doorsText secondName) .null = .error e := by
  constructor
  · have hwords : words? (doorsText gateName) =
        some ((doors gateName).flatMap Sentence.words) := by decide +kernel
    obtain ⟨ts, htext, hds⟩ := exists_of_words? hwords
    have hwritten : (Sentence.writtenNames (doors gateName)).Nodup := List.nodup_singleton _
    obtain ⟨haccepts, -⟩ := parse_of_nodup_writtenNames htext hds hwritten .null
    have hnone (k : Nat) : ¬Sentence.Clashes (doors gateName) k := by
      rintro ⟨⟨d, hd, hunnamed⟩, hmem⟩
      rcases k with _ | _ | k
      · obtain rfl := Option.some.inj hd
        exact nomatch hunnamed
      · exact absurd hmem (by decide)
      · exact nomatch hd
    obtain ⟨p, hp, -⟩ := haccepts hnone
    exact ⟨ts, htext, hds, hwritten, p, hp⟩
  · have hwords : words? (doorsText secondName) =
        some ((doors secondName).flatMap Sentence.words) := by decide +kernel
    obtain ⟨ts, htext, hds⟩ := exists_of_words? hwords
    have hwritten : (Sentence.writtenNames (doors secondName)).Nodup := List.nodup_singleton _
    obtain ⟨-, hrefuses⟩ := parse_of_nodup_writtenNames htext hds hwritten .null
    have hclash : Sentence.Clashes (doors secondName) 1 :=
      ⟨⟨alone wayBack none, rfl, rfl⟩, by decide⟩
    obtain ⟨k, -, hk⟩ := hrefuses ⟨1, hclash⟩
    exact ⟨ts, htext, hds, hwritten, _, hk⟩

theorem secondName_declaredTwice :
    ∃ ts, Tokens.ofText (doorsText secondName) = .ok ts ∧ ts.Derives (doors secondName) ∧
      (Sentence.writtenNames (doors secondName)).Nodup ∧
      parse (doorsText secondName) (.text "doors") =
        .error ⟨.malformed (.declaredTwice (.text "doors") "statement_2"), {}⟩ := by
  have hwords : words? (doorsText secondName) =
      some ((doors secondName).flatMap Sentence.words) := by decide +kernel
  obtain ⟨ts, htext, hds⟩ := exists_of_words? hwords
  refine ⟨ts, htext, hds, List.nodup_singleton _, ?_⟩
  rw [parse_of_derives htext hds]
  rfl

end Policy

end InfoFlow
