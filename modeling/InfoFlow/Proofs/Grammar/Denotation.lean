import InfoFlow.Grammar.Syntax
/-!
# What sentences denote

A name is never blank, and neither is the name that stands for a place of a policy. So whatever tree
a sentence is, it denotes a statement, and the checks that are made of its parts let it through.
-/

namespace InfoFlow

theorem not_isBlank_of_isWordStart {c : Char} (h : isWordStart c = true) :
    Text.isBlank c = false := by
  have hblank : ∀ p ∈ Text.blankPoints, isWordStart (Char.ofNat p) = false := by decide
  rw [Bool.eq_false_iff, Text.isBlank, ne_eq, List.contains_iff_mem]
  intro hmem
  have hnot := hblank c.toNat hmem
  rw [Char.ofNat_toNat, h] at hnot
  exact Bool.false_ne_true hnot.symm

namespace Grammar

theorem Name.not_blank (n : Name) : Text.isBlankText n.text = false := by
  have hformed := n.formed
  unfold Text.isBlankText
  cases hcs : n.text.toList with
  | nil =>
    rw [hcs] at hformed
    exact nomatch hformed
  | cons c cs =>
    rw [hcs] at hformed
    rw [TokenKind.admits_word_cons, Bool.and_eq_true] at hformed
    rw [List.all_cons, not_isBlank_of_isWordStart hformed.1, Bool.false_and]

theorem defaultName_not_blank (index : Nat) : Text.isBlankText (defaultName index) = false := by
  unfold Text.isBlankText defaultName
  rw [String.toList_append, List.all_append]
  rfl

theorem Conjunction.formulas_ne_nil {f : Premise} (c : Conjunction) : c.formulas f ≠ [] := by
  cases c <;> exact List.cons_ne_nil _ _

theorem Disjunction.formulas_ne_nil {f : Premise} (o : Disjunction) : o.formulas f ≠ [] := by
  cases o <;> exact List.cons_ne_nil _ _

namespace Sentence

theorem statementName_not_blank (d : Sentence) (index : Nat) :
    Text.isBlankText (d.statementName index) = false := by
  unfold statementName
  cases d.name with
  | none => exact defaultName_not_blank index
  | some n => exact n.not_blank

/-- The statement that a sentence denotes at a place of the policy. -/
def denoted (d : Sentence) (index : Nat) : Statement where
  name := d.statementName index
  source := d.body.premise.source.marker
  destination := d.body.premise.destination.marker
  kind := d.body.premise.kind
  sourceQuantifier := d.body.premise.sourceQuantifier
  destinationQuantifier := d.body.premise.destinationQuantifier
  obligation := .pair d.body.formula
  name_ne_blank := d.statementName_not_blank index
  all_of_set := nofun

/-- The checks of a statement find nothing wrong with what a sentence denotes. -/
theorem statement_eq (d : Sentence) (index : Nat) : d.statement index = .ok (d.denoted index) := by
  unfold statement Statement.ofParts Statement.checkName Statement.checkShape
  rw [dif_pos (d.statementName_not_blank index)]
  rfl

/-- The statements that a row of sentences denotes from a place of the policy on. -/
def denotedFrom (index : Nat) : List Sentence → List Statement
  | [] => []
  | d :: ds => d.denoted index :: denotedFrom (index + 1) ds

/-- The names of these statements: the name of the sentence, or else its place. -/
def namesFrom (index : Nat) : List Sentence → List String
  | [] => []
  | d :: ds => d.statementName index :: namesFrom (index + 1) ds

theorem map_name_denotedFrom (index : Nat) (ds : List Sentence) :
    (denotedFrom index ds).map Statement.name = namesFrom index ds := by
  induction ds generalizing index with
  | nil => rfl
  | cons d ds ih =>
    rw [denotedFrom, namesFrom, List.map_cons, ih]
    rfl

/-- A sentence has its period at least. -/
theorem length_words_pos (d : Sentence) : 0 < d.words.length := by
  unfold words
  simp only [List.length_append, List.length_singleton]
  omega

end Sentence

end Grammar

end InfoFlow
