import InfoFlow.Proofs.Text.Printable
import InfoFlow.Text.Lines
/-!
# Texts of one line

A reader of a text may cut it into lines at more characters than the line feed. A text without any
of them is one line to every reader, and lines of this kind that are written one below the other
are what the text is cut into. None of these characters prints.
-/

namespace InfoFlow.Text

/-! ## One line -/

/-- The characters that end a line to some reader: line feed and carriage return, line tabulation,
form feed, the separators of files, groups and records, next line, and the separators of lines and
of paragraphs. -/
def lineBreaks : List Char :=
  ['\n', '\r', '\x0b', '\x0c', '\x1c', '\x1d', '\x1e', '\u0085', '\u2028', '\u2029']

/-- Whether a character ends a line to some reader. -/
def isLineBreak (c : Char) : Bool := lineBreaks.contains c

/-- No character of a text ends a line. -/
def IsOneLine (s : String) : Prop := ∀ c ∈ s.toList, isLineBreak c = false

theorem all_lineBreaks : lineBreaks.all (fun c => !isPrintable c) = true := by decide +kernel

theorem Prints.isOneLine {s : String} (h : Prints s) : IsOneLine s := by
  intro c hc
  unfold isLineBreak
  rw [Bool.eq_false_iff, ne_eq, List.contains_iff_mem]
  intro hbreak
  have hnot := List.all_eq_true.1 all_lineBreaks c hbreak
  rw [h c hc] at hnot
  exact Bool.false_ne_true hnot

/-! ## Cutting a text into lines -/

/-- The pieces of a text between the characters that end a line. -/
def cutLines (s : String) : List String := (s.toList.splitOnP isLineBreak).map String.ofList

theorem cutLines_append {s : String} (h : IsOneLine s) (t : String) :
    cutLines (s ++ "\n" ++ t) = s :: cutLines t := by
  have hbreak : isLineBreak '\n' = true := by decide
  have htext : (s ++ "\n" ++ t).toList = s.toList ++ '\n' :: t.toList := by
    rw [String.toList_append, String.toList_append, List.append_assoc]
    rfl
  unfold cutLines
  rw [htext, List.splitOnP_append_cons _ _ hbreak, List.splitOnP_eq_singleton h, List.map_append,
    List.map_singleton, String.ofList_toList]
  rfl

/-- Lines that are written one below the other are cut apart again. -/
theorem cutLines_lines_append {ls : List String} (h : ∀ l ∈ ls, IsOneLine l) (ms : List String) :
    cutLines (lines (ls ++ ms)) = ls ++ cutLines (lines ms) := by
  induction ls with
  | nil => rfl
  | cons l ls ih =>
    have hrest : ∀ m ∈ ls, IsOneLine m := fun m hm => h m (List.mem_cons_of_mem l hm)
    have htext : lines (l :: ls ++ ms) = l ++ "\n" ++ lines (ls ++ ms) := String.join_cons
    rw [htext, cutLines_append (h l List.mem_cons_self), ih hrest]
    rfl

end InfoFlow.Text
