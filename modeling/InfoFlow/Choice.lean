import InfoFlow.Text.Blank
import InfoFlow.Text.Letters
/-!
# Choices

A type of a few named values, each written as a word. A word is read in either case and with blank
characters around it.
-/

namespace InfoFlow

/-- A type whose values are written as words. -/
class Choice (α : Type) where
  /-- The values, in the order in which messages list them. -/
  all : List α
  /-- The word of a value. -/
  word : α → String

namespace Choice

variable {α : Type} [Choice α]

/-- The value of a word. -/
def ofWord? (w : String) : Option α := all.find? fun a => word a = w

/-- The value of a word written in either case and with blank characters around it. -/
def ofText? (s : String) : Option α := ofWord? (Text.lower (Text.strip s))

variable (α) in
/-- All words, as messages list them. -/
def words : List String := (all (α := α)).map word

theorem word_of_ofWord? {w : String} {a : α} (h : ofWord? w = some a) : word a = w := by
  simpa using List.find?_some h

end Choice

end InfoFlow
