/-!
# Blank characters

The characters that count as space at the ends of a text: the separators of the Unicode standard
and the control characters that act as one.
-/

namespace InfoFlow.Text

/-- The code points of the blank characters. -/
def blankPoints : List Nat := [
  0x09, 0x0a, 0x0b, 0x0c, 0x0d, 0x1c, 0x1d, 0x1e, 0x1f, 0x20, 0x85, 0xa0, 0x1680, 0x2000, 0x2001,
  0x2002, 0x2003, 0x2004, 0x2005, 0x2006, 0x2007, 0x2008, 0x2009, 0x200a, 0x2028, 0x2029, 0x202f,
  0x205f, 0x3000]

/-- Whether a character is blank. -/
def isBlank (c : Char) : Bool := blankPoints.contains c.toNat

/-- Removes the blank characters at both ends. -/
def stripChars (cs : List Char) : List Char :=
  ((cs.dropWhile isBlank).reverse.dropWhile isBlank).reverse

/-- A text without the blank characters at its ends. -/
def strip (s : String) : String := String.ofList (stripChars s.toList)

/-- Whether a text holds nothing but blank characters. -/
def isBlankText (s : String) : Bool := s.toList.all isBlank

/-- Stripping leaves a text as it is that has no blank at its ends. -/
theorem stripChars_eq_self {cs : List Char} (hfirst : ∀ c ∈ cs.head?, isBlank c = false)
    (hlast : ∀ c ∈ cs.getLast?, isBlank c = false) : stripChars cs = cs := by
  have hkeep {ds : List Char} (h : ∀ c ∈ ds.head?, isBlank c = false) :
      ds.dropWhile isBlank = ds := by
    cases ds with
    | nil => rfl
    | cons c ds => exact List.dropWhile_cons_of_neg (Bool.eq_false_iff.1 (h c rfl))
  have hreverse : ∀ c ∈ cs.reverse.head?, isBlank c = false := by
    rw [List.head?_reverse]
    exact hlast
  unfold stripChars
  rw [hkeep hfirst, hkeep hreverse, List.reverse_reverse]

end InfoFlow.Text
