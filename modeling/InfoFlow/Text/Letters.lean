/-!
# Case

The case maps of Unicode, as far as the ASCII letters go. A character outside ASCII takes part when
its image lies in ASCII (the Kelvin sign goes down to `k`, the dotless i up to `I`); every other
one stays as it is. Its true image is not an ASCII text either, so a comparison with an ASCII word
comes out the same.
-/

namespace InfoFlow.Text

/-- The characters outside ASCII that go down to an ASCII letter. -/
def lowerImages : List (Char × Char) := [('\u212a', 'k')]

/-- The characters outside ASCII that go up to ASCII letters. -/
def upperImages : List (Char × List Char) := [
  ('\u00df', ['S', 'S']), ('\u0131', ['I']), ('\u017f', ['S']), ('\ufb00', ['F', 'F']),
  ('\ufb01', ['F', 'I']), ('\ufb02', ['F', 'L']), ('\ufb03', ['F', 'F', 'I']),
  ('\ufb04', ['F', 'F', 'L']), ('\ufb05', ['S', 'T']), ('\ufb06', ['S', 'T'])]

/-- A character in lower case. -/
def lowerChar (c : Char) : Char := (lowerImages.lookup c).getD c.toLower

/-- A character in upper case, which may take several characters. -/
def upperChar (c : Char) : List Char := (upperImages.lookup c).getD [c.toUpper]

/-- A text in lower case. -/
def lower (s : String) : String := String.ofList (s.toList.map lowerChar)

/-- A text in upper case. -/
def upper (s : String) : String := String.ofList (s.toList.flatMap upperChar)

end InfoFlow.Text
