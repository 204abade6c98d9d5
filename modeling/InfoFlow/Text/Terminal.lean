/-!
# Terminal sequences

Escape sequences that set colours mean something to a terminal only. Elsewhere they are dropped: an
escape character and a left bracket, then figures, semicolons and question marks, then a letter.
-/

namespace InfoFlow.Text

/-- The character that starts a sequence. -/
def sequenceStart : Char := '\x1b'

/-- The characters between the bracket and the letter of a sequence. -/
def isParameter (c : Char) : Bool := c.isDigit || c = ';' || c = '?'

/-- What is kept of a row of characters, with the start of a sequence in front of it, in reverse. -/
def dropSequencesAfter : List Char → List Char → List Char
  | held, [] => held.reverse
  | held, c :: cs =>
    if held.isEmpty then
      if c = sequenceStart then dropSequencesAfter [c] cs else c :: dropSequencesAfter [] cs
    else if held.length = 1 && c = '[' then dropSequencesAfter (c :: held) cs
    else if 1 < held.length && isParameter c then dropSequencesAfter (c :: held) cs
    else if 1 < held.length && c.isAlpha then dropSequencesAfter [] cs
    else held.reverse ++
      (if c = sequenceStart then dropSequencesAfter [c] cs else c :: dropSequencesAfter [] cs)

/-- A text without terminal sequences. -/
def dropSequences (s : String) : String := String.ofList (dropSequencesAfter [] s.toList)

example : dropSequencesAfter [] ['a', '\x1b', '[', '1', ';', '3', 'm', 'b'] = ['a', 'b'] := by
  decide +kernel

example : dropSequencesAfter [] ['\x1b', '\x1b', '[', 'K', '['] = ['\x1b', '['] := by
  decide +kernel

end InfoFlow.Text
