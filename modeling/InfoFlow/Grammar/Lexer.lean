import InfoFlow.Grammar.Token
/-!
# Cutting a text into tokens

The text is read character by character. Between tokens, space and line ends are skipped; a `#`
starts a comment up to the end of the line; a letter or a low line starts a word, which goes on as
far as letters, digits and low lines do; and each punctuation mark is a token. Any other character
is an error.
-/

namespace InfoFlow.Lexer

/-- The characters between tokens. -/
def isSpace (c : Char) : Bool := c = ' ' || c = '\t' || c = '\r' || c = '\n'

/-- A word of which some characters have been read; it may go on. -/
structure Begun where
  start : Position
  /-- The characters read so far, the last one in front. -/
  done : List Char
  formed : TokenKind.word.admits done.reverse = true

namespace Begun

/-- A word of which the first character has been read. -/
def first (p : Position) (c : Char) (h : isWordStart c = true) : Begun :=
  ⟨p, [c], by rw [List.reverse_singleton, TokenKind.admits_word_cons, h]; rfl⟩

theorem admits_concat {cs : List Char} {c : Char} (h : TokenKind.word.admits cs = true)
    (hc : isWordPart c = true) : TokenKind.word.admits (cs ++ [c]) = true := by
  cases cs with
  | nil => exact nomatch h
  | cons d ds =>
    rw [TokenKind.admits_word_cons, Bool.and_eq_true] at h
    rw [List.cons_append, TokenKind.admits_word_cons, List.all_append, h.1, h.2]
    simpa using hc

/-- The word goes on with a character. -/
def push (w : Begun) (c : Char) (h : isWordPart c = true) : Begun :=
  ⟨w.start, c :: w.done, by rw [List.reverse_cons]; exact admits_concat w.formed h⟩

/-- The word ends. -/
def token (w : Begun) : Token :=
  ⟨.word, String.ofList w.done.reverse, w.start, by rw [String.toList_ofList]; exact w.formed⟩

end Begun

/-- Where the reading stands. -/
inductive Mode where
  | between
  | comment
  | word (w : Begun)

/-- The token that ends where the reading stands. -/
def Mode.pending : Mode → List Token
  | word w => [w.token]
  | _ => []

/-- The token of a punctuation mark. -/
def markToken (p : Position) (c : Char) (h : isMark c = true) : Token :=
  ⟨.mark, String.singleton c, p, by rw [String.toList_singleton]; exact h⟩

/-- Reads a character between tokens. -/
def start (p : Position) (c : Char) : Except SyntaxError (List Token × Mode) :=
  if isSpace c then .ok ([], .between)
  else if c = '#' then .ok ([], .comment)
  else if h : isWordStart c then .ok ([], .word (.first p c h))
  else if h : isMark c then .ok ([markToken p c h], .between)
  else .error ⟨.unexpectedCharacter c, p⟩

/-- Reads a character: the tokens that it completes, and where the reading then stands. -/
def step (mode : Mode) (p : Position) (c : Char) : Except SyntaxError (List Token × Mode) :=
  match mode with
  | .between => start p c
  | .comment => .ok ([], if c = '\n' then .between else .comment)
  | .word w =>
    if h : isWordPart c then .ok ([], .word (w.push c h))
    else do
      let (ts, mode) ← start p c
      return (w.token :: ts, mode)

/-- Reads a row of characters from a place on. -/
def scan (mode : Mode) (p : Position) : List Char → Except SyntaxError Tokens
  | [] => .ok ⟨mode.pending, p⟩
  | c :: cs => do
    let (ts, mode) ← step mode p c
    let tokens ← scan mode (p.after c) cs
    return { tokens with rest := ts ++ tokens.rest }

end InfoFlow.Lexer

namespace InfoFlow

/-- The tokens of a text. -/
def Tokens.ofText (s : String) : Except SyntaxError Tokens := Lexer.scan .between {} s.toList

end InfoFlow
