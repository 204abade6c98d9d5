import InfoFlow.Malformed
import InfoFlow.Marker
/-!
# Tokens

A policy text is cut into words and punctuation marks, each with the place where it starts. Lines
and columns count from one; only a line feed ends a line. The text of a token tells its kind.
-/

namespace InfoFlow

/-- A place in a text. -/
structure Position where
  line : Nat := 1
  column : Nat := 1
deriving DecidableEq, Repr

/-- The place after a character. -/
def Position.after (p : Position) (c : Char) : Position :=
  if c = '\n' then ⟨p.line + 1, 1⟩ else ⟨p.line, p.column + 1⟩

/-! ## Kinds of tokens -/

/-- The characters with which a word starts. -/
def isWordStart (c : Char) : Bool := c.isAlpha || c = '_'

/-- The characters with which a word goes on. -/
def isWordPart (c : Char) : Bool := isWordStart c || c.isDigit

/-- The punctuation marks. -/
def isMark (c : Char) : Bool := c = '(' || c = ')' || c = '.' || c = ':' || c = ','

/-- What a token is. -/
inductive TokenKind where
  | word
  | mark
  /-- The end of the text. -/
  | finish
deriving DecidableEq, Repr

/-- The name of a kind of token. -/
def TokenKind.name : TokenKind → String
  | word => "word"
  | mark => "punct"
  | finish => "eof"

/-- Whether a token of a kind can have these characters. -/
def TokenKind.admits : TokenKind → List Char → Bool
  | word, c :: cs => isWordStart c && cs.all isWordPart
  | mark, [c] => isMark c
  | finish, [] => true
  | _, _ => false

@[simp] theorem TokenKind.admits_word_cons (c : Char) (cs : List Char) :
    word.admits (c :: cs) = (isWordStart c && cs.all isWordPart) := rfl

/-! ## Tokens -/

/-- A token and the place where it starts. -/
structure Token where
  kind : TokenKind
  text : String
  position : Position
  formed : kind.admits text.toList = true
deriving DecidableEq, Repr

/-- How a message names a token. -/
def Token.describe (t : Token) : String :=
  match t.kind with
  | .finish => "end of input"
  | _ => Text.quoted t.text

/-- The words with a meaning of their own, which name neither markers nor statements. -/
def keywords : List String := [
  "all", "always", "and", "authorized", "by", "control", "flow", "flows", "has", "if", "influence",
  "is", "on", "or", "some", "then", "through", "to"]

/-- Whether a token can name a marker or a statement. -/
def Token.isName (t : Token) : Bool := t.kind = .word && !keywords.contains t.text

/-- The tokens of a text, and the place where it ends. -/
structure Tokens where
  rest : List Token
  stop : Position
deriving DecidableEq, Repr

/-- The token that stands for the end of the text. -/
def Tokens.finish (ts : Tokens) : Token := ⟨.finish, "", ts.stop, rfl⟩

/-! ## Errors -/

/-- What is wrong at a place of a policy text. -/
inductive SyntaxCause where
  | unexpectedCharacter (c : Char)
  | expectedText (text : String) (found : Token)
  | expectedQuantifier (found : Token)
  | expectedMarker (found : Token)
  | expectedRelation (found : Token)
  /-- Checkpoints are asked of a control relation. -/
  | throughNeedsData
  /-- The two markers of a premise are equal. -/
  | sameMarkers (m : Marker)
  /-- The end that is to be authorized is not bound by the premise. -/
  | unboundSubject
  /-- A marker without a quantifier is not bound by the premise. -/
  | unboundMarker (m : Marker)
  /-- A text that should hold one statement holds another number of them. -/
  | notOneStatement (count : Nat)
  /-- The parts were read but do not fit together. -/
  | malformed (cause : Malformed)
  /-- Parentheses are nested deeper than the text has tokens. -/
  | tooDeep

/-- The wording of each cause. -/
def SyntaxCause.reason : SyntaxCause → String
  | unexpectedCharacter c => "unexpected character " ++ Text.quoted (String.singleton c)
  | expectedText text found => "expected " ++ Text.quoted text ++ ", found " ++ found.describe
  | expectedQuantifier found => "expected 'some' or 'all', found " ++ found.describe
  | expectedMarker found => "expected a marker name, found " ++ found.describe
  | expectedRelation found =>
    "expected 'flows to' or 'has control flow influence on', found " ++ found.describe
  | throughNeedsData => "'through' only follows 'flows to'"
  | sameMarkers m =>
    "premise uses marker " ++ m.text ++
      " on both sides; obligations could not tell them apart"
  | unboundSubject => "only a premise marker can be authorized"
  | unboundMarker m =>
    "marker " ++ m.text ++
      " is not bound by the premise; quantify it with 'some' or 'all'"
  | notOneStatement count => "expected one statement, found " ++ toString count
  | malformed cause => cause.message
  | tooDeep => "parentheses are nested too deeply"

/-- An error in a policy text. -/
structure SyntaxError where
  cause : SyntaxCause
  position : Position := {}

/-- What is wrong, without the place. -/
def SyntaxError.reason (e : SyntaxError) : String := e.cause.reason

/-- What is wrong, and where. -/
def SyntaxError.message (e : SyntaxError) : String :=
  e.reason ++ " (line " ++ toString e.position.line ++ ", column " ++
    toString e.position.column ++ ")"

end InfoFlow
