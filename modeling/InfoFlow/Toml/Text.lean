import InfoFlow.Json.Reader
/-!
# Strings, keys and comments of TOML

A string stands between quotation marks, where a backslash escapes, or between apostrophes, where
it does not; three of either enclose several lines. A key is a row of parts with points between
them.
-/

namespace InfoFlow.Toml

/-- Space within a line. -/
def isSpace (c : Char) : Bool := c = ' ' || c = '\t'

/-- Space and the ends of lines. -/
def isGap (c : Char) : Bool := isSpace c || c = '\n'

/-- Control characters, the tab excepted, stand neither in strings nor in comments. -/
def isControl (c : Char) : Bool := (c.toNat < 0x20 && c != '\t') || c.toNat = 0x7f

/-- The characters that stand in a string: on several lines also the line feed. -/
def mayStand (multiline : Bool) (c : Char) : Bool := !isControl c || (multiline && c = '\n')

/-- The characters of a key part without quotes. -/
def isBare (c : Char) : Bool :=
  ('a' ≤ c && c ≤ 'z') || ('A' ≤ c && c ≤ 'Z') || Json.isFigure c || c = '-' || c = '_'

/-- The character that a backslash and a letter stand for. -/
def shortEscape? : Char → Option Char
  | '/' => none
  | c => Json.shortEscape? c

/-- A character given by its code point in so many hexadecimal digits. -/
def codePoint (width : Nat) : Scan Char := do
  match Json.hexNumber? (← Scan.take width) with
  | some n => if n.isValidChar then pure (Char.ofNat n) else Scan.fail
  | none => Scan.fail

/-- A backslash at the end of a line takes with it the line end and all space that follows. -/
def lineEscape : Scan Unit := do
  Scan.skipWhile isSpace
  Scan.expect "\n"
  Scan.skipWhile isGap

/-- What follows a backslash. -/
def escape (multiline : Bool) : Scan (List Char) := do
  let next ← Scan.peek?
  if multiline && next.any isGap then lineEscape; pure []
  else
    match ← Scan.take 1 with
    | ['u'] => return [← codePoint 4]
    | ['U'] => return [← codePoint 8]
    | [c] => Scan.require (shortEscape? c).isSome; pure (shortEscape? c).toList
    | _ => Scan.fail

/-- The characters of a string up to the quotation marks that close it, with those read so far in
reverse. -/
def basicRest (multiline : Bool) : Nat → List Char → Scan (List Char)
  | 0, _ => Scan.fail
  | fuel + 1, done => do
    if ← Scan.accept (if multiline then "\"\"\"" else "\"") then pure done.reverse
    else
      match ← Scan.take 1 with
      | ['\\'] => do basicRest multiline fuel ((← escape multiline).reverse ++ done)
      | [c] => do
        Scan.require (mayStand multiline c)
        basicRest multiline fuel (c :: done)
      | _ => Scan.fail

/-- A string after its opening quotation marks. -/
def basic (multiline : Bool) : Scan (List Char) := fun cs =>
  basicRest multiline (cs.length + 1) [] cs

/-- The characters of a string up to the apostrophes that close it. -/
def literalRest (multiline : Bool) : Nat → List Char → Scan (List Char)
  | 0, _ => Scan.fail
  | fuel + 1, done => do
    if ← Scan.accept (if multiline then "'''" else "'") then pure done.reverse
    else
      match ← Scan.take 1 with
      | [c] => do
        Scan.require (mayStand multiline c)
        literalRest multiline fuel (c :: done)
      | _ => Scan.fail

/-- A string after its opening apostrophes. -/
def literal (multiline : Bool) : Scan (List Char) := fun cs =>
  literalRest multiline (cs.length + 1) [] cs

/-- One or two more marks right after the three that close a string belong to it. -/
def extraMarks (mark : Char) : Scan (List Char) := do
  let marks ← Scan.takeWhile (· = mark)
  Scan.require (marks.length ≤ 2)
  pure marks

/-- A string of several lines after its opening marks: a line feed right after them is dropped. -/
def multiline (mark : Char) (body : Scan (List Char)) : Scan (List Char) := do
  let _ ← Scan.accept "\n"
  return (← body) ++ (← extraMarks mark)

/-- A string, if a mark that opens one comes next. -/
def string? : Scan (Option String) := do
  if ← Scan.accept "\"\"\"" then return some (String.ofList (← multiline '"' (basic true)))
  else if ← Scan.accept "\"" then return some (String.ofList (← basic false))
  else if ← Scan.accept "'''" then return some (String.ofList (← multiline '\'' (literal true)))
  else if ← Scan.accept "'" then return some (String.ofList (← literal false))
  else pure none

/-- A part of a key. -/
def keyPart : Scan String := do
  if ← Scan.accept "\"" then return String.ofList (← basic false)
  else if ← Scan.accept "'" then return String.ofList (← literal false)
  else
    let cs ← Scan.takeWhile isBare
    Scan.require (!cs.isEmpty)
    pure (String.ofList cs)

/-- The parts of a key, with the space around their points and after the last one. -/
def keyRest : Nat → Scan (List String)
  | 0 => Scan.fail
  | fuel + 1 => do
    let part ← keyPart
    Scan.skipWhile isSpace
    if ← Scan.accept "." then
      Scan.skipWhile isSpace
      return part :: (← keyRest fuel)
    else pure [part]

/-- A key: at least one part. -/
def key : Scan (List String) := fun cs => keyRest (cs.length + 1) cs

/-- A comment, if one comes next, up to the end of the line. -/
def comment : Scan Unit := do
  if ← Scan.accept "#" then
    let cs ← Scan.takeWhile (· != '\n')
    Scan.require (!cs.any isControl)

/-- Space, line ends and comments. -/
def gapRest : Nat → Scan Unit
  | 0 => pure ()
  | fuel + 1 => do
    Scan.skipWhile isGap
    if (← Scan.peek?) = some '#' then
      comment
      gapRest fuel

/-- All space, line ends and comments that come next. -/
def gap : Scan Unit := fun cs => gapRest (cs.length + 1) cs

end InfoFlow.Toml
