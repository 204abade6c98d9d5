import InfoFlow.Grammar.Lexer
import InfoFlow.Grammar.Syntax
/-!
# Reading policies

A sentence is read from its tokens by descent through the rules of the grammar, and is turned into
a statement as soon as it has been read. Every step of the descent through an obligation uses up
fuel, of which there is more than the tokens that are left can ask for.
-/

namespace InfoFlow

open Grammar

/-- A step of reading tokens. -/
abbrev Parser (α : Type) := StateT Tokens (Except SyntaxError) α

namespace Parser

variable {α : Type}

/-! ## Single tokens -/

/-- The next token, which is the end of the text if none is left. -/
def peek : Parser Token := fun ts => .ok (ts.rest.headD ts.finish, ts)

/-- Drops so many tokens. -/
def skip (n : Nat) : Parser Unit := fun ts => .ok ((), { ts with rest := ts.rest.drop n })

/-- Whether tokens with these texts come next. -/
def looksAt (texts : List String) : Parser Bool :=
  fun ts => .ok ((ts.rest.take texts.length).map Token.text = texts, ts)

/-- Drops tokens with these texts if they come next, and tells whether they did. -/
def accept (texts : List String) : Parser Bool := do
  if ← looksAt texts then
    skip texts.length
    pure true
  else pure false

/-- Refuses the text at a place. -/
def fail (cause : SyntaxCause) (p : Position) : Parser α := throw ⟨cause, p⟩

/-- Refuses the text at the next token. -/
def failHere (cause : Token → SyntaxCause) : Parser α := do
  let t ← peek
  fail (cause t) t.position

/-- A token with this text. -/
def expect (text : String) : Parser Unit := do
  if !(← accept [text]) then failHere (.expectedText text)

/-- A result, or the place to blame for its lack. -/
def demand (p : Position) : Except Malformed α → Parser α
  | .ok a => pure a
  | .error cause => fail (.malformed cause) p

/-- A name. -/
def marker : Parser Name := do
  let t ← peek
  if h : t.isName then
    skip 1
    pure (.ofToken t h)
  else fail (.expectedMarker t) t.position

/-! ## Premises -/

/-- A quantifier, if one comes next. -/
def quantifier? : Parser (Option Quantifier) := do
  if ← accept [Choice.word Quantifier.some] then pure (some .some)
  else if ← accept [Choice.word Quantifier.all] then pure (some .all)
  else pure none

/-- A quantifier. -/
def quantifier : Parser Quantifier := do
  match ← quantifier? with
  | some q => pure q
  | none => failHere .expectedQuantifier

/-- The phrase between the two ends of a flow. -/
def relation : Parser EdgeKind := do
  if ← accept EdgeKind.data.relationWords then pure .data
  else if ← accept EdgeKind.control.relationWords then pure .control
  else failHere .expectedRelation

/-- A premise, whose two markers have to differ. -/
def premise : Parser Premise := do
  let sourceQuantifier ← quantifier
  let sourceToken ← peek
  let source ← marker
  let kind ← relation
  let destinationQuantifier ← quantifier
  let destination ← marker
  if distinct : source = destination then fail (.sameMarkers source.marker) sourceToken.position
  else return { sourceQuantifier, source, kind, destinationQuantifier, destination, distinct }

/-! ## Obligations -/

/-- The checkpoint after a data relation, if one is given. -/
def passage (kind : EdgeKind) : Parser (Passage kind) := do
  if ← looksAt ["through"] then
    if h : kind = .data then
      expect "through"
      expect "some"
      return ⟨some (← marker), fun _ => h⟩
    else failHere fun _ => .throughNeedsData
  else return ⟨none, nofun⟩

/-- An end of a flow after a premise. -/
def endpoint (f : Premise) : Parser End := do
  match ← quantifier? with
  | some q => return .quantified q (← marker)
  | none =>
    let t ← peek
    let m ← marker
    match f.side? m with
    | some side => return .bare side
    | none => fail (.unboundMarker m.marker) t.position

/-- The authorization of an end, after its first word. -/
def authorization (subject : End) (p : Position) : Parser Atom := do
  expect "authorized"
  expect "by"
  expect "some"
  let m ← marker
  match subject with
  | .bare side => return .authorized side m
  | .quantified _ _ => fail .unboundSubject p

/-- A flow or an authorization. -/
def flow (f : Premise) : Parser Atom := do
  let t ← peek
  let subject ← endpoint f
  if ← accept ["is"] then authorization subject t.position
  else
    let kind ← relation
    let target ← endpoint f
    return .flow subject kind target (← passage kind)

mutual

/-- An obligation between parentheses, or a flow or an authorization. -/
def atom (f : Premise) : Nat → Parser Atom
  | 0 => failHere fun _ => .tooDeep
  | fuel + 1 => do
    if ← accept ["("] then
      let inner ← disjunction f fuel
      expect ")"
      return .group inner
    else flow f

/-- Atoms with "and" between them, as many as there are. -/
def conjunction (f : Premise) : Nat → Parser Conjunction
  | 0 => failHere fun _ => .tooDeep
  | fuel + 1 => do
    let a ← atom f fuel
    if ← accept [Formula.andWord] then return .and a (← conjunction f fuel) else return .one a

/-- Conjunctions with "or" between them, as many as there are. -/
def disjunction (f : Premise) : Nat → Parser Disjunction
  | 0 => failHere fun _ => .tooDeep
  | fuel + 1 => do
    let c ← conjunction f fuel
    if ← accept [Formula.orWord] then return .or c (← disjunction f fuel) else return .one c

end

/-- An obligation after a premise. From one parenthesis to the next there are three steps. -/
def obligation (f : Premise) : Parser Disjunction :=
  fun ts => disjunction f (3 * ts.rest.length + 3) ts

/-! ## Statements -/

/-- The name in front of a statement, if one is given. -/
def name? : Parser (Option Name) := fun ts =>
  match ts.rest with
  | t :: colon :: rest =>
    if h : t.isName = true ∧ colon.text = ":" then .ok (some (.ofToken t h.1), { ts with rest })
    else .ok (none, ts)
  | _ => .ok (none, ts)

/-- The word `always` and the comma after it, as far as they are given. -/
def opening : Parser Opening := do
  if ← accept ["always"] then
    if ← accept [","] then return .comma else return .always
  else return .none

/-- The obligation after the word `then`, if one is given. -/
def clause? (f : Premise) : Parser (Option Disjunction) := do
  if ← accept ["then"] then return some (← obligation f) else return none

/-- A premise and what it lays on its matches. After `if` there has to be an obligation. -/
def body : Parser Body := do
  if ← accept ["if"] then
    let f ← premise
    expect "then"
    return .conditional f (← obligation f)
  else
    let f ← premise
    let p ← passage f.kind
    return .plain f p (← clause? f)

/-- A sentence. -/
def sentence : Parser Sentence := do
  let name ← name?
  let opening ← opening
  let body ← body
  expect "."
  return { name, opening, body }

/-- The statement at a place of the policy. -/
def statement (index : Nat) : Parser Statement := do
  let start ← peek
  let d ← sentence
  demand start.position (d.statement index)

/-- The statements from a place of the policy to the end of the text. -/
def statements : Nat → Nat → Parser (List Statement)
  | 0, _ => failHere fun _ => .tooDeep
  | fuel + 1, index => fun ts =>
    if ts.rest.isEmpty then .ok ([], ts)
    else (do return (← statement index) :: (← statements fuel (index + 1)) : Parser _) ts

end Parser

namespace Policy

/-- The policy that tokens denote. -/
def ofTokens (name : Value) (ts : Tokens) : Except SyntaxError Policy := do
  let ss ← (Parser.statements (ts.rest.length + 1) 1).run' ts
  (ofStatements name ss).mapError fun cause => ⟨.malformed cause, {}⟩

/-- The policy that a text denotes. -/
def parse (text : String) (name : Value) : Except SyntaxError Policy := do
  ofTokens name (← Tokens.ofText text)

end Policy

namespace Statement

/-- The text of one statement, closed by a period. -/
def closed (text : String) : String :=
  let text := Text.strip text
  if text.toList.getLast? = some '.' then text else text ++ "."

/-- The one statement that a text denotes, under a name if one is given. -/
def parse (text : String) (name : Option Value) : Except SyntaxError Statement := do
  let policy ← Policy.parse (closed text) (.text "statement")
  match policy.statements, name with
  | [s], none => .ok s
  | [s], some name => (s.rename name).mapError fun cause => ⟨.malformed cause, {}⟩
  | ss, _ => .error ⟨.notOneStatement ss.length, {}⟩

end Statement

end InfoFlow
