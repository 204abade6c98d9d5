import InfoFlow.Ordered
import InfoFlow.Text.Quoted
/-!
# Nodes

A node of the dependency graph is named by a text, an integer, the null name or a tuple of nodes;
names of other kinds are left out. Wherever nodes are listed they stand in the order of their quoted
forms.

Every node is quoted, however long its integers are. The limit on the digits of an integer that is
quoted concerns the values of a configuration only (`Value.isQuotable`): the nodes of a graph that
is read from a file are texts, so integers are there only in graphs that are built in a program.
-/

namespace InfoFlow

/-- A node of the dependency graph. -/
inductive Node where
  | null
  | int (i : Int)
  | text (s : String)
  | tuple (parts : List Node)

namespace Node

mutual

/-- Whether two nodes are equal. -/
def decEq : (a b : Node) → Decidable (a = b)
  | .null, .null => isTrue rfl
  | .int i, .int j =>
    if h : i = j then isTrue (congrArg _ h) else isFalse fun e => h (Node.int.inj e)
  | .text s, .text t =>
    if h : s = t then isTrue (congrArg _ h) else isFalse fun e => h (Node.text.inj e)
  | .tuple ps, .tuple qs =>
    match decEqParts ps qs with
    | isTrue h => isTrue (congrArg _ h)
    | isFalse h => isFalse fun e => h (Node.tuple.inj e)
  | .null, .int _ | .null, .text _ | .null, .tuple _ => isFalse nofun
  | .int _, .null | .int _, .text _ | .int _, .tuple _ => isFalse nofun
  | .text _, .null | .text _, .int _ | .text _, .tuple _ => isFalse nofun
  | .tuple _, .null | .tuple _, .int _ | .tuple _, .text _ => isFalse nofun

/-- Whether two rows of nodes are equal. -/
def decEqParts : (ps qs : List Node) → Decidable (ps = qs)
  | [], [] => isTrue rfl
  | p :: ps, q :: qs =>
    match decEq p q, decEqParts ps qs with
    | isTrue h, isTrue t => isTrue (by rw [h, t])
    | isFalse h, _ => isFalse fun e => h (List.cons.inj e).1
    | _, isFalse t => isFalse fun e => t (List.cons.inj e).2
  | [], _ :: _ | _ :: _, [] => isFalse nofun

end

instance : DecidableEq Node := decEq

mutual

/-- The characters of the quoted form. A tuple of one node has a comma after it. -/
def quotedChars : Node → List Char
  | .null => ['N', 'o', 'n', 'e']
  | .int i => (toString i).toList
  | .text s => Text.quotedChars s.toList
  | .tuple [p] => '(' :: quotedChars p ++ [',', ')']
  | .tuple ps => '(' :: quotedParts ps ++ [')']

/-- The quoted forms of a row of nodes, with a comma and a space between them. -/
def quotedParts : List Node → List Char
  | [] => []
  | [p] => quotedChars p
  | p :: ps => quotedChars p ++ ',' :: ' ' :: quotedParts ps

end

/-- The form in which a message quotes a node. -/
def quoted (n : Node) : String := String.ofList n.quotedChars

/-- Nodes in the order of their quoted forms. -/
def ordered (ns : List Node) : List Node := Ordered.sortBy quoted ns

end Node

end InfoFlow
