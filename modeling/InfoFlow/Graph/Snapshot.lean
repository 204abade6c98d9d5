import InfoFlow.Graph.Basic
/-!
# Graph snapshots

A snapshot is a table with the entries `controllers`, `markers`, `edges` and `declared_markers`, of
which only the first is required. It names nodes and markers by texts.
-/

namespace InfoFlow

/-- Why a value is no graph snapshot. -/
inductive SnapshotFault where
  | notTable
  | controllersNotTable
  | markersNotTable
  | edgesNotList
  | edgeNotTable (index : Nat)
  | edgeFields (index : Nat)
  /-- Something else stands where a list of texts should. -/
  | notTexts (place : String)
  /-- The parts have the right shapes but do not make a graph. -/
  | malformed (cause : Malformed)

/-- The wording of each cause. -/
def SnapshotFault.message : SnapshotFault → String
  | notTable => "graph snapshot must be a JSON object"
  | controllersNotTable => "'controllers' must map controller names to node lists"
  | markersNotTable => "'markers' must map node ids to marker lists"
  | edgesNotList => "'edges' must be a list"
  | edgeNotTable index => "edges[" ++ toString index ++ "] must be an object"
  | edgeFields index =>
    "edges[" ++ toString index ++ "] needs string 'from', 'to' and 'kind'"
  | notTexts place => place ++ " must be a list of strings"
  | malformed cause => cause.message

namespace Graph

/-- A list of texts. -/
def texts (place : String) : Value → Except SnapshotFault (List String)
  | .list vs =>
    match vs.mapM Value.text? with
    | some ss => .ok ss
    | none => .error (.notTexts place)
  | _ => .error (.notTexts place)

/-- The entries of a table whose values are lists of texts. -/
def textLists (place : String) (entries : Keyed String Value) :
    Except SnapshotFault (List (String × List String)) :=
  entries.mapM fun (k, v) => do return (k, ← texts (place ++ "." ++ k) v)

/-- An entry of the list of edges; the kind is data if it is not given. -/
def edgeEntry (index : Nat) (v : Value) : Except SnapshotFault (Node × Node × Value) :=
  match v with
  | .table entries =>
    match Keyed.get? entries "from", Keyed.get? entries "to",
      (Keyed.get? entries "kind").getD (.text (Choice.word EdgeKind.data)) with
    | some (.text s), some (.text t), .text k => .ok (.text s, .text t, .text k)
    | _, _, _ => .error (.edgeFields index)
  | _ => .error (.edgeNotTable index)

/-- The entries of the list of edges, from an index on. -/
def edgeEntries (index : Nat) :
    List Value → Except SnapshotFault (List (Node × Node × Value))
  | [] => .ok []
  | v :: vs => do return (← edgeEntry index v) :: (← edgeEntries (index + 1) vs)

/-- The table of controllers. -/
def controllersEntry (entries : Keyed String Value) :
    Except SnapshotFault (List (String × List String)) :=
  match Keyed.get? entries "controllers" with
  | some (.table cs) => textLists "controllers" cs
  | _ => .error .controllersNotTable

/-- The table of markers, without entries if it is missing. -/
def markersEntry (entries : Keyed String Value) :
    Except SnapshotFault (List (String × List String)) :=
  match Keyed.get? entries "markers" with
  | none => .ok []
  | some (.table ms) => textLists "markers" ms
  | some _ => .error .markersNotTable

/-- The list of edges, empty if it is missing. -/
def edgesEntry (entries : Keyed String Value) :
    Except SnapshotFault (List (Node × Node × Value)) :=
  match Keyed.get? entries "edges" with
  | none => .ok []
  | some (.list es) => edgeEntries 0 es
  | some _ => .error .edgesNotList

/-- The declared markers, none given if they are missing or null. -/
def declaredEntry (entries : Keyed String Value) :
    Except SnapshotFault (Option (List String)) :=
  match Keyed.get? entries "declared_markers" with
  | none | some .null => .ok none
  | some v => do return some (← texts "declared_markers" v)

/-- The graph that a snapshot describes. -/
def ofSnapshot (v : Value) : Except SnapshotFault Graph := do
  let some entries := v.entries? | .error .notTable
  let controllers ← controllersEntry entries
  let markers ← markersEntry entries
  let edges ← edgesEntry entries
  let declared ← declaredEntry entries
  (build (controllers.map fun (c, ns) => (c, ns.map .text))
    (markers.map fun (n, ms) => (.text n, ms.map .text))
    edges (declared.map (·.map .text))).mapError .malformed

end Graph

end InfoFlow
