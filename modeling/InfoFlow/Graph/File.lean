import InfoFlow.Config
import InfoFlow.Graph.Snapshot
import InfoFlow.Json.Reader
/-!
# Graph files

A graph snapshot is kept in a JSON file.
-/

namespace InfoFlow

/-- Why a file gives no graph. -/
inductive GraphFault where
  | unreadable (path : Path) (fault : FileFault)
  | document (path : Path) (fault : DocumentFault)
  | snapshot (fault : SnapshotFault)

/-- The wording of each fault. -/
def GraphFault.message : GraphFault → String
  | unreadable p f => "cannot read graph snapshot " ++ p.render ++ ": " ++ f.message p
  | document p _ => "graph snapshot " ++ p.render ++ " is not valid JSON"
  | snapshot f => f.message

/-- The graph in the file at a path, given what reading it gave and the room for its parts. -/
def Graph.ofContents (room : Nat) (path : Path) (contents : Except FileFault ByteArray) :
    Except GraphFault Graph :=
  match contents with
  | .error f => .error (.unreadable path f)
  | .ok bytes =>
    match (decodeText bytes).bind (Json.read room) with
    | .error f => .error (.document path f)
    | .ok v => (Graph.ofSnapshot v).mapError .snapshot

end InfoFlow
