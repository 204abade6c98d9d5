import InfoFlow.Graph.File
import InfoFlow.Proofs.Json.Plain
import InfoFlow.Proofs.Toml.Oversized
/-!
# Loading graphs and configurations

A file is decoded, then read as JSON or TOML, and what a graph is made of is checked after that. The
loaders tell of a text that breaks its format and of a graph that does not fit. Bytes that are no
text, integers that are too long and parts that are nested deeper than there is room for end them
otherwise. The room is whatever the calls around a loader and the rest of the document have left of
the stack, so everything here holds of any document and any room. A document with half a character
in a string is outside of what is said.
-/

namespace InfoFlow

variable {room : Nat} {path : Path} {bytes : ByteArray}

/-! ## Decoding -/

theorem fromUTF8?_toUTF8 (s : String) : String.fromUTF8? s.toUTF8 = some s := by
  unfold String.fromUTF8?
  exact dif_pos s.isValidUTF8

theorem decodeText_toUTF8 {s : String} (h : '\r' ∉ s.toList) :
    decodeText s.toUTF8 = .ok s.toList := by
  unfold decodeText
  rw [fromUTF8?_toUTF8]
  show Except.ok (Text.unifyLineEnds s.toList) = _
  rw [Text.unifyLineEnds_eq_self h]

theorem decodeText_of_undecodable (h : String.fromUTF8? bytes = none) :
    decodeText bytes = .error .undecodable := by
  unfold decodeText
  rw [h]

/-! ## What the loaders tell of -/

/-- Loading ends in an error of its own kind. -/
def GraphFault.IsReported : GraphFault → Prop
  | unreadable _ f => f ≠ .nullInPath
  | document _ f => f = .malformed
  | snapshot _ => True

def ConfigFault.IsReported : ConfigFault → Prop
  | unreadable _ f => f ≠ .nullInPath
  | document _ f => f = .malformed

/-- The strings of a document are rows of characters, as far as it is read. -/
def Graph.IsSpelled (room : Nat) (path : Path) (contents : Except FileFault ByteArray) : Prop :=
  Graph.ofContents room path contents ≠ .error (.document path .loneUnit)

/-- From these contents there is a graph, or an error is reported. -/
def Graph.Loads (room : Nat) (path : Path) (bytes : ByteArray) : Prop :=
  ∀ f, Graph.ofContents room path (.ok bytes) = .error f → f.IsReported

/-- From these contents there is a table, or an error is reported, for the whole configuration and
for each of its sections. -/
structure Config.Loads (room : Nat) (path : Path) (bytes : ByteArray) : Prop where
  whole : ∀ f, Config.ofContents room path (.ok bytes) = .error f → f.IsReported
  runner : ∀ f, (Config.ofContents room path (.ok bytes)).map Config.runner = .error f →
    f.IsReported
  logging : ∀ f, (Config.ofContents room path (.ok bytes)).map Config.logging = .error f →
    f.IsReported

/-- A text is read, or refused because it breaks its format. -/
def Comprehends {α : Type} (read : Except DocumentFault α) : Prop :=
  ∀ f, read = .error f → f = .malformed

theorem eq_error_of_map {ε α β : Type} {r : Except ε α} {g : α → β} {e : ε}
    (h : r.map g = .error e) : r = .error e := by
  cases r with
  | ok a => exact nomatch h
  | error e' => exact congrArg Except.error (Except.error.inj h)

theorem Graph.ofContents_of_error {f : DocumentFault}
    (h : (decodeText bytes).bind (Json.read room) = .error f) :
    Graph.ofContents room path (.ok bytes) = .error (.document path f) := by
  simp only [Graph.ofContents, h]

theorem Graph.ofContents_of_ok {v : Value}
    (h : (decodeText bytes).bind (Json.read room) = .ok v) :
    Graph.ofContents room path (.ok bytes) = (Graph.ofSnapshot v).mapError .snapshot := by
  simp only [Graph.ofContents, h]

theorem Graph.loads_iff :
    Graph.Loads room path bytes ↔ Comprehends ((decodeText bytes).bind (Json.read room)) := by
  unfold Graph.Loads
  cases hread : (decodeText bytes).bind (Json.read room) with
  | error f =>
    rw [Graph.ofContents_of_error hread]
    constructor
    · rintro h _ ⟨⟩
      exact h _ rfl
    · rintro h _ ⟨⟩
      exact h f rfl
  | ok v =>
    rw [Graph.ofContents_of_ok hread]
    refine iff_of_true ?_ nofun
    -- what is wrong with a snapshot is always told
    cases Graph.ofSnapshot v with
    | ok g => exact nofun
    | error f =>
      rintro _ ⟨⟩
      exact trivial

/-- A section is there if the configuration is. -/
theorem Config.loads_iff_whole :
    Config.Loads room path bytes ↔
      ∀ f, Config.ofContents room path (.ok bytes) = .error f → f.IsReported := by
  constructor
  · exact fun h => h.whole
  · intro h
    exact ⟨h, fun f hf => h f (eq_error_of_map hf), fun f hf => h f (eq_error_of_map hf)⟩

theorem Config.loads_iff :
    Config.Loads room path bytes ↔ Comprehends ((decodeText bytes).bind (Toml.read room)) := by
  have hload : Config.ofContents room path (.ok bytes) =
      ((decodeText bytes).bind (Toml.read room)).mapError (.document path) := rfl
  rw [Config.loads_iff_whole, hload]
  cases (decodeText bytes).bind (Toml.read room) with
  | ok c => exact iff_of_true nofun nofun
  | error f =>
    constructor
    · rintro h _ ⟨⟩
      exact h _ rfl
    · rintro h _ ⟨⟩
      exact h f rfl

theorem not_comprehends {α : Type} {read : Except DocumentFault α}
    (h : ∃ f, read = .error f ∧ f ≠ .malformed) : ¬Comprehends read := by
  obtain ⟨f, hf, hne⟩ := h
  exact fun hread => hne (hread f hf)

theorem not_comprehends_of_undecodable {α : Type} (h : String.fromUTF8? bytes = none)
    (read : List Char → Except DocumentFault α) : ¬Comprehends ((decodeText bytes).bind read) := by
  rw [decodeText_of_undecodable h]
  exact not_comprehends ⟨.undecodable, rfl, nofun⟩

theorem Graph.IsSpelled.not_loneUnit (h : Graph.IsSpelled room path (.ok bytes)) :
    (decodeText bytes).bind (Json.read room) ≠ .error .loneUnit :=
  fun hread => h (Graph.ofContents_of_error hread)

theorem Graph.isSpelled_of_ok {v : Value} (h : (decodeText bytes).bind (Json.read room) = .ok v) :
    Graph.IsSpelled room path (.ok bytes) := by
  unfold Graph.IsSpelled
  rw [Graph.ofContents_of_ok h]
  cases Graph.ofSnapshot v <;> nofun

/-- Of bytes that are no text nothing is told, and neither is it of a text with an integer that is
too long or with parts nested deeper than the room they find. A modest text is loaded, or an error
is reported. -/
theorem loads_contents (room : Nat) (path : Path) (bytes : ByteArray) :
    (Graph.IsSpelled room path (.ok bytes) →
      (Graph.Loads room path bytes ↔ Comprehends ((decodeText bytes).bind (Json.read room)))) ∧
    (Config.Loads room path bytes ↔ Comprehends ((decodeText bytes).bind (Toml.read room))) ∧
    (String.fromUTF8? bytes = none →
      ¬Graph.Loads room path bytes ∧ ¬Config.Loads room path bytes) ∧
    ∀ cs, decodeText bytes = .ok cs →
      (Graph.IsSpelled room path (.ok bytes) → Scan.Modest Json.isFigure 1 1 room cs →
        Graph.Loads room path bytes) ∧
      (Scan.Modest Toml.isNumeral Toml.listSize Toml.tableSize room cs →
        Config.Loads room path bytes) ∧
      (Json.Oversized room cs → ¬Graph.Loads room path bytes) ∧
      ∀ v, cs = 'a' :: '=' :: v → Json.Oversized (room / Toml.listSize) v →
        ¬Config.Loads room path bytes := by
  refine ⟨fun _ => Graph.loads_iff, Config.loads_iff, fun h => ?_, fun cs hcs => ?_⟩
  · rw [Graph.loads_iff, Config.loads_iff]
    exact ⟨not_comprehends_of_undecodable h _, not_comprehends_of_undecodable h _⟩
  · have hjson : (decodeText bytes).bind (Json.read room) = Json.read room cs := by
      rw [hcs]
      rfl
    have htoml : (decodeText bytes).bind (Toml.read room) = Toml.read room cs := by
      rw [hcs]
      rfl
    rw [Graph.loads_iff, Config.loads_iff, hjson, htoml]
    refine ⟨?_, ?_, ?_, ?_⟩
    · intro hspelled h f hf
      refine (Json.read_of_modest h hf).resolve_right ?_
      rintro rfl
      exact hspelled.not_loneUnit (hjson.trans hf)
    · exact fun h f hf => Toml.read_of_modest h hf
    · exact fun h => not_comprehends (Json.read_of_oversized h)
    · rintro v rfl h
      exact not_comprehends (Toml.read_of_oversized h)

/-- The contents of a graph file that fits in one line. -/
def smallText : String := "\x7b\"controllers\": \x7b\x7d\x7d"

theorem decodeText_smallText : decodeText smallText.toUTF8 = .ok smallText.toList :=
  decodeText_toUTF8 (by decide)

theorem smallText_isSpelled {path : Path} :
    Graph.IsSpelled 900 path (.ok smallText.toUTF8) := by
  have hread : (decodeText smallText.toUTF8).bind (Json.read 900) =
      .ok (.table [("controllers", .table [])]) := by
    rw [decodeText_smallText]
    rfl
  exact Graph.isSpelled_of_ok hread

theorem smallText_loads :
    decodeText smallText.toUTF8 = .ok smallText.toList ∧
      Graph.Loads 900 (.ofText "graph.json") smallText.toUTF8 ∧
      Config.Loads 900 (.ofText "flowpolicy.toml") smallText.toUTF8 := by
  have hgraph : Scan.Modest Json.isFigure 1 1 900 smallText.toList :=
    .of_short (by decide) (by decide)
  have hconfig : Scan.Modest Toml.isNumeral Toml.listSize Toml.tableSize 900 smallText.toList :=
    .of_short (by decide) (by decide)
  obtain ⟨-, -, -, hloads⟩ := loads_contents 900 (.ofText "graph.json") smallText.toUTF8
  obtain ⟨-, -, -, hloads'⟩ := loads_contents 900 (.ofText "flowpolicy.toml") smallText.toUTF8
  exact ⟨decodeText_smallText, (hloads _ decodeText_smallText).1 smallText_isSpelled hgraph,
    (hloads' _ decodeText_smallText).2.1 hconfig⟩

/-- One byte that begins no character. -/
theorem strayByte_not_loads :
    ¬Graph.Loads 900 (.ofText "graph.json") ⟨#[0xff]⟩ ∧
      ¬Config.Loads 900 (.ofText "flowpolicy.toml") ⟨#[0xff]⟩ := by
  have hundecodable : String.fromUTF8? ⟨#[0xff]⟩ = none := by decide +kernel
  rw [Graph.loads_iff, Config.loads_iff]
  exact ⟨not_comprehends_of_undecodable hundecodable _,
    not_comprehends_of_undecodable hundecodable _⟩

end InfoFlow
