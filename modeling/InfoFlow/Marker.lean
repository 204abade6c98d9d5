import InfoFlow.Malformed
import InfoFlow.Ordered
/-!
# Markers

A marker labels nodes. Its text is never empty.
-/

namespace InfoFlow

/-- A label of nodes. -/
structure Marker where
  text : String
  text_ne : text ≠ ""
deriving DecidableEq

namespace Marker

/-- The marker with a text. -/
def ofText (s : String) : Except Malformed Marker :=
  if h : s = "" then .error (.markerText (.text s)) else .ok ⟨s, h⟩

/-- The marker whose text is given as a piece of data. -/
def ofTextValue : Value → Except Malformed Marker
  | .text s => ofText s
  | v => .error (.markerText v)

/-- The marker that a piece of data stands for. -/
def ofValue : Value → Except Malformed Marker
  | .text s => ofText s
  | v => .error (.notMarker v)

theorem eq_of_text {m n : Marker} (h : m.text = n.text) : m = n := by
  obtain ⟨text, _⟩ := m
  obtain ⟨text', _⟩ := n
  obtain rfl : text = text' := h
  rfl

theorem ofText_text (m : Marker) : ofText m.text = .ok m := by
  simp [ofText, m.text_ne]

/-- Markers in the order of their texts. -/
def ordered (ms : List Marker) : List Marker := Ordered.sortBy text ms

/-- The markers of a list without repetition, in the order of their texts. -/
def orderedSet (ms : List Marker) : List Marker := ordered ms.eraseDups

end Marker

end InfoFlow
