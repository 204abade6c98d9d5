import Mathlib.Data.List.TakeWhile
import InfoFlow.Text.Blank
/-!
# Blanks at the ends of a text

A text is what is left of it by stripping, between blank characters. Characters none of which is
blank are what is left of every text that has them between blanks.
-/

namespace InfoFlow.Text

variable {s : String} {cs front back : List Char}

/-- The blanks in front of a text. -/
def lead (s : String) : List Char := s.toList.takeWhile isBlank

theorem isBlank_of_mem_lead : ∀ c ∈ lead s, isBlank c = true :=
  List.all_eq_true.1 List.all_takeWhile

/-- A text is what is left of it between blanks. -/
theorem exists_trail (s : String) :
    ∃ trail : List Char, s.toList = lead s ++ ((strip s).toList ++ trail) ∧
      ∀ c ∈ trail, isBlank c = true := by
  refine ⟨((s.toList.dropWhile isBlank).reverse.takeWhile isBlank).reverse, ?_, fun c hc => ?_⟩
  · unfold lead strip stripChars
    rw [String.toList_ofList, ← List.reverse_append, List.takeWhile_append_dropWhile,
      List.reverse_reverse, List.takeWhile_append_dropWhile]
  · exact List.all_eq_true.1 List.all_takeWhile c (List.mem_reverse.1 hc)

theorem stripChars_append_blanks (hback : ∀ c ∈ back, isBlank c = true) :
    stripChars (cs ++ back) = stripChars cs := by
  unfold stripChars
  cases hcs : cs.dropWhile isBlank with
  | nil =>
    -- what is in front of the blanks at the end is blank too
    have hall : ∀ c ∈ cs, isBlank c = true := List.dropWhile_eq_nil_iff.1 hcs
    rw [List.dropWhile_append_of_pos hall, List.dropWhile_eq_nil_iff.2 hback]
  | cons c ds =>
    have hdrop : (cs ++ back).dropWhile isBlank = (c :: ds) ++ back := by
      rw [List.dropWhile_append, hcs]
      rfl
    have hrev : ∀ c ∈ back.reverse, isBlank c = true := fun c hc => hback c (List.mem_reverse.1 hc)
    rw [hdrop, List.reverse_append, List.dropWhile_append_of_pos hrev]

/-- A text has some characters in it, with nothing but blanks around them. -/
def Frames (s : String) (cs : List Char) : Prop :=
  ∃ front back : List Char, s.toList = front ++ (cs ++ back) ∧
    (∀ c ∈ front, isBlank c = true) ∧ ∀ c ∈ back, isBlank c = true

theorem frames_strip (s : String) : Frames s (strip s).toList := by
  obtain ⟨trail, htext, htrail⟩ := exists_trail s
  exact ⟨lead s, trail, htext, isBlank_of_mem_lead, htrail⟩

/-- What a text frames is what stripping leaves, unless there are blanks in it. -/
theorem Frames.toList_strip (h : Frames s cs) (hcs : ∀ c ∈ cs, isBlank c = false) :
    (strip s).toList = cs := by
  obtain ⟨front, back, htext, hfront, hback⟩ := h
  have hends : stripChars cs = cs := by
    apply stripChars_eq_self
    · exact fun c hc => hcs c (List.mem_of_head? hc)
    · exact fun c hc => hcs c (List.mem_of_getLast? hc)
  have hdrop : stripChars (front ++ (cs ++ back)) = stripChars (cs ++ back) := by
    unfold stripChars
    rw [List.dropWhile_append_of_pos hfront]
  rw [strip, String.toList_ofList, htext, hdrop, stripChars_append_blanks hback, hends]

end InfoFlow.Text
