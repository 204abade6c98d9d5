import InfoFlow.Grammar.Token
import Mathlib.Data.List.DropRight
/-!
# Places in a text

The place behind some characters is told by the line feeds among them and by what stands behind the
last one. What is put in front of the characters moves it, unless it puts no line above and the
place is not on the first line. Every place in a text lies in one of its lines, or just behind its
end.
-/

namespace InfoFlow

/-- What stands behind the last line feed. -/
def lastLine (cs : List Char) : List Char := cs.rtakeWhile (· ≠ '\n')

theorem lastLine_concat (cs : List Char) (c : Char) :
    lastLine (cs ++ [c]) = if c = '\n' then [] else lastLine cs ++ [c] := by
  unfold lastLine
  rw [List.rtakeWhile_concat]
  by_cases hc : c = '\n' <;> simp [hc]

theorem lastLine_append (front rest : List Char) :
    lastLine (front ++ rest) = if '\n' ∈ rest then lastLine rest else lastLine front ++ rest := by
  induction rest using List.reverseRecOn with
  | nil => rw [List.append_nil, if_neg List.not_mem_nil, List.append_nil]
  | append_singleton rest c ih =>
    rw [← List.append_assoc, lastLine_concat, lastLine_concat, ih]
    by_cases hc : c = '\n'
    · subst hc
      simp
    · by_cases hrest : '\n' ∈ rest <;> simp [hc, Ne.symm hc, hrest]

theorem lastLine_eq_self {cs : List Char} (h : '\n' ∉ cs) : lastLine cs = cs := by
  have happend := lastLine_append [] cs
  rw [if_neg h] at happend
  exact happend

namespace Position

variable {front rest : List Char}

/-! ## Behind some characters -/

/-- The place behind the first characters of a text: each line feed ends a line above it, and what
is behind the last of them stands in front of it in its line. -/
def behind (front : List Char) : Position := ⟨1 + front.count '\n', 1 + (lastLine front).length⟩

theorem behind_concat (front : List Char) (c : Char) :
    behind (front ++ [c]) = (behind front).after c := by
  unfold behind after
  rw [List.count_append, lastLine_concat]
  by_cases hc : c = '\n'
  · subst hc
    rfl
  · rw [if_neg hc, if_neg hc, List.count_eq_zero_of_not_mem (l := [c]) (by simpa using Ne.symm hc),
      List.length_append]
    rfl

/-- What is put in front leaves a place as it is exactly if it is nothing, or stands in the first
line while the place does not. -/
theorem behind_eq_behind_append_iff (lead front : List Char) :
    behind front = behind (lead ++ front) ↔ lead = [] ∨ '\n' ∉ lead ∧ '\n' ∈ front := by
  have hline : 1 + front.count '\n' = 1 + (lead ++ front).count '\n' ↔ '\n' ∉ lead := by
    rw [List.count_append, ← List.count_eq_zero]
    omega
  unfold behind
  rw [Position.mk.injEq, hline, lastLine_append]
  by_cases hfront : '\n' ∈ front
  · rw [if_pos hfront]
    simp only [hfront, and_true, iff_or_self]
    rintro rfl
    exact List.not_mem_nil
  · rw [if_neg hfront, lastLine_eq_self hfront]
    simp only [hfront, and_false, or_false, List.length_append]
    constructor
    · rintro ⟨hlead, hcolumn⟩
      rw [lastLine_eq_self hlead] at hcolumn
      exact List.length_eq_zero_iff.1 (by omega)
    · rintro rfl
      refine ⟨List.not_mem_nil, ?_⟩
      rw [lastLine_eq_self List.not_mem_nil, List.length_nil, Nat.zero_add]

/-! ## In a text -/

/-- A place is in a text: its line is one of the lines of the text, and its column is one of that
line or the one behind its end. -/
def LiesIn (p : Position) (text : String) : Prop :=
  1 ≤ p.line ∧ p.line ≤ 1 + text.toList.count '\n' ∧ 1 ≤ p.column ∧
    ∃ line, (text.toList.splitOn '\n')[p.line - 1]? = some line ∧ p.column ≤ 1 + line.length

theorem splitOn_cons (c : Char) (cs : List Char) :
    (c :: cs).splitOn '\n' =
      if c = '\n' then [] :: cs.splitOn '\n' else (cs.splitOn '\n').modifyHead (c :: ·) := by
  unfold List.splitOn
  rw [List.splitOnP_cons_eq_if_modifyHead]
  simp only [beq_iff_eq]

/-- The line in which some characters end goes on behind them. -/
theorem exists_line (front rest : List Char) :
    ∃ line, ((front ++ rest).splitOn '\n')[front.count '\n']? = some line ∧
      (lastLine front).length ≤ line.length := by
  induction front with
  | nil =>
    have hne := List.splitOnP_ne_nil (· == '\n') rest
    cases hsplit : rest.splitOn '\n' with
    | nil => exact absurd hsplit hne
    | cons line lines => exact ⟨line, by rw [List.nil_append, hsplit]; rfl, Nat.zero_le _⟩
  | cons c front ih =>
    obtain ⟨line, hline, hlength⟩ := ih
    have hcut := lastLine_append [c] front
    rw [List.singleton_append] at hcut
    rw [hcut, List.cons_append, splitOn_cons]
    by_cases hc : c = '\n'
    · subst hc
      refine ⟨line, ?_, ?_⟩
      · rw [if_pos rfl, List.count_cons_self, List.getElem?_cons_succ]
        exact hline
      · by_cases hfront : '\n' ∈ front
        · rw [if_pos hfront]
          exact hlength
        · rw [if_neg hfront]
          rw [lastLine_eq_self hfront] at hlength
          exact hlength
    · rw [if_neg hc, List.getElem?_modifyHead, List.count_cons_of_ne hc, hline]
      by_cases hfront : '\n' ∈ front
      · have hcount := List.count_pos_iff.2 hfront
        rw [if_neg (by omega), if_pos hfront]
        exact ⟨line, rfl, hlength⟩
      · -- the character stands in the same line, in front of it
        rw [lastLine_eq_self hfront] at hlength
        rw [List.count_eq_zero_of_not_mem hfront, if_pos rfl, if_neg hfront,
          lastLine_eq_self (by simpa using Ne.symm hc)]
        exact ⟨c :: line, rfl, Nat.succ_le_succ hlength⟩

theorem liesIn_behind {text : String} (h : text.toList = front ++ rest) :
    (behind front).LiesIn text := by
  obtain ⟨line, hline, hlength⟩ := exists_line front rest
  refine ⟨Nat.le_add_right 1 _, ?_, Nat.le_add_right 1 _, line, ?_, Nat.add_le_add_left hlength 1⟩
  · show 1 + front.count '\n' ≤ 1 + text.toList.count '\n'
    rw [h, List.count_append]
    omega
  · show (text.toList.splitOn '\n')[1 + front.count '\n' - 1]? = some line
    rw [h, Nat.add_sub_cancel_left]
    exact hline

end Position

end InfoFlow
