/-!
# Line ends

A text file may end its lines with a carriage return, a line feed or both; inside, a line feed
ends every line.
-/

namespace InfoFlow.Text

/-- Writes every line end as one line feed. -/
def unifyLineEnds : List Char → List Char
  | [] => []
  | '\r' :: '\n' :: cs => '\n' :: unifyLineEnds cs
  | c :: cs => (if c = '\r' then '\n' else c) :: unifyLineEnds cs

/-- A text without a carriage return stays as it is. -/
theorem unifyLineEnds_eq_self {cs : List Char} (h : '\r' ∉ cs) : unifyLineEnds cs = cs := by
  fun_induction unifyLineEnds cs with
  | case1 => rfl
  | case2 cs _ => exact absurd List.mem_cons_self h
  | case3 c cs _ ih =>
    have hc : c ≠ '\r' := fun hc => h (hc ▸ List.mem_cons_self)
    rw [if_neg hc, ih fun hcs => h (List.mem_cons_of_mem c hcs)]

/-- Joins texts, each closed by a line feed. -/
def lines (ls : List String) : String := String.join (ls.map (· ++ "\n"))

end InfoFlow.Text
