import InfoFlow.Text.Digits
import Mathlib.Data.Nat.Digits.Lemmas
/-!
# Numerals

A row of decimal digits denotes a number, to which each digit adds its value times a power of ten.
It is read as that number unless it is too long, and a row with any other character in it is read
as none.
-/

namespace InfoFlow.Text

variable {c : Char} {cs : List Char} {n : Nat}

/-- Decimal digits of any script, the most significant one first, and the number that they denote
together. -/
def Denotes (cs : List Char) (n : Nat) : Prop :=
  cs ≠ [] ∧ ∃ ds : List Nat, cs.map decimalValue? = ds.map some ∧ Nat.ofDigits 10 ds.reverse = n

theorem foldlM_decimalValue?_eq_some {value : Nat} :
    cs.foldlM (fun n c => (decimalValue? c).map fun d => 10 * n + d) value = some n ↔
      ∃ ds : List Nat, cs.map decimalValue? = ds.map some ∧
        ds.foldl (fun n d => 10 * n + d) value = n := by
  induction cs generalizing value with
  | nil => simp
  | cons c cs ih =>
    rw [List.foldlM_cons]
    cases hc : decimalValue? c with
    | none =>
      refine iff_of_false nofun ?_
      rintro ⟨ds, hds, -⟩
      cases ds with
      | nil => exact nomatch hds
      | cons d ds =>
        rw [List.map_cons, hc] at hds
        exact nomatch (List.cons.inj hds).1
    | some d =>
      -- the digit is put behind the value so far
      show List.foldlM _ (10 * value + d) cs = some n ↔ _
      rw [ih]
      constructor
      · rintro ⟨ds, hds, hvalue⟩
        exact ⟨d :: ds, by rw [List.map_cons, hc, hds, List.map_cons], hvalue⟩
      · rintro ⟨_ | ⟨e, ds⟩, hds, hvalue⟩
        · exact nomatch hds
        · rw [List.map_cons, hc] at hds
          obtain ⟨hd, htail⟩ := List.cons.inj hds
          obtain rfl := Option.some.inj hd
          exact ⟨ds, htail, hvalue⟩

theorem ofDigits_reverse (ds : List Nat) :
    Nat.ofDigits 10 ds.reverse = ds.foldl (fun n d => 10 * n + d) 0 := by
  rw [Nat.ofDigits_eq_foldr, List.foldr_reverse]
  have hstep : (fun x y : Nat => ((y : Nat) + 10 * x : Nat)) = fun n d => 10 * n + d := by
    funext x y
    exact Nat.add_comm y (10 * x)
  exact congrArg (fun f => List.foldl f 0 ds) hstep

theorem numeral?_of_long (h : maxNumeralLength < cs.length) : numeral? cs = none := by
  unfold numeral?
  rw [if_pos h]

/-- A short row of digits is read. -/
theorem exists_numeral? (h : ∀ c ∈ cs, ∃ d, decimalValue? c = some d)
    (hshort : cs.length ≤ maxNumeralLength) : ∃ n, numeral? cs = some n := by
  unfold numeral?
  rw [if_neg (Nat.not_lt.2 hshort)]
  clear hshort
  -- each digit goes on from the value so far, whatever it is
  generalize 0 = value
  induction cs generalizing value with
  | nil => exact ⟨value, rfl⟩
  | cons c cs ih =>
    obtain ⟨hc, hcs⟩ := List.forall_mem_cons.1 h
    obtain ⟨d, hd⟩ := hc
    rw [List.foldlM_cons, hd]
    exact ih hcs _

theorem numeral?_eq_some (hne : cs ≠ []) :
    numeral? cs = some n ↔ cs.length ≤ maxNumeralLength ∧ Denotes cs n := by
  by_cases hlong : maxNumeralLength < cs.length
  · rw [numeral?_of_long hlong]
    exact iff_of_false nofun fun h => absurd h.1 (Nat.not_le.2 hlong)
  · unfold numeral? Denotes
    rw [if_neg hlong, foldlM_decimalValue?_eq_some]
    simp only [ofDigits_reverse, Nat.not_lt.1 hlong, true_and]
    exact (and_iff_right hne).symm

theorem Denotes.decimal (h : Denotes cs n) : ∀ c ∈ cs, ∃ d, decimalValue? c = some d := by
  obtain ⟨-, ds, hds, -⟩ := h
  intro c hc
  have hmem : decimalValue? c ∈ ds.map some := hds ▸ List.mem_map_of_mem hc
  obtain ⟨d, -, hd⟩ := List.mem_map.1 hmem
  exact ⟨d, hd.symm⟩

/-- A number that a row of digits denotes is written with no more digits than there are in it. -/
theorem Denotes.length_le (h : Denotes cs n) : (toString n).length ≤ cs.length := by
  obtain ⟨hne, ds, hds, rfl⟩ := h
  have hlength : ds.reverse.length = cs.length := by
    simpa using (congrArg List.length hds).symm
  have hlt : ∀ d ∈ ds.reverse, d < 10 := by
    intro d hd
    have hmem : some d ∈ cs.map decimalValue? :=
      hds ▸ List.mem_map_of_mem (List.mem_reverse.1 hd)
    obtain ⟨c, -, hc⟩ := List.mem_map.1 hmem
    exact decimalValue?_lt hc
  have hbound := Nat.ofDigits_lt_base_pow_length (by decide : 1 < 10) hlt
  rw [hlength] at hbound
  show (Nat.repr _).length ≤ _
  rw [← String.length_toList, Nat.toList_repr]
  exact (Nat.length_toDigits_le_iff (by decide) (List.length_pos_iff.2 hne)).2 hbound

end InfoFlow.Text
