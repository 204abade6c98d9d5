import InfoFlow.Proofs.Json.RoundTrip
import InfoFlow.Proofs.Scan.Plain
import InfoFlow.Proofs.Text.Numerals
/-!
# Texts that are neither read as JSON nor refused

A text may be well formed and yet not be read: one that opens more lists than there is room for, and
an integer of more figures than are read.
-/

namespace InfoFlow.Json

open Scan

variable {cs : List Char}

/-- A value that opens more lists than that, or an integer of more figures than are read. -/
inductive Oversized (lists : Nat) : List Char → Prop where
  | nested (rest : List Char) : Oversized lists (List.replicate (lists + 1) '[' ++ rest)
  | long {d : Char} {ds : List Char} (nonzero : d ≠ '0')
    (figures : ∀ c ∈ d :: ds, isFigure c = true)
    (exceeds : Text.maxNumeralLength < (d :: ds).length) : Oversized lists (d :: ds)

/-! ## Too many lists -/

/-- A list takes two steps to come to its first item, one for the row of items and one for the item,
and fails as the item does. -/
theorem value_of_item {c : Char} {f : DocumentFault} {fuel room : Nat} (hspace : isSpace c = false)
    (hclose : c ≠ ']') (hitem : value fuel room (c :: cs) = .error f) :
    value (fuel + 2) (room + 1) ('[' :: c :: cs) = .error f := by
  have hopen : accept "[" ('[' :: c :: cs) = .ok (true, c :: cs) := accept_append "[" _
  have hskip : skipWhile isSpace (c :: cs) = .ok ((), c :: cs) := skipWhile_of_not hspace
  have hgoesOn : accept "]" (c :: cs) = .ok (false, c :: cs) := accept_of_ne rfl hclose
  have hitems : items (fuel + 1) room (c :: cs) = .error f := by
    rw [items]
    exact bind_of_error hitem _
  rw [value, bind_of_ok hopen]
  show (within (room + 1) 1 >>= _) (c :: cs) = _
  rw [bind_of_ok (within_succ room _), bind_of_ok hskip, bind_of_ok hgoesOn]
  exact bind_of_error hitems _

/-- Lists in lists, one more than there is room for. -/
theorem value_of_brackets {fuel room : Nat} (hfuel : 2 * room < fuel) (cs : List Char) :
    value fuel room (List.replicate (room + 1) '[' ++ cs) = .error .tooDeep := by
  induction room generalizing fuel with
  | zero =>
    cases fuel with
    | zero => exact absurd hfuel (Nat.lt_irrefl 0)
    | succ fuel => rfl
  | succ room ih =>
    obtain ⟨fuel, rfl⟩ : ∃ n, fuel = n + 2 := ⟨fuel - 2, by omega⟩
    have hinner : value fuel room ('[' :: (List.replicate room '[' ++ cs)) = .error .tooDeep :=
      ih (by omega)
    exact value_of_item rfl (by decide) hinner

/-- A document that begins with a value is refused as the value is. -/
theorem read_of_value {c : Char} {f : DocumentFault} {room : Nat} (hc : isSpace c = false)
    (h : value (2 * (c :: cs).length + 2) room (c :: cs) = .error f) :
    read room (c :: cs) = .error f := by
  have hskip : skipWhile isSpace (c :: cs) = .ok ((), c :: cs) := skipWhile_of_not hc
  refine run'_eq_error.2 ?_
  unfold document
  rw [bind_of_ok hskip]
  exact bind_of_error h _

/-- A text that begins with more brackets than there is room for is nested too deep. -/
theorem read_of_brackets (room : Nat) (cs : List Char) :
    read room (List.replicate (room + 1) '[' ++ cs) = .error .tooDeep := by
  have hvalue : value (2 * (List.replicate (room + 1) '[' ++ cs).length + 2) room
      (List.replicate (room + 1) '[' ++ cs) = .error .tooDeep := by
    apply value_of_brackets
    rw [List.length_append, List.length_replicate]
    omega
  rw [List.replicate_succ, List.cons_append] at hvalue ⊢
  exact read_of_value rfl hvalue

/-! ## Too many figures -/

variable {d : Char} {ds : List Char}

theorem ne_of_figure {c : Char} (hd : isFigure d = true) (hc : isFigure c = false) : d ≠ c := by
  rintro rfl
  exact nomatch hd.symm.trans hc

theorem word?_of_figure (hd : isFigure d = true) {ws : List (String × Value)}
    (hws : ∀ w ∈ ws, ∃ c, w.1.toList.head? = some c ∧ isFigure c = false) :
    word? ws (d :: ds) = .ok (none, d :: ds) := by
  induction ws with
  | nil => rfl
  | cons w ws ih =>
    obtain ⟨⟨c, hc, hfigure⟩, hws⟩ := List.forall_mem_cons.1 hws
    obtain ⟨cs, hcs⟩ := List.head?_eq_some_iff.1 hc
    have hword : accept w.1 (d :: ds) = .ok (false, d :: ds) :=
      accept_of_ne hcs (ne_of_figure hd hfigure)
    rw [word?, bind_of_ok hword]
    exact ih hws

theorem number_of_figures (hzero : d ≠ '0') (hfigures : ∀ c ∈ d :: ds, isFigure c = true)
    (hlong : Text.maxNumeralLength < (d :: ds).length) :
    number (d :: ds) = .error .numeralTooLong := by
  have hd : isFigure d = true := hfigures d List.mem_cons_self
  have hsign : accept "-" (d :: ds) = .ok (false, d :: ds) :=
    accept_of_ne rfl (ne_of_figure hd rfl)
  have hrow : whole (d :: ds) = .ok (d :: ds, []) := by
    have hnozero : accept "0" (d :: ds) = .ok (false, d :: ds) := accept_of_ne rfl hzero
    have htake : takeWhile isFigure (d :: ds) = .ok (d :: ds, []) := by
      unfold takeWhile
      rw [List.dropWhile_eq_nil_iff.2 hfigures, ← List.append_nil (d :: ds),
        List.takeWhile_append_of_pos hfigures]
      rfl
    unfold whole figures
    rw [bind_of_ok hnozero]
    show (takeWhile isFigure >>= _) (d :: ds) = _
    rw [bind_of_ok htake]
    rfl
  -- the row takes the whole text, so neither a fraction nor an exponent is left
  have hfraction : optional fraction [] = .ok (none, []) := rfl
  have hexponent : optional exponent [] = .ok (none, []) := rfl
  unfold number
  rw [bind_of_ok hsign, bind_of_ok hrow, bind_of_ok hfraction, bind_of_ok hexponent,
    Text.numeral?_of_long hlong]
  rfl

/-- An integer of more figures than are read. -/
theorem read_of_figures (room : Nat) (hzero : d ≠ '0')
    (hfigures : ∀ c ∈ d :: ds, isFigure c = true)
    (hlong : Text.maxNumeralLength < (d :: ds).length) :
    read room (d :: ds) = .error .numeralTooLong := by
  have hd : isFigure d = true := hfigures d List.mem_cons_self
  have hne {c : Char} : isFigure c = false → d ≠ c := ne_of_figure hd
  have hwords : word? words (d :: ds) = .ok (none, d :: ds) := by
    refine word?_of_figure hd ?_
    simp only [words, List.forall_mem_cons, List.not_mem_nil, false_implies, implies_true,
      and_true]
    exact ⟨⟨_, rfl, rfl⟩, ⟨_, rfl, rfl⟩, ⟨_, rfl, rfl⟩, ⟨_, rfl, rfl⟩, ⟨_, rfl, rfl⟩,
      ⟨_, rfl, rfl⟩⟩
  have hquote : accept "\"" (d :: ds) = .ok (false, d :: ds) := accept_of_ne rfl (hne rfl)
  have hspace : isSpace d = false := by
    refine Bool.eq_false_iff.2 fun h => ?_
    simp only [isSpace, Bool.or_eq_true, decide_eq_true_eq] at h
    obtain ((h | h) | h) | h := h <;> exact hne rfl h
  apply read_of_value hspace
  rw [value_of_scalar (hne rfl) (hne rfl)]
  unfold scalar
  rw [bind_of_ok hwords]
  show (accept "\"" >>= _) (d :: ds) = _
  rw [bind_of_ok hquote]
  exact number_of_figures hzero hfigures hlong

theorem read_of_oversized {room : Nat} (h : Oversized room cs) :
    ∃ f, read room cs = .error f ∧ f ≠ .malformed := by
  cases h with
  | nested rest => exact ⟨_, read_of_brackets room rest, nofun⟩
  | long nonzero figures exceeds => exact ⟨_, read_of_figures room nonzero figures exceeds, nofun⟩

end InfoFlow.Json
