import Mathlib.Algebra.Ring.Nat
import InfoFlow.Json.Reader
import InfoFlow.Json.Writer
import InfoFlow.Proofs.Scan
/-!
# Strings are read back

A character that is written inside a string is read back from the front of what follows, whether it
stands there by itself, under a short escape, or as one unit or two. So a string that is written is
read back up to its closing quote.
-/

namespace InfoFlow.Json

open Text

/-! ## Units -/

theorem hexValue?_digitChar {d : Nat} (hd : d < 16) : hexValue? d.digitChar = some d := by
  revert d
  decide

theorem hexNumber?_hexDigits {width n : Nat} (hn : n < 16 ^ width) :
    hexNumber? (hexDigits width n) = some n := by
  induction width generalizing n with
  | zero =>
    obtain rfl : n = 0 := by omega
    rfl
  | succ width ih =>
    have hfront : n / 16 < 16 ^ width := by
      rw [Nat.pow_succ] at hn
      omega
    have hlast : n % 16 < 16 := Nat.mod_lt n (by decide)
    have hrec := ih hfront
    unfold hexNumber? at hrec ⊢
    rw [hexDigits, List.foldlM_append, hrec, Option.bind_eq_bind, Option.bind_some,
      List.foldlM_cons, hexValue?_digitChar hlast]
    show some (16 * (n / 16) + n % 16) = some n
    rw [Nat.div_add_mod]

theorem unit_hexDigits {n : Nat} (hn : n < 0x10000) (rest : List Char) :
    unit (hexDigits 4 n ++ rest) = .ok (n, rest) := by
  unfold unit
  rw [Scan.bind_of_ok (Scan.take_append (length_hexDigits 4 n) rest), hexNumber?_hexDigits hn]
  rfl

theorem lowUnit_unitText {n : Nat} (hlow : isLowUnit n = true) (hn : n < 0x10000)
    (rest : List Char) : lowUnit (unitText n ++ rest) = .ok (n, rest) := by
  have hmark := Scan.expect_append "\\u" (hexDigits 4 n ++ rest)
  unfold lowUnit
  rw [show unitText n ++ rest = "\\u".toList ++ (hexDigits 4 n ++ rest) from rfl,
    Scan.bind_of_ok hmark, Scan.bind_of_ok (unit_hexDigits hn rest), hlow]
  rfl

/-! ## Characters -/

theorem not_isUnit (c : Char) : isHighUnit c.toNat = false ∧ isLowUnit c.toNat = false := by
  have hvalid : c.toNat < 0xd800 ∨ 0xdfff < c.toNat ∧ c.toNat < 0x110000 := c.valid
  unfold isHighUnit isLowUnit
  simp only [Bool.and_eq_false_iff, decide_eq_false_iff_not]
  omega

theorem unitChar_toNat (c : Char) : unitChar c.toNat = pure c := by
  obtain ⟨hhigh, hlow⟩ := not_isUnit c
  unfold unitChar
  rw [hhigh, hlow, Char.ofNat_toNat]
  rfl

/-- The two units of a character above the 16-bit ones. -/
theorem pair_units {c : Char} (hc : 0x10000 ≤ c.toNat) :
    isHighUnit (0xd800 + (c.toNat - 0x10000) / 0x400) = true ∧
      isLowUnit (0xdc00 + (c.toNat - 0x10000) % 0x400) = true ∧
      joinUnits (0xd800 + (c.toNat - 0x10000) / 0x400) (0xdc00 + (c.toNat - 0x10000) % 0x400) =
        c := by
  have hvalid : c.toNat < 0xd800 ∨ 0xdfff < c.toNat ∧ c.toNat < 0x110000 := c.valid
  refine ⟨?_, ?_, ?_⟩
  · unfold isHighUnit
    rw [Bool.and_eq_true, decide_eq_true_eq, decide_eq_true_eq]
    omega
  · unfold isLowUnit
    rw [Bool.and_eq_true, decide_eq_true_eq, decide_eq_true_eq]
    omega
  · have hjoined : 0x10000 + (0xd800 + (c.toNat - 0x10000) / 0x400 - 0xd800) * 0x400 +
        (0xdc00 + (c.toNat - 0x10000) % 0x400 - 0xdc00) = c.toNat := by omega
    unfold joinUnits
    rw [hjoined, Char.ofNat_toNat]

theorem unitEscape_single {c : Char} (hc : c.toNat < 0x10000) (rest : List Char) :
    unitEscape (hexDigits 4 c.toNat ++ rest) = .ok (c, rest) := by
  unfold unitEscape
  rw [Scan.bind_of_ok (unit_hexDigits hc rest), (not_isUnit c).1, unitChar_toNat]
  rfl

theorem unitEscape_pair {c : Char} (hc : 0x10000 ≤ c.toNat) (rest : List Char) :
    unitEscape (hexDigits 4 (0xd800 + (c.toNat - 0x10000) / 0x400) ++
      (unitText (0xdc00 + (c.toNat - 0x10000) % 0x400) ++ rest)) = .ok (c, rest) := by
  have hvalid : c.toNat < 0xd800 ∨ 0xdfff < c.toNat ∧ c.toNat < 0x110000 := c.valid
  obtain ⟨hhigh, hlow, hjoin⟩ := pair_units hc
  unfold unitEscape
  rw [Scan.bind_of_ok (unit_hexDigits (by omega) _), hhigh]
  have hsecond := Scan.optional_of_ok (lowUnit_unitText hlow (by omega) rest)
  show (Scan.optional lowUnit >>= _) _ = _
  rw [Scan.bind_of_ok hsecond]
  show Except.ok (joinUnits _ _, rest) = _
  rw [hjoin]

/-- A letter after a backslash, if it does not begin a unit. -/
theorem escape_short {letter c : Char} (hletter : letter ≠ 'u') (h : shortEscape? letter = some c)
    (rest : List Char) : escape (letter :: rest) = .ok (c, rest) := by
  unfold escape
  rw [Scan.bind_of_ok (Scan.take_one letter rest)]
  simp only [h]
  rfl

theorem escape_unit (cs : List Char) : escape ('u' :: cs) = unitEscape cs := rfl

/-! ## Strings -/

theorem stringRest_escape {cs rest : List Char} {c : Char} (h : escape cs = .ok (c, rest))
    (fuel : Nat) (done : List Char) :
    stringRest (fuel + 1) done ('\\' :: cs) = stringRest fuel (c :: done) rest := by
  rw [stringRest, Scan.bind_of_ok (Scan.take_one '\\' cs)]
  show (escape >>= _) cs = _
  rw [Scan.bind_of_ok h]

theorem stringRest_plain {c : Char} (hquote : c ≠ '"') (hback : c ≠ '\\')
    (hprinted : 0x20 ≤ c.toNat) (fuel : Nat) (done rest : List Char) :
    stringRest (fuel + 1) done (c :: rest) = stringRest fuel (c :: done) rest := by
  rw [stringRest, Scan.bind_of_ok (Scan.take_one c rest)]
  simp only [decide_eq_true hprinted]
  rfl

theorem stringRest_escapeChar (c : Char) (fuel : Nat) (done rest : List Char) :
    stringRest (fuel + 1) done (escapeChar c ++ rest) = stringRest fuel (c :: done) rest := by
  have hescape {cs : List Char} (h : escape cs = .ok (c, rest)) :
      stringRest (fuel + 1) done ('\\' :: cs) = stringRest fuel (c :: done) rest :=
    stringRest_escape h fuel done
  unfold escapeChar
  simp only
  -- a quote or a backslash, then the characters with a letter of their own, then those that are
  -- written as they are, and then those that are written as one unit or two
  split
  · next hc =>
    rcases hc with rfl | rfl <;> exact hescape (escape_short (by decide) (by decide) rest)
  next hc =>
  rw [not_or] at hc
  split
  · next hc => exact hescape (escape_short (by decide) (hc ▸ by decide) rest)
  split
  · next hc => exact hescape (escape_short (by decide) (hc ▸ by decide) rest)
  split
  · next hc => exact hescape (escape_short (by decide) (hc ▸ by decide) rest)
  split
  · next hc => exact hescape (escape_short (by decide) (hc ▸ by decide) rest)
  split
  · next hc => exact hescape (escape_short (by decide) (hc ▸ by decide) rest)
  split
  · next hprinted => exact stringRest_plain hc.1 hc.2 hprinted.1 fuel done rest
  split
  · next hsingle =>
    exact hescape ((escape_unit _).trans (unitEscape_single hsingle rest))
  · next hpair =>
    rw [List.append_assoc]
    exact hescape ((escape_unit _).trans (unitEscape_pair (Nat.not_lt.1 hpair) rest))

theorem escapeChar_ne_nil (c : Char) : escapeChar c ≠ [] := by
  unfold escapeChar unitText
  simp only
  repeat' split
  all_goals exact List.cons_ne_nil _ _

theorem stringRest_flatMap (cs : List Char) {fuel : Nat}
    (hfuel : (cs.flatMap escapeChar).length < fuel) (done rest : List Char) :
    stringRest fuel done (cs.flatMap escapeChar ++ '"' :: rest) =
      .ok (String.ofList (done.reverse ++ cs), rest) := by
  -- by the characters of the string, each of which takes one step of reading and is written with
  -- one character at least
  induction cs generalizing fuel done with
  | nil =>
    cases fuel with
    | zero => exact absurd hfuel (Nat.not_lt_zero _)
    | succ fuel =>
      rw [List.append_nil]
      rfl
  | cons c cs ih =>
    cases fuel with
    | zero => exact absurd hfuel (Nat.not_lt_zero _)
    | succ fuel =>
      have hpos : 0 < (escapeChar c).length := List.length_pos_iff.2 (escapeChar_ne_nil c)
      rw [List.flatMap_cons, List.length_append] at hfuel
      rw [List.flatMap_cons, List.append_assoc, stringRest_escapeChar, ih (by omega),
        List.reverse_cons, List.append_assoc]
      rfl

/-- A string that is written is read back, whatever follows it. -/
theorem string_stringText (s : String) (rest : List Char) :
    ∃ body, (stringText s).toList = '"' :: body ∧ string (body ++ rest) = .ok (s, rest) := by
  refine ⟨s.toList.flatMap escapeChar ++ ['"'], String.toList_ofList, ?_⟩
  have hlength : (s.toList.flatMap escapeChar).length <
      (s.toList.flatMap escapeChar ++ '"' :: rest).length := by
    rw [List.length_append, List.length_cons]
    omega
  unfold string
  rw [List.append_assoc, List.singleton_append, stringRest_flatMap _ hlength]
  show Except.ok (String.ofList s.toList, rest) = _
  rw [String.ofList_toList]

end InfoFlow.Json
