import InfoFlow.Text.Quoted
import Mathlib.Algebra.Ring.Nat
/-!
# Quoted texts can be read back

A character between quotes is read back from the front of what follows, and none of its written
forms starts with the quote in use. Therefore a quoted text ends where it says it does, and two
quoted texts that agree up to there are equal.
-/

namespace InfoFlow.Text

/-! ## Hexadecimal digits -/

def hexDigitValue (c : Char) : Nat := if c.isDigit then c.toNat - 48 else c.toNat - 87

def hexValue (cs : List Char) : Nat := cs.foldl (fun v c => 16 * v + hexDigitValue c) 0

theorem hexDigitValue_digitChar (d : Nat) (hd : d < 16) : hexDigitValue d.digitChar = d := by
  revert d
  decide

theorem hexValue_hexDigits (width n : Nat) (hn : n < 16 ^ width) :
    hexValue (hexDigits width n) = n := by
  induction width generalizing n with
  | zero =>
    have h0 : n = 0 := by omega
    rw [h0]
    rfl
  | succ width ih =>
    have hq : n / 16 < 16 ^ width := by
      rw [Nat.pow_succ] at hn
      omega
    have hr : n % 16 < 16 := Nat.mod_lt n (by decide)
    have hrec := ih (n / 16) hq
    unfold hexValue at hrec ⊢
    rw [hexDigits, List.foldl_append, hrec, List.foldl_cons, List.foldl_nil,
      hexDigitValue_digitChar _ hr]
    omega

/-! ## Single characters -/

/-- The code point that the front of a row of characters stands for, and what follows. -/
def unescape : List Char → Option (Nat × List Char)
  | [] => none
  | '\\' :: 'n' :: r => some (10, r)
  | '\\' :: 'r' :: r => some (13, r)
  | '\\' :: 't' :: r => some (9, r)
  | '\\' :: 'x' :: r => some (hexValue (r.take 2), r.drop 2)
  | '\\' :: 'u' :: r => some (hexValue (r.take 4), r.drop 4)
  | '\\' :: 'U' :: r => some (hexValue (r.take 8), r.drop 8)
  | '\\' :: c :: r => some (c.toNat, r)
  | c :: r => some (c.toNat, r)

/-- The quotes that may enclose a text. -/
def IsQuote (mark : Char) : Prop := mark = '\'' ∨ mark = '"'

theorem isQuote_quoteMark (cs : List Char) : IsQuote (quoteMark cs) := by
  unfold quoteMark
  split
  · exact .inr rfl
  · exact .inl rfl

theorem unescape_plain {c : Char} (hc : c ≠ '\\') (r : List Char) :
    unescape (c :: r) = some (c.toNat, r) := by
  unfold unescape
  split <;> simp_all

/-- Digits of a fixed width are read back as what they stand for and what follows them. -/
theorem some_hexDigits (width n : Nat) (hn : n < 16 ^ width) (r : List Char) :
    some (hexValue ((hexDigits width n ++ r).take width), (hexDigits width n ++ r).drop width) =
      some (n, r) := by
  have hlength : (hexDigits width n).length = width := length_hexDigits width n
  rw [List.take_left' hlength, List.drop_left' hlength, hexValue_hexDigits width n hn]

theorem toNat_lt_hex (c : Char) : c.toNat < 16 ^ 8 := by
  have h : c.toNat < 2 ^ 32 := c.val.toNat_lt
  omega

/-- A written character is read back, whatever follows it. -/
theorem unescape_escaped {mark : Char} (hmark : IsQuote mark) (c : Char) (r : List Char) :
    unescape (escaped mark c ++ r) = some (c.toNat, r) := by
  unfold escaped
  split
  · next h =>
    rcases h with rfl | rfl
    · rfl
    · rcases hmark with rfl | rfl <;> rfl
  · next h =>
    rw [not_or] at h
    split
    · next hc => rw [hc]; rfl
    split
    · next hc => rw [hc]; rfl
    split
    · next hc => rw [hc]; rfl
    split
    · exact unescape_plain h.1 r
    -- what is left has no form of its own and is written in as many digits as it needs
    split
    · next hc => exact some_hexDigits 2 c.toNat (by omega) r
    split
    · next hc => exact some_hexDigits 4 c.toNat (by omega) r
    · exact some_hexDigits 8 c.toNat (toNat_lt_hex c) r

theorem escaped_append_inj {mark c d : Char} {r r' : List Char} (hmark : IsQuote mark)
    (h : escaped mark c ++ r = escaped mark d ++ r') : c = d ∧ r = r' := by
  have hread := congrArg unescape h
  rw [unescape_escaped hmark, unescape_escaped hmark] at hread
  obtain ⟨hcd, hr⟩ := Prod.mk.inj (Option.some.inj hread)
  exact ⟨Char.toNat_inj.mp hcd, hr⟩

/-- No written character starts with the quote in use. -/
theorem escaped_eq_cons {mark : Char} (hmark : IsQuote mark) (c : Char) :
    ∃ h t, escaped mark c = h :: t ∧ h ≠ mark := by
  have hback : '\\' ≠ mark := by
    rcases hmark with rfl | rfl <;> decide
  by_cases hc : c = '\\' ∨ c = mark
  · exact ⟨'\\', [c], by rw [escaped, if_pos hc], hback⟩
  · unfold escaped
    rw [if_neg hc]
    split
    · exact ⟨_, _, rfl, hback⟩
    split
    · exact ⟨_, _, rfl, hback⟩
    split
    · exact ⟨_, _, rfl, hback⟩
    split
    · exact ⟨_, _, rfl, fun h => hc (.inr h)⟩
    split
    · exact ⟨_, _, rfl, hback⟩
    split
    · exact ⟨_, _, rfl, hback⟩
    · exact ⟨_, _, rfl, hback⟩

/-! ## Texts -/

theorem flatMap_escaped_append_inj {mark : Char} {cs ds r r' : List Char} (hmark : IsQuote mark)
    (h : cs.flatMap (escaped mark) ++ mark :: r = ds.flatMap (escaped mark) ++ mark :: r') :
    cs = ds ∧ r = r' := by
  induction cs generalizing ds with
  | nil =>
    cases ds with
    | nil => exact ⟨rfl, (List.cons.inj h).2⟩
    | cons d ds =>
      -- one text ends here, and the other would have to go on with its quote
      obtain ⟨e, t, he, hne⟩ := escaped_eq_cons hmark d
      rw [List.flatMap_cons, he] at h
      exact absurd (List.cons.inj h).1.symm hne
  | cons c cs ih =>
    cases ds with
    | nil =>
      obtain ⟨e, t, he, hne⟩ := escaped_eq_cons hmark c
      rw [List.flatMap_cons, he] at h
      exact absurd (List.cons.inj h).1 hne
    | cons d ds =>
      rw [List.flatMap_cons, List.flatMap_cons, List.append_assoc, List.append_assoc] at h
      obtain ⟨rfl, hrest⟩ := escaped_append_inj hmark h
      obtain ⟨rfl, hr⟩ := ih hrest
      exact ⟨rfl, hr⟩

/-- A quoted text is told from what follows it, and so is the text itself. -/
theorem quotedChars_append_inj {cs ds r r' : List Char}
    (h : quotedChars cs ++ r = quotedChars ds ++ r') : cs = ds ∧ r = r' := by
  unfold quotedChars at h
  simp only [List.cons_append, List.append_assoc, List.nil_append] at h
  obtain ⟨hmark, hbody⟩ := List.cons.inj h
  rw [hmark] at hbody
  exact flatMap_escaped_append_inj (isQuote_quoteMark ds) hbody

end InfoFlow.Text
