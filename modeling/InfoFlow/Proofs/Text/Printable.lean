import InfoFlow.Proofs.Text.Terminal
import InfoFlow.Text.Quoted
/-!
# Texts that print

A text prints when each of its characters does. Whatever a text holds, it prints between quotes,
because the characters that do not print are escaped. A text that prints holds no terminal sequence,
and is written as it is.
-/

namespace InfoFlow.Text

/-! ## Characters -/

theorem isPrintable_of_ascii {c : Char} (hlow : 0x20 ≤ c.toNat) (hhigh : c.toNat < 0x7f) :
    isPrintable c = true := by
  unfold isPrintable
  rw [if_pos hhigh]
  exact decide_eq_true hlow

theorem isPrintable_of_isDigit {c : Char} (h : c.isDigit = true) : isPrintable c = true := by
  obtain ⟨hlow, hhigh⟩ := Char.isDigit_iff_toNat.1 h
  have hzero : '0'.toNat = 0x30 := rfl
  have hnine : '9'.toNat = 0x39 := rfl
  exact isPrintable_of_ascii (by omega) (by omega)

theorem isPrintable_of_isAlpha {c : Char} (h : c.isAlpha = true) : isPrintable c = true := by
  have hrange : 'A'.toNat ≤ c.toNat ∧ c.toNat ≤ 'Z'.toNat ∨ 'a'.toNat ≤ c.toNat ∧
      c.toNat ≤ 'z'.toNat := by
    unfold Char.isAlpha Char.isUpper Char.isLower at h
    simp only [Bool.or_eq_true, Bool.and_eq_true, decide_eq_true_eq, ge_iff_le,
      UInt32.le_iff_toNat_le] at h
    exact h
  have hupper : 'A'.toNat = 0x41 ∧ 'Z'.toNat = 0x5a := ⟨rfl, rfl⟩
  have hlower : 'a'.toNat = 0x61 ∧ 'z'.toNat = 0x7a := ⟨rfl, rfl⟩
  exact isPrintable_of_ascii (by omega) (by omega)

theorem isPrintable_digitChar {d : Nat} (hd : d < 16) : isPrintable d.digitChar = true := by
  revert d
  decide

theorem isPrintable_of_mem_hexDigits {c : Char} {width n : Nat} (h : c ∈ hexDigits width n) :
    isPrintable c = true := by
  induction width generalizing n with
  | zero => exact nomatch h
  | succ width ih =>
    rcases List.mem_append.1 h with h | h
    · exact ih h
    · rw [List.mem_singleton.1 h]
      exact isPrintable_digitChar (Nat.mod_lt n (by decide))

theorem isPrintable_quoteMark (cs : List Char) : isPrintable (quoteMark cs) = true := by
  unfold quoteMark
  split <;> decide

theorem isPrintable_of_mem_escaped {mark c e : Char} (hmark : isPrintable mark = true)
    (he : e ∈ escaped mark c) : isPrintable e = true := by
  -- an escape is made of a backslash, a letter and digits; any other character prints
  have hescape {letter : Char} {digits : List Char} (hletter : isPrintable letter = true)
      (hdigits : ∀ d ∈ digits, isPrintable d = true) (he : e ∈ '\\' :: letter :: digits) :
      isPrintable e = true := by
    rcases List.mem_cons.1 he with rfl | he
    · decide
    rcases List.mem_cons.1 he with rfl | he
    · exact hletter
    · exact hdigits e he
  have hnone : ∀ d ∈ ([] : List Char), isPrintable d = true := fun _ h => nomatch h
  have hhex (width : Nat) : ∀ d ∈ hexDigits width c.toNat, isPrintable d = true :=
    fun _ => isPrintable_of_mem_hexDigits
  unfold escaped at he
  split at he
  · next hc =>
    rcases hc with rfl | rfl
    · exact hescape (by decide) hnone he
    · exact hescape hmark hnone he
  split at he
  · exact hescape (by decide) hnone he
  split at he
  · exact hescape (by decide) hnone he
  split at he
  · exact hescape (by decide) hnone he
  split at he
  · next hc =>
    rw [List.mem_singleton.1 he]
    exact hc
  split at he
  · exact hescape (by decide) (hhex 2) he
  split at he
  · exact hescape (by decide) (hhex 4) he
  · exact hescape (by decide) (hhex 8) he

/-! ## Texts -/

/-- Every character of a text prints. -/
def Prints (s : String) : Prop := ∀ c ∈ s.toList, isPrintable c = true

instance (s : String) : Decidable (Prints s) :=
  List.decidableBAll (fun c => isPrintable c = true) s.toList

theorem Prints.append {s t : String} (hs : Prints s) (ht : Prints t) : Prints (s ++ t) := by
  intro c hc
  rw [String.toList_append] at hc
  rcases List.mem_append.1 hc with hc | hc
  · exact hs c hc
  · exact ht c hc

theorem Prints.intercalate {sep : String} {l : List String} (hsep : Prints sep)
    (hl : ∀ s ∈ l, Prints s) : Prints (String.intercalate sep l) := by
  induction l with
  | nil => exact fun c hc => nomatch hc
  | cons s l ih =>
    have hs : Prints s := hl s List.mem_cons_self
    have hrest : Prints (String.intercalate sep l) :=
      ih fun t ht => hl t (List.mem_cons_of_mem s ht)
    cases l with
    | nil => exact hs
    | cons t l =>
      rw [String.intercalate_cons_cons]
      exact (hs.append hsep).append hrest

theorem prints_quoted (s : String) : Prints (quoted s) := by
  intro c hc
  rw [toList_quoted] at hc
  rcases List.mem_append.1 hc with hc | hc
  · rcases List.mem_cons.1 hc with rfl | hc
    · exact isPrintable_quoteMark _
    · obtain ⟨d, -, hd⟩ := List.mem_flatMap.1 hc
      exact isPrintable_of_mem_escaped (isPrintable_quoteMark _) hd
  · rw [List.mem_singleton.1 hc]
    exact isPrintable_quoteMark _

theorem prints_toString_nat (n : Nat) : Prints (toString n) := by
  intro c hc
  rw [show (toString n).toList = Nat.toDigits 10 n from Nat.toList_repr] at hc
  exact isPrintable_of_isDigit (Nat.isDigit_of_mem_toDigits (by decide) (by decide) hc)

/-- A text that prints is written as it is. -/
theorem KeepsPlain.eq_of_prints {echo : String → String} (hecho : KeepsPlain echo) {s : String}
    (hs : Prints s) : echo s = s := by
  apply hecho.eq_self
  intro hstart
  exact absurd (hs _ hstart) (by decide)

end InfoFlow.Text
