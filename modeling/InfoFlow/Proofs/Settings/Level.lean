import InfoFlow.Settings
import InfoFlow.Proofs.Text.Margins
import InfoFlow.Proofs.Text.Numerals
/-!
# Which values give a logging level

A level is given by its number, or by a text that has its name in any case, or the digits of its
number, between blanks. Any other value is reported, with a few exceptions that no message is made
for: digits that stand in no numeral, a numeral that is too long, and a value with an integer in it
that cannot be quoted.
-/

namespace InfoFlow

/-! ## Names and digits -/

namespace Text

variable {c : Char} {cs : List Char} {name : String}

/-- Some characters write a name in any case: each goes up to the next letters of the name. -/
def WritesName (cs : List Char) (name : String) : Prop := cs.flatMap upperChar = name.toList

theorem isDigits_iff {s : String} :
    isDigits s = true ↔ s.toList ≠ [] ∧ ∀ c ∈ s.toList, isDigit c = true := by
  unfold isDigits
  rw [Bool.and_eq_true, Bool.not_eq_true', String.isEmpty_eq_false_iff, List.all_eq_true]
  exact and_congr_left' (not_congr String.toList_eq_nil_iff.symm)

theorem isDigit_of_decimal (h : ∃ d, decimalValue? c = some d) : isDigit c = true := by
  obtain ⟨d, hd⟩ := h
  unfold isDigit
  rw [hd]
  rfl

theorem not_isBlank_of_isDigit (h : isDigit c = true) : isBlank c = false := by
  have hblank : ∀ p ∈ blankPoints, isDigit (Char.ofNat p) = false := by decide +kernel
  rw [Bool.eq_false_iff, isBlank, ne_eq, List.contains_iff_mem]
  intro hmem
  have hnot := hblank c.toNat hmem
  rw [Char.ofNat_toNat, h] at hnot
  exact Bool.false_ne_true hnot.symm

/-- What goes up to capital letters is a letter: an ASCII one, or one of those outside ASCII that go
up to some. -/
theorem letter_of_upperChar (h : ∀ d ∈ upperChar c, 'A' ≤ d ∧ d ≤ 'Z') :
    (∃ ds, (c, ds) ∈ upperImages) ∨ 65 ≤ c.toNat ∧ c.toNat < 123 := by
  cases hlookup : upperImages.lookup c with
  | some ds =>
    obtain ⟨_, _, himages, -⟩ := List.lookup_eq_some_iff.1 hlookup
    refine .inl ⟨ds, ?_⟩
    rw [himages]
    exact List.mem_append_right _ List.mem_cons_self
  | none =>
    have hupper : upperChar c = [c.toUpper] := by
      unfold upperChar
      rw [hlookup]
      rfl
    rw [hupper] at h
    obtain ⟨hleast, hgreatest⟩ := h c.toUpper List.mem_cons_self
    refine .inr ?_
    -- a small letter stands above the capital ones, and any other character goes up to itself
    unfold Char.toUpper at hleast hgreatest
    split at hleast
    · next hsmall =>
      have hlow : (97 : Nat) ≤ c.toNat := hsmall.1
      have hhigh : c.toNat ≤ 122 := hsmall.2
      omega
    · next hsmall =>
      rw [dif_neg hsmall] at hgreatest
      have hlow : (65 : Nat) ≤ c.toNat := hleast
      have hhigh : c.toNat ≤ 90 := hgreatest
      omega

theorem not_isBlank_isDigit_of_letter
    (h : (∃ ds, (c, ds) ∈ upperImages) ∨ 65 ≤ c.toNat ∧ c.toNat < 123) :
    isBlank c = false ∧ isDigit c = false := by
  rcases h with ⟨ds, himage⟩ | hrange
  · have himages : ∀ e ∈ upperImages, isBlank e.1 = false ∧ isDigit e.1 = false := by
      decide +kernel
    exact himages (c, ds) himage
  · have hletters : ∀ p < 123, 65 ≤ p →
        isBlank (Char.ofNat p) = false ∧ isDigit (Char.ofNat p) = false := by decide +kernel
    have hc := hletters c.toNat hrange.2 hrange.1
    rwa [Char.ofNat_toNat] at hc

/-- The name of a level is written in letters, none of which is a blank or a digit. -/
theorem letter_of_writesName {n : Nat} (hknown : (name, n) ∈ levelNames)
    (hwrites : WritesName cs name) : ∀ c ∈ cs, isBlank c = false ∧ isDigit c = false := by
  have hletters : ∀ e ∈ levelNames, e.1.toList.all (fun d => 'A' ≤ d ∧ d ≤ 'Z') = true := by
    decide
  intro c hc
  apply not_isBlank_isDigit_of_letter
  apply letter_of_upperChar
  intro d hd
  have hmem : d ∈ cs.flatMap upperChar := List.mem_flatMap.2 ⟨c, hc, hd⟩
  rw [hwrites] at hmem
  exact of_decide_eq_true (List.all_eq_true.1 (hletters (name, n) hknown) d hmem)

end Text

/-! ## Values that give a level -/

/-- The number of a level that has a name. -/
def IsLevel (n : Nat) : Prop := ∃ name, (name, n) ∈ levelNames

/-- A value stands for a level: it is its number, or a text that frames its name in any case or the
digits of its number. -/
inductive Value.GivesLevel : Value → Nat → Prop where
  | number {n : Nat} (known : IsLevel n) : GivesLevel (.int n) n
  | name {s : String} {cs : List Char} {name : String} {n : Nat} (frames : Text.Frames s cs)
    (writes : Text.WritesName cs name) (known : (name, n) ∈ levelNames) : GivesLevel (.text s) n
  | numeral {s : String} {cs : List Char} {n : Nat} (frames : Text.Frames s cs)
    (denotes : Text.Denotes cs n) (known : IsLevel n) : GivesLevel (.text s) n

/-- A value is one that no message tells of: a text that frames digits, one of which stands in no
numeral, or too many of them, or a value that cannot be quoted. -/
inductive Value.GoesUntold : Value → Prop where
  | figure {s : String} {cs : List Char} (frames : Text.Frames s cs)
    (digits : ∀ c ∈ cs, Text.isDigit c = true) (figure : ∃ c ∈ cs, Text.decimalValue? c = none) :
    GoesUntold (.text s)
  | long {s : String} {cs : List Char} (frames : Text.Frames s cs)
    (digits : ∀ c ∈ cs, Text.isDigit c = true) (long : Text.maxNumeralLength < cs.length) :
    GoesUntold (.text s)
  | unquotable {v : Value} (h : v.isQuotable = false) : GoesUntold v

/-- A level is read as it is told: it is the one that the value stands for, and a value that stands
for none is reported. -/
structure Value.ReadsAsLevel (v : Value) (read : Except SettingFault Nat) : Prop where
  given : ∀ n, read = .ok n ↔ v.GivesLevel n
  reported : (∀ n, ¬v.GivesLevel n) → ∃ w, read = .error (.level w) ∧ w.isQuotable = true

/-- What reading a level comes to for a value: a level or a report as it is told, or a fault that no
message is made for. -/
inductive Value.LevelRead (v : Value) : Except SettingFault Nat → Prop where
  | given {n : Nat} (told : ¬v.GoesUntold) (unique : ∀ m, v.GivesLevel m ↔ m = n) :
    LevelRead v (.ok n)
  | reported {w : Value} (told : ¬v.GoesUntold) (none : ∀ n, ¬v.GivesLevel n)
    (quotable : w.isQuotable = true) : LevelRead v (.error (.level w))
  | untold {f : SettingFault} (untold : v.GoesUntold) (unworded : f.isWorded = false) :
    LevelRead v (.error f)

/-! ## Levels by number -/

section

variable {i : Int} {n : Nat}

theorem levelOfInt_of_isLevel (h : IsLevel n) : levelOfInt n = .ok n := by
  obtain ⟨name, hmem⟩ := h
  unfold levelOfInt
  cases hfind : levelNames.find? fun e => (e.2 : Int) = n with
  | none =>
    have hne := List.find?_eq_none.1 hfind (name, n) hmem
    exact absurd (decide_eq_true rfl) hne
  | some e =>
    have he := List.find?_some hfind
    exact congrArg Except.ok (Int.ofNat.inj (of_decide_eq_true he))

theorem levelOfInt_of_not_isLevel (h : ∀ n : Nat, i = n → ¬IsLevel n) :
    levelOfInt i = .error (.level (.int i)) := by
  have hnone : levelNames.find? (fun e => (e.2 : Int) = i) = none := by
    rw [List.find?_eq_none]
    intro e he hi
    exact h e.2 (of_decide_eq_true hi).symm ⟨e.1, he⟩
  unfold levelOfInt
  rw [hnone]

theorem isQuotable_of_isLevel (h : IsLevel n) : (Value.int n).isQuotable = true := by
  obtain ⟨name, hmem⟩ := h
  have hshort : ∀ e ∈ levelNames, (Value.int (e.2 : Int)).isQuotable = true := by decide
  exact hshort (name, n) hmem

theorem givesLevel_int_iff : (Value.int i).GivesLevel n ↔ i = n ∧ IsLevel n := by
  constructor
  · rintro ⟨known⟩
    exact ⟨rfl, known⟩
  · rintro ⟨rfl, known⟩
    exact .number known

theorem levelRead_int (i : Int) : (Value.int i).LevelRead (levelOfInt i) := by
  have huntold : (Value.int i).GoesUntold ↔ (Value.int i).isQuotable = false := by
    constructor
    · rintro (_ | _ | h)
      exact h
    · exact .unquotable
  by_cases hlevel : ∃ n : Nat, i = n ∧ IsLevel n
  · obtain ⟨n, rfl, hn⟩ := hlevel
    rw [levelOfInt_of_isLevel hn]
    refine .given ?_ fun m => ?_
    · rw [huntold, isQuotable_of_isLevel hn]
      exact Bool.false_ne_true.symm
    · rw [givesLevel_int_iff]
      constructor
      · exact fun h => (Int.ofNat.inj h.1).symm
      · rintro rfl
        exact ⟨rfl, hn⟩
  · rw [levelOfInt_of_not_isLevel fun n hi hn => hlevel ⟨n, hi, hn⟩]
    cases hquotable : (Value.int i).isQuotable with
    | false => exact .untold (huntold.2 hquotable) hquotable
    | true =>
      refine .reported ?_ (fun n hn => hlevel ⟨n, givesLevel_int_iff.1 hn⟩) hquotable
      rw [huntold, hquotable]
      exact Bool.false_ne_true.symm

end

/-! ## Levels by text -/

section

variable {s : String} {n : Nat}

/-- Of a text that gives a level, it is what stripping leaves that does. -/
theorem givesLevel_text_iff :
    (Value.text s).GivesLevel n ↔
      (∃ name, Text.WritesName (Text.strip s).toList name ∧ (name, n) ∈ levelNames) ∨
        Text.Denotes (Text.strip s).toList n ∧ IsLevel n := by
  constructor
  · rintro (_ | ⟨hframes, hwrites, hknown⟩ | ⟨hframes, hdenotes, hknown⟩)
    · rw [hframes.toList_strip fun c hc => (Text.letter_of_writesName hknown hwrites c hc).1]
      exact .inl ⟨_, hwrites, hknown⟩
    · have hdigits := fun c hc => Text.isDigit_of_decimal (hdenotes.decimal c hc)
      rw [hframes.toList_strip fun c hc => Text.not_isBlank_of_isDigit (hdigits c hc)]
      exact .inr ⟨hdenotes, hknown⟩
  · rintro (⟨name, hwrites, hknown⟩ | ⟨hdenotes, hknown⟩)
    · exact .name (Text.frames_strip s) hwrites hknown
    · exact .numeral (Text.frames_strip s) hdenotes hknown

/-- Of a text that is not told of, it is what stripping leaves that cannot be read. -/
theorem goesUntold_text_iff :
    (Value.text s).GoesUntold ↔ (∀ c ∈ (Text.strip s).toList, Text.isDigit c = true) ∧
      ((∃ c ∈ (Text.strip s).toList, Text.decimalValue? c = none) ∨
        Text.maxNumeralLength < (Text.strip s).toList.length) := by
  have hstrip {cs : List Char} (hframes : Text.Frames s cs)
      (hdigits : ∀ c ∈ cs, Text.isDigit c = true) : (Text.strip s).toList = cs :=
    hframes.toList_strip fun c hc => Text.not_isBlank_of_isDigit (hdigits c hc)
  constructor
  · rintro (⟨hframes, hdigits, hfigure⟩ | ⟨hframes, hdigits, hlong⟩ | hquotable)
    · rw [hstrip hframes hdigits]
      exact ⟨hdigits, .inl hfigure⟩
    · rw [hstrip hframes hdigits]
      exact ⟨hdigits, .inr hlong⟩
    · exact absurd hquotable.symm Bool.false_ne_true
  · rintro ⟨hdigits, hfigure | hlong⟩
    · exact .figure (Text.frames_strip s) hdigits hfigure
    · exact .long (Text.frames_strip s) hdigits hlong

theorem lookup_levelNames {name : String} :
    levelNames.lookup name = some n ↔ (name, n) ∈ levelNames := by
  constructor
  · intro h
    obtain ⟨front, back, himages, -⟩ := List.lookup_eq_some_iff.1 h
    rw [himages]
    exact List.mem_append_right front List.mem_cons_self
  · intro h
    have hlookup : ∀ e ∈ levelNames, levelNames.lookup e.1 = some e.2 := by decide
    exact hlookup (name, n) h

theorem levelRead_numeral (hdigits : Text.isDigits (Text.strip s) = true)
    (hnumeral : Text.numeral? (Text.strip s).toList = some n) :
    (Value.text s).LevelRead (levelOfInt n) := by
  obtain ⟨hne, hdigits⟩ := Text.isDigits_iff.1 hdigits
  obtain ⟨hshort, hdenotes⟩ := (Text.numeral?_eq_some hne).1 hnumeral
  have htold : ¬(Value.text s).GoesUntold := by
    rw [goesUntold_text_iff]
    rintro ⟨-, ⟨c, hc, hnone⟩ | hlong⟩
    · obtain ⟨d, hd⟩ := hdenotes.decimal c hc
      exact nomatch hd.symm.trans hnone
    · exact absurd hlong (Nat.not_lt.2 hshort)
  -- digits write no name, and they denote one number
  have hgives (m : Nat) : (Value.text s).GivesLevel m ↔ m = n ∧ IsLevel n := by
    rw [givesLevel_text_iff]
    constructor
    · rintro (⟨name, hwrites, hknown⟩ | ⟨hdenotes', hlevel⟩)
      · obtain ⟨c, hc⟩ := List.exists_mem_of_ne_nil _ hne
        exact absurd (hdigits c hc)
          (Bool.eq_false_iff.1 (Text.letter_of_writesName hknown hwrites c hc).2)
      · have hsame := ((Text.numeral?_eq_some hne).2 ⟨hshort, hdenotes'⟩).symm.trans hnumeral
        obtain rfl := Option.some.inj hsame
        exact ⟨rfl, hlevel⟩
    · rintro ⟨rfl, hlevel⟩
      exact .inr ⟨hdenotes, hlevel⟩
  by_cases hlevel : IsLevel n
  · rw [levelOfInt_of_isLevel hlevel]
    exact .given htold fun m => (hgives m).trans (and_iff_left hlevel)
  · have hnone : ∀ m : Nat, (n : Int) = m → ¬IsLevel m := by
      intro m hm
      rwa [← Int.ofNat.inj hm]
    rw [levelOfInt_of_not_isLevel hnone]
    refine .reported htold (fun m hm => hlevel ((hgives m).1 hm).2) ?_
    -- the number in the message has no more digits than the text
    have hwritten := hdenotes.length_le.trans hshort
    exact decide_eq_true hwritten

theorem levelRead_word (hdigits : ¬Text.isDigits (Text.strip s) = true) :
    (Value.text s).LevelRead (levelOfText s) := by
  have hdenotes {n : Nat} : ¬Text.Denotes (Text.strip s).toList n := by
    intro hdenotes
    refine hdigits (Text.isDigits_iff.2 ⟨hdenotes.1, fun c hc => ?_⟩)
    exact Text.isDigit_of_decimal (hdenotes.decimal c hc)
  have htold : ¬(Value.text s).GoesUntold := by
    rw [goesUntold_text_iff]
    intro ⟨hall, hrest⟩
    refine hdigits (Text.isDigits_iff.2 ⟨?_, hall⟩)
    intro hnil
    rw [hnil] at hrest
    rcases hrest with ⟨c, hc, -⟩ | hlong
    · exact absurd hc List.not_mem_nil
    · exact absurd hlong (Nat.not_lt_zero _)
  -- no two levels share a name, so what is looked up is what the name stands for
  have hgives (m : Nat) : (Value.text s).GivesLevel m ↔
      levelNames.lookup (Text.upper (Text.strip s)) = some m := by
    rw [givesLevel_text_iff, or_iff_left fun h => hdenotes h.1, lookup_levelNames]
    constructor
    · rintro ⟨name, hwrites, hknown⟩
      rwa [Text.upper, hwrites, String.ofList_toList]
    · intro hknown
      exact ⟨_, String.toList_ofList.symm, hknown⟩
  unfold levelOfText
  simp only
  rw [if_neg hdigits]
  cases hlookup : levelNames.lookup (Text.upper (Text.strip s)) with
  | some n =>
    refine .given htold fun m => ?_
    rw [hgives, hlookup, Option.some.injEq, eq_comm]
  | none =>
    refine .reported htold (fun m hm => ?_) rfl
    rw [hgives, hlookup] at hm
    exact nomatch hm

theorem levelRead_digits (hdigits : Text.isDigits (Text.strip s) = true) :
    (Value.text s).LevelRead (levelOfText s) := by
  unfold levelOfText
  simp only
  rw [if_pos hdigits]
  cases hnumeral : Text.numeral? (Text.strip s).toList with
  | some n => exact levelRead_numeral hdigits hnumeral
  | none =>
    obtain ⟨-, hdigits⟩ := Text.isDigits_iff.1 hdigits
    refine .untold (goesUntold_text_iff.2 ⟨hdigits, ?_⟩) rfl
    -- a short row of decimal digits would be read
    by_contra hdecimal
    obtain ⟨hfigure, hlong⟩ := not_or.1 hdecimal
    have hall : ∀ c ∈ (Text.strip s).toList, ∃ d, Text.decimalValue? c = some d :=
      fun c hc => Option.ne_none_iff_exists'.1 fun hc' => hfigure ⟨c, hc, hc'⟩
    obtain ⟨n, hread⟩ := Text.exists_numeral? hall (Nat.not_lt.1 hlong)
    rw [hnumeral] at hread
    exact Option.some_ne_none n hread.symm

theorem levelRead_text (s : String) : (Value.text s).LevelRead (levelOfText s) := by
  by_cases hdigits : Text.isDigits (Text.strip s) = true
  · exact levelRead_digits hdigits
  · exact levelRead_word hdigits

end

/-! ## Levels of a table -/

/-- The value that a table gives for the level, or else the default. -/
def levelEntry (table : Keyed String Value) (default : Value) : Value :=
  (Keyed.get? table "level").getD default

theorem levelRead_other {v : Value} (hint : ∀ i, v ≠ .int i) (htext : ∀ s, v ≠ .text s) :
    v.LevelRead (.error (.level v)) := by
  have hnone (n : Nat) : ¬v.GivesLevel n := by
    intro h
    cases h with
    | number => exact hint _ rfl
    | name | numeral => exact htext _ rfl
  have huntold : v.GoesUntold ↔ v.isQuotable = false := by
    constructor
    · intro h
      cases h with
      | figure | long => exact absurd rfl (htext _)
      | unquotable h => exact h
    · exact .unquotable
  cases hquotable : v.isQuotable with
  | false => exact .untold (huntold.2 hquotable) hquotable
  | true =>
    refine .reported ?_ hnone hquotable
    rw [huntold, hquotable]
    exact Bool.false_ne_true.symm

theorem levelRead_table (table : Keyed String Value) (default : Value) :
    (levelEntry table default).LevelRead (levelOfTable table default) := by
  unfold levelOfTable levelEntry
  cases (Keyed.get? table "level").getD default with
  | int i => exact levelRead_int i
  | text s => exact levelRead_text s
  | null | bool | float | moment | list | table =>
    apply levelRead_other
    · intro i h
      cases h
    · intro s h
      cases h

/-- A level is read as it is told, but for the values that go untold: each of these ends in a fault
that no message is made for. -/
theorem levelOfTable_readsAsLevel (table : Keyed String Value) (default : Value) :
    ((levelEntry table default).ReadsAsLevel (levelOfTable table default) ↔
        ¬(levelEntry table default).GoesUntold) ∧
      ((levelEntry table default).GoesUntold ↔
        ∃ f, levelOfTable table default = .error f ∧ f.isWorded = false) := by
  have hread := levelRead_table table default
  generalize levelEntry table default = v, levelOfTable table default = read at hread ⊢
  cases hread with
  | @given n told unique =>
    have hreads : v.ReadsAsLevel (.ok n) := by
      constructor
      · intro m
        rw [unique, Except.ok.injEq, eq_comm]
      · intro hnone
        exact absurd ((unique n).2 rfl) (hnone n)
    refine ⟨iff_of_true hreads told, iff_of_false told ?_⟩
    exact fun ⟨_, hf, _⟩ => nomatch hf
  | @reported w told none quotable =>
    have hreads : v.ReadsAsLevel (.error (.level w)) :=
      ⟨fun m => iff_of_false nofun (none m), fun _ => ⟨w, rfl, quotable⟩⟩
    refine ⟨iff_of_true hreads told, iff_of_false told ?_⟩
    intro ⟨f, hf, hworded⟩
    obtain rfl := Except.error.inj hf
    exact absurd quotable (Bool.eq_false_iff.1 hworded)
  | @untold f untold unworded =>
    refine ⟨iff_of_false ?_ (not_not.2 untold), iff_of_true untold ⟨f, rfl, unworded⟩⟩
    intro hreads
    have hnone : ∀ n, ¬v.GivesLevel n := fun n hn => nomatch (hreads.given n).2 hn
    obtain ⟨w, hw, hquotable⟩ := hreads.reported hnone
    obtain rfl := Except.error.inj hw
    exact absurd hquotable (Bool.eq_false_iff.1 unworded)

/-- A superscript two is a digit in no numeral. -/
theorem superscript_not_readsAsLevel :
    ¬(Value.text "²").ReadsAsLevel (levelOfTable [("level", .text "²")] defaultLevel) := by
  have hfault : levelOfTable [("level", .text "²")] defaultLevel = .error (.levelDigits "²") := by
    rfl
  rw [hfault]
  intro hreads
  have hnone : ∀ n, ¬(Value.text "²").GivesLevel n := fun n hn => nomatch (hreads.given n).2 hn
  obtain ⟨w, hw, -⟩ := hreads.reported hnone
  exact nomatch hw

end InfoFlow
