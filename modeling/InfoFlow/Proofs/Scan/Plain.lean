import InfoFlow.Proofs.Scan
import InfoFlow.Text.Digits
/-!
# Steps that go on or refuse

Integers and nested parts make a scanner fail in another way than by refusing what it reads, and in
a format that can write down half a character a string does. Every other step, put together from
steps of that kind, goes on to what is left of the text or refuses it; a text in which all integers
are short and parts are not nested too deep lets the remaining ones do the same.
-/

namespace InfoFlow.Scan

variable {α β : Type} {s : Scan α} {cs rest : List Char} {halves : Bool}

/-- At this text, the step leaves an end of the text, or refuses it: as malformed or, where the
format has halves of characters, for one that stands alone. -/
structure PlainAt (halves : Bool) (s : Scan α) (cs : List Char) : Prop where
  suffix : ∀ a rest, s cs = .ok (a, rest) → rest <:+ cs
  refuses : ∀ f, s cs = .error f → f = .malformed ∨ halves = true ∧ f = .loneUnit

def Plain (halves : Bool) (s : Scan α) : Prop := ∀ cs, PlainAt halves s cs

theorem plainAt_of_ok {a : α} (h : s cs = .ok (a, rest)) (hrest : rest <:+ cs) :
    PlainAt halves s cs := by
  constructor
  · intro a' rest' h'
    obtain ⟨rfl, rfl⟩ := Prod.mk.inj (Except.ok.inj (h.symm.trans h'))
    exact hrest
  · exact fun f h' => nomatch h.symm.trans h'

theorem plainAt_of_error {f : DocumentFault} (h : s cs = .error f)
    (hf : f = .malformed ∨ halves = true ∧ f = .loneUnit) : PlainAt halves s cs where
  suffix _ _ h' := nomatch h.symm.trans h'
  refuses _ h' := Except.error.inj (h.symm.trans h') ▸ hf

theorem plainAt_of_malformed (h : s cs = .error .malformed) : PlainAt halves s cs :=
  plainAt_of_error h (.inl rfl)

theorem bind_of_error {f : DocumentFault} (h : s cs = .error f) (next : α → Scan β) :
    (s >>= next) cs = .error f := by
  show (s cs >>= fun x => next x.1 x.2) = _
  rw [h]
  rfl

theorem bind_eq_ok {next : α → Scan β} {b : β} {last : List Char} :
    (s >>= next) cs = .ok (b, last) ↔
      ∃ a rest, s cs = .ok (a, rest) ∧ next a rest = .ok (b, last) := by
  cases hstep : s cs with
  | error f =>
    rw [bind_of_error hstep]
    exact iff_of_false nofun fun ⟨_, _, h, _⟩ => nomatch h
  | ok x =>
    rw [bind_of_ok hstep]
    constructor
    · exact fun h => ⟨x.1, x.2, rfl, h⟩
    · rintro ⟨a, rest, hx, h⟩
      obtain rfl := Except.ok.inj hx
      exact h

theorem PlainAt.of_eq {t : Scan α} (ht : PlainAt halves t cs) (h : s cs = t cs) :
    PlainAt halves s cs where
  suffix a rest hs := ht.suffix a rest (h ▸ hs)
  refuses f hs := ht.refuses f (h ▸ hs)

/-- Where a format has no halves of characters, a text is refused as malformed only. -/
theorem PlainAt.eq_malformed {f : DocumentFault} (hs : PlainAt false s cs) (h : s cs = .error f) :
    f = .malformed :=
  (hs.refuses f h).resolve_right (Bool.false_ne_true ·.1)

/-- What comes next has to be plain at what the first step leaves, for what it gives. -/
theorem PlainAt.bind {next : α → Scan β} (hs : PlainAt halves s cs)
    (hnext : ∀ a rest, s cs = .ok (a, rest) → PlainAt halves (next a) rest) :
    PlainAt halves (s >>= next) cs := by
  cases hstep : s cs with
  | error f => exact plainAt_of_error (bind_of_error hstep next) (hs.refuses f hstep)
  | ok x =>
    obtain ⟨a, rest⟩ := x
    have hrest := hs.suffix a rest hstep
    have hplain := hnext a rest hstep
    constructor
    · intro b rest' h
      rw [bind_of_ok hstep] at h
      exact (hplain.suffix b rest' h).trans hrest
    · intro f h
      rw [bind_of_ok hstep] at h
      exact hplain.refuses f h

theorem Plain.bind {next : α → Scan β} (hs : Plain halves s)
    (hnext : ∀ a, Plain halves (next a)) : Plain halves (s >>= next) :=
  fun cs => (hs cs).bind fun a rest _ => hnext a rest

theorem run'_eq_error {f : DocumentFault} : s.run' cs = .error f ↔ s cs = .error f := by
  show (s cs).map Prod.fst = .error f ↔ _
  cases s cs with
  | ok x => exact iff_of_false nofun nofun
  | error e => exact iff_of_eq (by rw [Except.map, Except.error.injEq, Except.error.injEq])

/-! ## Single steps -/

theorem plain_pure (a : α) : Plain halves (pure a : Scan α) := by
  intro cs
  have hpure : (pure a : Scan α) cs = .ok (a, cs) := rfl
  exact plainAt_of_ok hpure List.suffix_rfl

theorem plain_fail : Plain halves (fail : Scan α) := fun _ => plainAt_of_malformed rfl

theorem plain_ite {c : Prop} [Decidable c] {t : Scan α} (hs : Plain halves s)
    (ht : Plain halves t) : Plain halves (if c then s else t) := by
  by_cases hc : c
  · rw [if_pos hc]
    exact hs
  · rw [if_neg hc]
    exact ht

theorem plain_require (b : Bool) : Plain halves (require b) := plain_ite (plain_pure _) plain_fail

theorem require_eq_ok {b : Bool} : require b cs = .ok ((), rest) ↔ b = true ∧ rest = cs := by
  cases b with
  | false => exact iff_of_false nofun nofun
  | true =>
    constructor
    · exact fun h => ⟨rfl, (Prod.mk.inj (Except.ok.inj h)).2.symm⟩
    · rintro ⟨-, rfl⟩
      rfl

theorem plain_peek? : Plain halves peek? := fun _ => plainAt_of_ok rfl List.suffix_rfl

theorem plain_atEnd : Plain halves atEnd := fun _ => plainAt_of_ok rfl List.suffix_rfl

theorem plain_takeWhile (p : Char → Bool) : Plain halves (takeWhile p) :=
  fun _ => plainAt_of_ok rfl (List.dropWhile_suffix p)

theorem plain_skipWhile (p : Char → Bool) : Plain halves (skipWhile p) :=
  fun _ => plainAt_of_ok rfl (List.dropWhile_suffix p)

theorem plain_take (n : Nat) : Plain halves (take n) := by
  intro cs
  by_cases hlong : (cs.take n).length < n
  · exact plainAt_of_malformed (if_pos hlong)
  · exact plainAt_of_ok (if_neg hlong) (List.drop_suffix n cs)

theorem plain_accept (word : String) : Plain halves (accept word) := by
  intro cs
  by_cases hword : word.toList.isPrefixOf cs = true
  · exact plainAt_of_ok (if_pos hword) (List.drop_suffix _ cs)
  · exact plainAt_of_ok (if_neg hword) List.suffix_rfl

theorem plain_expect (word : String) : Plain halves (expect word) :=
  (plain_accept word).bind plain_require

/-- A refusal as malformed is taken back. -/
theorem Plain.optional (hs : Plain halves s) : Plain halves (optional s) := by
  intro cs
  cases hstep : s cs with
  | ok x => exact plainAt_of_ok (optional_of_ok hstep) ((hs cs).suffix x.1 x.2 hstep)
  | error f =>
    have hf := (hs cs).refuses f hstep
    rcases hf with rfl | ⟨-, rfl⟩
    · have hnone : Scan.optional s cs = .ok (none, cs) := optional_of_malformed hstep
      exact plainAt_of_ok hnone List.suffix_rfl
    · exact plainAt_of_error (optional_of_loneUnit hstep) ((hs cs).refuses _ hstep)

theorem eq_ok_of_optional {a : α} (h : optional s cs = .ok (some a, rest)) :
    s cs = .ok (a, rest) := by
  unfold Scan.optional at h
  cases hstep : s cs with
  | ok x =>
    rw [hstep] at h
    obtain ⟨ha, hrest⟩ := Prod.mk.inj (Except.ok.inj h)
    rw [← Option.some.inj ha, ← hrest]
  | error f =>
    rw [hstep] at h
    cases f <;> exact nomatch h

/-- What is accepted stands in front of what is left. -/
theorem eq_append_of_accept {word : String} (h : accept word cs = .ok (true, rest)) :
    cs = word.toList ++ rest := by
  unfold accept at h
  by_cases hword : word.toList.isPrefixOf cs = true
  · rw [if_pos hword] at h
    obtain ⟨-, rfl⟩ := Prod.mk.inj (Except.ok.inj h)
    obtain ⟨rest, rfl⟩ := List.isPrefixOf_iff_prefix.1 hword
    rw [List.drop_left' String.length_toList]
  · rw [if_neg hword] at h
    obtain ⟨hfalse, -⟩ := Prod.mk.inj (Except.ok.inj h)
    exact nomatch hfalse

/-! ## Texts with short numerals and little nesting -/

/-- A text whose rows of the characters of numerals are not too long for an integer, and that takes
no more than so much room even if whatever opens a part in it is never closed. -/
structure Modest (p : Char → Bool) (listSize tableSize room : Nat) (cs : List Char) : Prop where
  rows : ∀ ds, ds <:+: cs → (∀ d ∈ ds, p d = true) → ds.length ≤ Text.maxNumeralLength
  openings : listSize * cs.count '[' + tableSize * cs.count '\x7b' ≤ room

namespace Modest

variable {p : Char → Bool} {listSize tableSize room : Nat}

/-- A short text has no long rows. -/
theorem of_short (hlength : cs.length ≤ Text.maxNumeralLength)
    (hopenings : listSize * cs.count '[' + tableSize * cs.count '\x7b' ≤ room) :
    Modest p listSize tableSize room cs where
  rows _ hds _ := Nat.le_trans hds.length_le hlength
  openings := hopenings

theorem of_suffix (h : Modest p listSize tableSize room cs) (hrest : rest <:+ cs) :
    Modest p listSize tableSize room rest where
  rows ds hds := h.rows ds (hds.trans hrest.isInfix)
  openings := by
    have hlists := Nat.mul_le_mul_left listSize (hrest.sublist.count_le '[')
    have htables := Nat.mul_le_mul_left tableSize (hrest.sublist.count_le '\x7b')
    exact Nat.le_trans (Nat.add_le_add hlists htables) h.openings

/-- A list that is opened takes its room, and what follows takes no more than is left. -/
theorem of_list (h : Modest p listSize tableSize room ('[' :: cs)) :
    listSize ≤ room ∧ Modest p listSize tableSize (room - listSize) cs := by
  have hopenings := h.openings
  rw [List.count_cons_self, List.count_cons_of_ne (by decide), Nat.mul_succ] at hopenings
  refine ⟨by omega, (h.of_suffix (List.suffix_cons _ _)).rows, by omega⟩

theorem of_table (h : Modest p listSize tableSize room ('\x7b' :: cs)) :
    tableSize ≤ room ∧ Modest p listSize tableSize (room - tableSize) cs := by
  have hopenings := h.openings
  rw [List.count_cons_self, List.count_cons_of_ne (by decide), Nat.mul_succ] at hopenings
  refine ⟨by omega, (h.of_suffix (List.suffix_cons _ _)).rows, by omega⟩

/-- What is left of a text after a step is as modest. -/
theorem bind {s : Scan α} {next : α → Scan β} (h : Modest p listSize tableSize room cs)
    (hs : PlainAt halves s cs)
    (hnext : ∀ a rest, Modest p listSize tableSize room rest → PlainAt halves (next a) rest) :
    PlainAt halves (s >>= next) cs :=
  hs.bind fun a rest hstep => hnext a rest (h.of_suffix (hs.suffix a rest hstep))

end Modest

/-- A step that is plain at any text whose parts find room. -/
def PlainWithin (halves : Bool) (p : Char → Bool) (listSize tableSize : Nat)
    (step : Nat → Scan α) : Prop :=
  ∀ room cs, Modest p listSize tableSize room cs → PlainAt halves (step room) cs

theorem accept_eq_false {word : String} (h : accept word cs = .ok (false, rest)) : rest = cs := by
  unfold accept at h
  by_cases hword : word.toList.isPrefixOf cs = true
  · rw [if_pos hword] at h
    obtain ⟨htrue, -⟩ := Prod.mk.inj (Except.ok.inj h)
    exact nomatch htrue
  · rw [if_neg hword] at h
    exact (Prod.mk.inj (Except.ok.inj h)).2.symm

theorem plainAt_within {next : Nat → Scan α} {room size : Nat} (h : size ≤ room)
    (hnext : PlainAt halves (next (room - size)) cs) :
    PlainAt halves (within room size >>= next) cs := by
  apply hnext.of_eq
  exact bind_of_ok (within_of_le h cs) next

/-- A part that may be opened by a word goes on in what room is left, and else something else is
read from the same place. -/
theorem plainAt_part {word : String} {next : Nat → Scan α} {other : Scan α} {room size : Nat}
    (hopen : ∀ rest, cs = word.toList ++ rest →
      size ≤ room ∧ PlainAt halves (next (room - size)) rest)
    (hother : PlainAt halves other cs) :
    PlainAt halves
      (accept word >>= fun found => if found then within room size >>= next else other) cs := by
  refine (plain_accept word cs).bind fun found rest hfound => ?_
  cases found with
  | true =>
    obtain ⟨hroom, hnext⟩ := hopen rest (eq_append_of_accept hfound)
    exact plainAt_within hroom hnext
  | false =>
    rw [accept_eq_false hfound]
    exact hother

end InfoFlow.Scan
