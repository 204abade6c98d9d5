import InfoFlow.Proofs.Json.Plain
import InfoFlow.Toml.Reader
/-!
# Texts that TOML is read from or refused

A statement is read or refused, save for an integer in decimal digits that is too long and for a
value whose parts find no room.
-/

namespace InfoFlow.Toml

open Scan

variable {cs rest : List Char}

/-! ## Strings -/

theorem plain_codePoint (width : Nat) : Plain false (codePoint width) := by
  refine (plain_take width).bind fun ds => ?_
  cases Json.hexNumber? ds with
  | none => exact plain_fail
  | some n => exact plain_ite (plain_pure _) plain_fail

theorem plain_lineEscape : Plain false lineEscape :=
  (plain_skipWhile _).bind fun _ => (plain_expect _).bind fun _ => plain_skipWhile _

theorem plain_escape (multiline : Bool) : Plain false (escape multiline) := by
  refine plain_peek?.bind fun next => plain_ite ?_ ((plain_take 1).bind fun ds => ?_)
  · exact plain_lineEscape.bind fun _ => plain_pure _
  · split
    · exact (plain_codePoint 4).bind fun _ => plain_pure _
    · exact (plain_codePoint 8).bind fun _ => plain_pure _
    · exact (plain_require _).bind fun _ => plain_pure _
    · exact plain_fail

theorem plain_basicRest (multiline : Bool) (fuel : Nat) (done : List Char) :
    Plain false (basicRest multiline fuel done) := by
  induction fuel generalizing done with
  | zero => exact plain_fail
  | succ fuel ih =>
    rw [basicRest]
    refine (plain_accept _).bind fun _ => plain_ite (plain_pure _) ?_
    refine (plain_take 1).bind fun ds => ?_
    split
    · exact (plain_escape multiline).bind fun _ => ih _
    · exact (plain_require _).bind fun _ => ih _
    · exact plain_fail

theorem plain_literalRest (multiline : Bool) (fuel : Nat) (done : List Char) :
    Plain false (literalRest multiline fuel done) := by
  induction fuel generalizing done with
  | zero => exact plain_fail
  | succ fuel ih =>
    rw [literalRest]
    refine (plain_accept _).bind fun _ => plain_ite (plain_pure _) ?_
    refine (plain_take 1).bind fun ds => ?_
    split
    · exact (plain_require _).bind fun _ => ih _
    · exact plain_fail

theorem plain_basic (multiline : Bool) : Plain false (basic multiline) :=
  fun cs => (plain_basicRest multiline (cs.length + 1) [] cs).of_eq rfl

theorem plain_literal (multiline : Bool) : Plain false (literal multiline) :=
  fun cs => (plain_literalRest multiline (cs.length + 1) [] cs).of_eq rfl

theorem plain_multiline (mark : Char) {body : Scan (List Char)} (hbody : Plain false body) :
    Plain false (multiline mark body) := by
  refine (plain_accept _).bind fun _ => hbody.bind fun _ => ?_
  have hmarks : Plain false (extraMarks mark) :=
    (plain_takeWhile _).bind fun _ => (plain_require _).bind fun _ => plain_pure _
  exact hmarks.bind fun _ => plain_pure _

theorem plain_string? : Plain false string? := by
  refine (plain_accept _).bind fun _ => plain_ite ?_ ?_
  · exact (plain_multiline _ (plain_basic true)).bind fun _ => plain_pure _
  refine (plain_accept _).bind fun _ => plain_ite ?_ ?_
  · exact (plain_basic false).bind fun _ => plain_pure _
  refine (plain_accept _).bind fun _ => plain_ite ?_ ?_
  · exact (plain_multiline _ (plain_literal true)).bind fun _ => plain_pure _
  refine (plain_accept _).bind fun _ => plain_ite ?_ (plain_pure _)
  exact (plain_literal false).bind fun _ => plain_pure _

/-! ## Keys and what stands between them -/

theorem plain_keyPart : Plain false keyPart := by
  refine (plain_accept _).bind fun _ => plain_ite ?_ ?_
  · exact (plain_basic false).bind fun _ => plain_pure _
  refine (plain_accept _).bind fun _ => plain_ite ?_ ?_
  · exact (plain_literal false).bind fun _ => plain_pure _
  exact (plain_takeWhile _).bind fun _ => (plain_require _).bind fun _ => plain_pure _

theorem plain_keyRest (fuel : Nat) : Plain false (keyRest fuel) := by
  induction fuel with
  | zero => exact plain_fail
  | succ fuel ih =>
    refine plain_keyPart.bind fun _ => (plain_skipWhile _).bind fun _ => ?_
    refine (plain_accept _).bind fun _ => plain_ite ?_ (plain_pure _)
    exact (plain_skipWhile _).bind fun _ => ih.bind fun _ => plain_pure _

theorem plain_key : Plain false key := fun cs => (plain_keyRest (cs.length + 1) cs).of_eq rfl

theorem plain_comment : Plain false comment :=
  (plain_accept _).bind fun _ =>
    plain_ite ((plain_takeWhile _).bind fun _ => plain_require _) (plain_pure _)

theorem plain_gapRest (fuel : Nat) : Plain false (gapRest fuel) := by
  induction fuel with
  | zero => exact plain_pure _
  | succ fuel ih =>
    refine (plain_skipWhile _).bind fun _ => plain_peek?.bind fun _ => ?_
    exact plain_ite (plain_comment.bind fun _ => ih) (plain_pure _)

theorem plain_gap : Plain false gap := fun cs => (plain_gapRest (cs.length + 1) cs).of_eq rfl

theorem plain_demand {α : Type} (a : Option α) : Plain false (demand a) := by
  cases a with
  | none => exact plain_fail
  | some a => exact plain_pure a

/-! ## Dates and times -/

theorem plain_twoDigits (least greatest : Nat) : Plain false (twoDigits least greatest) :=
  (plain_take 2).bind fun _ => (plain_require _).bind fun _ => plain_pure _

/-- Two digits behind a mark. -/
theorem plain_marked (mark : String) (least greatest : Nat) :
    Plain false (expect mark *> twoDigits least greatest) :=
  (plain_expect mark).bind fun _ => plain_twoDigits least greatest

theorem plain_microseconds : Plain false microseconds := by
  have hfigures : Plain false (expect "." *> Json.figures) :=
    (plain_expect _).bind fun _ => Json.plain_figures
  exact hfigures.bind fun _ => plain_pure _

theorem plain_timeOfDay : Plain false timeOfDay :=
  (plain_twoDigits 0 23).bind fun _ => (plain_marked _ 0 59).bind fun _ =>
    (plain_marked _ 0 59).bind fun _ => plain_microseconds.optional.bind fun _ => plain_pure _

theorem plain_offset : Plain false offset := by
  have hrest (negative : Bool) : Plain false (do
      let hour ← twoDigits 0 23
      let minute ← expect ":" *> twoDigits 0 59
      let n : Int := hour * 60 + minute
      pure (if negative then -n else n)) :=
    (plain_twoDigits 0 23).bind fun _ => (plain_marked _ 0 59).bind fun _ => plain_pure _
  refine (plain_accept _).bind fun _ => (plain_accept _).bind fun _ => ?_
  refine plain_ite (plain_pure _) ((plain_accept _).bind fun negative => ?_)
  exact plain_ite ((plain_expect _).bind fun _ => hrest negative) (hrest negative)

theorem plain_date : Plain false date :=
  (plain_take 4).bind fun _ => (plain_require _).bind fun _ =>
    (plain_marked _ 1 12).bind fun _ => (plain_marked _ 1 31).bind fun _ => plain_pure _

theorem plain_timePart : Plain false timePart :=
  (plain_take 1).bind fun _ => (plain_require _).bind fun _ => plain_timeOfDay

theorem plain_moment? : Plain false moment? := by
  refine plain_date.optional.bind fun d => ?_
  cases d with
  | none => exact plain_timeOfDay.optional.bind fun _ => plain_pure _
  | some d =>
    refine (plain_require _).bind fun _ => plain_timePart.optional.bind fun t => ?_
    cases t with
    | none => exact plain_pure _
    | some t => exact plain_offset.optional.bind fun _ => plain_pure _

/-! ## Numbers -/

/-- The characters of a decimal numeral: figures and the low lines between them. -/
def isNumeral (c : Char) : Bool := Json.isFigure c || c = '_'

/-- A row of digits is what is left of the row of characters that it is read from. -/
theorem digitRow_of (p : Char → Bool) (cs : List Char) :
    (∀ d ∈ (digitRow p cs).1, p d = true) ∧
      ∃ row, row ++ (digitRow p cs).2 = cs ∧ (digitRow p cs).1.length ≤ row.length ∧
        ∀ c ∈ row, p c = true ∨ c = '_' := by
  fun_induction digitRow p cs with
  | case1 => exact ⟨List.forall_mem_nil _, [], rfl, Nat.le_refl 0, List.forall_mem_nil _⟩
  | case2 d cs hd ds rest hrest ih =>
    rw [hrest] at ih
    obtain ⟨hdigits, row, rfl, hlength, hchars⟩ := ih
    refine ⟨List.forall_mem_cons.2 ⟨hd, hdigits⟩, '_' :: d :: row, rfl, ?_, ?_⟩
    · exact Nat.le_succ_of_le (Nat.succ_le_succ hlength)
    · exact List.forall_mem_cons.2 ⟨.inr rfl, List.forall_mem_cons.2 ⟨.inl hd, hchars⟩⟩
  | case4 c cs _ hc ds rest hrest ih =>
    rw [hrest] at ih
    obtain ⟨hdigits, row, rfl, hlength, hchars⟩ := ih
    exact ⟨List.forall_mem_cons.2 ⟨hc, hdigits⟩, c :: row, rfl, Nat.succ_le_succ hlength,
      List.forall_mem_cons.2 ⟨.inl hc, hchars⟩⟩
  -- nothing is taken
  | case3 => exact ⟨List.forall_mem_nil _, [], rfl, Nat.le_refl 0, List.forall_mem_nil _⟩
  | case5 => exact ⟨List.forall_mem_nil _, [], rfl, Nat.le_refl 0, List.forall_mem_nil _⟩

theorem plain_digits (p : Char → Bool) : Plain false (digits p) := by
  refine plain_peek?.bind fun _ => (plain_require _).bind fun _ cs => ?_
  obtain ⟨-, row, hrow, -⟩ := digitRow_of p cs
  exact plainAt_of_ok rfl ⟨row, hrow⟩

theorem plain_radixInteger : Plain false radixInteger := by
  have hnumber (base : Nat) (p : Char → Bool) : Plain false (do
      let ds ← digits p
      pure (Value.int ((ds.filterMap Json.hexValue?).foldl (fun n d => base * n + d) 0 : Nat))) :=
    (plain_digits p).bind fun _ => plain_pure _
  refine (plain_accept _).bind fun _ => plain_ite (hnumber _ _) ?_
  refine (plain_accept _).bind fun _ => plain_ite (hnumber _ _) ?_
  exact (plain_expect _).bind fun _ => hnumber _ _

theorem plain_whole : Plain false whole :=
  (plain_accept _).bind fun _ => plain_ite (plain_pure _) (plain_digits _)

theorem plain_fraction : Plain false (expect "." *> digits Json.isFigure) :=
  (plain_expect _).bind fun _ => plain_digits _

theorem plain_exponent : Plain false exponent := by
  have hrest (negative : Bool) : Plain false (do
      let ds ← digits Json.isFigure
      pure (if negative then -(Nat.ofDigitChars 10 ds 0 : Int) else Nat.ofDigitChars 10 ds 0)) :=
    (plain_digits _).bind fun _ => plain_pure _
  refine (plain_accept _).bind fun _ => (plain_accept _).bind fun _ => ?_
  refine (plain_require _).bind fun _ => (plain_accept _).bind fun negative => ?_
  exact plain_ite ((plain_accept _).bind fun _ => hrest negative) (hrest negative)

theorem plain_sign : Plain false sign :=
  (plain_accept _).bind fun _ =>
    plain_ite (plain_pure _) ((plain_accept _).bind fun _ => plain_pure _)

theorem plain_decimalParts : Plain false decimalParts :=
  plain_sign.bind fun _ => plain_whole.bind fun _ => plain_fraction.optional.bind fun _ =>
    plain_exponent.optional.bind fun _ => plain_pure _

theorem plain_special : Plain false special :=
  plain_sign.bind fun _ => (plain_accept _).bind fun _ =>
    plain_ite (plain_pure _) ((plain_expect _).bind fun _ => plain_pure _)

variable {room : Nat}

/-- The digits in front of a point are figures, and few in a modest text. -/
theorem whole_digits {ds : List Char} (h : Modest isNumeral listSize tableSize room cs)
    (hwhole : whole cs = .ok (ds, rest)) :
    (∀ d ∈ ds, Json.isFigure d = true) ∧ ds.length ≤ Text.maxNumeralLength := by
  obtain ⟨zero, mid, hzero, hds⟩ := bind_eq_ok.1 hwhole
  have haccept : Plain false (accept "0") := plain_accept "0"
  have hmid := (haccept cs).suffix _ _ hzero
  cases zero with
  | true =>
    obtain ⟨rfl, -⟩ := Prod.mk.inj (Except.ok.inj hds)
    exact ⟨List.forall_mem_singleton.2 rfl, by decide⟩
  | false =>
    obtain ⟨_, left, hpeek, hrequire⟩ := bind_eq_ok.1 hds
    obtain ⟨-, rfl⟩ := Prod.mk.inj (Except.ok.inj hpeek)
    obtain ⟨_, left, hrequired, hdigits⟩ := bind_eq_ok.1 hrequire
    obtain ⟨-, rfl⟩ := require_eq_ok.1 hrequired
    have hrow : digitRow Json.isFigure left = (ds, rest) := Except.ok.inj hdigits
    obtain ⟨hfigures, row, hchars, hlength, hnumeral⟩ := digitRow_of Json.isFigure left
    rw [hrow] at hfigures hchars hlength
    -- the digits are not more than the characters that they are read from
    have hfront : row <+: left := ⟨rest, hchars⟩
    have hinfix : row <:+: cs := hfront.isInfix.trans hmid.isInfix
    refine ⟨hfigures, Nat.le_trans hlength (h.rows row hinfix fun c hc => ?_)⟩
    rw [isNumeral, Bool.or_eq_true, decide_eq_true_eq]
    exact hnumeral c hc

theorem decimalParts_digits {negative : Bool} {ds : List Char} {part : Option (List Char)}
    {power : Option Int} (h : Modest isNumeral listSize tableSize room cs)
    (hparts : decimalParts cs = .ok ((negative, ds, part, power), rest)) :
    (∀ d ∈ ds, Json.isFigure d = true) ∧ ds.length ≤ Text.maxNumeralLength := by
  obtain ⟨_, mid, hsign, hparts⟩ := bind_eq_ok.1 hparts
  obtain ⟨_, _, hwhole, hparts⟩ := bind_eq_ok.1 hparts
  obtain ⟨_, _, -, hparts⟩ := bind_eq_ok.1 hparts
  obtain ⟨_, _, -, hparts⟩ := bind_eq_ok.1 hparts
  obtain ⟨heq, -⟩ := Prod.mk.inj (Except.ok.inj hparts)
  obtain ⟨-, heq⟩ := Prod.mk.inj heq
  obtain ⟨rfl, -⟩ := Prod.mk.inj heq
  exact whole_digits (h.of_suffix ((plain_sign cs).suffix _ _ hsign)) hwhole

theorem plain_decimalValue {ds : List Char} (negative : Bool) (part : Option (List Char))
    (power : Option Int) (hfigures : ∀ d ∈ ds, Json.isFigure d = true)
    (hshort : ds.length ≤ Text.maxNumeralLength) :
    Plain false (decimalValue (negative, ds, part, power)) := by
  cases part with
  | some part => exact plain_pure _
  | none =>
    cases power with
    | some power => exact plain_pure _
    | none =>
      obtain ⟨n, hn⟩ := Json.exists_numeral hfigures hshort
      rw [decimalValue, hn]
      exact plain_pure _

theorem plainAt_number (h : Modest isNumeral listSize tableSize room cs) :
    PlainAt false number cs := by
  -- integers of other bases have no limit, so they are as plain as words
  refine h.bind (plain_radixInteger.optional cs) fun v cs h => ?_
  cases v with
  | some v => exact plain_pure v cs
  | none =>
    refine (plain_decimalParts.optional cs).bind fun parts rest hparts => ?_
    cases parts with
    | none => exact plain_special rest
    | some parts =>
      obtain ⟨negative, ds, part, power⟩ := parts
      obtain ⟨hfigures, hshort⟩ := decimalParts_digits h (eq_ok_of_optional hparts)
      exact plain_decimalValue negative part power hfigures hshort rest

theorem plainAt_scalar (h : Modest isNumeral listSize tableSize room cs) :
    PlainAt false scalar cs := by
  refine h.bind (plain_string? cs) fun s cs h => ?_
  cases s with
  | some s => exact plain_pure _ cs
  | none =>
    refine h.bind (plain_accept _ cs) fun yes cs h => ?_
    cases yes with
    | true => exact plain_pure _ cs
    | false =>
      refine h.bind (plain_accept _ cs) fun no cs h => ?_
      cases no with
      | true => exact plain_pure _ cs
      | false =>
        refine h.bind (plain_moment? cs) fun m cs h => ?_
        cases m with
        | some m => exact plain_pure _ cs
        | none => exact plainAt_number h

/-! ## Values -/

theorem plainWithin_value {fuel : Nat}
    (hitems : PlainWithin false isNumeral listSize tableSize (items fuel))
    (hmembers : ∀ d, PlainWithin false isNumeral listSize tableSize (members fuel · d)) :
    PlainWithin false isNumeral listSize tableSize (value (fuel + 1)) := by
  intro room cs h
  rw [value]
  refine plainAt_part ?_ (plainAt_part ?_ (plainAt_scalar h))
  · rintro rest rfl
    obtain ⟨hroom, h⟩ := h.of_list
    refine ⟨hroom, ?_⟩
    refine h.bind (plain_gap _) fun _ cs h => ?_
    refine h.bind (plain_accept _ cs) fun closed cs h => ?_
    cases closed with
    | true => exact plain_pure _ cs
    | false => exact (hitems _ cs h).bind fun _ rest _ => plain_pure _ rest
  · rintro rest rfl
    obtain ⟨hroom, h⟩ := h.of_table
    refine ⟨hroom, ?_⟩
    refine h.bind (plain_skipWhile _ _) fun _ cs h => ?_
    refine h.bind (plain_accept _ cs) fun closed cs h => ?_
    cases closed with
    | true => exact plain_pure _ cs
    | false => exact (hmembers _ _ cs h).bind fun _ rest _ => plain_pure _ rest

theorem plainWithin_items {fuel : Nat}
    (hvalue : PlainWithin false isNumeral listSize tableSize (value fuel))
    (hitems : PlainWithin false isNumeral listSize tableSize (items fuel)) :
    PlainWithin false isNumeral listSize tableSize (items (fuel + 1)) := by
  intro room cs h
  rw [items]
  refine h.bind (hvalue room cs h) fun v cs h => ?_
  refine h.bind (plain_gap cs) fun _ cs h => ?_
  refine h.bind (plain_accept _ cs) fun closed cs h => ?_
  cases closed with
  | true => exact plain_pure _ cs
  | false =>
    refine h.bind (plain_expect _ cs) fun _ cs h => ?_
    refine h.bind (plain_gap cs) fun _ cs h => ?_
    refine h.bind (plain_accept _ cs) fun closed cs h => ?_
    cases closed with
    | true => exact plain_pure _ cs
    | false => exact (hitems room cs h).bind fun _ rest _ => plain_pure _ rest

theorem plainWithin_members {fuel : Nat}
    (hvalue : PlainWithin false isNumeral listSize tableSize (value fuel))
    (hmembers : ∀ d, PlainWithin false isNumeral listSize tableSize (members fuel · d))
    (d : InlineDraft) :
    PlainWithin false isNumeral listSize tableSize (members (fuel + 1) · d) := by
  intro room cs h
  show PlainAt false (members (fuel + 1) room d) cs
  rw [members]
  refine h.bind (plain_key cs) fun k cs h => ?_
  refine h.bind (plain_expect _ cs) fun _ cs h => ?_
  refine h.bind (plain_skipWhile _ cs) fun _ cs h => ?_
  refine h.bind (hvalue room cs h) fun v cs h => ?_
  refine h.bind (plain_demand _ cs) fun d cs h => ?_
  refine h.bind (plain_skipWhile _ cs) fun _ cs h => ?_
  refine h.bind (plain_accept _ cs) fun closed cs h => ?_
  cases closed with
  | true => exact plain_pure _ cs
  | false =>
    refine h.bind (plain_expect _ cs) fun _ cs h => ?_
    refine h.bind (plain_skipWhile _ cs) fun _ cs h => ?_
    exact hmembers d room cs h

theorem plainWithin_of_fuel (fuel : Nat) :
    PlainWithin false isNumeral listSize tableSize (value fuel) ∧
      PlainWithin false isNumeral listSize tableSize (items fuel) ∧
        ∀ d, PlainWithin false isNumeral listSize tableSize (members fuel · d) := by
  induction fuel with
  | zero =>
    exact ⟨fun _ cs _ => plain_fail cs, fun _ cs _ => plain_fail cs,
      fun _ _ cs _ => plain_fail cs⟩
  | succ fuel ih =>
    obtain ⟨hvalue, hitems, hmembers⟩ := ih
    exact ⟨plainWithin_value hitems hmembers, plainWithin_items hvalue hitems,
      plainWithin_members hvalue hmembers⟩

/-! ## Statements -/

theorem plain_header (d : Draft) : Plain false (header d) := by
  refine (plain_accept _).bind fun _ => plain_ite ?_ ?_
  · exact (plain_skipWhile _).bind fun _ => plain_key.bind fun _ => (plain_demand _).bind fun _ =>
      (plain_expect _).bind fun _ => plain_pure _
  · exact (plain_expect _).bind fun _ => (plain_skipWhile _).bind fun _ => plain_key.bind fun _ =>
      (plain_demand _).bind fun _ => (plain_expect _).bind fun _ => plain_pure _

theorem plainAt_entry (d : Draft) (h : Modest isNumeral listSize tableSize room cs) :
    PlainAt false (entry room d) cs := by
  refine h.bind (plain_key cs) fun k cs h => ?_
  refine h.bind (plain_expect _ cs) fun _ cs h => ?_
  refine h.bind (plain_skipWhile _ cs) fun _ cs h => ?_
  -- the fuel of a value is counted from its place, and any fuel will do
  refine h.bind ?_ fun v cs h => plain_demand _ cs
  exact ((plainWithin_of_fuel (2 * cs.length + 2)).1 _ cs h).of_eq rfl

theorem plainAt_statement (d : Draft) (h : Modest isNumeral listSize tableSize room cs) :
    PlainAt false (statement room d) cs := by
  refine h.bind (plain_peek? cs) fun c cs h => ?_
  split
  · exact plain_header d cs
  · exact plain_pure d cs
  · exact plain_pure d cs
  · exact plain_pure d cs
  · exact plainAt_entry d h

theorem plainAt_lines (fuel : Nat) (d : Draft)
    (h : Modest isNumeral listSize tableSize room cs) : PlainAt false (lines room fuel d) cs := by
  induction fuel generalizing d cs with
  | zero => exact plain_fail cs
  | succ fuel ih =>
    refine h.bind (plain_skipWhile _ cs) fun _ cs h => ?_
    refine h.bind (plainAt_statement d h) fun d cs h => ?_
    refine h.bind (plain_skipWhile _ cs) fun _ cs h => ?_
    refine h.bind (plain_comment cs) fun _ cs h => ?_
    refine h.bind (plain_atEnd cs) fun ended cs h => ?_
    cases ended with
    | true => exact plain_pure _ cs
    | false => exact h.bind (plain_expect _ cs) fun _ cs h => ih d h

/-- A text with short integers and no more nesting than there is room for is read, or refused as no
TOML. -/
theorem read_of_modest (h : Modest isNumeral listSize tableSize room cs)
    {f : DocumentFault} (hf : read room cs = .error f) : f = .malformed :=
  (plainAt_lines _ _ h).eq_malformed (run'_eq_error.1 hf)

end InfoFlow.Toml
