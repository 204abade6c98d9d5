import InfoFlow.Json.Reader
import InfoFlow.Proofs.Scan.Plain
import InfoFlow.Proofs.Text.Numerals
/-!
# Texts that JSON is read from or refused

Strings, words and numbers with a fraction or an exponent are read or refused. An integer is as well
if it is short, and so is a value whose parts find room.
-/

namespace InfoFlow.Json

open Scan

variable {cs rest : List Char}

/-! ## Strings -/

theorem plain_unitChar (n : Nat) : Plain true (unitChar n) := by
  have halone : Plain true (throw .loneUnit : Scan Char) :=
    fun _ => plainAt_of_error rfl (.inr ⟨rfl, rfl⟩)
  exact plain_ite halone (plain_pure _)

theorem plain_unit : Plain true unit := by
  refine (plain_take 4).bind fun ds => ?_
  cases hexNumber? ds with
  | none => exact plain_fail
  | some n => exact plain_pure n

theorem plain_lowUnit : Plain true lowUnit :=
  (plain_expect _).bind fun _ => plain_unit.bind fun _ =>
    (plain_require _).bind fun _ => plain_pure _

theorem plain_unitEscape : Plain true unitEscape := by
  refine plain_unit.bind fun high => plain_ite ?_ (plain_unitChar high)
  refine plain_lowUnit.optional.bind fun low => ?_
  cases low with
  | none => exact plain_unitChar high
  | some low => exact plain_pure _

theorem plain_escape : Plain true escape := by
  refine (plain_take 1).bind fun ds => ?_
  split
  · exact plain_unitEscape
  · next c _ =>
    cases shortEscape? c with
    | none => exact plain_fail
    | some c' => exact plain_pure c'
  · exact plain_fail

theorem plain_stringRest (fuel : Nat) (done : List Char) : Plain true (stringRest fuel done) := by
  induction fuel generalizing done with
  | zero => exact plain_fail
  | succ fuel ih =>
    rw [stringRest]
    refine (plain_take 1).bind fun ds => ?_
    split
    · exact plain_pure _
    · exact plain_escape.bind fun c => ih _
    · exact (plain_require _).bind fun _ => ih _
    · exact plain_fail

theorem plain_string : Plain true string := fun cs => (plain_stringRest cs.length [] cs).of_eq rfl

/-! ## Numbers -/

theorem plain_figures {halves : Bool} : Plain halves figures :=
  (plain_takeWhile _).bind fun _ => (plain_require _).bind fun _ => plain_pure _

theorem plain_whole : Plain true whole :=
  (plain_accept _).bind fun _ => plain_ite (plain_pure _) plain_figures

theorem plain_fraction : Plain true fraction := (plain_expect _).bind fun _ => plain_figures

theorem plain_exponent : Plain true exponent := by
  unfold exponent
  refine (plain_accept _).bind fun small => (plain_accept _).bind fun capital =>
    (plain_require _).bind fun _ => (plain_accept _).bind fun negative => ?_
  have hrest : Plain true (do
      let ds ← figures
      pure (if negative then -(Nat.ofDigitChars 10 ds 0 : Int) else Nat.ofDigitChars 10 ds 0)) :=
    plain_figures.bind fun _ => plain_pure _
  exact plain_ite ((plain_accept _).bind fun _ => hrest) hrest

theorem plain_words (ws : List (String × Value)) : Plain true (word? ws) := by
  induction ws with
  | nil => exact plain_pure none
  | cons w ws ih => exact (plain_accept _).bind fun _ => plain_ite (plain_pure _) ih

/-- The digits of an integer are figures of the text, or the one zero that stands by itself. -/
theorem whole_eq_ok {ds : List Char} (h : whole cs = .ok (ds, rest)) :
    (∀ d ∈ ds, isFigure d = true) ∧ (ds = ['0'] ∨ ds <:+: cs) := by
  obtain ⟨zero, mid, hzero, hds⟩ := bind_eq_ok.1 h
  cases zero with
  | true =>
    obtain ⟨rfl, -⟩ := Prod.mk.inj (Except.ok.inj hds)
    exact ⟨List.forall_mem_singleton.2 rfl, .inl rfl⟩
  | false =>
    obtain rfl := accept_eq_false hzero
    obtain ⟨_, _, hrow, hds⟩ := bind_eq_ok.1 hds
    obtain ⟨_, _, -, hds⟩ := bind_eq_ok.1 hds
    obtain ⟨rfl, -⟩ := Prod.mk.inj (Except.ok.inj hds)
    obtain ⟨rfl, -⟩ := Prod.mk.inj (Except.ok.inj hrow)
    exact ⟨List.all_eq_true.1 List.all_takeWhile, .inr (List.takeWhile_prefix _).isInfix⟩

theorem decimal_of_figure {c : Char} (h : isFigure c = true) :
    ∃ d, Text.decimalValue? c = some d := by
  have hbounds : 0x30 ≤ c.toNat ∧ c.toNat < 0x30 + 10 := by
    rw [isFigure, Bool.and_eq_true, decide_eq_true_eq, decide_eq_true_eq] at h
    have hleast : ('0' : Char).toNat ≤ c.toNat := h.1
    have hgreatest : c.toNat ≤ ('9' : Char).toNat := h.2
    exact ⟨hleast, Nat.lt_succ_of_le hgreatest⟩
  -- the ASCII figures come first among the scripts
  rw [Text.decimalValue?, Text.decimalZeros, List.find?_cons_of_pos (by simpa using hbounds)]
  exact ⟨_, rfl⟩

/-- A short row of figures is a number. -/
theorem exists_numeral {ds : List Char} (hfigures : ∀ d ∈ ds, isFigure d = true)
    (hshort : ds.length ≤ Text.maxNumeralLength) : ∃ n, Text.numeral? ds = some n :=
  Text.exists_numeral? (fun d hd => decimal_of_figure (hfigures d hd)) hshort

variable {room : Nat}

theorem plainAt_number (h : Modest isFigure 1 1 room cs) : PlainAt true number cs := by
  refine h.bind (plain_accept _ cs) fun negative cs h => ?_
  refine (plain_whole cs).bind fun ds rest hds => ?_
  -- only an integer by itself is looked up, and its digits are a row of the text
  obtain ⟨hfigures, hrow⟩ := whole_eq_ok hds
  have hshort : ds.length ≤ Text.maxNumeralLength := by
    rcases hrow with rfl | hrow
    · decide
    · exact h.rows ds hrow hfigures
  obtain ⟨n, hn⟩ := exists_numeral hfigures hshort
  refine (plain_fraction.optional rest).bind fun part rest _ => ?_
  refine (plain_exponent.optional rest).bind fun power rest _ => ?_
  apply plain_ite (plain_pure _)
  rw [hn]
  exact plain_pure _

theorem plainAt_scalar (h : Modest isFigure 1 1 room cs) : PlainAt true scalar cs := by
  refine h.bind (plain_words words cs) fun word cs h => ?_
  cases word with
  | some v => exact plain_pure v cs
  | none =>
    refine h.bind (plain_accept _ cs) fun quote cs h => ?_
    cases quote with
    | true => exact (plain_string.bind fun _ => plain_pure _) cs
    | false => exact plainAt_number h

/-! ## Values -/

theorem plainWithin_value {fuel : Nat} (hitems : PlainWithin true isFigure 1 1 (items fuel))
    (hmembers : PlainWithin true isFigure 1 1 (members fuel)) :
    PlainWithin true isFigure 1 1 (value (fuel + 1)) := by
  intro room cs h
  rw [value]
  refine plainAt_part ?_ (plainAt_part ?_ (plainAt_scalar h))
  · rintro rest rfl
    obtain ⟨hroom, h⟩ := h.of_list
    refine ⟨hroom, ?_⟩
    refine h.bind (plain_skipWhile _ _) fun _ cs h => ?_
    refine h.bind (plain_accept _ cs) fun closed cs h => ?_
    cases closed with
    | true => exact plain_pure _ cs
    | false => exact (hitems _ cs h).bind fun _ rest _ => plain_pure _ rest
  · rintro rest rfl
    obtain ⟨hroom, h⟩ := h.of_table
    refine ⟨hroom, ?_⟩
    refine h.bind (plain_skipWhile _ _) fun _ cs h => ?_
    refine h.bind (plain_accept _ cs) fun closed cs h => ?_
    cases closed with
    | true => exact plain_pure _ cs
    | false => exact (hmembers _ cs h).bind fun _ rest _ => plain_pure _ rest

theorem plainWithin_items {fuel : Nat} (hvalue : PlainWithin true isFigure 1 1 (value fuel))
    (hitems : PlainWithin true isFigure 1 1 (items fuel)) :
    PlainWithin true isFigure 1 1 (items (fuel + 1)) := by
  intro room cs h
  rw [items]
  refine h.bind (hvalue room cs h) fun v cs h => ?_
  refine h.bind (plain_skipWhile _ cs) fun _ cs h => ?_
  refine h.bind (plain_accept _ cs) fun closed cs h => ?_
  cases closed with
  | true => exact plain_pure _ cs
  | false =>
    refine h.bind (plain_expect _ cs) fun _ cs h => ?_
    refine h.bind (plain_skipWhile _ cs) fun _ cs h => ?_
    exact (hitems room cs h).bind fun _ rest _ => plain_pure _ rest

theorem plainWithin_members {fuel : Nat} (hvalue : PlainWithin true isFigure 1 1 (value fuel))
    (hmembers : PlainWithin true isFigure 1 1 (members fuel)) :
    PlainWithin true isFigure 1 1 (members (fuel + 1)) := by
  intro room cs h
  rw [members]
  refine h.bind (plain_expect _ cs) fun _ cs h => ?_
  refine h.bind (plain_string cs) fun key cs h => ?_
  refine h.bind (plain_skipWhile _ cs) fun _ cs h => ?_
  refine h.bind (plain_expect _ cs) fun _ cs h => ?_
  refine h.bind (plain_skipWhile _ cs) fun _ cs h => ?_
  refine h.bind (hvalue room cs h) fun v cs h => ?_
  refine h.bind (plain_skipWhile _ cs) fun _ cs h => ?_
  refine h.bind (plain_accept _ cs) fun closed cs h => ?_
  cases closed with
  | true => exact plain_pure _ cs
  | false =>
    refine h.bind (plain_expect _ cs) fun _ cs h => ?_
    refine h.bind (plain_skipWhile _ cs) fun _ cs h => ?_
    exact (hmembers room cs h).bind fun _ rest _ => plain_pure _ rest

theorem plainWithin_of_fuel (fuel : Nat) :
    PlainWithin true isFigure 1 1 (value fuel) ∧ PlainWithin true isFigure 1 1 (items fuel) ∧
      PlainWithin true isFigure 1 1 (members fuel) := by
  induction fuel with
  | zero =>
    exact ⟨fun _ cs _ => plain_fail cs, fun _ cs _ => plain_fail cs, fun _ cs _ => plain_fail cs⟩
  | succ fuel ih =>
    obtain ⟨hvalue, hitems, hmembers⟩ := ih
    exact ⟨plainWithin_value hitems hmembers, plainWithin_items hvalue hitems,
      plainWithin_members hvalue hmembers⟩

/-- A text with short integers and no more nesting than there is room for is read, or refused as no
JSON or for half a character. -/
theorem read_of_modest (h : Modest isFigure 1 1 room cs) {f : DocumentFault}
    (hf : read room cs = .error f) : f = .malformed ∨ f = .loneUnit := by
  have hdocument : PlainAt true (document room cs.length) cs := by
    refine h.bind (plain_skipWhile _ cs) fun _ rest h => ?_
    refine h.bind ((plainWithin_of_fuel _).1 _ rest h) fun v rest h => ?_
    refine h.bind (plain_skipWhile _ rest) fun _ rest h => ?_
    refine h.bind (plain_atEnd rest) fun ended rest h => ?_
    exact h.bind (plain_require _ rest) fun _ rest _ => plain_pure _ rest
  exact (hdocument.refuses f (run'_eq_error.1 hf)).imp_right And.right

end InfoFlow.Json
