import InfoFlow.Proofs.Json.Oversized
import InfoFlow.Proofs.Toml.Plain
/-!
# Texts that are neither read as TOML nor refused

What is too much for JSON is too much for the value of a key as well, save that a list takes twice
as much room.
-/

namespace InfoFlow.Toml

open Scan

variable {cs : List Char}

/-! ## Too many lists -/

theorem gap_of_not {c : Char} (hspace : isGap c = false) (hc : c ≠ '#') :
    gap (c :: cs) = .ok ((), c :: cs) := by
  have hskip : skipWhile isGap (c :: cs) = .ok ((), c :: cs) := skipWhile_of_not hspace
  have hpeek : peek? (c :: cs) = .ok (some c, c :: cs) := rfl
  unfold gap
  rw [gapRest, bind_of_ok hskip, bind_of_ok hpeek, if_neg fun h => hc (Option.some.inj h)]
  rfl

theorem value_of_item {c : Char} {f : DocumentFault} {fuel room : Nat} (hroom : listSize ≤ room)
    (hspace : isGap c = false) (hcomment : c ≠ '#') (hclose : c ≠ ']')
    (hitem : value fuel (room - listSize) (c :: cs) = .error f) :
    value (fuel + 2) room ('[' :: c :: cs) = .error f := by
  have hopen : accept "[" ('[' :: c :: cs) = .ok (true, c :: cs) := accept_append "[" _
  have hgoesOn : accept "]" (c :: cs) = .ok (false, c :: cs) := accept_of_ne rfl hclose
  have hitems : items (fuel + 1) (room - listSize) (c :: cs) = .error f := by
    rw [items]
    exact bind_of_error hitem _
  rw [value, bind_of_ok hopen]
  show (within room listSize >>= _) (c :: cs) = _
  rw [bind_of_ok (within_of_le hroom _), bind_of_ok (gap_of_not hspace hcomment),
    bind_of_ok hgoesOn]
  exact bind_of_error hitems _

/-- Lists in lists, one more than there is room for. -/
theorem value_of_brackets {n fuel room : Nat} (hroom : room < listSize * (n + 1))
    (hfuel : 2 * n < fuel) (cs : List Char) :
    value fuel room (List.replicate (n + 1) '[' ++ cs) = .error .tooDeep := by
  have hstop {fuel room : Nat} (hsize : room < listSize) (cs : List Char) :
      value (fuel + 1) room ('[' :: cs) = .error .tooDeep := by
    have hopen : accept "[" ('[' :: cs) = .ok (true, cs) := accept_append "[" _
    rw [value, bind_of_ok hopen]
    exact bind_of_error (within_of_lt hsize cs) _
  induction n generalizing fuel room with
  | zero =>
    cases fuel with
    | zero => exact absurd hfuel (Nat.lt_irrefl 0)
    | succ fuel => exact hstop hroom cs
  | succ n ih =>
    obtain ⟨fuel, rfl⟩ : ∃ k, fuel = k + 2 := ⟨fuel - 2, by omega⟩
    -- the room may end before the last list, when it is no multiple of what a list takes
    by_cases hsize : room < listSize
    · exact hstop hsize _
    · rw [Nat.mul_succ] at hroom
      have hinner : value fuel (room - listSize) ('[' :: (List.replicate n '[' ++ cs)) =
          .error .tooDeep := ih (by omega) (by omega)
      exact value_of_item (Nat.not_lt.1 hsize) rfl (by decide) (by decide) hinner

/-! ## Too many figures -/

variable {d : Char} {ds : List Char}

theorem digitRow_of_figures (h : ∀ c ∈ ds, Json.isFigure c = true) :
    digitRow Json.isFigure ds = (ds, []) := by
  induction ds with
  | nil => rfl
  | cons d ds ih =>
    obtain ⟨hd, hds⟩ := List.forall_mem_cons.1 h
    -- a figure is no low line, so it is taken as it stands
    have hlow : ∀ c cs, d = '_' → ds = c :: cs → False :=
      fun _ _ heq _ => Json.ne_of_figure hd rfl heq
    rw [digitRow.eq_3 _ _ _ hlow, if_pos hd, ih hds]

theorem marked_of_ne {mark : String} {m : Char} {ms : List Char} (hmark : mark.toList = m :: ms)
    (h : d ≠ m) (least greatest : Nat) :
    (expect mark *> twoDigits least greatest) (d :: ds) = .error .malformed :=
  bind_of_error (expect_of_ne hmark h) _

theorem twoDigits_leaves {least greatest n : Nat} {a b : Char} {cs rest : List Char}
    (h : twoDigits least greatest (a :: b :: cs) = .ok (n, rest)) : rest = cs := by
  have htake : take 2 (a :: b :: cs) = .ok ([a, b], cs) := rfl
  unfold twoDigits at h
  rw [bind_of_ok htake] at h
  obtain ⟨_, _, hrequired, hn⟩ := bind_eq_ok.1 h
  obtain ⟨-, rfl⟩ := require_eq_ok.1 hrequired
  exact (Prod.mk.inj (Except.ok.inj hn)).2.symm

theorem moment?_of_figures (h : ∀ c ∈ ds, Json.isFigure c = true) (hlong : 4 < ds.length) :
    moment? ds = .ok (none, ds) := by
  match ds with
  | a :: b :: c :: d :: e :: tail =>
    simp only [List.forall_mem_cons] at h
    obtain ⟨ha, hb, hc, hd, he, -⟩ := h
    -- four figures make a year, and the fifth one is no hyphen
    have hdate : date (a :: b :: c :: d :: e :: tail) = .error .malformed := by
      have htake : take 4 (a :: b :: c :: d :: e :: tail) = .ok ([a, b, c, d], e :: tail) := rfl
      have hyear : [a, b, c, d].all Json.isFigure = true := by
        simp only [List.all_cons, List.all_nil, ha, hb, hc, hd, Bool.and_self]
      have hhyphen : (expect "-" *> twoDigits 1 12) (e :: tail) = .error .malformed :=
        marked_of_ne rfl (Json.ne_of_figure he rfl) 1 12
      unfold date
      rw [bind_of_ok htake, bind_of_ok (require_eq_ok.2 ⟨hyear, rfl⟩)]
      exact bind_of_error hhyphen _
    have htime : timeOfDay (a :: b :: c :: d :: e :: tail) = .error .malformed := by
      unfold timeOfDay
      -- the first two figures may be an hour, and then the third one is no colon
      cases hhour : twoDigits 0 23 (a :: b :: c :: d :: e :: tail) with
      | error f =>
        obtain rfl := (plain_twoDigits 0 23 _).eq_malformed hhour
        exact bind_of_error hhour _
      | ok x =>
        obtain ⟨hour, left⟩ := x
        obtain rfl := twoDigits_leaves hhour
        have hcolon : (expect ":" *> twoDigits 0 59) (c :: d :: e :: tail) = .error .malformed :=
          marked_of_ne rfl (Json.ne_of_figure hc rfl) 0 59
        rw [bind_of_ok hhour]
        exact bind_of_error hcolon _
    unfold moment?
    rw [bind_of_ok (optional_of_malformed hdate)]
    show (optional timeOfDay >>= _) _ = _
    rw [bind_of_ok (optional_of_malformed htime)]
    rfl

theorem number_of_figures (hzero : d ≠ '0') (hfigures : ∀ c ∈ d :: ds, Json.isFigure c = true)
    (hlong : Text.maxNumeralLength < (d :: ds).length) :
    number (d :: ds) = .error .numeralTooLong := by
  have hd : Json.isFigure d = true := hfigures d List.mem_cons_self
  have hno {word : String} {c : Char} {tail : List Char} (hword : word.toList = c :: tail)
      (hc : d ≠ c) : accept word (d :: ds) = .ok (false, d :: ds) := accept_of_ne hword hc
  -- the marks of the other bases all start with a zero
  have hradix : radixInteger (d :: ds) = .error .malformed := by
    unfold radixInteger
    rw [bind_of_ok (hno rfl hzero)]
    show (accept "0o" >>= _) (d :: ds) = _
    rw [bind_of_ok (hno rfl hzero)]
    exact bind_of_error (expect_of_ne rfl hzero) _
  have hsign : sign (d :: ds) = .ok (false, d :: ds) := by
    unfold sign
    rw [bind_of_ok (hno rfl (Json.ne_of_figure hd rfl))]
    show (accept "+" >>= _) (d :: ds) = _
    rw [bind_of_ok (hno rfl (Json.ne_of_figure hd rfl))]
    rfl
  have hwhole : whole (d :: ds) = .ok (d :: ds, []) := by
    have hpeek : peek? (d :: ds) = .ok (some d, d :: ds) := rfl
    unfold whole digits
    rw [bind_of_ok (hno rfl hzero)]
    show (peek? >>= _) (d :: ds) = _
    rw [bind_of_ok hpeek, Option.any_some, hd]
    exact congrArg Except.ok (digitRow_of_figures hfigures)
  have hparts : decimalParts (d :: ds) = .ok ((false, d :: ds, none, none), []) := by
    unfold decimalParts
    rw [bind_of_ok hsign, bind_of_ok hwhole]
    rfl
  unfold number
  rw [bind_of_ok (optional_of_malformed hradix)]
  show (optional decimalParts >>= _) (d :: ds) = _
  rw [bind_of_ok (optional_of_ok hparts)]
  show decimalValue _ _ = _
  rw [decimalValue, Text.numeral?_of_long hlong]
  rfl

theorem value_of_figures {fuel room : Nat} (hzero : d ≠ '0')
    (hfigures : ∀ c ∈ d :: ds, Json.isFigure c = true)
    (hlong : Text.maxNumeralLength < (d :: ds).length) :
    value (fuel + 1) room (d :: ds) = .error .numeralTooLong := by
  have hd : Json.isFigure d = true := hfigures d List.mem_cons_self
  have hno {word : String} {c : Char} {tail : List Char} (hword : word.toList = c :: tail)
      (hc : Json.isFigure c = false) : accept word (d :: ds) = .ok (false, d :: ds) :=
    accept_of_ne hword (Json.ne_of_figure hd hc)
  -- whatever else a value may begin with starts with a character that is no figure
  have hstring : string? (d :: ds) = .ok (none, d :: ds) := by
    unfold string?
    rw [bind_of_ok (hno rfl rfl)]
    show (accept "\"" >>= _) (d :: ds) = _
    rw [bind_of_ok (hno rfl rfl)]
    show (accept "\'\'\'" >>= _) (d :: ds) = _
    rw [bind_of_ok (hno rfl rfl)]
    show (accept "\'" >>= _) (d :: ds) = _
    rw [bind_of_ok (hno rfl rfl)]
    rfl
  have hfour : 4 < (d :: ds).length := by
    unfold Text.maxNumeralLength at hlong
    omega
  rw [value, bind_of_ok (hno rfl rfl)]
  show (accept "\x7b" >>= _) (d :: ds) = _
  rw [bind_of_ok (hno rfl rfl)]
  show scalar (d :: ds) = _
  unfold scalar
  rw [bind_of_ok hstring]
  show (accept "true" >>= _) (d :: ds) = _
  rw [bind_of_ok (hno rfl rfl)]
  show (accept "false" >>= _) (d :: ds) = _
  rw [bind_of_ok (hno rfl rfl)]
  show (moment? >>= _) (d :: ds) = _
  rw [bind_of_ok (moment?_of_figures hfigures hfour)]
  exact number_of_figures hzero hfigures hlong

/-! ## Documents -/

/-- A value behind a key is refused as it is by itself. -/
theorem read_of_value {c : Char} {f : DocumentFault} {room : Nat} (hc : isSpace c = false)
    (h : value (2 * (c :: cs).length + 2) room (c :: cs) = .error f) :
    read room ('a' :: '=' :: c :: cs) = .error f := by
  have hstart : skipWhile isSpace ('a' :: '=' :: c :: cs) = .ok ((), 'a' :: '=' :: c :: cs) :=
    skipWhile_of_not rfl
  have hpeek : peek? ('a' :: '=' :: c :: cs) = .ok (some 'a', 'a' :: '=' :: c :: cs) := rfl
  have hkey : key ('a' :: '=' :: c :: cs) = .ok (["a"], '=' :: c :: cs) := rfl
  have hmark : expect "=" ('=' :: c :: cs) = .ok ((), c :: cs) := expect_append "=" _
  have hskip : skipWhile isSpace (c :: cs) = .ok ((), c :: cs) := skipWhile_of_not hc
  have hentry : entry room {} ('a' :: '=' :: c :: cs) = .error f := by
    unfold entry
    rw [bind_of_ok hkey, bind_of_ok hmark, bind_of_ok hskip]
    exact bind_of_error (s := fun cs => value (2 * cs.length + 2) room cs) h _
  have hstatement : statement room {} ('a' :: '=' :: c :: cs) = .error f := by
    unfold statement
    rw [bind_of_ok hpeek]
    exact hentry
  refine run'_eq_error.2 ?_
  rw [lines, bind_of_ok hstart]
  exact bind_of_error hstatement _

theorem read_of_brackets (room : Nat) (cs : List Char) :
    read room ('a' :: '=' :: (List.replicate (room / listSize + 1) '[' ++ cs)) =
      .error .tooDeep := by
  have hvalue : value (2 * (List.replicate (room / listSize + 1) '[' ++ cs).length + 2) room
      (List.replicate (room / listSize + 1) '[' ++ cs) = .error .tooDeep := by
    apply value_of_brackets
    · exact Nat.lt_mul_div_succ room (by decide)
    · rw [List.length_append, List.length_replicate]
      omega
  rw [List.replicate_succ, List.cons_append] at hvalue ⊢
  exact read_of_value rfl hvalue

theorem read_of_figures (room : Nat) {d : Char} {ds : List Char} (hzero : d ≠ '0')
    (hfigures : ∀ c ∈ d :: ds, Json.isFigure c = true)
    (hlong : Text.maxNumeralLength < (d :: ds).length) :
    read room ('a' :: '=' :: d :: ds) = .error .numeralTooLong := by
  have hd : Json.isFigure d = true := hfigures d List.mem_cons_self
  have hspace : isSpace d = false := by
    rw [isSpace, decide_eq_false (Json.ne_of_figure hd rfl),
      decide_eq_false (Json.ne_of_figure hd rfl), Bool.or_false]
  exact read_of_value hspace (value_of_figures hzero hfigures hlong)

theorem read_of_oversized {room : Nat} (h : Json.Oversized (room / listSize) cs) :
    ∃ f, read room ('a' :: '=' :: cs) = .error f ∧ f ≠ .malformed := by
  cases h with
  | nested rest => exact ⟨_, read_of_brackets room rest, nofun⟩
  | long nonzero figures exceeds => exact ⟨_, read_of_figures room nonzero figures exceeds, nofun⟩

end InfoFlow.Toml
