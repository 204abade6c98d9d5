import InfoFlow.Scan
/-!
# Scanning step by step

What a step of reading takes from the front of a text, and what it leaves.
-/

namespace InfoFlow.Scan

variable {α β : Type} {cs rest : List Char}

/-- A step that goes through is followed by what comes next. -/
theorem bind_of_ok {s : Scan α} {a : α} (h : s cs = .ok (a, rest)) (f : α → Scan β) :
    (s >>= f) cs = f a rest := by
  show (s cs >>= fun x => f x.1 x.2) = _
  rw [h]
  rfl

theorem take_append {word : List Char} {n : Nat} (h : word.length = n) (rest : List Char) :
    take n (word ++ rest) = .ok (word, rest) := by
  unfold take
  rw [List.take_left' h, List.drop_left' h, if_neg (by omega)]

theorem take_one (c : Char) (rest : List Char) : take 1 (c :: rest) = .ok ([c], rest) := rfl

theorem accept_append (word : String) (rest : List Char) :
    accept word (word.toList ++ rest) = .ok (true, rest) := by
  unfold accept
  have hprefix : word.toList.isPrefixOf (word.toList ++ rest) = true :=
    List.isPrefixOf_iff_prefix.2 (List.prefix_append _ _)
  rw [if_pos hprefix, List.drop_left' String.length_toList]

theorem accept_of_not_prefix {word : String} (h : ¬word.toList <+: cs) :
    accept word cs = .ok (false, cs) := by
  unfold accept
  rw [if_neg fun hprefix => h (List.isPrefixOf_iff_prefix.1 hprefix)]

/-- A word is not accepted in front of another character than its first one. -/
theorem accept_of_ne {word : String} {c d : Char} {tail : List Char}
    (hword : word.toList = c :: tail) (h : d ≠ c) :
    accept word (d :: cs) = .ok (false, d :: cs) := by
  apply accept_of_not_prefix
  rw [hword, List.cons_prefix_cons]
  exact fun hc => h hc.1.symm

theorem expect_append (word : String) (rest : List Char) :
    expect word (word.toList ++ rest) = .ok ((), rest) := by
  unfold expect
  rw [bind_of_ok (accept_append word rest)]
  rfl

/-- A row of characters of a class is skipped up to one that is not of the class. -/
theorem skipWhile_append {p : Char → Bool} {c : Char} (hcs : ∀ d ∈ cs, p d = true)
    (hc : p c = false) : skipWhile p (cs ++ c :: rest) = .ok ((), c :: rest) := by
  unfold skipWhile
  rw [List.dropWhile_append_of_pos hcs, List.dropWhile_cons_of_neg (Bool.eq_false_iff.1 hc)]

theorem skipWhile_of_not {p : Char → Bool} {c : Char} (hc : p c = false) :
    skipWhile p (c :: rest) = .ok ((), c :: rest) := by
  unfold skipWhile
  rw [List.dropWhile_cons_of_neg (Bool.eq_false_iff.1 hc)]

theorem within_of_le {room size : Nat} (h : size ≤ room) (cs : List Char) :
    within room size cs = .ok (room - size, cs) := by
  unfold within
  rw [if_neg (Nat.not_lt.2 h)]
  rfl

theorem within_of_lt {room size : Nat} (h : room < size) (cs : List Char) :
    within room size cs = .error .tooDeep := by
  unfold within
  rw [if_pos h]
  rfl

theorem within_succ (room : Nat) (cs : List Char) : within (room + 1) 1 cs = .ok (room, cs) :=
  within_of_le (Nat.succ_le_succ (Nat.zero_le room)) cs

theorem expect_of_ne {word : String} {c d : Char} {tail : List Char}
    (hword : word.toList = c :: tail) (h : d ≠ c) :
    expect word (d :: cs) = .error .malformed := by
  unfold expect
  rw [bind_of_ok (accept_of_ne hword h)]
  rfl

theorem optional_of_ok {s : Scan α} {a : α} (h : s cs = .ok (a, rest)) :
    optional s cs = .ok (some a, rest) := by
  unfold optional
  rw [h]

theorem optional_of_malformed {s : Scan α} (h : s cs = .error .malformed) :
    optional s cs = .ok (none, cs) := by
  unfold optional
  rw [h]

theorem optional_of_loneUnit {s : Scan α} (h : s cs = .error .loneUnit) :
    optional s cs = .error .loneUnit := by
  unfold optional
  rw [h]

end InfoFlow.Scan
