import InfoFlow.NodeSet
import InfoFlow.Proofs.Text.Quoted
/-!
# Quoted forms tell nodes apart

The first character of a quoted form tells which kind of node it is, and a quoted form that stands
in a tuple is told from the comma or the parenthesis after it. So quoting is injective, the order of
the quoted forms leaves no choice, and a set of nodes is determined by its members.
-/

namespace InfoFlow.Node

/-! ## Whole numbers -/

def IsNumeral (c : Char) : Prop := c = '-' ∨ c.isDigit = true

theorem toList_toString_ofNat (m : Nat) : (toString (Int.ofNat m)).toList = Nat.toDigits 10 m := by
  rw [Int.toString_eq_repr]
  exact Nat.toList_repr

theorem toList_toString_negSucc (m : Nat) :
    (toString (Int.negSucc m)).toList = '-' :: Nat.toDigits 10 (m + 1) := by
  rw [Int.toString_eq_repr, Int.repr, String.toList_append, Nat.toList_repr]
  rfl

theorem isDigit_of_mem_decimal {c : Char} {m : Nat} (h : c ∈ Nat.toDigits 10 m) :
    c.isDigit = true := Nat.isDigit_of_mem_toDigits (by decide) (by decide) h

theorem isNumeral_of_mem_toString {c : Char} {i : Int} (h : c ∈ (toString i).toList) :
    IsNumeral c := by
  cases i with
  | ofNat m =>
    rw [toList_toString_ofNat] at h
    exact .inr (isDigit_of_mem_decimal h)
  | negSucc m =>
    rw [toList_toString_negSucc] at h
    rcases List.mem_cons.1 h with h | h
    · exact .inl h
    · exact .inr (isDigit_of_mem_decimal h)

theorem toDigits_ten_injective {m n : Nat} (h : Nat.toDigits 10 m = Nat.toDigits 10 n) : m = n := by
  have hvalue := congrArg (fun cs => Nat.ofDigitChars 10 cs 0) h
  simpa only [Nat.ofDigitChars_ten_toDigits] using hvalue

theorem toDigits_ne_sign {m : Nat} {cs : List Char} : Nat.toDigits 10 m ≠ '-' :: cs := by
  intro h
  have hsign : '-' ∈ Nat.toDigits 10 m := h ▸ List.mem_cons_self
  exact absurd (isDigit_of_mem_decimal hsign) (by decide)

theorem toList_toString_injective {i j : Int} (h : (toString i).toList = (toString j).toList) :
    i = j := by
  cases i with
  | ofNat m =>
    cases j with
    | ofNat n =>
      rw [toList_toString_ofNat, toList_toString_ofNat] at h
      rw [toDigits_ten_injective h]
    | negSucc n =>
      rw [toList_toString_ofNat, toList_toString_negSucc] at h
      exact absurd h toDigits_ne_sign
  | negSucc m =>
    cases j with
    | ofNat n =>
      rw [toList_toString_ofNat, toList_toString_negSucc] at h
      exact absurd h.symm toDigits_ne_sign
    | negSucc n =>
      rw [toList_toString_negSucc, toList_toString_negSucc] at h
      have hdigits := toDigits_ten_injective (List.cons.inj h).2
      rw [Nat.succ.inj hdigits]

/-! ## What follows a quoted form -/

/-- The end of the text, or what stands behind a node in a tuple. -/
def Closes (r : List Char) : Prop := ∀ c ∈ r.head?, c = ',' ∨ c = ')'

theorem closes_comma (r : List Char) : Closes (',' :: r) := fun _ h => .inl (Option.some.inj h).symm

theorem closes_nil : Closes [] := fun _ h => nomatch h

/-- The end of a tuple. Between the parts of a tuple, a space follows the comma. -/
def EndsTuple (r : List Char) : Prop := (∃ t, r = ')' :: t) ∨ ∃ t, r = ',' :: ')' :: t

theorem EndsTuple.closes {r : List Char} (h : EndsTuple r) : Closes r := by
  rcases h with ⟨t, rfl⟩ | ⟨t, rfl⟩
  · exact fun _ hc => .inr (Option.some.inj hc).symm
  · exact closes_comma _

theorem EndsTuple.ne_separator {r u : List Char} (h : EndsTuple r) : r ≠ ',' :: ' ' :: u := by
  rintro rfl
  rcases h with ⟨t, ht⟩ | ⟨t, ht⟩
  · exact absurd (List.cons.inj ht).1 (by decide)
  · exact absurd (List.cons.inj (List.cons.inj ht).2).1 (by decide)

theorem Closes.not_isNumeral {c : Char} {r : List Char} (h : Closes (c :: r)) : ¬IsNumeral c := by
  rcases h c rfl with rfl | rfl
  · rintro (h | h) <;> exact absurd h (by decide)
  · rintro (h | h) <;> exact absurd h (by decide)

theorem numeral_append_inj {as bs r r' : List Char} (ha : ∀ c ∈ as, IsNumeral c)
    (hb : ∀ c ∈ bs, IsNumeral c) (hr : Closes r) (hr' : Closes r') (h : as ++ r = bs ++ r') :
    as = bs ∧ r = r' := by
  induction as generalizing bs with
  | nil =>
    cases bs with
    | nil => exact ⟨rfl, h⟩
    | cons b bs =>
      rw [List.nil_append] at h
      exact absurd (hb b List.mem_cons_self) (Closes.not_isNumeral (h ▸ hr))
  | cons a as ih =>
    cases bs with
    | nil =>
      rw [List.nil_append] at h
      exact absurd (ha a List.mem_cons_self) (Closes.not_isNumeral (h ▸ hr'))
    | cons b bs =>
      obtain ⟨rfl, htail⟩ := List.cons.inj h
      obtain ⟨rfl, hrest⟩ := ih (fun c hc => ha c (List.mem_cons_of_mem _ hc))
        (fun c hc => hb c (List.mem_cons_of_mem _ hc)) htail
      exact ⟨rfl, hrest⟩

/-- The end of the quoted form of a tuple with some parts. -/
def closing : List Node → List Char
  | [_] => [',', ')']
  | _ => [')']

theorem endsTuple_closing : ∀ (ps : List Node) (r : List Char), EndsTuple (closing ps ++ r)
  | [], r => .inl ⟨r, rfl⟩
  | [_], r => .inr ⟨r, rfl⟩
  | _ :: _ :: _, r => .inl ⟨r, rfl⟩

theorem quotedParts_singleton (p : Node) : quotedParts [p] = p.quotedChars := rfl

theorem quotedParts_cons_cons (p q : Node) (ps : List Node) :
    quotedParts (p :: q :: ps) = p.quotedChars ++ ',' :: ' ' :: quotedParts (q :: ps) := rfl

theorem quotedChars_tuple :
    ∀ ps, (Node.tuple ps).quotedChars = '(' :: (quotedParts ps ++ closing ps)
  | [] => rfl
  | [_] => rfl
  | _ :: _ :: _ => rfl

/-! ## First characters -/

/-- What the first character of a quoted form shows. -/
inductive Lead where
  | null
  | number
  | text
  | tuple
  | other
deriving DecidableEq

def Lead.ofChar (c : Char) : Lead :=
  if c = 'N' then .null
  else if c = '-' ∨ c.isDigit = true then .number
  else if c = '\'' ∨ c = '"' then .text
  else if c = '(' then .tuple
  else .other

def lead : Node → Lead
  | .null => .null
  | .int _ => .number
  | .text _ => .text
  | .tuple _ => .tuple

theorem Lead.ofChar_numeral {c : Char} (h : IsNumeral c) : Lead.ofChar c = .number := by
  have hN : c ≠ 'N' := by
    rintro rfl
    rcases h with h | h <;> exact absurd h (by decide)
  have hnumber : c = '-' ∨ c.isDigit = true := h
  rw [Lead.ofChar, if_neg hN, if_pos hnumber]

theorem quotedChars_eq_cons (n : Node) :
    ∃ c cs, n.quotedChars = c :: cs ∧ Lead.ofChar c = n.lead := by
  match n with
  | .null => exact ⟨'N', ['o', 'n', 'e'], by rw [quotedChars], by decide⟩
  | .int i =>
    rw [quotedChars]
    cases hi : (toString i).toList with
    | nil =>
      -- the digits of no number are missing
      cases i with
      | ofNat m =>
        rw [toList_toString_ofNat] at hi
        exact absurd hi Nat.toDigits_ne_nil
      | negSucc m =>
        rw [toList_toString_negSucc] at hi
        exact absurd hi (List.cons_ne_nil _ _)
    | cons c cs =>
      have hc : c ∈ (toString i).toList := hi ▸ List.mem_cons_self
      exact ⟨c, cs, rfl, Lead.ofChar_numeral (isNumeral_of_mem_toString hc)⟩
  | .text s =>
    rw [quotedChars, Text.quotedChars]
    refine ⟨_, _, rfl, ?_⟩
    rcases Text.isQuote_quoteMark s.toList with h | h
    · rw [h]
      rfl
    · rw [h]
      rfl
  | .tuple ps => exact ⟨'(', _, quotedChars_tuple ps, rfl⟩

theorem lead_ne_other (n : Node) : n.lead ≠ .other := by
  cases n <;> exact nofun

theorem lead_eq {n m : Node} {r r' : List Char} (h : n.quotedChars ++ r = m.quotedChars ++ r') :
    n.lead = m.lead := by
  obtain ⟨c, cs, hn, hc⟩ := n.quotedChars_eq_cons
  obtain ⟨d, ds, hm, hd⟩ := m.quotedChars_eq_cons
  rw [hn, hm] at h
  rw [← hc, ← hd, (List.cons.inj h).1]

/-- No node starts like the end of a tuple. -/
theorem not_endsTuple_quotedChars (n : Node) (r : List Char) : ¬EndsTuple (n.quotedChars ++ r) := by
  obtain ⟨c, cs, hn, hc⟩ := n.quotedChars_eq_cons
  rw [hn]
  intro h
  have hother : Lead.ofChar c = .other := by
    rcases h with ⟨t, ht⟩ | ⟨t, ht⟩
    · rw [(List.cons.inj ht).1]
      decide
    · rw [(List.cons.inj ht).1]
      decide
  exact n.lead_ne_other (hc ▸ hother)

theorem not_endsTuple_quotedParts (p : Node) (ps : List Node) (r : List Char) :
    ¬EndsTuple (quotedParts (p :: ps) ++ r) := by
  cases ps with
  | nil => exact p.not_endsTuple_quotedChars r
  | cons q qs =>
    rw [quotedParts_cons_cons, List.append_assoc]
    exact p.not_endsTuple_quotedChars _

/-! ## Whole quoted forms -/

mutual

/-- The quoted form of a node is told from what follows it, and so is the node itself. -/
theorem quotedChars_append_inj : (n m : Node) → {r r' : List Char} → Closes r → Closes r' →
    n.quotedChars ++ r = m.quotedChars ++ r' → n = m ∧ r = r'
  | .null, .null, _, _, _, _, h => ⟨rfl, List.append_cancel_left h⟩
  | .int i, .int j, r, r', hr, hr', h => by
    rw [quotedChars, quotedChars] at h
    obtain ⟨hdigits, hrest⟩ := numeral_append_inj (fun _ => isNumeral_of_mem_toString)
      (fun _ => isNumeral_of_mem_toString) hr hr' h
    rw [toList_toString_injective hdigits]
    exact ⟨rfl, hrest⟩
  | .text s, .text t, r, r', _, _, h => by
    rw [quotedChars, quotedChars] at h
    obtain ⟨htext, hrest⟩ := Text.quotedChars_append_inj h
    rw [String.toList_inj.mp htext]
    exact ⟨rfl, hrest⟩
  | .tuple ps, .tuple qs, r, r', _, _, h => by
    -- once the parts agree, so do the closings, which depend on them only
    rw [quotedChars_tuple, quotedChars_tuple, List.cons_append, List.cons_append,
      List.append_assoc, List.append_assoc] at h
    obtain ⟨hparts, hrest⟩ := quotedParts_append_inj ps qs (endsTuple_closing ps r)
      (endsTuple_closing qs r') (List.cons.inj h).2
    rw [hparts] at hrest ⊢
    exact ⟨rfl, List.append_cancel_left hrest⟩
  | .null, .int _, _, _, _, _, h | .null, .text _, _, _, _, _, h
  | .null, .tuple _, _, _, _, _, h | .int _, .null, _, _, _, _, h
  | .int _, .text _, _, _, _, _, h | .int _, .tuple _, _, _, _, _, h
  | .text _, .null, _, _, _, _, h | .text _, .int _, _, _, _, _, h
  | .text _, .tuple _, _, _, _, _, h | .tuple _, .null, _, _, _, _, h
  | .tuple _, .int _, _, _, _, _, h | .tuple _, .text _, _, _, _, _, h => nomatch lead_eq h

/-- A row of nodes is told from the end of the tuple behind it. -/
theorem quotedParts_append_inj : (ps qs : List Node) → {r r' : List Char} → EndsTuple r →
    EndsTuple r' → quotedParts ps ++ r = quotedParts qs ++ r' → ps = qs ∧ r = r'
  | [], [], _, _, _, _, h => ⟨rfl, h⟩
  | [], q :: qs, r, r', hr, _, h => by
    have h : r = quotedParts (q :: qs) ++ r' := h
    exact absurd (h ▸ hr) (not_endsTuple_quotedParts q qs r')
  | p :: ps, [], r, r', _, hr', h => by
    have h : quotedParts (p :: ps) ++ r = r' := h
    exact absurd (h ▸ hr') (not_endsTuple_quotedParts p ps r)
  | [p], [q], _, _, hr, hr', h => by
    rw [quotedParts_singleton, quotedParts_singleton] at h
    obtain ⟨rfl, hrest⟩ := quotedChars_append_inj p q hr.closes hr'.closes h
    exact ⟨rfl, hrest⟩
  | [p], q :: q' :: qs, r, r', hr, _, h => by
    -- the comma of a pair of one node is followed by a parenthesis, that of a longer one by a space
    rw [quotedParts_cons_cons, quotedParts_singleton, List.append_assoc] at h
    obtain ⟨_, hrest⟩ := quotedChars_append_inj p q hr.closes (closes_comma _) h
    exact absurd hrest hr.ne_separator
  | p :: p' :: ps, [q], r, r', _, hr', h => by
    rw [quotedParts_cons_cons, quotedParts_singleton, List.append_assoc] at h
    obtain ⟨_, hrest⟩ := quotedChars_append_inj p q (closes_comma _) hr'.closes h
    exact absurd hrest.symm hr'.ne_separator
  | p :: p' :: ps, q :: q' :: qs, r, r', hr, hr', h => by
    rw [quotedParts_cons_cons, quotedParts_cons_cons, List.append_assoc, List.append_assoc] at h
    obtain ⟨rfl, hrest⟩ := quotedChars_append_inj p q (closes_comma _) (closes_comma _) h
    have htail := (List.cons.inj (List.cons.inj hrest).2).2
    obtain ⟨hparts, hrest⟩ := quotedParts_append_inj (p' :: ps) (q' :: qs) hr hr' htail
    rw [hparts]
    exact ⟨rfl, hrest⟩

end

theorem quoted_injective {n m : Node} (h : n.quoted = m.quoted) : n = m := by
  have hchars : n.quotedChars = m.quotedChars := String.ofList_inj.mp h
  have happend : n.quotedChars ++ [] = m.quotedChars ++ [] := by
    rw [hchars]
  exact (quotedChars_append_inj n m closes_nil closes_nil happend).1

/-- The order of the quoted forms is total on nodes. -/
theorem eq_of_not_lt {n m : Node} (h : ¬m.quoted < n.quoted) (k : ¬n.quoted < m.quoted) : n = m :=
  quoted_injective (String.le_antisymm (String.not_lt.1 h) (String.not_lt.1 k))

/-- The order of the quoted forms leaves a row of nodes no choice. -/
theorem eq_of_perm_of_ascending {ns ms : List Node} (hperm : ns.Perm ms)
    (hns : Ordered.Ascending quoted ns) (hms : Ordered.Ascending quoted ms) : ns = ms :=
  List.Perm.eq_of_pairwise (fun _ _ _ _ hab hba => eq_of_not_lt hab hba) hns hms hperm

end InfoFlow.Node

namespace InfoFlow.NodeSet

/-- The nodes of a set ascend, and no two of them have one quoted form. -/
theorem pairwise_lt (s : NodeSet) : s.nodes.Pairwise fun n m => n.quoted < m.quoted := by
  have hboth := List.Pairwise.and s.ascending s.nodup
  apply hboth.imp
  rintro n m ⟨hle, hne⟩
  by_contra hlt
  exact hne (Node.eq_of_not_lt hle hlt)

/-- Sets with the same members are equal: their order leaves no choice. -/
theorem ext {s t : NodeSet} (h : ∀ n, n ∈ s ↔ n ∈ t) : s = t := by
  have hperm : s.nodes.Perm t.nodes := (List.perm_ext_iff_of_nodup s.nodup t.nodup).2 h
  have hnodes : s.nodes = t.nodes :=
    Node.eq_of_perm_of_ascending hperm s.ascending t.ascending
  obtain ⟨_, _, _⟩ := s
  obtain ⟨_, _, _⟩ := t
  cases hnodes
  rfl

end InfoFlow.NodeSet
