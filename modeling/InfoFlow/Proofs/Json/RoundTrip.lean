import Mathlib.Data.List.TakeWhile
import InfoFlow.Proofs.Json.Strings
import InfoFlow.Proofs.Keyed
/-!
# Documents are read back

A document without numbers is read back as the value that it was written for, with the keys of its
tables in order. The characters that are left bound the fuel of a reading: whatever is read takes
at least half as many steps as it has characters. A list and a table are rows of parts with
commas between them, which are read alike.
-/

namespace InfoFlow.Json

/-! ## What is written -/

/-- Entries in the order of their keys. -/
def sortedByKey {α : Type} (es : List (String × α)) : List (String × α) :=
  es.mergeSort fun a b => !decide (b.1 < a.1)

mutual

/-- A value with the keys of its tables in order. -/
def ordered : Value → Value
  | .list vs => .list (orderedItems vs)
  | .table es => .table (sortedByKey (orderedEntries es))
  | v => v

/-- The items of a list, each with the keys of its tables in order. -/
def orderedItems : List Value → List Value
  | [] => []
  | v :: vs => ordered v :: orderedItems vs

/-- The entries of a table, each value with the keys of its tables in order. -/
def orderedEntries : List (String × Value) → List (String × Value)
  | [] => []
  | (k, v) :: es => (k, ordered v) :: orderedEntries es

end

theorem orderedItems_eq_map (vs : List Value) : orderedItems vs = vs.map ordered := by
  induction vs with
  | nil => rfl
  | cons v vs ih => rw [orderedItems, ih, List.map_cons]

theorem orderedEntries_eq_map (es : List (String × Value)) :
    orderedEntries es = es.map fun e => (e.1, ordered e.2) := by
  induction es with
  | nil => rfl
  | cons e es ih => rw [orderedEntries, ih, List.map_cons]

theorem indentedItems_eq_map (depth : Nat) (vs : List Value) :
    indentedItems depth vs = vs.map (indented depth) := by
  induction vs with
  | nil => rfl
  | cons v vs ih => rw [indentedItems, ih, List.map_cons]

theorem indentedEntries_eq_map (depth : Nat) (es : List (String × Value)) :
    indentedEntries depth es = es.map fun e => (e.1, indented depth e.2) := by
  induction es with
  | nil => rfl
  | cons e es ih => rw [indentedEntries, ih, List.map_cons]

theorem sortedByKey_perm {α : Type} (es : List (String × α)) : (sortedByKey es).Perm es :=
  List.mergeSort_perm _ _

theorem sortedByKey_map {α β : Type} (f : α → β) (es : List (String × α)) :
    sortedByKey (es.map fun e => (e.1, f e.2)) = (sortedByKey es).map fun e => (e.1, f e.2) := by
  unfold sortedByKey
  exact (List.map_mergeSort (f := fun e : String × α => (e.1, f e.2)) fun _ _ _ _ => rfl).symm

/-- How the entry of a table is written. -/
def memberText (depth : Nat) (e : String × Value) : String :=
  stringText e.1 ++ ": " ++ indented depth e.2

theorem indented_list (depth : Nat) (vs : List Value) :
    indented depth (.list vs) = block "[" "]" depth (vs.map (indented (depth + 1))) := by
  rw [indented, indentedItems_eq_map]

theorem indented_table (depth : Nat) (es : List (String × Value)) :
    indented depth (.table es) =
      block "\x7b" "\x7d" depth ((sortedByKey es).map (memberText (depth + 1))) := by
  rw [indented, indentedEntries_eq_map]
  show block _ _ _ ((sortedByKey (es.map fun e => (e.1, indented (depth + 1) e.2))).map _) = _
  rw [sortedByKey_map, List.map_map]
  rfl

theorem ordered_table (es : List (String × Value)) :
    ordered (.table es) = .table ((sortedByKey es).map fun e => (e.1, ordered e.2)) := by
  rw [ordered, orderedEntries_eq_map, sortedByKey_map]

/-- A look-up sees what it saw before the keys were put in order. -/
theorem ordered_table_get? (es : List (String × Value)) (h : (Keyed.keys es).Nodup) :
    ∃ table, ordered (.table es) = .table table ∧
      ∀ key, Keyed.get? table key = (Keyed.get? es key).map ordered := by
  refine ⟨_, ordered_table es, fun key => ?_⟩
  rw [Keyed.get?_map, Keyed.get?_of_perm h (sortedByKey_perm es)]

/-- A value without numbers and moments, whose tables have each key once, and whose parts are
nested in so much room. -/
inductive Legible : Nat → Value → Prop where
  | null {room : Nat} : Legible room .null
  | bool {room : Nat} (b : Bool) : Legible room (.bool b)
  | text {room : Nat} (s : String) : Legible room (.text s)
  | list {room : Nat} {vs : List Value} (items : ∀ v ∈ vs, Legible room v) :
    Legible (room + 1) (.list vs)
  | table {room : Nat} {es : List (String × Value)} (distinct : (Keyed.keys es).Nodup)
    (entries : ∀ e ∈ es, Legible room e.2) : Legible (room + 1) (.table es)

/-! ## Rows -/

/-- Parts with commas between them and a gap after each comma, up to what closes the row. -/
def rowText (gap close : List Char) : List Char → List (List Char) → List Char
  | x, [] => x ++ close
  | x, y :: ys => x ++ ',' :: (gap ++ rowText gap close y ys)

theorem toList_join_intersperse (gap s : String) (ss : List String) (close : List Char) :
    (String.join (((s :: ss).map (gap ++ ·)).intersperse ",")).toList ++ close =
      gap.toList ++ rowText gap.toList close s.toList (ss.map String.toList) := by
  induction ss generalizing s with
  | nil =>
    show (String.join [gap ++ s]).toList ++ close = gap.toList ++ (s.toList ++ close)
    rw [String.join_cons, String.toList_append, String.toList_append, List.append_assoc,
      List.append_assoc]
    rfl
  | cons t ss ih =>
    show (String.join ((gap ++ s) :: "," :: ((t :: ss).map (gap ++ ·)).intersperse ",")).toList ++
      close = gap.toList ++ (s.toList ++ ',' :: (gap.toList ++ rowText gap.toList close t.toList
        (ss.map String.toList)))
    rw [← ih, String.join_cons, String.join_cons, String.toList_append, String.toList_append,
      String.toList_append, List.append_assoc, List.append_assoc, List.append_assoc]
    rfl

theorem toList_block (left right : String) (depth : Nat) (s : String) (ss : List String) :
    (block left right depth (s :: ss)).toList = left.toList ++ ((newline (depth + 1)).toList ++
      rowText (newline (depth + 1)).toList ((newline depth).toList ++ right.toList) s.toList
        (ss.map String.toList)) := by
  rw [← toList_join_intersperse]
  show (left ++ String.join (((s :: ss).map _).intersperse ",") ++ newline depth ++ right).toList =
    _
  simp only [String.toList_append, List.append_assoc]

theorem isSpace_of_mem_newline {depth : Nat} {c : Char} (h : c ∈ (newline depth).toList) :
    isSpace c = true := by
  unfold newline at h
  simp only [String.toList_append, String.toList_ofList] at h
  rcases List.mem_append.1 h with h | h
  · rw [List.mem_singleton.1 h]
    rfl
  · rw [List.eq_of_mem_replicate h]
    rfl

/-- A text starts with a character that is no space and closes nothing. -/
def Opens (cs : List Char) : Prop :=
  ∃ c ds, cs = c :: ds ∧ isSpace c = false ∧ c ≠ ']' ∧ c ≠ '\x7d'

/-- With enough fuel, a text is read as this part of a row. -/
structure ReadsPart {α : Type} (part : Nat → Scan α) (cs : List Char) (a : α) : Prop where
  opens : Opens cs
  reads {fuel : Nat} (enough : 2 * cs.length ≤ fuel) (rest : List Char) :
    part fuel (cs ++ rest) = .ok (a, rest)

/-- A loop reads parts with commas between them up to a bracket. -/
def IsRowLoop {α : Type} (part : Nat → Scan α) (right : String) (loop : Nat → Scan (List α)) :
    Prop :=
  ∀ fuel, loop (fuel + 1) = do
    let a ← part fuel
    Scan.skipWhile isSpace
    if ← Scan.accept right then pure [a]
    else
      Scan.expect ","
      Scan.skipWhile isSpace
      return a :: (← loop fuel)

theorem Opens.skip {cs gap : List Char} (h : Opens cs) (hgap : ∀ c ∈ gap, isSpace c = true)
    (rest : List Char) : Scan.skipWhile isSpace (gap ++ (cs ++ rest)) = .ok ((), cs ++ rest) := by
  obtain ⟨c, ds, rfl, hspace, -⟩ := h
  exact Scan.skipWhile_append hgap hspace

section Rows

variable {α : Type} {part : Nat → Scan α} {loop : Nat → Scan (List α)} {right : String} {r : Char}
  {gap indent : List Char}

theorem opens_rowText {close : List Char} {x : List Char} (hx : Opens x) (ys : List (List Char)) :
    Opens (rowText gap close x ys) := by
  obtain ⟨c, ds, rfl, hc⟩ := hx
  cases ys with
  | nil => exact ⟨c, _, rfl, hc⟩
  | cons y ys => exact ⟨c, _, rfl, hc⟩

theorem IsRowLoop.reads (hloop : IsRowLoop part right loop) (hright : right.toList = [r])
    (hspace : isSpace r = false) (hcomma : ',' ≠ r) (hgap : ∀ c ∈ gap, isSpace c = true)
    (hindent : ∀ c ∈ indent, isSpace c = true) {x : List Char} {a : α} (hx : ReadsPart part x a)
    {ys : List (List Char)} {bs : List α} (hys : List.Forall₂ (ReadsPart part) ys bs) {fuel : Nat}
    (hfuel : 2 * (rowText gap (indent ++ right.toList) x ys).length < fuel) (rest : List Char) :
    loop fuel (rowText gap (indent ++ right.toList) x ys ++ rest) = .ok (a :: bs, rest) := by
  -- by the parts after the first, each of which leaves fuel for those that follow it
  induction hys generalizing x a fuel with
  | nil =>
    cases fuel with
    | zero => exact absurd hfuel (Nat.not_lt_zero _)
    | succ fuel =>
      rw [rowText, List.length_append] at hfuel
      rw [rowText, hloop, List.append_assoc, Scan.bind_of_ok (hx.reads (by omega) _),
        List.append_assoc, hright]
      have hskip : Scan.skipWhile isSpace (indent ++ r :: rest) = .ok ((), r :: rest) :=
        Scan.skipWhile_append hindent hspace
      have haccept := Scan.accept_append right rest
      rw [hright] at haccept
      show (Scan.skipWhile isSpace >>= _) (indent ++ r :: rest) = _
      rw [Scan.bind_of_ok hskip]
      show (Scan.accept right >>= _) ([r] ++ rest) = _
      rw [Scan.bind_of_ok haccept]
      rfl
  | @cons y b ys bs hy hys ih =>
    cases fuel with
    | zero => exact absurd hfuel (Nat.not_lt_zero _)
    | succ fuel =>
      rw [rowText, List.length_append, List.length_cons, List.length_append] at hfuel
      have hrest : loop fuel (rowText gap (indent ++ right.toList) y ys ++ rest) =
          .ok (b :: bs, rest) := ih hy (by omega)
      have hopens : Opens (rowText gap (indent ++ right.toList) y ys) := opens_rowText hy.opens ys
      rw [rowText, hloop, List.append_assoc, Scan.bind_of_ok (hx.reads (by omega) _)]
      generalize rowText gap (indent ++ right.toList) y ys = more at hrest hopens
      -- the comma is no space, and what follows the gap after it begins the rest of the row
      have hcommaSkip : Scan.skipWhile isSpace (',' :: (gap ++ (more ++ rest))) =
          .ok ((), ',' :: (gap ++ (more ++ rest))) :=
        Scan.skipWhile_of_not rfl
      have hrefuse : Scan.accept right (',' :: (gap ++ (more ++ rest))) = .ok (false, _) :=
        Scan.accept_of_ne hright hcomma
      have hexpect : Scan.expect "," (',' :: (gap ++ (more ++ rest))) = .ok ((), _) :=
        Scan.expect_append "," (gap ++ (more ++ rest))
      rw [List.cons_append, List.append_assoc, Scan.bind_of_ok hcommaSkip,
        Scan.bind_of_ok hrefuse]
      show (Scan.expect "," >>= _) (',' :: (gap ++ (more ++ rest))) = _
      rw [Scan.bind_of_ok hexpect, Scan.bind_of_ok (hopens.skip hgap rest), Scan.bind_of_ok hrest]
      rfl

end Rows

/-! ## Values -/

theorem value_of_scalar {fuel room : Nat} {c : Char} {cs : List Char} (hlist : c ≠ '[')
    (htable : c ≠ '\x7b') : value (fuel + 1) room (c :: cs) = scalar (c :: cs) := by
  have hbracket : Scan.accept "[" (c :: cs) = .ok (false, c :: cs) := Scan.accept_of_ne rfl hlist
  have hbrace : Scan.accept "\x7b" (c :: cs) = .ok (false, c :: cs) :=
    Scan.accept_of_ne rfl htable
  rw [value, Scan.bind_of_ok hbracket]
  show (Scan.accept "\x7b" >>= _) (c :: cs) = _
  rw [Scan.bind_of_ok hbrace]
  rfl

theorem scalar_null (rest : List Char) : scalar ("null".toList ++ rest) = .ok (.null, rest) := rfl

theorem scalar_bool (b : Bool) (rest : List Char) :
    scalar ((scalarText (.bool b)).toList ++ rest) = .ok (.bool b, rest) := by
  cases b <;> rfl

/-- None of the words starts with a quote. -/
theorem scalar_quote (cs : List Char) :
    scalar ('"' :: cs) = (do return .text (← string) : Scan Value) cs := rfl

theorem scalar_text (s : String) (rest : List Char) :
    scalar ((scalarText (.text s)).toList ++ rest) = .ok (.text s, rest) := by
  obtain ⟨body, hbody, hread⟩ := string_stringText s rest
  unfold scalarText
  rw [hbody, List.cons_append, scalar_quote, Scan.bind_of_ok hread]
  rfl

/-- What begins with one of these characters is read as it is without room for parts. -/
theorem readsPart_scalar {room : Nat} {v w : Value} {c : Char} {cs : List Char}
    (htext : (scalarText v).toList = c :: cs) (hc : c ∈ ['n', 't', 'f', '"'])
    (hread : ∀ rest, scalar ((scalarText v).toList ++ rest) = .ok (w, rest)) :
    ReadsPart (value · room) (scalarText v).toList w := by
  have hstart : ∀ d ∈ ['n', 't', 'f', '"'], isSpace d = false ∧ d ≠ ']' ∧ d ≠ '\x7d' ∧
      d ≠ '[' ∧ d ≠ '\x7b' := by
    simp only [List.forall_mem_cons, List.not_mem_nil, false_implies, implies_true]
    decide
  obtain ⟨hspace, hlist, htable, hbracket, hbrace⟩ := hstart c hc
  refine ⟨⟨c, cs, htext, hspace, hlist, htable⟩, fun {fuel} hfuel rest => ?_⟩
  cases fuel with
  | zero =>
    rw [htext, List.length_cons] at hfuel
    omega
  | succ fuel =>
    rw [← hread rest, htext]
    exact value_of_scalar hbracket hbrace

/-- An entry of a table, as it is read. -/
def member (fuel room : Nat) : Scan (String × Value) := do
  Scan.expect "\""
  let key ← string
  Scan.skipWhile isSpace
  Scan.expect ":"
  Scan.skipWhile isSpace
  let v ← value fuel room
  return (key, v)

theorem isRowLoop_items (room : Nat) : IsRowLoop (value · room) "]" (items · room) := by
  intro fuel
  show items (fuel + 1) room = _
  rw [items]

theorem isRowLoop_members (room : Nat) : IsRowLoop (member · room) "\x7d" (members · room) := by
  intro fuel
  show members (fuel + 1) room = _
  rw [members]
  unfold member
  simp only [bind_assoc, pure_bind]

theorem toList_memberText (depth : Nat) (k : String) (v : Value) :
    (memberText depth (k, v)).toList =
      (stringText k).toList ++ ':' :: ' ' :: (indented depth v).toList := by
  unfold memberText
  rw [String.toList_append, String.toList_append, List.append_assoc]
  rfl

theorem readsPart_member {room depth : Nat} {k : String} {v w : Value}
    (h : ReadsPart (value · room) (indented depth v).toList w) :
    ReadsPart (member · room) (memberText depth (k, v)).toList (k, w) := by
  rw [toList_memberText]
  refine ⟨?_, fun {fuel} hfuel rest => ?_⟩
  · obtain ⟨body, hbody, -⟩ := string_stringText k []
    rw [hbody]
    exact ⟨'"', _, rfl, by decide⟩
  · rw [List.length_append, List.length_cons, List.length_cons] at hfuel
    generalize htext : (indented depth v).toList = text at h hfuel ⊢
    obtain ⟨body, hbody, hkey⟩ := string_stringText k (':' :: ' ' :: (text ++ rest))
    have hquote : Scan.expect "\"" ('"' :: (body ++ ':' :: ' ' :: (text ++ rest))) =
        .ok ((), body ++ ':' :: ' ' :: (text ++ rest)) := Scan.expect_append "\"" _
    have hbefore : Scan.skipWhile isSpace (':' :: ' ' :: (text ++ rest)) = .ok ((), _) :=
      Scan.skipWhile_of_not rfl
    have hcolon : Scan.expect ":" (':' :: ' ' :: (text ++ rest)) = .ok ((), _) :=
      Scan.expect_append ":" _
    have hafter : Scan.skipWhile isSpace ([' '] ++ (text ++ rest)) = .ok ((), _) :=
      h.opens.skip (List.forall_mem_singleton.2 rfl) rest
    have hvalue : value fuel room (text ++ rest) = .ok (w, rest) := h.reads (by omega) rest
    unfold member
    rw [hbody]
    simp only [List.cons_append, List.append_assoc]
    rw [Scan.bind_of_ok hquote, Scan.bind_of_ok hkey, Scan.bind_of_ok hbefore,
      Scan.bind_of_ok hcolon]
    show (Scan.skipWhile isSpace >>= _) ([' '] ++ (text ++ rest)) = _
    rw [Scan.bind_of_ok hafter, Scan.bind_of_ok hvalue]
    rfl

/-! ## Lists and tables -/

theorem Opens.accept_false {cs : List Char} {right : String} {r : Char} (h : Opens cs)
    (hright : right.toList = [r]) (hr : r = ']' ∨ r = '\x7d') (rest : List Char) :
    Scan.accept right (cs ++ rest) = .ok (false, cs ++ rest) := by
  obtain ⟨c, ds, rfl, -, hbracket, hbrace⟩ := h
  apply Scan.accept_of_ne hright
  rcases hr with rfl | rfl
  · exact hbracket
  · exact hbrace

/-- Between brackets, a scanner reads nothing or what a loop reads. -/
structure IsBracketed {α : Type} (whole : Nat → Scan Value) (loop : Nat → Scan (List α))
    (left right : Char) (wrap : List α → Value) : Prop where
  empty (fuel : Nat) (rest : List Char) :
    whole (fuel + 1) (left :: right :: rest) = .ok (wrap [], rest)
  filled {fuel : Nat} {gap cs rest after : List Char} {as : List α}
    (hgap : ∀ c ∈ gap, isSpace c = true) (hcs : Opens cs)
    (hloop : loop fuel (cs ++ rest) = .ok (as, after)) :
    whole (fuel + 1) (left :: (gap ++ (cs ++ rest))) = .ok (wrap as, after)

theorem isBracketed_list (room : Nat) :
    IsBracketed (value · (room + 1)) (items · room) '[' ']' .list where
  empty fuel rest := rfl
  filled {fuel gap cs rest after as} hgap hcs hloop := by
    have hopen : Scan.accept "[" ('[' :: (gap ++ (cs ++ rest))) = .ok (true, _) :=
      Scan.accept_append "[" (gap ++ (cs ++ rest))
    show value (fuel + 1) (room + 1) _ = _
    rw [value, Scan.bind_of_ok hopen]
    show (Scan.within (room + 1) 1 >>= _) (gap ++ (cs ++ rest)) = _
    rw [Scan.bind_of_ok (Scan.within_succ room _), Scan.bind_of_ok (hcs.skip hgap rest),
      Scan.bind_of_ok (hcs.accept_false rfl (.inl rfl) rest)]
    show (items fuel room >>= _) (cs ++ rest) = _
    rw [Scan.bind_of_ok hloop]
    rfl

theorem isBracketed_table (room : Nat) :
    IsBracketed (value · (room + 1)) (members · room) '\x7b' '\x7d'
      fun es => .table (Keyed.ofList es) where
  empty fuel rest := rfl
  filled {fuel gap cs rest after es} hgap hcs hloop := by
    have hlist : Scan.accept "[" ('\x7b' :: (gap ++ (cs ++ rest))) = .ok (false, _) :=
      Scan.accept_of_ne rfl (by decide)
    have hopen : Scan.accept "\x7b" ('\x7b' :: (gap ++ (cs ++ rest))) = .ok (true, _) :=
      Scan.accept_append "\x7b" (gap ++ (cs ++ rest))
    show value (fuel + 1) (room + 1) _ = _
    rw [value, Scan.bind_of_ok hlist]
    show (Scan.accept "\x7b" >>= _) ('\x7b' :: (gap ++ (cs ++ rest))) = _
    rw [Scan.bind_of_ok hopen]
    show (Scan.within (room + 1) 1 >>= _) (gap ++ (cs ++ rest)) = _
    rw [Scan.bind_of_ok (Scan.within_succ room _), Scan.bind_of_ok (hcs.skip hgap rest),
      Scan.bind_of_ok (hcs.accept_false rfl (.inr rfl) rest)]
    show (members fuel room >>= _) (cs ++ rest) = _
    rw [Scan.bind_of_ok hloop]
    rfl

/-- Parts between brackets are read back, whether they are items or entries. -/
theorem readsPart_block {α : Type} {part : Nat → Scan α} {loop : Nat → Scan (List α)}
    {whole : Nat → Scan Value} {wrap : List α → Value} {left right : String} {l r : Char}
    (hleft : left.toList = [l]) (hright : right.toList = [r])
    (hpair : (l, r) ∈ [('[', ']'), ('\x7b', '\x7d')]) (hrow : IsRowLoop part right loop)
    (hwhole : IsBracketed whole loop l r wrap) (depth : Nat) {ss : List String} {as : List α}
    (hparts : List.Forall₂ (fun s a => ReadsPart part s.toList a) ss as) :
    ReadsPart whole (block left right depth ss).toList (wrap as) := by
  have hmarks : ∀ p ∈ [('[', ']'), ('\x7b', '\x7d')], isSpace p.1 = false ∧ p.1 ≠ ']' ∧
      p.1 ≠ '\x7d' ∧ isSpace p.2 = false ∧ ',' ≠ p.2 := by decide
  obtain ⟨hl, hbracket, hbrace, hr, hcomma⟩ := hmarks _ hpair
  have hopens (cs : List Char) : Opens (left.toList ++ cs) := by
    rw [hleft]
    exact ⟨l, cs, rfl, hl, hbracket, hbrace⟩
  cases hparts with
  | nil =>
    have htext : (block left right depth []).toList = left.toList ++ right.toList :=
      String.toList_append
    rw [htext]
    refine ⟨hopens _, fun {fuel} hfuel rest => ?_⟩
    rw [hleft, hright] at *
    cases fuel with
    | zero => exact absurd hfuel (Nat.not_succ_le_zero 3)
    | succ fuel => exact hwhole.empty fuel rest
  | @cons s a ss as hs hss =>
    rw [toList_block]
    refine ⟨hopens _, fun {fuel} hfuel rest => ?_⟩
    have hrest : List.Forall₂ (ReadsPart part) (ss.map String.toList) as :=
      List.forall₂_map_left_iff.2 hss
    rw [hleft, List.length_append, List.length_append, List.length_singleton] at hfuel
    cases fuel with
    | zero => omega
    | succ fuel =>
      have hgap : ∀ c ∈ (newline (depth + 1)).toList, isSpace c = true :=
        fun _ => isSpace_of_mem_newline
      have hindent : ∀ c ∈ (newline depth).toList, isSpace c = true :=
        fun _ => isSpace_of_mem_newline
      have hread : loop fuel (rowText (newline (depth + 1)).toList
          ((newline depth).toList ++ right.toList) s.toList (ss.map String.toList) ++ rest) =
          .ok (a :: as, rest) :=
        hrow.reads hright hr hcomma hgap hindent hs hrest (by omega) rest
      rw [hleft, List.append_assoc, List.append_assoc, List.singleton_append]
      exact hwhole.filled hgap (opens_rowText hs.opens _) hread

/-- A value that is written is read back with the keys of its tables in order. -/
theorem readsPart_indented {room : Nat} {v : Value} (h : Legible room v) (depth : Nat) :
    ReadsPart (value · room) (indented depth v).toList (ordered v) := by
  induction h generalizing depth with
  | null =>
    exact readsPart_scalar (v := .null) rfl (by decide) scalar_null
  | bool b =>
    cases b with
    | true => exact readsPart_scalar (v := .bool true) rfl (by decide) (scalar_bool true)
    | false => exact readsPart_scalar (v := .bool false) rfl (by decide) (scalar_bool false)
  | text s =>
    obtain ⟨body, hbody, -⟩ := string_stringText s []
    exact readsPart_scalar (v := .text s) hbody (by decide) (scalar_text s)
  | @list room vs _ ih =>
    rw [indented_list, ordered, orderedItems_eq_map]
    refine readsPart_block rfl rfl (by decide) (isRowLoop_items room) (isBracketed_list room)
      depth ?_
    rw [List.forall₂_map_left_iff, List.forall₂_map_right_iff, List.forall₂_same]
    exact fun v hv => ih v hv (depth + 1)
  | @table room es hdistinct _ ih =>
    -- the entries are put into a table one by one, which keeps them as their keys are distinct
    have hkeys : (Keyed.keys ((sortedByKey es).map fun e => (e.1, ordered e.2))).Nodup := by
      unfold Keyed.keys at hdistinct ⊢
      rw [List.map_map]
      exact ((sortedByKey_perm es).map Prod.fst).nodup_iff.2 hdistinct
    rw [indented_table, ordered_table, ← Keyed.ofList_of_nodup hkeys]
    refine readsPart_block rfl rfl (by decide) (isRowLoop_members room) (isBracketed_table room)
      depth ?_
    rw [List.forall₂_map_left_iff, List.forall₂_map_right_iff, List.forall₂_same]
    exact fun e he => readsPart_member (ih e ((sortedByKey_perm es).mem_iff.1 he) (depth + 1))

/-- A document is read back, whatever space follows it. -/
theorem read_indented {room : Nat} {v : Value} (h : Legible room v) (depth : Nat) {ws : List Char}
    (hws : ∀ c ∈ ws, isSpace c = true) :
    read room ((indented depth v).toList ++ ws) = .ok (ordered v) := by
  have hpart := readsPart_indented h depth
  generalize (indented depth v).toList = cs at hpart
  have hvalue : value (2 * (cs ++ ws).length + 2) room (cs ++ ws) = .ok (ordered v, ws) := by
    apply hpart.reads
    rw [List.length_append]
    omega
  have hend : Scan.skipWhile isSpace ws = .ok ((), []) := by
    unfold Scan.skipWhile
    rw [List.dropWhile_eq_nil_iff.2 hws]
  have hstart : Scan.skipWhile isSpace (cs ++ ws) = .ok ((), cs ++ ws) :=
    hpart.opens.skip (List.forall_mem_nil _) ws
  have hdocument : document room (cs ++ ws).length (cs ++ ws) = .ok (ordered v, []) := by
    unfold document
    rw [Scan.bind_of_ok hstart, Scan.bind_of_ok hvalue, Scan.bind_of_ok hend]
    rfl
  unfold read
  show (document _ _ _).map Prod.fst = _
  rw [hdocument]
  rfl

end InfoFlow.Json
