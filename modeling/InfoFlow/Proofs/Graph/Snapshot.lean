import InfoFlow.Graph.Snapshot
import InfoFlow.Proofs.Graph.Content
/-!
# What a snapshot describes

A snapshot is read part by part, and a graph is built from the parts, which checks the markers and
the kinds of the edges again. Which values are snapshots, and what graph each of them describes, can
be said of the value itself, without the order of the checks.
-/

namespace InfoFlow

namespace Value

/-! ## Snapshots -/

/-- A value that a JSON text denotes: it holds no moments, and each of its tables has each of its
keys once. -/
inductive IsJson : Value → Prop where
  | null : IsJson .null
  | bool (b : Bool) : IsJson (.bool b)
  | int (i : Int) : IsJson (.int i)
  | float (x : Decimal.Binary64) : IsJson (.float x)
  | text (s : String) : IsJson (.text s)
  | list {vs : List Value} (items : ∀ v ∈ vs, IsJson v) : IsJson (.list vs)
  | table {es : List (String × Value)} (distinct : (Keyed.keys es).Nodup)
    (entries : ∀ e ∈ es, IsJson e.2) : IsJson (.table es)

/-- What a table holds under a key. -/
def part? (v : Value) (key : String) : Option Value := v.entries?.bind (Keyed.get? · key)

def IsTexts (v : Value) : Prop := ∃ ss : List String, v = .list (ss.map .text)

/-- A list of texts none of which is empty. -/
def IsNames (v : Value) : Prop := ∃ ss : List String, v = .list (ss.map .text) ∧ "" ∉ ss

/-- An edge from one text to another. Its kind is a word in either case, with blank characters
around it, and data if there is none. -/
def IsEdge (v : Value) (source target : String) (k : EdgeKind) : Prop :=
  v.part? "from" = some (.text source) ∧ v.part? "to" = some (.text target) ∧
    (v.part? "kind" = none ∧ k = .data ∨
      ∃ w, v.part? "kind" = some (.text w) ∧ Text.lower (Text.strip w) = Choice.word k)

structure IsSnapshot (v : Value) : Prop where
  controllers : ∃ t, v.part? "controllers" = some (.table t) ∧ ∀ e ∈ t, e.2.IsTexts
  markers : ∀ p, v.part? "markers" = some p → ∃ t, p = .table t ∧ ∀ e ∈ t, e.2.IsNames
  edges : ∀ p, v.part? "edges" = some p →
    ∃ vs, p = .list vs ∧ ∀ e ∈ vs, ∃ source target k, e.IsEdge source target k
  declared : ∀ p, v.part? "declared_markers" = some p → p = .null ∨ p.IsNames

/-- The items of a list, each once, in the order of their first occurrences. -/
structure Firsts (all firsts : List Node) : Prop where
  mem : ∀ n, n ∈ firsts ↔ n ∈ all
  ordered : firsts.Pairwise fun a b => all.idxOf a < all.idxOf b

/-- The graph that a snapshot describes. -/
structure Describes (v : Value) (g : Graph) : Prop where
  controllers : ∃ t, v.part? "controllers" = some (.table t) ∧
    List.Forall₂ (fun e c => c.1 = e.1 ∧
      ∃ ss : List String, e.2 = .list (ss.map .text) ∧ Firsts (ss.map .text) c.2) t g.controllers
  labels : ∀ n m, g.carries m n = true ↔ ∃ node t vs, n = .text node ∧
    v.part? "markers" = some (.table t) ∧ Keyed.get? t node = some (.list vs) ∧ .text m.text ∈ vs
  edges : ∀ n n' k, n' ∈ g.successors n k ↔ ∃ source target vs,
    n = .text source ∧ n' = .text target ∧ v.part? "edges" = some (.list vs) ∧
      ∃ e ∈ vs, e.IsEdge source target k
  declared : ∀ vs, v.part? "declared_markers" = some (.list vs) →
    ∀ m, g.declares m = true ↔ .text m.text ∈ vs
  attached : v.part? "declared_markers" = none ∨ v.part? "declared_markers" = some .null →
    ∀ m, g.declares m = true ↔ ∃ n, g.carries m n = true

end Value

/-! ## Nodes, each at its first place -/

theorem NodeSet.firsts_distinct (ns : List Node) : Value.Firsts ns (distinct ns) where
  mem _ := mem_distinct
  ordered := by
    induction ns with
    | nil => exact .nil
    | cons n ns ih =>
      rw [distinct, List.pairwise_cons]
      -- what is kept of the rest is not the first item, so its place is one further on
      have hlater {m : Node} (hm : m ≠ n) : (n :: ns).idxOf m = ns.idxOf m + 1 :=
        List.idxOf_cons_ne ns (Ne.symm hm)
      constructor
      · intro m hm
        rw [List.idxOf_cons_self, hlater (of_decide_eq_true (List.mem_filter.1 hm).2)]
        exact Nat.succ_pos _
      · rw [List.pairwise_filter]
        apply ih.imp
        intro a b hab ha hb
        rw [hlater (of_decide_eq_true ha), hlater (of_decide_eq_true hb)]
        exact Nat.succ_lt_succ hab

/-! ## Parts of a value -/

namespace Value

theorem part?_table (es : Keyed String Value) (key : String) :
    (Value.table es).part? key = Keyed.get? es key := rfl

theorem eq_table_of_entries? {v : Value} {es : Keyed String Value} (h : v.entries? = some es) :
    v = .table es := by
  cases v with
  | table es' => exact congrArg Value.table (Option.some.inj h)
  | _ => exact nomatch h

theorem exists_table_of_part? {v p : Value} {key : String} (h : v.part? key = some p) :
    ∃ es, v = .table es := by
  cases v with
  | table es => exact ⟨es, rfl⟩
  | _ => exact nomatch h

/-- Only a table has parts. -/
theorem part?_of_not_table {v : Value} (h : v.entries? = none) (key : String) :
    v.part? key = none := by
  rw [part?, h]
  rfl

theorem IsJson.part {v p : Value} {key : String} (hv : v.IsJson) (h : v.part? key = some p) :
    p.IsJson := by
  obtain ⟨es, rfl⟩ := exists_table_of_part? h
  cases hv with
  | table distinct entries => exact entries _ ((Keyed.get?_eq_some_iff distinct).1 h)

theorem IsJson.nodup_keys {es : Keyed String Value} (h : (Value.table es).IsJson) :
    es.keys.Nodup := by
  cases h with
  | table distinct entries => exact distinct

theorem text_mem_map {s : String} {ss : List String} : .text s ∈ ss.map Value.text ↔ s ∈ ss :=
  List.mem_map_of_injective fun _ _ h => Value.text.inj h

theorem text?_eq_some {v : Value} {s : String} : v.text? = some s ↔ v = .text s := by
  cases v with
  | text s' => rw [text?, Option.some.injEq, Value.text.injEq]
  | _ => exact iff_of_false nofun nofun

theorem mapM_text?_eq_some {vs : List Value} {ss : List String} :
    vs.mapM text? = some ss ↔ vs = ss.map .text := by
  induction vs generalizing ss with
  | nil =>
    rw [List.mapM_nil, Option.pure_def, Option.some.injEq, eq_comm, eq_comm (a := []),
      List.map_eq_nil_iff]
  | cons v vs ih =>
    rw [List.mapM_cons]
    simp only [Option.bind_eq_bind, Option.bind_eq_some_iff, Option.pure_def, Option.some.injEq,
      text?_eq_some, ih]
    constructor
    · rintro ⟨s, rfl, ss, rfl, rfl⟩
      rfl
    · intro h
      cases ss with
      | nil => exact nomatch h
      | cons s ss =>
        obtain ⟨rfl, rfl⟩ := List.cons.inj h
        exact ⟨s, rfl, ss, rfl, rfl⟩

end Value

namespace Graph

open Value

/-! ## Reading the parts -/

theorem texts_eq_ok {place : String} {v : Value} {ss : List String} :
    texts place v = .ok ss ↔ v = .list (ss.map .text) := by
  cases v with
  | list vs =>
    rw [Value.list.injEq, ← mapM_text?_eq_some]
    cases h : vs.mapM text? with
    | none => simp only [texts, h, reduceCtorEq]
    | some ss' => simp only [texts, h, Except.ok.injEq, Option.some.injEq]
  | _ => exact iff_of_false nofun nofun

/-- A table of lists of texts, as a value is made of it. -/
def listed (r : Keyed String (List String)) : Keyed String Value :=
  r.map fun e => (e.1, .list (e.2.map .text))

theorem textLists_eq_ok {place : String} {t : Keyed String Value}
    {r : Keyed String (List String)} : textLists place t = .ok r ↔ t = listed r := by
  unfold textLists listed
  rw [mapM_eq_ok_iff, ← List.forall₂_eq_eq_eq, List.forall₂_map_right_iff]
  simp only [except_bind_eq_ok, except_pure_eq_ok, texts_eq_ok]
  constructor
  · intro h
    apply h.imp
    rintro ⟨k, v⟩ _ ⟨ss, rfl, rfl⟩
    rfl
  · intro h
    apply h.imp
    rintro _ ⟨k, ss⟩ rfl
    exact ⟨ss, rfl, rfl⟩

theorem exists_listed {t : Keyed String Value} (h : ∀ e ∈ t, e.2.IsTexts) :
    ∃ r, t = listed r := by
  induction t with
  | nil => exact ⟨[], rfl⟩
  | cons e t ih =>
    obtain ⟨⟨ss, hss⟩, ht⟩ := List.forall_mem_cons.1 h
    obtain ⟨r, rfl⟩ := ih ht
    exact ⟨(e.1, ss) :: r, congrArg (· :: listed r) (Prod.ext rfl hss)⟩

theorem controllersEntry_eq_ok {es : Keyed String Value} {cs : Keyed String (List String)} :
    controllersEntry es = .ok cs ↔ Keyed.get? es "controllers" = some (.table (listed cs)) := by
  cases h : Keyed.get? es "controllers" with
  | none => simp only [controllersEntry, h, reduceCtorEq]
  | some v =>
    cases v <;> simp only [controllersEntry, h, reduceCtorEq, Option.some.injEq, Value.table.injEq,
      textLists_eq_ok]

theorem markersEntry_eq_ok {es : Keyed String Value} {ms : Keyed String (List String)} :
    markersEntry es = .ok ms ↔ Keyed.get? es "markers" = none ∧ ms = [] ∨
      Keyed.get? es "markers" = some (.table (listed ms)) := by
  cases h : Keyed.get? es "markers" with
  | none => simp only [markersEntry, h, reduceCtorEq, Except.ok.injEq, true_and, or_false, eq_comm]
  | some v =>
    cases v <;> simp only [markersEntry, h, reduceCtorEq, false_and, false_or, Option.some.injEq,
      Value.table.injEq, textLists_eq_ok]

theorem declaredEntry_eq_ok {es : Keyed String Value} {ds : Option (List String)} :
    declaredEntry es = .ok ds ↔
      (Keyed.get? es "declared_markers" = none ∨
        Keyed.get? es "declared_markers" = some .null) ∧ ds = none ∨
      ∃ ss, Keyed.get? es "declared_markers" = some (.list (ss.map .text)) ∧ ds = some ss := by
  cases h : Keyed.get? es "declared_markers" with
  | none => simp [declaredEntry, h, eq_comm]
  | some v =>
    by_cases hnull : v = .null
    · subst hnull
      simp [declaredEntry, h, eq_comm]
    · have hread : declaredEntry es = texts "declared_markers" v >>= fun ss => pure (some ss) := by
        rw [declaredEntry, h]
        cases v with
        | null => exact absurd rfl hnull
        | _ => rfl
      simp only [hread, except_bind_eq_ok, except_pure_eq_ok, texts_eq_ok, reduceCtorEq, false_or,
        Option.some.injEq, hnull, false_and]
      exact exists_congr fun ss => and_congr_right fun _ => eq_comm

/-- An entry of the edges, its kind not read yet. -/
theorem edgeEntry_eq_ok {index : Nat} {v : Value} {x : Node × Node × Value} :
    edgeEntry index v = .ok x ↔ ∃ source target w, v.part? "from" = some (.text source) ∧
      v.part? "to" = some (.text target) ∧
      (v.part? "kind").getD (.text (Choice.word EdgeKind.data)) = .text w ∧
      x = (.text source, .text target, .text w) := by
  cases hv : v.entries? with
  | none =>
    have hfault : edgeEntry index v = .error (.edgeNotTable index) := by
      cases v with
      | table es => exact absurd hv (Option.some_ne_none es)
      | _ => rfl
    simp only [hfault, part?_of_not_table hv, reduceCtorEq, false_and, exists_false]
  | some es =>
    obtain rfl := eq_table_of_entries? hv
    simp only [edgeEntry, part?_table]
    split
    · next source target w hsource htarget hw =>
      simp only [hsource, htarget, hw, Option.some.injEq, Value.text.injEq, Except.ok.injEq]
      constructor
      · rintro rfl
        exact ⟨source, target, w, rfl, rfl, rfl, rfl⟩
      · rintro ⟨_, _, _, rfl, rfl, rfl, rfl⟩
        rfl
    · next hother =>
      simp only [reduceCtorEq, false_iff, not_exists]
      rintro source target w ⟨hsource, htarget, hw, -⟩
      exact hother source target w hsource htarget hw

/-- An entry is read in the same way wherever it stands. -/
theorem edgeEntries_eq_ok {index : Nat} {vs : List Value} {xs : List (Node × Node × Value)} :
    edgeEntries index vs = .ok xs ↔ vs.mapM (edgeEntry 0) = .ok xs := by
  induction vs generalizing index xs with
  | nil => rfl
  | cons v vs ih =>
    have hentry (x : Node × Node × Value) : edgeEntry index v = .ok x ↔ edgeEntry 0 v = .ok x :=
      edgeEntry_eq_ok.trans edgeEntry_eq_ok.symm
    rw [edgeEntries, List.mapM_cons]
    simp only [except_bind_eq_ok, except_pure_eq_ok, ih, hentry]

theorem edgesEntry_eq_ok {es : Keyed String Value} {xs : List (Node × Node × Value)} :
    edgesEntry es = .ok xs ↔ Keyed.get? es "edges" = none ∧ xs = [] ∨
      ∃ vs, Keyed.get? es "edges" = some (.list vs) ∧ vs.mapM (edgeEntry 0) = .ok xs := by
  cases h : Keyed.get? es "edges" with
  | none => simp [edgesEntry, h, eq_comm]
  | some v => cases v <;> simp [edgesEntry, h, edgeEntries_eq_ok]

/-! ## Reading kinds and markers -/

theorem choice_eq_ok {α : Type} [Choice α] {what : String} {v : Value} {a : α} :
    Choice.read what v = .ok a ↔ v.text?.bind Choice.ofText? = some a := by
  unfold Choice.read
  cases v.text?.bind (Choice.ofText? : String → Option α) with
  | none => exact iff_of_false nofun nofun
  | some b => rw [Except.ok.injEq, Option.some.injEq]

theorem edgeKind_eq_ok {what w : String} {k : EdgeKind} :
    Choice.read what (.text w) = .ok k ↔ Text.lower (Text.strip w) = Choice.word k := by
  rw [choice_eq_ok, Value.text?, Option.bind_some, Choice.ofText?]
  generalize Text.lower (Text.strip w) = word
  constructor
  · exact fun h => (Choice.word_of_ofWord? h).symm
  · rintro rfl
    cases k <;> rfl

theorem marker_eq_ok {s : String} {m : Marker} :
    Marker.ofValue (.text s) = .ok m ↔ m.text = s := by
  show Marker.ofText s = .ok m ↔ m.text = s
  constructor
  · intro h
    by_cases hs : s = ""
    · simp only [Marker.ofText, hs, dif_pos, reduceCtorEq] at h
    · simp only [Marker.ofText, hs, dif_neg, not_false_eq_true, Except.ok.injEq] at h
      rw [← h]
  · rintro rfl
    exact m.ofText_text

theorem exists_marker_iff {ss : List String} :
    (∀ v ∈ ss.map Value.text, ∃ m, Marker.ofValue v = .ok m) ↔ "" ∉ ss := by
  simp only [List.forall_mem_map, marker_eq_ok]
  constructor
  · intro h hempty
    obtain ⟨m, hm⟩ := h "" hempty
    exact m.text_ne hm
  · exact fun h s hs => ⟨⟨s, fun hempty => h (hempty ▸ hs)⟩, rfl⟩

/-- An edge is an entry that is read and whose kind is. -/
theorem isEdge_iff {v : Value} {source target : String} {k : EdgeKind} :
    v.IsEdge source target k ↔ ∃ w, edgeEntry 0 v = .ok (.text source, .text target, .text w) ∧
      (Choice.read "edge kind" (.text w) : Except Malformed EdgeKind) = .ok k := by
  have hdata : Text.lower (Text.strip (Choice.word EdgeKind.data)) = Choice.word EdgeKind.data := by
    decide
  unfold IsEdge
  simp only [edgeEntry_eq_ok, edgeKind_eq_ok, Prod.mk.injEq, Node.text.injEq, Value.text.injEq]
  constructor
  · rintro ⟨hsource, htarget, ⟨hnone, rfl⟩ | ⟨w, hw, hk⟩⟩
    · exact ⟨_, ⟨source, target, _, hsource, htarget, by rw [hnone]; rfl, rfl, rfl, rfl⟩, hdata⟩
    · exact ⟨w, ⟨source, target, w, hsource, htarget, by rw [hw]; rfl, rfl, rfl, rfl⟩, hk⟩
  · rintro ⟨w, ⟨_, _, _, hsource, htarget, hw, rfl, rfl, rfl⟩, hk⟩
    refine ⟨hsource, htarget, ?_⟩
    cases hkind : v.part? "kind" with
    | none =>
      -- without a kind the word is that of data, which is the word of no other kind
      rw [hkind] at hw
      obtain rfl := Value.text.inj hw
      refine .inl ⟨rfl, ?_⟩
      cases k with
      | data => rfl
      | control => exact absurd (hdata.symm.trans hk) (by decide)
    | some p =>
      rw [hkind] at hw
      obtain rfl : p = .text w := hw
      exact .inr ⟨w, rfl, hk⟩

/-! ## The parts of a graph -/

/-- What a graph is built from, once a snapshot has been read. -/
def partsOf (cs ms : Keyed String (List String)) (xs : List (Node × Node × Value))
    (ds : Option (List String)) : GraphParts where
  controllers := cs.map fun e => (e.1, e.2.map .text)
  labels := ms.map fun e => (.text e.1, e.2.map .text)
  edges := xs
  declared := ds.map (·.map .text)

theorem ofSnapshot_eq_ok {es : Keyed String Value} {g : Graph} :
    ofSnapshot (.table es) = .ok g ↔ ∃ cs ms xs ds, controllersEntry es = .ok cs ∧
      markersEntry es = .ok ms ∧ edgesEntry es = .ok xs ∧ declaredEntry es = .ok ds ∧
      (partsOf cs ms xs ds).build = .ok g := by
  have hsteps : ofSnapshot (.table es) = (do
      let cs ← controllersEntry es
      let ms ← markersEntry es
      let xs ← edgesEntry es
      let ds ← declaredEntry es
      (partsOf cs ms xs ds).build.mapError .malformed) := rfl
  have hbuild (p : GraphParts) : p.build.mapError SnapshotFault.malformed = .ok g ↔
      p.build = .ok g := by
    cases p.build with
    | error e => exact iff_of_false nofun nofun
    | ok h => simp only [Except.mapError, Except.ok.injEq]
  simp only [hsteps, except_bind_eq_ok, hbuild, exists_and_left]

variable {cs ms : Keyed String (List String)} {xs : List (Node × Node × Value)}
  {ds : Option (List String)}

theorem keys_listed (r : Keyed String (List String)) : (listed r).keys = r.keys := by
  unfold listed Keyed.keys
  rw [List.map_map]
  rfl

theorem ofList_controllers (h : cs.keys.Nodup) :
    Keyed.ofList (partsOf cs ms xs ds).controllers = (partsOf cs ms xs ds).controllers := by
  apply Keyed.ofList_of_nodup
  show (List.map Prod.fst (List.map _ cs)).Nodup
  rw [List.map_map]
  exact h

theorem ofList_labels (h : ms.keys.Nodup) :
    Keyed.ofList (partsOf cs ms xs ds).labels = (partsOf cs ms xs ds).labels := by
  apply Keyed.ofList_of_nodup
  show (List.map Prod.fst (List.map _ ms)).Nodup
  rw [List.map_map]
  -- different names are different nodes
  apply List.pairwise_map.2
  exact (List.pairwise_map.1 h).imp fun hne hnode => hne (Node.text.inj hnode)

theorem exists_build_partsOf (h : ms.keys.Nodup) :
    (∃ g, (partsOf cs ms xs ds).build = .ok g) ↔ (∀ e ∈ ms, "" ∉ e.2) ∧
      (∀ x ∈ xs, ∃ k : EdgeKind, Choice.read "edge kind" x.2.2 = .ok k) ∧
      ∀ ss, ds = some ss → "" ∉ ss := by
  rw [GraphParts.exists_build_iff, ofList_labels h]
  have hlabels (e : String × List String) :
      (∀ v ∈ e.2.map Value.text, ∃ m, Marker.ofValue v = .ok m) ↔ "" ∉ e.2 := exists_marker_iff
  have hdeclared : (∀ vs, (partsOf cs ms xs ds).declared = some vs →
      ∀ v ∈ vs, ∃ m, Marker.ofValue v = .ok m) ↔ ∀ ss, ds = some ss → "" ∉ ss := by
    cases ds with
    | none => exact iff_of_true nofun nofun
    | some ss => simp only [partsOf, Option.map_some, Option.some.injEq, forall_eq',
        exists_marker_iff]
  rw [hdeclared]
  simp only [partsOf, List.forall_mem_map (l := ms), hlabels]

/-! ## What is read and what is built -/

theorem mem_listed {r : Keyed String (List String)} {key : String} {v : Value} :
    (key, v) ∈ listed r ↔ ∃ ss, (key, ss) ∈ r ∧ v = .list (ss.map .text) := by
  unfold listed
  simp only [List.mem_map, Prod.exists, Prod.mk.injEq]
  constructor
  · rintro ⟨_, ss, hmem, rfl, rfl⟩
    exact ⟨ss, hmem, rfl⟩
  · rintro ⟨ss, hmem, rfl⟩
    exact ⟨key, ss, hmem, rfl, rfl⟩

/-- The parts of a value, once they have been read. -/
structure Parts (v : Value) (cs ms : Keyed String (List String)) (xs : List (Node × Node × Value))
    (ds : Option (List String)) : Prop where
  controllers : v.part? "controllers" = some (.table (listed cs))
  markers : v.part? "markers" = none ∧ ms = [] ∨ v.part? "markers" = some (.table (listed ms))
  edges : v.part? "edges" = none ∧ xs = [] ∨
    ∃ vs, v.part? "edges" = some (.list vs) ∧ vs.mapM (edgeEntry 0) = .ok xs
  declared : (v.part? "declared_markers" = none ∨ v.part? "declared_markers" = some .null) ∧
      ds = none ∨
    ∃ ss, v.part? "declared_markers" = some (.list (ss.map .text)) ∧ ds = some ss

theorem ofSnapshot_eq_ok_iff {v : Value} {g : Graph} :
    ofSnapshot v = .ok g ↔
      ∃ cs ms xs ds, Parts v cs ms xs ds ∧ (partsOf cs ms xs ds).build = .ok g := by
  cases hv : v.entries? with
  | none =>
    have hfault : ofSnapshot v = .error .notTable := by
      unfold ofSnapshot
      rw [hv]
    simp only [hfault, reduceCtorEq, false_iff, not_exists]
    rintro cs ms xs ds ⟨hparts, -⟩
    obtain ⟨es, rfl⟩ := exists_table_of_part? hparts.controllers
    exact absurd hv (Option.some_ne_none es)
  | some es =>
    obtain rfl := eq_table_of_entries? hv
    simp only [ofSnapshot_eq_ok, controllersEntry_eq_ok, markersEntry_eq_ok, edgesEntry_eq_ok,
      declaredEntry_eq_ok]
    constructor
    · rintro ⟨cs, ms, xs, ds, hcs, hms, hxs, hds, hbuild⟩
      exact ⟨cs, ms, xs, ds, ⟨hcs, hms, hxs, hds⟩, hbuild⟩
    · rintro ⟨cs, ms, xs, ds, ⟨hcs, hms, hxs, hds⟩, hbuild⟩
      exact ⟨cs, ms, xs, ds, hcs, hms, hxs, hds, hbuild⟩

theorem isNames_list {ss : List String} : (Value.list (ss.map .text)).IsNames ↔ "" ∉ ss := by
  constructor
  · rintro ⟨ss', hss', hempty⟩
    rw [Value.list.injEq, List.map_inj_right fun _ _ => Value.text.inj] at hss'
    rw [hss']
    exact hempty
  · exact fun hempty => ⟨ss, rfl, hempty⟩

namespace Parts

variable {v : Value}

theorem markers_iff (h : Parts v cs ms xs ds) :
    (∀ p, v.part? "markers" = some p → ∃ t, p = .table t ∧ ∀ e ∈ t, e.2.IsNames) ↔
      ∀ e ∈ ms, "" ∉ e.2 := by
  rcases h.markers with ⟨hnone, rfl⟩ | hsome
  · simp only [hnone, reduceCtorEq, false_imp_iff, implies_true, List.not_mem_nil]
  · simp only [hsome, Option.some.injEq, forall_eq', Value.table.injEq, exists_eq_left',
      Prod.forall, mem_listed]
    constructor
    · exact fun h key ss hmem => isNames_list.1 (h key _ ⟨ss, hmem, rfl⟩)
    · rintro h key _ ⟨ss, hmem, rfl⟩
      exact isNames_list.2 (h key ss hmem)

theorem edges_iff (h : Parts v cs ms xs ds) :
    (∀ p, v.part? "edges" = some p →
      ∃ vs, p = .list vs ∧ ∀ e ∈ vs, ∃ source target k, e.IsEdge source target k) ↔
      ∀ x ∈ xs, ∃ k : EdgeKind, Choice.read "edge kind" x.2.2 = .ok k := by
  rcases h.edges with ⟨hnone, rfl⟩ | ⟨vs, hsome, hread⟩
  · simp only [hnone, reduceCtorEq, false_imp_iff, implies_true, List.not_mem_nil]
  · simp only [hsome, Option.some.injEq, forall_eq', Value.list.injEq, exists_eq_left', isEdge_iff]
    constructor
    · intro h x hx
      obtain ⟨e, he, hex⟩ := (mem_of_mapM_eq_ok hread x).1 hx
      obtain ⟨source, target, k, w, hew, hk⟩ := h e he
      obtain rfl := Except.ok.inj (hex.symm.trans hew)
      exact ⟨k, hk⟩
    · intro h e he
      -- every entry has been read, to texts with a text for its kind
      obtain ⟨x, hex⟩ := exists_mapM_eq_ok.1 ⟨xs, hread⟩ e he
      obtain ⟨k, hk⟩ := h x ((mem_of_mapM_eq_ok hread x).2 ⟨e, he, hex⟩)
      obtain ⟨source, target, w, -, -, -, rfl⟩ := edgeEntry_eq_ok.1 hex
      exact ⟨source, target, k, w, hex, hk⟩

theorem declared_iff (h : Parts v cs ms xs ds) :
    (∀ p, v.part? "declared_markers" = some p → p = .null ∨ p.IsNames) ↔
      ∀ ss, ds = some ss → "" ∉ ss := by
  rcases h.declared with ⟨hnone | hnull, rfl⟩ | ⟨ss, hsome, rfl⟩
  · simp only [hnone, reduceCtorEq, false_imp_iff, implies_true]
  · simp only [hnull, reduceCtorEq, Option.some.injEq, forall_eq', true_or, false_imp_iff,
      implies_true]
  · simp only [hsome, Option.some.injEq, forall_eq', reduceCtorEq, false_or, isNames_list]

/-- Parts that have been read make a graph exactly if the value that they are read from is a
snapshot. -/
theorem isSnapshot_iff (h : Parts v cs ms xs ds) (hnodup : ms.keys.Nodup) :
    v.IsSnapshot ↔ ∃ g, (partsOf cs ms xs ds).build = .ok g := by
  rw [exists_build_partsOf hnodup, ← h.markers_iff, ← h.edges_iff, ← h.declared_iff]
  constructor
  · exact fun hsnapshot => ⟨hsnapshot.markers, hsnapshot.edges, hsnapshot.declared⟩
  · rintro ⟨hmarkers, hedges, hdeclared⟩
    refine ⟨⟨_, h.controllers, fun e he => ?_⟩, hmarkers, hedges, hdeclared⟩
    obtain ⟨ss, -, hss⟩ := mem_listed.1 he
    exact ⟨ss, hss⟩

theorem exists_of_isSnapshot (h : v.IsSnapshot) : ∃ cs ms xs ds, Parts v cs ms xs ds := by
  obtain ⟨t, ht, hlists⟩ := h.controllers
  obtain ⟨cs, rfl⟩ := exists_listed hlists
  have hmarkers : ∃ ms, v.part? "markers" = none ∧ ms = [] ∨
      v.part? "markers" = some (.table (listed ms)) := by
    cases hp : v.part? "markers" with
    | none => exact ⟨[], .inl ⟨rfl, rfl⟩⟩
    | some p =>
      obtain ⟨t, rfl, hnames⟩ := h.markers p hp
      obtain ⟨ms, rfl⟩ := exists_listed fun e he => (hnames e he).imp fun _ => And.left
      exact ⟨ms, .inr rfl⟩
  have hedges : ∃ xs, v.part? "edges" = none ∧ xs = [] ∨
      ∃ vs, v.part? "edges" = some (.list vs) ∧ vs.mapM (edgeEntry 0) = .ok xs := by
    cases hp : v.part? "edges" with
    | none => exact ⟨[], .inl ⟨rfl, rfl⟩⟩
    | some p =>
      obtain ⟨vs, rfl, hall⟩ := h.edges p hp
      have hread : ∀ e ∈ vs, ∃ x, edgeEntry 0 e = .ok x := by
        intro e he
        obtain ⟨source, target, k, hedge⟩ := hall e he
        obtain ⟨w, hw, -⟩ := isEdge_iff.1 hedge
        exact ⟨_, hw⟩
      obtain ⟨xs, hxs⟩ := exists_mapM_eq_ok.2 hread
      exact ⟨xs, .inr ⟨vs, rfl, hxs⟩⟩
  have hdeclared : ∃ ds, (v.part? "declared_markers" = none ∨
      v.part? "declared_markers" = some .null) ∧ ds = none ∨
      ∃ ss : List String, v.part? "declared_markers" = some (.list (ss.map .text)) ∧
        ds = some ss := by
    cases hp : v.part? "declared_markers" with
    | none => exact ⟨none, .inl ⟨.inl rfl, rfl⟩⟩
    | some p =>
      rcases h.declared p hp with rfl | ⟨ss, rfl, -⟩
      · exact ⟨none, .inl ⟨.inr rfl, rfl⟩⟩
      · exact ⟨some ss, .inr ⟨ss, rfl, rfl⟩⟩
  obtain ⟨ms, hms⟩ := hmarkers
  obtain ⟨xs, hxs⟩ := hedges
  obtain ⟨ds, hds⟩ := hdeclared
  exact ⟨cs, ms, xs, ds, ht, hms, hxs, hds⟩

variable {g : Graph}

theorem nodup_keys_controllers (h : Parts v cs ms xs ds) (hjson : v.IsJson) : cs.keys.Nodup := by
  rw [← keys_listed]
  exact (hjson.part h.controllers).nodup_keys

theorem nodup_keys_markers (h : Parts v cs ms xs ds) (hjson : v.IsJson) : ms.keys.Nodup := by
  rcases h.markers with ⟨-, rfl⟩ | hsome
  · exact .nil
  · rw [← keys_listed]
    exact (hjson.part hsome).nodup_keys

/-! ## What the graph holds -/

theorem labels_iff (hnodup : ms.keys.Nodup) {n : Node} {m : Marker} :
    (partsOf cs ms xs ds).Labels n m ↔
      ∃ node ss, n = .text node ∧ (node, ss) ∈ ms ∧ m.text ∈ ss := by
  have hkeys := Keyed.nodup_keys_ofList (partsOf cs ms xs ds).labels
  unfold GraphParts.Labels
  rw [ofList_labels hnodup] at hkeys ⊢
  simp only [Keyed.get?_eq_some_iff hkeys]
  simp only [partsOf, List.mem_map, Prod.exists, Prod.mk.injEq]
  constructor
  · rintro ⟨_, ⟨node, ss, hmem, rfl, rfl⟩, v, hv, hm⟩
    obtain ⟨s, hs, rfl⟩ := List.mem_map.1 hv
    obtain rfl := marker_eq_ok.1 hm
    exact ⟨node, ss, rfl, hmem, hs⟩
  · rintro ⟨node, ss, rfl, hmem, hm⟩
    exact ⟨_, ⟨node, ss, hmem, rfl, rfl⟩, _, List.mem_map_of_mem hm, marker_eq_ok.2 rfl⟩

theorem describes_controllers (h : Parts v cs ms xs ds) (hnodup : cs.keys.Nodup)
    (hbuilds : (partsOf cs ms xs ds).Builds g) :
    ∃ t, v.part? "controllers" = some (.table t) ∧
      List.Forall₂ (fun e c => c.1 = e.1 ∧
        ∃ ss : List String, e.2 = .list (ss.map .text) ∧ Firsts (ss.map .text) c.2)
        t g.controllers := by
  refine ⟨_, h.controllers, ?_⟩
  rw [hbuilds.controllers, ofList_controllers hnodup]
  simp only [partsOf, listed, List.map_map, List.forall₂_map_left_iff, List.forall₂_map_right_iff,
    List.forall₂_same]
  exact fun e _ => ⟨rfl, e.2, rfl, NodeSet.firsts_distinct _⟩

theorem describes_labels (h : Parts v cs ms xs ds) (hnodup : ms.keys.Nodup)
    (hbuilds : (partsOf cs ms xs ds).Builds g) (n : Node) (m : Marker) :
    g.carries m n = true ↔ ∃ node t vs, n = .text node ∧ v.part? "markers" = some (.table t) ∧
      Keyed.get? t node = some (.list vs) ∧ .text m.text ∈ vs := by
  rw [hbuilds.carries_iff, labels_iff hnodup]
  rcases h.markers with ⟨hnone, rfl⟩ | hsome
  · simp [hnone]
  · have hlisted : (listed ms).keys.Nodup := by
      rw [keys_listed]
      exact hnodup
    simp only [hsome, Option.some.injEq, Value.table.injEq]
    constructor
    · rintro ⟨node, ss, rfl, hmem, hm⟩
      refine ⟨node, _, _, rfl, rfl, ?_, text_mem_map.2 hm⟩
      exact (Keyed.get?_eq_some_iff hlisted).2 (mem_listed.2 ⟨ss, hmem, rfl⟩)
    · rintro ⟨node, _, vs, rfl, rfl, hget, hm⟩
      obtain ⟨ss, hmem, hvs⟩ := mem_listed.1 ((Keyed.get?_eq_some_iff hlisted).1 hget)
      rw [Value.list.inj hvs, text_mem_map] at hm
      exact ⟨node, ss, rfl, hmem, hm⟩

theorem describes_edges (h : Parts v cs ms xs ds) (hbuilds : (partsOf cs ms xs ds).Builds g)
    (n n' : Node) (k : EdgeKind) :
    n' ∈ g.successors n k ↔ ∃ source target vs, n = .text source ∧ n' = .text target ∧
      v.part? "edges" = some (.list vs) ∧ ∃ e ∈ vs, e.IsEdge source target k := by
  rw [mem_successors, hbuilds.mem_edges]
  unfold GraphParts.Joins
  show (∃ w, (n, n', w) ∈ xs ∧ Choice.read "edge kind" w = .ok k) ↔ _
  rcases h.edges with ⟨hnone, rfl⟩ | ⟨vs, hsome, hread⟩
  · simp [hnone]
  · simp only [hsome, Option.some.injEq, Value.list.injEq, isEdge_iff, mem_of_mapM_eq_ok hread]
    constructor
    · rintro ⟨_, ⟨e, he, hex⟩, hk⟩
      obtain ⟨source, target, w, -, -, -, hx⟩ := edgeEntry_eq_ok.1 hex
      simp only [Prod.mk.injEq] at hx
      obtain ⟨rfl, rfl, rfl⟩ := hx
      exact ⟨source, target, vs, rfl, rfl, rfl, e, he, w, hex, hk⟩
    · rintro ⟨source, target, _, rfl, rfl, rfl, e, he, w, hex, hk⟩
      exact ⟨_, ⟨e, he, hex⟩, hk⟩

theorem describes (h : Parts v cs ms xs ds) (hjson : v.IsJson)
    (hbuilds : (partsOf cs ms xs ds).Builds g) : v.Describes g where
  controllers := h.describes_controllers (h.nodup_keys_controllers hjson) hbuilds
  labels := h.describes_labels (h.nodup_keys_markers hjson) hbuilds
  edges := h.describes_edges hbuilds
  declared := by
    intro vs hvs m
    rw [hbuilds.declares_iff]
    rcases h.declared with ⟨hnone | hnull, -⟩ | ⟨ss, hss, rfl⟩
    · exact nomatch hnone.symm.trans hvs
    · exact nomatch hnull.symm.trans hvs
    · obtain rfl := Value.list.inj (Option.some.inj (hss.symm.trans hvs))
      show (∃ v ∈ ss.map Value.text, Marker.ofValue v = .ok m) ↔ _
      rw [text_mem_map]
      constructor
      · rintro ⟨_, hmem, hm⟩
        obtain ⟨s, hs, rfl⟩ := List.mem_map.1 hmem
        exact marker_eq_ok.1 hm ▸ hs
      · exact fun hm => ⟨_, List.mem_map_of_mem hm, marker_eq_ok.2 rfl⟩
  attached := by
    intro hnone m
    rw [hbuilds.declares_iff]
    simp only [hbuilds.carries_iff]
    rcases h.declared with ⟨-, rfl⟩ | ⟨ss, hss, -⟩
    · exact Iff.rfl
    · rw [hss] at hnone
      simp at hnone

end Parts

/-- A JSON value that is a snapshot is read as the graph that it describes, and any other one is
refused. -/
theorem ofSnapshot_decodes (v : Value) (hjson : v.IsJson) :
    (v.IsSnapshot ∧ ∃ g, ofSnapshot v = .ok g ∧ v.Describes g) ∨
      (¬v.IsSnapshot ∧ ∃ f, ofSnapshot v = .error f) := by
  cases hread : ofSnapshot v with
  | ok g =>
    obtain ⟨cs, ms, xs, ds, hparts, hbuild⟩ := ofSnapshot_eq_ok_iff.1 hread
    have hsnapshot := (hparts.isSnapshot_iff (hparts.nodup_keys_markers hjson)).2 ⟨g, hbuild⟩
    exact .inl ⟨hsnapshot, g, rfl, hparts.describes hjson (GraphParts.builds_of_build hbuild)⟩
  | error f =>
    refine .inr ⟨fun hsnapshot => ?_, f, rfl⟩
    obtain ⟨cs, ms, xs, ds, hparts⟩ := Parts.exists_of_isSnapshot hsnapshot
    obtain ⟨g, hbuild⟩ := (hparts.isSnapshot_iff (hparts.nodup_keys_markers hjson)).1 hsnapshot
    have hgraph := ofSnapshot_eq_ok_iff.2 ⟨cs, ms, xs, ds, hparts, hbuild⟩
    exact nomatch hread.symm.trans hgraph

/-- A node is listed twice and carries a marker twice, one edge has no kind and the other one a word
with blanks and capitals, and a node that no controller lists carries a marker too. -/
def ringSnapshot : Value := .table [
  ("edges", .list [
    .table [("to", .text "b"), ("from", .text "a"), ("weight", .int 3)],
    .table [("from", .text "b"), ("to", .text "a"), ("kind", .text " Control ")]]),
  ("controllers", .table [
    ("left", .list [.text "b", .text "a", .text "b"]),
    ("right", .list [])]),
  ("declared_markers", .null),
  ("markers", .table [
    ("a", .list [.text "peer", .text "peer"]),
    ("c", .list [.text "spare"])])]

theorem ringSnapshot_decodes :
    ringSnapshot.IsJson ∧ ringSnapshot.IsSnapshot ∧
      ∃ g, ofSnapshot ringSnapshot = .ok g ∧ ringSnapshot.Describes g ∧
        g.controllers = [("left", [.text "b", .text "a"]), ("right", [])] ∧
        g.edges = [⟨.text "a", .text "b", .data⟩, ⟨.text "b", .text "a", .control⟩] := by
  have htexts (ss : List String) : (Value.list (ss.map .text)).IsJson :=
    .list (List.forall_mem_map.2 fun s _ => .text s)
  have hedges : (Value.list [
      .table [("to", .text "b"), ("from", .text "a"), ("weight", .int 3)],
      .table [("from", .text "b"), ("to", .text "a"), ("kind", .text " Control ")]]).IsJson := by
    refine .list (List.forall_mem_cons.2 ⟨.table (by decide) ?_,
      List.forall_mem_singleton.2 (.table (by decide) ?_)⟩)
    · exact List.forall_mem_cons.2 ⟨.text "b", List.forall_mem_cons.2 ⟨.text "a",
        List.forall_mem_singleton.2 (.int 3)⟩⟩
    · exact List.forall_mem_cons.2 ⟨.text "b", List.forall_mem_cons.2 ⟨.text "a",
        List.forall_mem_singleton.2 (.text " Control ")⟩⟩
  have hcontrollers : (Value.table [("left", .list [.text "b", .text "a", .text "b"]),
      ("right", .list [])]).IsJson :=
    .table (by decide) (List.forall_mem_cons.2 ⟨htexts ["b", "a", "b"],
      List.forall_mem_singleton.2 (htexts [])⟩)
  have hmarkers : (Value.table [("a", .list [.text "peer", .text "peer"]),
      ("c", .list [.text "spare"])]).IsJson :=
    .table (by decide) (List.forall_mem_cons.2 ⟨htexts ["peer", "peer"],
      List.forall_mem_singleton.2 (htexts ["spare"])⟩)
  have hjson : ringSnapshot.IsJson :=
    .table (by decide) (List.forall_mem_cons.2 ⟨hedges, List.forall_mem_cons.2 ⟨hcontrollers,
      List.forall_mem_cons.2 ⟨.null, List.forall_mem_singleton.2 hmarkers⟩⟩⟩)
  rcases ofSnapshot_decodes ringSnapshot hjson with ⟨hsnapshot, g, hread, hdescribes⟩ | ⟨-, f, hf⟩
  · refine ⟨hjson, hsnapshot, g, hread, hdescribes, ?_⟩
    obtain rfl := Except.ok.inj hread
    exact ⟨rfl, rfl⟩
  · exact nomatch hf

end Graph

end InfoFlow
