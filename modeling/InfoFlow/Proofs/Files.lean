import InfoFlow.Files
import InfoFlow.Proofs.Keyed
/-!
# What is written is there

Writing a file leaves every directory in place, so its path leads to the same place as before, and
reading it there gives what was written. Only the file that is always empty stays empty.
-/

namespace InfoFlow.Files

variable {fs after : Files} {q names : List String} {e : Entry}

/-! ## Putting entries -/

theorem get?_above {ds : List (List String)} {es : Keyed (List String) Entry}
    (h : Keyed.get? es q = some e) :
    Keyed.get? (ds.foldl (fun es d =>
      if isBase d || (Keyed.get? es d).isSome then es else Keyed.put es d .directory) es) q =
      some e := by
  induction ds generalizing es with
  | nil => exact h
  | cons d ds ih =>
    rw [List.foldl_cons]
    apply ih
    -- a directory is put only where nothing stands
    split
    · exact h
    · next hnew =>
      rw [Keyed.get?_put, if_neg, h]
      rintro rfl
      rw [h] at hnew
      exact hnew (Bool.or_true _)

theorem get?_put_other (h : fs.get? q = some e) (hne : names ≠ q) (e' : Entry) :
    (fs.put names e').get? q = some e := by
  unfold get? at h ⊢
  split at h
  · next hbase => rw [if_pos hbase]; exact h
  next hbase =>
  rw [if_neg hbase]
  split at h
  · next hempty => rw [if_pos hempty]; exact h
  next hempty =>
  rw [if_neg hempty]
  show Keyed.get? (Keyed.put _ names e') q = some e
  rw [Keyed.get?_put, if_neg hne]
  exact get?_above h

/-- A place that is neither part of the system nor always empty. -/
def IsOrdinary (names : List String) : Prop :=
  isBase names = false ∧ isSystem names = false ∧ names ≠ emptyFile

theorem get?_of_isOrdinary (h : IsOrdinary names) :
    fs.get? names = Keyed.get? fs.entries names := by
  obtain ⟨hbase, hsystem, hempty⟩ := h
  unfold get?
  rw [hbase, hsystem, if_neg hempty]
  rfl

theorem get?_put_self (h : IsOrdinary names) (e : Entry) :
    (fs.put names e).get? names = some e := by
  rw [get?_of_isOrdinary h]
  show Keyed.get? (Keyed.put _ names e) names = some e
  rw [Keyed.get?_put, if_pos rfl]

/-! ## Following paths -/

/-- Every directory of some files is one of others. -/
def KeepsDirectories (fs after : Files) : Prop :=
  ∀ q, fs.get? q = some .directory → after.get? q = some .directory

theorem keepsDirectories_put (h : fs.get? names ≠ some .directory) (e : Entry) :
    KeepsDirectories fs (fs.put names e) := by
  intro q hq
  apply get?_put_other hq
  rintro rfl
  exact h hq

/-- The place of a name in a directory. -/
def below (d : List String) (n : String) : List String := if n = upName then up d else d ++ [n]

theorem follow_nil_eq_ok {d : List String} :
    fs.follow d [] = .ok (q, e) ↔ d = q ∧ fs.get? d = some e := by
  unfold follow
  cases fs.get? d with
  | none => exact iff_of_false nofun fun h => nomatch h.2
  | some e' =>
    show Except.ok (d, e') = .ok (q, e) ↔ _
    rw [Except.ok.injEq, Prod.mk.injEq, Option.some.injEq]

theorem follow_nil_eq_error {d : List String} {f : FileFault} (h : fs.follow d [] = .error f) :
    fs.get? d = none := by
  unfold follow at h
  split at h
  · exact nomatch h
  · next hd => exact hd

theorem follow_cons {d : List String} (hd : fs.get? d = some .directory) (n : String)
    (ns : List String) : fs.follow d (n :: ns) =
      if maxNameBytes < n.utf8ByteSize then .error .nameTooLong
      else fs.follow (below d n) ns := by
  rw [follow, hd]
  rfl

theorem follow_cons_eq_ok {d ns : List String} {n : String} :
    fs.follow d (n :: ns) = .ok (q, e) ↔ fs.get? d = some .directory ∧
      ¬maxNameBytes < n.utf8ByteSize ∧ fs.follow (below d n) ns = .ok (q, e) := by
  cases hd : fs.get? d with
  | none =>
    rw [follow, hd]
    exact iff_of_false nofun fun h => nomatch h.1
  | some e' =>
    cases e' with
    | file c =>
      rw [follow, hd]
      exact iff_of_false nofun fun h => nomatch h.1
    | directory =>
      rw [follow_cons hd]
      by_cases hlong : maxNameBytes < n.utf8ByteSize
      · rw [if_pos hlong]
        exact iff_of_false nofun fun h => h.2.1 hlong
      · rw [if_neg hlong]
        simp only [hlong, not_false_eq_true, true_and]

/-- Where directories stay, a path leads to the same place. -/
theorem follow_of_keepsDirectories (hkeeps : KeepsDirectories fs after) {d ns : List String}
    {e' : Entry} (h : fs.follow d ns = .ok (q, e)) (hq : after.get? q = some e') :
    after.follow d ns = .ok (q, e') := by
  induction ns generalizing d with
  | nil =>
    obtain ⟨rfl, -⟩ := follow_nil_eq_ok.1 h
    exact follow_nil_eq_ok.2 ⟨rfl, hq⟩
  | cons n ns ih =>
    obtain ⟨hd, hshort, hrest⟩ := follow_cons_eq_ok.1 h
    exact follow_cons_eq_ok.2 ⟨hkeeps d hd, hshort, ih hrest⟩

theorem get?_of_follow {d ns : List String} (h : fs.follow d ns = .ok (q, e)) :
    fs.get? q = some e := by
  induction ns generalizing d with
  | nil =>
    obtain ⟨rfl, hd⟩ := follow_nil_eq_ok.1 h
    exact hd
  | cons n ns ih => exact ih (follow_cons_eq_ok.1 h).2.2

/-- A path leads to a name in the directory that the names in front of it lead to. -/
theorem follow_concat {d ns : List String} (h : fs.follow d ns = .ok (q, .directory))
    (n : String) : fs.follow d (ns ++ [n]) =
      if maxNameBytes < n.utf8ByteSize then .error .nameTooLong
      else fs.follow (below q n) [] := by
  induction ns generalizing d with
  | nil =>
    obtain ⟨rfl, hd⟩ := follow_nil_eq_ok.1 h
    rw [List.nil_append, follow_cons hd]
  | cons m ns ih =>
    obtain ⟨hd, hshort, hrest⟩ := follow_cons_eq_ok.1 h
    rw [List.cons_append, follow_cons hd, if_neg hshort, ih hrest]

/-! ## Reading and writing -/

variable {p : Path} {contents : ByteArray}

/-- Where a path starts. -/
def start (p : Path) : List String := if p.anchor = "" then [] else [rootName]

/-- Unless a path cannot be used at all, it is followed name by name in any files. -/
theorem find_eq_follow {r : Except FileFault (List String × Entry)} (h : fs.find p = r)
    (hnull : r ≠ .error .nullInPath) (hlong : r ≠ .error .nameTooLong) (fs' : Files) :
    fs'.find p = fs'.follow (start p) p.names := by
  unfold find at *
  split at h
  · exact absurd h.symm hnull
  · next hholds =>
    rw [if_neg hholds]
    split at h
    · exact absurd h.symm hlong
    · next hsize =>
      rw [if_neg hsize]
      rfl

theorem isOrdinary_or_empty (h : fs.get? names ≠ some .directory) :
    IsOrdinary names ∨ names = emptyFile := by
  unfold get? at h
  split at h
  · exact absurd rfl h
  · next hplain =>
    rw [Bool.or_eq_true, not_or, Bool.not_eq_true, Bool.not_eq_true] at hplain
    by_cases hempty : names = emptyFile
    · exact .inr hempty
    · exact .inl ⟨hplain.1, hplain.2, hempty⟩

/-- The path of a file that is put leads to where it is put. -/
theorem read_put (hq : fs.get? q ≠ some .directory)
    (hfind : ∀ e, (fs.put q (.file contents)).get? q = some e →
      (fs.put q (.file contents)).find p = .ok (q, e)) :
    (fs.put q (.file contents)).read p = .ok contents ∨
      (fs.put q (.file contents)).find p = .ok (emptyFile, .file .empty) := by
  rcases isOrdinary_or_empty hq with hordinary | rfl
  · left
    unfold read
    rw [hfind _ (get?_put_self hordinary _)]
    rfl
  · exact .inr (hfind _ rfl)

theorem place_eq_ok (h : fs.place p = .ok q) :
    ∃ d, fs.find p.parent = .ok (d, .directory) ∧ q = below d p.name := by
  obtain ⟨⟨d, e⟩, hd, hplace⟩ := except_bind_eq_ok.1 h
  cases e with
  | directory => exact ⟨d, hd, (Except.ok.inj hplace).symm⟩
  | file c => exact nomatch hplace

theorem names_eq_concat (h : p.names ≠ []) : p.names = p.parent.names ++ [p.name] := by
  unfold Path.parent Path.name
  rw [List.getLastD_eq_getLast?, List.getLast?_eq_some_getLast h, Option.getD_some,
    List.dropLast_append_getLast h]

/-- What is written is read, unless the path leads to the file that is always empty. -/
theorem read_write (h : fs.write p contents = .ok after) :
    after.read p = .ok contents ∨ after.find p = .ok (emptyFile, .file .empty) := by
  unfold write at h
  split at h
  · exact nomatch h
  · next q c hfound =>
    -- there is a file, in whose place another one is put
    obtain rfl := Except.ok.inj h
    have hfollow (fs' : Files) : fs'.find p = fs'.follow (start p) p.names :=
      find_eq_follow hfound nofun nofun fs'
    rw [hfollow] at hfound
    have hfile := get?_of_follow hfound
    have hq : fs.get? q ≠ some .directory := by
      rw [hfile]
      exact nofun
    apply read_put hq
    intro e he
    rw [hfollow]
    exact follow_of_keepsDirectories (keepsDirectories_put hq _) hfound he
  · next hmissing =>
    obtain ⟨q, hplace, hput⟩ := except_bind_eq_ok.1 h
    obtain rfl := Except.ok.inj hput
    obtain ⟨d, hparent, rfl⟩ := place_eq_ok hplace
    have hfollow (fs' : Files) : fs'.find p = fs'.follow (start p) p.names :=
      find_eq_follow hmissing nofun nofun fs'
    have hfront (fs' : Files) : fs'.find p.parent = fs'.follow (start p) p.parent.names :=
      find_eq_follow hparent nofun nofun fs'
    have hnames : p.names ≠ [] := by
      intro hnil
      have hsame : p.parent = p := by
        unfold Path.parent
        rw [hnil]
        exact congrArg (Path.mk p.anchor) hnil.symm
      rw [hsame, hmissing] at hparent
      exact nomatch hparent
    -- the directory of the path is there, or the file would have no place, and in the directory
    -- there is nothing under the name
    rw [hfront] at hparent
    rw [hfollow, names_eq_concat hnames, follow_concat hparent] at hmissing
    by_cases hlong : maxNameBytes < p.name.utf8ByteSize
    · rw [if_pos hlong] at hmissing
      exact nomatch hmissing
    rw [if_neg hlong] at hmissing
    have hnone : fs.get? (below d p.name) = none := follow_nil_eq_error hmissing
    have hq : fs.get? (below d p.name) ≠ some .directory := by
      rw [hnone]
      exact nofun
    apply read_put hq
    intro e he
    have hkeeps := keepsDirectories_put hq (.file contents)
    have hd := hkeeps d (get?_of_follow hparent)
    rw [hfollow, names_eq_concat hnames,
      follow_concat (follow_of_keepsDirectories hkeeps hparent hd), if_neg hlong]
    exact follow_nil_eq_ok.2 ⟨rfl, he⟩
  · exact nomatch h

/-- A file is written below directories that are made for it, and is read there. -/
theorem read_writeBelow (h : fs.writeBelow p contents = .ok after) :
    after.read p = .ok contents ∨ after.find p = .ok (emptyFile, .file .empty) := by
  obtain ⟨made, -, hwrite⟩ := except_bind_eq_ok.1 h
  exact read_write hwrite

end InfoFlow.Files
