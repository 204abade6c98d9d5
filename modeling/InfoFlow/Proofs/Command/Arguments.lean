import InfoFlow.CommandLine
import InfoFlow.Proofs.Keyed
/-!
# Paths that a command line gives

No path that an accepted command line reads from holds a null character, and of such a path only the
system finds fault. So what is said of a check whose paths hold none is said of every command line
that asks for a check.
-/

namespace InfoFlow

/-! ## Faults of paths -/

namespace Files

variable {fs : Files} {p : Path}

theorem follow_ne_nullInPath (fs : Files) (names place : List String) :
    fs.follow place names ≠ .error .nullInPath := by
  induction names generalizing place with
  | nil =>
    unfold follow
    cases fs.get? place <;> nofun
  | cons n names ih =>
    unfold follow
    cases fs.get? place with
    | none => nofun
    | some e =>
      cases e with
      | file contents => nofun
      | directory =>
        show (if maxNameBytes < n.utf8ByteSize then _ else _) ≠ _
        by_cases hlong : maxNameBytes < n.utf8ByteSize
        · rw [if_pos hlong]
          nofun
        · rw [if_neg hlong]
          exact ih _

/-- Only a null character makes a path that the system is not asked for. -/
theorem read_ne_nullInPath (h : p.holdsNull = false) : fs.read p ≠ .error .nullInPath := by
  have hfind : fs.find p ≠ .error .nullInPath := by
    unfold find
    rw [if_neg (Bool.eq_false_iff.1 h)]
    by_cases hlong : maxPathBytes < p.render.utf8ByteSize
    · rw [if_pos hlong]
      nofun
    · rw [if_neg hlong]
      exact fs.follow_ne_nullInPath _ _
  unfold read
  cases hfound : fs.find p with
  | error f =>
    rw [hfound] at hfind
    exact fun h => hfind (congrArg Except.error (Except.error.inj h))
  | ok found =>
    obtain ⟨place, e⟩ := found
    cases e <;> nofun

theorem ne_nullInPath_of_read (h : p.holdsNull = false) {f : FileFault}
    (hread : fs.read p = .error f) : f ≠ .nullInPath := by
  rintro rfl
  exact read_ne_nullInPath h hread

end Files

/-! ## Accepted command lines -/

namespace Command

variable {a : Arguments} {option value : String} {p : Path}

theorem path_eq_ok (h : path value = .ok p) : p = .ofText value ∧ p.holdsNull = false := by
  unfold path at h
  cases hnull : (Path.ofText value).holdsNull with
  | true =>
    simp only [hnull, if_true] at h
    exact nomatch h
  | false =>
    simp only [hnull] at h
    obtain rfl := Except.ok.inj h
    exact ⟨rfl, hnull⟩

namespace Arguments

theorem mem_of_value? (h : a.value? option = some value) : (option, value) ∈ a.values := by
  obtain ⟨before, after, hsplit, -⟩ := List.lookup_eq_some_iff.1 h
  rw [← List.mem_reverse, hsplit]
  exact List.mem_append_right before List.mem_cons_self

/-- The value that counts has been checked, whichever was given first. -/
theorem checkValue_of_check (hcheck : a.check = .ok ()) (h : a.value? option = some value) :
    checkValue option value = .ok () := by
  have hchecked := forM_eq_ok hcheck (mem_of_value? h)
  simp only [h, Option.getD_some] at hchecked
  exact hchecked

theorem holdsNull_of_check (hcheck : a.check = .ok ())
    (hoption : pathOptions.contains option = true) (h : a.path? option = some p) :
    p.holdsNull = false := by
  obtain ⟨value, hvalue, rfl⟩ := Option.map_eq_some_iff.1 h
  have hchecked := checkValue_of_check hcheck hvalue
  unfold checkValue at hchecked
  rw [if_pos hoption] at hchecked
  cases hpath : path value with
  | error e =>
    rw [hpath] at hchecked
    exact nomatch hchecked
  | ok q =>
    obtain ⟨rfl, hnull⟩ := path_eq_ok hpath
    exact hnull

end Arguments

/-- No path that a check reads holds a null character. -/
structure ReadsNoNull (o : CheckOptions) : Prop where
  policy : o.policy.holdsNull = false
  graph : o.graph.holdsNull = false
  config : (CommandLine.configPath o).holdsNull = false

theorem holdsNull_child {p : Path} {name : String} (hp : p.holdsNull = false)
    (hname : name.toList.contains '\x00' = false) : (p.child name).holdsNull = false := by
  unfold Path.holdsNull Path.child at *
  rw [List.any_append, hp, List.any_cons, hname]
  rfl

theorem readsNoNull_of_ofCheck {args : List String} {o : CheckOptions}
    (h : ofCheck args = .ok (.check o)) : ReadsNoNull o := by
  obtain ⟨a, -, h⟩ := except_bind_eq_ok.1 h
  obtain ⟨⟨⟩, hcheck, h⟩ := except_bind_eq_ok.1 h
  obtain ⟨policy, hpolicy, h⟩ := except_bind_eq_ok.1 h
  -- the options are put together only if there is a graph and nothing beside the policy
  cases hgraph : a.path? "--graph" with
  | none =>
    rw [hgraph] at h
    exact nomatch h
  | some graph =>
    cases hrest : a.rest with
    | nil =>
      rw [hgraph, hrest] at h
      exact nomatch h
    | cons arg others =>
      cases others with
      | cons other others =>
        rw [hgraph, hrest] at h
        exact nomatch h
      | nil =>
        rw [hgraph, hrest] at h
        obtain rfl := Command.check.inj (Except.ok.inj h)
        have hread (option : String) (hoption : pathOptions.contains option = true) (p : Path) :
            a.path? option = some p → p.holdsNull = false :=
          Arguments.holdsNull_of_check hcheck hoption
        refine ⟨?_, hread "--graph" (by decide) graph hgraph, ?_⟩
        · unfold Arguments.policy at hpolicy
          rw [hrest] at hpolicy
          exact (path_eq_ok hpolicy).2
        · show (Config.pathOf ((a.path? "--root").getD {}) (a.path? "--config")).holdsNull = false
          cases hconfig : a.path? "--config" with
          | some p => exact hread "--config" (by decide) p hconfig
          | none =>
            apply holdsNull_child _ (by decide)
            cases hroot : a.path? "--root" with
            | none => rfl
            | some root => exact hread "--root" (by decide) root hroot

theorem ofExplain_ne_check (args : List String) (o : CheckOptions) :
    ofExplain args ≠ .ok (.check o) := by
  intro h
  obtain ⟨a, -, h⟩ := except_bind_eq_ok.1 h
  obtain ⟨policy, -, h⟩ := except_bind_eq_ok.1 h
  split at h
  · exact nomatch h
  · exact nomatch h

theorem readsNoNull_of_ofArguments {args : List String} {o : CheckOptions}
    (h : ofArguments args = .ok (.check o)) : ReadsNoNull o := by
  have hname (args : List String) (h : ofName args = .ok (.check o)) : ReadsNoNull o := by
    unfold ofName at h
    split at h
    · exact readsNoNull_of_ofCheck h
    · exact absurd h (ofExplain_ne_check _ o)
    · exact nomatch h
  unfold ofArguments at h
  split at h
  · exact hname _ h
  · exact hname _ h

end Command

/-- A command line that asks for a check runs it, on paths that the system is asked for. -/
theorem CommandLine.run_of_ofArguments (host : Host) (fs : Files) {args : List String}
    {o : CheckOptions} (h : Command.ofArguments args = .ok (.check o)) :
    run host fs args = runCheck host fs o ∧ Command.ReadsNoNull o := by
  refine ⟨?_, Command.readsNoNull_of_ofArguments h⟩
  unfold run
  rw [h]

end InfoFlow
