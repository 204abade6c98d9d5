import InfoFlow.Settings
import InfoFlow.Proofs.Keyed
import InfoFlow.Proofs.Text.Margins
import Mathlib.Algebra.Group.Nat.Defs
/-!
# Settings from options and a table

For each setting one value counts: that of the options unless it is missing or null, else that of
the table; where neither gives one, the setting has its default. The settings are decided one by
one, and the first value that gives nothing is reported under its key. There is no message for it if
it cannot be quoted, as an integer with too many digits cannot.
-/

namespace InfoFlow

/-! ## The values that count -/

/-- The value that counts for a key. -/
def counted? (options table : Keyed String Value) (key : String) : Option Value :=
  match Keyed.get? options key with
  | none | some .null => Keyed.get? table key
  | some v => some v

section

variable {options table : Keyed String Value} {key : String}

theorem get?_mergeOptions (honce : (Keyed.keys options).Nodup) :
    Keyed.get? (mergeOptions options table) key = counted? options table key := by
  unfold mergeOptions counted?
  rw [Keyed.get?_overlay table (honce.sublist (List.filter_sublist.map Prod.fst)),
    Keyed.get?_filter honce]
  cases Keyed.get? options key with
  | none => rfl
  | some v => cases v <;> rfl

theorem counted?_ne_null (hnull : ∀ e ∈ table, e.2 ≠ .null) :
    counted? options table key ≠ some .null := by
  have htable : Keyed.get? table key ≠ some .null :=
    fun h => hnull _ (Keyed.mem_of_get?_eq_some h) rfl
  unfold counted?
  cases Keyed.get? options key with
  | none => exact htable
  | some v =>
    cases v with
    | null => exact htable
    | bool | int | float | text | moment | list | table => exact nofun

end

/-! ## Words -/

namespace Text

/-- A character in lower case, with a low line for a hyphen. -/
def wordChar (c : Char) : Char := if lowerChar c = '-' then '_' else lowerChar c

/-- Some characters spell a word, in either case and with hyphens or low lines. -/
def Spells (cs : List Char) (word : String) : Prop := cs.map wordChar = word.toList

theorem wordChar_of_isBlank {c : Char} (h : isBlank c = true) : wordChar c = c := by
  have hblank : ∀ p ∈ blankPoints, wordChar (Char.ofNat p) = Char.ofNat p := by decide +kernel
  rw [isBlank, List.contains_iff_mem] at h
  have hc := hblank c.toNat h
  rwa [Char.ofNat_toNat] at hc

theorem Spells.not_isBlank {cs : List Char} {word : String} (h : Spells cs word)
    (hword : word.toList.any isBlank = false) : ∀ c ∈ cs, isBlank c = false := by
  intro c hc
  by_contra hblank
  rw [Bool.not_eq_false] at hblank
  have hmem : wordChar c ∈ word.toList := h ▸ List.mem_map_of_mem hc
  rw [wordChar_of_isBlank hblank] at hmem
  exact List.any_eq_false.1 hword c hmem hblank

end Text

theorem Settings.toList_normalized (s : String) :
    (normalized s).toList = (Text.strip s).toList.map Text.wordChar := by
  unfold normalized Text.lower
  rw [String.toList_ofList, String.toList_ofList, List.map_map]
  rfl

/-- A value names a choice: it is a text that spells its word between blanks. -/
inductive Value.Names {α : Type} [Choice α] : Value → α → Prop where
  | word {s : String} {cs : List Char} {a : α} (frames : Text.Frames s cs)
    (spells : Text.Spells cs (Choice.word a)) : Names (.text s) a

/-- Each word of a choice stands for one value and has no blank in it. -/
def Choice.IsPlain (α : Type) [Choice α] : Prop :=
  ∀ a : α, Choice.ofWord? (Choice.word a) = some a ∧
    (Choice.word a).toList.any Text.isBlank = false

theorem RunMode.isPlain : Choice.IsPlain RunMode := by
  intro a
  cases a <;> decide

theorem UnknownMarkers.isPlain : Choice.IsPlain UnknownMarkers := by
  intro a
  cases a <;> decide

theorem Value.names_iff {α : Type} [Choice α] (hplain : Choice.IsPlain α) {v : Value} {a : α} :
    v.Names a ↔ (v.text?.bind fun s => Choice.ofWord? (Settings.normalized s)) = some a := by
  constructor
  · rintro @⟨s, cs, _, frames, spells⟩
    obtain ⟨hword, hblank⟩ := hplain a
    have hstrip := frames.toList_strip (spells.not_isBlank hblank)
    have hnormalized : Settings.normalized s = Choice.word a := by
      rw [← String.toList_inj, Settings.toList_normalized, hstrip, spells]
    show Choice.ofWord? (Settings.normalized s) = some a
    rw [hnormalized, hword]
  · intro h
    obtain ⟨s, hs, hword⟩ := Option.bind_eq_some_iff.1 h
    cases v with
    | text t =>
      obtain rfl := Option.some.inj hs
      refine .word (Text.frames_strip t) ?_
      unfold Text.Spells
      rw [← Settings.toList_normalized, Choice.word_of_ofWord? hword]
    | null | bool | int | float | moment | list | table => exact nomatch hs

/-! ## One setting -/

/-- A setting: its key, its default, which value gives what, and how a value that gives nothing is
reported. -/
structure Setting (α : Type) where
  key : String
  default : α
  Gives : Value → α → Prop
  fault : Value → SettingFault

namespace Setting

variable {α : Type}

/-- What counts for a setting decides it: nothing for the default, a value for what it gives. -/
inductive Decides (x : Setting α) : Option Value → α → Prop where
  | missing : Decides x none x.default
  | given {v : Value} {a : α} (gives : x.Gives v a) : Decides x (some v) a

/-- What counts for a setting is a value that gives nothing. -/
def Refuses (x : Setting α) (counts : Option Value) (v : Value) : Prop :=
  counts = some v ∧ ∀ a, ¬x.Gives v a

/-- A setting is read as what counts for it decides, and refused under its key. -/
structure Reads (x : Setting α) (counts : Option Value) (read : Except SettingFault α) : Prop where
  ok_iff : ∀ a, read = .ok a ↔ x.Decides counts a
  error_iff : ∀ f, read = .error f ↔ ∃ v, x.Refuses counts v ∧ f = x.fault v

variable {x : Setting α} {counts : Option Value} {v : Value}

theorem decides_some_iff {a : α} : x.Decides (some v) a ↔ x.Gives v a := by
  constructor
  · rintro (_ | gives)
    exact gives
  · exact .given

theorem reads_missing : x.Reads none (.ok x.default) := by
  constructor
  · intro a
    constructor
    · rintro ⟨⟩
      exact .missing
    · rintro ⟨⟩
      rfl
  · exact fun _ => iff_of_false nofun fun ⟨_, h, _⟩ => nomatch h.1

theorem reads_given {a : α} (h : ∀ b, x.Gives v b ↔ b = a) : x.Reads (some v) (.ok a) := by
  constructor
  · intro b
    rw [decides_some_iff, h, Except.ok.injEq, eq_comm]
  · intro f
    refine iff_of_false nofun fun ⟨w, hrefuses, _⟩ => ?_
    obtain rfl := Option.some.inj hrefuses.1
    exact hrefuses.2 a ((h a).2 rfl)

theorem reads_refused (h : ∀ a, ¬x.Gives v a) : x.Reads (some v) (.error (x.fault v)) := by
  constructor
  · intro a
    rw [decides_some_iff]
    exact iff_of_false nofun (h a)
  · intro f
    constructor
    · rintro ⟨⟩
      exact ⟨v, ⟨rfl, h⟩, rfl⟩
    · rintro ⟨w, hrefuses, rfl⟩
      obtain rfl := Option.some.inj hrefuses.1
      rfl

end Setting

namespace Settings

/-- Whether the first failure ends a run. -/
def modeSetting : Setting RunMode where
  key := "mode"
  default := .failFast
  Gives := Value.Names
  fault := .notChoice "mode" ["fail_fast", "exhaustive"]

/-- What an undeclared marker means. -/
def unknownSetting : Setting UnknownMarkers where
  key := "unknown_markers"
  default := .error
  Gives := Value.Names
  fault := .notChoice "unknown_markers" ["error", "empty"]

/-- How many statements may be evaluated at a time. -/
def workersSetting : Setting { n : Nat // 0 < n } where
  key := "workers"
  default := ⟨1, Nat.one_pos⟩
  Gives v n := v = .int n
  fault := .workers

section

variable {table : Keyed String Value}

theorem choice_reads {α : Type} [Choice α] (hplain : Choice.IsPlain α) {key : String} {default : α}
    (hnull : Keyed.get? table key ≠ some .null) :
    (Setting.mk key default Value.Names (.notChoice key (Choice.words α))).Reads
      (Keyed.get? table key) (choice key default table) := by
  unfold choice
  split
  · next h =>
    rw [h]
    exact Setting.reads_missing
  · next h => exact absurd h hnull
  · next v _ h =>
    rw [h]
    cases hword : v.text?.bind fun s => (Choice.ofWord? (normalized s) : Option α) with
    | some a =>
      refine Setting.reads_given fun b => ?_
      show v.Names b ↔ b = a
      rw [Value.names_iff hplain, hword, Option.some.injEq, eq_comm]
    | none =>
      refine Setting.reads_refused fun a (hnames : v.Names a) => ?_
      rw [Value.names_iff hplain, hword] at hnames
      cases hnames

theorem workers_reads :
    workersSetting.Reads (Keyed.get? table "workers") (workersOf table) := by
  unfold workersOf
  cases Keyed.get? table "workers" with
  | none => exact Setting.reads_missing
  | some v =>
    rw [Option.getD_some]
    cases v with
    | int i =>
      by_cases h : 0 < i.toNat
      · simp only [dif_pos h]
        refine Setting.reads_given fun n => ?_
        show Value.int i = .int (n.1 : Int) ↔ n = ⟨i.toNat, h⟩
        rw [Value.int.injEq, Subtype.ext_iff]
        show i = (n.1 : Int) ↔ n.1 = i.toNat
        omega
      · simp only [dif_neg h]
        refine Setting.reads_refused fun n hn => h ?_
        rw [Value.int.inj hn, Int.toNat_natCast]
        exact n.2
    | null | bool | float | text | moment | list | table =>
      exact Setting.reads_refused fun _ => nofun

end

/-! ## All settings -/

variable {options table : Keyed String Value}

/-- Settings are those that the values that count decide, each on its own. -/
structure DecidedBy (s : Settings) (options table : Keyed String Value) : Prop where
  mode : modeSetting.Decides (counted? options table "mode") s.mode
  unknownMarkers :
    unknownSetting.Decides (counted? options table "unknown_markers") s.unknownMarkers
  workers : workersSetting.Decides (counted? options table "workers") ⟨s.workers, s.workers_pos⟩

/-- The first key whose value gives nothing, with that value and how it is reported. -/
inductive FirstRefused (options table : Keyed String Value) : String → Value → SettingFault → Prop
    where
  | mode {v : Value} (refuses : modeSetting.Refuses (counted? options table "mode") v) :
    FirstRefused options table "mode" v (modeSetting.fault v)
  | unknownMarkers {v : Value} {m : RunMode}
    (mode : modeSetting.Decides (counted? options table "mode") m)
    (refuses : unknownSetting.Refuses (counted? options table "unknown_markers") v) :
    FirstRefused options table "unknown_markers" v (unknownSetting.fault v)
  | workers {v : Value} {m : RunMode} {u : UnknownMarkers}
    (mode : modeSetting.Decides (counted? options table "mode") m)
    (unknownMarkers : unknownSetting.Decides (counted? options table "unknown_markers") u)
    (refuses : workersSetting.Refuses (counted? options table "workers") v) :
    FirstRefused options table "workers" v (workersSetting.fault v)

/-- Settings are read as it is told: those that are decided are given, and else the first value that
gives nothing is reported in a message. -/
structure ReadAsTold (options table : Keyed String Value) (read : Except SettingFault Settings) :
    Prop where
  given : ∀ s, read = .ok s ↔ s.DecidedBy options table
  reported : ∀ key v f, FirstRefused options table key v f → read = .error f ∧ f.isWorded = true

theorem FirstRefused.isWorded {key : String} {v : Value} {f : SettingFault}
    (h : FirstRefused options table key v f) : f.isWorded = v.isQuotable := by
  cases h <;> rfl

theorem FirstRefused.message {key : String} {v : Value} {f : SettingFault}
    (h : FirstRefused options table key v f) :
    ∃ terms, f.message = key ++ " must be " ++ terms ++ "; got " ++ v.quoted := by
  cases h with
  | mode => exact ⟨"one of fail_fast, exhaustive", rfl⟩
  | unknownMarkers => exact ⟨"one of error, empty", rfl⟩
  | workers => exact ⟨"a positive integer", rfl⟩

theorem ofTable_reads (honce : (Keyed.keys options).Nodup) (hnull : ∀ e ∈ table, e.2 ≠ .null) :
    (∀ s, ofTable (mergeOptions options table) = .ok s ↔ s.DecidedBy options table) ∧
      ∀ f, ofTable (mergeOptions options table) = .error f ↔
        ∃ key v, FirstRefused options table key v f := by
  have hcounted (key : String) : Keyed.get? (mergeOptions options table) key ≠ some .null := by
    rw [get?_mergeOptions honce]
    exact counted?_ne_null hnull
  have hmode : modeSetting.Reads (counted? options table "mode")
      (choice "mode" .failFast (mergeOptions options table)) := by
    rw [← get?_mergeOptions honce]
    exact choice_reads RunMode.isPlain (hcounted "mode")
  have hunknown : unknownSetting.Reads (counted? options table "unknown_markers")
      (choice "unknown_markers" .error (mergeOptions options table)) := by
    rw [← get?_mergeOptions honce]
    exact choice_reads UnknownMarkers.isPlain (hcounted "unknown_markers")
  have hworkers : workersSetting.Reads (counted? options table "workers")
      (workersOf (mergeOptions options table)) := by
    rw [← get?_mergeOptions honce]
    exact workers_reads
  unfold ofTable
  constructor
  · intro s
    simp only [except_bind_eq_ok, except_pure_eq_ok, hmode.ok_iff, hunknown.ok_iff, hworkers.ok_iff]
    constructor
    · rintro ⟨m, hm, u, hu, w, hw, rfl⟩
      exact ⟨hm, hu, hw⟩
    · rintro ⟨hm, hu, hw⟩
      exact ⟨s.mode, hm, s.unknownMarkers, hu, ⟨s.workers, s.workers_pos⟩, hw, rfl⟩
  · intro f
    -- the reading stops at the first of the three that is refused
    simp only [except_bind_eq_error, hmode.ok_iff, hunknown.ok_iff, hmode.error_iff,
      hunknown.error_iff, hworkers.error_iff]
    constructor
    · rintro (⟨v, hv, rfl⟩ | ⟨m, hm, ⟨v, hv, rfl⟩ | ⟨u, hu, ⟨v, hv, rfl⟩ | ⟨w, _, hw⟩⟩⟩)
      · exact ⟨"mode", v, .mode hv⟩
      · exact ⟨"unknown_markers", v, .unknownMarkers hm hv⟩
      · exact ⟨"workers", v, .workers hm hu hv⟩
      · exact nomatch hw
    · rintro ⟨key, v, hv | ⟨hm, hv⟩ | ⟨hm, hu, hv⟩⟩
      · exact .inl ⟨v, hv, rfl⟩
      · exact .inr ⟨_, hm, .inl ⟨v, hv, rfl⟩⟩
      · exact .inr ⟨_, hm, .inr ⟨_, hu, .inl ⟨v, hv, rfl⟩⟩⟩

/-- Settings are given exactly as the values that count decide them, and refused exactly for the
first value that gives nothing, under its key. That is as it is told, but for a value that cannot be
quoted. -/
theorem ofTable_mergeOptions (options table : Keyed String Value)
    (honce : (Keyed.keys options).Nodup) (hnull : ∀ e ∈ table, e.2 ≠ .null) :
    (∀ s, ofTable (mergeOptions options table) = .ok s ↔ s.DecidedBy options table) ∧
    (∀ f, ofTable (mergeOptions options table) = .error f ↔
      ∃ key v, FirstRefused options table key v f) ∧
    (∀ key v f, FirstRefused options table key v f →
      ∃ terms, f.message = key ++ " must be " ++ terms ++ "; got " ++ v.quoted) ∧
    (ReadAsTold options table (ofTable (mergeOptions options table)) ↔
      ∀ key v f, FirstRefused options table key v f → v.isQuotable = true) := by
  obtain ⟨hgiven, hrefused⟩ := ofTable_reads honce hnull
  refine ⟨hgiven, hrefused, fun _ _ _ h => h.message, ?_⟩
  constructor
  · intro h key v f hfirst
    rw [← hfirst.isWorded]
    exact (h.reported key v f hfirst).2
  · intro h
    refine ⟨hgiven, fun key v f hfirst => ⟨(hrefused f).2 ⟨key, v, hfirst⟩, ?_⟩⟩
    rw [hfirst.isWorded]
    exact h key v f hfirst

/-- Options that leave the mode to the table. -/
def layeredOptions : Keyed String Value :=
  [("mode", .null), ("unknown_markers", .text " EMPTY"), ("workers", .int 4)]

/-- A table with a mode that is spelled in its own way, and with values for the other settings that
give nothing. -/
def layeredTable : Keyed String Value :=
  [("mode", .text "Fail-Fast "), ("unknown_markers", .bool true), ("workers", .text "many")]

theorem layeredTable_mergeOptions :
    (Keyed.keys layeredOptions).Nodup ∧ (∀ e ∈ layeredTable, e.2 ≠ .null) ∧
      ∃ s : Settings, s.mode = .failFast ∧ s.unknownMarkers = .empty ∧ s.workers = 4 ∧
        s.DecidedBy layeredOptions layeredTable ∧
        ReadAsTold layeredOptions layeredTable
          (ofTable (mergeOptions layeredOptions layeredTable)) := by
  have honce : (Keyed.keys layeredOptions).Nodup := by decide
  have hnull : ∀ e ∈ layeredTable, e.2 ≠ .null := by
    unfold layeredTable
    simp
  obtain ⟨hgiven, hrefused, -, htold⟩ :=
    ofTable_mergeOptions layeredOptions layeredTable honce hnull
  have hread : ofTable (mergeOptions layeredOptions layeredTable) =
      .ok { mode := .failFast, unknownMarkers := .empty, workers := 4 } := rfl
  refine ⟨honce, hnull, _, rfl, rfl, rfl, (hgiven _).1 hread, htold.2 fun key v f hfirst => ?_⟩
  have hfault := (hrefused f).2 ⟨key, v, hfirst⟩
  exact nomatch hread.symm.trans hfault

theorem isQuotable_int_iff {i : Int} :
    (Value.int i).isQuotable = true ↔ i.natAbs < 10 ^ Text.maxNumeralLength := by
  show decide ((Nat.repr i.natAbs).length ≤ Text.maxNumeralLength) = true ↔ _
  rw [decide_eq_true_iff, ← String.length_toList, Nat.toList_repr]
  exact Nat.length_toDigits_le_iff (by decide) (by decide)

/-- The least integer that cannot be quoted. -/
def longInteger : Int := (10 ^ Text.maxNumeralLength : Nat)

/-- A mode that is an integer is refused, but a long one is not reported. -/
theorem longInteger_not_readAsTold :
    ¬ReadAsTold [] [("mode", .int longInteger)]
      (ofTable (mergeOptions [] [("mode", .int longInteger)])) := by
  intro h
  have hfirst : FirstRefused [] [("mode", .int longInteger)] "mode" (.int longInteger)
      (modeSetting.fault (.int longInteger)) := .mode ⟨rfl, fun _ => nofun⟩
  have hquotable := (h.reported _ _ _ hfirst).2
  rw [hfirst.isWorded, isQuotable_int_iff, longInteger, Int.natAbs_natCast] at hquotable
  exact Nat.lt_irrefl _ hquotable

end Settings

end InfoFlow
