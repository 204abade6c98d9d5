/-!
# Tables in the order of their keys' first entry

A table is a list of entries. Putting an entry replaces the value of an equal key in its place, or
goes to the end. The laws say what a look-up sees after a put and in which order the keys stand.
-/

namespace InfoFlow

/-- Entries in the order in which their keys first came. -/
abbrev Keyed (κ α : Type) := List (κ × α)

namespace Keyed

variable {κ α : Type} [DecidableEq κ]

/-- The value of a key. -/
def get? : Keyed κ α → κ → Option α
  | [], _ => none
  | (k, v) :: t, key => if k = key then some v else get? t key

/-- Gives a key a value: in place if the key is there, else at the end. -/
def put : Keyed κ α → κ → α → Keyed κ α
  | [], key, value => [(key, value)]
  | (k, v) :: t, key, value => if k = key then (k, value) :: t else (k, v) :: put t key value

/-- The table that a row of entries gives, one put after the other. -/
def ofList (entries : List (κ × α)) : Keyed κ α :=
  entries.foldl (fun t e => put t e.1 e.2) []

/-- The keys, in order. -/
def keys (t : Keyed κ α) : List κ := t.map (·.1)

/-- The entries of `top` put on top of those of `base`. -/
def overlay (base top : Keyed κ α) : Keyed κ α :=
  top.foldl (fun t e => put t e.1 e.2) base

theorem get?_put (t : Keyed κ α) (key k : κ) (value : α) :
    (t.put key value).get? k = if key = k then some value else t.get? k := by
  induction t with
  | nil => simp [put, get?]
  | cons e t ih =>
    obtain ⟨k₀, v₀⟩ := e
    by_cases h : k₀ = key
    · subst h
      by_cases hk : k₀ = k <;> simp [put, get?, hk]
    · by_cases hk : k₀ = k
      · subst hk
        simp [put, get?, h, Ne.symm h]
      · simp [put, get?, h, hk, ih]

theorem keys_put (t : Keyed κ α) (key : κ) (value : α) :
    (t.put key value).keys = if key ∈ t.keys then t.keys else t.keys ++ [key] := by
  induction t with
  | nil => simp [put, keys]
  | cons e t ih =>
    obtain ⟨k₀, v₀⟩ := e
    by_cases h : k₀ = key
    · simp [put, keys, h]
    · simp only [keys] at ih
      simp only [put, keys, h, if_false, List.map_cons, List.mem_cons, ih, Ne.symm h, false_or]
      split <;> simp_all

end Keyed

end InfoFlow
