import MissionLint.Table

namespace MissionLint

/-!
# Looking up changed tables

What the keys and the values of a table are after it was changed.
-/

namespace Table

variable {Key Value : Type} [BEq Key] [LawfulBEq Key]

/-- A table has the keys of its entries. -/
theorem has_eq_true_iff
    (table : Table Key Value)
    (key : Key) :
    table.has key = true ↔ key ∈ table.keys := by
  simp [has, keys, List.lookup_isSome_iff]

omit [LawfulBEq Key] in
/-- The first entry of a table decides about its own key only. -/
theorem find?_cons
    (first key : Key)
    (held : Value)
    (rest : Table Key Value) :
    Table.find? ((first, held) :: rest) key =
      if key == first then some held else rest.find? key := by
  simp only [find?, List.lookup_cons]
  cases key == first <;>
    rfl

omit [LawfulBEq Key] in
/-- A table that goes on is looked up from its first part to its last. -/
theorem find?_append
    (table more : Table Key Value)
    (key : Key) :
    Table.find? (table ++ more) key = (table.find? key).or (more.find? key) :=
  List.lookup_append

/-- What is found under a key is an entry. -/
theorem mem_of_find?_eq_some
    {table : Table Key Value}
    {key : Key}
    {value : Value}
    (found : table.find? key = some value) :
    (key, value) ∈ table := by
  obtain ⟨before, after, rfl, _⟩ := List.lookup_eq_some_iff.mp found
  simp

/-- Putting a value under a known key adds no key. -/
theorem keys_put_of_mem
    {table : Table Key Value}
    {key : Key}
    (known : key ∈ table.keys)
    (value : Value) :
    (table.put key value).keys = table.keys := by
  induction table with
  | nil =>
      simp [keys] at known
  | cons entry rest inductionHypothesis =>
      obtain ⟨first, held⟩ := entry
      by_cases same : key = first
      · simp [put, keys, same]
      · have inRest : key ∈ keys rest := by
          simpa [keys, same] using known
        simpa [put, keys, same] using inductionHypothesis inRest

/-- Giving a key a value changes what is found under that key only. -/
theorem find?_put
    (table : Table Key Value)
    (key other : Key)
    (value : Value) :
    (table.put key value).find? other =
      if other == key then some value else table.find? other := by
  induction table with
  | nil =>
      simp [put, find?_cons]
  | cons entry rest inductionHypothesis =>
      obtain ⟨first, held⟩ := entry
      by_cases same : key = first
      · subst first
        by_cases asked : other = key <;>
          simp [put, find?_cons, asked]
      · by_cases asked : other = first
        · subst first
          have notKey : other ≠ key := Ne.symm same
          simp [put, find?_cons, same, notKey]
        · simp [put, find?_cons, same, asked, inductionHypothesis]

/-- Nothing is found under an unknown key. -/
theorem find?_eq_none_of_not_mem
    {table : Table Key Value}
    {key : Key}
    (unknown : key ∉ table.keys) :
    table.find? key = none :=
  Option.not_isSome_iff_eq_none.mp (mt (has_eq_true_iff table key).mp unknown)

/-- Changing values changes no key. -/
@[simp] theorem keys_modify
    (table : Table Key Value)
    (key : Key)
    (change : Value → Value) :
    (table.modify key change).keys = table.keys := by
  induction table with
  | nil =>
      rfl
  | cons entry rest inductionHypothesis =>
      obtain ⟨first, held⟩ := entry
      by_cases same : key = first
      · simp [modify, keys, same]
      · simpa [modify, keys, same] using inductionHypothesis

/-- Changing the value of a key changes what is found under that key only. -/
theorem find?_modify
    (table : Table Key Value)
    (key other : Key)
    (change : Value → Value) :
    (table.modify key change).find? other =
      if other == key then (table.find? key).map change else table.find? other := by
  induction table with
  | nil =>
      simp [modify, find?]
  | cons entry rest inductionHypothesis =>
      obtain ⟨first, held⟩ := entry
      by_cases same : key = first
      · subst first
        by_cases asked : other = key <;>
          simp [modify, find?_cons, asked]
      · by_cases asked : other = first
        · subst first
          have notKey : other ≠ key := Ne.symm same
          simp [modify, find?_cons, same, notKey]
        · simp [modify, find?_cons, same, asked, inductionHypothesis]

/-- Changing every value, in a way that may depend on its key, keeps what is found where. -/
theorem find?_map
    (table : Table Key Value)
    (change : Key → Value → Value)
    (key : Key) :
    Table.find? (table.map fun entry => (entry.1, change entry.1 entry.2)) key =
      (table.find? key).map (change key) := by
  induction table with
  | nil =>
      rfl
  | cons entry rest inductionHypothesis =>
      obtain ⟨first, held⟩ := entry
      by_cases same : key = first
      · subst first
        simp [find?_cons]
      · simp [find?_cons, same, inductionHypothesis]

/-- What is found under the key of a table that lists the values of some keys. -/
theorem find?_map_keys
    [DecidableEq Key]
    (keys : List Key)
    (value : Key → Value)
    (key : Key) :
    Table.find? (keys.map fun name => (name, value name)) key =
      if key ∈ keys then some (value key) else none := by
  induction keys with
  | nil =>
      rfl
  | cons name rest inductionHypothesis =>
      rw [List.map_cons, find?_cons, inductionHypothesis]
      by_cases same : key = name
      · simp [same]
      · simp [same]

/-- A table without repeated keys is given by its keys and by what is found under them. -/
theorem eq_map_keys
    {table : Table Key Value}
    (distinct : table.keys.Nodup)
    (fallback : Value) :
    table = table.keys.map fun key => (key, (table.find? key).getD fallback) := by
  induction table with
  | nil =>
      rfl
  | cons entry rest inductionHypothesis =>
      obtain ⟨first, held⟩ := entry
      obtain ⟨isNew, restDistinct⟩ := List.nodup_cons.mp distinct
      have others :
          (keys rest).map (fun key => (key, (find? ((first, held) :: rest) key).getD fallback)) =
            rest := by
        refine Eq.trans (List.map_congr_left fun key member => ?_)
          (inductionHypothesis restDistinct).symm
        have notFirst : key ≠ first := fun isFirst => isNew (isFirst ▸ member)
        simp [find?_cons, notFirst]
      change (first, held) :: rest = _ :: (keys rest).map _
      rw [others]
      simp [find?_cons]

end Table

end MissionLint
