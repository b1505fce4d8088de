/-!
# Maps with text keys

A `KeyMap` is a finite map whose entries stand in strictly ascending order of their keys, so
each map has one representation and its order is the order in which it is written out. Keys are
compared character by character, which is also the order of their UTF-8 bytes.

Each operation is pinned down by one lemma on `get?`, and two maps with the same `get?` are equal
(`KeyMap.ext_get?`).
-/

namespace LocaleSite

universe u v

/-- Entries in strictly ascending order of their keys. -/
abbrev Ascending {α : Type u} (entries : List (String × α)) : Prop :=
  entries.Pairwise fun left right => left.1 < right.1

/-- A finite map from strings, ordered by key. -/
structure KeyMap (α : Type u) where
  entries : List (String × α)
  ascending : Ascending entries

namespace KeyMap

variable {α : Type u} {β : Type v}

@[ext]
theorem ext {left right : KeyMap α} (same : left.entries = right.entries) : left = right := by
  cases left
  cases right
  cases same
  rfl

def empty : KeyMap α := ⟨[], .nil⟩

instance : Inhabited (KeyMap α) := ⟨empty⟩

def keys (map : KeyMap α) : List String := map.entries.map Prod.fst

def values (map : KeyMap α) : List α := map.entries.map Prod.snd

def size (map : KeyMap α) : Nat := map.entries.length

def isEmpty (map : KeyMap α) : Bool := map.entries.isEmpty

/-- The value at a key of a list of entries. -/
def find? (key : String) : List (String × α) → Option α
  | [] => none
  | (other, value) :: rest => if other = key then some value else find? key rest

def get? (map : KeyMap α) (key : String) : Option α := find? key map.entries

/-- Whether the map has a value at a key. -/
def contains (map : KeyMap α) (key : String) : Bool := (map.get? key).isSome

/-- Put an entry in its place, in place of one with the same key. -/
def insertEntry (key : String) (value : α) : List (String × α) → List (String × α)
  | [] => [(key, value)]
  | (other, old) :: rest =>
      if key < other then (key, value) :: (other, old) :: rest
      else if other = key then (key, value) :: rest
      else (other, old) :: insertEntry key value rest

theorem mem_insertEntry {key : String} {value : α} {entries : List (String × α)}
    {entry : String × α} (mem : entry ∈ insertEntry key value entries) :
    entry = (key, value) ∨ entry ∈ entries := by
  induction entries with
  | nil => simpa [insertEntry] using mem
  | cons head rest ih =>
    obtain ⟨other, old⟩ := head
    unfold insertEntry at mem
    split at mem
    · simpa using mem
    · split at mem
      · rcases List.mem_cons.1 mem with same | later
        · exact .inl same
        · exact .inr (List.mem_cons_of_mem _ later)
      · rcases List.mem_cons.1 mem with same | later
        · exact .inr (by simp [same])
        · rcases ih later with same | old
          · exact .inl same
          · exact .inr (List.mem_cons_of_mem _ old)

theorem ascending_insertEntry {key : String} {value : α} {entries : List (String × α)}
    (ascending : Ascending entries) : Ascending (insertEntry key value entries) := by
  induction entries with
  | nil => simp [insertEntry]
  | cons head rest ih =>
    obtain ⟨other, old⟩ := head
    obtain ⟨headBelow, restAscending⟩ := List.pairwise_cons.1 ascending
    unfold insertEntry
    split
    · rename_i before
      refine List.pairwise_cons.2 ⟨?_, ascending⟩
      intro entry mem
      rcases List.mem_cons.1 mem with same | later
      · simpa [same] using before
      · exact String.lt_trans before (headBelow entry later)
    · rename_i notBefore
      split
      · rename_i same
        subst same
        exact List.pairwise_cons.2 ⟨headBelow, restAscending⟩
      · rename_i different
        refine List.pairwise_cons.2 ⟨?_, ih restAscending⟩
        intro entry mem
        rcases mem_insertEntry mem with same | old
        · subst same
          exact Std.not_le.1 fun le =>
            different (String.le_antisymm (Std.not_lt.1 notBefore) le)
        · exact headBelow entry old

/-- The map with one entry put in, in place of one with the same key. -/
def insert (map : KeyMap α) (key : String) (value : α) : KeyMap α :=
  ⟨insertEntry key value map.entries, ascending_insertEntry map.ascending⟩

/-- The map of a list of entries; of two with one key the later counts. -/
def ofList (entries : List (String × α)) : KeyMap α :=
  entries.foldl (fun map entry => map.insert entry.1 entry.2) empty

def erase (map : KeyMap α) (key : String) : KeyMap α :=
  ⟨map.entries.filter (·.1 != key), map.ascending.sublist List.filter_sublist⟩

/-- The map with every value replaced, the keys kept. -/
def mapValues (f : α → β) (map : KeyMap α) : KeyMap β :=
  ⟨map.entries.map fun entry => (entry.1, f entry.2), List.pairwise_map.2 map.ascending⟩

theorem find?_insertEntry (key : String) (value : α) (entries : List (String × α))
    (wanted : String) :
    find? wanted (insertEntry key value entries) =
      if key = wanted then some value else find? wanted entries := by
  induction entries with
  | nil => simp [insertEntry, find?]
  | cons head rest ih =>
    obtain ⟨other, old⟩ := head
    unfold insertEntry
    split
    · simp [find?]
    · split
      · rename_i same
        subst same
        by_cases here : other = wanted <;> simp [find?, here]
      · rename_i different
        simp only [find?, ih]
        by_cases here : other = wanted
        · have : key ≠ wanted := fun same => different (here.trans same.symm)
          simp [here, this]
        · simp [here]

@[simp]
theorem get?_empty (key : String) : (empty : KeyMap α).get? key = none := rfl

@[simp]
theorem get?_insert (map : KeyMap α) (key : String) (value : α) (wanted : String) :
    (map.insert key value).get? wanted =
      if key = wanted then some value else map.get? wanted :=
  find?_insertEntry key value map.entries wanted

theorem mem_of_find?_eq_some {key : String} {value : α} {entries : List (String × α)}
    (found : find? key entries = some value) : (key, value) ∈ entries := by
  induction entries with
  | nil => simp [find?] at found
  | cons head rest ih =>
    obtain ⟨other, old⟩ := head
    unfold find? at found
    split at found
    · rename_i same
      cases found
      exact List.mem_cons.2 (.inl (by rw [same]))
    · exact List.mem_cons_of_mem _ (ih found)

theorem find?_eq_some_of_mem {key : String} {value : α} {entries : List (String × α)}
    (ascending : Ascending entries) (mem : (key, value) ∈ entries) :
    find? key entries = some value := by
  induction entries with
  | nil => simp at mem
  | cons head rest ih =>
    obtain ⟨other, old⟩ := head
    obtain ⟨headBelow, restAscending⟩ := List.pairwise_cons.1 ascending
    unfold find?
    rcases List.mem_cons.1 mem with same | later
    · cases same
      simp
    · have below : other < key := headBelow (key, value) later
      have different : other ≠ key := fun same => String.lt_irrefl key (same ▸ below)
      simp [different, ih restAscending later]

theorem get?_eq_some_iff {map : KeyMap α} {key : String} {value : α} :
    map.get? key = some value ↔ (key, value) ∈ map.entries :=
  ⟨mem_of_find?_eq_some, find?_eq_some_of_mem map.ascending⟩

/-- Two lists in strictly ascending order with the same entries are equal. -/
theorem entries_eq_of_mem_iff {left right : List (String × α)} (leftAscending : Ascending left)
    (rightAscending : Ascending right) (same : ∀ entry, entry ∈ left ↔ entry ∈ right) :
    left = right := by
  induction left generalizing right with
  | nil =>
    cases right with
    | nil => rfl
    | cons head rest => exact absurd ((same head).2 (by simp)) (by simp)
  | cons leftHead leftRest ih =>
    cases right with
    | nil => exact absurd ((same leftHead).1 (by simp)) (by simp)
    | cons rightHead rightRest =>
      obtain ⟨leftBelow, leftRestAscending⟩ := List.pairwise_cons.1 leftAscending
      obtain ⟨rightBelow, rightRestAscending⟩ := List.pairwise_cons.1 rightAscending
      have headEq : leftHead = rightHead := by
        rcases List.mem_cons.1 ((same leftHead).1 (by simp)) with here | inRight
        · exact here
        rcases List.mem_cons.1 ((same rightHead).2 (by simp)) with here | inLeft
        · exact here.symm
        exact absurd (leftBelow _ inLeft) (String.lt_asymm (rightBelow _ inRight))
      subst headEq
      refine congrArg (leftHead :: ·) (ih leftRestAscending rightRestAscending fun entry => ?_)
      constructor
      · intro mem
        rcases List.mem_cons.1 ((same entry).1 (List.mem_cons_of_mem _ mem)) with here | inRest
        · exact absurd (here ▸ leftBelow entry mem) (String.lt_irrefl _)
        · exact inRest
      · intro mem
        rcases List.mem_cons.1 ((same entry).2 (List.mem_cons_of_mem _ mem)) with here | inRest
        · exact absurd (here ▸ rightBelow entry mem) (String.lt_irrefl _)
        · exact inRest

/-- Two maps with the same value at every key are equal. -/
theorem ext_get? {left right : KeyMap α} (same : ∀ key, left.get? key = right.get? key) :
    left = right := by
  refine KeyMap.ext (entries_eq_of_mem_iff left.ascending right.ascending fun entry => ?_)
  have sameValue : left.get? entry.1 = some entry.2 ↔ right.get? entry.1 = some entry.2 := by
    rw [same]
  exact get?_eq_some_iff.symm.trans (sameValue.trans get?_eq_some_iff)

end KeyMap

/-- The distinct members of a list of names in ascending order. -/
def distinctAscending (names : List String) : List String :=
  (KeyMap.ofList (names.map fun name => (name, ()))).keys

end LocaleSite
