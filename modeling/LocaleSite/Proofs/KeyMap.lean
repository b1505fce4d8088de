import LocaleSite.KeyMap
import Mathlib.Data.List.Forall2
import Mathlib.Data.List.Nodup
import Mathlib.Data.List.Perm.Basic

/-!
# Maps made from lists of entries

What a map made by one insertion after the other holds: at each key the last entry with that key,
so all entries when no key comes twice, and the list itself when the keys already ascend.
-/

namespace LocaleSite

universe u

variable {α : Type u}

theorem Ascending.nodup_keys {entries : List (String × α)} (ascending : Ascending entries) :
    (entries.map Prod.fst).Nodup := by
  refine List.pairwise_map.2 (List.Pairwise.imp ?_ ascending)
  intro left right before same
  exact String.lt_irrefl right.1 (same ▸ before)

namespace KeyMap

theorem find?_append (key : String) (left right : List (String × α)) :
    find? key (left ++ right) = (find? key left).or (find? key right) := by
  induction left with
  | nil => rfl
  | cons head rest ih =>
      rcases head with ⟨other, value⟩
      by_cases here : other = key
      · simp [find?, here]
      · simp [find?, here, ih]

theorem isSome_find?_iff {key : String} {entries : List (String × α)} :
    (find? key entries).isSome = true ↔ key ∈ entries.map Prod.fst := by
  induction entries with
  | nil => simp [find?]
  | cons head rest ih =>
      rcases head with ⟨other, value⟩
      by_cases here : other = key
      · simp [find?, here]
      · have : key ≠ other := fun same => here same.symm
        simp [find?, here, this, ih]

/-- With no key twice, the value at a key is that of the entry with the key. -/
theorem find?_eq_some_iff_of_nodup {key : String} {value : α} {entries : List (String × α)}
    (nodup : (entries.map Prod.fst).Nodup) :
    find? key entries = some value ↔ (key, value) ∈ entries := by
  refine ⟨mem_of_find?_eq_some, fun mem => ?_⟩
  induction entries with
  | nil => simp at mem
  | cons head rest ih =>
      rcases head with ⟨other, old⟩
      rcases List.nodup_cons.1 nodup with ⟨headFresh, restNodup⟩
      rcases List.mem_cons.1 mem with same | later
      · cases same
        simp [find?]
      · have different : other ≠ key := by
          rintro rfl
          exact headFresh (List.mem_map.2 ⟨_, later, rfl⟩)
        simp [find?, different, ih restNodup later]

theorem get?_foldl_insert (entries : List (String × α)) (map : KeyMap α) (key : String) :
    (entries.foldl (fun map entry => map.insert entry.1 entry.2) map).get? key =
      (find? key entries.reverse).or (map.get? key) := by
  induction entries generalizing map with
  | nil => rfl
  | cons head rest ih =>
      rcases head with ⟨other, value⟩
      rw [List.foldl_cons, ih, get?_insert, List.reverse_cons, find?_append, Option.or_assoc]
      by_cases here : other = key <;> simp [find?, here]

/-- The last entry with a key counts. -/
theorem get?_ofList (entries : List (String × α)) (key : String) :
    (ofList entries).get? key = find? key entries.reverse := by
  simp [ofList, get?_foldl_insert]

/-- With no key twice, every entry counts. -/
theorem get?_ofList_eq_some_iff {entries : List (String × α)} {key : String} {value : α}
    (nodup : (entries.map Prod.fst).Nodup) :
    (ofList entries).get? key = some value ↔ (key, value) ∈ entries := by
  rw [get?_ofList, find?_eq_some_iff_of_nodup, List.mem_reverse]
  simpa using nodup

theorem mem_keys_iff {map : KeyMap α} {key : String} :
    key ∈ map.keys ↔ ∃ value, map.get? key = some value := by
  rw [← Option.isSome_iff_exists]
  exact isSome_find?_iff.symm

theorem isEmpty_eq_false_of_mem_keys {map : KeyMap α} {key : String} (key_mem : key ∈ map.keys) :
    map.isEmpty = false := by
  rcases List.mem_map.1 key_mem with ⟨entry, entry_mem, _⟩
  exact List.isEmpty_eq_false_iff_exists_mem.2 ⟨entry, entry_mem⟩

theorem mem_keys_ofList {entries : List (String × α)} {key : String} :
    key ∈ (ofList entries).keys ↔ key ∈ entries.map Prod.fst := by
  rw [mem_keys_iff, ← Option.isSome_iff_exists, get?_ofList, isSome_find?_iff]
  simp

/-- With no key twice, the map has all entries in the order of their keys. -/
theorem entries_ofList_perm {entries : List (String × α)}
    (nodup : (entries.map Prod.fst).Nodup) : (ofList entries).entries.Perm entries := by
  refine (List.perm_ext_iff_of_nodup (ofList entries).ascending.nodup_keys.of_map
    nodup.of_map).2 fun entry => ?_
  exact get?_eq_some_iff.symm.trans (get?_ofList_eq_some_iff nodup)

@[simp]
theorem keys_mapValues {β : Type u} (write : α → β) (map : KeyMap α) :
    (map.mapValues write).keys = map.keys := by
  simp [mapValues, keys, Function.comp_def]

@[simp]
theorem get?_mapValues {β : Type u} (write : α → β) (map : KeyMap α) (key : String) :
    (map.mapValues write).get? key = (map.get? key).map write := by
  refine Option.ext fun value => ?_
  simp [get?_eq_some_iff, mapValues]

@[simp]
theorem get?_erase (map : KeyMap α) (key wanted : String) :
    (map.erase key).get? wanted = if wanted = key then none else map.get? wanted := by
  refine Option.ext fun value => ?_
  by_cases here : wanted = key
  · simp [get?_eq_some_iff, erase, here]
  · simp [get?_eq_some_iff, erase, here]

/-- Two maps that have the same values at the same keys are equal. -/
theorem eq_of_get?_iff {left right : KeyMap α}
    (same : ∀ key value, left.get? key = some value ↔ right.get? key = some value) :
    left = right := by
  apply ext_get?
  intro key
  exact Option.ext (same key)

/-- Two maps with the same keys and the same value at each of them are equal. -/
theorem ext_keys {left right : KeyMap α} (sameKeys : left.keys = right.keys)
    (sameValues : ∀ {key leftValue rightValue}, left.get? key = some leftValue →
      right.get? key = some rightValue → leftValue = rightValue) : left = right := by
  apply ext_get?
  intro key
  have sameHere : (left.get? key).isSome = (right.get? key).isSome := by
    rw [Bool.eq_iff_iff, Option.isSome_iff_exists, Option.isSome_iff_exists, ← mem_keys_iff,
      ← mem_keys_iff, sameKeys]
  cases leftHere : left.get? key with
  | none =>
      cases rightHere : right.get? key with
      | none => rfl
      | some rightValue => simp [leftHere, rightHere] at sameHere
  | some leftValue =>
      cases rightHere : right.get? key with
      | none => simp [leftHere, rightHere] at sameHere
      | some rightValue => rw [sameValues leftHere rightHere]

theorem mapValues_eq_iff {β : Type u} {write : α → β} {left right : KeyMap α} :
    left.mapValues write = right.mapValues write ↔
      left.keys = right.keys ∧ ∀ {key leftValue rightValue}, left.get? key = some leftValue →
        right.get? key = some rightValue → write leftValue = write rightValue := by
  constructor
  · intro same
    refine ⟨by simpa using congrArg keys same, ?_⟩
    intro key leftValue rightValue leftHere rightHere
    simpa [leftHere, rightHere] using congrArg (get? · key) same
  · rintro ⟨sameKeys, sameValues⟩
    apply ext_keys
    · simpa using sameKeys
    · intro key leftWritten rightWritten leftHere rightHere
      rw [get?_mapValues, Option.map_eq_some_iff] at leftHere rightHere
      rcases leftHere with ⟨leftValue, leftHere, rfl⟩
      rcases rightHere with ⟨rightValue, rightHere, rfl⟩
      exact sameValues leftHere rightHere

/-- Entries in ascending order of their keys make the map with just these entries. -/
theorem ofList_eq_of_ascending {entries : List (String × α)} (ascending : Ascending entries) :
    ofList entries = ⟨entries, ascending⟩ := by
  apply eq_of_get?_iff
  intro key value
  rw [get?_ofList_eq_some_iff ascending.nodup_keys, get?_eq_some_iff]

/-! ## Keys with a common start -/

theorem append_lt_append {start left right : String} (before : left < right) :
    start ++ left < start ++ right := by
  rw [String.lt_iff, String.toList_append, String.toList_append]
  exact List.append_left_lt (String.lt_iff.1 before)

/-- The map with a text put in front of every key, which leaves the keys in order. -/
def relocate (start : String) (map : KeyMap α) : KeyMap α where
  entries := map.entries.map fun entry => (start ++ entry.1, entry.2)
  ascending := by
    apply List.pairwise_map.2
    apply map.ascending.imp
    intro left right before
    exact append_lt_append before

theorem get?_relocate_eq_some_iff {start key : String} {map : KeyMap α} {value : α} :
    (map.relocate start).get? key = some value ↔
      ∃ base, key = start ++ base ∧ map.get? base = some value := by
  simp only [get?_eq_some_iff, relocate, List.mem_map, Prod.mk.injEq]
  constructor
  · rintro ⟨⟨base, _⟩, entry_mem, rfl, rfl⟩
    exact ⟨base, rfl, entry_mem⟩
  · rintro ⟨base, rfl, entry_mem⟩
    exact ⟨(base, value), entry_mem, rfl, rfl⟩

/-! ## Two maps with the same keys -/

/-- Two entries with the same key and with related values. -/
def RelatedEntry (values : α → α → Prop) (left right : String × α) : Prop :=
  left.1 = right.1 ∧ values left.2 right.2

/-- Two maps with the same keys and with related values at each of them. -/
def Related (values : α → α → Prop) (left right : KeyMap α) : Prop :=
  List.Forall₂ (RelatedEntry values) left.entries right.entries

theorem forall₂_insertEntry {values : α → α → Prop} {left right : List (String × α)}
    {key : String} {leftValue rightValue : α}
    (related : List.Forall₂ (RelatedEntry values) left right)
    (here : values leftValue rightValue) :
    List.Forall₂ (RelatedEntry values) (insertEntry key leftValue left)
      (insertEntry key rightValue right) := by
  induction related with
  | nil => exact .cons ⟨rfl, here⟩ .nil
  | @cons leftHead rightHead leftRest rightRest head rest ih =>
      rcases leftHead with ⟨other, leftOld⟩
      rcases rightHead with ⟨_, rightOld⟩
      rcases head with ⟨rfl, old⟩
      simp only [insertEntry]
      split
      · exact .cons ⟨rfl, here⟩ (.cons ⟨rfl, old⟩ rest)
      · split
        · exact .cons ⟨rfl, here⟩ rest
        · exact .cons ⟨rfl, old⟩ ih

theorem related_ofList {values : α → α → Prop} {left right : List (String × α)}
    (related : List.Forall₂ (RelatedEntry values) left right) :
    (ofList left).Related values (ofList right) := by
  have start : (empty : KeyMap α).Related values empty := .nil
  refine List.rel_foldl ?_ start related
  rintro leftMap rightMap mapsRelated ⟨key, leftValue⟩ ⟨_, rightValue⟩ ⟨rfl, here⟩
  exact forall₂_insertEntry mapsRelated here

end KeyMap

@[simp]
theorem mem_distinctAscending {name : String} {names : List String} :
    name ∈ distinctAscending names ↔ name ∈ names := by
  simp [distinctAscending, KeyMap.mem_keys_ofList, Function.comp_def]

end LocaleSite
