import LocaleSite.Proofs.Value.JsonRoundTrip
import LocaleSite.Shape

/-!
# JSON values

`Value.IsJson` says which values JSON has: no dates, no infinite numbers, no integers above 64
bits, and no key twice in an object. Whatever is read from JSON text is one of these
(`Json.isJson_of_read?`), and every number in it has a value.
-/

namespace LocaleSite

/-- A value of JSON. -/
inductive Value.IsJson : Value → Prop where
  | null : IsJson .null
  | bool (value : Bool) : IsJson (.bool value)
  | int {value : Int} (word : ShapeError.isWord value = true) : IsJson (.number (.int value))
  | float (value : Binary64) : IsJson (.number (.float value))
  | string (value : String) : IsJson (.string value)
  | list {elements : List Value} (each : ∀ value ∈ elements, IsJson value) :
      IsJson (.list elements)
  | table {entries : List (String × Value)} (nodup : (entries.map Prod.fst).Nodup)
      (each : ∀ entry ∈ entries, IsJson entry.2) : IsJson (.table entries)

namespace Value

theorem allReadable_iff {elements : List Value} :
    allReadable elements = true ↔ ∀ value ∈ elements, value.isReadable = true := by
  induction elements with
  | nil => simp [allReadable]
  | cons value rest ih => simp [allReadable, ih]

theorem entriesReadable_iff {entries : List (String × Value)} :
    entriesReadable entries = true ↔ ∀ entry ∈ entries, entry.2.isReadable = true := by
  induction entries with
  | nil => simp [entriesReadable]
  | cons entry rest ih =>
      rcases entry with ⟨key, value⟩
      simp [entriesReadable, ih]

theorem IsJson.isReadable {value : Value} (json : value.IsJson) : value.isReadable = true := by
  induction json with
  | int word =>
      simp [ShapeError.isWord, Value.isReadable] at word ⊢
      omega
  | list _ ih => exact allReadable_iff.2 ih
  | table _ _ ih => exact entriesReadable_iff.2 ih
  | _ => rfl

theorem IsJson.isReadable_of_mem {entries : List (String × Value)}
    (json : (Value.table entries).IsJson) : ∀ entry ∈ entries, entry.2.isReadable = true :=
  entriesReadable_iff.1 json.isReadable

theorem mem_setEntry {key : String} {value : Value} {entries : List (String × Value)}
    {entry : String × Value} (mem : entry ∈ setEntry key value entries) :
    entry = (key, value) ∨ entry ∈ entries := by
  induction entries with
  | nil => simpa [setEntry] using mem
  | cons head rest ih =>
      rcases head with ⟨other, old⟩
      unfold setEntry at mem
      split at mem
      · rcases List.mem_cons.1 mem with here | later
        · exact .inl here
        · exact .inr (List.mem_cons_of_mem _ later)
      · rcases List.mem_cons.1 mem with here | later
        · exact .inr (here ▸ List.mem_cons_self)
        · rcases ih later with here | there
          · exact .inl here
          · exact .inr (List.mem_cons_of_mem _ there)

theorem nodup_keys_setEntry {key : String} {value : Value} {entries : List (String × Value)}
    (nodup : (entries.map Prod.fst).Nodup) :
    ((setEntry key value entries).map Prod.fst).Nodup := by
  induction entries with
  | nil => simp [setEntry]
  | cons head rest ih =>
      rcases head with ⟨other, old⟩
      rcases List.nodup_cons.1 nodup with ⟨fresh, restNodup⟩
      unfold setEntry
      split
      · rename_i same
        subst same
        exact nodup
      · rename_i different
        apply List.nodup_cons.2 ⟨_, ih restNodup⟩
        intro again
        rcases List.mem_map.1 again with ⟨entry, entry_mem, same⟩
        rcases mem_setEntry entry_mem with rfl | old
        · exact different same.symm
        · exact fresh (same ▸ List.mem_map_of_mem old)

theorem IsJson.setEntry {key : String} {value : Value} {entries : List (String × Value)}
    (tableJson : (Value.table entries).IsJson) (json : value.IsJson) :
    (Value.table (Value.setEntry key value entries)).IsJson := by
  cases tableJson with
  | table nodup each =>
      apply IsJson.table (nodup_keys_setEntry nodup)
      intro entry entry_mem
      rcases mem_setEntry entry_mem with rfl | old
      · exact json
      · exact each entry old

end Value

namespace Json

theorem isJson_of_numberOfParts {negative : Bool} {whole fraction : List Char}
    {exponent : Option Int} {number : Number}
    (read : numberOfParts negative whole fraction exponent = some number) :
    (Value.number number).IsJson := by
  have float : ∀ {outcome : Option Binary64}, outcome.map Number.float = some number →
      (Value.number number).IsJson := by
    intro outcome isFloat
    rcases Option.map_eq_some_iff.1 isFloat with ⟨value, _, rfl⟩
    exact .float value
  unfold numberOfParts at read
  simp only at read
  split at read
  · split at read
    · split at read
      · exact float read
      · rename_i small
        cases read
        apply Value.IsJson.int
        simp [ShapeError.isWord]
        omega
    · split at read
      · rename_i small
        cases read
        apply Value.IsJson.int
        simp [ShapeError.isWord]
        omega
      · exact float read
  · exact float read

theorem isJson_of_readNumber {chars rest : List Char} {number : Number}
    (read : readNumber chars = some (number, rest)) : (Value.number number).IsJson := by
  unfold readNumber at read
  dsimp only at read
  -- The first two cases are those of the sign.
  split at read
  all_goals
    split at read
    · cases read
    · simp only [Option.bind_eq_bind, Option.bind_eq_some_iff] at read
      rcases read with
        ⟨⟨fraction, afterFraction⟩, _, ⟨exponent, afterExponent⟩, _, found, parts, same⟩
      cases same
      exact isJson_of_numberOfParts parts

/-- What the readers of values, elements and entries return is JSON. -/
structure ReadersGiveJson (fuel : Nat) : Prop where
  value : ∀ {chars value rest}, readValue fuel chars = some (value, rest) → value.IsJson
  elements : ∀ {chars values rest}, readElements fuel chars = some (values, rest) →
    ∀ value ∈ values, Value.IsJson value
  entries : ∀ {earlier chars entries rest}, (Value.table earlier).IsJson →
    readEntries fuel earlier chars = some (entries, rest) → (Value.table entries).IsJson

section Steps

variable {fuel : Nat} {chars rest : List Char}

theorem isJson_of_readValue (inner : ReadersGiveJson fuel) {value : Value}
    (read : readValue (fuel + 1) chars = some (value, rest)) : value.IsJson := by
  have empty : (Value.table []).IsJson := .table List.nodup_nil (by simp)
  unfold readValue at read
  split at read
  · cases read
    exact .null
  · cases read
    exact .bool true
  · cases read
    exact .bool false
  · rcases Option.map_eq_some_iff.1 read with ⟨⟨text, after⟩, _, same⟩
    cases same
    exact .string text
  · split at read
    · cases read
      exact .list (by simp)
    · rcases Option.map_eq_some_iff.1 read with ⟨⟨values, after⟩, first, same⟩
      cases same
      exact .list (inner.elements first)
  · split at read
    · cases read
      exact empty
    · rcases Option.map_eq_some_iff.1 read with ⟨⟨entries, after⟩, first, same⟩
      cases same
      exact inner.entries empty first
  · rcases Option.map_eq_some_iff.1 read with ⟨⟨number, after⟩, first, same⟩
    cases same
    exact isJson_of_readNumber first

theorem isJson_of_readElements (inner : ReadersGiveJson fuel) {values : List Value}
    (read : readElements (fuel + 1) chars = some (values, rest)) :
    ∀ value ∈ values, Value.IsJson value := by
  unfold readElements at read
  split at read
  · cases read
  · rename_i value after first
    have json := inner.value first
    split at read
    · rcases Option.map_eq_some_iff.1 read with ⟨⟨others, last⟩, later, same⟩
      cases same
      exact List.forall_mem_cons.2 ⟨json, inner.elements later⟩
    · cases read
      simpa using json
    · cases read

theorem isJson_of_readEntries (inner : ReadersGiveJson fuel)
    {earlier entries : List (String × Value)} (earlierJson : (Value.table earlier).IsJson)
    (read : readEntries (fuel + 1) earlier chars = some (entries, rest)) :
    (Value.table entries).IsJson := by
  unfold readEntries at read
  split at read
  · cases read
  · rename_i key afterKey keyRead
    split at read
    · split at read
      · cases read
      · rename_i value after first
        have json : (Value.table (Value.setEntry key value earlier)).IsJson :=
          earlierJson.setEntry (inner.value first)
        split at read
        · exact inner.entries json read
        · cases read
          exact json
        · cases read
    · cases read

end Steps

theorem readersGiveJson (fuel : Nat) : ReadersGiveJson fuel := by
  induction fuel with
  | zero => exact ⟨nofun, nofun, nofun⟩
  | succ fuel ih =>
      exact ⟨isJson_of_readValue ih, isJson_of_readElements ih, isJson_of_readEntries ih⟩

theorem isJson_of_read? {text : String} {value : Value} (read : read? text = some value) :
    value.IsJson := by
  unfold read? at read
  split at read
  · rename_i found rest first
    split at read
    · cases read
      exact (readersGiveJson _).value first
    · cases read
  · cases read

end Json

end LocaleSite
