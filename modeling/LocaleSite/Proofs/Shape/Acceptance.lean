import LocaleSite.Proofs.Shape.Record

/-!
# What shapes accept

For each way of making a shape or a field, which values it accepts and what it then reads. An
optional field does not tell a key with null from a key that is absent.
-/

namespace LocaleSite

namespace Value

/-- Nothing stands at the key, or null does. -/
def Lacks (entries : List (String × Value)) (key : String) : Prop :=
  entry? key entries = none ∨ entry? key entries = some .null

/-- The text at the key, or none if the key is lacking. -/
def HoldsText (entries : List (String × Value)) (key : String) : Option String → Prop
  | none => Lacks entries key
  | some text => entry? key entries = some (.string text)

/-- What the members of the list at the key are read as, or none if the key is lacking. -/
def HoldsList {α : Type} (reads : Value → α → Prop) (entries : List (String × Value))
    (key : String) : Option (List α) → Prop
  | none => Lacks entries key
  | some things => ∃ elements, entry? key entries = some (.list elements) ∧
      List.Forall₂ reads elements things

theorem exists_holdsText_iff {entries : List (String × Value)} {key : String} :
    (∃ held, HoldsText entries key held) ↔
      Lacks entries key ∨ ∃ text, entry? key entries = some (.string text) := by
  rw [Option.exists]
  rfl

theorem not_lacks_of_string {entries : List (String × Value)} {key text : String}
    (here : entry? key entries = some (.string text)) : ¬Lacks entries key := by
  simp [Lacks, here]

theorem not_lacks_of_list {entries : List (String × Value)} {key : String}
    {elements : List Value} (here : entry? key entries = some (.list elements)) :
    ¬Lacks entries key := by
  simp [Lacks, here]

end Value

namespace Shape

variable {α : Type} {shape : Shape α} {format : Format} {value : Value}

theorem text_eq_ok_iff {content : String} :
    text format value = .ok content ↔ value = .string content := by
  cases value <;> simp [text]

theorem list_eq_ok_iff {things : List α} :
    shape.list format value = .ok things ↔ ∃ elements, value = .list elements ∧
      List.Forall₂ (fun element thing => shape format element = .ok thing) elements things := by
  cases value <;> simp [list, Outcome.mapM_eq_ok_iff]

theorem nullable_eq_ok_iff {held : Option α} :
    shape.nullable format value = .ok held ↔
      value = .null ∧ held = none ∨
        value ≠ .null ∧ ∃ thing, shape format value = .ok thing ∧ held = some thing := by
  by_cases isNull : value = .null
  · subst isNull
    simp [nullable, eq_comm]
  · have unfolded : shape.nullable format value = (shape format value).map some := by
      cases value with
      | null => exact absurd rfl isNull
      | _ => rfl
    rw [unfolded]
    cases shape format value <;> simp [Except.map, isNull, eq_comm]

end Shape

namespace Field

variable {α : Type} {shape : Shape α} {format : Format} {entries : List (String × Value)}

theorem ofEntries_required_eq_ok_iff {name : String} {thing : α} :
    (required name shape).ofEntries format entries = .ok thing ↔
      ∃ value, Value.entry? name entries = some value ∧ shape format value = .ok thing := by
  cases here : Value.entry? name entries with
  | none => simp [ofEntries, required, here]
  | some value => simp [ofEntries_of_present, atKey_eq_ok_iff, required, here]

theorem ofEntries_optional_eq_ok_iff {name : String} {held : Option α} :
    (optional name shape).ofEntries format entries = .ok held ↔
      Value.Lacks entries name ∧ held = none ∨
        ∃ value thing, Value.entry? name entries = some value ∧ value ≠ .null ∧
          shape format value = .ok thing ∧ held = some thing := by
  cases here : Value.entry? name entries with
  | none =>
      rw [ofEntries_of_absent rfl rfl here]
      simp [Value.Lacks, here, eq_comm]
  | some value =>
      rw [ofEntries_of_present rfl here, atKey_eq_ok_iff]
      change shape.nullable format value = .ok held ↔ _
      rw [Shape.nullable_eq_ok_iff]
      simp [Value.Lacks, here]

theorem ofEntries_optional_text_eq_ok_iff {name : String} {held : Option String} :
    (optional name .text).ofEntries format entries = .ok held ↔
      Value.HoldsText entries name held := by
  rw [ofEntries_optional_eq_ok_iff]
  cases held with
  | none => simp [Value.HoldsText]
  | some text => simp [Value.HoldsText, Shape.text_eq_ok_iff]

theorem ofEntries_optional_list_eq_ok_iff {name : String} {held : Option (List α)} :
    (optional name shape.list).ofEntries format entries = .ok held ↔
      Value.HoldsList (fun element thing => shape format element = .ok thing) entries name held := by
  rw [ofEntries_optional_eq_ok_iff]
  cases held with
  | none => simp [Value.HoldsList]
  | some things => simp [Value.HoldsList, Shape.list_eq_ok_iff]

/-- A field with two names is read under one of them, and nothing may stand at the other. -/
theorem ofEntries_orNamed_eq_ok_iff {field : Field α} {second : String} {thing : α}
    (single : field.secondName = none) :
    (field.orNamed second).ofEntries format entries = .ok thing ↔
      Value.entry? second entries = none ∧ field.ofEntries format entries = .ok thing ∨
        Value.entry? field.name entries = none ∧
          { field with name := second }.ofEntries format entries = .ok thing := by
  cases here : Value.entry? field.name entries with
  | none =>
      cases there : Value.entry? second entries with
      | none =>
          cases missing : field.ifMissing <;>
            simp [ofEntries, orNamed, single, here, there, missing]
      | some value => simp [ofEntries, orNamed, single, here, there, atKey_eq_ok_iff]
  | some value =>
      cases there : Value.entry? second entries with
      | none => simp [ofEntries, orNamed, single, here, there, atKey_eq_ok_iff]
      | some other => simp [ofEntries, orNamed, here, there, Outcome.bind_eq_ok_iff]

/-- A field looks at nothing but its keys. -/
theorem ofEntries_congr (field : Field α) {left right : List (String × Value)}
    (agree : ∀ key ∈ field.keys, Value.entry? key left = Value.entry? key right) :
    field.ofEntries format left = field.ofEntries format right := by
  rcases field with ⟨name, secondName, shape, ifMissing, ifShort⟩
  cases secondName with
  | none => simp [ofEntries, agree name (by simp [keys])]
  | some second =>
      simp [ofEntries, atKey, agree name (by simp [keys]), agree second (by simp [keys])]

end Field

namespace Record

variable {α β : Type} {format : Format}

theorem ofEntries_start_eq_ok_iff {build result : α} {entries : List (String × Value)} :
    (start build).ofEntries format entries = .ok result ↔ result = build := by
  simp [start, eq_comm]

theorem ofEntries_field_eq_ok_iff {record : Record (α → β)} {field : Field α}
    {entries : List (String × Value)} {result : β} :
    (record.field field).ofEntries format entries = .ok result ↔
      ∃ build thing, record.ofEntries format entries = .ok build ∧
        field.ofEntries format entries = .ok thing ∧ result = build thing := by
  rw [ofEntries_field]
  cases record.ofEntries format entries <;> cases field.ofEntries format entries <;>
    simp [join, eq_comm]

/-- Tables with the same values at the keys of the record are read alike. -/
def LooksAtKeys (record : Record α) : Prop :=
  ∀ ⦃format left right⦄, (∀ key ∈ record.keys, Value.entry? key left = Value.entry? key right) →
    record.ofEntries format left = record.ofEntries format right

theorem looksAtKeys_start (build : α) : (start build).LooksAtKeys := by
  intro format left right _
  rfl

theorem LooksAtKeys.field {record : Record (α → β)} (looksAtKeys : record.LooksAtKeys)
    (field : Field α) : (record.field field).LooksAtKeys := by
  intro format left right agree
  have sameBefore : record.ofEntries format left = record.ofEntries format right :=
    looksAtKeys fun key key_mem => agree key (List.mem_append_left _ key_mem)
  have sameField : field.ofEntries format left = field.ofEntries format right :=
    field.ofEntries_congr fun key key_mem => agree key (List.mem_append_right _ key_mem)
  rw [ofEntries_field, ofEntries_field, sameBefore, sameField]

end Record

end LocaleSite
