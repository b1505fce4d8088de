import LocaleSite.Proofs.Outcome
import LocaleSite.Proofs.Value.Faithful
import LocaleSite.Shape.Record

/-!
# Reading records

How a record is read from a table that was written field by field. A key that no field reads can
only do harm by an unreadable number, so a table of known keys is read field by field, and each
field is read from what is held under its name.

A shape that is handed to a record reads values that lie below the record's, so two shapes that
agree there make records that agree. In a list, a field sees what the fields before it leave.
-/

namespace LocaleSite

namespace Value

@[simp]
theorem entry?_heldFields_nil (key : String) : entry? key (heldFields []) = none := rfl

theorem entry?_heldFields_cons (key name : String) (held : Option Value)
    (rest : List (String × Option Value)) :
    entry? key (heldFields ((name, held) :: rest)) =
      (if name = key then held else none).or (Value.entry? key (heldFields rest)) := by
  cases held with
  | none => simp
  | some value => by_cases here : name = key <;> simp [Value.entry?, here]

end Value

namespace Field

variable {α : Type} {format : Format} {entries : List (String × Value)}

theorem atKey_eq_ok_iff {field : Field α} {key : String} {value : Value} {thing : α} :
    field.atKey format key value = .ok thing ↔ field.shape format value = .ok thing := by
  rw [atKey, Outcome.mapError_eq_ok_iff]

theorem ofEntries_of_present {field : Field α} {value : Value} (single : field.secondName = none)
    (here : Value.entry? field.name entries = some value) :
    field.ofEntries format entries = field.atKey format field.name value := by
  simp [ofEntries, single, here]

theorem ofEntries_of_absent {field : Field α} {default : α} (single : field.secondName = none)
    (missing : field.ifMissing = some default)
    (absent : Value.entry? field.name entries = none) :
    field.ofEntries format entries = .ok default := by
  simp [ofEntries, single, absent, missing]

/-- A second name under which nothing stands makes no difference. -/
theorem ofEntries_orNamed {field : Field α} {second : String} (single : field.secondName = none)
    (absent : Value.entry? second entries = none) :
    (field.orNamed second).ofEntries format entries = field.ofEntries format entries := by
  simp [ofEntries, orNamed, atKey, single, absent]

theorem ofEntries_required {name : String} {shape : Shape α} {value : Value} {thing : α}
    (reads : shape format value = .ok thing) (here : Value.entry? name entries = some value) :
    (required name shape).ofEntries format entries = .ok thing := by
  rw [ofEntries_of_present rfl here]
  exact atKey_eq_ok_iff.2 reads

/-- An optional field reads back what was written under its name, if anything was. -/
theorem ofEntries_optional {name : String} {shape : Shape α} {write : α → Value}
    {held : Option α}
    (reads : ∀ thing, shape.nullable format (write thing) = .ok (some thing))
    (here : Value.entry? name entries = held.map write) :
    (optional name shape).ofEntries format entries = .ok held := by
  cases held with
  | none => exact ofEntries_of_absent rfl rfl here
  | some thing =>
      rw [ofEntries_of_present rfl here]
      exact atKey_eq_ok_iff.2 (reads thing)

end Field

namespace Shape

@[simp]
theorem text_string (format : Format) (content : String) :
    text format (.string content) = .ok content := rfl

@[simp]
theorem nullable_text_string (format : Format) (content : String) :
    nullable text format (.string content) = .ok (some content) := rfl

end Shape

namespace Record

variable {α β : Type} {format : Format}

theorem ofEntries_field (record : Record (α → β)) (field : Field α)
    (entries : List (String × Value)) :
    (record.field field).ofEntries format entries =
      join (record.ofEntries format entries) (field.ofEntries format entries) := rfl

theorem strayFault_eq_none {keys : List String} {entries : List (String × Value)}
    (harmless : ∀ entry ∈ entries, entry.1 ∈ keys ∨ entry.2.isReadable = true) :
    strayFault keys entries = none := by
  induction entries with
  | nil => rfl
  | cons entry rest ih =>
      rcases List.forall_mem_cons.1 harmless with ⟨known | readable, later⟩
      · simp [strayFault, known, ih later]
      · simp [strayFault, readable, ih later]

/-- Entries that no field reads do no harm if they can be read. -/
theorem ofTable_eq {record : Record α} {entries : List (String × Value)}
    (harmless : ∀ entry ∈ entries, entry.1 ∈ record.keys ∨ entry.2.isReadable = true) :
    record.ofTable format entries =
      (record.ofEntries format entries).mapError Fault.toShapeError := by
  rw [ofTable, strayFault_eq_none harmless]
  cases record.ofEntries format entries <;> rfl

/-- A written record all of whose names are those of fields is read field by field. -/
theorem shape_ofFields {record : Record α} {name : String} {fields : List (String × Option Value)}
    (known : ∀ field ∈ fields.map Prod.fst, field ∈ record.keys) :
    record.shape name format (.ofFields fields) =
      (record.ofEntries format (Value.heldFields fields)).mapError Fault.toShapeError := by
  apply ofTable_eq
  intro entry entry_mem
  left
  apply known
  exact (Value.keys_heldFields_sublist fields).subset (List.mem_map_of_mem entry_mem)

end Record

/-! ## Readers that agree -/

namespace Value

theorem depth_lt_of_mem_list {value : Value} {elements : List Value} (mem : value ∈ elements) :
    value.depth < (list elements).depth := by
  rw [depth, Nat.lt_succ_iff]
  induction elements with
  | nil => simp at mem
  | cons element rest ih =>
      rw [depthList]
      rcases List.mem_cons.1 mem with rfl | later
      · exact Nat.le_max_left _ _
      · exact Nat.le_trans (ih later) (Nat.le_max_right _ _)

theorem depth_lt_of_entry {key : String} {value : Value} {entries : List (String × Value)}
    (here : entry? key entries = some value) : value.depth < (table entries).depth := by
  rw [depth, Nat.lt_succ_iff]
  induction entries with
  | nil => simp [Value.entry?] at here
  | cons entry rest ih =>
      rcases entry with ⟨other, old⟩
      rw [depthEntries]
      rw [Value.entry?] at here
      split at here
      · cases here
        exact Nat.le_max_left _ _
      · exact Nat.le_trans (ih here) (Nat.le_max_right _ _)

end Value

namespace Shape

variable {α : Type} {format : Format} {left right : Shape α}

/-- Shapes that agree below the depth of a value agree on the value as a list. -/
theorem nullable_list_congr {value : Value}
    (agree : ∀ member : Value, member.depth < value.depth →
      left format member = right format member) :
    left.list.nullable format value = right.list.nullable format value := by
  cases value with
  | list elements =>
      have same : elements.mapM (left format) = elements.mapM (right format) :=
        Outcome.mapM_congr fun member mem => agree member (Value.depth_lt_of_mem_list mem)
      simp [nullable, list, same]
  | _ => rfl

end Shape

namespace Field

variable {α : Type} {format : Format} {left right : Shape α}

theorem ofEntries_optional_congr (name : String) {entries : List (String × Value)}
    (agree : ∀ value, Value.entry? name entries = some value →
      left.nullable format value = right.nullable format value) :
    (optional name left).ofEntries format entries =
      (optional name right).ofEntries format entries := by
  cases here : Value.entry? name entries with
  | none => rw [ofEntries_of_absent rfl rfl here, ofEntries_of_absent rfl rfl here]
  | some value =>
      rw [ofEntries_of_present rfl here, ofEntries_of_present rfl here]
      exact congrArg (Except.mapError (Fault.entry name)) (agree value here)

theorem ofElements_optional_congr (name : String) {index : Nat} {elements : List Value}
    (agree : ∀ value ∈ elements, left.nullable format value = right.nullable format value) :
    (optional name left).ofElements format index elements =
      (optional name right).ofElements format index elements := by
  cases elements with
  | nil => rfl
  | cons value rest =>
      simp [ofElements, optional, withDefault, agree value List.mem_cons_self]

/-- A field takes elements from the front. -/
theorem subset_of_ofElements {field : Field α} {index : Nat} {elements rest : List Value}
    {thing : α} (read : field.ofElements format index elements = .ok (thing, rest)) :
    rest ⊆ elements := by
  cases elements with
  | nil =>
      rw [ofElements] at read
      split at read
      · cases read
        exact List.Subset.refl _
      · cases read
  | cons value others =>
      rw [ofElements] at read
      cases here : field.shape format value with
      | error error => simp [here, Except.mapError, Except.map] at read
      | ok result =>
          simp only [here, Except.mapError, Except.map, Except.ok.injEq, Prod.mk.injEq] at read
          exact read.2 ▸ List.subset_cons_self _ _

end Field

namespace Record

variable {α β : Type} {format : Format} {elements : List Value}

theorem ofElements_field (record : Record (α → β)) (field : Field α) :
    (record.field field).ofElements format elements =
      record.ofElements format elements >>= fun read =>
        (field.ofElements format record.size read.2).map fun last =>
          (read.1 last.1, last.2) := rfl

/-- What a record leaves of a list for the fields to come is among the elements. -/
def TakesFront (record : Record α) : Prop :=
  ∀ ⦃format elements thing rest⦄, record.ofElements format elements = .ok (thing, rest) →
    rest ⊆ elements

theorem takesFront_start (build : α) : (start build).TakesFront := by
  intro format elements thing rest read
  cases read
  exact List.Subset.refl _

theorem TakesFront.field {record : Record (α → β)} (takesFront : record.TakesFront)
    (field : Field α) : (record.field field).TakesFront := by
  intro format elements thing rest read
  rw [ofElements_field] at read
  cases before : record.ofElements format elements with
  | error fault => simp [before, bind, Except.bind] at read
  | ok front =>
      rcases front with ⟨build, between⟩
      cases last : field.ofElements format record.size between with
      | error fault => simp [before, last, bind, Except.bind, Except.map] at read
      | ok here =>
          rcases here with ⟨value, others⟩
          simp only [before, last, bind, Except.bind, Except.map, Except.ok.injEq,
            Prod.mk.injEq] at read
          rw [← read.2]
          exact List.Subset.trans (Field.subset_of_ofElements last) (takesFront before)

/-- Fields that agree on what the fields before them leave can stand for one another. -/
theorem TakesFront.ofElements_field_congr {record : Record (α → β)}
    (takesFront : record.TakesFront) {left right : Field α}
    (agree : ∀ {rest}, rest ⊆ elements →
      left.ofElements format record.size rest = right.ofElements format record.size rest) :
    (record.field left).ofElements format elements =
      (record.field right).ofElements format elements := by
  rw [ofElements_field, ofElements_field]
  cases before : record.ofElements format elements with
  | error fault => rfl
  | ok front => simp only [bind, Except.bind, agree (takesFront before)]

end Record

end LocaleSite
