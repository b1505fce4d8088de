import LocaleSite.Proofs.Nav.Reading
import LocaleSite.Proofs.Nav.Validity
import LocaleSite.Proofs.Shape.Acceptance
import LocaleSite.Proofs.Value.JsonValues

/-!
# Entries as JSON objects

`NavItem.Admissible` says which objects are entries of a navigation bar, and `NavItem.Describes`
which entry an object is. An object is read just when it is admissible, as the entry it describes,
and no key beside the five of an entry matters: `NavItem.shape_object_iff`. Whatever is read is
well shaped at all depths.
-/

namespace LocaleSite

namespace NavItem

/-- The pattern of an entry stands under one of its two names. -/
def HoldsPattern (entries : List (String × Value)) (activeMatch : Option String) : Prop :=
  Value.entry? "active_match" entries = none ∧
      Value.HoldsText entries "activeMatch" activeMatch ∨
    Value.entry? "activeMatch" entries = none ∧
      Value.HoldsText entries "active_match" activeMatch

/-- The object has the text, the link or the menu, and the pattern of an entry. -/
inductive Describes (entries : List (String × Value)) : NavItem → Prop where
  | leaf {text link : String} {activeMatch : Option String}
      (textHere : Value.entry? "text" entries = some (.string text))
      (linkHere : Value.entry? "link" entries = some (.string link)) (link_ne : link ≠ "")
      (noItems : Value.Lacks entries "items") (pattern : HoldsPattern entries activeMatch) :
      Describes entries (.leaf text link activeMatch)
  | group {text : String} {elements : List Value} {items : List NavItem}
      {activeMatch : Option String}
      (textHere : Value.entry? "text" entries = some (.string text))
      (itemsHere : Value.entry? "items" entries = some (.list elements)) (items_ne : items ≠ [])
      (each : List.Forall₂ (fun element item => shape .json element = .ok item) elements items)
      (noLink : Value.Lacks entries "link") (pattern : HoldsPattern entries activeMatch) :
      Describes entries (.group text items activeMatch)

/-- What an object has to satisfy to be an entry. -/
structure Admissible (entries : List (String × Value)) : Prop where
  text : ∃ text, Value.entry? "text" entries = some (.string text)
  link : Value.Lacks entries "link" ∨ ∃ link, Value.entry? "link" entries = some (.string link)
  items : Value.Lacks entries "items" ∨ ∃ elements,
    Value.entry? "items" entries = some (.list elements) ∧
      ∀ element ∈ elements, ∃ item, shape .json element = .ok item
  onePattern : Value.entry? "activeMatch" entries = none ∨
    Value.entry? "active_match" entries = none
  patternText : ∀ key ∈ ["activeMatch", "active_match"],
    Value.Lacks entries key ∨ ∃ pattern, Value.entry? key entries = some (.string pattern)
  linkOrItems : Xor (Value.Lacks entries "link") (Value.Lacks entries "items")
  linkFilled : Value.entry? "link" entries ≠ some (.string "")
  itemsFilled : Value.entry? "items" entries ≠ some (.list [])

variable {format : Format} {entries : List (String × Value)}

/-! ## The fields of an entry -/

theorem ofEntries_fieldsRecord_eq_ok_iff {inner : Shape NavItem} {fields : Fields} :
    (fieldsRecord inner).ofEntries format entries = .ok fields ↔
      Value.entry? "text" entries = some (.string fields.text) ∧
      Value.HoldsText entries "link" fields.link ∧
      Value.HoldsList (fun element item => inner format element = .ok item) entries "items"
        fields.items ∧
      HoldsPattern entries fields.activeMatch := by
  have pattern : ∀ {activeMatch : Option String},
      ((Field.optional "activeMatch" .text).orNamed "active_match").ofEntries format entries =
        .ok activeMatch ↔ HoldsPattern entries activeMatch := by
    intro activeMatch
    rw [Field.ofEntries_orNamed_eq_ok_iff rfl, Field.ofEntries_optional_text_eq_ok_iff]
    exact or_congr_right (and_congr_right fun _ => Field.ofEntries_optional_text_eq_ok_iff)
  simp only [fieldsRecord, Record.ofEntries_field_eq_ok_iff, Record.ofEntries_start_eq_ok_iff,
    Field.ofEntries_required_eq_ok_iff, Field.ofEntries_optional_text_eq_ok_iff,
    Field.ofEntries_optional_list_eq_ok_iff, Shape.text_eq_ok_iff, pattern]
  constructor
  · rintro ⟨_, activeMatch, ⟨_, items, ⟨_, link, ⟨_, text, rfl, ⟨_, textHere, rfl⟩, rfl⟩, linkHere,
      rfl⟩, itemsHere, rfl⟩, patternHere, rfl⟩
    exact ⟨textHere, linkHere, itemsHere, patternHere⟩
  · rintro ⟨textHere, linkHere, itemsHere, patternHere⟩
    exact ⟨_, _, ⟨_, _, ⟨_, _, ⟨_, _, rfl, ⟨_, textHere, rfl⟩, rfl⟩, linkHere, rfl⟩, itemsHere,
      rfl⟩, patternHere, rfl⟩

/-- The fields that an entry has. -/
def fields : NavItem → Fields
  | .leaf text link activeMatch => ⟨text, some link, none, activeMatch⟩
  | .group text items activeMatch => ⟨text, none, some items, activeMatch⟩

theorem ofFields_eq_ok_iff {held : Fields} {item : NavItem} :
    ofFields held = .ok item ↔ held = item.fields ∧ item.checkShape = .ok () := by
  have checked : ∀ made : NavItem, (made.checkShape.map fun _ => made) = .ok item ↔
      made = item ∧ item.checkShape = .ok () := by
    intro made
    constructor
    · intro accepted
      cases verdict : made.checkShape with
      | error error => simp [verdict, Except.map] at accepted
      | ok _ =>
          simp only [verdict, Except.map, Except.ok.injEq] at accepted
          exact ⟨accepted, accepted ▸ verdict⟩
    · rintro ⟨rfl, verdict⟩
      rw [verdict]
      rfl
  rcases held with ⟨text, _ | link, _ | items, activeMatch⟩
  · cases item <;> simp [ofFields, fields]
  · rw [ofFields, checked]
    cases item <;> simp [fields]
  · rw [ofFields, checked]
    cases item <;> simp [fields]
  · cases item <;> simp [ofFields, fields]

/-! ## Reading -/

/-- Whatever is read has been checked. -/
theorem checkShape_of_shape {value : Value} {item : NavItem}
    (read : shape format value = .ok item) : item.checkShape = .ok () := by
  rw [shape_eq, Shape.check, Outcome.bind_eq_ok_iff] at read
  rcases read with ⟨held, _, accepted⟩
  exact (ofFields_eq_ok_iff.1 (Outcome.mapError_eq_ok_iff.1 accepted)).2

theorem checkShapes_of_shape {elements : List Value} {items : List NavItem}
    (each : List.Forall₂ (fun element item => shape format element = .ok item) elements items) :
    checkShapes items = .ok () := by
  rw [checkShapes_eq_ok_iff]
  intro item item_mem
  rcases Outcome.exists_of_mem_results each item_mem with ⟨element, _, read⟩
  exact checkShape_of_shape read

/-- An object without unreadable numbers is read from its five keys. -/
theorem shape_table_eq (readable : ∀ entry ∈ entries, entry.2.isReadable = true) :
    shape format (.table entries) =
      ((fieldsRecord shape).ofEntries format entries).mapError Fault.toShapeError >>= fun held =>
        (ofFields held).mapError .item := by
  rw [shape_eq, ← Record.ofTable_eq fun entry entry_mem => .inr (readable entry entry_mem)]
  rfl

theorem shape_table_congr {other : List (String × Value)}
    (readable : ∀ entry ∈ entries, entry.2.isReadable = true)
    (otherReadable : ∀ entry ∈ other, entry.2.isReadable = true)
    (agree : ∀ key ∈ ["text", "link", "items", "activeMatch", "active_match"],
      Value.entry? key other = Value.entry? key entries) :
    shape format (.table other) = shape format (.table entries) := by
  have looksAtKeys : (fieldsRecord shape).LooksAtKeys :=
    ((((Record.looksAtKeys_start Fields.mk).field _).field _).field _).field _
  rw [shape_table_eq readable, shape_table_eq otherReadable, looksAtKeys agree]

theorem shape_table_eq_ok_iff {item : NavItem}
    (readable : ∀ entry ∈ entries, entry.2.isReadable = true) :
    shape .json (.table entries) = .ok item ↔ Describes entries item := by
  have byFields : shape .json (.table entries) = .ok item ↔
      (fieldsRecord shape).ofEntries .json entries = .ok item.fields ∧
        item.checkShape = .ok () := by
    rw [shape_table_eq readable, Outcome.bind_eq_ok_iff]
    simp only [Outcome.mapError_eq_ok_iff, ofFields_eq_ok_iff]
    constructor
    · rintro ⟨_, read, rfl, checked⟩
      exact ⟨read, checked⟩
    · rintro ⟨read, checked⟩
      exact ⟨_, read, rfl, checked⟩
  rw [byFields, ofEntries_fieldsRecord_eq_ok_iff]
  constructor
  · rintro ⟨⟨textHere, linkHere, itemsHere, patternHere⟩, checked⟩
    cases item with
    | leaf text link activeMatch =>
        have link_ne : link ≠ "" := by simpa [checkShape] using checked
        exact .leaf textHere linkHere link_ne itemsHere patternHere
    | group text items activeMatch =>
        have items_ne : items ≠ [] := by
          rintro rfl
          simp [checkShape] at checked
        rcases itemsHere with ⟨elements, itemsHere, each⟩
        exact .group textHere itemsHere items_ne each linkHere patternHere
  · intro describes
    cases describes with
    | leaf textHere linkHere link_ne noItems patternHere =>
        exact ⟨⟨textHere, linkHere, noItems, patternHere⟩, by simpa [checkShape] using link_ne⟩
    | group textHere itemsHere items_ne each noLink patternHere =>
        refine ⟨⟨textHere, noLink, ⟨_, itemsHere, each⟩, patternHere⟩, ?_⟩
        simpa [checkShape, items_ne] using checkShapes_of_shape each

/-! ## Admissible objects -/

theorem exists_holdsPattern_iff :
    (∃ activeMatch, HoldsPattern entries activeMatch) ↔
      (Value.entry? "activeMatch" entries = none ∨ Value.entry? "active_match" entries = none) ∧
        ∀ key ∈ ["activeMatch", "active_match"],
          Value.Lacks entries key ∨ ∃ text, Value.entry? key entries = some (.string text) := by
  simp only [HoldsPattern, exists_or, exists_and_left, Value.exists_holdsText_iff,
    List.forall_mem_cons, List.not_mem_nil, false_imp_iff, implies_true, and_true]
  constructor
  · rintro (⟨noSecond, first⟩ | ⟨noFirst, second⟩)
    · exact ⟨.inr noSecond, first, .inl (.inl noSecond)⟩
    · exact ⟨.inl noFirst, .inl (.inl noFirst), second⟩
  · rintro ⟨noFirst | noSecond, first, second⟩
    · exact .inr ⟨noFirst, second⟩
    · exact .inl ⟨noSecond, first⟩

theorem Describes.admissible {item : NavItem} (describes : Describes entries item) :
    Admissible entries := by
  cases describes with
  | leaf textHere linkHere link_ne noItems pattern =>
      rcases exists_holdsPattern_iff.1 ⟨_, pattern⟩ with ⟨onePattern, patternText⟩
      exact {
        text := ⟨_, textHere⟩
        link := .inr ⟨_, linkHere⟩
        items := .inl noItems
        onePattern := onePattern
        patternText := patternText
        linkOrItems := .inr ⟨noItems, Value.not_lacks_of_string linkHere⟩
        linkFilled := by simpa [linkHere] using link_ne
        itemsFilled := fun here => Value.not_lacks_of_list here noItems }
  | group textHere itemsHere items_ne each noLink pattern =>
      rcases exists_holdsPattern_iff.1 ⟨_, pattern⟩ with ⟨onePattern, patternText⟩
      have flipped : List.Forall₂ (fun item element => shape .json element = .ok item) _ _ :=
        each.flip
      exact {
        text := ⟨_, textHere⟩
        link := .inl noLink
        items := by
          refine .inr ⟨_, itemsHere, fun element element_mem => ?_⟩
          rcases Outcome.exists_of_mem_results flipped element_mem with ⟨item, _, read⟩
          exact ⟨item, read⟩
        onePattern := onePattern
        patternText := patternText
        linkOrItems := .inl ⟨noLink, Value.not_lacks_of_list itemsHere⟩
        linkFilled := fun here => Value.not_lacks_of_string here noLink
        itemsFilled := by
          intro here
          rw [here, Option.some.injEq, Value.list.injEq] at itemsHere
          subst itemsHere
          exact items_ne (List.forall₂_nil_left_iff.1 each) }

theorem Admissible.exists_describes (admissible : Admissible entries) :
    ∃ item, Describes entries item := by
  rcases admissible.text with ⟨text, textHere⟩
  rcases exists_holdsPattern_iff.2 ⟨admissible.onePattern, admissible.patternText⟩ with
    ⟨activeMatch, pattern⟩
  rcases admissible.linkOrItems with ⟨noLink, someItems⟩ | ⟨noItems, someLink⟩
  · rcases admissible.items with noItems | ⟨elements, itemsHere, each⟩
    · exact absurd noItems someItems
    · rcases Outcome.exists_results each with ⟨items, each⟩
      have items_ne : items ≠ [] := by
        rintro rfl
        rw [List.forall₂_nil_right_iff] at each
        exact admissible.itemsFilled (each ▸ itemsHere)
      exact ⟨_, .group textHere itemsHere items_ne each noLink pattern⟩
  · rcases admissible.link with noLink | ⟨link, linkHere⟩
    · exact absurd noLink someLink
    · have link_ne : link ≠ "" := by
        rintro rfl
        exact admissible.linkFilled linkHere
      exact ⟨_, .leaf textHere linkHere link_ne noItems pattern⟩

end NavItem

namespace NavTree

theorem wellShaped_of_shape {format : Format} {value : Value} {tree : NavTree}
    (read : shape format value = .ok tree) : tree.WellShaped := by
  rw [shape, Shape.check, Outcome.bind_eq_ok_iff] at read
  rcases read with ⟨items, readItems, same⟩
  cases same
  rcases Shape.list_eq_ok_iff.1 readItems with ⟨elements, _, each⟩
  exact wellShaped_iff_checkShapes.2 (NavItem.checkShapes_of_shape each)

end NavTree

namespace NavItem

/-- A JSON object is read just when it is admissible, as the entry it describes; keys beside those
of an entry do not matter. In whatever is read, no link and no menu is empty at any depth. -/
theorem shape_object_iff {entries : List (String × Value)} (json : (Value.table entries).IsJson) :
    ((∃ item, shape .json (.table entries) = .ok item) ↔ Admissible entries) ∧
    (∀ item, shape .json (.table entries) = .ok item ↔ Describes entries item) ∧
    (∀ other, (Value.table other).IsJson →
      (∀ key ∈ ["text", "link", "items", "activeMatch", "active_match"],
        Value.entry? key other = Value.entry? key entries) →
      shape .json (.table other) = shape .json (.table entries)) ∧
    (∀ item, shape .json (.table entries) = .ok item → (⟨[item]⟩ : NavTree).WellShaped) ∧
    ∀ value tree, NavTree.shape .json value = .ok tree → tree.WellShaped := by
  have described : ∀ item, shape .json (.table entries) = .ok item ↔ Describes entries item :=
    fun item => shape_table_eq_ok_iff json.isReadable_of_mem
  refine ⟨?_, described, ?_, ?_, ?_⟩
  · simp only [described]
    constructor
    · rintro ⟨item, describes⟩
      exact describes.admissible
    · exact Admissible.exists_describes
  · intro other otherJson agree
    exact shape_table_congr json.isReadable_of_mem otherJson.isReadable_of_mem agree
  · intro item read
    rw [NavTree.wellShaped_iff_checkShapes]
    simpa [checkShapes_eq_ok_iff] using checkShape_of_shape read
  · intro value tree read
    exact NavTree.wellShaped_of_shape read

/-- A menu of two pages, one of them written as a list of its fields. -/
def moreEntries : List (String × Value) :=
  [("kind", .number (.int 3)), ("link", .null),
    ("items", .list [.table [("text", .string "Start"), ("link", .string "/start")],
      .list [.string "About", .string "/about"]]),
    ("text", .string "More"), ("active_match", .string "/more/")]

theorem describes_moreEntries :
    Describes moreEntries (.group "More" [.leaf "Start" "/start" none, .leaf "About" "/about" none]
      (some "/more/")) :=
  .group rfl rfl (by decide) (.cons rfl (.cons rfl .nil)) (.inr rfl) (.inr ⟨rfl, rfl⟩)

theorem isJson_of_mem_moreEntries {entry : String × Value} (entry_mem : entry ∈ moreEntries) :
    entry.2.IsJson := by
  have kind : (Value.number (.int 3)).IsJson := .int rfl
  have start : (Value.table [("text", .string "Start"), ("link", .string "/start")]).IsJson :=
    .table (by decide) (by simp [Value.IsJson.string])
  have about : (Value.list [.string "About", .string "/about"]).IsJson :=
    .list (by simp [Value.IsJson.string])
  have items : (Value.list [.table [("text", .string "Start"), ("link", .string "/start")],
      .list [.string "About", .string "/about"]]).IsJson := .list (by simp [start, about])
  revert entry
  simp [moreEntries, kind, items, Value.IsJson.null, Value.IsJson.string]

theorem shape_moreEntries :
    (Value.table moreEntries).IsJson ∧
    Admissible moreEntries ∧
    shape .json (.table moreEntries) = .ok (.group "More"
      [.leaf "Start" "/start" none, .leaf "About" "/about" none] (some "/more/")) ∧
    shape .json (.table (moreEntries.drop 1)) = shape .json (.table moreEntries) := by
  have json : (Value.table moreEntries).IsJson :=
    .table (by decide) fun _ entry_mem => isJson_of_mem_moreEntries entry_mem
  have jsonWithoutKind : (Value.table (moreEntries.drop 1)).IsJson :=
    .table (by decide) fun _ entry_mem => isJson_of_mem_moreEntries (List.mem_of_mem_drop entry_mem)
  rcases shape_object_iff json with ⟨readIff, described, sameKeys, _, _⟩
  have read := (described _).2 describes_moreEntries
  refine ⟨json, readIff.1 ⟨_, read⟩, read, sameKeys _ jsonWithoutKind ?_⟩
  simp [moreEntries, Value.entry?]

end NavItem

end LocaleSite
