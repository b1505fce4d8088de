import LocaleSite.Proofs.Nav.DepthFirst
import LocaleSite.Proofs.Nav.Encoding
import LocaleSite.Proofs.Nav.Reading
import LocaleSite.Proofs.Nav.Validity

/-!
# Reading written navigation bars

A bar whose links and menus are all filled is read back as it was written. Any other bar is
refused with the fault that the check of a finished bar reports. The reader checks an entry after
the entries below it and the check of a finished bar checks it before them; still both blame the
same entry, as an entry that is not filled has none below it.
-/

namespace LocaleSite

namespace NavItem

variable {format : Format}

/-! ## The fields of a written entry -/

/-- What stands under the names of an entry's fields. -/
def writtenFields (text : String) (link : Option String) (items : Option (List Value))
    (activeMatch : Option String) : List (String × Option Value) :=
  [("text", some (.string text)), ("link", link.map .string), ("items", items.map .list),
    ("activeMatch", activeMatch.map .string)]

theorem keys_fieldsRecord (inner : Shape NavItem) :
    (fieldsRecord inner).keys = ["text", "link", "items", "activeMatch", "active_match"] := rfl

/-- Beside the entries of the menu, every field is read back as it was written. -/
theorem shape_writtenFields (inner : Shape NavItem) (text : String) (link : Option String)
    (items : Option (List Value)) (activeMatch : Option String) :
    (fieldsRecord inner).shape "RawNavItem" format
        (.ofFields (writtenFields text link items activeMatch)) =
      (((Field.optional "items" inner.list).ofEntries format
        (Value.heldFields (writtenFields text link items activeMatch))).map
          fun items => ⟨text, link, items, activeMatch⟩).mapError Fault.toShapeError := by
  have readsText : ∀ content, Shape.text.nullable format (.string content) = .ok (some content) :=
    Shape.nullable_text_string format
  rw [Record.shape_ofFields (by simp [keys_fieldsRecord, writtenFields])]
  generalize held : Value.heldFields (writtenFields text link items activeMatch) = entries
  have textHere : Value.entry? "text" entries = some (.string text) := by
    simp [← held, writtenFields, Value.entry?]
  have linkHere : Value.entry? "link" entries = link.map .string := by
    simp [← held, writtenFields, Value.entry?, Value.entry?_heldFields_cons]
  have matchHere : Value.entry? "activeMatch" entries = activeMatch.map .string := by
    simp [← held, writtenFields, Value.entry?, Value.entry?_heldFields_cons]
  have noSecond : Value.entry? "active_match" entries = none := by
    simp [← held, writtenFields, Value.entry?, Value.entry?_heldFields_cons]
  simp only [fieldsRecord, Record.ofEntries_field]
  rw [Field.ofEntries_required (Shape.text_string format text) textHere,
    Field.ofEntries_optional readsText linkHere, Field.ofEntries_orNamed rfl noSecond,
    Field.ofEntries_optional readsText matchHere]
  cases (Field.optional "items" inner.list).ofEntries format entries <;> rfl

theorem entry?_items_writtenFields (text : String) (link : Option String)
    (items : Option (List Value)) (activeMatch : Option String) :
    Value.entry? "items" (Value.heldFields (writtenFields text link items activeMatch)) =
      items.map .list := by
  simp [writtenFields, Value.entry?, Value.entry?_heldFields_cons]

theorem shape_fieldsRecord_leaf (inner : Shape NavItem) (text link : String)
    (activeMatch : Option String) :
    (fieldsRecord inner).shape "RawNavItem" format (leaf text link activeMatch).toValue =
      .ok ⟨text, some link, none, activeMatch⟩ := by
  change (fieldsRecord inner).shape "RawNavItem" format
    (.ofFields (writtenFields text (some link) none activeMatch)) = _
  rw [shape_writtenFields,
    Field.ofEntries_of_absent rfl rfl (entry?_items_writtenFields text _ none activeMatch)]
  rfl

theorem shape_fieldsRecord_group (inner : Shape NavItem) (text : String) (items : List NavItem)
    (activeMatch : Option String) :
    (fieldsRecord inner).shape "RawNavItem" format (group text items activeMatch).toValue =
      ((toValues items).mapM (inner format)).map fun items =>
        ⟨text, none, some items, activeMatch⟩ := by
  change (fieldsRecord inner).shape "RawNavItem" format
    (.ofFields (writtenFields text none (some (toValues items)) activeMatch)) = _
  rw [shape_writtenFields,
    Field.ofEntries_of_present rfl (entry?_items_writtenFields text none (some _) activeMatch)]
  change ((((((toValues items).mapM (inner format)).map some).mapError
    (Fault.entry "items")).map _).mapError Fault.toShapeError) = _
  cases (toValues items).mapM (inner format) <;> rfl

/-! ## Written entries -/

/-- The entry if it and all below it are filled, else the fault of the first that is not. -/
def checked (item : NavItem) : Except ShapeError NavItem :=
  (item.checkShape.map fun _ => item).mapError .item

/-- If each item is read as its own verdict says, the list is read as the verdict on it. -/
theorem mapM_toValues {read : Value → Except ShapeError NavItem} {items : List NavItem}
    (each : ∀ item ∈ items, read item.toValue = item.checked) :
    (toValues items).mapM read =
      ((checkShapes items).map fun _ => items).mapError .item := by
  induction items with
  | nil => rfl
  | cons item rest ih =>
      rcases List.forall_mem_cons.1 each with ⟨here, later⟩
      rw [toValues, List.mapM_cons, here, ih later, checkShapes, checked]
      cases item.checkShape <;> cases checkShapes rest <;> rfl

/-- A written entry is read back if it and all below it are filled. -/
theorem shape_eq_checked (format : Format) (item : NavItem) :
    shape format item.toValue = item.checked := by
  induction item with
  | leaf text link activeMatch =>
      rw [shape_eq, Shape.check, shape_fieldsRecord_leaf]
      rfl
  | group text items activeMatch ih =>
      rw [shape_eq, Shape.check, shape_fieldsRecord_group, mapM_toValues ih]
      by_cases empty : items = []
      · -- The menu is refused only after its entries are read, of which there are none.
        subst empty
        rfl
      · cases verdict : checkShapes items with
        | error error =>
            have refused : (group text items activeMatch).checkShape = .error error := by
              simp [checkShape, empty, verdict]
            rw [checked, refused]
            rfl
        | ok accepted =>
            have fine : (group text items activeMatch).checkShape = .ok () := by
              simp [checkShape, empty, verdict]
            simp [ofFields, checked, fine, Except.map, Except.mapError, bind, Except.bind]

end NavItem

namespace NavTree

theorem shape_eq_checked (format : Format) (tree : NavTree) :
    shape format tree.toValue =
      ((NavItem.checkShapes tree.items).map fun _ => tree).mapError .item := by
  have read : (NavItem.toValues tree.items).mapM (NavItem.shape format) =
      ((NavItem.checkShapes tree.items).map fun _ => tree.items).mapError .item :=
    NavItem.mapM_toValues fun item _ => item.shape_eq_checked format
  change (NavItem.toValues tree.items).mapM (NavItem.shape format) >>= _ = _
  rw [read]
  cases NavItem.checkShapes tree.items <;> rfl

/-- A written bar is read back if it is well shaped. Otherwise it is refused for the first entry,
depth first, that is not filled, and the check of the bar refuses it for that entry too. -/
theorem shape_toValue (format : Format) (isPattern : String → Bool) (tree : NavTree) :
    (tree.WellShaped → shape format tree.toValue = .ok tree ∧
      ∀ text, tree.validate isPattern ≠ .error (.noLinkOrChildren text)) ∧
    (¬tree.WellShaped → ∃ position entry,
      NavItem.IsFirst tree.at? (fun entry => !entry.isFilled) position entry ∧
        shape format tree.toValue = .error (.item (.noLinkOrChildren entry.text)) ∧
        tree.validate isPattern = .error (.noLinkOrChildren entry.text)) := by
  have read := shape_eq_checked format tree
  rw [NavItem.checkShapes_eq, ← entries] at read
  constructor
  · intro wellShaped
    have allFilled := find?_unfilled_eq_none_iff.2 wellShaped
    rw [allFilled] at read
    refine ⟨read, ?_⟩
    intro text
    rw [validate_eq, allFilled]
    cases firstRepeated [] tree.links with
    | some link => simp
    | none => cases tree.activeMatches.find? fun pattern => !isPattern pattern <;> simp
  · intro illShaped
    rw [← find?_unfilled_eq_none_iff, ← ne_eq, Option.ne_none_iff_exists'] at illShaped
    rcases illShaped with ⟨entry, found⟩
    rcases isFirst_of_find?_eq_some found with ⟨position, first⟩
    rw [found] at read
    refine ⟨position, entry, first, read, ?_⟩
    rw [validate_eq, found]

/-- A bar with a menu in a menu, and a menu after it. -/
def nestedMenus (link : String) (news : List NavItem) : NavTree :=
  ⟨[.group "Docs" [.group "Guide" [.leaf "Start" link none] none] (some "/docs/"),
    .group "News" news none]⟩

theorem shape_toValue_nestedMenus :
    (nestedMenus "/start" [.leaf "Latest" "/latest" none]).WellShaped ∧
    shape .json (nestedMenus "/start" [.leaf "Latest" "/latest" none]).toValue =
      .ok (nestedMenus "/start" [.leaf "Latest" "/latest" none]) ∧
    ¬(nestedMenus "" []).WellShaped ∧
    ∃ position entry,
      NavItem.IsFirst (nestedMenus "" []).at? (fun entry => !entry.isFilled) position entry ∧
        shape .json (nestedMenus "" []).toValue = .error (.item (.noLinkOrChildren entry.text)) ∧
        (nestedMenus "" []).validate (fun _ => true) = .error (.noLinkOrChildren entry.text) := by
  have wellShaped : (nestedMenus "/start" [.leaf "Latest" "/latest" none]).WellShaped :=
    wellShaped_iff.2 (by decide)
  have illShaped : ¬(nestedMenus "" []).WellShaped := by
    rw [wellShaped_iff]
    decide
  exact ⟨wellShaped, ((shape_toValue .json (fun _ => true) _).1 wellShaped).1,
    illShaped, (shape_toValue .json (fun _ => true) _).2 illShaped⟩

end NavTree

end LocaleSite
