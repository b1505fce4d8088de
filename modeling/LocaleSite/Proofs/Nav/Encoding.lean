import LocaleSite.Nav.Encoding
import LocaleSite.Proofs.Nav.Position
import LocaleSite.Proofs.Value.Faithful

/-!
# Written navigation bars

Navigation bars are written faithfully. A written entry does not say whether it is a link or a
menu; the key `items` tells, which menus alone have.
-/

namespace LocaleSite

namespace NavItem

theorem toValues_eq_map (items : List NavItem) : toValues items = items.map toValue := by
  induction items with
  | nil => rfl
  | cons item rest ih => rw [toValues, ih, List.map_cons]

theorem plain_toValue (item : NavItem) : item.toValue.Plain := by
  induction item with
  | leaf text link activeMatch =>
      apply Value.plain_ofFields (by simp)
      simp [Value.Plain.string]
  | group text items activeMatch ih =>
      have plainItems : (Value.list (items.map toValue)).Plain := by
        apply Value.Plain.list
        intro value value_mem
        rcases List.mem_map.1 value_mem with ⟨item, item_mem, rfl⟩
        exact ih item item_mem
      apply Value.plain_ofFields (by simp)
      simp [Value.Plain.string, toValues_eq_map, plainItems]

theorem field?_items_leaf (text link : String) (activeMatch : Option String) :
    (leaf text link activeMatch).toValue.field? "items" = none := by
  cases activeMatch <;> rfl

theorem field?_items_group (text : String) (items : List NavItem) (activeMatch : Option String) :
    (group text items activeMatch).toValue.field? "items" = some (.list (toValues items)) := by
  rfl

theorem leaf_toValue_ne_group (text link otherText : String) (items : List NavItem)
    (activeMatch otherMatch : Option String) :
    (leaf text link activeMatch).toValue ≠ (group otherText items otherMatch).toValue := by
  intro same
  have sameItems := congrArg (Value.field? · "items") same
  simp only [field?_items_leaf, field?_items_group] at sameItems
  cases sameItems

theorem toValue_injective : Function.Injective toValue := by
  intro left
  induction left with
  | leaf text link activeMatch =>
      intro right same
      cases right with
      | leaf otherText otherLink otherMatch =>
          rw [toValue, toValue] at same
          have sameFields := Value.ofFields_inj same rfl (by simp)
          simpa [Value.faithful_string.option_eq_iff] using sameFields
      | group otherText items otherMatch =>
          exact absurd same (leaf_toValue_ne_group _ _ _ _ _ _)
  | group text items activeMatch ih =>
      intro right same
      cases right with
      | leaf otherText link otherMatch =>
          exact absurd same.symm (leaf_toValue_ne_group _ _ _ _ _ _)
      | group otherText others otherMatch =>
          rw [toValue, toValue, toValues_eq_map, toValues_eq_map] at same
          have sameFields := Value.ofFields_inj same rfl (by simp)
          simp only [List.cons.injEq, Prod.mk.injEq, true_and, Option.some.injEq,
            Value.string.injEq, Value.list.injEq, Value.faithful_string.option_eq_iff,
            and_true] at sameFields
          rcases sameFields with ⟨sameText, sameValues, sameMatch⟩
          have sameItems : items = others := by
            apply Value.eq_of_map_eq _ sameValues
            intro item item_mem other sameItem
            exact ih item item_mem sameItem
          rw [sameText, sameItems, sameMatch]

theorem faithful_toValue : Value.Faithful toValue := ⟨plain_toValue, toValue_injective⟩

end NavItem

namespace NavTree

theorem faithful_toValue : Value.Faithful toValue where
  plain := by
    intro tree
    unfold toValue
    rw [NavItem.toValues_eq_map]
    exact NavItem.faithful_toValue.list.plain tree.items
  inj := by
    intro left right same
    rw [toValue, toValue, NavItem.toValues_eq_map, NavItem.toValues_eq_map] at same
    have sameItems : left.items = right.items := NavItem.faithful_toValue.list.inj same
    cases left
    cases right
    cases sameItems
    rfl

end NavTree

end LocaleSite
