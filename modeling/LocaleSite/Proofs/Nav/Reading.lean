import LocaleSite.Nav.Encoding
import LocaleSite.Proofs.Shape.Record

/-!
# Reading entries of navigation bars

The reader of entries recurses on a bound for the depth of the value. The bound does not matter as
long as it is one, so the reader of entries satisfies the equation of its own: an entry is read
from its fields, the entries of its menu being read in the same way (`NavItem.shape_eq`).
-/

namespace LocaleSite

namespace NavItem

variable {format : Format}

/-- Only the entries of the menu are read by the inner reader, and these lie below the value. -/
theorem fieldsRecord_congr {left right : Shape NavItem} {value : Value}
    (agree : ∀ member : Value, member.depth < value.depth →
      left format member = right format member) :
    (fieldsRecord left).shape "RawNavItem" format value =
      (fieldsRecord right).shape "RawNavItem" format value := by
  have agreeItems : ∀ items : Value, items.depth < value.depth →
      left.list.nullable format items = right.list.nullable format items := by
    intro items below
    exact Shape.nullable_list_congr fun member inItems =>
      agree member (Nat.lt_trans inItems below)
  cases value with
  | table entries =>
      have same : (Field.optional "items" left.list).ofEntries format entries =
          (Field.optional "items" right.list).ofEntries format entries :=
        Field.ofEntries_optional_congr "items" fun items here =>
          agreeItems items (Value.depth_lt_of_entry here)
      simp only [Record.shape, Record.ofTable, fieldsRecord, Record.ofEntries_field, same]
      rfl
  | list elements =>
      -- The menu is read from what the text and the link leave of the list.
      have frontTaken : (Record.start Fields.mk
          |>.field (.required "text" .text)
          |>.field (.optional "link" .text)).TakesFront :=
        ((Record.takesFront_start Fields.mk).field _).field _
      have sameMenu := frontTaken.ofElements_field_congr fun subset =>
        Field.ofElements_optional_congr "items" fun items mem =>
          agreeItems items (Value.depth_lt_of_mem_list (subset mem))
      have same : (fieldsRecord left).ofElements format elements =
          (fieldsRecord right).ofElements format elements := by
        simp only [fieldsRecord, Record.ofElements_field] at sameMenu ⊢
        rw [sameMenu]
        rfl
      simp only [Record.shape, Record.ofList, same]
      rfl
  | moment text => rfl
  | _ => rfl

/-- Any two bounds above the depth of a value read it alike. -/
theorem shapeWithin_eq_of_lt {fuel other : Nat} {value : Value} (enough : value.depth < fuel)
    (otherEnough : value.depth < other) :
    shapeWithin fuel format value = shapeWithin other format value := by
  induction fuel generalizing other value with
  | zero => exact absurd enough (Nat.not_lt_zero _)
  | succ fuel ih =>
      cases other with
      | zero => exact absurd otherEnough (Nat.not_lt_zero _)
      | succ other =>
          have same : (fieldsRecord (shapeWithin fuel)).shape "RawNavItem" format value =
              (fieldsRecord (shapeWithin other)).shape "RawNavItem" format value := by
            apply fieldsRecord_congr
            intro member below
            apply ih
            · omega
            · omega
          simp only [shapeWithin, Shape.check, same]

/-- An entry is read from its fields, the entries of its menu being read in the same way. -/
theorem shape_eq (format : Format) (value : Value) :
    shape format value =
      ((fieldsRecord shape).shape "RawNavItem" |>.check fun fields =>
        (ofFields fields).mapError .item) format value := by
  have same : (fieldsRecord (shapeWithin value.depth)).shape "RawNavItem" format value =
      (fieldsRecord shape).shape "RawNavItem" format value :=
    fieldsRecord_congr fun member below =>
      shapeWithin_eq_of_lt below (Nat.lt_succ_self member.depth)
  simp only [shape, shapeWithin, Shape.check, same]

end NavItem

end LocaleSite
