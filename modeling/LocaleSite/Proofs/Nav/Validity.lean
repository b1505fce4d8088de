import LocaleSite.Proofs.Nav.Position
import LocaleSite.Proofs.Outcome

/-!
# Valid navigation bars

`NavTree.Valid` says of the positions of a bar what a published bar has to satisfy, and
`NavTree.validate_eq_ok_iff` that the check accepts just these bars. The check of shapes walks the
tree on its own; `NavItem.checkShapes_eq` reduces it to the first bad entry in the list of all.
-/

namespace LocaleSite

namespace NavItem

/-- Whether the item itself has a link or entries, those below it left aside. -/
def isFilled : NavItem → Bool
  | .leaf _ link _ => !link.isEmpty
  | .group _ items _ => !items.isEmpty

/-- The verdict on a tree of which an entry is the first that is not filled. -/
def shapeVerdict : Option NavItem → Except NavError Unit
  | none => .ok ()
  | some entry => .error (.noLinkOrChildren entry.text)

/-- If the verdict on each item is that on its first unfilled entry, so it is for a list. -/
theorem checkShapes_eq_of {items : List NavItem}
    (each : ∀ item ∈ items,
      checkShape item = shapeVerdict (item.descendants.find? fun entry => !entry.isFilled)) :
    checkShapes items =
      shapeVerdict ((descendantsOfAll items).find? fun entry => !entry.isFilled) := by
  induction items with
  | nil => rfl
  | cons item rest ih =>
      have here := each item List.mem_cons_self
      have later := ih fun other mem => each other (List.mem_cons_of_mem _ mem)
      rw [checkShapes, here, later, descendantsOfAll, List.find?_append]
      cases item.descendants.find? fun entry => !entry.isFilled <;> rfl

theorem checkShape_eq (item : NavItem) :
    checkShape item = shapeVerdict (item.descendants.find? fun entry => !entry.isFilled) := by
  induction item with
  | leaf text link activeMatch =>
      by_cases empty : link.isEmpty = true
      · simp [checkShape, descendants, isFilled, shapeVerdict, empty, NavItem.text]
      · simp [checkShape, descendants, isFilled, shapeVerdict, empty]
  | group text items activeMatch ih =>
      by_cases empty : items.isEmpty = true
      · simp [checkShape, descendants, isFilled, shapeVerdict, empty, NavItem.text]
      · simp [checkShape, descendants, isFilled, empty, checkShapes_eq_of ih]

/-- The check of shapes blames the first unfilled entry, depth first. -/
theorem checkShapes_eq (items : List NavItem) :
    checkShapes items =
      shapeVerdict ((descendantsOfAll items).find? fun entry => !entry.isFilled) :=
  checkShapes_eq_of fun item _ => checkShape_eq item

theorem checkShapes_eq_ok_iff {items : List NavItem} :
    checkShapes items = .ok () ↔ ∀ item ∈ items, checkShape item = .ok () := by
  induction items with
  | nil => simp [checkShapes]
  | cons item rest ih =>
      rw [checkShapes, List.forall_mem_cons, ← ih]
      cases checkShape item <;> simp

end NavItem

namespace NavTree

/-- A bar in which no link and no menu is empty, at whatever depth. -/
structure WellShaped (tree : NavTree) : Prop where
  linked : ∀ {position text link activeMatch},
    tree.at? position = some (.leaf text link activeMatch) → link ≠ ""
  filled : ∀ {position text items activeMatch},
    tree.at? position = some (.group text items activeMatch) → items ≠ []

theorem wellShaped_iff {tree : NavTree} :
    tree.WellShaped ↔ ∀ entry ∈ tree.entries, entry.isFilled = true := by
  constructor
  · intro wellShaped entry entry_mem
    rcases mem_entries_iff.1 entry_mem with ⟨position, leads⟩
    cases entry with
    | leaf text link activeMatch => simpa [NavItem.isFilled] using wellShaped.linked leads
    | group text items activeMatch => simpa [NavItem.isFilled] using wellShaped.filled leads
  · intro allFilled
    constructor
    · intro position text link activeMatch leads
      simpa [NavItem.isFilled] using allFilled _ (mem_entries_iff.2 ⟨position, leads⟩)
    · intro position text items activeMatch leads
      simpa [NavItem.isFilled] using allFilled _ (mem_entries_iff.2 ⟨position, leads⟩)

theorem find?_unfilled_eq_none_iff {tree : NavTree} :
    (tree.entries.find? fun entry => !entry.isFilled) = none ↔ tree.WellShaped := by
  rw [wellShaped_iff, List.find?_eq_none]
  simp

theorem wellShaped_iff_checkShapes {tree : NavTree} :
    tree.WellShaped ↔ NavItem.checkShapes tree.items = .ok () := by
  rw [← find?_unfilled_eq_none_iff, NavItem.checkShapes_eq, ← entries]
  cases tree.entries.find? fun entry => !entry.isFilled <;> simp [NavItem.shapeVerdict]

/-- What a published bar satisfies at all of its positions. -/
structure Valid (isPattern : String → Bool) (tree : NavTree) : Prop where
  /-- A leaf has a link. -/
  linked : ∀ {position text link activeMatch},
    tree.at? position = some (.leaf text link activeMatch) → link ≠ ""
  /-- A menu has an entry. -/
  filled : ∀ {position text items activeMatch},
    tree.at? position = some (.group text items activeMatch) → items ≠ []
  /-- Leaves at different positions have different links. -/
  unshared : NavItem.LinksDiffer tree.at?
  /-- A highlight pattern is a pattern. -/
  patterned : ∀ {position entry pattern},
    tree.at? position = some entry → entry.activeMatch = some pattern → isPattern pattern = true

theorem firstRepeated_eq_none_iff {seen names : List String} :
    firstRepeated seen names = none ↔ names.Nodup ∧ ∀ name ∈ names, name ∉ seen := by
  induction names generalizing seen with
  | nil => simp [firstRepeated]
  | cons name rest ih =>
      unfold firstRepeated
      by_cases known : name ∈ seen
      · simp [known]
      · simp only [List.contains_eq_mem, known, decide_false, Bool.false_eq_true, if_false, ih,
          List.nodup_cons, List.mem_cons, not_or, forall_eq_or_imp, not_false_eq_true, true_and]
        constructor
        · rintro ⟨nodup, fresh⟩
          exact ⟨⟨fun mem => (fresh name mem).1 rfl, nodup⟩, fun other mem => (fresh other mem).2⟩
        · rintro ⟨⟨notLater, nodup⟩, fresh⟩
          refine ⟨nodup, fun other mem => ⟨?_, fresh other mem⟩⟩
          rintro rfl
          exact notLater mem

theorem firstRepeated_links_eq_none_iff {tree : NavTree} :
    firstRepeated [] tree.links = none ↔ tree.links.Nodup := by
  simp [firstRepeated_eq_none_iff]

/-- The three checks of a bar, in their order. -/
theorem validate_eq (isPattern : String → Bool) (tree : NavTree) :
    tree.validate isPattern =
      match tree.entries.find? fun entry => !entry.isFilled with
      | some entry => .error (.noLinkOrChildren entry.text)
      | none =>
          match firstRepeated [] tree.links with
          | some link => .error (.duplicateLink link)
          | none =>
              match tree.activeMatches.find? fun pattern => !isPattern pattern with
              | some pattern => .error (.invalidActiveMatch pattern)
              | none => .ok () := by
  unfold validate
  rw [NavItem.checkShapes_eq, ← entries]
  cases tree.entries.find? fun entry => !entry.isFilled with
  | some entry => rfl
  | none =>
      cases firstRepeated [] tree.links with
      | some link => rfl
      | none => cases tree.activeMatches.find? fun pattern => !isPattern pattern <;> rfl

/-- The check accepts a bar when each of its three parts does. -/
theorem validate_eq_ok_iff_lists {isPattern : String → Bool} {tree : NavTree} :
    tree.validate isPattern = .ok () ↔
      tree.WellShaped ∧ tree.links.Nodup ∧
        ∀ pattern ∈ tree.activeMatches, isPattern pattern = true := by
  have patterns : (tree.activeMatches.find? fun pattern => !isPattern pattern) = none ↔
      ∀ pattern ∈ tree.activeMatches, isPattern pattern = true := by
    simp [List.find?_eq_none]
  rw [← find?_unfilled_eq_none_iff, ← firstRepeated_links_eq_none_iff, ← patterns, validate_eq]
  split
  · simp [*]
  · split
    · simp [*]
    · split <;> simp [*]

/-- The check refuses a bar for a pattern when its other two parts accept it. -/
theorem validate_eq_invalidActiveMatch_iff {isPattern : String → Bool} {tree : NavTree}
    {pattern : String} :
    tree.validate isPattern = .error (.invalidActiveMatch pattern) ↔
      tree.WellShaped ∧ tree.links.Nodup ∧
        (tree.activeMatches.find? fun other => !isPattern other) = some pattern := by
  rw [← find?_unfilled_eq_none_iff, ← firstRepeated_links_eq_none_iff, validate_eq]
  split
  · simp [*]
  · split
    · simp [*]
    · split <;> simp [*]

/-- The check accepts a bar just when it is valid at all of its positions. -/
theorem validate_eq_ok_iff {isPattern : String → Bool} {tree : NavTree} :
    tree.validate isPattern = .ok () ↔ tree.Valid isPattern := by
  rw [validate_eq_ok_iff_lists]
  constructor
  · rintro ⟨wellShaped, nodup, allPatterns⟩
    refine ⟨wellShaped.linked, wellShaped.filled, nodup_links_iff.1 nodup, ?_⟩
    intro position entry pattern leads has
    exact allPatterns pattern (mem_activeMatches_iff.2 ⟨position, entry, leads, has⟩)
  · rintro ⟨linked, filled, unshared, patterned⟩
    refine ⟨⟨linked, filled⟩, nodup_links_iff.2 unshared, ?_⟩
    intro pattern pattern_mem
    rcases mem_activeMatches_iff.1 pattern_mem with ⟨position, entry, leads, has⟩
    exact patterned leads has

end NavTree

end LocaleSite
