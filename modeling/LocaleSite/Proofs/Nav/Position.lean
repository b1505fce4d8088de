import LocaleSite.Nav.Item
import Mathlib.Data.List.Nodup
import Mathlib.Data.List.GetD

/-!
# Positions in a navigation bar

A position is the list of indices that lead from the top of a bar down to an entry. Entries at
different positions are different entries even if they look alike, so that "no two leaves share a
link" is said with positions.

`NavTree.places` lists the entries depth first, each with its position. It has every position once,
in lexicographic order, so that an entry stands before the entries below it, and these before its
next sibling. The lists of all entries and of all links are read off it, and so agree with the
positions: `NavTree.mem_entries_iff` and `NavTree.nodup_links_iff`.
-/

namespace LocaleSite

namespace NavItem

/-- Induction on an entry, for a menu with the statement for each of its entries. -/
@[elab_as_elim, induction_eliminator]
theorem induction {motive : NavItem → Prop}
    (leaf : ∀ text link activeMatch, motive (.leaf text link activeMatch))
    (group : ∀ text items activeMatch, (∀ item ∈ items, motive item) →
      motive (.group text items activeMatch)) : ∀ item, motive item
  | .leaf text link activeMatch => leaf text link activeMatch
  | .group text items activeMatch =>
      group text items activeMatch fun item _ => induction leaf group item

/-- The entry that a list of indices leads to, the item itself for the empty list. -/
def at? (item : NavItem) : List Nat → Option NavItem
  | [] => some item
  | index :: rest => item.children[index]?.bind fun child => child.at? rest

/-- The entry that a list of indices leads to, the first choosing among some items. -/
def atIn? (items : List NavItem) : List Nat → Option NavItem
  | [] => none
  | index :: rest => items[index]?.bind fun item => item.at? rest

@[simp]
theorem at?_nil (item : NavItem) : item.at? [] = some item := rfl

@[simp]
theorem at?_cons (item : NavItem) (index : Nat) (rest : List Nat) :
    item.at? (index :: rest) = atIn? item.children (index :: rest) := rfl

@[simp]
theorem atIn?_nil_right (items : List NavItem) : atIn? items [] = none := rfl

@[simp]
theorem atIn?_nil_left (position : List Nat) : atIn? [] position = none := by
  cases position <;> simp [atIn?]

theorem descendantsOfAll_eq_flatMap (items : List NavItem) :
    descendantsOfAll items = items.flatMap descendants := by
  induction items with
  | nil => rfl
  | cons item rest ih => simp [descendantsOfAll, ih]

/-! ## Places -/

mutual

/-- The item and all items below it, each with its position, depth first. -/
def places : NavItem → List (List Nat × NavItem)
  | .leaf text link activeMatch => [([], .leaf text link activeMatch)]
  | .group text items activeMatch => ([], .group text items activeMatch) :: placesFrom 0 items

/-- All items of a list and below it, each with its position, the indices counted from a start. -/
def placesFrom (start : Nat) : List NavItem → List (List Nat × NavItem)
  | [] => []
  | item :: rest =>
      (places item).map (fun place => (start :: place.1, place.2)) ++ placesFrom (start + 1) rest

end

/-- Depth first, a place comes before those with a greater position. -/
def Before {α : Type} (left right : List Nat × α) : Prop := left.1 < right.1

theorem map_snd_placesFrom_of {items : List NavItem}
    (each : ∀ item ∈ items, item.places.map Prod.snd = item.descendants) (start : Nat) :
    (placesFrom start items).map Prod.snd = descendantsOfAll items := by
  induction items generalizing start with
  | nil => rfl
  | cons item rest ih =>
      rcases List.forall_mem_cons.1 each with ⟨here, later⟩
      rw [placesFrom, descendantsOfAll, ← here, ← ih later (start + 1)]
      simp

theorem map_snd_places (item : NavItem) : item.places.map Prod.snd = item.descendants := by
  induction item with
  | leaf text link activeMatch => rfl
  | group text items activeMatch ih =>
      rw [places, List.map_cons, map_snd_placesFrom_of ih, descendants]

theorem map_snd_placesFrom (start : Nat) (items : List NavItem) :
    (placesFrom start items).map Prod.snd = descendantsOfAll items :=
  map_snd_placesFrom_of (fun item _ => item.map_snd_places) start

/-- If the places of each item are its positions, so it is for a list of items. -/
theorem mem_placesFrom_iff_of {items : List NavItem} {entry : NavItem}
    (each : ∀ item ∈ items, ∀ position,
      (position, entry) ∈ item.places ↔ item.at? position = some entry)
    {start : Nat} {position : List Nat} :
    (position, entry) ∈ placesFrom start items ↔
      ∃ index rest, position = (start + index) :: rest ∧
        atIn? items (index :: rest) = some entry := by
  induction items generalizing start with
  | nil => simp [placesFrom]
  | cons item more ih =>
      rcases List.forall_mem_cons.1 each with ⟨here, later⟩
      simp only [placesFrom, List.mem_append, List.mem_map, Prod.mk.injEq, ih later]
      constructor
      · rintro (⟨⟨rest, _⟩, rest_mem, rfl, rfl⟩ | ⟨index, rest, rfl, leads⟩)
        · exact ⟨0, rest, rfl, (here rest).1 rest_mem⟩
        · exact ⟨index + 1, rest, by rw [Nat.add_assoc, Nat.add_comm 1], leads⟩
      · rintro ⟨_ | index, rest, rfl, leads⟩
        · exact .inl ⟨(rest, entry), (here rest).2 leads, rfl, rfl⟩
        · exact .inr ⟨index, rest, by rw [Nat.add_assoc, Nat.add_comm 1], leads⟩

theorem mem_places_iff {item entry : NavItem} {position : List Nat} :
    (position, entry) ∈ item.places ↔ item.at? position = some entry := by
  induction item generalizing position with
  | leaf text link activeMatch =>
      cases position with
      | nil => simp [places, eq_comm]
      | cons index rest => simp [places, children]
  | group text items activeMatch ih =>
      have each : ∀ item ∈ items, ∀ below,
          (below, entry) ∈ item.places ↔ item.at? below = some entry :=
        fun item item_mem _ => ih item item_mem
      rw [places, List.mem_cons, mem_placesFrom_iff_of each]
      cases position with
      | nil => simp [eq_comm]
      | cons index rest => simp [children]

theorem mem_placesFrom_iff {items : List NavItem} {entry : NavItem} {start : Nat}
    {position : List Nat} :
    (position, entry) ∈ placesFrom start items ↔
      ∃ index rest, position = (start + index) :: rest ∧
        atIn? items (index :: rest) = some entry :=
  mem_placesFrom_iff_of fun _ _ _ => mem_places_iff

/-- If the places of each item are in order, so are those of a list of items. -/
theorem pairwise_placesFrom_of {items : List NavItem}
    (each : ∀ item ∈ items, item.places.Pairwise Before) (start : Nat) :
    (placesFrom start items).Pairwise Before := by
  induction items generalizing start with
  | nil => exact .nil
  | cons item rest ih =>
      rcases List.forall_mem_cons.1 each with ⟨here, later⟩
      rw [placesFrom, List.pairwise_append]
      refine ⟨?_, ih later (start + 1), ?_⟩
      · apply List.pairwise_map.2
        exact here.imp fun before => List.cons_lt_cons_iff.2 (.inr ⟨rfl, before⟩)
      · intro left left_mem right right_mem
        rcases List.mem_map.1 left_mem with ⟨place, _, rfl⟩
        rcases right with ⟨position, entry⟩
        rcases mem_placesFrom_iff.1 right_mem with ⟨index, below, rfl, _⟩
        exact List.cons_lt_cons_iff.2 (.inl (by omega))

theorem pairwise_places (item : NavItem) : item.places.Pairwise Before := by
  induction item with
  | leaf text link activeMatch => exact List.pairwise_singleton _ _
  | group text items activeMatch ih =>
      refine List.pairwise_cons.2 ⟨?_, pairwise_placesFrom_of ih 0⟩
      rintro ⟨position, entry⟩ place_mem
      rcases mem_placesFrom_iff.1 place_mem with ⟨index, rest, rfl, _⟩
      exact List.nil_lt_cons _ _

/-- No two positions hold leaves with one link. -/
def LinksDiffer (find : List Nat → Option NavItem) : Prop :=
  ∀ {left right entry other link}, find left = some entry → find right = some other →
    entry.link? = some link → other.link? = some link → left = right

end NavItem

namespace NavTree

/-- The entry at a position of the bar. -/
def at? (tree : NavTree) (position : List Nat) : Option NavItem :=
  NavItem.atIn? tree.items position

/-- The entries of a bar, each with its position, depth first. -/
def places (tree : NavTree) : List (List Nat × NavItem) := NavItem.placesFrom 0 tree.items

variable {tree : NavTree}

theorem entries_eq_map_places (tree : NavTree) : tree.entries = tree.places.map Prod.snd :=
  (NavItem.map_snd_placesFrom 0 tree.items).symm

theorem mem_places_iff {position : List Nat} {entry : NavItem} :
    (position, entry) ∈ tree.places ↔ tree.at? position = some entry := by
  rw [places, NavItem.mem_placesFrom_iff, at?]
  cases position with
  | nil => simp
  | cons index rest => simp

theorem pairwise_places (tree : NavTree) : tree.places.Pairwise NavItem.Before :=
  NavItem.pairwise_placesFrom_of (fun item _ => item.pairwise_places) 0

/-- The entries of a bar are those at its positions. -/
theorem mem_entries_iff {entry : NavItem} :
    entry ∈ tree.entries ↔ ∃ position, tree.at? position = some entry := by
  simp [entries_eq_map_places, mem_places_iff]

/-! ## What is selected from the entries -/

/-- What is selected from the entries, each with the position of the entry, depth first. -/
def selected (select : NavItem → Option String) (tree : NavTree) : List (List Nat × String) :=
  tree.places.filterMap fun place => (select place.2).map (place.1, ·)

variable {select : NavItem → Option String}

theorem map_snd_selected (select : NavItem → Option String) (tree : NavTree) :
    (tree.selected select).map Prod.snd = tree.entries.filterMap select := by
  rw [selected, List.map_filterMap, entries_eq_map_places, List.filterMap_map]
  apply List.filterMap_congr
  intro place _
  rw [Option.map_map]
  exact Option.map_id'

theorem mem_selected_iff {position : List Nat} {text : String} :
    (position, text) ∈ tree.selected select ↔
      ∃ entry, tree.at? position = some entry ∧ select entry = some text := by
  simp [selected, mem_places_iff]

theorem pairwise_selected (select : NavItem → Option String) (tree : NavTree) :
    (tree.selected select).Pairwise NavItem.Before := by
  apply tree.pairwise_places.filterMap
  simp only [Option.map_eq_some_iff]
  rintro left right before _ ⟨_, _, rfl⟩ _ ⟨_, _, rfl⟩
  exact before

/-- What is selected from the entries is selected at some position. -/
theorem mem_filterMap_entries_iff {text : String} :
    text ∈ tree.entries.filterMap select ↔
      ∃ position entry, tree.at? position = some entry ∧ select entry = some text := by
  simp [← map_snd_selected, mem_selected_iff]

theorem mem_links_iff {link : String} :
    link ∈ tree.links ↔ ∃ position text activeMatch,
      tree.at? position = some (.leaf text link activeMatch) := by
  rw [links, mem_filterMap_entries_iff]
  constructor
  · rintro ⟨position, entry, leads, has⟩
    cases entry with
    | leaf text target activeMatch =>
        cases has
        exact ⟨position, text, activeMatch, leads⟩
    | group text items activeMatch => cases has
  · rintro ⟨position, text, activeMatch, leads⟩
    exact ⟨position, _, leads, rfl⟩

theorem mem_activeMatches_iff {pattern : String} :
    pattern ∈ tree.activeMatches ↔ ∃ position entry,
      tree.at? position = some entry ∧ entry.activeMatch = some pattern :=
  mem_filterMap_entries_iff

/-- The list of links repeats one just when two positions share a link. -/
theorem nodup_links_iff : tree.links.Nodup ↔ NavItem.LinksDiffer tree.at? := by
  have selectedNodup : (tree.selected NavItem.link?).Nodup := by
    apply (tree.pairwise_selected NavItem.link?).imp
    rintro place _ before rfl
    exact List.lt_irrefl _ before
  rw [links, ← map_snd_selected, List.nodup_map_iff_inj_on selectedNodup]
  constructor
  · intro differ left right entry other link leads otherLeads has otherHas
    have left_mem := mem_selected_iff.2 ⟨entry, leads, has⟩
    have right_mem := mem_selected_iff.2 ⟨other, otherLeads, otherHas⟩
    exact congrArg Prod.fst (differ _ left_mem _ right_mem rfl)
  · rintro differ ⟨left, link⟩ left_mem ⟨right, _⟩ right_mem rfl
    rcases mem_selected_iff.1 left_mem with ⟨entry, leads, has⟩
    rcases mem_selected_iff.1 right_mem with ⟨other, otherLeads, otherHas⟩
    rw [differ leads otherLeads has otherHas]

end NavTree

end LocaleSite
