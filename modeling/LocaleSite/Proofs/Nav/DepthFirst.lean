import LocaleSite.Proofs.Nav.Position

/-!
# The first entry of a navigation bar

Depth first, entries come in the lexicographic order of their positions: an entry stands before
the entries below it, and these before its next sibling. A search of the list of all entries ends
at the first position whose entry passes the test: `NavTree.isFirst_of_find?_eq_some`.
-/

namespace LocaleSite

namespace NavItem

/-- An entry passes a test, and none at an earlier position does. -/
structure IsFirst (find : List Nat → Option NavItem) (test : NavItem → Bool)
    (position : List Nat) (entry : NavItem) : Prop where
  leads : find position = some entry
  passes : test entry = true
  earlier : ∀ {other otherEntry}, other < position → find other = some otherEntry →
    test otherEntry = false

/-- In order, what comes before a member stands to its left. -/
theorem mem_left_of_before {α : Type} {left right : List (List Nat × α)}
    {here other : List Nat × α}
    (inOrder : (left ++ here :: right).Pairwise Before) (other_mem : other ∈ left ++ here :: right)
    (before : Before other here) : other ∈ left := by
  rcases List.mem_append.1 other_mem with inLeft | inRest
  · exact inLeft
  · rcases List.mem_cons.1 inRest with rfl | inRight
    · exact absurd before (List.lt_irrefl _)
    · have after := (List.pairwise_cons.1 (List.pairwise_append.1 inOrder).2.1).1 other inRight
      exact absurd before (List.lt_asymm after)

end NavItem

namespace NavTree

variable {tree : NavTree}

/-- The search of all entries ends at the first position whose entry passes the test. -/
theorem isFirst_of_find?_eq_some {test : NavItem → Bool} {entry : NavItem}
    (found : tree.entries.find? test = some entry) :
    ∃ position, NavItem.IsFirst tree.at? test position entry := by
  rw [entries_eq_map_places, List.find?_map, Option.map_eq_some_iff] at found
  rcases found with ⟨⟨position, _⟩, found, rfl⟩
  rcases List.find?_eq_some_iff_append.1 found with ⟨passes, left, right, split, leftFail⟩
  refine ⟨position, mem_places_iff.1 (List.mem_of_find?_eq_some found), passes, ?_⟩
  intro other otherEntry before leads
  have other_mem := split ▸ mem_places_iff.2 leads
  have inLeft := NavItem.mem_left_of_before (split ▸ tree.pairwise_places) other_mem before
  simpa using leftFail _ inLeft

end NavTree

end LocaleSite
