import LocaleSite.Proofs.Nav.DepthFirst
import LocaleSite.Proofs.Nav.Validity

/-!
# The verdict on a navigation bar

The check of a bar reports one fault, be there several. Which one is told by positions alone: an
empty link or menu comes before a link that two leaves share, wherever they stand, and a shared link
before a pattern that is none. Of the faults of one kind the first in depth-first order counts.
`NavTree.Verdict` says this, and `NavTree.validate_eq_iff_verdict` that it is what the check does.

Each kind of fault is a mark that a position of the bar has or not. The check collects the marks of
a kind in a list, which is in depth-first order, so its first member is the first mark.
-/

namespace LocaleSite.NavTree

/-- The mark of the first position that has one, or none if no position has. -/
inductive FirstMark (marks : List Nat → String → Prop) : Option String → Prop where
  | none (unmarked : ∀ position mark, ¬marks position mark) : FirstMark marks none
  | some {position : List Nat} {mark : String} (here : marks position mark)
      (earlier : ∀ other < position, ∀ otherMark, ¬marks other otherMark) :
      FirstMark marks (some mark)

/-- With at most one mark at a position, the first mark is determined. -/
theorem FirstMark.unique {marks : List Nat → String → Prop} {left right : Option String}
    (leftFirst : FirstMark marks left) (rightFirst : FirstMark marks right)
    (functional : ∀ {position mark other}, marks position mark → marks position other →
      mark = other) : left = right := by
  cases leftFirst with
  | none unmarked =>
      cases rightFirst with
      | none _ => rfl
      | some here _ => exact absurd here (unmarked _ _)
  | @some position mark here earlier =>
      cases rightFirst with
      | none unmarked => exact absurd here (unmarked _ _)
      | @some other otherMark there otherEarlier =>
          rcases Std.lt_trichotomy position other with before | rfl | after
          · exact absurd here (otherEarlier position before mark)
          · rw [functional here there]
          · exact absurd there (earlier other after otherMark)

/-- Of marks listed in order, the first is the first mark. -/
theorem firstMark_head? {marks : List (List Nat × String)}
    (inOrder : marks.Pairwise NavItem.Before) :
    FirstMark (fun position mark => (position, mark) ∈ marks) (marks.map Prod.snd).head? := by
  cases marks with
  | nil => exact .none fun _ _ => List.not_mem_nil
  | cons first rest =>
      refine .some List.mem_cons_self ?_
      intro other before otherMark other_mem
      have inLeft : (other, otherMark) ∈ [] :=
        NavItem.mem_left_of_before inOrder other_mem before
      exact List.not_mem_nil inLeft

/-! ## The faults of a bar -/

/-- A leaf without a link, or a menu without entries, has the text. -/
inductive UnfilledAt (tree : NavTree) (position : List Nat) : String → Prop where
  | leaf {text : String} {activeMatch : Option String}
      (leads : tree.at? position = some (.leaf text "" activeMatch)) : UnfilledAt tree position text
  | group {text : String} {activeMatch : Option String}
      (leads : tree.at? position = some (.group text [] activeMatch)) :
      UnfilledAt tree position text

/-- A leaf has the link. -/
def LinkAt (tree : NavTree) (position : List Nat) (link : String) : Prop :=
  ∃ text activeMatch, tree.at? position = some (.leaf text link activeMatch)

/-- A leaf has the link, and so has an earlier one. -/
def RepeatedAt (tree : NavTree) (position : List Nat) (link : String) : Prop :=
  tree.LinkAt position link ∧ ∃ earlier < position, tree.LinkAt earlier link

/-- An entry, a leaf or a menu, has the text in place of a highlight pattern. -/
def UnpatternedAt (isPattern : String → Bool) (tree : NavTree) (position : List Nat)
    (pattern : String) : Prop :=
  ∃ entry, tree.at? position = some entry ∧ entry.activeMatch = some pattern ∧
    isPattern pattern = false

variable {isPattern : String → Bool} {tree : NavTree} {position : List Nat}

theorem unfilledAt_iff {text : String} :
    tree.UnfilledAt position text ↔
      ∃ entry, tree.at? position = some entry ∧ entry.isFilled = false ∧ entry.text = text := by
  constructor
  · rintro (leads | leads)
    · exact ⟨_, leads, rfl, rfl⟩
    · exact ⟨_, leads, rfl, rfl⟩
  · rintro ⟨entry, leads, unfilled, rfl⟩
    cases entry with
    | leaf text link activeMatch =>
        have empty : link = "" := by simpa [NavItem.isFilled] using unfilled
        exact .leaf (empty ▸ leads)
    | group text items activeMatch =>
        have empty : items = [] := by simpa [NavItem.isFilled] using unfilled
        exact .group (empty ▸ leads)

theorem UnfilledAt.unique {text other : String} (here : tree.UnfilledAt position text)
    (there : tree.UnfilledAt position other) : text = other := by
  rcases unfilledAt_iff.1 here with ⟨entry, leads, _, rfl⟩
  rcases unfilledAt_iff.1 there with ⟨_, otherLeads, _, rfl⟩
  rw [Option.some.inj (leads.symm.trans otherLeads)]

theorem linkAt_iff {link : String} :
    tree.LinkAt position link ↔ (position, link) ∈ tree.selected NavItem.link? := by
  rw [mem_selected_iff]
  constructor
  · rintro ⟨text, activeMatch, leads⟩
    exact ⟨_, leads, rfl⟩
  · rintro ⟨entry, leads, has⟩
    cases entry with
    | leaf text target activeMatch =>
        cases has
        exact ⟨text, activeMatch, leads⟩
    | group text items activeMatch => cases has

theorem LinkAt.unique {link other : String} (here : tree.LinkAt position link)
    (there : tree.LinkAt position other) : link = other := by
  rcases here with ⟨_, _, leads⟩
  rcases there with ⟨_, _, otherLeads⟩
  cases leads.symm.trans otherLeads
  rfl

theorem UnpatternedAt.unique {pattern other : String}
    (here : tree.UnpatternedAt isPattern position pattern)
    (there : tree.UnpatternedAt isPattern position other) : pattern = other := by
  rcases here with ⟨entry, leads, has, _⟩
  rcases there with ⟨_, otherLeads, otherHas, _⟩
  cases leads.symm.trans otherLeads
  exact Option.some.inj (has.symm.trans otherHas)

/-! ## The first fault of each kind -/

theorem firstMark_unfilled (tree : NavTree) :
    FirstMark tree.UnfilledAt
      ((tree.entries.find? fun entry => !entry.isFilled).map NavItem.text) := by
  have first := firstMark_head? (tree.pairwise_selected fun entry =>
    (Option.guard (fun entry => !entry.isFilled) entry).map NavItem.text)
  have sameMarks : (fun position text => (position, text) ∈ tree.selected fun entry =>
      (Option.guard (fun entry => !entry.isFilled) entry).map NavItem.text) = tree.UnfilledAt := by
    funext position text
    simp [mem_selected_iff, unfilledAt_iff, Option.guard_eq_some_iff, and_assoc]
  rwa [sameMarks, map_snd_selected, ← List.map_filterMap, List.filterMap_eq_filter, List.head?_map,
    List.head?_filter] at first

theorem firstMark_unpatterned (isPattern : String → Bool) (tree : NavTree) :
    FirstMark (tree.UnpatternedAt isPattern)
      (tree.activeMatches.find? fun pattern => !isPattern pattern) := by
  have first := firstMark_head? (tree.pairwise_selected fun entry =>
    entry.activeMatch.filter fun pattern => !isPattern pattern)
  have sameMarks : (fun position pattern => (position, pattern) ∈ tree.selected fun entry =>
      entry.activeMatch.filter fun pattern => !isPattern pattern) =
        tree.UnpatternedAt isPattern := by
    funext position pattern
    simp [mem_selected_iff, UnpatternedAt, Option.filter_eq_some_iff]
  rwa [sameMarks, map_snd_selected, ← List.filter_filterMap, List.head?_filter] at first

/-- The name found is the first that was seen or stands further left. -/
theorem split_of_firstRepeated {seen names : List String} {name : String}
    (found : firstRepeated seen names = some name) :
    ∃ left right, names = left ++ name :: right ∧ (name ∈ seen ∨ name ∈ left) ∧ left.Nodup ∧
      ∀ other ∈ left, other ∉ seen := by
  induction names generalizing seen with
  | nil => cases found
  | cons head rest ih =>
      rw [firstRepeated] at found
      split at found
      · rename_i known
        cases found
        exact ⟨[], rest, rfl, .inl (List.contains_iff_mem.1 known), .nil, List.forall_mem_nil _⟩
      · rename_i unknown
        rcases ih found with ⟨left, right, rfl, isKnown, nodup, fresh⟩
        have headFresh : head ∉ left := fun mem => fresh head mem List.mem_cons_self
        refine ⟨head :: left, right, rfl, ?_, List.nodup_cons.2 ⟨headFresh, nodup⟩, ?_⟩
        · rcases isKnown with inSeen | inLeft
          · rcases List.mem_cons.1 inSeen with rfl | inSeen
            · exact .inr List.mem_cons_self
            · exact .inl inSeen
          · exact .inr (List.mem_cons_of_mem _ inLeft)
        · refine List.forall_mem_cons.2 ⟨fun mem => unknown (List.contains_iff_mem.2 mem), ?_⟩
          exact fun other other_mem inSeen => fresh other other_mem (List.mem_cons_of_mem _ inSeen)

theorem firstMark_repeated (tree : NavTree) :
    FirstMark tree.RepeatedAt (firstRepeated [] tree.links) := by
  have inOrder := tree.pairwise_selected NavItem.link?
  cases found : firstRepeated [] tree.links with
  | none =>
      refine .none ?_
      rintro position link ⟨⟨_, _, leads⟩, earlier, before, ⟨_, _, otherLeads⟩⟩
      have nodup := firstRepeated_links_eq_none_iff.1 found
      have samePosition := nodup_links_iff.1 nodup otherLeads leads rfl rfl
      exact List.lt_irrefl position (samePosition ▸ before)
  | some link =>
      rcases split_of_firstRepeated found with ⟨left, right, split, isKnown, nodup, _⟩
      rw [links, ← map_snd_selected, List.map_eq_append_iff] at split
      rcases split with ⟨leftMarks, rest, split, rfl, restSame⟩
      rcases List.map_eq_cons_iff.1 restSame with ⟨⟨position, _⟩, rightMarks, rfl, rfl, rfl⟩
      rw [split] at inOrder
      -- The link is found for the first time at the place that repeats one further left.
      rcases List.mem_map.1 (isKnown.resolve_left List.not_mem_nil) with
        ⟨⟨earlier, link⟩, earlier_mem, rfl⟩
      have before : earlier < position :=
        (List.pairwise_append.1 inOrder).2.2 _ earlier_mem _ List.mem_cons_self
      have isLeft : ∀ {other otherLink}, other < position → tree.LinkAt other otherLink →
          (other, otherLink) ∈ leftMarks := by
        intro other otherLink otherBefore leads
        exact NavItem.mem_left_of_before inOrder (split ▸ linkAt_iff.1 leads) otherBefore
      refine .some ⟨linkAt_iff.2 ?_, earlier, before, linkAt_iff.2 ?_⟩ ?_
      · exact split ▸ List.mem_append_right _ List.mem_cons_self
      · exact split ▸ List.mem_append_left _ earlier_mem
      · -- A link repeated before would be twice among those on the left, which all differ.
        rintro other otherBefore otherLink ⟨leads, earliest, earliestBefore, again⟩
        have sameMark := List.inj_on_of_nodup_map nodup (isLeft otherBefore leads)
          (isLeft (List.lt_trans earliestBefore otherBefore) again) rfl
        cases sameMark
        exact List.lt_irrefl _ earliestBefore

/-! ## The verdict -/

/-- The verdict on a bar: the first empty link or menu, else the first link that an earlier leaf
has too, else the first text in place of a pattern, else that the bar is valid. -/
inductive Verdict (isPattern : String → Bool) (tree : NavTree) : Except NavError Unit → Prop where
  | unfilled {text : String} (first : FirstMark tree.UnfilledAt (some text)) :
      Verdict isPattern tree (.error (.noLinkOrChildren text))
  | repeated {link : String} (filled : FirstMark tree.UnfilledAt none)
      (first : FirstMark tree.RepeatedAt (some link)) :
      Verdict isPattern tree (.error (.duplicateLink link))
  | unpatterned {pattern : String} (filled : FirstMark tree.UnfilledAt none)
      (unshared : FirstMark tree.RepeatedAt none)
      (first : FirstMark (tree.UnpatternedAt isPattern) (some pattern)) :
      Verdict isPattern tree (.error (.invalidActiveMatch pattern))
  | valid (filled : FirstMark tree.UnfilledAt none) (unshared : FirstMark tree.RepeatedAt none)
      (patterned : FirstMark (tree.UnpatternedAt isPattern) none) :
      Verdict isPattern tree (.ok ())

theorem verdict_validate (isPattern : String → Bool) (tree : NavTree) :
    tree.Verdict isPattern (tree.validate isPattern) := by
  have unfilled := tree.firstMark_unfilled
  have repeated := tree.firstMark_repeated
  have unpatterned := tree.firstMark_unpatterned isPattern
  rw [validate_eq]
  cases empty : tree.entries.find? fun entry => !entry.isFilled with
  | some entry =>
      rw [empty] at unfilled
      exact .unfilled unfilled
  | none =>
      rw [empty] at unfilled
      cases shared : firstRepeated [] tree.links with
      | some link =>
          rw [shared] at repeated
          exact .repeated unfilled repeated
      | none =>
          rw [shared] at repeated
          cases stray : tree.activeMatches.find? fun pattern => !isPattern pattern with
          | some pattern =>
              rw [stray] at unpatterned
              exact .unpatterned unfilled repeated unpatterned
          | none =>
              rw [stray] at unpatterned
              exact .valid unfilled repeated unpatterned

theorem validate_eq_of_verdict {verdict : Except NavError Unit}
    (isVerdict : tree.Verdict isPattern verdict) : tree.validate isPattern = verdict := by
  have unfilled_eq : ∀ {mark}, FirstMark tree.UnfilledAt mark →
      (tree.entries.find? fun entry => !entry.isFilled).map NavItem.text = mark :=
    fun first => tree.firstMark_unfilled.unique first UnfilledAt.unique
  have repeated_eq : ∀ {mark}, FirstMark tree.RepeatedAt mark →
      firstRepeated [] tree.links = mark :=
    fun first => tree.firstMark_repeated.unique first fun here there => here.1.unique there.1
  have unpatterned_eq : ∀ {mark}, FirstMark (tree.UnpatternedAt isPattern) mark →
      (tree.activeMatches.find? fun pattern => !isPattern pattern) = mark :=
    fun first => (tree.firstMark_unpatterned isPattern).unique first UnpatternedAt.unique
  rw [validate_eq]
  cases isVerdict with
  | unfilled first =>
      rcases Option.map_eq_some_iff.1 (unfilled_eq first) with ⟨entry, found, rfl⟩
      rw [found]
  | repeated filled first => rw [Option.map_eq_none_iff.1 (unfilled_eq filled), repeated_eq first]
  | unpatterned filled unshared first =>
      rw [Option.map_eq_none_iff.1 (unfilled_eq filled), repeated_eq unshared, unpatterned_eq first]
  | valid filled unshared patterned =>
      rw [Option.map_eq_none_iff.1 (unfilled_eq filled), repeated_eq unshared,
        unpatterned_eq patterned]

/-- The check of a bar gives the verdict on it, and no other. -/
theorem validate_eq_iff_verdict (isPattern : String → Bool) (tree : NavTree)
    (verdict : Except NavError Unit) :
    tree.validate isPattern = verdict ↔ tree.Verdict isPattern verdict := by
  constructor
  · rintro rfl
    exact verdict_validate isPattern tree
  · exact validate_eq_of_verdict

/-- An empty link deep in a later menu is blamed before a link shared at the top. -/
example : validate (fun _ => false)
    ⟨[.leaf "Home" "/" (some "/"), .leaf "Start" "/" none,
      .group "More" [.group "Old" [.leaf "Lost" "" none] none] none]⟩ =
    .error (.noLinkOrChildren "Lost") := rfl

end LocaleSite.NavTree
