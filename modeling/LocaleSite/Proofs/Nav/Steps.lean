import LocaleSite.Proofs.Nav.Validity

/-!
# Navigation bars put together from steps

A bar is checked when all of its steps are done, by walks over the whole tree. A run of steps can
still be judged by its parts: links, patterns and empty entries of two bars side by side are those
of each, and those of a menu are those of the bar it holds, beside the menu's own. What the parts
cannot tell alone is whether they share a link. A run that is refused stays so, whatever steps are
added, though maybe for another fault.
-/

namespace LocaleSite

namespace NavStep

theorem toItems_eq_map (steps : List NavStep) : toItems steps = steps.map toItem := by
  induction steps with
  | nil => rfl
  | cons step rest ih => rw [toItems, ih, List.map_cons]

end NavStep

namespace NavTree

theorem eq_of_items_eq {left right : NavTree} (same : left.items = right.items) :
    left = right := by
  cases left
  cases right
  cases same
  rfl

/-- The entries of one bar, then those of another. -/
instance : Append NavTree where
  append front back := ⟨front.items ++ back.items⟩

/-- The bar with one menu that holds the entries of a bar. -/
def inMenu (text : String) (activeMatch : Option String) (tree : NavTree) : NavTree :=
  ⟨[.group text tree.items activeMatch]⟩

variable {isPattern : String → Bool} {front back tree : NavTree} {text : String}
  {activeMatch : Option String}

/-! ## Bars side by side -/

@[simp]
theorem entries_append (front back : NavTree) :
    (front ++ back).entries = front.entries ++ back.entries := by
  change NavItem.descendantsOfAll (front.items ++ back.items) = _
  simp [entries, NavItem.descendantsOfAll_eq_flatMap]

theorem links_append (front back : NavTree) :
    (front ++ back).links = front.links ++ back.links := by
  simp [links]

theorem activeMatches_append (front back : NavTree) :
    (front ++ back).activeMatches = front.activeMatches ++ back.activeMatches := by
  simp [activeMatches]

theorem wellShaped_append_iff :
    (front ++ back).WellShaped ↔ front.WellShaped ∧ back.WellShaped := by
  simp only [wellShaped_iff, entries_append, List.forall_mem_append]

theorem validate_append_iff :
    (front ++ back).validate isPattern = .ok () ↔
      front.validate isPattern = .ok () ∧ back.validate isPattern = .ok () ∧
        front.links.Disjoint back.links := by
  simp only [validate_eq_ok_iff_lists, wellShaped_append_iff, links_append, activeMatches_append,
    List.nodup_append', List.forall_mem_append]
  constructor
  · rintro ⟨⟨frontShaped, backShaped⟩, ⟨frontDiffer, backDiffer, apart⟩, frontFit, backFit⟩
    exact ⟨⟨frontShaped, frontDiffer, frontFit⟩, ⟨backShaped, backDiffer, backFit⟩, apart⟩
  · rintro ⟨⟨frontShaped, frontDiffer, frontFit⟩, ⟨backShaped, backDiffer, backFit⟩, apart⟩
    exact ⟨⟨frontShaped, backShaped⟩, ⟨frontDiffer, backDiffer, apart⟩, frontFit, backFit⟩

/-! ## A bar in a menu -/

@[simp]
theorem entries_inMenu (text : String) (activeMatch : Option String) (tree : NavTree) :
    (tree.inMenu text activeMatch).entries = .group text tree.items activeMatch :: tree.entries := by
  simp [entries, inMenu, NavItem.descendantsOfAll, NavItem.descendants]

theorem links_inMenu (text : String) (activeMatch : Option String) (tree : NavTree) :
    (tree.inMenu text activeMatch).links = tree.links := by
  simp [links, List.filterMap_cons, NavItem.link?]

theorem activeMatches_inMenu (text : String) (activeMatch : Option String) (tree : NavTree) :
    (tree.inMenu text activeMatch).activeMatches = activeMatch.toList ++ tree.activeMatches := by
  cases activeMatch <;> simp [activeMatches, List.filterMap_cons, NavItem.activeMatch]

theorem wellShaped_inMenu_iff :
    (tree.inMenu text activeMatch).WellShaped ↔ tree.items ≠ [] ∧ tree.WellShaped := by
  simp [wellShaped_iff, NavItem.isFilled]

theorem validate_inMenu_iff :
    (tree.inMenu text activeMatch).validate isPattern = .ok () ↔
      tree.items ≠ [] ∧ (∀ pattern, activeMatch = some pattern → isPattern pattern = true) ∧
        tree.validate isPattern = .ok () := by
  simp only [validate_eq_ok_iff_lists, wellShaped_inMenu_iff, links_inMenu, activeMatches_inMenu,
    List.forall_mem_append, Option.mem_toList]
  constructor
  · rintro ⟨⟨filled, shaped⟩, differ, menuFit, fit⟩
    exact ⟨filled, menuFit, shaped, differ, fit⟩
  · rintro ⟨filled, menuFit, shaped, differ, fit⟩
    exact ⟨⟨filled, shaped⟩, differ, menuFit, fit⟩

/-! ## Runs of steps -/

theorem build_eq_ok_iff {steps : List NavStep} :
    build isPattern steps = .ok tree ↔
      tree = ⟨NavStep.toItems steps⟩ ∧ tree.validate isPattern = .ok () := by
  simp only [build, Outcome.unit_bind_eq_ok_iff, Outcome.pure_eq_ok_iff]
  constructor
  · rintro ⟨valid, rfl⟩
    exact ⟨rfl, valid⟩
  · rintro ⟨rfl, valid⟩
    exact ⟨valid, rfl⟩

theorem build_append_eq_ok_iff {left right : List NavStep} :
    build isPattern (left ++ right) = .ok tree ↔
      ∃ front back, build isPattern left = .ok front ∧ build isPattern right = .ok back ∧
        front.links.Disjoint back.links ∧ tree = front ++ back := by
  have joined : (⟨NavStep.toItems (left ++ right)⟩ : NavTree) =
      ⟨NavStep.toItems left⟩ ++ ⟨NavStep.toItems right⟩ := by
    simp only [NavStep.toItems_eq_map, List.map_append]
    rfl
  simp only [build_eq_ok_iff, joined]
  constructor
  · rintro ⟨rfl, valid⟩
    rcases validate_append_iff.1 valid with ⟨frontValid, backValid, apart⟩
    exact ⟨_, _, ⟨rfl, frontValid⟩, ⟨rfl, backValid⟩, apart, rfl⟩
  · rintro ⟨_, _, ⟨rfl, frontValid⟩, ⟨rfl, backValid⟩, apart, rfl⟩
    exact ⟨rfl, validate_append_iff.2 ⟨frontValid, backValid, apart⟩⟩

theorem build_group_eq_ok_iff {steps : List NavStep} :
    build isPattern [.group text activeMatch steps] = .ok tree ↔
      steps ≠ [] ∧ (∀ pattern, activeMatch = some pattern → isPattern pattern = true) ∧
        ∃ inner, build isPattern steps = .ok inner ∧ tree = inner.inMenu text activeMatch := by
  have wrapped : (⟨NavStep.toItems [.group text activeMatch steps]⟩ : NavTree) =
      inMenu text activeMatch ⟨NavStep.toItems steps⟩ := rfl
  have filled : NavStep.toItems steps ≠ [] ↔ steps ≠ [] := by
    simp [NavStep.toItems_eq_map]
  simp only [build_eq_ok_iff, wrapped]
  constructor
  · rintro ⟨rfl, valid⟩
    rcases validate_inMenu_iff.1 valid with ⟨hasItems, menuFit, innerValid⟩
    exact ⟨filled.1 hasItems, menuFit, _, ⟨rfl, innerValid⟩, rfl⟩
  · rintro ⟨hasSteps, menuFit, _, ⟨rfl, innerValid⟩, rfl⟩
    exact ⟨rfl, validate_inMenu_iff.2 ⟨filled.2 hasSteps, menuFit, innerValid⟩⟩

/-- A run of steps makes a bar when each of two parts does and they share no link; a menu of a run,
when the run makes a bar and the menu has entries and a pattern in order. So a run is refused after
any of its first steps are. -/
theorem build_compositional (isPattern : String → Bool) :
    (∀ left right tree, build isPattern (left ++ right) = .ok tree ↔
      ∃ front back, build isPattern left = .ok front ∧ build isPattern right = .ok back ∧
        (∀ link ∈ front.links, link ∉ back.links) ∧ tree.items = front.items ++ back.items ∧
        tree.links = front.links ++ back.links ∧
        tree.activeMatches = front.activeMatches ++ back.activeMatches) ∧
    (∀ text activeMatch steps tree, build isPattern [.group text activeMatch steps] = .ok tree ↔
      steps ≠ [] ∧ (∀ pattern, activeMatch = some pattern → isPattern pattern = true) ∧
        ∃ inner, build isPattern steps = .ok inner ∧
          tree.items = [.group text inner.items activeMatch] ∧ tree.links = inner.links) ∧
    ∀ first steps, first <+: steps → (∃ error, build isPattern first = .error error) →
      ∃ error, build isPattern steps = .error error := by
  refine ⟨?_, ?_, ?_⟩
  · intro left right tree
    rw [build_append_eq_ok_iff]
    constructor
    · rintro ⟨front, back, frontBuilt, backBuilt, apart, rfl⟩
      have unshared : ∀ link ∈ front.links, link ∉ back.links :=
        fun link inFront inBack => apart inFront inBack
      exact ⟨front, back, frontBuilt, backBuilt, unshared, rfl, links_append front back,
        activeMatches_append front back⟩
    · rintro ⟨front, back, frontBuilt, backBuilt, unshared, items_eq, _, _⟩
      exact ⟨front, back, frontBuilt, backBuilt, fun link => unshared link,
        eq_of_items_eq items_eq⟩
  · intro text activeMatch steps tree
    rw [build_group_eq_ok_iff]
    constructor
    · rintro ⟨filled, menuFit, inner, built, rfl⟩
      exact ⟨filled, menuFit, inner, built, rfl, links_inMenu text activeMatch inner⟩
    · rintro ⟨filled, menuFit, inner, built, items_eq, _⟩
      exact ⟨filled, menuFit, inner, built, eq_of_items_eq items_eq⟩
  · rintro first _ ⟨rest, rfl⟩ refused
    rw [Outcome.exists_error_iff] at refused ⊢
    rintro ⟨tree, built⟩
    rcases build_append_eq_ok_iff.1 built with ⟨front, _, frontBuilt, _⟩
    exact refused ⟨front, frontBuilt⟩

/-- A link, and a menu in a menu. -/
def docsSteps : List NavStep :=
  [.link "Home" "/", .group "Docs" (some "/docs/") [.group "Guide" none [.link "Start" "/start"]]]

theorem build_compositional_docsSteps :
    (∃ tree front back, build (fun _ => true) (docsSteps ++ [.link "News" "/news"]) = .ok tree ∧
      build (fun _ => true) docsSteps = .ok front ∧
      build (fun _ => true) [.link "News" "/news"] = .ok back ∧
      tree.links = front.links ++ back.links) ∧
    (∃ tree inner, build (fun _ => true) [.group "Site" none docsSteps] = .ok tree ∧
      build (fun _ => true) docsSteps = .ok inner ∧ tree.links = inner.links) ∧
    docsSteps ++ [.link "Again" "/start"] <+:
      docsSteps ++ [.link "Again" "/start", .group "Later" none []] ∧
    build (fun _ => true) (docsSteps ++ [.link "Again" "/start"]) =
      .error (.duplicateLink "/start") ∧
    ∃ error, build (fun _ => true)
      (docsSteps ++ [.link "Again" "/start", .group "Later" none []]) = .error error := by
  have compositional := build_compositional fun _ => true
  have isFirst : docsSteps ++ [.link "Again" "/start"] <+:
      docsSteps ++ [.link "Again" "/start", .group "Later" none []] :=
    ⟨[.group "Later" none []], rfl⟩
  rcases (compositional.1 docsSteps [.link "News" "/news"] _).1 rfl with
    ⟨front, back, frontBuilt, backBuilt, _, _, sameLinks, _⟩
  rcases (compositional.2.1 "Site" none docsSteps _).1 rfl with ⟨_, _, inner, built, _, menuLinks⟩
  exact ⟨⟨_, front, back, rfl, frontBuilt, backBuilt, sameLinks⟩,
    ⟨_, inner, rfl, built, menuLinks⟩, isFirst, rfl, compositional.2.2 _ _ isFirst ⟨_, rfl⟩⟩

end NavTree

end LocaleSite
