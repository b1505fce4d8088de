import LocaleSite.Proofs.Locale.Build

/-!
# A locale built at two dates

The date goes into the text of the first entry of the navigation bar. A text matters to a bar only
where the entry is at fault for being empty, so one and the same locale is built at both dates up
to that text, or the same fault is found up to that text.
-/

namespace LocaleSite

namespace NavTree

/-- Two bars that begin with a menu and differ in nothing but its text. -/
inductive Retitled (leftText rightText : String) : NavTree → NavTree → Prop where
  | intro (items : List NavItem) (activeMatch : Option String) (others : List NavItem) :
      Retitled leftText rightText ⟨.group leftText items activeMatch :: others⟩
        ⟨.group rightText items activeMatch :: others⟩

theorem Retitled.links_eq {leftText rightText : String} {left right : NavTree}
    (retitled : Retitled leftText rightText left right) :
    left.links = right.links := by
  cases retitled
  rfl

theorem Retitled.activeMatches_eq {leftText rightText : String} {left right : NavTree}
    (retitled : Retitled leftText rightText left right) :
    left.activeMatches = right.activeMatches := by
  cases retitled
  rfl

/-- Of two such bars both are valid, or both have the same fault unless the menu is empty. -/
theorem validate_related (isPattern : String → Bool) (leftText rightText : String)
    (items : List NavItem) (activeMatch : Option String) (others : List NavItem) :
    Outcome.Related
      (fun left right => left = right ∨
        items = [] ∧ left = .noLinkOrChildren leftText ∧ right = .noLinkOrChildren rightText)
      Eq (validate isPattern ⟨.group leftText items activeMatch :: others⟩)
      (validate isPattern ⟨.group rightText items activeMatch :: others⟩) := by
  have retitled : Retitled leftText rightText _ _ := .intro items activeMatch others
  rw [validate_eq, validate_eq, retitled.links_eq, retitled.activeMatches_eq]
  by_cases empty : items = []
  · subst empty
    exact .error (.inr ⟨rfl, rfl, rfl⟩)
  · apply Outcome.Related.of_eq (fun error => .inl rfl)
    simp [entries, NavItem.descendantsOfAll, NavItem.descendants, NavItem.isFilled, empty]

end NavTree

namespace LocaleLabels

variable {labels : LocaleLabels} {isPattern : String → Bool}

/-- The faults are the same, or both are that the dated menu has no entries. -/
def FaultsAlike (labels : LocaleLabels) (first second : Date) (left right : LocaleError) : Prop :=
  left = right ∨ labels.nav.group.pages = [] ∧
    left = .nav (.noLinkOrChildren (labels.groupText first)) ∧
    right = .nav (.noLinkOrChildren (labels.groupText second))

/-- The locales of the labels at two dates: they differ in nothing but the text of the first entry
of the bar, which tells the date. -/
structure BlocksAlike (labels : LocaleLabels) (first second : Date) (left right : LocaleBlock) :
    Prop where
  id_eq : left.id = labels.id
  rest_eq : right = { left with nav := right.nav }
  retitled : NavTree.Retitled (labels.nav.group.text ++ "(" ++ first.toText ++ ")")
    (labels.nav.group.text ++ "(" ++ second.toText ++ ")") left.nav right.nav

theorem buildNav_related (first second : Date) :
    Outcome.Related (labels.FaultsAlike first second)
      (NavTree.Retitled (labels.groupText first) (labels.groupText second))
      (labels.buildNav isPattern first) (labels.buildNav isPattern second) := by
  have same : ∀ error, labels.FaultsAlike first second error error := fun error => .inl rfl
  apply (Outcome.Related.of_eq same rfl).bind
  rintro root _ rfl
  apply (Outcome.Related.of_eq same rfl).bind
  rintro links _ rfl
  have checked := NavTree.validate_related isPattern (labels.groupText first)
    (labels.groupText second)
    (labels.nav.group.pages.map fun page => .leaf page.text (root ++ page.page) none) (some root)
    (links ++ labels.nav.extra)
  refine (checked.mapError ?_).bind ?_
  · rintro left right (rfl | ⟨noEntries, rfl, rfl⟩)
    · exact same _
    · exact .inr ⟨List.map_eq_nil_iff.1 noEntries, rfl, rfl⟩
  · intro _ _ _
    exact .ok (.intro _ _ _)

theorem build_related (first second : Date) :
    Outcome.Related (labels.FaultsAlike first second) (labels.BlocksAlike first second)
      (labels.build isPattern first) (labels.build isPattern second) := by
  apply (buildNav_related first second).bind
  intro leftNav rightNav retitled
  apply (Outcome.Related.of_eq (fun error => .inl rfl) rfl).bind
  rintro sidebar _ rfl
  exact .ok ⟨rfl, rfl, retitled⟩

end LocaleLabels

end LocaleSite
