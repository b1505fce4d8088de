import LocaleSite.Site

/-!
# Pages that a locale lacks

The sidebars of a site's locales are compared with that of its root locale. A `PageGap` is a page
listed in one of two sections that correspond and not in the other.
-/

namespace LocaleSite

/-- A page that the section at a base of one locale lists and its counterpart does not. -/
structure PageGap where
  base : String
  page : String
  /-- The key of the locale that lists the page. -/
  onlyIn : String
deriving DecidableEq, Repr

namespace PageGap

def message (gap : PageGap) : String := s!"{gap.base}{gap.page} is only listed in '{gap.onlyIn}'"

end PageGap

/-- The distinct pages of the section at a base, in ascending order; none without a section. -/
def Sidebar.pages (sidebar : Sidebar) (base : String) : List String :=
  match sidebar.get? base with
  | some entry => distinctAscending (entry.items.map (·.link))
  | none => []

namespace Site

/-- The base of the root locale that corresponds to a base of the locale with a key. -/
def rootBase (key base : String) : String :=
  let start := "/" ++ key
  if Route.startsWith base start then String.ofList (base.toList.drop start.toList.length) else base

/-- The gaps between two lists of pages: those of the locale with a key, then the root's. -/
def gapsBetween (key base rootBase : String) (pages rootPages : List String) : List PageGap :=
  (pages.filter fun page => !rootPages.contains page).map (⟨base, ·, key⟩) ++
    (rootPages.filter fun page => !pages.contains page).map (⟨rootBase, ·, LocaleBlock.rootKey⟩)

/-- The gaps at the sections of a locale. -/
def sectionGaps (root : Sidebar) (key : String) (sidebar : Sidebar) : List PageGap :=
  sidebar.toList.flatMap fun entry =>
    gapsBetween key entry.base (rootBase key entry.base) (sidebar.pages entry.base)
      (root.pages (rootBase key entry.base))

/-- The pages of the root's sections that have no counterpart in a locale. -/
def missingSections (root : Sidebar) (key : String) (sidebar : Sidebar) : List PageGap :=
  (root.toList.filter fun entry => (sidebar.get? ("/" ++ key ++ entry.base)).isNone).flatMap
    fun entry => entry.items.map fun item => ⟨entry.base, item.link, LocaleBlock.rootKey⟩

/-- The gaps between the root locale and every other one, in the order of their keys. -/
def pageGaps (site : Site) : List PageGap :=
  match site.root? with
  | none => []
  | some root =>
      (site.locales.entries.filter fun entry => entry.1 != LocaleBlock.rootKey).flatMap
        fun entry => sectionGaps root.sidebar entry.1 entry.2.sidebar ++
          missingSections root.sidebar entry.1 entry.2.sidebar

end Site

end LocaleSite
