import LocaleSite.Command.Output
import LocaleSite.Site.PageGaps

/-!
# The summary of a site

What a check shows of a site: its title, each locale with the sizes of its navigation bar and
sidebar sections, a warning for each gap, and the number of locales and gaps.
-/

namespace LocaleSite

namespace Site

/-- A line of equals signs. -/
def separator : StyledLine := ⟨.plain, String.ofList (List.replicate 70 '=')⟩

def localeLines (key : String) (block : LocaleBlock) : List StyledLine :=
  ⟨.highlight, s!"[{key}] {block.label} ({block.lang})"⟩ ::
    ⟨.plain, s!"  nav: {block.nav.size} entries, {block.nav.links.length} links"⟩ ::
    block.sidebar.toList.map fun entry =>
      ⟨.plain, s!"  sidebar {entry.base}: {entry.items.length} pages"⟩

def gapLine (gap : PageGap) : StyledLine := ⟨.warning, s!"Warning: {gap.message}"⟩

/-- The last line: how many locales and gaps there are. -/
def totalLine (site : Site) : StyledLine :=
  ⟨.success, s!"Composed {site.locales.size} locales ({site.pageGaps.length} page differences)"⟩

def summary (site : Site) : List StyledLine :=
  [separator, ⟨.highlight, s!"{site.base.title} ({site.base.base})"⟩, separator] ++
    site.locales.entries.flatMap (fun entry => localeLines entry.1 entry.2) ++
    site.pageGaps.map gapLine ++ [site.totalLine]

end Site

end LocaleSite
