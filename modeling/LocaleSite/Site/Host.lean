import LocaleSite.Nav.Encoding
import LocaleSite.Sidebar.Encoding
import LocaleSite.Site

/-!
# The renderer's view of a site

The renderer reads theme settings from a `themeConfig` of its own, for the site and for each
locale, and takes each section of a sidebar as a list of one collapsible group.
-/

namespace LocaleSite

/-- A section as the renderer takes it: its base and a list of one group. -/
def SidebarSection.hostValue (entry : SidebarSection) : Value :=
  .table [("base", .string entry.base), ("items", .list [.table [("text", .string entry.text),
    ("collapsed", .bool entry.collapsed), ("items", .list (entry.items.map SidebarItem.toValue))]])]

/-- A sidebar as the renderer takes it: a table of its sections by base. -/
def Sidebar.hostValue (sidebar : Sidebar) : Value :=
  .table ((KeyMap.ofList (sidebar.toList.map fun entry => (entry.base, entry.hostValue))).entries)

def LocaleBlock.hostTheme (block : LocaleBlock) : Value :=
  .ofFields [("nav", some block.nav.toValue), ("sidebar", some block.sidebar.hostValue),
    ("editLink", block.editLink.map EditLink.toValue), ("footer", block.footer.map Footer.toValue)]

def LocaleBlock.hostValue (block : LocaleBlock) : Value :=
  .ofFields [("label", some (.string block.label)), ("lang", some (.string block.lang)),
    ("title", block.title.map .string), ("description", some (.string block.description)),
    ("themeConfig", some block.hostTheme)]

def BaseConfig.hostTheme (base : BaseConfig) : Value :=
  .table [("socialLinks", .list (base.socialLinks.map SocialLink.toValue)),
    ("search", base.search.toValue)]

def Site.hostValue (site : Site) : Value :=
  .ofFields [("base", some (.string site.base.base)), ("title", some (.string site.base.title)),
    ("description", site.base.description.map .string),
    ("lastUpdated", some (.bool site.base.lastUpdated)),
    ("cleanUrls", some (.bool site.base.cleanUrls)),
    ("metaChunk", some (.bool site.base.metaChunk)), ("themeConfig", some site.base.hostTheme),
    ("locales", some (.table (site.locales.entries.map fun entry => (entry.1, entry.2.hostValue))))]

end LocaleSite
