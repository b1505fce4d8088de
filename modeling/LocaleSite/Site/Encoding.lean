import LocaleSite.Nav.Encoding
import LocaleSite.Sidebar.Encoding
import LocaleSite.Site

/-!
# Composed sites in documents

The site as a document value, with all that it holds but which of its locales is the root, which
the key `root` tells.
-/

namespace LocaleSite

def LocaleBlock.toValue (block : LocaleBlock) : Value :=
  .ofFields [("id", some (.string block.id)), ("label", some (.string block.label)),
    ("lang", some (.string block.lang)), ("description", some (.string block.description)),
    ("title", block.title.map .string), ("nav", some block.nav.toValue),
    ("sidebar", some block.sidebar.toValue), ("edit_link", block.editLink.map EditLink.toValue),
    ("footer", block.footer.map Footer.toValue)]

def Site.localesValue (site : Site) : Value :=
  .table (site.locales.entries.map fun entry => (entry.1, entry.2.toValue))

/-- A site as a document value: its settings and its locales side by side. -/
def Site.toValue (site : Site) : Value :=
  .ofFields (site.base.fields ++ [("locales", some site.localesValue)])

end LocaleSite
