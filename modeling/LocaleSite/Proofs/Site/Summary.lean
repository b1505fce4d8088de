import LocaleSite.Proofs.Site.Acceptance
import LocaleSite.Site.Summary

/-!
# The locales that a summary lists

Each locale has a highlighted line in the summary of its site, with its key in brackets. A key has
no blanks, so it ends at the bracket before the first blank, whatever the texts of the locale are.
-/

namespace LocaleSite

namespace Site

/-- What stands in brackets at the front of a text, up to its first blank. -/
def bracketed (text : String) : String :=
  String.ofList ((text.toList.drop 1).takeWhile (· != ' ')).dropLast

end Site

end LocaleSite
