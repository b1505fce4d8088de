/-!
# Lines for a terminal

What is written about a run are lines with a style each. Styles are colours, and only shown where
colours are wanted.
-/

namespace LocaleSite

/-- How a line is shown. -/
inductive Style where
  | plain
  | success
  | warning
  | error
  | highlight
deriving DecidableEq, Repr

/-- A line of text with a style. -/
structure StyledLine where
  style : Style
  text : String
deriving DecidableEq, Repr

/-- The codes that begin a style: green, yellow, red, or bold cyan. -/
def Style.codes : Style → List String
  | .plain => []
  | .success => ["\x1b[32m"]
  | .warning => ["\x1b[33m"]
  | .error => ["\x1b[31m"]
  | .highlight => ["\x1b[36m", "\x1b[1m"]

namespace StyledLine

/-- The line with its line end; in colour, the codes stand around its text. -/
def render (coloured : Bool) (line : StyledLine) : String :=
  let codes := line.style.codes
  if coloured && !codes.isEmpty then String.join codes ++ line.text ++ "\x1b[0m\n"
  else line.text ++ "\n"

def renderAll (coloured : Bool) (lines : List StyledLine) : String :=
  String.join (lines.map (render coloured))

end StyledLine

end LocaleSite
