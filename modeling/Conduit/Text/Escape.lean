import Conduit.Text.Hex
import Conduit.Text.Repertoire

/-!
# Quoted Text

Text in double quotes, as printed structures show it. The quote and the
backslash are escaped, four controls have short names, and every character that
would not show, or would join the one before it, is written as its code point in
braces.

## Main definitions

* `Escape.quoted`: A text in quotes.
* `Escape.listed`: Several quoted texts in brackets.
-/

namespace Conduit.Escape

/-- One character as it stands between quotes. -/
def char (c : Char) : String :=
  if c == '\x00' then "\\0"
  else if c == '\t' then "\\t"
  else if c == '\r' then "\\r"
  else if c == '\n' then "\\n"
  else if c == '"' then "\\\""
  else if c == '\\' then "\\\\"
  else if Repertoire.isPrintable c && !Repertoire.isExtending c then c.toString
  else s!"\\u\x7b{Hex.ofNat c.toNat}\x7d"

/-- A text in quotes. -/
def quoted (text : String) : String :=
  "\"" ++ String.join (text.toList.map char) ++ "\""

/-- Several quoted texts in brackets. -/
def listed (texts : List String) : String :=
  "[" ++ ", ".intercalate (texts.map quoted) ++ "]"

end Conduit.Escape
