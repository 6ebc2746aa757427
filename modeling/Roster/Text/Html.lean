import Roster.Text.Basic

/-!
# Texts inside HTML

The five characters that mean something in HTML are written as character references, so that any text
can stand between tags or in a quoted attribute.
-/

namespace Roster.Text

/-- A byte as it stands in HTML. -/
def escapeByte (b : UInt8) : Text :=
  if b == byte '&' then "&amp;"
  else if b == byte '<' then "&lt;"
  else if b == byte '>' then "&gt;"
  else if b == byte '"' then "&#34;"
  else if b == byte '\'' then "&#39;"
  else [b]

/-- A text as it stands in HTML. -/
def escapeHtml (t : Text) : Text := t.flatMap escapeByte

end Roster.Text
