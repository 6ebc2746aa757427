import Roster.Grouping
import Roster.Text.Html

/-!
# The roster as a page

One section for each role that somebody holds, in the order of the roles, and in it one list item for
each user. All texts that come from users are escaped.

The page is written in three pieces: what comes before the sections, the sections, and what comes
after them. The sections alone are also what the live update sends.
-/

namespace Roster.Page

/-- Where the page's script is loaded from. -/
def script : Text := "https://cdn.jsdelivr.net/gh/starfederation/datastar@1.0.0-RC.6/bundles/datastar.js"

/-- The list item of a user. -/
def item (u : User) : Text :=
  utf8 "<li id=\"user-" ++ User.key u.id ++ utf8 "\" class=\""
    ++ (if u.active then utf8 "active" else utf8 "inactive") ++ utf8 "\">"
    ++ Text.escapeHtml u.name ++ utf8 " &lt;" ++ Text.escapeHtml u.email ++ utf8 "&gt;</li>"

/-- The section of a role. -/
def sectionOf (role : Role) (users : List User) : Text :=
  utf8 "<section id=\"role-" ++ role.name ++ utf8 "\"><h2>" ++ Text.escapeHtml role.name
    ++ utf8 "</h2><p>" ++ Text.escapeHtml role.describe ++ utf8 "</p><ul>"
    ++ users.flatMap item ++ utf8 "</ul></section>"

/-- All sections. -/
def sections (g : Groups) : Text :=
  utf8 "<div id=\"roster\">"
    ++ (if g.isEmpty then utf8 "<p class=\"empty\">No users yet.</p>" else [])
    ++ (Role.all.flatMap fun role =>
      match g.get? role.name with
      | some users => sectionOf role users
      | none => [])
    ++ utf8 "</div>"

/-- What comes before the sections. -/
def head (viewer : Text) : Text :=
  utf8 "<!DOCTYPE html>\n<html lang=\"en\"><head><meta charset=\"utf-8\"><title>Roster</title>"
    ++ utf8 "<script type=\"module\" src=\"" ++ script ++ utf8 "\"></script>"
    ++ utf8 "</head><body data-signals=\"\x7bcount: 0, workers: 0\x7d\">"
    ++ utf8 "<header><h1>Roster</h1><p>Signed in as " ++ Text.escapeHtml viewer ++ utf8 "</p></header>"
    ++ utf8 "<button data-on-click=\"@get('/roster/stream')\">Refresh</button>"
    ++ utf8 "<p>Counter: <span id=\"counter\" data-text=\"$count\">0</span>"
    ++ utf8 " (<span data-text=\"$workers\">0</span> workers finished)</p>"

/-- What comes after the sections. -/
def tail : Text := "</body></html>"

/-- The pieces of the page, in the order in which they are written. -/
def pieces (viewer : Text) (g : Groups) : List Text := [head viewer, sections g, tail]

/-- The whole page. -/
def render (viewer : Text) (g : Groups) : Text := (pieces viewer g).flatten

end Roster.Page
