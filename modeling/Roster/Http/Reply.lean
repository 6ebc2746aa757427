import Roster.Call
import Roster.Http.Header
import Roster.Http.Target
import Roster.Json.Value
import Roster.Text.Html

/-!
# Requests and replies

A handler answers a request with a status and header fields; it writes the body piece by piece while it
runs, and each piece may fail to be written.
-/

namespace Roster.Http

/-- A request. -/
structure Request where
  method : Text
  /-- The target as it was sent. -/
  rawTarget : Text
  target : Target
  headers : List Field := []
  body : Text := []
  /-- The address of the client. -/
  remote : Text := []

/-- Status and header fields of an answer; the body has been written already. A later field replaces
an earlier one of the same name, except that cookies add up. -/
structure Reply where
  status : Nat
  headers : List Field := []
deriving Repr

/-- Writes a piece of the body. -/
def write (piece : Text) : Act (Except Fault Unit) := Act.ask (.write piece)

/-- The words for a status. -/
def statusText (status : Nat) : Text :=
  match status with
  | 307 => "Temporary Redirect"
  | 405 => "Method Not Allowed"
  | 500 => "Internal Server Error"
  | _ => []

/-- Answers with JSON. -/
def json (status : Nat) (v : Json) : Act Reply := do
  match ← write (v.render ++ [10]) with
  | .ok _ => pure ()
  | .error f => Act.log .error "write JSON response" [("error", .fault f)]
  pure { status, headers := [⟨"Content-Type", "application/json"⟩] }

/-- Answers with an error in JSON. -/
def jsonError (status : Nat) (message : Text) : Act Reply :=
  json status (.object [("error", .string message)])

/-- Answers with an error in plain text. -/
def plainError (status : Nat) (message : Text) : Act Reply := do
  let _ ← write (message ++ [10])
  pure { status
         headers := [⟨"Content-Type", "text/plain; charset=utf-8"⟩, ⟨"X-Content-Type-Options", "nosniff"⟩] }

/-- Answers that there is nothing at a path. -/
def notFound : Act Reply := plainError 404 "404 page not found"

/-- Bytes beyond ASCII by their codes. -/
def asciiOnly (t : Text) : Text :=
  t.flatMap fun b => if b < 128 then [b] else Text.byte '%' :: Text.hex 2 b.toNat

/-- Sends the client to another address. Only the answer to a GET has a body. -/
def redirect (method location : Text) : Act Reply := do
  let there : Field := ⟨"Location", asciiOnly location⟩
  let html : Field := ⟨"Content-Type", "text/html; charset=utf-8"⟩
  if method == utf8 "GET" then
    let _ ← write (utf8 "<a href=\"" ++ Text.escapeHtml location ++ utf8 "\">" ++ statusText 307
      ++ utf8 "</a>.\n\n")
    pure { status := 307, headers := [there, html] }
  else if method == utf8 "HEAD" then pure { status := 307, headers := [there, html] }
  else pure { status := 307, headers := [there] }

/-- Answers with what a fault means to a client. Faults of no telling kind are logged and answered
without detail. -/
def faultReply (requestId activity : Text) (f : Fault) : Act Reply := do
  if f.has .invalidInput then jsonError 400 f.message
  else if f.has .notFound then jsonError 404 f.message
  else if f.has .unauthorized then jsonError 401 "Unauthorized."
  else if f.has .forbidden then jsonError 403 "Forbidden."
  else
    Act.log .error activity [("error", .fault f), ("request_id", .text requestId)]
    jsonError 500 "An unexpected error occurred. Please try again."

end Roster.Http
