import LogSql.Files.Path
import LogSql.Http.Message

/-!
Paths without detours, and responses that send a client elsewhere.
-/
namespace LogSql.Http

/-- A path without detours that starts with a slash; one at its end is kept. -/
def cleanPath (t : Text) : Text :=
  let path := Text.byte '/' :: Text.join "/" (Path.names (Text.byte '/' :: t))
  if path.length > 1 ∧ t.getLast? = some (Text.byte '/') then path ++ "/" else path

/-- The text of a status of redirection. -/
def redirectName : Nat → Text
  | 302 => "Found"
  | _ => "Temporary Redirect"

/-- A byte as it stands in markup. -/
def markupByte (b : UInt8) : Text :=
  if b = Text.byte '&' then "&amp;"
  else if b = Text.byte '<' then "&lt;"
  else if b = Text.byte '>' then "&gt;"
  else if b = Text.byte '"' then "&#34;"
  else if b = Text.byte '\'' then "&#39;"
  else [b]

/-- Sends a client elsewhere; a request that only reads gets a page about it. -/
def redirect (method target : Text) (status : Nat) : Response :=
  let page : Text :=
    .concat ["<a href=\"", target.flatMap markupByte, "\">", redirectName status, "</a>.\n\n"]
  let isRead := method ∈ (["GET", "HEAD"] : List Text)
  { status
    headers := ("Location", target) ::
      (if isRead then [("Content-Type", "text/html; charset=utf-8")] else [])
    body := if method = "GET" then page else [] }

/-- The response where nothing is. -/
def missing : Response :=
  { status := 404, headers := [("Content-Type", "text/plain; charset=utf-8")]
    body := "404 page not found\n" }

end LogSql.Http
