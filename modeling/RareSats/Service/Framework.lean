/-
# The framework of the service

Reading the settings, leading a request to what the service has to offer, and answering
the requests that lead to nothing, are left to a framework. The service takes it as it is
given (`Framework`). The framework at hand knows a path with a slash at its end and
without, takes methods letter by letter, and has pages of its own.

Key definitions: `HttpRequest`, `HttpResponse`, `Route`, `Framework`,
`Framework.standard`.
-/
import RareSats.Rpc
import RareSats.Service.Settings

namespace RareSats

/-- A request to the service. -/
structure HttpRequest where
  method : String
  path : String
  body : List UInt8
deriving DecidableEq, Repr

/-- A response of the service. -/
inductive HttpResponse where
  | status (code : Nat) (body : Json)
  /-- What is at a path: a page of the framework, or the way to the path that is known. -/
  | redirect (path : String)
  /-- No response could be made to a call. -/
  | crash (reply : Rpc.Reply)

/-- What the service has to offer. -/
inductive Route where
  | calls
  | health
deriving DecidableEq, Repr

/-- What is not up to the service. -/
class Framework where
  /-- The settings in an environment. -/
  settings : Environment → Checked Settings
  /-- Why no service is made with some settings, if none is. -/
  refusal? : Settings → Option Error
  /-- What a request leads to, by its method and its path. -/
  route? : (method path : String) → Option Route
  /-- The response to a request that leads to nothing. -/
  page : Settings → HttpRequest → HttpResponse

namespace Framework

/-- A name is asked for. -/
def titleFault? (settings : Settings) : Option Error :=
  if settings.appName.points.isEmpty then some .untitled else none

/-- What is offered at a path, and the method to ask for it. A line end after the path does not
count. -/
def offerAt? (path : String) : Option (String × Route) :=
  if path = "/" ∨ path = "/\n" then some ("POST", .calls)
  else if path = "/health" ∨ path = "/health\n" then some ("GET", .health)
  else none

/-- What a request leads to. -/
def offered? (method path : String) : Option Route :=
  (offerAt? path).bind fun offer => if method = offer.1 then some offer.2 else none

/-- The paths of pages about the service. -/
def pages : List String :=
  ["/openapi.json", "/docs", "/docs/oauth2-redirect", "/redoc"]

/-- There is a page at a path. -/
def hasPage (path : String) : Bool :=
  pages.any fun page => path = page || path = page ++ "\n"

/-- The path with a slash at its end if it has none, and else without the slashes there. -/
def otherEnding (path : String) : String :=
  let cs := path.toList
  if cs.getLast? = some '/' then String.ofList (cs.reverse.dropWhile (· = '/')).reverse
  else path ++ "/"

/-- The response with a short explanation. -/
def explain (code : Nat) (detail : String) : HttpResponse :=
  .status code (.ofMembers [("detail", .ofString detail)])

/-- The response to a request that leads to nothing that the service has to offer. -/
def pageOf (request : HttpRequest) : HttpResponse :=
  let path := request.path
  if hasPage path ∧ (request.method = "GET" ∨ request.method = "HEAD") then .redirect path
  else if hasPage path ∨ (offerAt? path).isSome then explain 405 "Method Not Allowed"
  else
    let other := otherEnding path
    if hasPage other ∨ (offerAt? other).isSome then .redirect other
    else explain 404 "Not Found"

/-- The framework at hand. -/
instance standard : Framework where
  settings := Settings.read
  refusal? := titleFault?
  route? := offered?
  page _ := pageOf

end Framework

end RareSats
