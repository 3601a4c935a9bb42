/-
# Remote calls

A call comes as bytes and is answered by a JSON object that repeats the identifier
of the call and brings either a result or an error. The first stage that fails
decides: reading the bytes, checking the call, finding the method, checking its
parameters, and resolving the references. An error that is not for the caller is no
reply, and neither is a reply that has no encoding.

All stages but the last one settle the reply or demand that references be resolved.
These are resolved with the curated intervals at hand or over a table of them.

Key definitions: `Rpc.Reply`, `Rpc.Demand`, `Rpc.demandOf`, `Rpc.answer`,
`Rpc.answerOn`.
-/
import RareSats.Json.Reader
import RareSats.Query.Tabled
import RareSats.Wire.Request
import RareSats.Wire.Result

namespace RareSats.Rpc

/-- What becomes of a call. -/
inductive Reply where
  | body (json : Json)
  /-- The reply would hold a surrogate, or too many levels. -/
  | unencodable
  /-- An error that is not for the caller. -/
  | fault (error : Error)

/-- The code of bytes that are not JSON. -/
def notJson : Int := -32700

/-- The code of JSON that is no call. -/
def invalidRequest : Int := -32600

/-- The code of a method that is not there. -/
def methodNotFound : Int := -32601

/-- The code of parameters that cannot be answered. -/
def invalidParams : Int := -32602

/-- The reply with given members. -/
def send [Platform] (members : List (String × Json)) : Reply :=
  if members.all fun m => Platform.encodes m.2 then .body (.ofMembers members) else .unencodable

/-- The reply with a result. -/
def success [Platform] (id result : Json) : Reply :=
  send [("jsonrpc", .ofString "2.0"), ("id", id), ("result", result)]

/-- The reply with an error. -/
def failure [Platform] (id : Json) (code : Int) (message : Text) : Reply :=
  send [
    ("jsonrpc", .ofString "2.0"),
    ("id", id),
    ("error", .ofMembers [("code", .int code), ("message", .str message)])]

/-- The wording of the first of some issues with the parameters. -/
def paramsMessage (issues : List Issue) : String :=
  "invalid getSatRanges params: " ++ ((issues.head?.map (·.cause.message)).getD "")

/-- What a call demands. -/
inductive Demand where
  /-- The reply is settled without a lookup. -/
  | settled (reply : Reply)
  /-- The references of a query with an identifier are to be resolved. -/
  | ranges (id : Json) (references : List Text)

/-- What a query for sat ranges demands. -/
def satRanges [Platform] (id params : Json) : Demand :=
  match checkQueryRequest params with
  | .error issues => .settled (failure id invalidParams (paramsMessage issues))
  | .ok query => .ranges id query.references

/-- What a call that was checked demands. -/
def dispatch [Platform] (request : Request) : Demand :=
  let id := requestIdToJson request.id
  if request.method = .ofString "getHealth" then .settled (success id (.ofString "OK"))
  else if request.method = .ofString "getSatRanges" then satRanges id request.params
  else .settled (failure id methodNotFound (Text.ofString "Method not found: " ++ request.method))

/-- What a JSON value demands. -/
def demandOfJson [Platform] (payload : Json) : Demand :=
  match checkRequest payload with
  | .ok request => dispatch request
  | .error _ =>
    let id := ((payload.member? "id").getD .null).finiteOnly
    .settled (failure id invalidRequest "Invalid request")

/-- What the bytes of a call demand. -/
def demandOf [Platform] (bytes : List UInt8) : Demand :=
  match Json.readBytes Platform.callDepth bytes with
  | .ok payload => demandOfJson payload
  | .error (.tooDeep isArray) => .settled (.fault (.unreadableNesting isArray))
  | .error _ => .settled (failure .null notJson "Parse error")

/-- The reply that tells what became of the references of a query. -/
def replyTo [Platform] (id : Json) : Except Error (List ReferenceResult) → Reply
  | .error e => if e.isReportable then failure id invalidParams e.message else .fault e
  | .ok results => success id (resultsToJson results)

/-- The reply to a demand, and the lookups made for it. -/
def Demand.meet [Platform] (source : SatSource) : Demand → List Lookup × Reply
  | .settled reply => ([], reply)
  | .ranges id references =>
    let run := resolveAll source references
    (run.lookups, replyTo id run.outcome)

theorem Demand.meet_settled [Platform] (source : SatSource) (reply : Reply) :
    ((Demand.settled reply).meet source).2 = reply := rfl

/-- The reply to the bytes of a call, and the lookups made for it. -/
def answer [Platform] (source : SatSource) (bytes : List UInt8) : List Lookup × Reply :=
  (demandOf bytes).meet source

/-- The reply to the bytes of a call over a table, and the table after it. -/
def answerOn [Platform] (source : SatSource) (bytes : List UInt8) (t : RangeTable) :
    Reply × RangeTable :=
  match demandOf bytes with
  | .settled reply => (reply, t)
  | .ranges id references =>
    let (run, left) := resolveAllOn source references t
    (replyTo id run.outcome, left)

end RareSats.Rpc
