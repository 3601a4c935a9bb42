/-
# Requests in transit

A request names a method and may bring parameters, and an identifier that the
reply repeats: an integer or a text. A query for sat ranges brings references.

Key definitions: `Request`, `checkRequest`, `Request.toJson`, `QueryRequest`,
`checkQueryRequest`.
-/
import RareSats.Wire.Platform

namespace RareSats

/-- An identifier as it is sent. -/
def requestIdToJson : Option RequestId → Json
  | none => .null
  | some (.number n) => .int n
  | some (.text t) => .str t

/-- The call of a method. -/
structure Request where
  id : Option RequestId
  method : Text
  params : Json

/-- The version of the protocol, which has one spelling. -/
def checkVersion : Json → Checked Unit
  | .str t =>
    match t.string? with
    | none => .fail .surrogate
    | some s => if s = "2.0" then .ok () else .fail .notVersion
  | _ => .fail .notVersion

/-- The call of a method. -/
def checkRequest [Platform] (j : Json) : Checked Request := do
  let members ← checkObject "JsonRpcRequest" j
  (optionalField members "jsonrpc" () checkVersion).both
      ((optionalField members "id" none Platform.requestId).both
        ((requiredField members "method" checkText).both
          (optionalField members "params" .null .ok)))
    |>.map fun (_, id, method, params) => ⟨id, method, params⟩

/-- The call of a method as it is sent, if its parameters can be. -/
def Request.toJson [Platform] (r : Request) : Except Error Json :=
  (Platform.sentValue r.params).map fun params =>
    .ofMembers [
      ("jsonrpc", .ofString "2.0"),
      ("id", requestIdToJson r.id),
      ("method", .str r.method),
      ("params", params)]

/-- A query for the sat ranges of references. -/
structure QueryRequest where
  references : List Text
deriving DecidableEq, Repr

/-- A query for the sat ranges of references. -/
def checkQueryRequest (j : Json) : Checked QueryRequest := do
  let members ← checkObject "RangeQueryRequest" j
  (requiredField members "references" (checkList checkText)).map .mk

/-- A query for the sat ranges of references as it is sent. -/
def QueryRequest.toJson (r : QueryRequest) : Json :=
  .ofMembers [("references", .arr (r.references.map .str))]

end RareSats
