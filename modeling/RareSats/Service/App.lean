/-
# The service

The service is started in an environment, which may name a file with a snapshot. It
answers calls and tells of its state, and leaves other requests to its framework. The
only state that changes is the table of curated intervals: it is built from the start if
the settings say so, and else by the first report.

Key definitions: `App`, `App.openTable`, `App.start`, `App.health`, `App.respond`,
`App.serve`.
-/
import RareSats.Index.Load
import RareSats.Service.Files
import RareSats.Service.Framework

namespace RareSats

/-- The service. -/
structure App where
  settings : Settings
  logLevel : LogLevel
  index : SatIndex
  table : RangeTable

/-- Why the service does not start. -/
inductive StartError where
  | invalidSettings (issues : List Issue)
  | snapshotFailed (error : LoadError)
  | rejected (error : Error)

namespace App

/-- The version of the service. -/
def version : String := "0.1.0"

/-- The index of the snapshot in the file that the settings name. Without a name it is empty. -/
def loadIndex [Platform] (settings : Settings) (files : Files) : Except LoadError SatIndex :=
  if settings.indexPath.points.isEmpty then .ok .empty
  else
    match files.read settings.indexPath with
    | .ok (.json value) => SatIndex.ofJson value
    | .ok (.text content) => SatIndex.ofText content
    | .error e => .error (.rejected e)

/-- The table of curated intervals to start with, which is built now if the settings say so. -/
def openTable (settings : Settings) : Except Error RangeTable :=
  if settings.eagerRangeTables then
    match curatedTable.step .warm with
    | (.ok _, table) => .ok table
    | (.error e, _) => .error e
  else .ok curatedTable

/-- The service with the settings in an environment, over files. -/
def start [Platform] [Framework] (environment : Environment) (files : Files) :
    Except StartError App :=
  match Framework.settings environment with
  | .error issues => .error (.invalidSettings issues)
  | .ok settings =>
    match LogLevel.ofName settings.logLevel with
    | .error e => .error (.rejected e)
    | .ok level =>
      match loadIndex settings files with
      | .error e => .error (.snapshotFailed e)
      | .ok index =>
        match openTable settings with
        | .error e => .error (.rejected e)
        | .ok table =>
          match Framework.refusal? settings with
          | some e => .error (.rejected e)
          | none => .ok ⟨settings, level, index, table⟩

/-- The state of the service. -/
def health (app : App) : Json :=
  .ofMembers [
    ("status", .ofString "ok"),
    ("sat_index", .bool app.index.tracksSats),
    ("outputs", .ofNat app.index.outputCount),
    ("range_tables_built", .bool app.table.isBuilt),
    ("curated_kinds", .arr (app.table.kinds.map fun k => .ofString k.token))]

/-- The response that carries a reply. -/
def carry : Rpc.Reply → HttpResponse
  | .body json => .status 200 json
  | other => .crash other

/-- The response of a service to a call, and the service after it. -/
def respondCall [Platform] (app : App) (body : List UInt8) : HttpResponse × App :=
  let (reply, table) := Rpc.answerOn app.index.source body app.table
  (carry reply, { app with table := table })

/-- The response of a service to a request, and the service after it. -/
def respond [Platform] [Framework] (app : App) (request : HttpRequest) : HttpResponse × App :=
  match Framework.route? request.method request.path with
  | some .calls => app.respondCall request.body
  | some .health => (.status 200 app.health, app)
  | none => (Framework.page app.settings request, app)

/-- The responses to requests in their order. -/
def serve [Platform] [Framework] (app : App) : List HttpRequest → List HttpResponse
  | [] => []
  | request :: rest =>
    let (response, next) := app.respond request
    response :: serve next rest

end App

end RareSats
