/-
# Histories of a service

What a service answers to a request does not depend on the requests before it, be they
calls that failed, bodies that are no calls, or paths that lead nowhere. The one
exception is the health of the service, which tells whether the table of curated
intervals is built, and nothing else that a request could change.

All of it holds on every platform, and in every framework that leads calls and requests
for the health to the service. The service only ever changes its table. Every request
leaves a table of the curated intervals, and has built it if it was a call whose
references came to a range of one block (`App.RunsFrom.respond`). So after any history
the table is built if it was from the start or if some request was such a call
(`App.runsFrom_after`).

Key definitions: `LawfulFramework`, `Rpc.Reaches`, `HttpRequest.Reaches`, `App.after`,
`App.RunsFrom`, `App.healthWith`.
Key theorems: `Rpc.answerOn_eq`, `App.RunsFrom.respond`, `App.RunsFrom.respond_eq`,
`App.serve_history`.
-/
import RareSats.Proofs.Response
import RareSats.Proofs.Tabled
import RareSats.Service.App

namespace RareSats

/-- A framework that leads calls, and requests for the health, to the service. -/
class LawfulFramework [Framework] : Prop where
  route?_post : Framework.route? "POST" "/" = some .calls
  route?_get : Framework.route? "GET" "/health" = some .health

instance LawfulFramework.standard : @LawfulFramework .standard where
  route?_post := rfl
  route?_get := rfl

/-! ### Calls -/

namespace Rpc

section

variable [Platform] {source : SatSource} {bytes : List UInt8} {t : RangeTable}

/-- The bytes are a query, and resolving its references comes to a range of one block. -/
def Reaches (source : SatSource) (bytes : List UInt8) : Prop :=
  ∃ payload request references, Json.readBytes Platform.callDepth bytes = .ok payload ∧
    checkRequest payload = .ok request ∧ AsksFor request references ∧ source.Reaches references

theorem dispatch_eq_ranges_iff {request : Request} {id : Json} {references : List Text} :
    dispatch request = .ranges id references ↔
      AsksFor request references ∧ id = requestIdToJson request.id := by
  constructor
  · intro h
    by_cases hmethod : request.method = .ofString "getSatRanges"
    · rw [dispatch_of_ranges hmethod, satRanges] at h
      cases hparams : checkQueryRequest request.params with
      | error issues => simp [hparams] at h
      | ok query =>
        simp only [hparams, Demand.ranges.injEq] at h
        obtain ⟨rfl, rfl⟩ := h
        exact ⟨⟨hmethod, hparams⟩, rfl⟩
    · unfold dispatch at h
      by_cases hhealth : request.method = .ofString "getHealth"
      · simp [hhealth] at h
      · simp [hhealth, hmethod] at h
  · rintro ⟨hasks, rfl⟩
    exact dispatch_of_asksFor hasks

theorem demandOf_eq_ranges_iff {id : Json} {references : List Text} :
    demandOf bytes = .ranges id references ↔
      ∃ payload request, Json.readBytes Platform.callDepth bytes = .ok payload ∧
        checkRequest payload = .ok request ∧ AsksFor request references ∧
        id = requestIdToJson request.id := by
  unfold demandOf
  cases hread : Json.readBytes Platform.callDepth bytes with
  | error e => cases e <;> simp
  | ok payload =>
    unfold demandOfJson
    cases hrequest : checkRequest payload with
    | error issues => simp [hrequest]
    | ok request => simp [hrequest, dispatch_eq_ranges_iff]

theorem reaches_of_ranges {id : Json} {references : List Text}
    (h : demandOf bytes = .ranges id references) :
    Reaches source bytes ↔ source.Reaches references := by
  have hdemand := demandOf_eq_ranges_iff.mp h
  obtain ⟨payload, request, hread, hrequest, hasks, -⟩ := hdemand
  constructor
  · rintro ⟨payload', request', references', hread', hrequest', hasks', hreaches⟩
    have hsame : demandOf bytes = .ranges (requestIdToJson request'.id) references' :=
      demandOf_eq_ranges_iff.mpr ⟨payload', request', hread', hrequest', hasks', rfl⟩
    rw [h] at hsame
    cases hsame
    exact hreaches
  · intro hreaches
    exact ⟨payload, request, references, hread, hrequest, hasks, hreaches⟩

theorem not_reaches_of_settled {reply : Reply} (h : demandOf bytes = .settled reply) :
    ¬ Reaches source bytes := by
  rintro ⟨payload, request, references, hread, hrequest, hasks, -⟩
  have hranges : demandOf bytes = .ranges (requestIdToJson request.id) references :=
    demandOf_eq_ranges_iff.mpr ⟨payload, request, hread, hrequest, hasks, rfl⟩
  rw [h] at hranges
  cases hranges

/-- **A call is answered over a table as with the curated intervals at hand.** -/
theorem answerOn_eq (ht : t.IsCurated) :
    (answerOn source bytes t).1 = (answer source bytes).2 := by
  unfold answerOn answer
  cases demandOf bytes with
  | settled reply => rfl
  | ranges id references =>
    have hresolved := (mirrors_resolveAll source references).traced_eq ht
    simp only [Demand.meet, hresolved]

theorem isCurated_answerOn (ht : t.IsCurated) : (answerOn source bytes t).2.IsCurated := by
  unfold answerOn
  cases demandOf bytes with
  | settled reply => exact ht
  | ranges id references => exact (mirrors_resolveAll source references).isCurated ht

theorem isBuilt_answerOn_iff (ht : t.IsCurated) :
    (answerOn source bytes t).2.isBuilt = true ↔ t.isBuilt = true ∨ Reaches source bytes := by
  unfold answerOn
  cases hdemand : demandOf bytes with
  | settled reply => simp [not_reaches_of_settled hdemand]
  | ranges id references =>
    have hbuilt := (mirrors_resolveAll source references).isBuilt_iff ht
    rw [reaches_of_ranges hdemand]
    exact hbuilt

end

end Rpc

/-! ### Requests -/

namespace HttpRequest

/-- The request is a call. -/
def IsCall [Framework] (request : HttpRequest) : Prop :=
  Framework.route? request.method request.path = some .calls

/-- The request asks for the health of the service. -/
def IsHealthCheck [Framework] (request : HttpRequest) : Prop :=
  Framework.route? request.method request.path = some .health

/-- The request is a call whose references come to a range of one block. -/
def Reaches [Platform] [Framework] (source : SatSource) (request : HttpRequest) : Prop :=
  request.IsCall ∧ Rpc.Reaches source request.body

end HttpRequest

namespace App

variable {app fresh : App} {asked : Prop}

/-! ### Services that differ in their tables -/

/-- `app` serves the index of `fresh` under its settings, with a table of the curated intervals,
which is built if it was in `fresh` or if `asked`. -/
structure RunsFrom (fresh app : App) (asked : Prop) : Prop where
  settings_eq : app.settings = fresh.settings
  index_eq : app.index = fresh.index
  isCurated : app.table.IsCurated
  isBuilt_iff : app.table.isBuilt = true ↔ fresh.table.isBuilt = true ∨ asked

theorem RunsFrom.of_iff {asked' : Prop} (h : RunsFrom fresh app asked) (hasked : asked ↔ asked') :
    RunsFrom fresh app asked' := by
  rwa [propext hasked] at h

/-- The health of a service whose table is built or not. -/
def healthWith (app : App) (built : Bool) : Json :=
  .ofMembers [
    ("status", .ofString "ok"),
    ("sat_index", .bool app.index.tracksSats),
    ("outputs", .ofNat app.index.outputCount),
    ("range_tables_built", .bool built),
    ("curated_kinds", .arr (curatedTable.kinds.map fun k => .ofString k.token))]

/-- The health shows nothing of a history but whether the table is built. -/
theorem RunsFrom.health_eq (h : RunsFrom fresh app asked) :
    app.health = fresh.healthWith app.table.isBuilt := by
  have hkinds : app.table.kinds = curatedTable.kinds := by
    unfold RangeTable.kinds
    rw [h.isCurated.sources_eq, curatedTable_isCurated.sources_eq]
  unfold health healthWith
  rw [hkinds, h.index_eq]

theorem healthWith_inj {built built' : Bool} (h : app.healthWith built = app.healthWith built') :
    built = built' := by
  have hmember := congrArg (Json.member? "range_tables_built") h
  simpa [healthWith, Json.member?_ofMembers, List.lookup_cons] using hmember

theorem isCurated_of_openTable {settings : Settings} {t : RangeTable}
    (h : openTable settings = .ok t) :
    t.IsCurated ∧ (t.isBuilt = true ↔ settings.eagerRangeTables = true) := by
  unfold openTable at h
  by_cases heager : settings.eagerRangeTables = true
  · rw [if_pos heager] at h
    split at h
    · rename_i answer table hstep
      obtain ⟨tables, htables⟩ := curatedTable_isCurated.exists_tables
      have htable : t = (curatedTable.step .warm).2 := by
        rw [hstep]
        exact (Except.ok.inj h).symm
      have hbuilt := RangeTable.isBuilt_step_of_ok htables .warm
      rw [htable]
      exact ⟨curatedTable_isCurated.step _, by simp [hbuilt, heager]⟩
    · cases h
  · rw [if_neg heager] at h
    cases h
    exact ⟨curatedTable_isCurated, iff_of_false Bool.false_ne_true heager⟩

/-! ### Runs -/

section

variable [Platform] [Framework] {request : HttpRequest}

theorem respond_of_call (h : request.IsCall) :
    app.respond request = app.respondCall request.body := by
  rw [respond, h]

theorem respond_of_healthCheck (h : request.IsHealthCheck) :
    app.respond request = (.status 200 app.health, app) := by
  rw [respond, h]

/-- A request that leads to nothing changes nothing, and is answered by the settings alone. -/
theorem respond_of_other (hcall : ¬ request.IsCall) (hhealth : ¬ request.IsHealthCheck) :
    app.respond request = (Framework.page app.settings request, app) := by
  rw [respond]
  cases hroute : Framework.route? request.method request.path with
  | none => rfl
  | some route =>
    cases route with
    | calls => exact absurd hroute hcall
    | health => exact absurd hroute hhealth

/-- The service after requests in their order. -/
def after (app : App) (requests : List HttpRequest) : App :=
  requests.foldl (fun app request => (app.respond request).2) app

theorem getElem?_serve (app : App) (earlier later : List HttpRequest) (request : HttpRequest) :
    (app.serve (earlier ++ request :: later))[earlier.length]? =
      some ((app.after earlier).respond request).1 := by
  induction earlier generalizing app with
  | nil => rfl
  | cons first rest ih =>
    rw [List.cons_append, serve, List.length_cons, List.getElem?_cons_succ, ih]
    rfl

namespace RunsFrom

/-- **One request.** Only a call whose references come to a range of one block builds the table. -/
theorem respond (h : RunsFrom fresh app asked) (request : HttpRequest) :
    RunsFrom fresh (app.respond request).2 (asked ∨ request.Reaches fresh.index.source) := by
  by_cases hcall : request.IsCall
  · rw [respond_of_call hcall]
    refine ⟨h.settings_eq, h.index_eq, Rpc.isCurated_answerOn h.isCurated, ?_⟩
    have hbuilt : (Rpc.answerOn app.index.source request.body app.table).2.isBuilt = true ↔ _ :=
      Rpc.isBuilt_answerOn_iff h.isCurated
    rw [h.isBuilt_iff, h.index_eq, or_assoc] at hbuilt
    simpa [respondCall, HttpRequest.Reaches, hcall, h.index_eq] using hbuilt
  · have hsame : (app.respond request).2 = app := by
      by_cases hhealth : request.IsHealthCheck
      · rw [respond_of_healthCheck hhealth]
      · rw [respond_of_other hcall hhealth]
    rw [hsame]
    exact h.of_iff (by simp [HttpRequest.Reaches, hcall])

theorem after (h : RunsFrom fresh app asked) (requests : List HttpRequest) :
    RunsFrom fresh (app.after requests)
      (asked ∨ ∃ request ∈ requests, request.Reaches fresh.index.source) := by
  induction requests generalizing app asked with
  | nil => exact h.of_iff (by simp)
  | cons first rest ih =>
    have hrest := ih (h.respond first)
    exact hrest.of_iff (by simp [or_assoc])

/-- **A request is answered as by the service it runs from**, unless it asks for the health. -/
theorem respond_eq (h : RunsFrom fresh app asked) (hfresh : fresh.table.IsCurated)
    (hhealth : ¬ request.IsHealthCheck) : (app.respond request).1 = (fresh.respond request).1 := by
  by_cases hcall : request.IsCall
  · rw [respond_of_call hcall, respond_of_call hcall]
    unfold respondCall
    dsimp only
    rw [Rpc.answerOn_eq h.isCurated, Rpc.answerOn_eq hfresh, h.index_eq]
  · rw [respond_of_other hcall hhealth, respond_of_other hcall hhealth, h.settings_eq]

end RunsFrom

theorem isCurated_of_start {environment : Environment} {files : Files}
    (h : start environment files = .ok app) :
    app.table.IsCurated ∧
      (app.table.isBuilt = true ↔ app.settings.eagerRangeTables = true) := by
  unfold start at h
  split at h
  · cases h
  split at h
  · cases h
  split at h
  · cases h
  split at h
  · cases h
  rename_i htable
  split at h
  · cases h
  cases h
  exact isCurated_of_openTable htable

/-- A service that has started is after any history the service that it was, but for the table. -/
theorem runsFrom_after {environment : Environment} {files : Files}
    (h : start environment files = .ok app) (requests : List HttpRequest) :
    RunsFrom app (app.after requests)
      (∃ request ∈ requests, request.Reaches app.index.source) := by
  have hstart : RunsFrom app app False := ⟨rfl, rfl, (isCurated_of_start h).1, by simp⟩
  have hafter := hstart.after requests
  exact hafter.of_iff (by simp)

/-- **A history does not show.** After any requests to a service that has started, a request is
answered as it would be as the first one, unless it asks for the health. The health is always the
same but for whether the table is built; it is if the settings say so or if one of the requests
before was a call whose references came to a range of one block, be there an error behind it or not.
So a table that was told to be built is told so ever after. Among the calls is what is posted to `/`,
and the health is asked for at `/health`. -/
theorem serve_history [LawfulFramework] {environment : Environment} {files : Files}
    (h : start environment files = .ok app) :
    (∀ earlier request later, ¬ request.IsHealthCheck → ∃ response,
      (app.serve (earlier ++ request :: later))[earlier.length]? = some response ∧
        app.serve [request] = [response]) ∧
    (∀ earlier request later, request.IsHealthCheck → ∃ built,
      (app.serve (earlier ++ request :: later))[earlier.length]? =
          some (.status 200 (app.healthWith built)) ∧
        (built = true ↔ app.settings.eagerRangeTables = true ∨
          ∃ r ∈ earlier, r.Reaches app.index.source)) ∧
    (∀ earlier request between again later, request.IsHealthCheck → again.IsHealthCheck →
      (app.serve (earlier ++ request :: between ++ again :: later))[earlier.length]? =
          some (.status 200 (app.healthWith true)) →
      (app.serve (earlier ++ request :: between ++ again :: later))[
          (earlier ++ request :: between).length]? =
        some (.status 200 (app.healthWith true))) ∧
    ∀ body, HttpRequest.IsCall ⟨"POST", "/", body⟩ ∧
      ¬ HttpRequest.IsHealthCheck ⟨"POST", "/", body⟩ ∧
      HttpRequest.IsHealthCheck ⟨"GET", "/health", body⟩ := by
  obtain ⟨hcurated, hbuilt⟩ := isCurated_of_start h
  have hhealth : ∀ earlier request later, request.IsHealthCheck →
      (app.serve (earlier ++ request :: later))[earlier.length]? =
        some (.status 200 (app.healthWith (app.after earlier).table.isBuilt)) := by
    intro earlier request later hrequest
    rw [getElem?_serve, respond_of_healthCheck hrequest, (runsFrom_after h earlier).health_eq]
  refine ⟨fun earlier request later hrequest => ?_, fun earlier request later hrequest => ?_, ?_,
    fun body => ⟨LawfulFramework.route?_post, fun hget => ?_, LawfulFramework.route?_get⟩⟩
  · refine ⟨(app.respond request).1, ?_, rfl⟩
    rw [getElem?_serve, (runsFrom_after h earlier).respond_eq hcurated hrequest]
  · refine ⟨(app.after earlier).table.isBuilt, hhealth earlier request later hrequest, ?_⟩
    rw [(runsFrom_after h earlier).isBuilt_iff, hbuilt]
  · intro earlier request between again later hrequest hagain htold
    rw [List.append_assoc, List.cons_append, hhealth _ _ _ hrequest] at htold
    simp only [Option.some.injEq, HttpResponse.status.injEq, true_and] at htold
    have hfirst : (app.after earlier).table.isBuilt = true := healthWith_inj htold
    have hlater : (app.after (earlier ++ request :: between)).table.isBuilt = true := by
      rw [(runsFrom_after h _).isBuilt_iff]
      rw [(runsFrom_after h earlier).isBuilt_iff] at hfirst
      refine hfirst.imp_right ?_
      rintro ⟨r, hr, hreaches⟩
      exact ⟨r, List.mem_append_left _ hr, hreaches⟩
    rw [hhealth _ _ _ hagain, hlater]
  · have hroute : some Route.calls = some Route.health :=
      LawfulFramework.route?_post.symm.trans hget
    cases hroute

end

/-! ### A history -/

/-- A snapshot of one output, which holds the first sats of two blocks. -/
def twoBlocksSnapshot : Json :=
  .obj [(.ofString "outputs", .obj [(twoBlocksReference,
    .arr [.arr [.int 0, .int 3], .arr [.int 5000000000, .int 5000000002]])])]

/-- The service of the snapshot when it has just started. -/
def twoBlocksApp : App :=
  ⟨⟨"sat-rarity", false, "INFO", "s", false⟩, .info, twoBlocksIndex, curatedTable⟩

theorem start_twoBlocks :
    start [("SAT_RARITY_INDEX_PATH", "s")] [("s", .json twoBlocksSnapshot)] = .ok twoBlocksApp := by
  have hsettings : Framework.settings [("SAT_RARITY_INDEX_PATH", "s")] =
      .ok twoBlocksApp.settings := by
    show Settings.read [("SAT_RARITY_INDEX_PATH", "s")] = _
    decide +kernel
  have hload : loadIndex twoBlocksApp.settings [("s", .json twoBlocksSnapshot)] =
      .ok twoBlocksIndex := rfl
  unfold start
  rw [hsettings]
  dsimp only
  rw [hload]
  rfl

/-- A query for the output and for a reference that is none. -/
def twoBlocksQuery : HttpRequest where
  method := "POST"
  path := "/"
  body :=
    [123, 34, 105, 100, 34, 58, 49, 44, 34, 109, 101, 116, 104, 111, 100, 34, 58, 34, 103, 101,
      116, 83, 97, 116, 82, 97, 110, 103, 101, 115, 34, 44, 34, 112, 97, 114, 97, 109, 115, 34,
      58, 123, 34, 114, 101, 102, 101, 114, 101, 110, 99, 101, 115, 34, 58, 91, 34] ++
    (List.replicate 64 65 ++ [58, 55, 34, 44, 34, 120, 34, 93, 125, 125])

/-- The parameters of the query. -/
def twoBlocksParams : Json :=
  .obj [(.ofString "references", .arr [.str twoBlocksReference, .ofString "x"])]

set_option maxRecDepth 8000 in
theorem readBytes_twoBlocks : Json.readBytes Platform.callDepth twoBlocksQuery.body =
    .ok (.obj [(.ofString "id", .int 1), (.ofString "method", .ofString "getSatRanges"),
      (.ofString "params", twoBlocksParams)]) := by rfl

theorem twoBlocksIndex_reaches : twoBlocksIndex.source.Reaches [twoBlocksReference, "x"] := by
  have hvalid := twoBlocks_valid ⟨0, 3⟩ List.mem_cons_self
  refine ⟨rfl, [], twoBlocksReference, ["x"], rfl, by simp, ?_⟩
  refine ⟨⟨String.ofList (List.replicate 64 'a'), 7⟩, twoBlocks, rfl, rfl, ?_⟩
  exact ⟨[], ⟨0, 3⟩, _, rfl, by simp, hvalid⟩

theorem twoBlocksQuery_reaches : twoBlocksQuery.Reaches twoBlocksIndex.source := by
  have hrequest : checkRequest (.obj [(.ofString "id", .int 1),
      (.ofString "method", .ofString "getSatRanges"), (.ofString "params", twoBlocksParams)]) =
      .ok ⟨some (.number 1), .ofString "getSatRanges", twoBlocksParams⟩ :=
    checkRequest_eq_ok_iff.mpr ⟨_, rfl, rfl, rfl, rfl, rfl⟩
  have hasks : Rpc.AsksFor ⟨some (.number 1), .ofString "getSatRanges", twoBlocksParams⟩
      [twoBlocksReference, "x"] := ⟨rfl, rfl⟩
  exact ⟨rfl, _, _, _, readBytes_twoBlocks, hrequest, hasks, twoBlocksIndex_reaches⟩

/-- A request for the health of a service. -/
def healthCheck : HttpRequest := ⟨"GET", "/health", []⟩

/-- A query between requests for the health. -/
def twoBlocksHistory : List HttpRequest :=
  [healthCheck, twoBlocksQuery, healthCheck, healthCheck]

/-- The health before and after a batch that fails at its second reference. -/
theorem serve_failed_batch :
    (twoBlocksApp.serve twoBlocksHistory)[0]? =
      some (.status 200 (twoBlocksApp.healthWith false)) ∧
    (∃ response, (twoBlocksApp.serve twoBlocksHistory)[1]? = some response ∧
      twoBlocksApp.serve [twoBlocksQuery] = [response]) ∧
    (twoBlocksApp.serve twoBlocksHistory)[2]? =
      some (.status 200 (twoBlocksApp.healthWith true)) ∧
    (twoBlocksApp.serve twoBlocksHistory)[3]? =
      some (.status 200 (twoBlocksApp.healthWith true)) := by
  obtain ⟨hother, hhealth, hstays, hroutes⟩ := serve_history start_twoBlocks
  have hcheck : healthCheck.IsHealthCheck := (hroutes []).2.2
  have hquery : ¬ twoBlocksQuery.IsHealthCheck := (hroutes twoBlocksQuery.body).2.1
  obtain ⟨built, hbefore, hunbuilt⟩ :=
    hhealth [] healthCheck [twoBlocksQuery, healthCheck, healthCheck] hcheck
  obtain ⟨built', hafter, hbuilt⟩ :=
    hhealth [healthCheck, twoBlocksQuery] healthCheck [healthCheck] hcheck
  have hfalse : built = false := by
    rw [← Bool.not_eq_true, hunbuilt]
    simp [twoBlocksApp]
  have htrue : built' = true :=
    hbuilt.mpr (Or.inr ⟨twoBlocksQuery, by simp, twoBlocksQuery_reaches⟩)
  rw [hfalse] at hbefore
  rw [htrue] at hafter
  exact ⟨hbefore, hother [healthCheck] twoBlocksQuery [healthCheck, healthCheck] hquery, hafter,
    hstays [healthCheck, twoBlocksQuery] healthCheck [] healthCheck [] hcheck hcheck hafter⟩

end App
end RareSats
