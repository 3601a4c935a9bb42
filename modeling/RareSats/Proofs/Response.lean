/-
# What a call is answered

A reply that is sent is an object with the version of the protocol, an identifier,
and either a result or an error, but never parts of both (`Rpc.IsResponse`). Which one
it is follows from the first stage that fails, and the stages are told apart by what
they find, not by what the others do (`Rpc.Answers`). The identifier comes from two
places, the raw body and the call that was checked; for an identifier that is an
integer, a text or null they agree.

Key definitions: `Rpc.IsResponse`, `Rpc.resultResponse`, `Rpc.errorResponse`,
`Rpc.Answers`.
Key theorems: `Rpc.Answers.reply_eq`, `Rpc.answer_cases`, `Rpc.Answers.id_eq`,
`Rpc.answered_by_first_failure`.
-/
import RareSats.Proofs.Request
import RareSats.Proofs.Resolve
import RareSats.Rpc

namespace RareSats

/-! ### Objects -/

theorem Json.member?_ofMembers (members : List (String × Json)) (name : String) :
    (ofMembers members).member? name = members.lookup name :=
  lookup_map_ofString members name

namespace Rpc

/-! ### Responses -/

/-- An object with the version of the protocol, an identifier, and exactly one of a result and an
error. -/
structure IsResponse (json : Json) : Prop where
  version : json.member? "jsonrpc" = some (.ofString "2.0")
  id : (json.member? "id").isSome = true
  result_or_error : (json.member? "result").isSome ≠ (json.member? "error").isSome

/-- The response with a result. -/
def resultResponse (id result : Json) : Json :=
  .ofMembers [("jsonrpc", .ofString "2.0"), ("id", id), ("result", result)]

/-- The response with an error. -/
def errorResponse (id : Json) (code : Int) (message : Text) : Json :=
  .ofMembers [
    ("jsonrpc", .ofString "2.0"),
    ("id", id),
    ("error", .ofMembers [("code", .int code), ("message", .str message)])]

theorem isResponse_result (id result : Json) : IsResponse (resultResponse id result) := by
  constructor <;> simp [resultResponse, Json.member?_ofMembers, List.lookup_cons]

theorem isResponse_error (id : Json) (code : Int) (message : Text) :
    IsResponse (errorResponse id code message) := by
  constructor <;> simp [errorResponse, Json.member?_ofMembers, List.lookup_cons]

theorem id_resultResponse (id result : Json) :
    (resultResponse id result).member? "id" = some id := by
  simp [resultResponse, Json.member?_ofMembers, List.lookup_cons]

theorem id_errorResponse (id : Json) (code : Int) (message : Text) :
    (errorResponse id code message).member? "id" = some id := by
  simp [errorResponse, Json.member?_ofMembers, List.lookup_cons]

/-! ### Stages -/

/-- The call is a query for references. -/
structure AsksFor (request : Request) (references : List Text) : Prop where
  method_eq : request.method = .ofString "getSatRanges"
  params_ok : checkQueryRequest request.params = .ok ⟨references⟩

/-- The response to a call that was checked, by what is found about its method, its parameters and
its references. -/
inductive AnswersCall (source : SatSource) (request : Request) : Json → Prop where
  | unknownMethod (hhealth : request.method ≠ .ofString "getHealth")
      (hranges : request.method ≠ .ofString "getSatRanges") :
      AnswersCall source request (errorResponse (requestIdToJson request.id) methodNotFound
        (Text.ofString "Method not found: " ++ request.method))
  | health (hmethod : request.method = .ofString "getHealth") :
      AnswersCall source request (resultResponse (requestIdToJson request.id) (.ofString "OK"))
  | badParams {issues : List Issue} (hmethod : request.method = .ofString "getSatRanges")
      (hparams : checkQueryRequest request.params = .error issues) :
      AnswersCall source request
        (errorResponse (requestIdToJson request.id) invalidParams (paramsMessage issues))
  /-- Some reference is not resolved, for a reason that is for the caller. -/
  | refused {references : List Text} {e : Error} (hasks : AsksFor request references)
      (houtcome : (resolveAll source references).outcome = .error e)
      (he : e.isReportable = true) :
      AnswersCall source request
        (errorResponse (requestIdToJson request.id) invalidParams e.message)
  /-- All references are resolved. -/
  | ranges {references : List Text} {results : List ReferenceResult}
      (hasks : AsksFor request references) (htracks : source.tracksSats = true)
      (hresults : List.Forall₂ (fun reference result =>
        (resolve source reference).outcome = .ok result) references results) :
      AnswersCall source request
        (resultResponse (requestIdToJson request.id) (resultsToJson results))

variable {source : SatSource} {bytes : List UInt8} {request : Request} {json : Json}

theorem AnswersCall.isResponse (h : AnswersCall source request json) : IsResponse json := by
  cases h with
  | health => exact isResponse_result _ _
  | ranges => exact isResponse_result _ _
  | _ => exact isResponse_error _ _ _

theorem AnswersCall.id_eq (h : AnswersCall source request json) :
    json.member? "id" = some (requestIdToJson request.id) := by
  cases h with
  | health => exact id_resultResponse _ _
  | ranges => exact id_resultResponse _ _
  | _ => exact id_errorResponse _ _ _

/-! ### Replies -/

section

variable [Platform]

/-- The reply with a response, if all of its members have an encoding. -/
def Reply.ofResponse : Json → Reply
  | .obj members =>
    if members.all fun m => Platform.encodes m.2 then .body (.obj members) else .unencodable
  | _ => .unencodable

theorem send_eq_ofResponse (members : List (String × Json)) :
    send members = .ofResponse (.ofMembers members) := by
  simp only [send, Reply.ofResponse, Json.ofMembers, List.all_map, Function.comp_def]

theorem success_eq_ofResponse (id result : Json) :
    success id result = .ofResponse (resultResponse id result) :=
  send_eq_ofResponse _

theorem failure_eq_ofResponse (id : Json) (code : Int) (message : Text) :
    failure id code message = .ofResponse (errorResponse id code message) :=
  send_eq_ofResponse _

theorem eq_of_ofResponse {json sent : Json} (h : Reply.ofResponse json = .body sent) :
    sent = json := by
  unfold Reply.ofResponse at h
  split at h
  · split at h
    · cases h
      rfl
    · cases h
  · cases h

/-- The response to the bytes of a call, by the first stage that fails. -/
inductive Answers (source : SatSource) (bytes : List UInt8) : Json → Prop where
  | unread {e : Json.ReadError} (hread : Json.readBytes Platform.callDepth bytes = .error e)
      (he : ∀ isArray, e ≠ .tooDeep isArray) :
      Answers source bytes (errorResponse .null notJson "Parse error")
  | unchecked {payload : Json} (hread : Json.readBytes Platform.callDepth bytes = .ok payload)
      (hrequest : ∀ request, checkRequest payload ≠ .ok request) :
      Answers source bytes
        (errorResponse (rawId payload).finiteOnly invalidRequest "Invalid request")
  | checked {payload : Json} {request : Request} {json : Json}
      (hread : Json.readBytes Platform.callDepth bytes = .ok payload)
      (hrequest : checkRequest payload = .ok request) (h : AnswersCall source request json) :
      Answers source bytes json

theorem dispatch_of_ranges (h : request.method = .ofString "getSatRanges") :
    dispatch request = satRanges (requestIdToJson request.id) request.params := by
  unfold dispatch
  rw [h, if_neg (by decide), if_pos rfl]

theorem dispatch_of_asksFor {references : List Text} (h : AsksFor request references) :
    dispatch request = .ranges (requestIdToJson request.id) references := by
  rw [dispatch_of_ranges h.method_eq, satRanges, h.params_ok]

/-- What was found about a call is what is told. -/
theorem AnswersCall.reply_eq (h : AnswersCall source request json) :
    ((dispatch request).meet source).2 = .ofResponse json := by
  cases h with
  | unknownMethod hhealth hranges =>
    unfold dispatch
    rw [if_neg hhealth, if_neg hranges, Demand.meet_settled]
    exact failure_eq_ofResponse _ _ _
  | health hmethod =>
    unfold dispatch
    rw [if_pos hmethod, Demand.meet_settled]
    exact success_eq_ofResponse _ _
  | badParams hmethod hparams =>
    rw [dispatch_of_ranges hmethod, satRanges, hparams, Demand.meet_settled]
    exact failure_eq_ofResponse _ _ _
  | refused hasks houtcome he =>
    rw [dispatch_of_asksFor hasks, Demand.meet, houtcome]
    dsimp only
    rw [replyTo, if_pos he]
    exact failure_eq_ofResponse _ _ _
  | ranges hasks htracks hresults =>
    rw [dispatch_of_asksFor hasks, Demand.meet, resolveAll_eq_ok_iff.mpr ⟨htracks, hresults⟩]
    exact success_eq_ofResponse _ _

/-- Something is found about every call, or its references fail for a reason that is not told. -/
theorem answersCall_or_fault (source : SatSource) (request : Request) :
    (∃ json, AnswersCall source request json) ∨
      ∃ references e, AsksFor request references ∧
        (resolveAll source references).outcome = .error e ∧ e.isReportable = false ∧
        ((dispatch request).meet source).2 = .fault e := by
  by_cases hhealth : request.method = .ofString "getHealth"
  · exact Or.inl ⟨_, .health hhealth⟩
  by_cases hranges : request.method = .ofString "getSatRanges"
  swap
  · exact Or.inl ⟨_, .unknownMethod hhealth hranges⟩
  cases hparams : checkQueryRequest request.params with
  | error issues => exact Or.inl ⟨_, .badParams hranges hparams⟩
  | ok query =>
    have hasks : AsksFor request query.references := ⟨hranges, hparams⟩
    cases houtcome : (resolveAll source query.references).outcome with
    | ok results =>
      obtain ⟨htracks, hresults⟩ := resolveAll_eq_ok_iff.mp houtcome
      exact Or.inl ⟨_, .ranges hasks htracks hresults⟩
    | error e =>
      cases he : e.isReportable with
      | true => exact Or.inl ⟨_, .refused hasks houtcome he⟩
      | false =>
        refine Or.inr ⟨query.references, e, hasks, houtcome, he, ?_⟩
        rw [dispatch_of_asksFor hasks, Demand.meet, houtcome]
        exact if_neg (by rw [he]; decide)

/-- **The first stage that fails decides what is told.** -/
theorem Answers.reply_eq (h : Answers source bytes json) :
    (answer source bytes).2 = .ofResponse json := by
  unfold answer demandOf
  cases h with
  | @unread e hread he =>
    rw [hread]
    cases e with
    | tooDeep isArray => exact absurd rfl (he isArray)
    | _ =>
      dsimp only
      rw [Demand.meet_settled]
      exact failure_eq_ofResponse _ _ _
  | @unchecked payload hread hrequest =>
    rw [hread]
    dsimp only
    unfold demandOfJson
    cases hcheck : checkRequest payload with
    | ok request => exact absurd hcheck (hrequest request)
    | error issues =>
      rw [Demand.meet_settled]
      exact failure_eq_ofResponse _ _ _
  | checked hread hrequest h =>
    rw [hread]
    dsimp only
    rw [demandOfJson, hrequest]
    exact h.reply_eq

/-- **Every call is answered**, unless its brackets are too deep to follow or its references fail
for a reason that is not told. -/
theorem answer_cases (source : SatSource) (bytes : List UInt8) :
    (∃ json, Answers source bytes json) ∨
      (∃ isArray, Json.readBytes Platform.callDepth bytes = .error (.tooDeep isArray) ∧
        (answer source bytes).2 = .fault (.unreadableNesting isArray)) ∨
      ∃ payload request references e, Json.readBytes Platform.callDepth bytes = .ok payload ∧
        checkRequest payload = .ok request ∧ AsksFor request references ∧
        (resolveAll source references).outcome = .error e ∧ e.isReportable = false ∧
        (answer source bytes).2 = .fault e := by
  cases hread : Json.readBytes Platform.callDepth bytes with
  | error e =>
    by_cases hdeep : ∃ isArray, e = .tooDeep isArray
    · obtain ⟨isArray, rfl⟩ := hdeep
      refine Or.inr (Or.inl ⟨isArray, rfl, ?_⟩)
      rw [answer, demandOf, hread, Demand.meet_settled]
    · exact Or.inl ⟨_, .unread hread fun isArray he => hdeep ⟨isArray, he⟩⟩
  | ok payload =>
    cases hrequest : checkRequest payload with
    | error issues =>
      refine Or.inl ⟨_, .unchecked hread fun request h => ?_⟩
      rw [hrequest] at h
      cases h
    | ok request =>
      rcases answersCall_or_fault source request with
        ⟨json, h⟩ | ⟨references, e, hasks, houtcome, he, hreply⟩
      · exact Or.inl ⟨json, .checked hread hrequest h⟩
      · refine Or.inr (Or.inr ⟨payload, request, references, e, rfl, hrequest, hasks, houtcome, he,
          ?_⟩)
        rw [answer, demandOf, hread]
        dsimp only
        rw [demandOfJson, hrequest]
        exact hreply

theorem Answers.isResponse (h : Answers source bytes json) : IsResponse json := by
  cases h with
  | checked _ _ h => exact h.isResponse
  | _ => exact isResponse_error _ _ _

/-- An identifier that is an integer, a text or null is repeated, whatever fails after reading. -/
theorem Answers.id_eq [LawfulPlatform] (h : Answers source bytes json) {payload : Json}
    {id : Option RequestId}
    (hread : Json.readBytes Platform.callDepth bytes = .ok payload)
    (hid : rawId payload = requestIdToJson id) :
    json.member? "id" = some (requestIdToJson id) := by
  cases h with
  | unread hread' =>
    rw [hread] at hread'
    cases hread'
  | unchecked hread' =>
    rw [hread] at hread'
    cases hread'
    rw [id_errorResponse, hid, finiteOnly_requestIdToJson]
  | checked hread' hrequest h =>
    rw [hread] at hread'
    cases hread'
    rw [h.id_eq, id_of_rawId hrequest hid]

theorem answers_iff_of_body (h : (answer source bytes).2 = .body json) {told : Json} :
    Answers source bytes told ↔ told = json := by
  have hsent : ∀ told, Answers source bytes told → told = json := fun told htold =>
    (eq_of_ofResponse (htold.reply_eq.symm.trans h)).symm
  refine ⟨hsent told, ?_⟩
  rintro rfl
  rcases answer_cases source bytes with
    ⟨json, hjson⟩ | ⟨_, -, hfault⟩ | ⟨_, _, _, _, -, -, -, -, -, hfault⟩
  · rwa [← hsent json hjson]
  · rw [hfault] at h
    cases h
  · rw [hfault] at h
    cases h

/-- **The first stage that fails decides the response.** What is sent for a call is an object with
the version of the protocol, an identifier, and exactly one of a result and an error, and it is the
one that the stages tell: that the bytes are not JSON, that the JSON is no call, that there is no
such method, that the parameters are bad or the references refused, or else a result, which for a
batch of references has all of their results. An identifier that is an integer, a text or null, or
that is missing, is repeated whatever fails after the bytes were read. -/
theorem answered_by_first_failure [LawfulPlatform] (h : (answer source bytes).2 = .body json) :
    IsResponse json ∧ (∀ told, Answers source bytes told ↔ told = json) ∧
    ∀ payload id, Json.readBytes Platform.callDepth bytes = .ok payload →
      rawId payload = requestIdToJson id → json.member? "id" = some (requestIdToJson id) := by
  have htold : Answers source bytes json := (answers_iff_of_body h).mpr rfl
  exact ⟨htold.isResponse, fun told => answers_iff_of_body h,
    fun payload id hread hid => htold.id_eq hread hid⟩

end

/-- The bytes of `{"id":1,"method":"getSatRanges","params":{"references":["x"]}}`. -/
def badReferenceBytes : List UInt8 :=
  [123, 34, 105, 100, 34, 58, 49, 44, 34, 109, 101, 116, 104, 111, 100, 34, 58, 34, 103, 101,
    116, 83, 97, 116, 82, 97, 110, 103, 101, 115, 34, 44, 34, 112, 97, 114, 97, 109, 115, 34,
    58, 123, 34, 114, 101, 102, 101, 114, 101, 110, 99, 101, 115, 34, 58, 91, 34, 120, 34, 93,
    125, 125]

/-- The call of a query whose only reference has no colon. -/
def badReferencePayload : Json :=
  .obj [(.ofString "id", .int 1), (.ofString "method", .ofString "getSatRanges"),
    (.ofString "params", .obj [(.ofString "references", .arr [.ofString "x"])])]

set_option maxRecDepth 4000 in
theorem readBytes_badReference :
    Json.readBytes Platform.callDepth badReferenceBytes = .ok badReferencePayload := by rfl

theorem checkRequest_badReference : checkRequest badReferencePayload =
    .ok ⟨some (.number 1), .ofString "getSatRanges",
      .obj [(.ofString "references", .arr [.ofString "x"])]⟩ :=
  checkRequest_eq_ok_iff.mpr ⟨_, rfl, rfl, rfl, rfl, rfl⟩

theorem outcome_badReference : (resolveAll SatIndex.empty.source [.ofString "x"]).outcome =
    .error (.malformedReference (.ofString "x") .missingSeparator) := rfl

/-- The response to the query. -/
def badReferenceResponse : Json :=
  errorResponse (.int 1) invalidParams "invalid outpoint 'x': missing ':' separator"

/-- A query whose only reference has no colon is answered with the error of the reference. -/
theorem answered_by_bad_reference :
    (answer SatIndex.empty.source badReferenceBytes).2 = .body badReferenceResponse ∧
    IsResponse badReferenceResponse ∧
    badReferenceResponse.member? "id" = some (.int 1) := by
  have hbody : (answer SatIndex.empty.source badReferenceBytes).2 = .body badReferenceResponse :=
    (Answers.checked readBytes_badReference checkRequest_badReference
      (.refused ⟨rfl, rfl⟩ outcome_badReference rfl)).reply_eq
  obtain ⟨hresponse, -, hid⟩ := answered_by_first_failure hbody
  exact ⟨hbody, hresponse, hid _ (some (.number 1)) readBytes_badReference rfl⟩

/-- The bytes of `{"id":1e400}`, which is no call. The number is too large for a float. -/
def hugeIdBytes : List UInt8 :=
  [123, 34, 105, 100, 34, 58, 49, 101, 52, 48, 48, 125]

theorem readBytes_hugeId : Json.readBytes Platform.callDepth hugeIdBytes =
    .ok (.obj [(.ofString "id", .float (.infinite false))]) := rfl

/-- A raw identifier that is not finite is repeated as null. -/
theorem id_of_hugeId :
    ¬ ∀ (source : SatSource) (bytes : List UInt8) (payload json : Json),
      Json.readBytes Platform.callDepth bytes = .ok payload →
      (∀ request, checkRequest payload ≠ .ok request) →
      (answer source bytes).2 = .body json → json.member? "id" = some (rawId payload) := by
  intro h
  have hrequest : ∀ request, checkRequest (.obj [(.ofString "id", .float (.infinite false))]) ≠
      .ok request := by
    intro request hrequest
    obtain ⟨members, hmembers, -, -, hmethod, -⟩ := checkRequest_eq_ok_iff.mp hrequest
    cases hmembers
    cases hmethod
  have htold : Answers SatIndex.empty.source hugeIdBytes _ := .unchecked readBytes_hugeId hrequest
  have hid := h _ _ _ _ readBytes_hugeId hrequest htold.reply_eq
  have hnull : some Json.null = some (.float (.infinite false)) :=
    (id_errorResponse _ _ _).symm.trans hid
  cases hnull

end Rpc
end RareSats
