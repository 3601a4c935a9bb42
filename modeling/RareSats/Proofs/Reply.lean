/-
# Calls without a response

A call is answered unless one of three things happens: its brackets are too deep to be
followed, a number in it or in what it asks for is too long to be converted, or the
response cannot be sent (`Rpc.answered_or_told_why`). The last is up to what the call and
the source bring: a response to a call without surrogates, whose identifier has not too
many levels, can be sent if the source gives no surrogates either.

Key definitions: `SatSource.IsUnicode`, `Rpc.IsSendable`.
Key theorems: `Refusal.isUnicode_message`, `isUnicode_of_resolve`,
`Rpc.Answers.ofResponse_eq_body`, `Rpc.answered_or_told_why`.
-/
import RareSats.Proofs.Refusal
import RareSats.Proofs.Response
import RareSats.Proofs.Sending

namespace RareSats

open Json

/-! ### Texts from a source -/

/-- No text that the source gives holds a surrogate. -/
structure SatSource.IsUnicode (source : SatSource) : Prop where
  blockHash : ∀ height t, source.blockHash height = .ok (some t) → t.IsUnicode
  listRanges_error : ∀ outpoint e, source.listRanges outpoint = .error e → e.message.IsUnicode
  blockHash_error : ∀ height e, source.blockHash height = .error e → e.message.IsUnicode

variable {source : SatSource} {reference : Text} {e : Error}

/-- An index gives no surrogates if none of its hashes holds one. -/
theorem SatIndex.isUnicode_source {index : SatIndex}
    (h : ∀ entry ∈ index.blockHashes, entry.2.IsUnicode) : index.source.IsUnicode where
  blockHash height t ht := by
    obtain ⟨before, after, hsplit, -⟩ := List.lookup_eq_some_iff.mp (Except.ok.inj ht)
    exact h (height, t) (by simp [hsplit])
  listRanges_error outpoint e he := by
    have hlist : index.listRanges outpoint = .error e := he
    unfold SatIndex.listRanges at hlist
    split at hlist
    · cases hlist
    · cases hlist
      exact (Text.isUnicode_ofString _).append (Text.isUnicode_ofString _)
  blockHash_error height e he := by cases he

theorem Error.isUnicode_toldFor (hreference : reference.IsUnicode) (he : e.message.IsUnicode) :
    (e.toldFor reference).message.IsUnicode := by
  unfold toldFor
  split
  · exact he
  · have hlead := (Text.isUnicode_ofString "index lookup failed for ").append hreference
    exact (hlead.append (Text.isUnicode_ofString ": ")).append he

theorem Refusal.isUnicode_message (h : Refusal source reference e)
    (hreference : reference.IsUnicode) (hsource : source.IsUnicode) : e.message.IsUnicode := by
  cases h with
  | malformed =>
    have hlead := (Text.isUnicode_ofString "invalid outpoint '").append hreference
    exact hlead.append (Text.isUnicode_ofString _)
  | tooLong hlong => cases hlong <;> exact Text.isUnicode_ofString _
  | listRanges hlist =>
    exact Error.isUnicode_toldFor hreference (hsource.listRanges_error _ _ hlist)
  | range => exact Text.isUnicode_ofString _
  | blockHash hhash =>
    exact Error.isUnicode_toldFor hreference (hsource.blockHash_error _ _ hhash)

theorem isUnicode_of_resolve {result : ReferenceResult}
    (h : (resolve source reference).outcome = .ok result) (hreference : reference.IsUnicode)
    (hsource : source.IsUnicode) : result.IsUnicode := by
  obtain ⟨hsame, outpoint, chunks, -, -, -, hranges, -, -⟩ := resolve_eq_ok_iff.mp h
  refine ⟨hsame ▸ hreference, fun report hreport t ht => ?_⟩
  obtain ⟨c, -, hc⟩ := exists_of_forall₂_right
    (Traced.outcome_mapM_eq_ok_iff.mp hranges) hreport
  obtain ⟨q, rarities, hash, -, -, hhash, hvalue⟩ := resolveRange_eq_ok_iff.mp hc
  rw [hvalue] at ht
  exact hsource.blockHash q.height t (by rw [hhash, ← ht])

namespace Rpc

/-! ### Responses that can be sent -/

section

variable [Platform] {bytes : List UInt8} {payload json : Json} {request : Request}

theorem ofResponse_cases (json : Json) :
    Reply.ofResponse json = .body json ∨ Reply.ofResponse json = .unencodable := by
  unfold Reply.ofResponse
  split
  · split
    · exact Or.inl rfl
    · exact Or.inr rfl
  · exact Or.inr rfl

/-- A body without surrogates, whose identifier has not too many levels. -/
structure IsSendable (payload : Json) : Prop where
  isUnicode : payload.isUnicode = true
  levels_le : (rawId payload).levels ≤ Platform.sendDepth

theorem IsSendable.fits_rawId (h : IsSendable payload) :
    (rawId payload).Fits Platform.sendDepth := by
  refine ⟨?_, h.levels_le⟩
  cases payload with
  | obj members => exact isUnicode_getD_lookup h.isUnicode _
  | _ => rfl

variable [LawfulPlatform]

theorem ofResponse_of_fits {members : List (String × Json)}
    (h : ∀ m ∈ members, m.2.Fits Platform.sendDepth) :
    Reply.ofResponse (.ofMembers members) = .body (.ofMembers members) := by
  rw [← send_eq_ofResponse]
  exact if_pos (List.all_eq_true.mpr fun m hm => LawfulPlatform.encodes_of_fits _ (h m hm))

theorem ofResponse_result {id result : Json} (hid : id.Fits Platform.sendDepth)
    (hresult : result.Fits Platform.sendDepth) :
    Reply.ofResponse (resultResponse id result) = .body (resultResponse id result) := by
  refine ofResponse_of_fits ?_
  simp only [List.forall_mem_cons]
  exact ⟨(Fits.ofString _).sendable (by decide), hid, hresult, List.forall_mem_nil _⟩

theorem ofResponse_error {id : Json} {code : Int} {message : Text}
    (hid : id.Fits Platform.sendDepth) (hmessage : message.IsUnicode) :
    Reply.ofResponse (errorResponse id code message) =
      .body (errorResponse id code message) := by
  have herror : (Json.ofMembers [("code", .int code), ("message", .str message)]).Fits 2 := by
    refine .ofMembers ?_
    simp only [List.forall_mem_cons]
    exact ⟨.int _, .str hmessage, List.forall_mem_nil _⟩
  refine ofResponse_of_fits ?_
  simp only [List.forall_mem_cons]
  exact ⟨(Fits.ofString _).sendable (by decide), hid, herror.sendable (by decide),
    List.forall_mem_nil _⟩

theorem fits_requestId {id : Option RequestId} {raw : Json} (h : Platform.requestId raw = .ok id)
    (hraw : raw.isUnicode = true) : (requestIdToJson id).Fits Platform.sendDepth := by
  have hone : (requestIdToJson id).Fits 1 := by
    rcases id with _ | ⟨n | t⟩
    · exact .null
    · exact .int n
    · rw [LawfulPlatform.eq_str_of_requestId raw t h] at hraw
      exact .str (Text.string?_isSome_iff.mp hraw)
  exact hone.sendable (by decide)

theorem IsSendable.isUnicode_method (h : IsSendable payload)
    (hrequest : checkRequest payload = .ok request) : request.method.IsUnicode := by
  obtain ⟨members, rfl, -, -, hmethod, -⟩ := checkRequest_eq_ok_iff.mp hrequest
  exact Text.string?_isSome_iff.mp (isUnicode_of_lookup h.isUnicode hmethod)

theorem IsSendable.isUnicode_reference (h : IsSendable payload)
    (hrequest : checkRequest payload = .ok request) {references : List Text}
    (hasks : AsksFor request references) (hreference : reference ∈ references) :
    reference.IsUnicode := by
  obtain ⟨members, rfl, -, -, -, hparams⟩ := checkRequest_eq_ok_iff.mp hrequest
  have hunicode : request.params.isUnicode = true := by
    rw [← hparams]
    exact isUnicode_getD_lookup h.isUnicode _
  obtain ⟨inner, hinner, hreferences⟩ := checkQueryRequest_eq_ok_iff.mp hasks.params_ok
  rw [hinner] at hunicode
  have hitems := itemsUnicode_iff.mp (isUnicode_of_lookup hunicode hreferences)
  exact Text.string?_isSome_iff.mp (hitems _ (List.mem_map_of_mem hreference))

/-- **The response to a call that was checked can be sent** if the call and the source bring nothing
that cannot. -/
theorem AnswersCall.ofResponse_eq_body (h : AnswersCall source request json)
    (hsource : source.IsUnicode) (hpayload : IsSendable payload)
    (hrequest : checkRequest payload = .ok request) : Reply.ofResponse json = .body json := by
  have hid : (requestIdToJson request.id).Fits Platform.sendDepth := by
    obtain ⟨members, -, -, hid, -, -⟩ := checkRequest_eq_ok_iff.mp hrequest
    exact fits_requestId hid hpayload.fits_rawId.isUnicode
  cases h with
  | unknownMethod =>
    refine ofResponse_error hid ?_
    exact (Text.isUnicode_ofString _).append (hpayload.isUnicode_method hrequest)
  | health => exact ofResponse_result hid ((Fits.ofString _).sendable (by decide))
  | badParams => exact ofResponse_error hid (Text.isUnicode_ofString _)
  | refused hasks houtcome =>
    refine ofResponse_error hid ?_
    rcases error_of_batch_iff.mp houtcome with ⟨-, rfl⟩ | ⟨before, reference, after, rfl, hfirst⟩
    · exact Text.isUnicode_ofString _
    · have hmem : reference ∈ before ++ reference :: after :=
        List.mem_append_right _ List.mem_cons_self
      exact (refusal_of_resolve hfirst.outcome_eq).isUnicode_message
        (hpayload.isUnicode_reference hrequest hasks hmem) hsource
  | ranges hasks htracks hresults =>
    refine ofResponse_result hid ((Fits.results fun result hresult => ?_).sendable (by decide))
    obtain ⟨reference, hmem, hresolved⟩ := exists_of_forall₂_right hresults hresult
    exact isUnicode_of_resolve hresolved (hpayload.isUnicode_reference hrequest hasks hmem) hsource

/-- **The response to a call can be sent** if the call and the source bring nothing that cannot. -/
theorem Answers.ofResponse_eq_body (h : Answers source bytes json) (hsource : source.IsUnicode)
    (hpayload : ∀ payload, Json.readBytes Platform.callDepth bytes = .ok payload →
      IsSendable payload) : Reply.ofResponse json = .body json := by
  cases h with
  | unread => exact ofResponse_error (Fits.null.sendable (by decide)) (Text.isUnicode_ofString _)
  | unchecked hread =>
    exact ofResponse_error (hpayload _ hread).fits_rawId.finiteOnly (Text.isUnicode_ofString _)
  | checked hread hrequest h => exact h.ofResponse_eq_body hsource (hpayload _ hread) hrequest

/-! ### Every call -/

/-- The first reference that is not resolved is told together with its fault. -/
theorem answer_of_malformed {before after : List Text} {fault : ReferenceFault}
    (hread : Json.readBytes Platform.callDepth bytes = .ok payload) (hpayload : IsSendable payload)
    (hsource : source.IsUnicode) (hrequest : checkRequest payload = .ok request)
    (hasks : AsksFor request (before ++ reference :: after)) (htracks : source.tracksSats = true)
    (hbefore : ∀ b ∈ before, ∃ result, (resolve source b).outcome = .ok result)
    (hparse : OutPoint.parse reference = .error (.malformedReference reference fault)) :
    (answer source bytes).2 = .body (errorResponse (requestIdToJson request.id) invalidParams
      (Error.malformedReference reference fault).message) := by
  have hfirst : FirstUnresolved source before reference (.malformedReference reference fault) :=
    ⟨htracks, hbefore, resolve_of_parse_error hparse⟩
  have houtcome := error_of_batch_iff.mpr (Or.inr ⟨before, reference, after, rfl, hfirst⟩)
  have h : AnswersCall source request _ := .refused hasks houtcome rfl
  rw [(Answers.checked hread hrequest h).reply_eq]
  exact h.ofResponse_eq_body hsource hpayload hrequest

/-- **Every call is answered, or something is too much for it.** A call gets a response object
unless its brackets are too deep, or it is a query whose first reference that is not resolved has an
index of too many digits, or a range with a bound of too many, or there is a surrogate or an
identifier of too many levels in it, or a surrogate among what the source gives. A batch fails with
an error for the caller unless it is for such a number, and a reference that is at fault is told
together with its fault. -/
theorem answered_or_told_why (source : SatSource) (bytes : List UInt8) :
    ((∃ json, (answer source bytes).2 = .body json ∧ IsResponse json) ∨
      (∃ isArray, Json.readBytes Platform.callDepth bytes = .error (.tooDeep isArray) ∧
        (answer source bytes).2 = .fault (.unreadableNesting isArray)) ∨
      (∃ payload request before reference after e,
        Json.readBytes Platform.callDepth bytes = .ok payload ∧ checkRequest payload = .ok request ∧
        AsksFor request (before ++ reference :: after) ∧ TooLong source reference e ∧
        FirstUnresolved source before reference e ∧ (answer source bytes).2 = .fault e) ∨
      ((answer source bytes).2 = .unencodable ∧
        ¬ (source.IsUnicode ∧ ∀ payload, Json.readBytes Platform.callDepth bytes = .ok payload →
          IsSendable payload))) ∧
    (∀ references e, (resolveAll source references).outcome = .error e →
      e.isReportable = true ∨ ∃ before reference after,
        references = before ++ reference :: after ∧ TooLong source reference e ∧
        FirstUnresolved source before reference e) ∧
    ∀ payload request before reference after fault,
      Json.readBytes Platform.callDepth bytes = .ok payload → IsSendable payload →
      source.IsUnicode → checkRequest payload = .ok request →
      AsksFor request (before ++ reference :: after) → source.tracksSats = true →
      (∀ b ∈ before, ∃ result, (resolve source b).outcome = .ok result) →
      OutPoint.parse reference = .error (.malformedReference reference fault) →
      (answer source bytes).2 = .body (errorResponse (requestIdToJson request.id) invalidParams
        (Text.ofString "invalid outpoint '" ++ reference ++
          Text.ofString ("': " ++ fault.message))) := by
  refine ⟨?_, fun references e h => ?_, ?_⟩
  · rcases answer_cases source bytes with ⟨json, h⟩ | hdeep |
      ⟨payload, request, references, e, hread, hrequest, hasks, houtcome, he, hreply⟩
    · rcases ofResponse_cases json with hbody | hunencodable
      · exact Or.inl ⟨json, h.reply_eq.trans hbody, h.isResponse⟩
      · refine Or.inr (Or.inr (Or.inr ⟨h.reply_eq.trans hunencodable, ?_⟩))
        rintro ⟨hsource, hpayload⟩
        rw [h.ofResponse_eq_body hsource hpayload] at hunencodable
        cases hunencodable
    · exact Or.inr (Or.inl hdeep)
    · obtain ⟨before, reference, after, rfl, hlong, hfirst⟩ := tooLong_of_batch houtcome he
      exact Or.inr (Or.inr (Or.inl ⟨payload, request, before, reference, after, e, hread,
        hrequest, hasks, hlong, hfirst, hreply⟩))
  · cases he : e.isReportable with
    | true => exact Or.inl rfl
    | false => exact Or.inr (tooLong_of_batch h he)
  · intro payload request before reference after fault hread hpayload hsource hrequest hasks htracks
      hbefore hparse
    exact answer_of_malformed hread hpayload hsource hrequest hasks htracks hbefore hparse

end

/-- A reference whose index has one digit more than are converted. -/
def longIndexReference : Text :=
  .ofString (String.ofList (List.replicate 64 'a' ++ ':' :: List.replicate 4301 '1'))

theorem longIndexReference_hasLongIndex : OutPoint.HasLongIndex longIndexReference 4301 := by
  refine ⟨List.replicate 64 'a', List.replicate 4301 '1', rfl, by decide, fun c hc => ?_, ?_,
    List.length_replicate, by decide⟩
  · rw [List.eq_of_mem_replicate hc]
    rfl
  · simp

theorem longIndexReference_unresolved {index : SatIndex} (h : index.tracksSats = true) :
    (resolveAll index.source [longIndexReference]).outcome = .error (.tooManyDigits 4301) := by
  have hparse := OutPoint.parse_eq_tooManyDigits_iff.mpr longIndexReference_hasLongIndex
  exact error_of_batch_iff.mpr (Or.inr ⟨[], longIndexReference, [], rfl, h,
    fun b hb => absurd hb List.not_mem_nil, resolve_of_parse_error hparse⟩)

/-- A reference without a colon is told together with its fault, and a batch is broken off at an
index that is too long. -/
theorem told_why_of_two_references :
    (answer SatIndex.empty.source badReferenceBytes).2 =
      .body (errorResponse (.int 1) invalidParams
        (Text.ofString "invalid outpoint '" ++ .ofString "x" ++
          Text.ofString ("': " ++ ReferenceFault.missingSeparator.message))) ∧
    ∃ before reference after, [longIndexReference] = before ++ reference :: after ∧
      TooLong SatIndex.empty.source reference (.tooManyDigits 4301) ∧
      FirstUnresolved SatIndex.empty.source before reference (.tooManyDigits 4301) := by
  obtain ⟨-, hbatch, htold⟩ := answered_or_told_why SatIndex.empty.source badReferenceBytes
  refine ⟨?_, ?_⟩
  · have hsource : SatIndex.empty.source.IsUnicode :=
      SatIndex.isUnicode_source fun entry h => absurd h List.not_mem_nil
    exact htold _ _ [] (.ofString "x") [] .missingSeparator readBytes_badReference
      ⟨rfl, by decide⟩ hsource checkRequest_badReference ⟨rfl, rfl⟩ rfl
      (fun b hb => absurd hb List.not_mem_nil) rfl
  · have hunresolved : (resolveAll SatIndex.empty.source [longIndexReference]).outcome = _ :=
      longIndexReference_unresolved rfl
    exact (hbatch _ _ hunresolved).resolve_left Bool.false_ne_true

/-- Not every batch is resolved or refused with an error for the caller. -/
theorem batch_broken_off :
    ¬ ∀ (index : SatIndex) (references : List Text),
      (∃ results, (resolveAll index.source references).outcome = .ok results) ∨
        ∃ e, (resolveAll index.source references).outcome = .error e ∧ e.isReportable = true := by
  intro h
  have hunresolved : (resolveAll SatIndex.empty.source [longIndexReference]).outcome = _ :=
    longIndexReference_unresolved rfl
  rcases h SatIndex.empty [longIndexReference] with ⟨results, hresults⟩ | ⟨e, he, hreportable⟩
  · rw [hunresolved] at hresults
    cases hresults
  · rw [hunresolved] at he
    cases he
    cases hreportable

end Rpc
end RareSats
