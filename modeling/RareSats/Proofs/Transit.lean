/-
# What was accepted is accepted again

A sender may spell a value in many ways, and it is sent on in one. A check settles a value
if it takes from what is sent on what it took before (`Settles`). That is so for scalars,
and it passes on to lists, to dictionaries and to the members of an object, since a value
that was checked has what the check asks for: an integer of a key is short, no key of a
dictionary comes twice, and an entry has a chunk.

All of it holds for every platform. Two things are in the way of it: a reference with a
surrogate may be sent as another one, and the parameters of a call may not be sent at all.

Key definitions: `Settles`, `outputsToJson`, `blockHashesToJson`.
Key theorems: `Settles.list`, `checkDictionary_map`, `settles_rangeReport`,
`checkSnapshot_eq_ok_iff`, `checkSnapshot_toJson`, `Request.checkRequest_of_toJson`,
`accepted_again`.
-/
import RareSats.Proofs.IntegerText
import RareSats.Proofs.OrderedMap
import RareSats.Proofs.Request
import RareSats.Wire.Snapshot

namespace RareSats

/-- A check takes from what is sent for a value that it took the same value. -/
def Settles {α : Type} (check : Json → Checked α) (send : α → Json) : Prop :=
  ∀ ⦃j : Json⦄ ⦃a : α⦄, check j = .ok a → check (send a) = .ok a

/-! ### Lists -/

section

variable {α β : Type} {check : Json → Checked α} {send : α → Json}

theorem checkList_map {as : List α} (h : ∀ a ∈ as, check (send a) = .ok a) :
    checkList check (.arr (as.map send)) = .ok as := by
  rw [checkList, checkItems_eq_ok_iff, List.forall₂_map_left_iff, List.forall₂_same]
  exact h

theorem exists_of_checkList {j : Json} {as : List α} (h : checkList check j = .ok as) :
    ∀ a ∈ as, ∃ item, check item = .ok a := by
  intro a ha
  cases j with
  | arr items =>
    rw [checkList, checkItems_eq_ok_iff] at h
    obtain ⟨item, -, hitem⟩ := exists_of_forall₂_right h ha
    exact ⟨item, hitem⟩
  | _ => cases h

theorem Settles.list (h : Settles check send) :
    Settles (checkList check) fun as => .arr (as.map send) := by
  intro j as hj
  refine checkList_map fun a ha => ?_
  obtain ⟨item, hitem⟩ := exists_of_checkList hj a ha
  exact h hitem

/-! ### Members of objects -/

variable {members : List (Text × Json)} {sent : List (String × Json)} {name : String} {a : α}

theorem Settles.requiredField (h : Settles check send)
    (hreceived : requiredField members name check = .ok a)
    (hsent : sent.lookup name = some (send a)) :
    requiredField (sent.map fun m => (.ofString m.1, m.2)) name check = .ok a := by
  obtain ⟨j, -, hj⟩ := requiredField_eq_ok_iff.mp hreceived
  rw [requiredField_eq_ok_iff, lookup_map_ofString]
  exact ⟨_, hsent, h hj⟩

/-- What counts for a missing member is settled too. -/
theorem Settles.optionalField (h : Settles check send) {otherwise : α}
    (hotherwise : check (send otherwise) = .ok otherwise)
    (hreceived : optionalField members name otherwise check = .ok a)
    (hsent : sent.lookup name = some (send a)) :
    optionalField (sent.map fun m => (.ofString m.1, m.2)) name otherwise check = .ok a := by
  have hj := (optionalField_eq_ok_iff hotherwise).mp hreceived
  exact optionalField_of_lookup ((lookup_map_ofString sent name).trans hsent) (h hj)

/-! ### Dictionaries -/

variable {checkKey : Text → Checked α} {checkValue : Json → Checked β}

theorem checkEntries_eq_ok_iff {members : List (Text × Json)} {entries : List (α × β)} :
    checkEntries checkKey checkValue members = .ok entries ↔
      List.Forall₂ (fun m e => checkKey m.1 = .ok e.1 ∧ checkValue m.2 = .ok e.2)
        members entries := by
  induction members generalizing entries with
  | nil =>
    rw [checkEntries, List.forall₂_nil_left_iff, Except.ok.injEq]
    exact eq_comm
  | cons m rest ih =>
    rw [checkEntries, Checked.map_eq_ok_iff, List.forall₂_cons_left_iff]
    simp only [Prod.exists, Checked.both_ok_iff, Checked.under_eq_ok_iff, ih]
    constructor
    · rintro ⟨key, value, others, ⟨⟨hkey, hvalue⟩, hothers⟩, rfl⟩
      exact ⟨key, value, others, ⟨hkey, hvalue⟩, hothers, rfl⟩
    · rintro ⟨key, value, others, ⟨hkey, hvalue⟩, hothers, rfl⟩
      exact ⟨key, value, others, ⟨⟨hkey, hvalue⟩, hothers⟩, rfl⟩

variable [DecidableEq α] {entries : List (α × β)} {f : α → Text} {g : β → Json}

/-- No key of a dictionary comes twice, and each of its entries is that of a member. -/
theorem entries_of_checkDictionary {j : Json}
    (h : checkDictionary checkKey checkValue j = .ok entries) :
    (entries.map (·.1)).Nodup ∧ ∃ members, j = .obj members ∧
      ∀ e ∈ entries, ∃ m ∈ members, checkKey m.1 = .ok e.1 ∧ checkValue m.2 = .ok e.2 := by
  cases j with
  | obj members =>
    obtain ⟨checked, hchecked, rfl⟩ := Checked.map_eq_ok_iff.mp h
    rw [checkEntries_eq_ok_iff] at hchecked
    exact ⟨nodup_mapOfEntries checked, members, rfl, fun e he =>
      exists_of_forall₂_right hchecked (mem_of_mem_mapOfEntries he)⟩
  | _ => cases h

theorem checkDictionary_map (hkeys : (entries.map (·.1)).Nodup)
    (hentries : ∀ e ∈ entries, checkKey (f e.1) = .ok e.1 ∧ checkValue (g e.2) = .ok e.2) :
    checkDictionary checkKey checkValue (.obj (entries.map fun e => (f e.1, g e.2))) =
      .ok entries := by
  refine Checked.map_eq_ok_iff.mpr ⟨entries, ?_, mapOfEntries_of_nodup hkeys⟩
  rw [checkEntries_eq_ok_iff, List.forall₂_map_left_iff, List.forall₂_same]
  exact hentries

end

/-! ### Scalars -/

theorem settles_optionalText : Settles checkOptionalText optionalTextToJson := by
  intro j t _
  cases t <;> rfl

theorem settles_kind : Settles checkKind fun k => .ofString k.token := by
  intro j k _
  cases k <;> rfl

theorem settles_queryRequest : Settles checkQueryRequest QueryRequest.toJson := by
  intro j q _
  exact checkQueryRequest_eq_ok_iff.mpr ⟨_, rfl, lookup_map_ofString _ "references"⟩

section

variable [Platform]

theorem settles_natural [LawfulPlatform] : Settles checkNatural .int := by
  intro j n h
  have hn : ¬ n < 0 := by
    unfold checkNatural at h
    split at h
    · split at h
      · cases h
      · cases h
        assumption
    · cases h
  rw [checkNatural, LawfulPlatform.integer_int]
  exact if_neg hn

theorem settles_boolean [LawfulPlatform] : Settles Platform.boolean .bool :=
  fun _ b _ => LawfulPlatform.boolean_bool b

theorem checkChunk_toJson [LawfulPlatform] (c : Chunk) : checkChunk c.toJson = .ok c := by
  have hbound : ∀ i n, [Json.int c.lo, .int c.hi][i]? = some (.int n) →
      checkBound [.int c.lo, .int c.hi] i = .ok n := fun i n hi => by
    rw [checkBound, hi, Checked.under_eq_ok_iff]
    exact LawfulPlatform.integer_int n
  rw [Chunk.toJson, checkChunk, if_neg (by simp), hbound 0 c.lo rfl, hbound 1 c.hi rfl]
  rfl

theorem settles_chunk [LawfulPlatform] : Settles checkChunk Chunk.toJson :=
  fun _ c _ => checkChunk_toJson c

/-! ### Reports -/

theorem checkSomeChunks_eq_ok_iff {j : Json} {chunks : List Chunk} :
    checkSomeChunks j = .ok chunks ↔ checkList checkChunk j = .ok chunks ∧ chunks ≠ [] := by
  unfold checkSomeChunks
  split
  · rename_i hnone
    rw [hnone]
    refine iff_of_false (fun h => by cases h) ?_
    rintro ⟨h, hne⟩
    exact hne (Except.ok.inj h).symm
  · rename_i hsome
    refine ⟨fun h => ⟨h, ?_⟩, fun h => h.1⟩
    rintro rfl
    exact hsome h

theorem settles_someChunks [LawfulPlatform] : Settles checkSomeChunks chunksToJson := by
  intro j chunks h
  rw [checkSomeChunks_eq_ok_iff] at h ⊢
  exact ⟨settles_chunk.list h.1, h.2⟩

theorem checkEntry_eq_ok_iff {j : Json} {e : Entry} :
    checkEntry j = .ok e ↔ ∃ members, j = .obj members ∧
      requiredField members "kind" checkKind = .ok e.kind ∧
      requiredField members "chunks" checkSomeChunks = .ok e.chunks := by
  rw [checkEntry, checkObject_bind_eq_ok_iff]
  refine exists_congr fun members => and_congr_right fun _ => ?_
  simp only [Checked.map_eq_ok_iff, Prod.exists, Checked.both_ok_iff]
  constructor
  · rintro ⟨kind, chunks, h, rfl⟩
    exact h
  · intro h
    exact ⟨e.kind, e.chunks, h, rfl⟩

theorem settles_entry [LawfulPlatform] : Settles checkEntry Entry.toJson := by
  intro j e h
  obtain ⟨members, -, hkind, hchunks⟩ := checkEntry_eq_ok_iff.mp h
  exact checkEntry_eq_ok_iff.mpr
    ⟨_, rfl, settles_kind.requiredField hkind rfl, settles_someChunks.requiredField hchunks rfl⟩

theorem checkRangeReport_eq_ok_iff {j : Json} {r : RangeReport} :
    checkRangeReport j = .ok r ↔ ∃ members, j = .obj members ∧
      requiredField members "start" checkNatural = .ok r.start ∧
      requiredField members "end" checkNatural = .ok r.stop ∧
      optionalField members "rarities" [] (checkList checkEntry) = .ok r.rarities ∧
      requiredField members "block_height" checkNatural = .ok r.blockHeight ∧
      optionalField members "block_hash" none checkOptionalText = .ok r.blockHash := by
  rw [checkRangeReport, checkObject_bind_eq_ok_iff]
  refine exists_congr fun members => and_congr_right fun _ => ?_
  simp only [Checked.map_eq_ok_iff, Prod.exists, Checked.both_ok_iff]
  constructor
  · rintro ⟨start, stop, rarities, height, hash, h, rfl⟩
    exact h
  · intro h
    exact ⟨r.start, r.stop, r.rarities, r.blockHeight, r.blockHash, h, rfl⟩

theorem settles_rangeReport [LawfulPlatform] : Settles checkRangeReport RangeReport.toJson := by
  intro j r h
  obtain ⟨members, -, hstart, hstop, hrarities, hheight, hhash⟩ := checkRangeReport_eq_ok_iff.mp h
  refine checkRangeReport_eq_ok_iff.mpr ⟨_, rfl, ?_, ?_, ?_, ?_, ?_⟩
  · exact settles_natural.requiredField hstart rfl
  · exact settles_natural.requiredField hstop rfl
  · exact settles_entry.list.optionalField rfl hrarities rfl
  · exact settles_natural.requiredField hheight rfl
  · exact settles_optionalText.optionalField rfl hhash rfl

/-! ### Snapshots -/

/-- Ranges of outputs as they are sent, but under the references themselves. -/
def outputsToJson (outputs : List (Text × List Chunk)) : Json :=
  .obj (outputs.map fun o => (o.1, chunksToJson o.2))

/-- Hashes of blocks as they are sent. -/
def blockHashesToJson (hashes : List (Int × Text)) : Json :=
  .obj (hashes.map fun h => (.ofString (toString h.1), .str h.2))

theorem checkDictionary_outputsToJson [LawfulPlatform] {outputs : List (Text × List Chunk)}
    (hkeys : (outputs.map (·.1)).Nodup) :
    checkDictionary .ok (checkList checkChunk) (outputsToJson outputs) = .ok outputs :=
  checkDictionary_map (f := id) hkeys fun _ _ => ⟨rfl, checkList_map fun c _ => checkChunk_toJson c⟩

theorem settles_outputs [LawfulPlatform] :
    Settles (checkDictionary .ok (checkList checkChunk)) outputsToJson :=
  fun _ _ h => checkDictionary_outputsToJson (entries_of_checkDictionary h).1

theorem settles_blockHashes [LawfulPlatform] :
    Settles (checkDictionary (Platform.integer ∘ Json.str) checkText) blockHashesToJson := by
  intro j hashes h
  obtain ⟨hkeys, members, -, hmembers⟩ := entries_of_checkDictionary h
  refine checkDictionary_map (f := fun n => .ofString (toString n)) hkeys fun e he => ?_
  obtain ⟨m, -, hkey, -⟩ := hmembers e he
  exact ⟨integer_toString_of_str hkey, rfl⟩

theorem checkSnapshot_eq_ok_iff {j : Json} {s : Snapshot} :
    checkSnapshot j = .ok s ↔ ∃ members, j = .obj members ∧
      optionalField members "sat_index" true Platform.boolean = .ok s.tracksSats ∧
      optionalField members "outputs" [] (checkDictionary .ok (checkList checkChunk)) =
        .ok s.outputs ∧
      optionalField members "block_hashes" []
        (checkDictionary (Platform.integer ∘ Json.str) checkText) = .ok s.blockHashes := by
  rw [checkSnapshot, checkObject_bind_eq_ok_iff]
  refine exists_congr fun members => and_congr_right fun _ => ?_
  simp only [Checked.map_eq_ok_iff, Prod.exists, Checked.both_ok_iff]
  constructor
  · rintro ⟨tracksSats, outputs, blockHashes, h, rfl⟩
    exact h
  · intro h
    exact ⟨s.tracksSats, s.outputs, s.blockHashes, h, rfl⟩

/-- References without surrogates are sent as they are. -/
theorem mapOfEntries_sentName [LawfulPlatform] {outputs : List (Text × List Chunk)}
    (hkeys : (outputs.map (·.1)).Nodup) (hunicode : ∀ o ∈ outputs, o.1.IsUnicode) :
    Json.obj (mapOfEntries (outputs.map fun o => (Platform.sentName o.1, chunksToJson o.2))) =
      outputsToJson outputs := by
  have hsame : outputs.map (fun o => (Platform.sentName o.1, chunksToJson o.2)) =
      outputs.map fun o => (o.1, chunksToJson o.2) := by
    refine List.map_congr_left fun o ho => ?_
    obtain ⟨name, hname⟩ := hunicode o ho
    rw [hname, LawfulPlatform.sentName_ofString]
  rw [hsame, mapOfEntries_of_nodup, outputsToJson]
  rwa [List.map_map]

/-- **A snapshot is accepted again as it is sent** if no reference in it holds a surrogate. -/
theorem checkSnapshot_toJson [LawfulPlatform] {j : Json} {s : Snapshot}
    (h : checkSnapshot j = .ok s) (hunicode : ∀ o ∈ s.outputs, o.1.IsUnicode) :
    checkSnapshot s.toJson = .ok s := by
  have hnil : checkDictionary .ok (checkList checkChunk) (.obj []) = .ok [] := rfl
  obtain ⟨members, -, htracks, houtputs, hhashes⟩ := checkSnapshot_eq_ok_iff.mp h
  have hkeys : (s.outputs.map (·.1)).Nodup :=
    (entries_of_checkDictionary ((optionalField_eq_ok_iff hnil).mp houtputs)).1
  refine checkSnapshot_eq_ok_iff.mpr ⟨_, rfl, ?_, ?_, ?_⟩
  · exact settles_boolean.optionalField (LawfulPlatform.boolean_bool true) htracks rfl
  · exact settles_outputs.optionalField rfl houtputs
      (congrArg some (mapOfEntries_sentName hkeys hunicode))
  · exact settles_blockHashes.optionalField rfl hhashes rfl

/-! ### Calls -/

theorem Request.toJson_eq_ok_iff {r : Request} {sent : Json} :
    r.toJson = .ok sent ↔ ∃ params, Platform.sentValue r.params = .ok params ∧
      sent = .ofMembers [("jsonrpc", .ofString "2.0"), ("id", requestIdToJson r.id),
        ("method", .str r.method), ("params", params)] := by
  rw [Request.toJson]
  cases Platform.sentValue r.params <;> simp [Except.map, eq_comm]

theorem Request.exists_toJson [LawfulPlatform] {r : Request}
    (h : r.params.Fits Platform.sendDepth) : ∃ sent, r.toJson = .ok sent := by
  obtain ⟨params, hparams⟩ := LawfulPlatform.exists_sentValue _ h
  exact ⟨_, Request.toJson_eq_ok_iff.mpr ⟨params, hparams, rfl⟩⟩

/-- **A call that can be sent is accepted again.** -/
theorem Request.checkRequest_of_toJson [LawfulPlatform] {r : Request}
    (hfree : r.params.isFloatFree = true) {sent : Json} (h : r.toJson = .ok sent) :
    checkRequest sent = .ok r := by
  obtain ⟨params, hparams, rfl⟩ := Request.toJson_eq_ok_iff.mp h
  cases LawfulPlatform.eq_of_sentValue _ _ hfree hparams
  refine checkRequest_eq_ok_iff.mpr ⟨_, rfl, ?_⟩
  simp only [rawId, Json.ofMembers, Json.member?, lookup_map_ofString]
  exact ⟨rfl, requestId_toJson r.id, rfl, rfl⟩

/-- **What was accepted is accepted again as it is sent, and as the same**, on every platform. Two
things are in the way of it: a surrogate in a reference of a snapshot, and parameters of a call that
cannot be sent. Parameters without surrogates and with not too many levels can be. -/
theorem accepted_again [LawfulPlatform] :
    Settles checkEntry Entry.toJson ∧
    Settles checkRangeReport RangeReport.toJson ∧
    Settles checkQueryRequest QueryRequest.toJson ∧
    (∀ j s, checkSnapshot j = .ok s → (∀ o ∈ s.outputs, o.1.IsUnicode) →
      checkSnapshot s.toJson = .ok s) ∧
    ∀ j r, checkRequest j = .ok r → r.params.isFloatFree = true →
      (r.params.Fits Platform.sendDepth → ∃ sent, r.toJson = .ok sent) ∧
      ∀ sent, r.toJson = .ok sent → checkRequest sent = .ok r :=
  ⟨settles_entry, settles_rangeReport, settles_queryRequest, fun _ _ => checkSnapshot_toJson,
    fun _ _ _ hfree =>
      ⟨Request.exists_toJson, fun _ => Request.checkRequest_of_toJson hfree⟩⟩

end

/-- A snapshot in which two members have one height, and a call with a boolean for its identifier,
are accepted again. -/
theorem accepted_again_other_spellings :
    let received : Json := .ofMembers [
      ("block_hashes", .ofMembers [("7", .ofString "a"), (" +0_07.0 ", .ofString "b")]),
      ("outputs", .ofMembers [("x", .arr [.arr [.bool true, .ofString "-0"]])])]
    let snapshot : Snapshot := ⟨true, [(.ofString "x", [⟨1, 0⟩])], [(7, .ofString "b")]⟩
    let call : Json := .ofMembers [
      ("params", .arr [.int 5]), ("id", .bool true), ("method", .ofString "m")]
    let request : Request := ⟨some (.number 1), .ofString "m", .arr [.int 5]⟩
    let sent : Json := .ofMembers [
      ("jsonrpc", .ofString "2.0"), ("id", .int 1), ("method", .ofString "m"),
      ("params", .arr [.int 5])]
    checkSnapshot received = .ok snapshot ∧ checkSnapshot snapshot.toJson = .ok snapshot ∧
      checkRequest call = .ok request ∧ request.toJson = .ok sent ∧
      checkRequest sent = .ok request := by
  intro received snapshot call request sent
  obtain ⟨-, -, -, hsnapshot, hrequest⟩ := accepted_again
  have hunicode : ∀ o ∈ snapshot.outputs, o.1.IsUnicode := by
    intro o ho
    rw [List.mem_singleton.mp ho]
    exact Text.isUnicode_ofString "x"
  have hreceived : checkSnapshot received = .ok snapshot := rfl
  have hcall : checkRequest call = .ok request := rfl
  exact ⟨hreceived, hsnapshot _ _ hreceived hunicode, hcall, rfl,
    (hrequest _ _ hcall rfl).2 sent rfl⟩

theorem Json.isFloatFree_nested (n : Nat) :
    (Nat.repeat (fun j => Json.arr [j]) n .null).isFloatFree = true := by
  induction n with
  | zero => rfl
  | succ n ih => exact Bool.and_eq_true_iff.mpr ⟨ih, rfl⟩

theorem Json.levels_nested (n : Nat) :
    (Nat.repeat (fun j => Json.arr [j]) n .null).levels = n + 1 := by
  induction n with
  | zero => rfl
  | succ n ih => exact congrArg (· + 1) ((Nat.max_zero _).trans ih)

theorem checkRequest_params (params : Json) :
    checkRequest (.ofMembers [("method", .ofString "m"), ("params", params)]) =
      .ok ⟨none, .ofString "m", params⟩ := by
  refine checkRequest_eq_ok_iff.mpr ⟨_, rfl, ?_⟩
  simp only [rawId, Json.ofMembers, Json.member?, lookup_map_ofString]
  exact ⟨rfl, rfl, rfl, rfl⟩

theorem Request.not_exists_toJson {r : Request}
    (h : ¬ (r.params.levels ≤ Json.levelLimit ∧ r.params.namesUnicode = true)) :
    ¬ ∃ sent, r.toJson = .ok sent := by
  rintro ⟨sent, hsent⟩
  obtain ⟨params, hparams, -⟩ := Request.toJson_eq_ok_iff.mp hsent
  exact h (Json.toSent_eq_ok_iff.mp hparams).1

/-- A surrogate in a name in the parameters of a call, or too many levels, and the call cannot be
sent. A reference of a snapshot with a surrogate is sent as another one. -/
theorem not_accepted_again :
    let surrogate : Text := ⟨[.surrogate 0]⟩
    let named : Request := ⟨none, .ofString "m", .obj [(surrogate, .int 1)]⟩
    let nested : Request := ⟨none, .ofString "m", Nat.repeat (fun j => .arr [j]) 256 .null⟩
    let snapshot : Snapshot := ⟨true, [(surrogate, [])], []⟩
    (checkRequest (.ofMembers [
        ("method", .ofString "m"), ("params", .obj [(surrogate, .int 1)])]) = .ok named ∧
      named.params.isFloatFree = true ∧ ¬ ∃ sent, named.toJson = .ok sent) ∧
    (checkRequest (.ofMembers [
        ("method", .ofString "m"), ("params", Nat.repeat (fun j => .arr [j]) 256 .null)]) =
          .ok nested ∧
      nested.params.isFloatFree = true ∧ ¬ ∃ sent, nested.toJson = .ok sent) ∧
    checkSnapshot (.ofMembers [("outputs", .obj [(surrogate, .arr [])])]) = .ok snapshot ∧
      checkSnapshot snapshot.toJson ≠ .ok snapshot := by
  intro surrogate named nested snapshot
  have hnested : ¬ (nested.params.levels ≤ Json.levelLimit ∧
      nested.params.namesUnicode = true) := by
    rw [Json.levels_nested]
    decide
  exact ⟨⟨checkRequest_params _, rfl, Request.not_exists_toJson (by decide)⟩,
    ⟨checkRequest_params _, Json.isFloatFree_nested 256, Request.not_exists_toJson hnested⟩,
    by decide, by decide⟩

end RareSats
