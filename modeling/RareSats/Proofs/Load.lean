/-
# A stored index is loaded as it was made

A snapshot is stored as an object with its three members, heights written as decimal texts.
If its integers are short and no text in it holds a surrogate, the object is read from its
own text (`Snapshot.readUnicode_render`), and the snapshot is accepted from it, in whatever
order the members come (`Snapshot.checkSnapshot_ofMembers`). So loading the text fails
exactly if the entries make no index, and gives the index that the entries make
(`SatIndex.ofText_stored`).

Key definitions: `Snapshot.stored`, `Snapshot.IsStorable`.
Key theorems: `Snapshot.isPlain_ofMembers`, `Snapshot.readUnicode_render`,
`Snapshot.checkSnapshot_ofMembers`, `SatIndex.ofText_stored`.
-/
import RareSats.Index.Load
import RareSats.Proofs.JsonText
import RareSats.Proofs.SatIndex
import RareSats.Proofs.Transit

namespace RareSats

/-! ### What is stored -/

/-- The members of a snapshot as it is stored. -/
def Snapshot.stored (s : Snapshot) : List (String × Json) :=
  [("outputs", outputsToJson s.outputs),
    ("block_hashes", blockHashesToJson s.blockHashes),
    ("sat_index", .bool s.tracksSats)]

/-- A snapshot that can be stored: each output and each height has one entry, integers have not
more digits than are ever converted, and no text holds a surrogate. -/
structure Snapshot.IsStorable (s : Snapshot) : Prop where
  nodup_references : (s.outputs.map (·.1)).Nodup
  nodup_heights : (s.blockHashes.map (·.1)).Nodup
  unicode_references : ∀ o ∈ s.outputs, o.1.IsUnicode
  unicode_hashes : ∀ h ∈ s.blockHashes, h.2.IsUnicode
  short_bounds : ∀ o ∈ s.outputs, ∀ c ∈ o.2,
    c.lo.natAbs < 10 ^ Error.digitLimit ∧ c.hi.natAbs < 10 ^ Error.digitLimit
  short_heights : ∀ h ∈ s.blockHashes, h.1.natAbs < 10 ^ Error.digitLimit

namespace Snapshot

variable {s : Snapshot} {members : List (String × Json)}

/-! ### The text of what is stored -/

theorem isPlain_outputsToJson (h : s.IsStorable) : (outputsToJson s.outputs).IsPlain := by
  refine ⟨by rw [List.map_map]; exact h.nodup_references, Json.membersPlain_iff.mpr ?_⟩
  intro m hm
  obtain ⟨o, ho, rfl⟩ := List.mem_map.mp hm
  refine ⟨h.unicode_references o ho, Json.itemsPlain_iff.mpr fun j hj => ?_⟩
  obtain ⟨c, hc, rfl⟩ := List.mem_map.mp hj
  obtain ⟨hlo, hhi⟩ := h.short_bounds o ho c hc
  exact ⟨hlo, hhi, trivial⟩

theorem toString_injOn_short {m n : Int} (hm : m.natAbs < 10 ^ Error.digitLimit)
    (hn : n.natAbs < 10 ^ Error.digitLimit) (h : toString m = toString n) : m = n := by
  have hread := integerOfText_decimal hm
  rw [← toList_toString, h, toList_toString, integerOfText_decimal hn] at hread
  exact (Except.ok.inj hread).symm

theorem isPlain_blockHashesToJson (h : s.IsStorable) :
    (blockHashesToJson s.blockHashes).IsPlain := by
  refine ⟨?_, Json.membersPlain_iff.mpr fun m hm => ?_⟩
  · have hnames : (s.blockHashes.map fun h => (Text.ofString (toString h.1), Json.str h.2)).map
        (·.1) = (s.blockHashes.map (·.1)).map fun n => Text.ofString (toString n) := by
      rw [List.map_map, List.map_map]
      rfl
    rw [hnames]
    refine List.Nodup.map_on (fun a ha b hb heq => ?_) h.nodup_heights
    have hshort : ∀ n ∈ s.blockHashes.map (·.1), n.natAbs < 10 ^ Error.digitLimit :=
      List.forall_mem_map.mpr h.short_heights
    exact toString_injOn_short (hshort a ha) (hshort b hb) (Text.ofString_injective heq)
  · obtain ⟨e, he, rfl⟩ := List.mem_map.mp hm
    exact ⟨Text.isUnicode_ofString _, h.unicode_hashes e he⟩

theorem nodup_names_stored (s : Snapshot) : (s.stored.map (·.1)).Nodup := by
  have hnames : s.stored.map (·.1) = ["outputs", "block_hashes", "sat_index"] := rfl
  rw [hnames]
  decide

theorem isPlain_ofMembers (h : s.IsStorable) (hmembers : members.Perm s.stored) :
    (Json.ofMembers members).IsPlain := by
  have hnames : (members.map (·.1)).Nodup :=
    (hmembers.map _).nodup_iff.mpr (nodup_names_stored s)
  have hvalues : ∀ m ∈ s.stored, m.2.IsPlain := by
    simp only [stored, List.forall_mem_cons]
    exact ⟨isPlain_outputsToJson h, isPlain_blockHashesToJson h, trivial, List.forall_mem_nil _⟩
  refine ⟨?_, Json.membersPlain_iff.mpr fun m hm => ?_⟩
  · have hsame : (members.map fun m => (Text.ofString m.1, m.2)).map (·.1) =
        (members.map (·.1)).map Text.ofString := by
      rw [List.map_map, List.map_map]
      rfl
    rw [hsame]
    exact hnames.map fun _ _ => Text.ofString_injective
  · obtain ⟨m', hm', rfl⟩ := List.mem_map.mp hm
    exact ⟨Text.isUnicode_ofString _, hvalues m' (hmembers.mem_iff.mp hm')⟩

theorem levels_ofMembers_le (hmembers : members.Perm s.stored) :
    (Json.ofMembers members).levels ≤ 5 := by
  have houtputs : (outputsToJson s.outputs).levels ≤ 4 := by
    refine Nat.succ_le_succ (Json.membersLevels_le_iff.mpr fun m hm => ?_)
    obtain ⟨o, -, rfl⟩ := List.mem_map.mp hm
    exact (fits_arr_map fun c _ => c.fits_toJson).levels_le
  have hhashes : (blockHashesToJson s.blockHashes).levels ≤ 4 := by
    refine Nat.succ_le_succ (Json.membersLevels_le_iff.mpr fun m hm => ?_)
    obtain ⟨e, -, rfl⟩ := List.mem_map.mp hm
    exact Nat.le_succ_of_le (Nat.le_succ_of_le (Nat.le_refl 1))
  have hvalues : ∀ m ∈ s.stored, m.2.levels ≤ 4 := by
    simp only [stored, List.forall_mem_cons]
    exact ⟨houtputs, hhashes, Nat.succ_le_succ (Nat.zero_le 3), List.forall_mem_nil _⟩
  refine Nat.succ_le_succ (Json.membersLevels_le_iff.mpr fun m hm => ?_)
  obtain ⟨m', hm', rfl⟩ := List.mem_map.mp hm
  exact hvalues m' (hmembers.mem_iff.mp hm')

section

variable [Platform] [LawfulPlatform]

/-- **What is stored is read from its own text.** -/
theorem readUnicode_render (h : s.IsStorable) (hmembers : members.Perm s.stored) :
    Json.readUnicode Platform.fileDepth (Json.ofMembers members).render =
      .ok (.ofMembers members) :=
  Json.readUnicode_render (isPlain_ofMembers h hmembers)
    (Nat.le_trans (levels_ofMembers_le hmembers) LawfulPlatform.five_le_fileDepth)

/-! ### The check of what is stored -/

theorem checkDictionary_blockHashesToJson (h : s.IsStorable) :
    checkDictionary (Platform.integer ∘ Json.str) checkText (blockHashesToJson s.blockHashes) =
      .ok s.blockHashes := by
  refine checkDictionary_map (f := fun n => .ofString (toString n)) h.nodup_heights fun e he => ?_
  exact ⟨LawfulPlatform.integer_toString e.1 (h.short_heights e he), rfl⟩

/-- **A snapshot is accepted from what is stored of it.** -/
theorem checkSnapshot_ofMembers (h : s.IsStorable) (hmembers : members.Perm s.stored) :
    checkSnapshot (.ofMembers members) = .ok s := by
  have hlookup : ∀ name, (members.map fun m => (Text.ofString m.1, m.2)).lookup (.ofString name) =
      s.stored.lookup name := fun name => by
    have hnames := (hmembers.map _).nodup_iff.mpr (nodup_names_stored s)
    rw [lookup_map_ofString, lookup_eq_of_perm hmembers hnames]
  refine checkSnapshot_eq_ok_iff.mpr ⟨_, rfl, ?_, ?_, ?_⟩
  · exact optionalField_of_lookup (hlookup "sat_index") (LawfulPlatform.boolean_bool s.tracksSats)
  · exact optionalField_of_lookup (hlookup "outputs")
      (checkDictionary_outputsToJson h.nodup_references)
  · exact optionalField_of_lookup (hlookup "block_hashes") (checkDictionary_blockHashesToJson h)

end

end Snapshot

/-! ### Loading -/

/-- **Loading gives what the entries make.** The members may be stored in any order, and the text be
any one that is read as them; their own text is one. Loading fails only where the entries make no
index, with the same error, and gives the same index otherwise, which so has the same number of
outputs and the same answer to every lookup. -/
theorem SatIndex.ofText_stored [Platform] [LawfulPlatform] {s : Snapshot} (h : s.IsStorable)
    {members : List (String × Json)}
    (hmembers : members.Perm s.stored) :
    Json.readUnicode Platform.fileDepth (Json.ofMembers members).render = .ok (.ofMembers members) ∧
      ∀ text, Json.readUnicode Platform.fileDepth text = .ok (.ofMembers members) →
        ofText text =
          (ofEntries s.outputs s.blockHashes s.tracksSats).mapError LoadError.rejected := by
  refine ⟨Snapshot.readUnicode_render h hmembers, fun text htext => ?_⟩
  simp only [ofText, htext, ofJson, Snapshot.checkSnapshot_ofMembers h hmembers, ofSnapshot]
  cases ofEntries s.outputs s.blockHashes s.tracksSats <;> rfl

/-- Two entries for one output, which differ in the case of letters, and the hash of a block below
the first one. -/
def storedSpellings : Snapshot where
  tracksSats := false
  outputs := [(OutPoint.repeatedReference 'A', [⟨-5, 0⟩]), (OutPoint.repeatedReference 'a', [])]
  blockHashes := [(-7, .ofString "h")]

theorem isStorable_storedSpellings : storedSpellings.IsStorable where
  nodup_references := by decide
  nodup_heights := by decide
  unicode_references := by
    simp only [storedSpellings, List.forall_mem_cons]
    exact ⟨Text.isUnicode_ofString _, Text.isUnicode_ofString _, List.forall_mem_nil _⟩
  unicode_hashes := by
    simp only [storedSpellings, List.forall_mem_cons]
    exact ⟨Text.isUnicode_ofString _, List.forall_mem_nil _⟩
  short_bounds := by
    have hten : 10 ^ 1 ≤ 10 ^ Error.digitLimit := Nat.pow_le_pow_right (by decide) (by decide)
    simp only [storedSpellings, List.forall_mem_cons]
    exact ⟨⟨⟨Nat.lt_of_lt_of_le (by decide) hten, Nat.lt_of_lt_of_le (by decide) hten⟩,
      List.forall_mem_nil _⟩, List.forall_mem_nil _, List.forall_mem_nil _⟩
  short_heights := by
    have hten : 10 ^ 1 ≤ 10 ^ Error.digitLimit := Nat.pow_le_pow_right (by decide) (by decide)
    simp only [storedSpellings, List.forall_mem_cons]
    exact ⟨Nat.lt_of_lt_of_le (by decide) hten, List.forall_mem_nil _⟩

/-- The text in which the members are in reverse order is loaded, and of two entries for one output
it brings the later one. -/
theorem SatIndex.ofText_stored_spellings :
    let output : OutPoint := ⟨String.ofList (List.replicate 64 'a'), 7⟩
    ofText (Json.ofMembers storedSpellings.stored.reverse).render =
      .ok ⟨false, [(output, [])], [(-7, .ofString "h")]⟩ := by
  intro output
  have hcapital : OutPoint.parse (OutPoint.repeatedReference 'A') = .ok output :=
    OutPoint.parse_repeatedReference rfl
  have hsmall : OutPoint.parse (OutPoint.repeatedReference 'a') = .ok output :=
    OutPoint.parse_repeatedReference rfl
  obtain ⟨hread, hload⟩ :=
    ofText_stored isStorable_storedSpellings (List.reverse_perm storedSpellings.stored)
  have hmade : ofEntries storedSpellings.outputs storedSpellings.blockHashes false =
      .ok ⟨false, [(output, [])], [(-7, .ofString "h")]⟩ := by
    refine (ofEntries_eq_ok_iff isStorable_storedSpellings.nodup_references).mpr
      ⟨[(output, [⟨-5, 0⟩]), (output, [])],
        .cons ⟨hcapital, rfl⟩ (.cons ⟨hsmall, rfl⟩ .nil), ?_⟩
    simp [storedSpellings, mapOfEntries, putEntry]
  exact (hload _ hread).trans (congrArg _ hmade)

end RareSats
