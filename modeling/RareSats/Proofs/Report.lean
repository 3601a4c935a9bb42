/-
# What a report says

A report is made by the rules of the kinds that are decided on their own, some of
which give entries for derived kinds too. Its entries are those of all kinds in
their order, each with the chunks that the kind has on its own, without the kinds
that have none (`reportOf_eq`). So an entry holds exactly the sats of the range that
qualify for its kind, and a kind without an entry has none (`report_covers`); and to
ask for one kind alone gives its entry (`evaluateKind_eq_entry`). No range of one block
is without a report, so bounds have a report exactly if they have a range
(`report_iff_one_height`).

Key definition: `kindChunks`.
Key theorems: `evaluateKind_eq`, `reportOf_eq`, `report_covers`, `evaluateKind_eq_entry`,
`report_iff_one_height`.
-/
import RareSats.Proofs.Kinds

namespace RareSats

/-- The chunks of a range that are of a kind, and none if the kind cannot be decided. -/
def kindChunks (q : QueryRange) (kind : RarityKind) : List Chunk :=
  match evaluateKind kind q with
  | .ok chunks => chunks
  | .error _ => []

/-- The kinds that the rule of a kind decides, in the order of a report. -/
def RarityKind.ofRule (kind : RarityKind) : List RarityKind :=
  RarityKind.all.filter fun k => k.parent = kind

/-- The entry has a chunk. -/
def Entry.IsListed (e : Entry) : Bool :=
  !e.chunks.isEmpty

theorem evaluateKind_eq {q : QueryRange} (hq : q.OneBlock) (kind : RarityKind) :
    evaluateKind kind q = .ok (kindChunks q kind) := by
  obtain ⟨chunks, hchunks, -⟩ := hq.evaluateKind_exact kind
  rw [kindChunks, hchunks]

theorem kindChunks_of_evaluate {q : QueryRange} (kind : RarityKind) {entries : List Entry}
    (h : evaluate kind q = .ok entries) : kindChunks q kind = chunksOf kind entries := by
  rw [kindChunks, evaluateKind, h]
  rfl

theorem kindChunks_exact {q : QueryRange} (hq : q.OneBlock) (kind : RarityKind) :
    q.Exact (Qualifies kind) (kindChunks q kind) := by
  obtain ⟨chunks, hchunks, hexact⟩ := hq.evaluateKind_exact kind
  rw [kindChunks, hchunks]
  exact hexact

/-! ### Entries and their kinds -/

theorem chunksOf_of_mem {entries : List Entry} (hkinds : (entries.map (·.kind)).Nodup) {e : Entry}
    (he : e ∈ entries) : chunksOf e.kind entries = e.chunks := by
  induction entries with
  | nil => cases he
  | cons first rest ih =>
    rw [List.map_cons, List.nodup_cons] at hkinds
    rcases List.mem_cons.mp he with rfl | hrest
    · simp [chunksOf]
    · have hne : first.kind ≠ e.kind := fun heq =>
        hkinds.1 (heq ▸ List.mem_map.mpr ⟨e, hrest, rfl⟩)
      have hfind := ih hkinds.2 hrest
      simpa [chunksOf, List.find?_cons, hne] using hfind

/-- Entries of different kinds are known by their kinds and what is found for them. -/
theorem eq_map_chunksOf {entries : List Entry} (hkinds : (entries.map (·.kind)).Nodup) :
    entries = (entries.map (·.kind)).map fun k => ⟨k, chunksOf k entries⟩ := by
  rw [List.map_map]
  refine (List.map_id entries).symm.trans (List.map_congr_left fun e he => ?_)
  simp only [Function.comp_apply, chunksOf_of_mem hkinds he, id]

theorem map_kind_of_map {found : Except Error (List Int)} {make : List Int → List Entry}
    {kinds : List RarityKind} {entries : List Entry} (h : found.map make = .ok entries)
    (hmake : ∀ l, (make l).map (·.kind) = kinds) : entries.map (·.kind) = kinds := by
  cases found with
  | error e => cases h
  | ok l =>
    cases h
    exact hmake l

/-- A rule gives entries for all of its kinds or none at all. -/
theorem map_kind_evaluate {kind : RarityKind} (hkind : kind ∈ RarityKind.evaluated) {q : QueryRange}
    {entries : List Entry} (h : evaluate kind q = .ok entries) :
    entries = [] ∨ entries.map (·.kind) = kind.ofRule := by
  cases kind with
  | vintage | nakamoto | block78 | block286 | block666 =>
    cases h
    exact Or.inr rfl
  | block9 | firstTransaction =>
    rw [evaluate] at h
    split at h
    · cases h
      exact Or.inr rfl
    · cases h
      exact Or.inl rfl
  | pizza =>
    rw [evaluate, evaluateCurated, curatedRanges_pizza] at h
    cases h
    exact Or.inr rfl
  | palindrome =>
    rw [evaluate, evaluatePalindromes] at h
    cases hheight : checkPalindrome q.height with
    | error e =>
      rw [hheight] at h
      cases h
    | ok isPaliblock =>
      rw [hheight] at h
      replace h : (palindromes q.start (q.stop - 1) >>= fun found => pure _) = .ok entries := h
      rw [bind_pure_comp] at h
      exact Or.inr (map_kind_of_map h fun _ => rfl)
  | alpha | omega =>
    rw [evaluate] at h
    exact Or.inr (map_kind_of_map h fun _ => rfl)
  | block9_450 | perfectPalinception | uniformPalinception | paliblockPalindrome =>
    exact absurd hkind (by decide)

theorem ofRule_nodup (kind : RarityKind) : kind.ofRule.Nodup := by
  cases kind <;> decide

theorem flatMap_ofRule : RarityKind.evaluated.flatMap RarityKind.ofRule = RarityKind.all := by
  decide

theorem filter_evaluate {kind : RarityKind} (hkind : kind ∈ RarityKind.evaluated) {q : QueryRange}
    {entries : List Entry} (h : evaluate kind q = .ok entries) :
    entries.filter Entry.IsListed =
      (kind.ofRule.map fun k => ⟨k, chunksOf k entries⟩).filter Entry.IsListed := by
  rcases map_kind_evaluate hkind h with rfl | hkinds
  · refine (List.filter_eq_nil_iff.mpr fun e he => ?_).symm
    obtain ⟨k, -, rfl⟩ := List.mem_map.mp he
    simp [Entry.IsListed, chunksOf]
  · rw [← hkinds, ← eq_map_chunksOf (hkinds ▸ ofRule_nodup kind)]

/-! ### The report -/

variable {q : QueryRange} (hq : q.OneBlock)

include hq

/-- A rule gives its kinds the chunks that they have on their own. -/
theorem evaluate_listed {kind : RarityKind} (hkind : kind ∈ RarityKind.evaluated) :
    ∃ entries, evaluate kind q = .ok entries ∧ entries.filter Entry.IsListed =
      (kind.ofRule.map fun k => ⟨k, kindChunks q k⟩).filter Entry.IsListed := by
  have hown := evaluateKind_eq hq kind
  cases hentries : evaluate kind q with
  | error e =>
    rw [evaluateKind, hentries] at hown
    cases hown
  | ok entries =>
    refine ⟨entries, rfl, ?_⟩
    rw [filter_evaluate hkind hentries]
    congr 1
    refine List.map_congr_left fun k hk => ?_
    have hparent : k.parent = kind := by
      simpa [RarityKind.ofRule, RarityKind.mem_all] using hk
    rw [← hparent, evaluate_parent] at hentries
    rw [kindChunks_of_evaluate k hentries]

theorem evaluateAll_listed {kinds : List RarityKind}
    (hkinds : ∀ k ∈ kinds, k ∈ RarityKind.evaluated) :
    ∃ entries, evaluateAll q kinds = .ok entries ∧ entries.filter Entry.IsListed =
      ((kinds.flatMap RarityKind.ofRule).map fun k =>
        ⟨k, kindChunks q k⟩).filter Entry.IsListed := by
  induction kinds with
  | nil => exact ⟨[], rfl, rfl⟩
  | cons kind rest ih =>
    obtain ⟨first, hfirst, hlisted⟩ := evaluate_listed hq (hkinds kind List.mem_cons_self)
    obtain ⟨others, hothers, hrest⟩ := ih fun k hk => hkinds k (List.mem_cons_of_mem _ hk)
    refine ⟨first ++ others, ?_, ?_⟩
    · rw [evaluateAll, hfirst, hothers]
      rfl
    · rw [List.filter_append, hlisted, hrest, List.flatMap_cons, List.map_append,
        List.filter_append]

/-- **A report lists all kinds in their order, without those that have no chunk.** -/
theorem reportOf_eq : reportOf q =
    .ok ((RarityKind.all.map fun k => ⟨k, kindChunks q k⟩).filter Entry.IsListed) := by
  obtain ⟨entries, hentries, hlisted⟩ := evaluateAll_listed hq fun k hk => hk
  rw [flatMap_ofRule] at hlisted
  rw [← hlisted, reportOf, hentries]
  rfl

omit hq

theorem reportUnder_of_accepted {limit : DigitLimit} {start stop : Int}
    (h : QueryRange.ofUnder limit start stop = .ok q) : reportUnder limit start stop =
      .ok ((RarityKind.all.map fun k => ⟨k, kindChunks q k⟩).filter Entry.IsListed) := by
  obtain ⟨-, -, hq⟩ := QueryRange.ofUnder_eq_ok_iff.mp h
  rw [reportUnder, h]
  exact reportOf_eq hq

theorem report_of_accepted {start stop : Int} (h : QueryRange.of start stop = .ok q) :
    report start stop =
      .ok ((RarityKind.all.map fun k => ⟨k, kindChunks q k⟩).filter Entry.IsListed) :=
  reportUnder_of_accepted h

/-- **A report covers exactly the sats that qualify.** Every range of one block has a report. Its
entries are of different kinds, and a sat lies in a chunk of the entry of a kind exactly if it lies
in the range and qualifies for the kind. -/
theorem report_covers {start stop : Int} (h : QueryRange.of start stop = .ok q) :
    ∃ entries, report start stop = .ok entries ∧ (entries.map (·.kind)).Nodup ∧
      ∀ (kind : RarityKind) (n : Int),
        (∃ e ∈ entries, e.kind = kind ∧ ∃ c ∈ e.chunks, c.Holds n) ↔
          start ≤ n ∧ n < stop ∧ ∃ s : Sat, (s.index : Int) = n ∧ Qualifies kind s := by
  obtain ⟨rfl, rfl, hq⟩ := QueryRange.of_eq_ok_iff.mp h
  refine ⟨_, report_of_accepted h, ?_, fun kind n => ?_⟩
  · refine (List.filter_sublist.map _).nodup ?_
    rw [List.map_map]
    exact (by decide : RarityKind.all.Nodup)
  · rw [← kindChunks_exact hq kind n]
    simp only [List.mem_filter, List.mem_map]
    refine ⟨fun h => ?_, fun h => ?_⟩
    · obtain ⟨e, ⟨⟨k, -, rfl⟩, -⟩, rfl, hholds⟩ := h
      exact hholds
    · obtain ⟨c, hc, hcn⟩ := h
      refine ⟨⟨kind, kindChunks q kind⟩, ⟨⟨kind, RarityKind.mem_all kind, rfl⟩, ?_⟩, rfl, c, hc, hcn⟩
      have hne : kindChunks q kind ≠ [] := List.ne_nil_of_mem hc
      simpa [Entry.IsListed] using hne

/-- A range of two sats of block 9, and what its report covers. -/
theorem report_covers_end_of_first_coins :
    QueryRange.of 45099999999 45100000001 = .ok ⟨45099999999, 45100000001, 9⟩ ∧
    ∃ entries, report 45099999999 45100000001 = .ok entries ∧ (entries.map (·.kind)).Nodup ∧
      ∀ (kind : RarityKind) (n : Int),
        (∃ e ∈ entries, e.kind = kind ∧ ∃ c ∈ e.chunks, c.Holds n) ↔
          45099999999 ≤ n ∧ n < 45100000001 ∧
            ∃ s : Sat, (s.index : Int) = n ∧ Qualifies kind s := by
  have h : QueryRange.of 45099999999 45100000001 = .ok ⟨45099999999, 45100000001, 9⟩ := rfl
  exact ⟨h, report_covers h⟩

/-! ### One kind alone -/

/-- The parent of a kind has a rule of its own, which decides the kind too. -/
theorem ownRule_parent (kind : RarityKind) : ownRule kind.parent = .ok (evaluate kind) := by
  rw [ownRule, if_pos kind.parent_mem_evaluated]
  exact congrArg Except.ok (funext (evaluate_parent kind))

theorem mem_listed_iff {e : Entry} :
    e ∈ (RarityKind.all.map fun k => ⟨k, kindChunks q k⟩).filter Entry.IsListed ↔
      e.chunks = kindChunks q e.kind ∧ e.chunks ≠ [] := by
  have hlisted : e.IsListed = true ↔ e.chunks ≠ [] := by simp [Entry.IsListed]
  rw [List.mem_filter, hlisted, List.mem_map]
  refine and_congr_left fun _ => ⟨fun h => ?_, fun h => ?_⟩
  · obtain ⟨k, -, rfl⟩ := h
    rfl
  · exact ⟨e.kind, e.kind.mem_all, by rw [← h]⟩

/-- **A kind that is asked for alone has the chunks of its entry.** Every range of one block has a
report, and every kind can be decided alone, by the rule of its parent. The chunks are those of the
entry of the kind if the report has one, and there are none exactly if it has no such entry. -/
theorem evaluateKind_eq_entry {start stop : Int} (h : QueryRange.of start stop = .ok q) :
    ∃ entries, report start stop = .ok entries ∧ ∀ kind, ∃ chunks,
      evaluateKind kind q = .ok chunks ∧
      (∃ rule, ownRule kind.parent = .ok rule ∧ (rule q).map (chunksOf kind) = .ok chunks) ∧
      (∀ e ∈ entries, e.kind = kind → e.chunks = chunks) ∧
      (chunks = [] ↔ ∀ e ∈ entries, e.kind ≠ kind) := by
  obtain ⟨rfl, rfl, hq⟩ := QueryRange.of_eq_ok_iff.mp h
  refine ⟨_, report_of_accepted h, fun kind => ⟨_, evaluateKind_eq hq kind, ?_⟩⟩
  refine ⟨⟨evaluate kind, ownRule_parent kind, evaluateKind_eq hq kind⟩, fun e he hkind => ?_,
    fun hnil e he hkind => ?_, fun hnone => ?_⟩
  · rw [← hkind]
    exact (mem_listed_iff.mp he).1
  · obtain ⟨hchunks, hne⟩ := mem_listed_iff.mp he
    rw [hkind, hnil] at hchunks
    exact hne hchunks
  · by_contra hne
    exact hnone ⟨kind, kindChunks q kind⟩ (mem_listed_iff.mpr ⟨rfl, hne⟩) rfl

/-- Every kind alone, over three coins of block 9. -/
theorem evaluateKind_eq_entry_in_block9 :
    QueryRange.of 45000000000 45300000000 = .ok ⟨45000000000, 45300000000, 9⟩ ∧
    ∃ entries, report 45000000000 45300000000 = .ok entries ∧ ∀ kind, ∃ chunks,
      evaluateKind kind ⟨45000000000, 45300000000, 9⟩ = .ok chunks ∧
      (∃ rule, ownRule kind.parent = .ok rule ∧
        (rule ⟨45000000000, 45300000000, 9⟩).map (chunksOf kind) = .ok chunks) ∧
      (∀ e ∈ entries, e.kind = kind → e.chunks = chunks) ∧
      (chunks = [] ↔ ∀ e ∈ entries, e.kind ≠ kind) := by
  have h : QueryRange.of 45000000000 45300000000 = .ok ⟨45000000000, 45300000000, 9⟩ := rfl
  exact ⟨h, evaluateKind_eq_entry h⟩

/-! ### Bounds that are refused -/

theorem reportUnder_of_refused {limit : DigitLimit} {start stop : Int} {e : Error}
    (h : QueryRange.ofUnder limit start stop = .error e) :
    reportUnder limit start stop = .error e := by
  rw [reportUnder, h]
  rfl

theorem exists_reportUnder_iff {limit : DigitLimit} {start stop : Int} :
    (∃ entries, reportUnder limit start stop = .ok entries) ↔
      ∃ q, QueryRange.ofUnder limit start stop = .ok q := by
  cases hof : QueryRange.ofUnder limit start stop with
  | error e =>
    rw [reportUnder_of_refused hof]
    exact iff_of_false (fun ⟨_, h⟩ => by cases h) (fun ⟨_, h⟩ => by cases h)
  | ok q => exact iff_of_true ⟨_, reportUnder_of_accepted hof⟩ ⟨q, rfl⟩

/-- **Bounds have a range and a report exactly if the sats between them are of one height**, which
then is the height of the range, whatever the limit on numbers that are written. Without a limit all
other bounds have a fault that is told for the range and for the report alike, and no other error is
met. -/
theorem report_iff_one_height (start stop : Int) :
    (∀ limit,
      ((∃ q, QueryRange.ofUnder limit start stop = .ok q) ↔ QueryRange.Admissible start stop) ∧
      ((∃ entries, reportUnder limit start stop = .ok entries) ↔
        QueryRange.Admissible start stop) ∧
      ∀ q, QueryRange.ofUnder limit start stop = .ok q → q.start = start ∧ q.stop = stop ∧
        ∀ s : Sat, start ≤ s.index → (s.index : Int) < stop → q.height = s.height) ∧
    (¬ QueryRange.Admissible start stop → ∃ fault : RangeFault,
      QueryRange.ofUnder .unlimited start stop = .error (.invalidRange fault) ∧
      reportUnder .unlimited start stop = .error (.invalidRange fault)) := by
  refine ⟨fun limit => ⟨QueryRange.exists_ofUnder_eq_ok_iff,
    exists_reportUnder_iff.trans QueryRange.exists_ofUnder_eq_ok_iff, fun q hof => ?_⟩,
    fun hbounds => ?_⟩
  · obtain ⟨rfl, rfl, hq⟩ := QueryRange.ofUnder_eq_ok_iff.mp hof
    exact ⟨rfl, rfl, hq.height_eq⟩
  · cases hof : QueryRange.ofUnder .unlimited start stop with
    | error e =>
      obtain ⟨fault, rfl⟩ := QueryRange.exists_fault_of_unlimited hof
      exact ⟨fault, rfl, reportUnder_of_refused hof⟩
    | ok q => exact absurd (QueryRange.exists_ofUnder_eq_ok_iff.mp ⟨q, hof⟩) hbounds

/-- Over the first halving there is neither a range nor a report. -/
theorem report_over_first_halving :
    ¬ QueryRange.Admissible 1049999999999999 1050000000000001 ∧ ∃ fault : RangeFault,
      QueryRange.ofUnder .unlimited 1049999999999999 1050000000000001 =
        .error (.invalidRange fault) ∧
      reportUnder .unlimited 1049999999999999 1050000000000001 = .error (.invalidRange fault) := by
  obtain ⟨hbounds, hrefused⟩ := report_iff_one_height 1049999999999999 1050000000000001
  have hnone : ¬ QueryRange.Admissible 1049999999999999 1050000000000001 := fun h => by
    obtain ⟨q, hq⟩ := (hbounds .unlimited).1.mpr h
    cases hq
  exact ⟨hnone, hrefused hnone⟩

end RareSats
