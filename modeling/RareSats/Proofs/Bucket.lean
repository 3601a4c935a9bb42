/-
# What the buckets hold

The bucket of a height holds the intervals of the height, in the order in which
they came, however the intervals of other heights come between them
(`bucketByHeight_at`). An interval is compared with the last one of its bucket only.
As those in the bucket follow one another, that is to compare it with all of them, so
the intervals of one height follow one another as long as all are filed: this is a part
of what one insertion keeps (`Buckets.Filed.insert`). Intervals that hold a sat each, and
of which two of one height follow one another, are bucketed (`bucketByHeight_ok`); else
the first interval that is rejected behind those before it decides the error
(`bucketByHeight_eq_error_iff`).

Key definitions: `chunksAt`, `Follows`, `Rejected`, `Buckets.Hold`, `Buckets.Filed`.
Key theorems: `bucketInsert_eq_ok_iff`, `bucketInsert_eq_error_iff`,
`Buckets.Filed.insert`, `bucketByHeight_at`, `bucketByHeight_ok`,
`bucketByHeight_eq_error_iff`, `bucketByHeight_exact`.
-/
import RareSats.Curated.Bucket
import RareSats.Proofs.Chunk
import RareSats.Proofs.DigitLimit
import RareSats.Proofs.OrderedMap

namespace RareSats

variable {satsPerBlock : Int} {buckets buckets' : Buckets} {c : Chunk} {chunks done : List Chunk}
  {e : Error}

/-! ### One insertion -/

theorem Buckets.at_putEntry (key : Int) (bucket : List Chunk) (buckets : Buckets) (height : Int) :
    Buckets.at (putEntry key bucket buckets) height =
      if height = key then bucket else buckets.at height := by
  unfold Buckets.at
  rw [lookup_putEntry]
  split <;> rfl

/-- **One insertion.** An interval goes to the end of the bucket of its height, if it holds a sat
and starts no earlier than the last one there ends. -/
theorem bucketInsert_eq_ok_iff :
    bucketInsert satsPerBlock buckets c = .ok buckets' ↔
      c.lo < c.hi ∧ satsPerBlock ≠ 0 ∧
      (∀ prev, (buckets.at (c.lo.fdiv satsPerBlock)).getLast? = some prev → prev.hi ≤ c.lo) ∧
      buckets' = putEntry (c.lo.fdiv satsPerBlock)
        (buckets.at (c.lo.fdiv satsPerBlock) ++ [c]) buckets := by
  unfold bucketInsert
  split
  · exact iff_of_false (fun h => by cases h) (fun h => by omega)
  split
  · rename_i hzero
    exact iff_of_false (fun h => by cases h) (fun h => h.2.1 hzero)
  rename_i hne hzero
  dsimp only
  split
  · rename_i prev hlast
    split
    · rename_i hlt
      refine iff_of_false (fun h => by cases h) (fun h => ?_)
      have := h.2.2.1 prev hlast
      omega
    · rename_i hge
      refine ⟨fun h => ?_, fun h => ?_⟩
      · cases h
        refine ⟨by omega, hzero, fun p hp => ?_, rfl⟩
        rw [hlast] at hp
        cases hp
        omega
      · obtain ⟨-, -, -, rfl⟩ := h
        rfl
  · rename_i hnone
    have hnil := List.getLast?_eq_none_iff.mp hnone
    rw [hnil]
    refine ⟨fun h => ?_, fun h => ?_⟩
    · cases h
      exact ⟨by omega, hzero, fun p hp => by simp at hp, rfl⟩
    · obtain ⟨-, -, -, rfl⟩ := h
      rfl

/-- The intervals of a height. -/
def chunksAt (satsPerBlock : Int) (chunks : List Chunk) (height : Int) : List Chunk :=
  chunks.filter fun c => c.lo.fdiv satsPerBlock = height

/-- The buckets hold the intervals that have come so far. -/
def Buckets.Hold (satsPerBlock : Int) (buckets : Buckets) (done : List Chunk) : Prop :=
  ∀ height, buckets.at height = chunksAt satsPerBlock done height

theorem Buckets.Hold.insert (hold : buckets.Hold satsPerBlock done)
    (h : bucketInsert satsPerBlock buckets c = .ok buckets') :
    buckets'.Hold satsPerBlock (done ++ [c]) := by
  obtain ⟨-, -, -, rfl⟩ := bucketInsert_eq_ok_iff.mp h
  intro height
  rw [at_putEntry, chunksAt, List.filter_append, ← chunksAt, ← hold height]
  by_cases hkey : c.lo.fdiv satsPerBlock = height
  · subst hkey
    simp
  · rw [if_neg (Ne.symm hkey)]
    simp [hkey]

/-- Why an interval is not filed behind the intervals that are `done`: it holds no sat, or it starts
before the last one of its height ends. -/
inductive Rejected (satsPerBlock : Int) (done : List Chunk) (c : Chunk) : Error → Prop
  | empty : c.hi ≤ c.lo → Rejected satsPerBlock done c c.emptyError
  | overlapping {prev : Chunk} : c.lo < c.hi →
      (chunksAt satsPerBlock done (c.lo.fdiv satsPerBlock)).getLast? = some prev →
      c.lo < prev.hi →
      Rejected satsPerBlock done c (c.overlapError prev)

/-- **One insertion fails** exactly if the interval is rejected behind those that have come. -/
theorem bucketInsert_eq_error_iff (hold : buckets.Hold satsPerBlock done)
    (hzero : satsPerBlock ≠ 0) :
    bucketInsert satsPerBlock buckets c = .error e ↔ Rejected satsPerBlock done c e := by
  unfold bucketInsert
  by_cases hempty : c.hi ≤ c.lo
  · rw [if_pos hempty]
    constructor
    · intro h
      cases h
      exact Rejected.empty hempty
    · rintro (_ | ⟨hlt, -, -⟩)
      · rfl
      · omega
  · rw [if_neg hempty, if_neg hzero]
    dsimp only
    rw [hold]
    constructor
    · intro h
      split at h
      · rename_i prev hlast
        split at h
        · rename_i hlt
          cases h
          exact Rejected.overlapping (by omega) hlast hlt
        · cases h
      · cases h
    · rintro (hle | ⟨-, hlast, hlt⟩)
      · exact absurd hle hempty
      · rw [hlast]
        exact if_pos hlt

/-! ### What insertions keep -/

/-- Two intervals of one height follow one another. -/
def Follows (satsPerBlock : Int) (c d : Chunk) : Prop :=
  c.lo.fdiv satsPerBlock = d.lo.fdiv satsPerBlock → c.hi ≤ d.lo

/-- The buckets after all of the intervals `done` were filed. -/
structure Buckets.Filed (satsPerBlock : Int) (buckets : Buckets) (done : List Chunk) : Prop where
  hold : buckets.Hold satsPerBlock done
  nodup_heights : (buckets.map (·.1)).Nodup
  ne_nil : ∀ entry ∈ buckets, entry.2 ≠ []
  perm : (buckets.flatMap (·.2)).Perm done
  lo_lt_hi : ∀ c ∈ done, c.lo < c.hi
  follows : done.Pairwise (Follows satsPerBlock)

theorem chunksAt_before (h : done.Pairwise (Follows satsPerBlock)) (height : Int) :
    (chunksAt satsPerBlock done height).Pairwise Chunk.Before := by
  refine (h.filter _).imp_of_mem fun {c d} hc hd hfollows => ?_
  have hc := of_decide_eq_true (List.mem_filter.mp hc).2
  have hd := of_decide_eq_true (List.mem_filter.mp hd).2
  exact hfollows (hc.trans hd.symm)

/-- **The last interval stands for all of its bucket.** What starts no earlier than it ends starts
no earlier than any one before it ends. -/
theorem Buckets.Filed.hi_le (filed : buckets.Filed satsPerBlock done) {height lo : Int}
    (hlast : ∀ prev, (buckets.at height).getLast? = some prev → prev.hi ≤ lo) :
    ∀ d ∈ chunksAt satsPerBlock done height, d.hi ≤ lo := by
  have hbefore := chunksAt_before filed.follows height
  rw [filed.hold] at hlast
  rcases List.eq_nil_or_concat (chunksAt satsPerBlock done height) with hnil | ⟨front, last, heq⟩
  · rw [hnil]
    intro d hd
    exact absurd hd List.not_mem_nil
  · rw [List.concat_eq_append] at heq
    have hmem : last ∈ chunksAt satsPerBlock done height := by
      rw [heq]
      exact List.mem_append_right _ List.mem_cons_self
    have hsat : last.lo < last.hi := filed.lo_lt_hi last (List.mem_filter.mp hmem).1
    rw [heq] at hlast hbefore ⊢
    have hend : last.hi ≤ lo := hlast last List.getLast?_concat
    intro d hd
    -- one before the last one ends before that one starts
    rcases List.mem_append.mp hd with hfront | hd
    · have hapart : d.hi ≤ last.lo :=
        (List.pairwise_append.mp hbefore).2.2 d hfront last List.mem_cons_self
      omega
    · rw [List.mem_singleton.mp hd]
      exact hend

/-- An interval more in one bucket is an interval more in all buckets together. -/
theorem flatMap_putEntry_perm (key : Int) (c : Chunk) (buckets : Buckets) :
    ((putEntry key (buckets.at key ++ [c]) buckets).flatMap (·.2)).Perm
      (buckets.flatMap (·.2) ++ [c]) := by
  induction buckets with
  | nil => exact List.Perm.refl _
  | cons entry rest ih =>
    obtain ⟨height, bucket⟩ := entry
    by_cases hkey : height = key
    · subst hkey
      have hat : Buckets.at ((height, bucket) :: rest) height = bucket := by simp [Buckets.at]
      rw [hat, putEntry, if_pos rfl, List.flatMap_cons, List.flatMap_cons, List.append_assoc,
        List.append_assoc]
      exact List.Perm.append_left bucket List.perm_append_comm
    · have hat : Buckets.at ((height, bucket) :: rest) key = Buckets.at rest key := by
        simp [Buckets.at, List.lookup_cons, beq_false_of_ne (Ne.symm hkey)]
      rw [hat, putEntry, if_neg hkey, List.flatMap_cons, List.flatMap_cons, List.append_assoc]
      exact List.Perm.append_left bucket ih

/-- **What one insertion keeps.** -/
theorem Buckets.Filed.insert (filed : buckets.Filed satsPerBlock done)
    (h : bucketInsert satsPerBlock buckets c = .ok buckets') :
    buckets'.Filed satsPerBlock (done ++ [c]) := by
  have hold := filed.hold.insert h
  obtain ⟨hsat, -, hlast, rfl⟩ := bucketInsert_eq_ok_iff.mp h
  have hafter := filed.hi_le hlast
  constructor
  case hold => exact hold
  case nodup_heights => exact nodup_putEntry filed.nodup_heights _ _
  case ne_nil =>
    intro entry hentry
    rcases mem_of_mem_putEntry hentry with rfl | hentry
    · exact List.append_ne_nil_of_right_ne_nil _ (List.cons_ne_nil c [])
    · exact filed.ne_nil entry hentry
  case perm => exact (flatMap_putEntry_perm _ c buckets).trans (filed.perm.append_right [c])
  case lo_lt_hi =>
    intro d hd
    rcases List.mem_append.mp hd with hd | hd
    · exact filed.lo_lt_hi d hd
    · rw [List.mem_singleton.mp hd]
      exact hsat
  case follows =>
    refine List.pairwise_append.mpr ⟨filed.follows, List.pairwise_singleton _ c, ?_⟩
    intro d hd c' hc' hkey
    rw [List.mem_singleton] at hc'
    subst hc'
    exact hafter d (List.mem_filter.mpr ⟨hd, decide_eq_true hkey⟩)

theorem Buckets.Filed.foldlM (filed : buckets.Filed satsPerBlock done)
    (h : chunks.foldlM (bucketInsert satsPerBlock) buckets = .ok buckets') :
    buckets'.Filed satsPerBlock (done ++ chunks) := by
  induction chunks generalizing buckets done with
  | nil =>
    cases h
    rwa [List.append_nil]
  | cons c rest ih =>
    rw [List.foldlM_cons] at h
    cases hstep : bucketInsert satsPerBlock buckets c with
    | error e => rw [hstep] at h; cases h
    | ok next =>
      rw [hstep] at h
      have hrest := ih (filed.insert hstep) h
      rwa [List.append_assoc] at hrest

/-- **What the insertions of all intervals keep.** -/
theorem filed_of_bucketed (h : bucketByHeight satsPerBlock chunks = .ok buckets) :
    buckets.Filed satsPerBlock chunks := by
  have hempty : Buckets.Filed satsPerBlock [] [] :=
    ⟨fun _ => rfl, List.nodup_nil, fun _ h => absurd h List.not_mem_nil, List.Perm.refl _,
      fun _ h => absurd h List.not_mem_nil, List.Pairwise.nil⟩
  exact hempty.foldlM h

/-- **The bucket of a height holds the intervals of the height in their order.** -/
theorem bucketByHeight_at (h : bucketByHeight satsPerBlock chunks = .ok buckets) (height : Int) :
    buckets.at height = chunksAt satsPerBlock chunks height :=
  (filed_of_bucketed h).hold height

theorem lo_lt_hi_of_bucketed (h : bucketByHeight satsPerBlock chunks = .ok buckets) :
    ∀ c ∈ chunks, c.lo < c.hi :=
  (filed_of_bucketed h).lo_lt_hi

theorem Buckets.Filed.lookup_eq (filed : buckets.Filed satsPerBlock done) (height : Int) :
    buckets.lookup height = if chunksAt satsPerBlock done height = [] then none
      else some (chunksAt satsPerBlock done height) := by
  have hat := filed.hold height
  unfold Buckets.at at hat
  cases hlookup : buckets.lookup height with
  | none =>
    rw [hlookup, Option.getD_none] at hat
    rw [if_pos hat.symm]
  | some bucket =>
    rw [hlookup, Option.getD_some] at hat
    subst hat
    obtain ⟨front, behind, hsplit, -⟩ := List.lookup_eq_some_iff.mp hlookup
    have hmem : (height, chunksAt satsPerBlock done height) ∈ buckets := by
      rw [hsplit]
      exact List.mem_append_right _ List.mem_cons_self
    rw [if_neg (filed.ne_nil _ hmem)]

/-! ### The first interval that is rejected -/

theorem foldlM_eq_error_iff {α β ε : Type} {f : β → α → Except ε β} {l : List α} {b : β} {e : ε} :
    l.foldlM f b = .error e ↔ ∃ before x after b', l = before ++ x :: after ∧
      before.foldlM f b = .ok b' ∧ f b' x = .error e := by
  constructor
  · intro h
    induction l generalizing b with
    | nil => cases h
    | cons y rest ih =>
      rw [List.foldlM_cons] at h
      cases hstep : f b y with
      | error e' =>
        rw [hstep] at h
        cases h
        exact ⟨[], y, rest, b, rfl, rfl, hstep⟩
      | ok next =>
        rw [hstep] at h
        obtain ⟨before, x, after, b', rfl, hbefore, hx⟩ := ih h
        refine ⟨y :: before, x, after, b', rfl, ?_, hx⟩
        rw [List.foldlM_cons, hstep]
        exact hbefore
  · rintro ⟨before, x, after, b', rfl, hbefore, hx⟩
    rw [List.foldlM_append, hbefore]
    change (x :: after).foldlM f b' = .error e
    rw [List.foldlM_cons, hx]
    rfl

/-- No interval is rejected behind those before it. -/
def NoneRejected (satsPerBlock : Int) (chunks : List Chunk) : Prop :=
  ∀ before c after, chunks = before ++ c :: after → ∀ e, ¬ Rejected satsPerBlock before c e

theorem exists_bucketed_iff_noneRejected (hzero : satsPerBlock ≠ 0) :
    (∃ buckets, bucketByHeight satsPerBlock chunks = .ok buckets) ↔
      NoneRejected satsPerBlock chunks := by
  constructor
  · rintro ⟨buckets, hbuckets⟩ before c after rfl e hrejected
    -- the intervals before `c` are bucketed too, so it is `c` that is rejected
    cases hbefore : bucketByHeight satsPerBlock before with
    | error e' =>
      rw [bucketByHeight, List.foldlM_append, ← bucketByHeight, hbefore] at hbuckets
      cases hbuckets
    | ok filed =>
      have hstep := (bucketInsert_eq_error_iff (filed_of_bucketed hbefore).hold hzero).mpr hrejected
      have herror := foldlM_eq_error_iff.mpr ⟨before, c, after, filed, rfl, hbefore, hstep⟩
      rw [bucketByHeight, herror] at hbuckets
      cases hbuckets
  · intro hnone
    cases hchunks : bucketByHeight satsPerBlock chunks with
    | ok buckets => exact ⟨buckets, rfl⟩
    | error e =>
      obtain ⟨before, c, after, filed, hsplit, hbefore, hstep⟩ := foldlM_eq_error_iff.mp hchunks
      have hrejected := (bucketInsert_eq_error_iff (filed_of_bucketed hbefore).hold hzero).mp hstep
      exact absurd hrejected (hnone before c after hsplit e)

/-- **The first interval that is rejected decides the error.** -/
theorem bucketByHeight_eq_error_iff (hzero : satsPerBlock ≠ 0) :
    bucketByHeight satsPerBlock chunks = .error e ↔ ∃ before c after,
      chunks = before ++ c :: after ∧ NoneRejected satsPerBlock before ∧
        Rejected satsPerBlock before c e := by
  rw [bucketByHeight, foldlM_eq_error_iff]
  constructor
  · rintro ⟨before, c, after, filed, hsplit, hbefore, hstep⟩
    have hnone := (exists_bucketed_iff_noneRejected hzero).mp ⟨filed, hbefore⟩
    have hrejected := (bucketInsert_eq_error_iff (filed_of_bucketed hbefore).hold hzero).mp hstep
    exact ⟨before, c, after, hsplit, hnone, hrejected⟩
  · rintro ⟨before, c, after, hsplit, hnone, hrejected⟩
    obtain ⟨filed, hbefore⟩ := (exists_bucketed_iff_noneRejected hzero).mpr hnone
    have hstep := (bucketInsert_eq_error_iff (filed_of_bucketed hbefore).hold hzero).mpr hrejected
    exact ⟨before, c, after, filed, hsplit, hbefore, hstep⟩

theorem bucketByHeight_ok (hzero : satsPerBlock ≠ 0) (hne : ∀ c ∈ chunks, c.lo < c.hi)
    (hfollows : chunks.Pairwise (Follows satsPerBlock)) :
    ∃ buckets, bucketByHeight satsPerBlock chunks = .ok buckets := by
  refine (exists_bucketed_iff_noneRejected hzero).mpr fun before c after hsplit e hrejected => ?_
  subst hsplit
  cases hrejected with
  | empty hempty =>
    have hsat := hne c (List.mem_append_right _ List.mem_cons_self)
    omega
  | overlapping hsat hlast hlt =>
    obtain ⟨hmem, hkey⟩ := List.mem_filter.mp (List.mem_of_getLast? hlast)
    have hafter := (List.pairwise_append.mp hfollows).2.2 _ hmem c List.mem_cons_self
      (of_decide_eq_true hkey)
    omega

/-! ### All that bucketing does -/

theorem bucketByHeight_zero_cons (c : Chunk) (rest : List Chunk) :
    bucketByHeight 0 (c :: rest) =
      .error (if c.hi ≤ c.lo then c.emptyError else .divisionByZero) := by
  have hstep : bucketInsert 0 [] c =
      .error (if c.hi ≤ c.lo then c.emptyError else .divisionByZero) := by
    unfold bucketInsert
    split <;> rfl
  rw [bucketByHeight, List.foldlM_cons, hstep]
  rfl

/-- **What bucketing does.** With blocks of some number of sats, intervals are bucketed exactly if
each of them holds a sat and any two of one height follow one another. Then the bucket of a height
holds the intervals of the height in their order, there is none for other heights, and each interval
is in one bucket once. Else the first interval that is rejected decides the error: it holds no sat,
or it starts before the last one of its height before it ends, and it is named, with that one, if
all bounds can be written. With blocks of no sats only the empty list is bucketed, and the first
interval decides the error. What comes after it never changes an error. -/
theorem bucketByHeight_exact (satsPerBlock : Int) (chunks : List Chunk) :
    (satsPerBlock ≠ 0 →
      ((∃ buckets, bucketByHeight satsPerBlock chunks = .ok buckets) ↔
        (∀ c ∈ chunks, c.lo < c.hi) ∧ chunks.Pairwise fun c d =>
          c.lo.fdiv satsPerBlock = d.lo.fdiv satsPerBlock → c.hi ≤ d.lo) ∧
      (∀ buckets, bucketByHeight satsPerBlock chunks = .ok buckets →
        (∀ height, buckets.lookup height =
          if chunksAt satsPerBlock chunks height = [] then none
          else some (chunksAt satsPerBlock chunks height)) ∧
        (buckets.map (·.1)).Nodup ∧ (buckets.flatMap (·.2)).Perm chunks) ∧
      ∀ e, bucketByHeight satsPerBlock chunks = .error e ↔ ∃ before c after,
        chunks = before ++ c :: after ∧ NoneRejected satsPerBlock before ∧
          Rejected satsPerBlock before c e) ∧
    (satsPerBlock = 0 →
      (∀ buckets, bucketByHeight satsPerBlock chunks = .ok buckets ↔ chunks = [] ∧ buckets = []) ∧
      ∀ e, bucketByHeight satsPerBlock chunks = .error e ↔ ∃ c rest, chunks = c :: rest ∧
        ((c.hi ≤ c.lo ∧ e = c.emptyError) ∨ (c.lo < c.hi ∧ e = .divisionByZero))) ∧
    ∀ e more, bucketByHeight satsPerBlock chunks = .error e →
      bucketByHeight satsPerBlock (chunks ++ more) = .error e := by
  refine ⟨fun hzero => ⟨⟨?_, ?_⟩, fun buckets h => ?_, fun e => ?_⟩, fun hzero => ?_, ?_⟩
  · rintro ⟨buckets, h⟩
    exact ⟨(filed_of_bucketed h).lo_lt_hi, (filed_of_bucketed h).follows⟩
  · rintro ⟨hsats, hfollows⟩
    exact bucketByHeight_ok hzero hsats hfollows
  · have filed := filed_of_bucketed h
    exact ⟨filed.lookup_eq, filed.nodup_heights, filed.perm⟩
  · exact bucketByHeight_eq_error_iff hzero
  · subst hzero
    cases chunks with
    | nil => simp [bucketByHeight, pure, Except.pure, eq_comm]
    | cons c rest =>
      rw [bucketByHeight_zero_cons]
      by_cases hempty : c.hi ≤ c.lo
      · simp [hempty, Int.not_lt.mpr hempty, eq_comm]
      · simp [hempty, Int.not_le.mp hempty, eq_comm]
  · intro e more h
    obtain ⟨before, c, after, filed, hsplit, hbefore, hstep⟩ := foldlM_eq_error_iff.mp h
    have hlonger : chunks ++ more = before ++ c :: (after ++ more) := by
      rw [hsplit, List.append_assoc, List.cons_append]
    exact foldlM_eq_error_iff.mpr ⟨before, c, after ++ more, filed, hlonger, hbefore, hstep⟩

/-- Intervals of two heights in blocks of ten sats: what comes between two intervals of one height
does not matter, and the second of them is refused if it starts before the first one ends. -/
theorem bucketed_at_two_heights :
    (∃ buckets, bucketByHeight 10 [⟨12, 15⟩, ⟨1, 4⟩, ⟨15, 20⟩] = .ok buckets ∧
      buckets.lookup 1 = some [⟨12, 15⟩, ⟨15, 20⟩] ∧ buckets.lookup 7 = none) ∧
    bucketByHeight 10 [⟨12, 15⟩, ⟨1, 4⟩, ⟨14, 20⟩, ⟨5, 5⟩] =
      .error (.overlappingInterval 14 20 12 15) := by
  have hten : (10 : Int) ≠ 0 := by decide
  obtain ⟨hbuckets, hheld, -⟩ := (bucketByHeight_exact 10 [⟨12, 15⟩, ⟨1, 4⟩, ⟨15, 20⟩]).1 hten
  obtain ⟨buckets, hok⟩ := hbuckets.mpr ⟨by decide, by decide⟩
  have hlookup := (hheld buckets hok).1
  have hmore := (bucketByHeight_exact 10 [⟨12, 15⟩, ⟨1, 4⟩, ⟨14, 20⟩]).2.2
  exact ⟨⟨buckets, hok, hlookup 1, hlookup 7⟩, hmore _ [⟨5, 5⟩] rfl⟩

/-- An interval without a sat is not named where a bound is too long to be written. -/
theorem unnamed_interval :
    ¬ ∀ (satsPerBlock : Int) (chunks : List Chunk) (e : Error), satsPerBlock ≠ 0 →
      bucketByHeight satsPerBlock chunks = .error e →
      ∃ c ∈ chunks, e = .emptyInterval c.lo c.hi ∨
        ∃ prev ∈ chunks, e = .overlappingInterval c.lo c.hi prev.lo prev.hi := by
  intro h
  have hempty : (0 : Int) ≤ 10 ^ Error.digitLimit := Int.pow_nonneg (by decide)
  have hlong : Chunk.emptyError ⟨10 ^ Error.digitLimit, 0⟩ = .unwritableNumber := by
    have hwrites : DigitLimit.standard.writes (10 ^ Error.digitLimit) = false :=
      DigitLimit.writes_atMost_pow _
    rw [Chunk.emptyError, Error.naming, List.all_cons, hwrites, Bool.false_and,
      if_neg Bool.false_ne_true]
  have hrefused : bucketByHeight initialSubsidy [⟨10 ^ Error.digitLimit, 0⟩] =
      .error .unwritableNumber := by
    rw [bucketByHeight, List.foldlM_cons, bucketInsert, if_pos hempty, hlong]
    rfl
  obtain ⟨c, -, hc | ⟨prev, -, hprev⟩⟩ := h _ _ _ (by decide) hrefused
  · cases hc
  · cases hprev

end RareSats
