/-
# Which outputs an index knows

An index is made of entries with references to outputs. It is made exactly if every
reference is read, and else told by the first one that is not (`readOutputs_eq_error_iff`).
Whether a reference is read, and as what, does not depend on the case of its letters
(`OutPoint.parse_of_lower_eq`). So the index holds one output for all references that agree
up to the case of letters, with the ranges of the last one of them, and neither the case of
letters in the entries nor that in a lookup makes a difference (`SatIndex.ofEntries_exact`).

Key definitions: `SatIndex.lastRanges?`, `SatIndex.AgreeUpToCase`.
Key theorems: `OutPoint.parse_of_lower_eq`, `SatIndex.readOutputs_eq_error_iff`,
`SatIndex.listRanges_of_brings`, `SatIndex.outputCount_of_brings`,
`SatIndex.ofEntries_exact`.
-/
import Mathlib.Data.List.Forall2
import RareSats.Index.Basic
import RareSats.Proofs.Canonical
import RareSats.Proofs.OrderedMap

namespace RareSats

/-! ### References that agree up to the case of letters -/

theorem Text.exists_of_lower_eq {t : Text} {s : List Char}
    (h : t.lower = ofString (String.ofList s)) :
    ∃ s', t = ofString (String.ofList s') ∧ s'.map Char.toLower = s := by
  have hunicode : t.IsUnicode := by
    refine isUnicode_iff_forall.mpr fun p hp => ?_
    have hlower : p.lower ∈ (ofString (String.ofList s)).points := by
      rw [← h]
      exact List.mem_map_of_mem hp
    have hnone := isUnicode_iff_forall.mp (isUnicode_ofString _) _ hlower
    cases p with
    | scalar c => rfl
    | surrogate offset => exact hnone
  obtain ⟨u, rfl⟩ := hunicode
  refine ⟨u.toList, by rw [String.ofList_toList], ?_⟩
  rw [← String.ofList_toList (s := u), lower_ofString] at h
  simpa using congrArg String.toList (ofString_injective h)

/-- Only the capital letters and what stands before them can be changed by lower case. -/
theorem toLower_eq_or (c : Char) : c.toLower = c ∨ c.toNat < 91 := by
  unfold Char.toLower
  split
  · rename_i hupper
    have hle : c.val ≤ 'Z'.val := hupper.2
    rw [UInt32.le_iff_toNat_le] at hle
    exact Or.inr (Nat.lt_succ_of_le hle)
  · exact Or.inl rfl

/-- What holds of all characters up to the capital letters, and of those that lower case leaves as
they are, holds of all. -/
theorem forall_of_toLower {P : Char → Prop} (hsmall : ∀ n < 91, P (Char.ofNat n))
    (hsame : ∀ c : Char, c.toLower = c → P c) (c : Char) : P c := by
  rcases toLower_eq_or c with heq | hlt
  · exact hsame c heq
  · rw [← Char.ofNat_toNat c]
    exact hsmall _ hlt

theorem isHexDigit_of_toLower : ∀ c : Char, isHexDigit c.toLower = true → isHexDigit c = true := by
  refine forall_of_toLower (by decide) fun c hc h => ?_
  rwa [hc] at h

theorem toLower_eq_self : ∀ c : Char, c.toLower.isLower = false → c.toLower = c :=
  forall_of_toLower (by decide) fun _ hc _ => hc

theorem eq_of_map_toLower {s s' : List Char} (hs : ∀ c ∈ s, c.isLower = false)
    (h : s'.map Char.toLower = s) : s' = s := by
  subst h
  have hsame : ∀ c ∈ s', c.toLower = c := fun c hc =>
    toLower_eq_self c (hs _ (List.mem_map_of_mem hc))
  rw [List.map_congr_left hsame, List.map_id']

theorem isLower_of_isDigit {c : Char} (h : c.isDigit = true) : c.isLower = false := by
  obtain ⟨d, hd, rfl⟩ := exists_digitChar_eq h
  have hall : ∀ k < 10, (Nat.digitChar k).isLower = false := by decide
  exact hall d hd

namespace OutPoint

variable {lineEnd : List Char} {reference reference' : Text} {o : OutPoint}

theorem Written.of_lower_eq (hend : lineEnd = [] ∨ lineEnd = ['\n'])
    (h : Written lineEnd reference o) (hlower : reference'.lower = reference.lower) :
    Written lineEnd reference' o := by
  obtain ⟨hex, vout, rfl, hlength, hhex, hvout, hrange, rfl⟩ := h
  rw [Text.lower_ofString, map_toLower_reference hend hvout] at hlower
  obtain ⟨s, rfl, hs⟩ := Text.exists_of_lower_eq hlower
  obtain ⟨front, back, rfl, hfront, hback⟩ := List.map_eq_append_iff.mp hs
  obtain ⟨hex', lineEnd', rfl, hsame, hend'⟩ := List.map_eq_append_iff.mp hfront
  have hbehind : back = ':' :: vout := by
    refine eq_of_map_toLower (List.forall_mem_cons.mpr ⟨rfl, fun c hc => ?_⟩) hback
    exact isLower_of_isDigit (hvout.isDigit c hc)
  have hsameEnd : lineEnd' = lineEnd := by
    refine eq_of_map_toLower (fun c hc => ?_) hend'
    rcases hend with rfl | rfl
    · cases hc
    · rw [List.mem_singleton.mp hc]
      rfl
  subst hbehind hsameEnd
  refine ⟨hex', vout, rfl, ?_, fun c hc => ?_, hvout, hrange, by rw [hsame]⟩
  · rw [← hlength, ← List.length_map (f := Char.toLower), hsame, List.length_map]
  · have hmem : c.toLower ∈ hex.map Char.toLower := hsame ▸ List.mem_map_of_mem hc
    obtain ⟨d, hd, heq⟩ := List.mem_map.mp hmem
    exact isHexDigit_of_toLower c (heq ▸ (isHexDigit_toLower (hhex d hd)).1)

/-- **Whether a reference is read, and as what, does not depend on the case of its letters.** -/
theorem parse_of_lower_eq (h : parse reference = .ok o)
    (hlower : reference'.lower = reference.lower) : parse reference' = .ok o := by
  rcases parse_eq_ok_iff.mp h with hwritten | hwritten
  · exact parse_eq_ok_iff.mpr (Or.inl (hwritten.of_lower_eq (Or.inl rfl) hlower))
  · exact parse_eq_ok_iff.mpr (Or.inr (hwritten.of_lower_eq (Or.inr rfl) hlower))

end OutPoint

namespace SatIndex

variable {outputs outputs' : List (Text × List Chunk)} {blockHashes : List (Int × Text)}
  {tracksSats : Bool} {ix : SatIndex}

/-! ### Reading the references of entries -/

/-- The entries of outputs with the bounds of their ranges in lists. -/
def written (outputs : List (Text × List Chunk)) : List (Text × List (List Int)) :=
  outputs.map fun o => (o.1, o.2.map Chunk.bounds)

theorem readOutputs_cons (o : Text × List Chunk) (rest : List (Text × List Chunk)) :
    readOutputs (written (o :: rest)) = do
      let outpoint ← OutPoint.parse o.1
      let others ← readOutputs (written rest)
      return (outpoint, o.2) :: others := by
  show readOutputs ((o.1, o.2.map Chunk.bounds) :: written rest) = _
  rw [readOutputs, Chunk.readAll_bounds]
  rfl

theorem readOutputs_eq_ok_iff {entries : List (OutPoint × List Chunk)} :
    readOutputs (written outputs) = .ok entries ↔
      List.Forall₂ (fun o e => OutPoint.parse o.1 = .ok e.1 ∧ e.2 = o.2) outputs entries := by
  induction outputs generalizing entries with
  | nil =>
    rw [List.forall₂_nil_left_iff]
    exact ⟨fun h => (Except.ok.inj h).symm, fun h => h ▸ rfl⟩
  | cons o rest ih =>
    rw [readOutputs_cons, List.forall₂_cons_left_iff]
    cases hparse : OutPoint.parse o.1 with
    | error e => exact iff_of_false (fun h => by cases h) (fun ⟨_, _, h, _⟩ => by cases h.1)
    | ok p =>
      cases hrest : readOutputs (written rest) with
      | error e =>
        refine iff_of_false (fun h => by cases h) ?_
        rintro ⟨_, others, -, hothers, -⟩
        rw [ih.mpr hothers] at hrest
        cases hrest
      | ok others =>
        constructor
        · intro h
          cases h
          exact ⟨(p, o.2), others, ⟨rfl, rfl⟩, ih.mp hrest, rfl⟩
        · rintro ⟨⟨_, _⟩, others', ⟨h, rfl⟩, hothers, rfl⟩
          cases h
          rw [ih.mpr hothers] at hrest
          cases hrest
          rfl

/-- **The first reference that is not read tells why the entries are not.** -/
theorem readOutputs_eq_error_iff {e : Error} :
    readOutputs (written outputs) = .error e ↔ ∃ before o after,
      outputs = before ++ o :: after ∧ (∀ b ∈ before, ∃ p, OutPoint.parse b.1 = .ok p) ∧
        OutPoint.parse o.1 = .error e := by
  induction outputs with
  | nil =>
    refine iff_of_false (fun h => by cases h) ?_
    rintro ⟨before, o, after, h, -⟩
    exact absurd h.symm (List.append_ne_nil_of_right_ne_nil _ (List.cons_ne_nil _ _))
  | cons o rest ih =>
    rw [readOutputs_cons]
    cases hparse : OutPoint.parse o.1 with
    | error e' =>
      constructor
      · intro h
        cases h
        exact ⟨[], o, rest, rfl, List.forall_mem_nil _, hparse⟩
      · rintro ⟨_ | ⟨b, before⟩, o', after, h, hbefore, herror⟩
        · cases h
          rw [hparse] at herror
          cases herror
          rfl
        · cases h
          obtain ⟨p, hp⟩ := hbefore o List.mem_cons_self
          rw [hparse] at hp
          cases hp
    | ok p =>
      have hbind : (do
          let outpoint ← (Except.ok p : Except Error OutPoint)
          let others ← readOutputs (written rest)
          return (outpoint, o.2) :: others) = .error e ↔
          readOutputs (written rest) = .error e := by
        cases readOutputs (written rest) with
        | error e' => exact Iff.rfl
        | ok others => exact iff_of_false (fun h => by cases h) (fun h => by cases h)
      rw [hbind, ih]
      constructor
      · rintro ⟨before, o', after, rfl, hbefore, herror⟩
        exact ⟨o :: before, o', after, rfl, List.forall_mem_cons.mpr ⟨⟨p, hparse⟩, hbefore⟩, herror⟩
      · rintro ⟨_ | ⟨b, before⟩, o', after, h, hbefore, herror⟩
        · cases h
          rw [hparse] at herror
          cases herror
        · cases h
          exact ⟨before, o', after, rfl, (List.forall_mem_cons.mp hbefore).2, herror⟩

/-! ### The index of entries -/

/-- An entry brings the outpoint that its reference is read as, and its ranges. -/
def Brings (o : Text × List Chunk) (e : OutPoint × List Chunk) : Prop :=
  OutPoint.parse o.1 = .ok e.1 ∧ e.2 = o.2

/-- The entries with their references in other cases of letters. -/
def AgreeUpToCase (outputs outputs' : List (Text × List Chunk)) : Prop :=
  List.Forall₂ (fun o o' => o'.1.lower = o.1.lower ∧ o'.2 = o.2) outputs outputs'

/-- The ranges of the last entry whose reference agrees with a given one up to the case of
letters. -/
def lastRanges? (outputs : List (Text × List Chunk)) (reference : Text) : Option (List Chunk) :=
  (outputs.reverse.find? fun o => o.1.lower = reference.lower).map (·.2)

theorem ofEntries_eq (hkeys : (outputs.map (·.1)).Nodup) :
    ofEntries outputs blockHashes tracksSats = (readOutputs (written outputs)).map fun entries =>
      ⟨tracksSats, mapOfEntries entries, mapOfEntries blockHashes⟩ := by
  have hwritten : ((written outputs).map (·.1)).Nodup := by
    rw [written, List.map_map]
    exact hkeys
  show ofBounds (written outputs) blockHashes tracksSats = _
  rw [ofBounds, mapOfEntries_of_nodup hwritten]
  cases readOutputs (written outputs) with
  | error e => rfl
  | ok entries => rfl

theorem ofEntries_eq_error_iff (hkeys : (outputs.map (·.1)).Nodup) {e : Error} :
    ofEntries outputs blockHashes tracksSats = .error e ↔
      readOutputs (written outputs) = .error e := by
  rw [ofEntries_eq hkeys]
  cases readOutputs (written outputs) with
  | error e' => simp [Except.map]
  | ok entries => exact iff_of_false (fun h => by cases h) (fun h => by cases h)

theorem ofEntries_eq_ok_iff (hkeys : (outputs.map (·.1)).Nodup) :
    ofEntries outputs blockHashes tracksSats = .ok ix ↔ ∃ entries,
      List.Forall₂ Brings outputs entries ∧
        ix = ⟨tracksSats, mapOfEntries entries, mapOfEntries blockHashes⟩ := by
  rw [ofEntries_eq hkeys]
  constructor
  · intro h
    cases hentries : readOutputs (written outputs) with
    | error e =>
      rw [hentries] at h
      cases h
    | ok entries =>
      rw [hentries] at h
      exact ⟨entries, readOutputs_eq_ok_iff.mp hentries, (Except.ok.inj h).symm⟩
  · rintro ⟨entries, hentries, rfl⟩
    rw [readOutputs_eq_ok_iff.mpr hentries]
    rfl

theorem exists_brings (h : ∀ o ∈ outputs, ∃ p, OutPoint.parse o.1 = .ok p) :
    ∃ entries, List.Forall₂ Brings outputs entries := by
  induction outputs with
  | nil => exact ⟨[], List.Forall₂.nil⟩
  | cons o rest ih =>
    obtain ⟨p, hp⟩ := h o List.mem_cons_self
    obtain ⟨others, hothers⟩ := ih fun o' ho' => h o' (List.mem_cons_of_mem _ ho')
    exact ⟨(p, o.2) :: others, List.Forall₂.cons ⟨hp, rfl⟩ hothers⟩

/-! ### Lookups -/

variable {entries : List (OutPoint × List Chunk)} {reference : Text} {o : OutPoint}

theorem lookup_of_brings (h : List.Forall₂ Brings outputs entries)
    (ho : OutPoint.parse reference = .ok o) :
    entries.lookup o = (outputs.find? fun b => b.1.lower = reference.lower).map (·.2) := by
  induction h with
  | nil => rfl
  | @cons b e before after hbrings _ ih =>
    have hsame := OutPoint.eq_iff_lower_eq ho hbrings.1
    rw [List.lookup_cons, List.find?_cons, ih]
    by_cases heq : o = e.1
    · have hlower := hsame.mp heq
      simp [heq, hlower, hbrings.2]
    · have hlower : b.1.lower ≠ reference.lower := fun h => heq (hsame.mpr h.symm)
      simp [beq_false_of_ne heq, hlower]

theorem listRanges_of_brings (h : List.Forall₂ Brings outputs entries)
    (ho : OutPoint.parse reference = .ok o) :
    listRanges ⟨tracksSats, mapOfEntries entries, blockHashes⟩ o =
      match lastRanges? outputs reference with
      | some chunks => .ok chunks
      | none => .error (.unknownReference o.text) := by
  have hlast := lookup_of_brings (List.forall₂_reverse_iff.mpr h) ho
  rw [← lookup_mapOfEntries] at hlast
  unfold listRanges
  rw [hlast]
  rfl

theorem length_dedup_map {α β : Type} [DecidableEq α] [DecidableEq β] {f : α → β} {l : List α}
    (hf : ∀ a ∈ l, ∀ b ∈ l, f a = f b → a = b) : (l.map f).dedup.length = l.dedup.length := by
  have hnodup : (l.dedup.map f).Nodup := by
    refine List.Nodup.map_on (fun a ha b hb => ?_) (List.nodup_dedup l)
    exact hf a (List.mem_dedup.mp ha) b (List.mem_dedup.mp hb)
  have hperm : (l.map f).dedup.Perm (l.dedup.map f) := by
    refine (List.perm_ext_iff_of_nodup (List.nodup_dedup _) hnodup).mpr fun b => ?_
    simp
  rw [hperm.length_eq, List.length_map]

/-- An entry's outpoint has the reference of the entry in lower case. -/
theorem map_lower_of_brings (h : List.Forall₂ Brings outputs entries) :
    (outputs.map fun o => o.1.lower) = (entries.map (·.1)).map fun p => .ofString p.text := by
  induction h with
  | nil => rfl
  | cons hbrings _ ih =>
    simp only [List.map_cons, OutPoint.ofString_text hbrings.1, ih]

theorem parse_text_of_brings (h : List.Forall₂ Brings outputs entries) :
    ∀ p ∈ entries.map (·.1), OutPoint.parse (.ofString p.text) = .ok p := by
  induction h with
  | nil => exact List.forall_mem_nil _
  | cons hbrings _ ih =>
    exact List.forall_mem_cons.mpr ⟨OutPoint.parse_text hbrings.1, ih⟩

theorem outputCount_of_brings (h : List.Forall₂ Brings outputs entries) :
    outputCount ⟨tracksSats, mapOfEntries entries, blockHashes⟩ =
      (outputs.map fun o => o.1.lower).dedup.length := by
  have hread := parse_text_of_brings h
  rw [map_lower_of_brings h, length_dedup_map, ← length_mapOfEntries]
  · rfl
  · intro a ha b hb htext
    have hb' := hread b hb
    rw [← htext, hread a ha] at hb'
    exact Except.ok.inj hb'

/-! ### Lookups and the case of letters -/

theorem brings_of_agreeUpToCase (h : List.Forall₂ Brings outputs entries)
    (hagree : AgreeUpToCase outputs outputs') : List.Forall₂ Brings outputs' entries := by
  induction h generalizing outputs' with
  | nil =>
    cases hagree
    exact List.Forall₂.nil
  | cons hbrings _ ih =>
    obtain ⟨o', rest, ⟨hlower, hchunks⟩, hrest, rfl⟩ := List.forall₂_cons_left_iff.mp hagree
    have hparse := OutPoint.parse_of_lower_eq hbrings.1 hlower
    exact List.Forall₂.cons ⟨hparse, hbrings.2.trans hchunks.symm⟩ (ih hrest)

/-- Entries that agree up to the case of letters make one index. -/
theorem ofEntries_of_agreeUpToCase (hkeys : (outputs.map (·.1)).Nodup)
    (hkeys' : (outputs'.map (·.1)).Nodup) (hagree : AgreeUpToCase outputs outputs')
    (h : ofEntries outputs blockHashes tracksSats = .ok ix) :
    ofEntries outputs' blockHashes tracksSats = .ok ix := by
  obtain ⟨entries, hentries, hix⟩ := (ofEntries_eq_ok_iff hkeys).mp h
  exact (ofEntries_eq_ok_iff hkeys').mpr ⟨entries, brings_of_agreeUpToCase hentries hagree, hix⟩

theorem exists_ofEntries_iff (hkeys : (outputs.map (·.1)).Nodup) :
    (∃ ix, ofEntries outputs blockHashes tracksSats = .ok ix) ↔
      ∀ o ∈ outputs, ∃ p, OutPoint.parse o.1 = .ok p := by
  constructor
  · rintro ⟨ix, h⟩
    obtain ⟨entries, hentries, -⟩ := (ofEntries_eq_ok_iff hkeys).mp h
    clear h
    induction hentries with
    | nil => exact List.forall_mem_nil _
    | cons hbrings _ ih =>
      refine List.forall_mem_cons.mpr ⟨⟨_, hbrings.1⟩, ih ?_⟩
      exact (List.nodup_cons.mp hkeys).2
  · intro h
    obtain ⟨entries, hentries⟩ := exists_brings h
    exact ⟨_, (ofEntries_eq_ok_iff hkeys).mpr ⟨entries, hentries, rfl⟩⟩

/-- **An index holds one output for all references that agree up to the case of letters.** It is
made of entries of different references if all of them are read, and else the first one that is not
tells why it is not made. A reference that is read is found with the ranges of the last entry that
it agrees with, or it is unknown, as it is written in lower case; and there are as many outputs as
references in lower case. The case of letters makes no difference to a lookup, be it that of the
reference or that of the entries. -/
theorem ofEntries_exact (hkeys : (outputs.map (·.1)).Nodup) (blockHashes : List (Int × Text))
    (tracksSats : Bool) :
    (∀ e, ofEntries outputs blockHashes tracksSats = .error e ↔ ∃ before o after,
      outputs = before ++ o :: after ∧ (∀ b ∈ before, ∃ p, OutPoint.parse b.1 = .ok p) ∧
        OutPoint.parse o.1 = .error e) ∧
    ((∃ ix, ofEntries outputs blockHashes tracksSats = .ok ix) ↔
      ∀ o ∈ outputs, ∃ p, OutPoint.parse o.1 = .ok p) ∧
    ∀ ix, ofEntries outputs blockHashes tracksSats = .ok ix →
      (∀ reference o, OutPoint.parse reference = .ok o →
        Text.ofString o.text = reference.lower ∧
        ix.listRanges o = match lastRanges? outputs reference with
          | some chunks => .ok chunks
          | none => .error (.unknownReference o.text)) ∧
      ix.outputCount = (outputs.map fun o => o.1.lower).dedup.length ∧
      (∀ reference reference' o, OutPoint.parse reference = .ok o →
        reference'.lower = reference.lower →
          ∃ o', OutPoint.parse reference' = .ok o' ∧ ix.listRanges o' = ix.listRanges o) ∧
      ∀ outputs', (outputs'.map (·.1)).Nodup → AgreeUpToCase outputs outputs' →
        ofEntries outputs' blockHashes tracksSats = .ok ix := by
  refine ⟨fun e => (ofEntries_eq_error_iff hkeys).trans readOutputs_eq_error_iff,
    exists_ofEntries_iff hkeys, fun ix hix => ?_⟩
  obtain ⟨entries, hentries, rfl⟩ := (ofEntries_eq_ok_iff hkeys).mp hix
  refine ⟨fun reference o ho => ⟨OutPoint.ofString_text ho, listRanges_of_brings hentries ho⟩,
    outputCount_of_brings hentries, fun reference reference' o ho hlower => ?_,
    fun outputs' hkeys' hagree => ofEntries_of_agreeUpToCase hkeys hkeys' hagree hix⟩
  exact ⟨o, OutPoint.parse_of_lower_eq ho hlower, rfl⟩

/-- Two entries for one output, the first in capitals and the second in small letters. -/
def twoSpellings : List (Text × List Chunk) :=
  [(OutPoint.repeatedReference 'A', [⟨0, 5⟩]),
    (OutPoint.repeatedReference 'a', [⟨7, 9⟩, ⟨3, 4⟩])]

theorem lower_repeatedReference (c : Char) :
    (OutPoint.repeatedReference c).lower = OutPoint.repeatedReference c.toLower := by
  rw [OutPoint.repeatedReference, Text.lower_ofString, List.map_append, List.map_replicate]
  rfl

/-- Of two entries for one output the later one counts. -/
theorem ofEntries_exact_two_spellings :
    (twoSpellings.map (·.1)).Nodup ∧
    ∃ ix, ofEntries twoSpellings [] true = .ok ix ∧ ix.outputCount = 1 ∧
      ix.listRanges ⟨String.ofList (List.replicate 64 'a'), 7⟩ = .ok [⟨7, 9⟩, ⟨3, 4⟩] := by
  have hcapital : OutPoint.parse (OutPoint.repeatedReference 'A') =
      .ok ⟨String.ofList (List.replicate 64 'a'), 7⟩ := OutPoint.parse_repeatedReference rfl
  have hsmall : OutPoint.parse (OutPoint.repeatedReference 'a') =
      .ok ⟨String.ofList (List.replicate 64 'a'), 7⟩ := OutPoint.parse_repeatedReference rfl
  have hkeys : (twoSpellings.map (·.1)).Nodup := by decide
  obtain ⟨-, hmade, hlookups⟩ := ofEntries_exact hkeys [] true
  obtain ⟨ix, hix⟩ := hmade.mpr (by simp [twoSpellings, hcapital, hsmall])
  obtain ⟨hranges, hcount, -⟩ := hlookups ix hix
  have hlower : 'A'.toLower = 'a'.toLower := by decide
  refine ⟨hkeys, ix, hix, ?_, ?_⟩
  · rw [hcount]
    simp [twoSpellings, lower_repeatedReference, hlower]
  · rw [(hranges _ _ hcapital).2]
    simp [lastRanges?, twoSpellings, lower_repeatedReference, hlower]

end SatIndex

end RareSats
