/-
# What a map of entries holds

Among entries of which no two have the same key, each one is found under its key
(`lookup_of_mem`). Putting an entry under a new key adds it at the end, so such
entries are their own map (`mapOfEntries_of_nodup`); under a key that is there it
takes the place of the entry there. Either way no key comes twice
(`nodup_putEntry`). So the map of any entries holds under each key what the last entry
with the key brings (`lookup_mapOfEntries`), and has as many entries as there are keys
(`length_mapOfEntries`).

Key theorems: `lookup_of_mem`, `lookup_of_notMem`, `mapOfEntries_of_nodup`,
`nodup_putEntry`, `lookup_mapOfEntries`, `length_mapOfEntries`.
-/
import Mathlib.Data.List.Dedup
import Mathlib.Data.List.Induction
import RareSats.OrderedMap

namespace RareSats

variable {α β : Type} [DecidableEq α]

theorem lookup_of_mem {m : List (α × β)} (h : (m.map (·.1)).Nodup) {k : α} {v : β}
    (hmem : (k, v) ∈ m) : m.lookup k = some v := by
  obtain ⟨before, after, rfl⟩ := List.append_of_mem hmem
  refine List.lookup_eq_some_iff.mpr ⟨before, after, rfl, fun e he => bne_iff_ne.mpr fun heq => ?_⟩
  rw [List.map_append, List.nodup_append] at h
  exact h.2.2 e.1 (List.mem_map.mpr ⟨e, he, rfl⟩) k List.mem_cons_self heq.symm

theorem lookup_of_notMem {m : List (α × β)} {k : α} (h : k ∉ m.map (·.1)) :
    m.lookup k = none := by
  refine List.lookup_eq_none_iff.mpr fun e he => bne_iff_ne.mpr fun heq => ?_
  exact h (heq ▸ List.mem_map.mpr ⟨e, he, rfl⟩)

/-- Entries of different keys may be looked up in any order. -/
theorem lookup_eq_of_perm {m m' : List (α × β)} (h : m.Perm m') (hnodup : (m.map (·.1)).Nodup)
    (k : α) : m.lookup k = m'.lookup k := by
  have hnodup' : (m'.map (·.1)).Nodup := (h.map _).nodup_iff.mp hnodup
  by_cases hk : k ∈ m.map (·.1)
  · obtain ⟨⟨k, v⟩, hmem, rfl⟩ := List.mem_map.mp hk
    rw [lookup_of_mem hnodup hmem, lookup_of_mem hnodup' (h.mem_iff.mp hmem)]
  · have hk' : k ∉ m'.map (·.1) := fun hmem => hk ((h.map _).mem_iff.mpr hmem)
    rw [lookup_of_notMem hk, lookup_of_notMem hk']

theorem putEntry_of_notMem {k : α} {m : List (α × β)} (h : k ∉ m.map (·.1)) (v : β) :
    putEntry k v m = m ++ [(k, v)] := by
  induction m with
  | nil => rfl
  | cons e m ih =>
    rw [List.map_cons, List.mem_cons, not_or] at h
    rw [putEntry, if_neg (Ne.symm h.1), ih h.2, List.cons_append]

theorem map_fst_putEntry_of_mem {k : α} {m : List (α × β)} (h : k ∈ m.map (·.1)) (v : β) :
    (putEntry k v m).map (·.1) = m.map (·.1) := by
  induction m with
  | nil => exact absurd h List.not_mem_nil
  | cons e m ih =>
    by_cases he : e.1 = k
    · rw [putEntry, if_pos he, List.map_cons, List.map_cons, he]
    · rw [List.map_cons, List.mem_cons] at h
      have hrest := h.resolve_left (Ne.symm he)
      rw [putEntry, if_neg he, List.map_cons, List.map_cons, ih hrest]

theorem nodup_putEntry {m : List (α × β)} (h : (m.map (·.1)).Nodup) (k : α) (v : β) :
    ((putEntry k v m).map (·.1)).Nodup := by
  by_cases hk : k ∈ m.map (·.1)
  · rwa [map_fst_putEntry_of_mem hk]
  · rw [putEntry_of_notMem hk, List.map_append]
    refine List.nodup_append.mpr ⟨h, by simp, fun a ha b hb heq => ?_⟩
    have hsame : a = k := heq.trans (List.mem_singleton.mp hb)
    exact hk (hsame ▸ ha)

theorem mem_of_mem_putEntry {k : α} {v : β} {m : List (α × β)} {e : α × β}
    (h : e ∈ putEntry k v m) : e = (k, v) ∨ e ∈ m := by
  induction m with
  | nil => exact Or.inl (List.mem_singleton.mp h)
  | cons e' m ih =>
    unfold putEntry at h
    split at h
    · exact (List.mem_cons.mp h).imp_right (List.mem_cons_of_mem _)
    · rcases List.mem_cons.mp h with rfl | hrest
      · exact Or.inr List.mem_cons_self
      · exact (ih hrest).imp_right (List.mem_cons_of_mem _)

theorem foldl_putEntry_of_nodup {entries m : List (α × β)}
    (h : ((m ++ entries).map (·.1)).Nodup) :
    entries.foldl (fun m e => putEntry e.1 e.2 m) m = m ++ entries := by
  induction entries generalizing m with
  | nil => rw [List.foldl_nil, List.append_nil]
  | cons e rest ih =>
    have hnew : e.1 ∉ m.map (·.1) := by
      rw [List.map_append, List.map_cons] at h
      exact fun hmem => (List.nodup_append.mp h).2.2 _ hmem _ List.mem_cons_self rfl
    rw [List.append_cons] at h ⊢
    rw [List.foldl_cons, putEntry_of_notMem hnew, ih h]

theorem mapOfEntries_of_nodup {entries : List (α × β)} (h : (entries.map (·.1)).Nodup) :
    mapOfEntries entries = entries :=
  foldl_putEntry_of_nodup (m := []) h

/-! ### Maps of any entries -/

theorem mapOfEntries_concat (entries : List (α × β)) (e : α × β) :
    mapOfEntries (entries ++ [e]) = putEntry e.1 e.2 (mapOfEntries entries) := by
  rw [mapOfEntries, List.foldl_concat, ← mapOfEntries]

/-- **Of the entries with a key the last one counts.** -/
theorem lookup_mapOfEntries (entries : List (α × β)) (k : α) :
    (mapOfEntries entries).lookup k = entries.reverse.lookup k := by
  induction entries using List.reverseRecOn with
  | nil => rfl
  | append_singleton entries e ih =>
    rw [mapOfEntries_concat, lookup_putEntry, ih, List.reverse_concat, List.lookup_cons]
    by_cases hk : k = e.1
    · simp [hk]
    · simp [hk, beq_false_of_ne hk]

theorem nodup_mapOfEntries (entries : List (α × β)) :
    ((mapOfEntries entries).map (·.1)).Nodup := by
  induction entries using List.reverseRecOn with
  | nil => exact List.nodup_nil
  | append_singleton entries e ih =>
    rw [mapOfEntries_concat]
    exact nodup_putEntry ih e.1 e.2

theorem mem_keys_putEntry {k k' : α} {v : β} {m : List (α × β)} :
    k' ∈ (putEntry k v m).map (·.1) ↔ k' = k ∨ k' ∈ m.map (·.1) := by
  by_cases hk : k ∈ m.map (·.1)
  · rw [map_fst_putEntry_of_mem hk]
    refine ⟨Or.inr, ?_⟩
    rintro (rfl | hmem)
    · exact hk
    · exact hmem
  · rw [putEntry_of_notMem hk, List.map_append, List.mem_append, or_comm]
    exact or_congr_left List.mem_singleton

theorem mem_keys_mapOfEntries {k : α} {entries : List (α × β)} :
    k ∈ (mapOfEntries entries).map (·.1) ↔ k ∈ entries.map (·.1) := by
  induction entries using List.reverseRecOn with
  | nil => exact Iff.rfl
  | append_singleton entries e ih =>
    rw [mapOfEntries_concat, mem_keys_putEntry, ih, List.map_append, List.mem_append, or_comm]
    exact or_congr_right List.mem_singleton.symm

theorem mem_of_mem_mapOfEntries {e : α × β} {entries : List (α × β)}
    (h : e ∈ mapOfEntries entries) : e ∈ entries := by
  induction entries using List.reverseRecOn with
  | nil => exact absurd h List.not_mem_nil
  | append_singleton entries last ih =>
    rw [mapOfEntries_concat] at h
    rcases mem_of_mem_putEntry h with rfl | hmem
    · exact List.mem_append_right _ List.mem_cons_self
    · exact List.mem_append_left _ (ih hmem)

/-- **A map has as many entries as there are keys.** -/
theorem length_mapOfEntries (entries : List (α × β)) :
    (mapOfEntries entries).length = (entries.map (·.1)).dedup.length := by
  have hperm : ((mapOfEntries entries).map (·.1)).Perm (entries.map (·.1)).dedup := by
    refine (List.perm_ext_iff_of_nodup (nodup_mapOfEntries entries) (List.nodup_dedup _)).mpr ?_
    intro k
    rw [List.mem_dedup, mem_keys_mapOfEntries]
  rw [← hperm.length_eq, List.length_map]

end RareSats
