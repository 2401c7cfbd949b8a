import ElasticGroups.OrderedMap
import Mathlib.Data.Finset.Card
import Mathlib.Data.List.Basic

/-!
# Keys of ordered maps

What an ordered map holds, by its keys: the keys are those that a look-up finds, each of them is
held once, and so the number of entries is the number of keys.

Since the keys of a map ascend, inserting its values one after the other builds it again
(`OrderedMap.foldl_insert_values`).

The module also introduces `OrderedMap.insertAll`, the insertion of one value under several keys,
which is how the members of a group are indexed.
-/

namespace ElasticGroups.OrderedMap

variable {α : Type} (m : OrderedMap α)

/-- No key is held twice. -/
theorem nodup_keys : m.keys.Nodup := by
  rw [keys, List.nodup_iff_pairwise_ne, List.pairwise_map]
  exact m.ascending.imp fun h => String.ne_of_lt h

/-- The keys are those under which a look-up finds a value. -/
theorem mem_keys_iff {key : String} : key ∈ m.keys ↔ (m.find? key).isSome = true := by
  rw [find?, List.lookup_isSome_iff, keys, List.mem_map]
  constructor
  · rintro ⟨entry, hentry, rfl⟩
    exact ⟨entry, hentry, beq_self_eq_true _⟩
  · rintro ⟨entry, hentry, hkey⟩
    exact ⟨entry, hentry, (beq_iff_eq.mp hkey).symm⟩

/-- A look-up finds the value of the entry of its key. -/
theorem find?_eq_some_iff {key : String} {value : α} :
    m.find? key = some value ↔ (key, value) ∈ m.entries := by
  rw [find?, List.lookup_eq_some_iff]
  constructor
  · rintro ⟨front, back, hentries, -⟩
    rw [hentries]
    exact List.mem_append_right _ List.mem_cons_self
  · intro hmem
    obtain ⟨front, back, hentries⟩ := List.append_of_mem hmem
    refine ⟨front, back, hentries, fun entry hentry => ?_⟩
    -- The entries in front have smaller keys.
    have hascending := m.ascending
    rw [hentries, List.pairwise_append] at hascending
    have hlt : entry.1 < key := hascending.2.2 entry hentry _ List.mem_cons_self
    exact bne_iff_ne.mpr (String.ne_of_lt hlt).symm

/-- The values are what look-ups find. -/
theorem mem_values_iff {value : α} : value ∈ m.values ↔ ∃ key, m.find? key = some value := by
  simp only [values, List.mem_map, find?_eq_some_iff]
  constructor
  · rintro ⟨⟨key, _⟩, hentry, rfl⟩
    exact ⟨key, hentry⟩
  · rintro ⟨key, hentry⟩
    exact ⟨_, hentry, rfl⟩

/-- A map has as many entries as there are keys under which a look-up finds a value. -/
theorem size_eq_card {keys : Finset String}
    (h : ∀ key, key ∈ keys ↔ (m.find? key).isSome = true) : m.size = keys.card := by
  have hkeys : m.keys.toFinset = keys := by
    ext key
    rw [List.mem_toFinset, mem_keys_iff, h]
  rw [← hkeys, List.toFinset_card_of_nodup m.nodup_keys, OrderedMap.keys, List.length_map, size]

/-- A map that holds some new keys besides those of another one has that many entries more. -/
theorem size_eq_of_new_keys {m' : OrderedMap α} {keys : List String} (hdistinct : keys.Nodup)
    (hnew : ∀ key ∈ keys, m.find? key = none)
    (hkeys : ∀ key, (m'.find? key).isSome = true ↔ (m.find? key).isSome = true ∨ key ∈ keys) :
    m'.size = m.size + keys.length := by
  have hdisjoint : List.Disjoint m.keys keys := by
    intro key hold hkey
    rw [mem_keys_iff, hnew key hkey] at hold
    cases hold
  have hperm : m'.keys.Perm (m.keys ++ keys) := by
    rw [List.perm_ext_iff_of_nodup m'.nodup_keys (m.nodup_keys.append hdistinct hdisjoint)]
    intro key
    rw [List.mem_append, mem_keys_iff, mem_keys_iff, hkeys]
  have hlength := hperm.length_eq
  rw [List.length_append, OrderedMap.keys, OrderedMap.keys, List.length_map, List.length_map]
    at hlength
  exact hlength

/-! ### Building a map again -/

/-- An entry with the greatest key comes last. -/
theorem insertEntry_of_forall_lt {key : String} {value : α} {entries : List (String × α)}
    (h : ∀ entry ∈ entries, entry.1 < key) :
    insertEntry key value entries = entries ++ [(key, value)] := by
  induction entries with
  | nil => rfl
  | cons entry rest ih =>
    rw [List.forall_mem_cons] at h
    rw [insertEntry, if_neg (String.lt_asymm h.1), if_neg (String.ne_of_lt h.1).symm, ih h.2]
    rfl

/-- Entries that ascend behind those of a map are appended to it. -/
theorem entries_foldl_insert {key : α → String} {entries : List (String × α)}
    (hkeys : ∀ entry ∈ entries, key entry.2 = entry.1)
    (hascending : (m.entries ++ entries).Pairwise fun a b => a.1 < b.1) :
    ((entries.map (·.2)).foldl (fun m value => m.insert (key value) value) m).entries =
      m.entries ++ entries := by
  induction entries generalizing m with
  | nil => simp
  | cons entry rest ih =>
    rw [List.forall_mem_cons] at hkeys
    have hlast : (m.insert (key entry.2) entry.2).entries = m.entries ++ [entry] := by
      rw [hkeys.1]
      refine insertEntry_of_forall_lt fun other hother => ?_
      exact (List.pairwise_append.mp hascending).2.2 other hother entry List.mem_cons_self
    rw [List.map_cons, List.foldl_cons, ih _ hkeys.2, hlast, List.append_assoc]
    · rfl
    · rw [hlast, List.append_assoc]
      exact hascending

/-- A map is built again from its values, each under the key it tells. -/
theorem foldl_insert_values {key : α → String} (hkeys : ∀ entry ∈ m.entries, key entry.2 = entry.1) :
    m.values.foldl (fun m value => m.insert (key value) value) empty = m := by
  have hentries := entries_foldl_insert empty hkeys m.ascending
  rw [values]
  generalize List.foldl _ _ _ = built at hentries ⊢
  cases built
  cases m
  cases hentries
  rfl

/-- Insert one value under several keys. -/
def insertAll (keys : List String) (value : α) : OrderedMap α :=
  keys.foldl (fun m key => m.insert key value) m

/-- The value is found under all its keys, and every other key is as before. -/
theorem find?_insertAll (keys : List String) (value : α) (key : String) :
    (m.insertAll keys value).find? key = if key ∈ keys then some value else m.find? key := by
  induction keys generalizing m with
  | nil => simp [insertAll]
  | cons first rest ih =>
    have hstep : m.insertAll (first :: rest) value =
        (m.insert first value).insertAll rest value := rfl
    rw [hstep, ih, find?_insert]
    by_cases hrest : key ∈ rest
    · rw [if_pos hrest, if_pos (List.mem_cons_of_mem _ hrest)]
    · rw [if_neg hrest]
      by_cases hfirst : key = first
      · rw [if_pos hfirst, if_pos (hfirst ▸ List.mem_cons_self)]
      · rw [if_neg hfirst, if_neg (by simp [hfirst, hrest])]

end ElasticGroups.OrderedMap
