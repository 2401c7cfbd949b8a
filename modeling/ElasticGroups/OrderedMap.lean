/-!
# Ordered maps

Maps from texts to values, held as a list of entries in strictly ascending order of their keys.
Keys are ordered by code points. Since the order leaves no choice, two maps with the same content
are equal.

## Main definitions

* `OrderedMap`: the map;
* `OrderedMap.find?`, `OrderedMap.insert`: look-up, and insertion, which replaces an entry of the
  same key;
* `OrderedMap.values`, `OrderedMap.size`: the view as a list, in the order of the keys.

## Main results

* `OrderedMap.find?_insert`: a look-up after an insertion.
-/

namespace ElasticGroups

/-- A map from texts to values. -/
structure OrderedMap (α : Type) where
  /-- The entries in ascending order of their keys. -/
  entries : List (String × α)
  /-- The keys ascend strictly. -/
  ascending : entries.Pairwise (fun a b => a.1 < b.1)
  deriving DecidableEq, Repr

namespace OrderedMap

variable {α : Type}

/-- The map without entries. -/
def empty : OrderedMap α := ⟨[], .nil⟩

instance : Inhabited (OrderedMap α) := ⟨empty⟩

/-- Put an entry into a list of entries, in front of the first greater key. -/
def insertEntry (key : String) (value : α) : List (String × α) → List (String × α)
  | [] => [(key, value)]
  | entry :: rest =>
    if key < entry.1 then (key, value) :: entry :: rest
    else if key = entry.1 then (key, value) :: rest
    else entry :: insertEntry key value rest

/-- An entry after an insertion is the new one or was there before. -/
theorem mem_insertEntry {key : String} {value : α} {entry : String × α}
    {entries : List (String × α)} (h : entry ∈ insertEntry key value entries) :
    entry = (key, value) ∨ entry ∈ entries := by
  induction entries with
  | nil => simp_all [insertEntry]
  | cons head rest ih =>
    unfold insertEntry at h
    split at h
    · simp_all
    · split at h
      · simp only [List.mem_cons] at h ⊢
        exact h.imp_right Or.inr
      · simp only [List.mem_cons] at h ⊢
        rcases h with h | h
        · exact .inr (.inl h)
        · exact (ih h).imp_right Or.inr

/-- Insertion keeps the keys in ascending order. -/
theorem ascending_insertEntry (key : String) (value : α) {entries : List (String × α)}
    (h : entries.Pairwise (fun a b => a.1 < b.1)) :
    (insertEntry key value entries).Pairwise (fun a b => a.1 < b.1) := by
  induction entries with
  | nil => simp [insertEntry]
  | cons head rest ih =>
    rw [List.pairwise_cons] at h
    unfold insertEntry
    split
    case isTrue hlt =>
      refine .cons (fun entry hentry => ?_) (.cons h.1 h.2)
      rcases List.mem_cons.mp hentry with rfl | hentry
      · exact hlt
      · exact String.lt_trans hlt (h.1 entry hentry)
    case isFalse hlt =>
      split
      case isTrue heq => exact .cons (fun entry hentry => heq ▸ h.1 entry hentry) h.2
      case isFalse hne =>
        refine .cons (fun entry hentry => ?_) (ih h.2)
        rcases mem_insertEntry hentry with rfl | hentry
        · refine Decidable.byContradiction fun hge => hne ?_
          exact String.le_antisymm (String.not_lt.mp hge) (String.not_lt.mp hlt)
        · exact h.1 entry hentry

/-- Insert an entry; an entry of the same key is replaced. -/
def insert (m : OrderedMap α) (key : String) (value : α) : OrderedMap α :=
  ⟨insertEntry key value m.entries, ascending_insertEntry key value m.ascending⟩

/-- The value of a key. -/
def find? (m : OrderedMap α) (key : String) : Option α :=
  m.entries.lookup key

/-- The number of entries. -/
def size (m : OrderedMap α) : Nat := m.entries.length

/-- The map has no entries. -/
def isEmpty (m : OrderedMap α) : Bool := m.entries.isEmpty

/-- The values in ascending order of their keys. -/
def values (m : OrderedMap α) : List α := m.entries.map (·.2)

/-- The keys in ascending order. -/
def keys (m : OrderedMap α) : List String := m.entries.map (·.1)

@[simp] theorem find?_empty (key : String) : (empty : OrderedMap α).find? key = none := rfl

/-- A look-up in a list of entries stops at the first entry of the key. -/
theorem lookup_cons_eq_ite (key : String) (entry : String × α) (rest : List (String × α)) :
    (entry :: rest).lookup key = if key = entry.1 then some entry.2 else rest.lookup key := by
  rw [List.lookup_cons]
  by_cases h : key = entry.1
  · simp [h]
  · simp [h, beq_false_of_ne h]

/-- A look-up after an insertion finds the new value under its key and what was there before under
every other key. -/
theorem find?_insert (m : OrderedMap α) (key other : String) (value : α) :
    (m.insert key value).find? other = if other = key then some value else m.find? other := by
  obtain ⟨entries, ascending⟩ := m
  simp only [find?, insert]
  clear ascending
  induction entries with
  | nil => simp [insertEntry, lookup_cons_eq_ite]
  | cons head rest ih =>
    unfold insertEntry
    split
    · simp [lookup_cons_eq_ite]
    · split
      case isTrue heq =>
        by_cases h : other = key
        · simp [h]
        · simp [lookup_cons_eq_ite, h, heq ▸ h]
      case isFalse hne =>
        rw [lookup_cons_eq_ite, ih, lookup_cons_eq_ite]
        by_cases h : other = key
        · subst h
          simp [hne]
        · simp [h]

end OrderedMap

end ElasticGroups
