import ElasticGroups.Data.Decode
import ElasticGroups.OrderedMap

/-!
# What a table holds under a name

The fields of a table stand in an order and may repeat a name, but what is read from a table depends
only on the values that it holds under each name: a field must be there once, or may be missing and
then has its default. So the readers of fields are told by these values, and tables that hold the
same under the names that are read cannot be told apart.

The module introduces:

* `held` — the values of a table under a name;
* `SameBut` — two tables hold the same under all names but one;
* `Decodes` — what the values under the name of a field with a default decode to.
-/

namespace ElasticGroups.Data

/-- The values that a table holds under a name. -/
def held (name : String) (table : List (String × Value)) : List Value :=
  (table.filter fun field => field.1 = name).map (·.2)

/-- Two tables hold the same under every name but one. -/
def SameBut (name : String) (table table' : List (String × Value)) : Prop :=
  ∀ other, other ≠ name → held other table' = held other table

/-- What the values under the name of a field decode to, if the field has a default: the default if
there are none, and otherwise what the only one is read as. -/
inductive Decodes {α : Type} (read : Value → Option α) (default : α) : List Value → α → Prop
  /-- The field is missing. -/
  | missing : Decodes read default [] default
  /-- The field is given. -/
  | given {v : Value} {x : α} (h : read v = some x) : Decodes read default [v] x

variable {table table' : List (String × Value)} {name other : String}

/-! ### Looking up and counting -/

/-- A field adds its value to those under its own name. -/
theorem held_cons (field : String × Value) :
    held name (field :: table) =
      if field.1 = name then field.2 :: held name table else held name table := by
  by_cases h : field.1 = name
  · simp [held, h]
  · simp [held, h]

/-- A look-up finds the first of the values. -/
theorem lookup_eq_head?_held (name : String) (table : List (String × Value)) :
    table.lookup name = (held name table).head? := by
  induction table with
  | nil => rfl
  | cons field table ih =>
    rw [OrderedMap.lookup_cons_eq_ite, held_cons]
    by_cases h : field.1 = name
    · rw [if_pos h.symm, if_pos h, List.head?_cons]
    · rw [if_neg (Ne.symm h), if_neg h, ih]

/-- A name is counted as often as the table holds a value under it. -/
theorem count_eq_length_held (name : String) (table : List (String × Value)) :
    (table.map (·.1)).count name = (held name table).length := by
  rw [held, List.length_map, List.count, List.countP_map, List.countP_eq_length_filter]
  rfl

/-! ### Readers of fields -/

/-- A record has its own fields, in the convention of any source, if none of the declared names is
repeated. -/
theorem convention_fields?_record_iff (convention : Convention) {names : List String}
    {fields : List (String × Value)} :
    convention.fields? names (.record table) = some fields ↔
      fields = table ∧ ∀ name ∈ names, (held name table).length ≤ 1 := by
  rw [Convention.fields?, Value.clip, ite_self, Value.fields?]
  · simp only [count_eq_length_held, Option.ite_none_right_eq_some, List.all_eq_true,
      decide_eq_true_eq, Option.some.injEq]
    rw [and_comm, eq_comm]
  · exact nofun

/-- Only a text is read as a text. -/
theorem text?_eq_some_iff {v : Value} {s : String} : v.text? = some s ↔ v = .text s := by
  cases v <;> simp [Value.text?]

section Readers

variable {α : Type} {read : Value → Option α} {default x : α}

/-- A field that must be given is read from its only value. -/
theorem required?_eq_some_iff (h : (held name table).length ≤ 1) :
    required? table name read = some x ↔ ∃ v, held name table = [v] ∧ read v = some x := by
  rw [required?, lookup_eq_head?_held]
  match held name table, h with
  | [], _ => exact ⟨nofun, nofun⟩
  | [v], _ => exact ⟨fun hread => ⟨v, rfl, hread⟩, fun ⟨_, hv, hread⟩ => by cases hv; exact hread⟩

/-- A field with a default is what its values decode to. -/
theorem optional?_eq_some_iff (h : (held name table).length ≤ 1) :
    optional? table name default read = some x ↔ Decodes read default (held name table) x := by
  rw [optional?, lookup_eq_head?_held]
  match held name table, h with
  | [], _ => exact ⟨fun heq => Option.some.inj heq ▸ .missing, fun | .missing => rfl⟩
  | [v], _ => exact ⟨.given, fun | .given hread => hread⟩

/-- A field that decodes is given once at most. -/
theorem Decodes.length_le_one {vs : List Value} (h : Decodes read default vs x) :
    vs.length ≤ 1 := by
  cases h with
  | missing => exact Nat.zero_le 1
  | given => exact Nat.le_refl 1

end Readers

end ElasticGroups.Data
