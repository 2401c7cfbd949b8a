import ElasticGroups.Data.Decode
import Mathlib.Data.List.Forall2
import Mathlib.Data.List.Nodup

/-!
# Ways of writing a record

A record need not be written as its full encoding. Its fields may stand in any order, a field that
has its default may be left out, and fields that the record does not declare do not matter. All of
this holds for the records inside of it as well.

The module introduces:

* `Writing` — what may be written in place of an encoding, put together from
  `Writing.verbatim`, `Writing.itemwise` and `Writing.fieldwise`;
* `Reads` — the reader gets the same from everything that may be written;
* `RoundTrips` — a reader undoes the encoding, whichever way it is written.

`Field.Given.required` and `Field.Given.optional` say what the readers of fields get from a written
record.
-/

namespace ElasticGroups.Data

/-- What may be written in place of an encoding. -/
abbrev Writing := Value → Value → Prop

/-- A declared field of a record: its name, its default if it has one, and what may be written in
place of the encoding of its value. -/
structure Field where
  /-- The name. -/
  name : String
  /-- The encoding of the default. -/
  default : Option Value
  /-- What may be written in place of the value. -/
  writing : Writing

/-- A field is given in place of the one of a full encoding: at most once, and in a way that its
value may be written. It is left out only if it has its default. -/
def Field.Given (f : Field) (full given : List (String × Value)) : Prop :=
  (given.map (·.1)).count f.name ≤ 1 ∧
    match given.lookup f.name with
    | some w => ∃ v, full.lookup f.name = some v ∧ f.writing v w
    | none => f.default.isSome ∧ full.lookup f.name = f.default

namespace Writing

/-- Only the encoding itself may be written. -/
def verbatim : Writing := fun v w => v = w

/-- A list of as many items, each in a way that it may be written. -/
def itemwise (item : Writing) : Writing := fun v w =>
  ∃ vs ws, v = .list vs ∧ w = .list ws ∧ List.Forall₂ item vs ws

/-- A record that gives the declared fields, whatever else it has. -/
def fieldwise (fields : List Field) : Writing := fun v w =>
  ∃ full given, v = .record full ∧ w = .record given ∧ ∀ f ∈ fields, f.Given full given

/-! ### Encodings that are written as they are -/

variable {item : Writing}

theorem itemwise_self {vs : List Value} (h : ∀ v ∈ vs, item v v) :
    itemwise item (.list vs) (.list vs) :=
  ⟨vs, vs, rfl, rfl, List.forall₂_same.mpr h⟩

/-- An encoding that has no name twice and all of the declared fields is one of its writings. -/
theorem fieldwise_self {fields : List Field} {full : List (String × Value)}
    (hnodup : (full.map (·.1)).Nodup)
    (h : ∀ f ∈ fields, ∃ v, full.lookup f.name = some v ∧ f.writing v v) :
    fieldwise fields (.record full) (.record full) := by
  refine ⟨full, full, rfl, rfl, fun f hf => ⟨List.nodup_iff_count_le_one.mp hnodup f.name, ?_⟩⟩
  obtain ⟨v, hv, hself⟩ := h f hf
  rw [hv]
  exact ⟨v, rfl, hself⟩

end Writing

open Writing

/-! ### Readers of values -/

/-- Whatever is written in place of `v`, the reader gets `x` from it. -/
def Reads {α : Type} (writing : Writing) (read : Value → Option α) (v : Value) (x : α) : Prop :=
  ∀ w, writing v w → read w = some x

section Readers

variable {α β : Type} {read : Value → Option α} {v : Value} {x : α}

theorem reads_verbatim (h : read v = some x) : Reads verbatim read v x := fun _ hw => hw ▸ h

/-- A list is read item by item. -/
theorem reads_itemwise {item : Writing} {encode : α → Value} {xs : List α}
    (h : ∀ x ∈ xs, Reads item read (encode x) x) :
    Reads (itemwise item) (Value.listOf? read) (.list (xs.map encode)) xs := by
  rintro w ⟨vs, ws, hvs, rfl, hitems⟩
  cases hvs
  rw [Value.listOf?]
  induction xs generalizing ws with
  | nil =>
    cases hitems
    rfl
  | cons x xs ih =>
    obtain _ | ⟨hitem, hitems⟩ := hitems
    rw [List.forall_mem_cons] at h
    rw [List.mapM_cons, h.1 _ hitem, ih h.2 _ hitems]
    rfl

/-- What a list of texts is read as. -/
theorem listOf?_texts (items : List String) :
    Value.listOf? Value.text? (.texts items) = some items := by
  have hreads : Reads (itemwise verbatim) (Value.listOf? Value.text?) (.texts items) items :=
    reads_itemwise fun s _ => reads_verbatim rfl
  exact hreads _ (itemwise_self fun _ _ => rfl)

theorem orNull?_textOrNull (s : Option String) :
    Value.orNull? Value.text? (.textOrNull s) = some s := by
  cases s <;> rfl

/-- A natural number is read back if it fits a word. -/
theorem orNull?_natOrNull {n : Option Nat} (h : ∀ m ∈ n, m < Text.wordLimit) :
    Value.orNull? Value.word? (.natOrNull n) = some n := by
  cases n with
  | none => rfl
  | some m =>
    have hfits : (0 : Int) ≤ m ∧ (m : Int) < Text.wordLimit :=
      ⟨Int.natCast_nonneg m, Int.ofNat_lt.mpr (h m rfl)⟩
    rw [Value.natOrNull, Value.orNull?, Value.word?, if_pos hfits]
    · rfl
    · nofun

/-- What is read as a number that may be absent fits a word. -/
theorem lt_wordLimit_of_orNull? {n : Option Nat} (h : Value.orNull? Value.word? v = some n) :
    ∀ m ∈ n, m < Text.wordLimit := by
  rintro m rfl
  unfold Value.orNull? at h
  split at h
  case h_1 => cases h
  case h_2 v _ =>
    obtain ⟨m', hm', hm⟩ := Option.map_eq_some_iff.mp h
    obtain rfl := Option.some.inj hm
    unfold Value.word? at hm'
    split at hm'
    case h_1 k =>
      split at hm'
      case isTrue hk =>
        obtain rfl := Option.some.inj hm'
        exact (Int.toNat_lt hk.1).mpr hk.2
      case isFalse => cases hm'
    case h_2 => cases hm'

/-- What is read as a list has only items that the reader of the items gives. -/
theorem forall_mem_of_listOf? {xs : List α} {p : α → Prop} (hitem : ∀ v x, read v = some x → p x)
    (h : Value.listOf? read v = some xs) : ∀ x ∈ xs, p x := by
  unfold Value.listOf? at h
  split at h
  case h_1 vs =>
    induction vs generalizing xs with
    | nil =>
      obtain rfl := Option.some.inj h
      exact List.forall_mem_nil p
    | cons v vs ih =>
      simp only [List.mapM_cons, Option.bind_eq_bind, Option.bind_eq_some_iff, Option.pure_def,
        Option.some.injEq] at h
      obtain ⟨y, hy, ys, hys, rfl⟩ := h
      exact List.forall_mem_cons.mpr ⟨hitem v y hy, ih hys⟩
  case h_2 => cases h

end Readers

/-! ### Round trips -/

/-- A reader undoes an encoding, for all that may be written in its place. -/
structure RoundTrips {α : Type} (valid : α → Prop) (writing : Writing) (encode : α → Value)
    (decode : Value → Option α) : Prop where
  /-- Whatever is written in place of the encoding of a valid value is read as that value. -/
  decode_written : ∀ x w, valid x → writing (encode x) w → decode w = some x
  /-- Whatever a value was read from, its encoding is read as the value. -/
  decode_decoded : ∀ v x, decode v = some x → decode (encode x) = some x
  /-- The encoding itself may be written. -/
  encode_written : ∀ x, writing (encode x) (encode x)
  /-- What is read is valid. -/
  valid_of_decode : ∀ v x, decode v = some x → valid x

namespace RoundTrips

variable {α : Type} {valid : α → Prop} {writing : Writing} {encode : α → Value}
  {decode : Value → Option α}

/-- It is enough that a valid value is read back from its writings, if its encoding is one of them
and all that is read is valid. -/
theorem of_written (hwritten : ∀ x, valid x → Reads writing decode (encode x) x)
    (hself : ∀ x, writing (encode x) (encode x)) (hvalid : ∀ v x, decode v = some x → valid x) :
    RoundTrips valid writing encode decode where
  decode_written x w hx hw := hwritten x hx w hw
  decode_decoded v x h := hwritten x (hvalid v x h) _ (hself x)
  encode_written := hself
  valid_of_decode := hvalid

/-- It is enough for a record that a valid value is read from all records that give the declared
fields, if its encoding has each of them once. -/
theorem of_fields {fields : List Field} {full : α → List (String × Value)}
    (hencode : ∀ x, encode x = .record (full x))
    (hread : ∀ x given, valid x → (∀ f ∈ fields, f.Given (full x) given) →
      decode (.record given) = some x)
    (hnodup : ∀ x, ((full x).map (·.1)).Nodup)
    (hfull : ∀ x, ∀ f ∈ fields, ∃ v, (full x).lookup f.name = some v ∧ f.writing v v)
    (hvalid : ∀ v x, decode v = some x → valid x) :
    RoundTrips valid (fieldwise fields) encode decode := by
  refine of_written ?_ (fun x => ?_) hvalid
  · rintro x hx w ⟨record, given, hrecord, rfl, hgiven⟩
    rw [hencode x] at hrecord
    cases hrecord
    exact hread x given hx hgiven
  · rw [hencode x]
    exact fieldwise_self (hnodup x) (hfull x)

/-- The encoding of a valid value is read as that value. -/
theorem decode_encode (h : RoundTrips valid writing encode decode) {x : α} (hx : valid x) :
    decode (encode x) = some x :=
  h.decode_written x _ hx (h.encode_written x)

theorem reads (h : RoundTrips valid writing encode decode) {x : α} (hx : valid x) :
    Reads writing decode (encode x) x := fun w hw => h.decode_written x w hx hw

/-- The encodings of the items of a list may be written. -/
theorem items_written (h : RoundTrips valid writing encode decode) (xs : List α) :
    itemwise writing (.list (xs.map encode)) (.list (xs.map encode)) :=
  itemwise_self (List.forall_mem_map.mpr fun x _ => h.encode_written x)

/-- A list of valid items is read back. -/
theorem reads_items (h : RoundTrips valid writing encode decode) {xs : List α}
    (hxs : ∀ x ∈ xs, valid x) :
    Reads (itemwise writing) (Value.listOf? decode) (.list (xs.map encode)) xs :=
  reads_itemwise fun x hx => h.reads (hxs x hx)

end RoundTrips

/-! ### Readers of fields -/

namespace Field

/-- A field that must be given. -/
def required (name : String) (writing : Writing) : Field := ⟨name, none, writing⟩

/-- A field with a default. -/
def optional (name : String) (default : Value) (writing : Writing) : Field :=
  ⟨name, some default, writing⟩

variable {α : Type} {full given : List (String × Value)} {name : String} {writing : Writing}
  {read : Value → Option α} {v : Value} {x : α}

/-- What is read from a field that must be given. -/
theorem Given.required (h : (Field.required name writing).Given full given)
    (hfull : full.lookup name = some v) (hread : Reads writing read v x) :
    required? given name read = some x := by
  obtain ⟨-, h⟩ := h
  split at h
  case h_1 w hw =>
    obtain ⟨v', hv', hwriting⟩ := h
    obtain rfl : v' = v := Option.some.inj (hv'.symm.trans hfull)
    rw [required?]
    exact (congrArg (Option.bind · read) hw).trans (hread w hwriting)
  case h_2 => exact absurd h.1 Bool.false_ne_true

/-- What is read from a field with a default. It is left out only if its encoding is that of the
default, and then the default is what it is read as. -/
theorem Given.optional {default : α} {missing : Value}
    (h : (Field.optional name missing writing).Given full given)
    (hfull : full.lookup name = some v) (hread : Reads writing read v x) (hself : writing v v)
    (hmissing : read missing = some default) :
    optional? given name default read = some x := by
  obtain ⟨-, h⟩ := h
  rw [optional?]
  split at h
  case h_1 w hw =>
    obtain ⟨v', hv', hwriting⟩ := h
    obtain rfl : v' = v := Option.some.inj (hv'.symm.trans hfull)
    rw [show given.lookup name = some w from hw]
    exact hread w hwriting
  case h_2 hnone =>
    obtain rfl : v = missing := Option.some.inj (hfull.symm.trans h.2)
    rw [show given.lookup name = none from hnone]
    exact hmissing.symm.trans (hread v hself)

/-- What is read from a text that must be given. -/
theorem Given.text {s : String} (h : (Field.required name verbatim).Given full given)
    (hfull : full.lookup name = some (.text s)) : required? given name Value.text? = some s :=
  h.required hfull (reads_verbatim rfl)

/-- What is read from a text that has a default. -/
theorem Given.textOr {default s : String}
    (h : (Field.optional name (.text default) verbatim).Given full given)
    (hfull : full.lookup name = some (.text s)) :
    optional? given name default Value.text? = some s :=
  h.optional hfull (reads_verbatim rfl) rfl rfl

/-- What is read from a text that may be absent. -/
theorem Given.textOrNull {s : Option String}
    (h : (Field.optional name .null verbatim).Given full given)
    (hfull : full.lookup name = some (.textOrNull s)) :
    optional? given name none (Value.orNull? Value.text?) = some s :=
  h.optional hfull (reads_verbatim (orNull?_textOrNull s)) rfl rfl

/-- What is read from a list that may be left out if it is empty. -/
theorem Given.items {valid : α → Prop} {encode : α → Value} {xs : List α}
    (h : (Field.optional name (.list []) (itemwise writing)).Given full given)
    (hitem : RoundTrips valid writing encode read) (hxs : ∀ x ∈ xs, valid x)
    (hfull : full.lookup name = some (.list (xs.map encode))) :
    optional? given name [] (Value.listOf? read) = some xs :=
  h.optional hfull (hitem.reads_items hxs) (hitem.items_written xs) rfl

/-- A record that gives every declared field has no declared field twice. -/
theorem fields?_of_given {fields : List Field} (h : ∀ f ∈ fields, f.Given full given) :
    (Value.record given).fields? (fields.map (·.name)) = some given := by
  have hcounts : ∀ name ∈ fields.map (·.name), (given.map (·.1)).count name ≤ 1 :=
    List.forall_mem_map.mpr fun f hf => (h f hf).1
  rw [Value.fields?]
  exact if_pos (List.all_eq_true.mpr fun name hname => decide_eq_true (hcounts name hname))

/-- The same in the convention of any source: only lists are clipped. -/
theorem convention_fields?_of_given (convention : Convention) {fields : List Field}
    (h : ∀ f ∈ fields, f.Given full given) :
    convention.fields? (fields.map (·.name)) (.record given) = some given := by
  rw [Convention.fields?, Value.clip, ite_self, fields?_of_given h]
  exact nofun

end Field

/-- The value of a field with a default is the default, or it was read. -/
theorem optional?_eq_some {α : Type} {fields : List (String × Value)} {name : String}
    {default x : α} {read : Value → Option α} (h : optional? fields name default read = some x) :
    x = default ∨ ∃ v, read v = some x := by
  unfold optional? at h
  split at h
  case h_1 => exact .inl (Option.some.inj h).symm
  case h_2 v _ => exact .inr ⟨v, h⟩

end ElasticGroups.Data
