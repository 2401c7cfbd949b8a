import ElasticGroups.Scaling.InstanceRef
import ElasticGroups.Proofs.Text.Blank

/-!
# Provider ids read back

The name in a provider id is what stands behind the first separator, without the slashes at its
start. A scheme in front may hold parts of a separator, and a name may hold whole separators: what
the separator begins with is not what it ends with, so no separator begins in a scheme without one
and ends behind it (`InstanceRef.not_separator_prefix`).

What is read does not begin with a slash (`InstanceRef.head?_id_ofProviderId`) and is read back when
it is written as a provider id (`InstanceRef.ofProviderId_providerId`).
-/

namespace ElasticGroups.Scaling

open Cloud Text

namespace InstanceRef

/-! ### The first separator -/

/-- Where no separator begins in a scheme, none begins in it that ends in the separator behind
it. -/
theorem not_separator_prefix {c : Char} {scheme : List Char} (h : ¬ separator <:+: c :: scheme)
    (rest : List Char) : ¬ separator <+: c :: (scheme ++ separator ++ rest) := by
  rintro ⟨after, hafter⟩
  -- A separator that goes on behind the scheme has a slash where the next one has its colon.
  match scheme with
  | [] => simp [separator] at hafter
  | [_] => simp [separator] at hafter
  | second :: third :: scheme =>
    refine h (List.IsPrefix.isInfix ⟨scheme, ?_⟩)
    simp only [separator, List.cons_append, List.nil_append, List.cons.injEq, and_true] at hafter ⊢
    exact ⟨hafter.1, hafter.2.1, hafter.2.2.1⟩

/-- What follows the first separator is found behind a scheme without one. -/
theorem afterSeparator?_append {scheme : List Char} (h : ¬ separator <:+: scheme)
    (rest : List Char) : afterSeparator? (scheme ++ separator ++ rest) = some rest := by
  induction scheme with
  | nil => rfl
  | cons c scheme ih =>
    have hscheme : ¬ separator <:+: scheme := fun hinside =>
      h (hinside.trans (List.suffix_cons c scheme).isInfix)
    have hnone : separator.isPrefixOf? (c :: (scheme ++ separator ++ rest)) = none := by
      refine Option.eq_none_iff_forall_ne_some.mpr fun after hafter => ?_
      exact not_separator_prefix h rest ⟨after, List.isPrefixOf?_eq_some_iff_append_eq.mp hafter⟩
    rw [List.cons_append, List.cons_append, afterSeparator?, hnone]
    exact ih hscheme

/-- Nothing follows a separator in a text without one. -/
theorem afterSeparator?_eq_none {cs : List Char} (h : ¬ separator <:+: cs) :
    afterSeparator? cs = none := by
  induction cs with
  | nil => rfl
  | cons c cs ih =>
    have hnone : separator.isPrefixOf? (c :: cs) = none := by
      refine Option.eq_none_iff_forall_ne_some.mpr fun after hafter => h ?_
      exact List.IsPrefix.isInfix ⟨after, List.isPrefixOf?_eq_some_iff_append_eq.mp hafter⟩
    rw [afterSeparator?, hnone]
    exact ih fun hinside => h (hinside.trans (List.suffix_cons c cs).isInfix)

/-! ### Reading a provider id -/

/-- A text of slashes. -/
def slashes (count : Nat) : List Char := List.replicate count '/'

/-- Slashes are dropped up to what does not begin with one. -/
theorem dropWhile_slashes_append {id : List Char} (h : id.head? ≠ some '/') (count : Nat) :
    (slashes count ++ id).dropWhile (· = '/') = id := by
  refine dropWhile_append_of_head? (fun c hc => ?_) fun c hc => ?_
  · exact decide_eq_true (List.eq_of_mem_replicate hc)
  · rw [decide_eq_false_iff_not]
    rintro rfl
    exact h hc

/-- A text is slashes and what is left of it without them. -/
theorem exists_slashes_append (cs : List Char) :
    ∃ count, cs = slashes count ++ cs.dropWhile (· = '/') := by
  refine ⟨(cs.takeWhile (· = '/')).length, ?_⟩
  have hslash : ∀ c ∈ cs.takeWhile (· = '/'), c = '/' := fun c hc => by
    simpa using List.mem_takeWhile_imp hc
  have hslashes : cs.takeWhile (· = '/') = slashes (cs.takeWhile (· = '/')).length :=
    List.eq_replicate_of_mem hslash
  rw [← hslashes, List.takeWhile_append_dropWhile]

/-- The name that is read does not begin with a slash. -/
theorem head?_id_ofProviderId (s : String) : (ofProviderId s).id.toList.head? ≠ some '/' := by
  rw [ofProviderId, String.toList_ofList]
  intro hhead
  have hnot := List.head?_dropWhile_not (· = '/') ((afterSeparator? s.toList).getD s.toList)
  rw [hhead] at hnot
  simp at hnot

/-- The name behind a scheme, a separator and any number of slashes is read. -/
theorem ofProviderId_append {front : String} {id : InstanceId}
    (hfront : ¬ separator <:+: front.toList) (hid : id.toList.head? ≠ some '/') (count : Nat) :
    ofProviderId (front ++ "://" ++ String.ofList (slashes count) ++ id) = ⟨id⟩ := by
  have htext : (front ++ "://" ++ String.ofList (slashes count) ++ id).toList =
      front.toList ++ separator ++ (slashes count ++ id.toList) := by
    simp [separator]
  rw [ofProviderId, htext, afterSeparator?_append hfront, Option.getD_some,
    dropWhile_slashes_append hid, String.ofList_toList]

/-- What is read is read back when it is written as a provider id. -/
theorem ofProviderId_providerId (s : String) :
    ofProviderId (ofProviderId s).providerId = ofProviderId s := by
  have hcolon : ':' ∉ scheme.toList := by decide
  have hscheme : ¬ separator <:+: scheme.toList := fun hinside =>
    hcolon (hinside.subset List.mem_cons_self)
  have happend := ofProviderId_append hscheme (head?_id_ofProviderId s) 0
  rwa [slashes, List.replicate_zero, String.ofList_nil, String.append_empty] at happend

/-- A text without a separator is slashes and the name that is read. -/
theorem exists_slashes_of_not_infix {s : String} (h : ¬ separator <:+: s.toList) :
    ∃ count, s.toList = slashes count ++ (ofProviderId s).id.toList := by
  rw [ofProviderId, afterSeparator?_eq_none h, Option.getD_none, String.toList_ofList]
  exact exists_slashes_append s.toList

/-- The name that is read from a text does not begin with a slash, and the same is read from the
provider id that it is written as. Behind a scheme without a separator, a separator and any number
of slashes, the name is read that stands there, be there separators in it or not. A text without a
separator is slashes and the name that is read. -/
theorem providerId_exact :
    (∀ s : String, (ofProviderId s).id.toList.head? ≠ some '/' ∧
        ofProviderId (ofProviderId s).providerId = ofProviderId s) ∧
      (∀ (front : String) (count : Nat) (id : InstanceId), ¬ "://".toList <:+: front.toList →
        id.toList.head? ≠ some '/' →
          (ofProviderId (front ++ "://" ++ String.ofList (slashes count) ++ id)).id = id) ∧
      ∀ s : String, ¬ "://".toList <:+: s.toList →
        ∃ count, s = String.ofList (slashes count) ++ (ofProviderId s).id := by
  refine ⟨fun s => ⟨head?_id_ofProviderId s, ofProviderId_providerId s⟩,
    fun front count id hfront hid => ?_, fun s hs => ?_⟩
  · rw [ofProviderId_append hfront hid]
  · obtain ⟨count, hcount⟩ := exists_slashes_of_not_infix hs
    exact ⟨count, String.toList_inj.mp (by simpa using hcount)⟩

/-- A scheme that ends with most of a separator in front of a name that holds a whole one, and a text
that holds only parts of one. -/
theorem providerId_exact_separators :
    (ofProviderId "a:/://///b://c").id = "b://c" ∧
      ∃ count, "//a:/b" = String.ofList (slashes count) ++ (ofProviderId "//a:/b").id :=
  ⟨providerId_exact.2.1 "a:/" 3 "b://c" (by decide +kernel) (by decide),
    providerId_exact.2.2 "//a:/b" (by decide +kernel)⟩

end InstanceRef

end ElasticGroups.Scaling
