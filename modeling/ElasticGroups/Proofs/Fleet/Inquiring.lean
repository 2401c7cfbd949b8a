import ElasticGroups.Proofs.Cloud.Framing
import ElasticGroups.Proofs.Discovery.Cycle
import ElasticGroups.Proofs.Scaling.Refusal

/-!
# Looking at a store

Cycles of discovery and looks at node groups that are under way together on one store. Each of them
goes on request by request, and between two requests of one the others may send theirs.

The module introduces:

* `Inquiry` — what may be under way, with its session and the type of its outcome;
* `Progress` — an inquiry with what is left of its session;
* `Interleaving store left after` — inquiries that began on a store have come to what is left of
  each, and the store to another.

Inquiries that are carried out one after the other are interleaved too (`Interleaving.run`). An
inquiry only asks what reads, so an interleaving leaves the store intact (`Interleaving.intact`),
and it never comes to a target size that was lowered (`Interleaving.ne_ok`). With what a single
request leaves alone this is `content_intact`.
-/

namespace ElasticGroups.Fleet

open Cloud Discovery Scaling Session

/-- What may look at a provider. A request to lower the target size is among it, since it is
refused. -/
inductive Inquiry
  /-- A catalog runs a cycle. -/
  | refresh (c : Catalog)
  /-- A node group is asked for its target size. -/
  | targetSize (g : NodeGroup)
  /-- A node group is asked for its present size. -/
  | currentSize (g : NodeGroup)
  /-- A node group is asked for its instances. -/
  | nodes (g : NodeGroup)
  /-- A node group is asked whether it still exists. -/
  | exists? (g : NodeGroup)
  /-- A node group is asked to lower its target size. -/
  | decreaseTargetSize (g : NodeGroup) (delta : Int)

namespace Inquiry

/-- What an inquiry ends with. -/
def Outcome : Inquiry → Type
  | refresh _ => Except CatalogError Summary × Catalog
  | targetSize _ => Except NodeGroupError Nat
  | currentSize _ => Except NodeGroupError Nat
  | nodes _ => Except NodeGroupError (List (InstanceId × Lifecycle))
  | exists? _ => Bool
  | decreaseTargetSize _ _ => Except NodeGroupError Unit

/-- What an inquiry asks. -/
def session : (inquiry : Inquiry) → Session Reply inquiry.Outcome
  | refresh c => c.refresh
  | targetSize g => g.targetSize.run
  | currentSize g => g.currentSize.run
  | nodes g => g.nodes.run
  | exists? g => g.exists?
  | decreaseTargetSize g delta => (g.decreaseTargetSize delta).run

/-- The outcomes that an inquiry may have: no target size is lowered. -/
def Possible : (inquiry : Inquiry) → inquiry.Outcome → Prop
  | decreaseTargetSize _ _, outcome => outcome ≠ .ok ()
  | _, _ => True

/-- An inquiry only reads. -/
theorem asksOnly_session (inquiry : Inquiry) : inquiry.session.AsksOnly Request.Reads := by
  cases inquiry with
  | refresh c =>
    refine (asksOnly_refresh c).mono ?_
    rintro request (rfl | ⟨id, rfl⟩) <;> exact trivial
  | targetSize g => exact asksOnly_targetSize g trivial
  | currentSize g => exact asksOnly_targetSize g trivial
  | nodes g =>
    refine AsksOnly.exceptT_bind ⟨trivial, ?_⟩ fun group => trivial
    rintro (error | group) <;> exact trivial
  | exists? g =>
    refine ⟨trivial, ?_⟩
    rintro (error | group) <;> exact trivial
  | decreaseTargetSize g delta => exact asksOnly_decreaseTargetSize g delta

/-- Lowering the target size is refused, whatever is replied. -/
theorem endsOnly_decreaseTargetSize (g : NodeGroup) (delta : Int) :
    (g.decreaseTargetSize delta).run.EndsOnly (· ≠ .ok ()) := by
  have hrefused : ∀ error : NodeGroupError, (.error error : Except NodeGroupError Unit) ≠ .ok () :=
    fun error h => by cases h
  simp only [NodeGroup.decreaseTargetSize]
  split
  · exact hrefused _
  · rintro (error | group)
    · exact hrefused _
    · exact hrefused _

/-- An inquiry ends with an outcome that it may have. -/
theorem endsOnly_session (inquiry : Inquiry) : inquiry.session.EndsOnly inquiry.Possible := by
  cases inquiry with
  | decreaseTargetSize g delta => exact endsOnly_decreaseTargetSize g delta
  | refresh | targetSize | currentSize | nodes | exists? =>
    exact endsOnly_of_forall (fun _ => trivial) _

end Inquiry

/-- An inquiry with what is left of its session. -/
abbrev Progress := (inquiry : Inquiry) × Session Reply inquiry.Outcome

/-- Inquiries that began on a store have come to what is left of them, and the store to another. -/
inductive Interleaving (store : Store) : List Progress → Store → Prop
  /-- Nothing is under way. -/
  | start : Interleaving store [] store
  /-- One more inquiry begins. -/
  | begins {left : List Progress} {after : Store} (h : Interleaving store left after)
      (inquiry : Inquiry) : Interleaving store (left ++ [⟨inquiry, inquiry.session⟩]) after
  /-- One of the inquiries sends its next request. -/
  | asks {front back : List Progress} {after : Store} {inquiry : Inquiry} {request : Request}
      {next : Reply request → Session Reply inquiry.Outcome}
      (h : Interleaving store (front ++ ⟨inquiry, .ask request next⟩ :: back) after) :
      Interleaving store (front ++ ⟨inquiry, next (Store.respond request after).1⟩ :: back)
        (Store.respond request after).2
  /-- One of the inquiries has slept. -/
  | sleeps {front back : List Progress} {after : Store} {inquiry : Inquiry} {span : Duration}
      {next : Duration → Session Reply inquiry.Outcome}
      (h : Interleaving store (front ++ ⟨inquiry, .sleep span next⟩ :: back) after)
      (lasted : Duration) : Interleaving store (front ++ ⟨inquiry, next lasted⟩ :: back) after

/-- What is left of an inquiry only reads, and ends with an outcome that the inquiry may have. -/
structure Progress.Harmless (progress : Progress) : Prop where
  /-- It only reads. -/
  reads : progress.2.AsksOnly Request.Reads
  /-- Its outcome is one that the inquiry may have. -/
  ends : progress.2.EndsOnly progress.1.Possible

namespace Interleaving

variable {store after : Store} {left : List Progress}

/-- All that is left of inquiries is harmless. -/
theorem harmless (h : Interleaving store left after) : ∀ progress ∈ left, progress.Harmless := by
  -- One step lemma covers a request and a sleep: the progress of one inquiry is replaced.
  have hreplace : ∀ {front back : List Progress} {old new : Progress},
      (∀ progress ∈ front ++ old :: back, progress.Harmless) → (old.Harmless → new.Harmless) →
        ∀ progress ∈ front ++ new :: back, progress.Harmless := by
    intro front back old new hold hnew
    rw [List.forall_mem_append, List.forall_mem_cons] at hold ⊢
    exact ⟨hold.1, hnew hold.2.1, hold.2.2⟩
  induction h with
  | start => exact List.forall_mem_nil _
  | begins _ inquiry ih =>
    rw [List.forall_mem_append, List.forall_mem_singleton]
    exact ⟨ih, inquiry.asksOnly_session, inquiry.endsOnly_session⟩
  | asks _ ih => exact hreplace ih fun hold => ⟨hold.reads.2 _, hold.ends _⟩
  | sleeps _ lasted ih => exact hreplace ih fun hold => ⟨hold.reads lasted, hold.ends lasted⟩

/-- Inquiries leave a store intact, however they are interleaved. -/
theorem intact (h : Interleaving store left after) : Store.Intact store after := by
  induction h with
  | start => exact .refl store
  | begins _ _ ih => exact ih
  | asks h ih =>
    -- The request belongs to what was left of an inquiry, so it reads.
    have hreads := (h.harmless _ (List.mem_append_right _ List.mem_cons_self)).reads.1
    exact ih.trans ((Store.framed_respond _ _).intact_of_reads hreads)
  | sleeps _ _ ih => exact ih

/-- An inquiry that goes on by itself to its end, on whatever clock, is part of an interleaving. -/
theorem run {front back : List Progress} {inquiry : Inquiry}
    {session : Session Reply inquiry.Outcome} (clock : Clock) (now : Duration)
    (h : Interleaving store (front ++ ⟨inquiry, session⟩ :: back) after) :
    let run := session.run clock Store.respond ⟨after, now⟩
    Interleaving store (front ++ ⟨inquiry, .done run.1⟩ :: back) run.2.partner := by
  induction session generalizing after now with
  | done outcome => exact h
  | ask request next ih => exact ih _ now h.asks
  | sleep span next ih => exact ih _ _ (h.sleeps (clock.lasting span))

/-- No target size is lowered. -/
theorem ne_ok {g : NodeGroup} {delta : Int} {outcome : Except NodeGroupError Unit}
    (h : Interleaving store left after)
    (hdone : ⟨.decreaseTargetSize g delta, .done outcome⟩ ∈ left) : outcome ≠ .ok () :=
  (h.harmless _ hdone).ends

end Interleaving

/-- What a request to a store leaves alone, and what many of them do. One request of its kind is
counted, also when it fails. A request that fails leaves the content, the names that are used up and
the switch intact and takes at most one failure out of the plan, the one it fails with. A stalled
store keeps its content and gives the replies that it would give otherwise. A read leaves all of it
intact. So inquiries leave it intact however they are interleaved, and none of them lowers a target
size. -/
theorem content_intact :
    (∀ (store : Store) (request : Request),
      Store.Framed store request (Store.respond request store).1 (Store.respond request store).2) ∧
      ∀ (store : Store) (left : List Progress) (after : Store), Interleaving store left after →
        Store.Intact store after ∧
          ∀ g delta outcome, ⟨.decreaseTargetSize g delta, .done outcome⟩ ∈ left →
            outcome ≠ .ok () :=
  ⟨Store.framed_respond, fun _ _ _ h => ⟨h.intact, fun _ _ _ hdone => h.ne_ok hdone⟩⟩

end ElasticGroups.Fleet
