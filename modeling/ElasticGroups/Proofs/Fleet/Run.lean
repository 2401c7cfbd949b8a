import ElasticGroups.Proofs.Fleet.Operations

/-!
# Scaling bounds over whole runs

A catalog and its callers at work on a store: cycles of discovery, operations on the node groups
that any complete cycle so far has surfaced, and disturbances of the store, in any order and
number.

The module introduces:

* `Scene` — the store with the time, the catalog, and the node groups surfaced so far;
* `Move`, `Scene.after` — one step of the callers or one disturbance, and the scene after it;
* `Run` — moves one after the other, each on node groups surfaced before it;
* `Tending settings limit start scene` — the invariant of a run: the store is orderly, its groups
  have been tended since the start, and every surfaced node group governs one of them.

Every move keeps the invariant (`Tending.step`), so every run does (`Tending.run`). At all times
of a run a group is therefore no further outside its bounds than at its start, and within them if
it was so then (`size_within_bounds`).
-/

namespace ElasticGroups.Fleet

open Boot Cloud Discovery Scaling Session

/-- A store, a catalog that discovers its groups, and the node groups surfaced so far. -/
structure Scene where
  /-- The store and the time. -/
  world : World Store
  /-- The catalog. -/
  catalog : Catalog
  /-- The node groups that complete cycles have surfaced, those of older cycles too. -/
  surfaced : List NodeGroup := []

/-- What may happen next. -/
inductive Move
  /-- The catalog runs a cycle. -/
  | refresh
  /-- A node group grows. -/
  | increase (g : NodeGroup) (delta : Int)
  /-- A node group is asked to shrink. -/
  | decrease (g : NodeGroup) (delta : Int)
  /-- A node group deletes instances. -/
  | delete (g : NodeGroup) (refs : List InstanceRef)
  /-- A failure of the store is planned. -/
  | planFailure (operation : Operation) (nth : Nat) (error : ProviderError)
  /-- The store stalls, or no longer does. -/
  | setStalled (stalled : Bool)
  /-- The clock of the store is set. -/
  | setClock (clock : Nat)

namespace Scene

variable (scene : Scene)

/-- The store. -/
def store : Store := scene.world.partner

/-- The scene after an operation. -/
def attempt (clock : Clock) (operation : Attempt Unit) : Scene :=
  { scene with world := (operation.run.run clock Store.respond scene.world).2 }

/-- An operation surfaces no node groups. -/
@[simp] theorem surfaced_attempt (clock : Clock) (operation : Attempt Unit) :
    (scene.attempt clock operation).surfaced = scene.surfaced := rfl

/-- The scene after a cycle. A complete cycle surfaces what it found. -/
def refresh (clock : Clock) : Scene :=
  let ((result, catalog), world) := scene.catalog.refresh.run clock Store.respond scene.world
  match result with
  | .ok _ => { world, catalog, surfaced := scene.surfaced ++ catalog.nodeGroups }
  | .error _ => { scene with world, catalog }

/-- A cycle leaves the store as its session does. -/
theorem world_refresh (clock : Clock) :
    (scene.refresh clock).world =
      (scene.catalog.refresh.run clock Store.respond scene.world).2 := by
  rw [refresh]
  rcases scene.catalog.refresh.run clock Store.respond scene.world with
    ⟨⟨error | summary, catalog⟩, world⟩ <;> rfl

/-- The scene with another store. -/
def withStore (store : Store) : Scene :=
  { scene with world := { scene.world with partner := store } }

/-- The scene after a move. -/
def after (clock : Clock) : Move → Scene
  | .refresh => scene.refresh clock
  | .increase g delta => scene.attempt clock (g.increaseSize delta)
  | .decrease g delta => scene.attempt clock (g.decreaseTargetSize delta)
  | .delete g refs => scene.attempt clock (g.deleteNodes refs)
  | .planFailure operation nth error =>
    scene.withStore (scene.store.planFailure operation nth error)
  | .setStalled stalled => scene.withStore { scene.store with stalled }
  | .setClock clock => scene.withStore { scene.store with clock }

end Scene

/-- Operations are for node groups that have been surfaced. -/
def Move.Allowed (scene : Scene) : Move → Prop
  | .increase g _ => g ∈ scene.surfaced
  | .decrease g _ => g ∈ scene.surfaced
  | .delete g _ => g ∈ scene.surfaced
  | _ => True

/-- Moves one after the other. -/
inductive Run (clock : Clock) (start : Scene) : Scene → Prop
  /-- No move. -/
  | refl : Run clock start start
  /-- One more move. -/
  | step {scene : Scene} (h : Run clock start scene) (move : Move) (hmove : move.Allowed scene) :
      Run clock start (scene.after clock move)

variable {clock : Clock} {settings : Settings} {limit : Nat} {start : Store}
  {scene scene' : Scene} {move : Move}

/-! ### Names -/

/-- A session takes no names back. -/
theorem created_le_of_run {α : Type} (session : Session Reply α) (world : World Store) :
    world.partner.created ≤ (session.run clock Store.respond world).2.partner.created := by
  obtain ⟨record, -, hgives⟩ := transcript_run clock Store.respond session world
  exact Store.created_le_of_gives hgives

/-- A move takes no names back. -/
theorem created_le_of_after (scene : Scene) (move : Move) :
    scene.store.created ≤ (scene.after clock move).store.created := by
  cases move with
  | refresh =>
    rw [Scene.after, Scene.store, Scene.store, Scene.world_refresh]
    exact created_le_of_run _ _
  | increase g delta => exact created_le_of_run _ _
  | decrease g delta => exact created_le_of_run _ _
  | delete g refs => exact created_le_of_run _ _
  | planFailure operation nth error => exact Nat.le_refl _
  | setStalled stalled => exact Nat.le_refl _
  | setClock clock => exact Nat.le_refl _

/-- A run takes no names back. -/
theorem Run.created_le (h : Run clock scene scene') :
    scene.store.created ≤ scene'.store.created := by
  induction h with
  | refl => exact Nat.le_refl _
  | step _ move _ ih => exact ih.trans (created_le_of_after _ move)

/-! ### The invariant -/

/-- What holds at all times of a run. -/
structure Tending (settings : Settings) (limit : Nat) (start : Store) (scene : Scene) : Prop where
  /-- The catalog keeps its settings. -/
  settings_eq : scene.catalog.settings = settings
  /-- The store is orderly. -/
  orderly : Orderly settings limit scene.store
  /-- The groups have been tended since the start. -/
  tended : Tended settings start scene.store
  /-- The surfaced node groups govern groups of the store. -/
  governs : ∀ g ∈ scene.surfaced, Governs settings scene.store g

namespace Tending

variable (h : Tending settings limit start scene)

include h

/-- What tends the groups keeps the invariant, as long as no other node groups are surfaced. -/
theorem advance (hcatalog : scene'.catalog.settings = settings)
    (hsurfaced : scene'.surfaced = scene.surfaced)
    (hstep : Orderly settings limit scene'.store ∧ Tended settings scene.store scene'.store) :
    Tending settings limit start scene' where
  settings_eq := hcatalog
  orderly := hstep.1
  tended := h.tended.trans hstep.2
  governs := by
    rw [hsurfaced]
    exact fun g hg => (h.governs g hg).of_frames hstep.2.frames

/-- Keeping the content keeps the invariant. -/
theorem withStore {store : Store} (hkept : Store.Kept scene.store store) :
    Tending settings limit start (scene.withStore store) :=
  h.advance h.settings_eq rfl ⟨h.orderly.of_kept hkept, .of_kept hkept⟩

/-- A cycle keeps the invariant. -/
theorem refresh : Tending settings limit start (scene.refresh clock) := by
  obtain ⟨record, htranscript, hgives⟩ :=
    transcript_run clock Store.respond scene.catalog.refresh scene.world
  have hstep := tended_of_refresh htranscript h.orderly hgives
  have hcycle := transcript_refresh htranscript
  rw [Scene.refresh]
  cases hrun : scene.catalog.refresh.run clock Store.respond scene.world with
  | mk outcome world =>
    obtain ⟨result, catalog⟩ := outcome
    rw [hrun] at hstep hcycle hgives
    obtain ⟨found, hdiscover, rfl, rfl⟩ | ⟨error, rfl, rfl⟩ := hcycle
    · -- The node groups found govern groups of the store from which they were read.
      have hfound := governs_of_discover hdiscover hgives
      rw [h.settings_eq] at hfound
      refine ⟨h.settings_eq, hstep.1, h.tended.trans hstep.2, ?_⟩
      intro g hg
      rcases List.mem_append.mp hg with hg | hg
      · exact (h.governs g hg).of_frames hstep.2.frames
      · exact (hfound g hg).of_frames hstep.2.frames
    · exact h.advance h.settings_eq rfl hstep

/-- Every move keeps the invariant. -/
theorem step (hinterval : 0 < (clock.lasting settings.convergence.interval).nanos)
    (hmove : move.Allowed scene) (hlimit : (scene.after clock move).store.created ≤ limit) :
    Tending settings limit start (scene.after clock move) := by
  cases move with
  | refresh => exact h.refresh
  | increase g delta =>
    have hg := h.governs g hmove
    obtain ⟨record, htranscript, hgives⟩ :=
      transcript_run clock Store.respond (g.increaseSize delta).run scene.world
    have hgrowth := growth_of_increaseSize (hg.pace ▸ hinterval) htranscript
    exact h.advance h.settings_eq rfl (tended_of_growth hgrowth h.orderly hg hgives hlimit)
  | decrease g delta =>
    obtain ⟨record, htranscript, hgives⟩ :=
      transcript_run clock Store.respond (g.decreaseTargetSize delta).run scene.world
    have hreads := (asksOnly_decreaseTargetSize g delta).of_mem htranscript
    exact h.advance h.settings_eq rfl (tended_of_reads h.orderly hgives hreads)
  | delete g refs =>
    have hg := h.governs g hmove
    obtain ⟨record, htranscript, hgives⟩ :=
      transcript_run clock Store.respond (g.deleteNodes refs).run scene.world
    have hbatch := batch_of_deleteNodes (hg.pace ▸ hinterval) htranscript
    exact h.advance h.settings_eq rfl (tended_of_batch hbatch h.orderly hg hgives)
  | planFailure operation nth error => exact h.withStore ⟨rfl, rfl, Nat.le_refl _⟩
  | setStalled stalled => exact h.withStore ⟨rfl, rfl, Nat.le_refl _⟩
  | setClock clock => exact h.withStore ⟨rfl, rfl, Nat.le_refl _⟩

/-- Every run keeps the invariant. -/
theorem run (hinterval : 0 < (clock.lasting settings.convergence.interval).nanos)
    (hrun : Run clock scene scene') (hlimit : scene'.store.created ≤ limit) :
    Tending settings limit start scene' := by
  -- No move takes names back, so the names up to the limit cover every earlier point too.
  induction hrun with
  | refl => exact h
  | step hrun move hmove ih =>
    exact (ih ((created_le_of_after _ move).trans hlimit)).step hinterval hmove hlimit

end Tending

/-! ### The bounds -/

/-- Take a store that can be built and is coherent, in which no live instance names two groups of
the cluster, and in which the names that it gives out up to the end of a run are not taken. At
every point of the run, the group of a node group that is surfaced by its end is no smaller than
at the start and than its least size, whichever is less, and no larger than at the start and than
its greatest size, whichever is more. -/
theorem size_within_bounds (clock : Clock) (start middle final : Scene)
    (hbuilt : start.store.Built) (hcoherent : start.store.Coherent)
    (hapart : Apart start.catalog.settings start.store)
    (hfresh : start.store.FreshUpTo final.store.created)
    (hinterval : 0 < (clock.lasting start.catalog.settings.convergence.interval).nanos)
    (hsurfaced : start.surfaced = [])
    (hfirst : Run clock start middle) (hsecond : Run clock middle final)
    (g : NodeGroup) (hg : g ∈ final.surfaced) :
    ∃ initial present : InstanceGroup,
      start.store.group? g.id = some initial ∧ middle.store.group? g.id = some present ∧
        min initial.size g.bounds.min ≤ present.size ∧
        present.size ≤ max initial.size g.bounds.max := by
  have hstart : Tending start.catalog.settings final.store.created start.store start :=
    ⟨rfl, ⟨hbuilt.distinct, hcoherent, hapart, hfresh⟩, .of_kept (.refl _), by simp [hsurfaced]⟩
  have hmiddle := hstart.run hinterval hfirst hsecond.created_le
  have hfinal := hmiddle.run hinterval hsecond (Nat.le_refl _)
  -- The node group governs a group of the last store, which was there all the time.
  have hbounded := (hfinal.governs g hg).bounded.of_frames hfinal.tended.frames.symm
  have hsizes := hmiddle.tended.sizes g.id g.bounds hbounded
  obtain ⟨initial, hinitial, hid, -⟩ := hbounded
  obtain ⟨present, hpresent, hframe⟩ := Store.exists_frame_eq hmiddle.tended.frames hinitial
  have hinitial := (Store.group?_eq_some_iff hbuilt.distinct).mpr ⟨hinitial, hid⟩
  have hpresent := (Store.group?_eq_some_iff hmiddle.orderly.distinct).mpr
    ⟨hpresent, (InstanceGroup.id_eq_of_frame_eq hframe).trans hid⟩
  rw [sizeOf_eq_size hinitial, sizeOf_eq_size hpresent] at hsizes
  exact ⟨initial, present, hinitial, hpresent, hsizes⟩

/-- A group of one with bounds of one and two grows to two, and shrinks to one again when both of
its instances are to be deleted. -/
theorem size_within_bounds_store :
    let live : Instance :=
      ⟨"a", "n", "active", "t", ⟨"i", .available⟩, "z", ["main", "w"], none⟩
    let store : Store :=
      Store.putInstance
        (Store.putGroup (Store.putGroup {} ⟨"main", "c", "", []⟩) ⟨"w", "w.c", "1:2", []⟩) live
    let join := "kubeadm join 10.0.0.1:6443 --token abcdef.0123456789abcdef " ++
      "--discovery-token-ca-cert-hash sha256:0123abcd"
    ∃ payload : Payload, payload.joinCommand = join ∧
      let start : Scene :=
        { world := ⟨store, .zero⟩, catalog := { settings := { clusterName := "c" }, payload } }
      let found := start.after .bounded .refresh
      let g := found.surfaced.getD 0 default
      let middle := found.after .bounded (.increase g 1)
      let final := middle.after .bounded (.delete g [⟨"a"⟩, ⟨"srv-00001"⟩])
      g.bounds = ⟨1, 2⟩ ∧ middle.store.sizeOf "w" = 2 ∧ final.store.sizeOf "w" = 1 ∧
        ∃ initial present : InstanceGroup,
          start.store.group? g.id = some initial ∧ final.store.group? g.id = some present ∧
            min initial.size g.bounds.min ≤ present.size ∧
            present.size ≤ max initial.size g.bounds.max := by
  intro live store join
  refine ⟨⟨"1.17.4", join, ⟨⟨1, 17, 4, [], []⟩, by decide +kernel⟩, by decide +kernel⟩, rfl, ?_⟩
  intro start found g middle final
  have hinstances : start.store.instances = OrderedMap.empty.insert "a" live := rfl
  have hgroups : start.store.groups =
      [⟨"main", "c", "", [⟨"a", "active"⟩]⟩, ⟨"w", "w.c", "1:2", [⟨"a", "active"⟩]⟩] := by
    decide +kernel
  have hcoherent : start.store.Coherent := by
    refine ⟨by decide +kernel, fun group hgroup id => ?_⟩
    rw [hgroups] at hgroup
    rw [hinstances, OrderedMap.find?_insert]
    by_cases hid : id = "a"
    · subst hid
      have hall : ∀ group ∈ start.store.groups,
          group.hasMember "a" = true ∧ live.inGroup group.id = true := by decide +kernel
      have hboth := hall group (hgroups ▸ hgroup)
      exact iff_of_true hboth.1 ⟨live, rfl, rfl, hboth.2⟩
    · rw [if_neg hid]
      refine iff_of_false (fun hlisted => hid ?_) (by simp)
      rw [InstanceGroup.hasMember_iff] at hlisted
      simp only [List.mem_cons, List.not_mem_nil, or_false] at hgroup
      rcases hgroup with rfl | rfl <;> simpa using hlisted
  have hapart : Apart start.catalog.settings start.store := by
    have hids : clusterIds start.catalog.settings start.store = ["w"] := by decide +kernel
    rw [Apart, hids]
    simp
  have hcreated : final.store.created = 1 := by decide +kernel
  have hfresh : start.store.FreshUpTo final.store.created := by
    rw [hcreated]
    intro n hn hlimit
    obtain rfl : n = 1 := Nat.le_antisymm hlimit hn
    decide +kernel
  have hfound : 0 < found.surfaced.length := by decide +kernel
  have hg : g ∈ found.surfaced := by
    have hget : found.surfaced[0] = g := List.getElem_eq_getD default
    rw [← hget]
    exact List.getElem_mem hfound
  have hg' : g ∈ middle.surfaced := by
    show g ∈ (found.attempt .bounded (g.increaseSize 1)).surfaced
    rw [Scene.surfaced_attempt]
    exact hg
  have hmiddle : Run .bounded start middle :=
    (Run.refl.step .refresh trivial).step (.increase g 1) hg
  have hfinal : Run .bounded start final := hmiddle.step (.delete g _) hg'
  have hg'' : g ∈ final.surfaced := by
    show g ∈ (middle.attempt .bounded (g.deleteNodes [⟨"a"⟩, ⟨"srv-00001"⟩])).surfaced
    rw [Scene.surfaced_attempt]
    exact hg'
  exact ⟨by decide +kernel, by decide +kernel, by decide +kernel,
    size_within_bounds .bounded start final final
      (.putInstance (.putGroup (.putGroup .empty _) _) _) hcoherent hapart hfresh (by decide)
      rfl hfinal .refl g hg''⟩

end ElasticGroups.Fleet
