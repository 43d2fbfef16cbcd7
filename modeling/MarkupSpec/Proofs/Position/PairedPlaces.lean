import MarkupSpec.Proofs.Namespace.Lexical
import MarkupSpec.Proofs.Position.BlindReading
import MarkupSpec.Proofs.Position.TwinCreation

/-!
# Steps of two builds

Two builds of the same spec go on abreast (`Pairing.Abreast`): their forests are twins, and
their values are the same and do not look at the tree.  A qualifier means the same at the
places where they are (`Place.Like`), and nodes get their places there in such a way that the
forests stay twins (`Pairing.Admits`).

For the meanings the homes of the two places need not be alike.  What counts is the scope of
the node that the namespaces come from with the scope of the anchor behind it, and inside of
an element also the scope of the node that the element is under.
-/

namespace MarkupSpec

open Forest Edit Build

/-! ## Scopes -/

namespace Forest

variable {before after : Forest} {target : Target} {home : NodeId}

theorem Agrees.onTop (agrees : before.Agrees) : before.DocumentsOnTop := by
  intro id isDocument
  cases there : before.parent? id with
  | none => rfl
  | some home =>
      have noDocument := (agrees.fits id home there).isDocument
      rw [isDocument] at noDocument
      cases noDocument

theorem Intact.settled (intact : Intact {} before) : ∀ id < before.size, before.Settled id :=
  settled_of_descending fun id parent there => (intact.under id parent (Nat.zero_le _) there).2

/-- What is in scope stays so while the forest grows. -/
theorem Intact.scope_of_grows (intact : Intact {} before) (grows : Grows Nobody before after)
    {id : NodeId} (inside : id < before.size) : after.scope id = before.scope id := by
  obtain ⟨path, chain⟩ := intact.settled id inside
  exact (grows.scope intact.agrees.onTop chain fun _ _ => False.elim).2

theorem Intact.scopes_of_grows (intact : Intact {} before) (grows : Grows Nobody before after)
    {nodes : List NodeId} (inside : ∀ id ∈ nodes, id < before.size) :
    after.scopes nodes = before.scopes nodes := by
  unfold scopes
  rw [List.flatMap_def, List.flatMap_def,
    List.map_congr_left fun id among => intact.scope_of_grows grows (inside id among)]

/-- Above a node there are only smaller numbers. -/
theorem Intact.le_of_mem_chain (intact : Intact {} before) {id : NodeId} {path : List NodeId}
    (chain : before.Chain id path) : ∀ member ∈ path, member ≤ id := by
  induction chain with
  | top => simp
  | up there chain ih =>
      intro member among
      rcases List.mem_cons.mp among with rfl | above
      · exact Nat.le_refl _
      · have lower := (intact.under _ _ (Nat.zero_le _) there).2
        exact Nat.le_trans (ih member above) (Nat.le_of_lt lower)

/-- What is in scope at a host that a target leads to stays so. -/
theorem Intact.scope_home (intact : Intact {} before) (isHome : target.home? before = some home)
    (isHost : before.IsHost home) (grows : Grows (target.Spares before) before after) :
    after.scope home = before.scope home := by
  obtain ⟨path, chain⟩ := intact.settled home isHost.lt_size
  refine (grows.scope intact.agrees.onTop chain fun member among spares => ?_).2
  rcases spares with ⟨isReplacing, rfl⟩ | ⟨isUnder, isDocument⟩
  · have there : before.parent? target.reference = some home := by
      simpa [Target.home?, Target.isUnder, isReplacing] using isHome
    have lower := (intact.under _ _ (Nat.zero_le _) there).2
    exact absurd (intact.le_of_mem_chain chain _ among) (Nat.not_le.mpr lower)
  · obtain rfl : target.reference = home := by simpa [Target.home?, isUnder] using isHome
    rw [isHost.isDocument] at isDocument
    cases isDocument

/-- A build under a host takes nothing away. -/
theorem Grows.nobody (grows : Grows (target.Spares before) before after)
    (isUnder : target.isUnder) (isHost : before.IsHost target.reference) :
    Grows Nobody before after := by
  rw [Target.eq_under isUnder] at grows
  exact grows.mono fun id spared => Target.not_spares_under isHost.isDocument id spared

end Forest

/-- Two scopes give every qualifier the same meaning. -/
def SameMeanings (scope scope' : List (String × String)) : Prop :=
  ∀ key, scope'.lookup key = scope.lookup key

theorem lookup_append_congr {front front' back back' : List (String × String)}
    (same : SameMeanings front front') (same' : SameMeanings back back') :
    SameMeanings (front ++ back) (front' ++ back') := by
  intro key
  rw [List.lookup_append, List.lookup_append, same key, same' key]

/-- A resolution depends on the meanings of qualifiers only. -/
theorem resolveIn_congr {scope scope' : List (String × String)} (same : SameMeanings scope scope')
    (name : String) (sorted : SortedAttributes) :
    resolveIn scope' name sorted = resolveIn scope name sorted := by
  simp only [resolveIn, unboundQualifiers, bindingsFrom, same _]

/-- Qualifiers mean the same inside of two elements that say the same if they do where the
elements are. -/
theorem sameMeanings_inside {before after : Forest} {element element' bearer bearer' : NodeId}
    {behind behind' : NodeId} {tag : Tag} (intact : Intact {} before) (intact' : Intact {} after)
    (isElement : before.content? element = some (.element tag))
    (isElement' : after.content? element' = some (.element tag))
    (there : before.parent? element = some bearer) (there' : after.parent? element' = some bearer')
    (reaches : SameMeanings (before.scopes [bearer, behind]) (after.scopes [bearer', behind'])) :
    SameMeanings (before.scopes [element, behind]) (after.scopes [element', behind']) := by
  have settled := intact.settled bearer (intact.agrees.fits element bearer there).homeInside
  have settled' := intact'.settled bearer' (intact'.agrees.fits element' bearer' there').homeInside
  have stated : SameMeanings (before.statedAt element) (after.statedAt element') := fun key => by
    rw [statedAt, statedAt, isElement, isElement']
  simp only [scopes, List.flatMap_cons, List.flatMap_nil, scope_of_parent there settled,
    scope_of_parent there' settled', List.append_assoc] at reaches ⊢
  exact lookup_append_congr stated reaches

namespace Build

/-- The scopes of nodes that are there are found. -/
theorem finds_scopeAt {nodes : List NodeId} {world : World}
    (inside : ∀ id ∈ nodes, id < world.forest.size) :
    Ensures (scopeAt nodes) world
      (fun scope after => scope = world.forest.scopes nodes ∧ after = world)
      fun _ _ => False := by
  induction nodes with
  | nil => exact ⟨rfl, rfl⟩
  | cons id rest ih =>
      rw [List.forall_mem_cons] at inside
      obtain ⟨node, there⟩ := node?_of_lt inside.1
      rw [scopeAt, MarkupSpec.ensures_bind, ensures_edit, ensures_discard, ensures_look]
      refine ⟨fun _ _ => ?_, fun missing => by simp [there] at missing⟩
      show Ensures (scopeAt rest >>= fun behind => pure (world.forest.scope id ++ behind)) world _ _
      rw [MarkupSpec.ensures_bind]
      refine (ih inside.2).mono (fun scope after ends => ?_) fun _ _ failed => failed
      obtain ⟨rfl, rfl⟩ := ends
      exact ⟨rfl, rfl⟩

theorem concurs_resolutionOr {scope scope' : List (String × String)} {world world' : World}
    (same : SameMeanings scope scope') (name : String) (sorted : SortedAttributes)
    (context context' : Option ErrorContext) (level : ErrorLevel) :
    Concurs (resolutionOr name context level (resolveIn scope name sorted))
      (resolutionOr name context' level (resolveIn scope' name sorted)) world world'
      fun resolution after resolution' after' =>
        resolution' = resolution ∧ after = world ∧ after' = world' := by
  rw [resolveIn_congr same]
  unfold resolutionOr
  cases resolveIn scope name sorted with
  | ok resolution => exact concurs_pure ⟨rfl, rfl, rfl⟩
  | error missing => exact concurs_throw rfl

/-- Namespaces are resolved in the same way by nodes at which qualifiers mean the same. -/
theorem concurs_resolveFlat {world world' : World} {nodes nodes' : List NodeId}
    (inside : ∀ id ∈ nodes, id < world.forest.size)
    (inside' : ∀ id ∈ nodes', id < world'.forest.size)
    (same : SameMeanings (world.forest.scopes nodes) (world'.forest.scopes nodes'))
    (name : String) (flat : List (String × String)) (context context' : Option ErrorContext)
    (level : ErrorLevel) :
    Concurs (resolveFlat name flat nodes context level) (resolveFlat name flat nodes' context' level)
      world world' fun resolution after resolution' after' =>
        resolution' = resolution ∧ after = world ∧ after' = world' := by
  unfold resolveFlat
  dsimp only
  split
  · exact concurs_resolutionOr (fun _ => rfl) _ _ _ _ _
  · refine (Concurs.of_ensures (finds_scopeAt inside) (finds_scopeAt inside')).bind
      fun _ _ _ _ _ _ ends => ?_
    obtain ⟨⟨rfl, rfl⟩, rfl, rfl⟩ := ends
    exact concurs_resolutionOr same _ _ _ _ _

end Build

/-! ## Places -/

theorem Place.far_mem_sources (place : Place) (home : NodeId) :
    place.far home ∈ place.sources home := by
  unfold Place.far Place.sources
  cases place.anchor <;> simp

theorem Place.nearest_eq {place : Place} {home : NodeId} {world : World}
    (isHome : place.target.home? world.forest = some home) :
    place.nearest world = .ok (place.near home) world := by
  unfold Place.nearest Place.near
  cases place.pseudo with
  | none => exact implicitParent_eq isHome
  | some pseudo => rfl

/-- Two places in two forests, each with its home, that are equally deep in a spec, and at
which qualifiers mean the same. -/
structure Place.Like (place place' : Place) (home home' : NodeId) (before after : Forest) :
    Prop where
  path : place'.path = place.path
  depth : place'.depth = place.depth
  isHome : place.target.home? before = some home
  isHome' : place'.target.home? after = some home'
  isHost : before.IsHost home
  isHost' : after.IsHost home'
  inside : ∀ id ∈ place.sources home, id < before.size
  inside' : ∀ id ∈ place'.sources home', id < after.size
  outermost : place.target.isUnder = false → place.far home = home
  outermost' : place'.target.isUnder = false → place'.far home' = home'
  sees : SameMeanings (before.scopes (place.sources home)) (after.scopes (place'.sources home'))
  reaches : SameMeanings (before.scopes [home, place.far home])
    (after.scopes [home', place'.far home'])

namespace Place.Like

variable {place place' : Place} {home home' : NodeId} {before after before' after' : Forest}

theorem deeper (like : place.Like place' home home' before after) (segment : String) :
    (place.deeper segment).Like (place'.deeper segment) home home' before after :=
  { like with
    path := congrArg (· ++ [segment]) like.path
    depth := congrArg (· + 1) like.depth }

/-- What is in scope at the home and behind it stays so while something is built there. -/
theorem scopes_lasting (like : place.Like place' home home' before after)
    (intact : Intact {} before) (grows : Grows (place.target.Spares before) before before') :
    before'.scopes [home, place.far home] = before.scopes [home, place.far home] := by
  have near := intact.scope_home like.isHome like.isHost grows
  have far : before'.scope (place.far home) = before.scope (place.far home) := by
    cases isUnder : place.target.isUnder with
    | false => rw [like.outermost isUnder, near]
    | true =>
        obtain rfl : place.target.reference = home := by
          simpa [Target.home?, isUnder] using like.isHome
        exact intact.scope_of_grows (grows.nobody isUnder like.isHost)
          (like.inside _ (place.far_mem_sources _))
  simp [scopes, near, far]

theorem symm (like : place.Like place' home home' before after) :
    place'.Like place home' home after before where
  path := like.path.symm
  depth := like.depth.symm
  isHome := like.isHome'
  isHome' := like.isHome
  isHost := like.isHost'
  isHost' := like.isHost
  inside := like.inside'
  inside' := like.inside
  outermost := like.outermost'
  outermost' := like.outermost
  sees key := (like.sees key).symm
  reaches key := (like.reaches key).symm

/-- Places under hosts stay alike as long as the forests only grow. -/
theorem later (like : place.Like place' home home' before after) (isUnder : place.target.isUnder)
    (isUnder' : place'.target.isUnder) (intact : Intact {} before) (intact' : Intact {} after)
    (grows : Grows Nobody before before') (grows' : Grows Nobody after after') :
    place.Like place' home home' before' after' where
  path := like.path
  depth := like.depth
  isHome := by
    rw [← like.isHome]
    simp [Target.home?, isUnder]
  isHome' := by
    rw [← like.isHome']
    simp [Target.home?, isUnder']
  isHost := like.isHost.later (grows.content _ like.isHost.lt_size)
  isHost' := like.isHost'.later (grows'.content _ like.isHost'.lt_size)
  inside id among := Nat.lt_of_lt_of_le (like.inside id among) grows.size
  inside' id among := Nat.lt_of_lt_of_le (like.inside' id among) grows'.size
  outermost := like.outermost
  outermost' := like.outermost'
  sees := by
    rw [intact.scopes_of_grows grows like.inside, intact'.scopes_of_grows grows' like.inside']
    exact like.sees
  reaches := by
    have behind := like.inside _ (place.far_mem_sources _)
    have behind' := like.inside' _ (place'.far_mem_sources _)
    rw [intact.scopes_of_grows grows (by simp [like.isHost.lt_size, behind]),
      intact'.scopes_of_grows grows' (by simp [like.isHost'.lt_size, behind'])]
    exact like.reaches

end Place.Like

namespace Pairing

variable {pairing : Pairing} {place place' : Place} {before before' after after' : Forest}

/-! ## Worlds -/

/-- Two builds that go on with the same values in twins. -/
structure Abreast (pairing : Pairing) (world world' : World) : Prop where
  values : world.Abreast pairing.known world'
  twins : pairing.Twins world.forest world'.forest

variable {world world' later later' : World}

/-- The builds stay abreast if only their forests change, to twins. -/
theorem Abreast.same (abreast : pairing.Abreast world world') (values : world.SameValues later)
    (values' : world'.SameValues later') (twins : pairing.Twins later.forest later'.forest) :
    pairing.Abreast later later' where
  values :=
    { streams := by rw [values.streams, values'.streams, abreast.values.streams]
      nextId := by rw [values.nextId, values'.nextId, abreast.values.nextId]
      names := by rw [values.names, values'.names, abreast.values.names]
      blind := ⟨values.streams ▸ abreast.values.blind.streams,
        values.streams ▸ abreast.values.blind.later, values.names ▸ abreast.values.blind.names⟩
      describe := twins.describe }
  twins := twins

/-- Steps that come to the same in worlds that are abreast, and what goes on from there. -/
theorem Abreast.bind {α β γ : Type} {R : α → Prop} {step step' : Build α} {next : α → Build β}
    {next' : α → Build γ} {done : β → World → γ → World → Prop}
    (abreast : pairing.Abreast world world') (blind : BlindTo pairing.known R step step')
    (onNext : ∀ result later later', R result → pairing.Abreast later later' →
      later.forest = world.forest → later'.forest = world'.forest →
      Concurs (next result) (next' result) later later' done) :
    Concurs (step >>= next) (step' >>= next') world world' done := by
  refine (blind world world' abreast.values).bind fun result later result' later' _ _ ends => ?_
  obtain ⟨rfl, holds, values, same, same'⟩ := ends
  exact onNext _ later later' holds ⟨values, same ▸ same' ▸ abreast.twins⟩ same same'

/-- Edits that make twins of twins. -/
theorem Abreast.edit {α β : Type} {step : Edit α} {step' : Edit β}
    {done : α → Forest → β → Forest → Prop} (abreast : pairing.Abreast world world')
    (concurs : Concurs step step' world.forest world'.forest done)
    (twins : ∀ result forest result' forest', done result forest result' forest' →
      pairing.Twins forest forest') :
    Concurs (Build.edit step) (Build.edit step') world world' fun result later result' later' =>
      pairing.Abreast later later' ∧ done result later.forest result' later'.forest :=
  (concurs.mono fun _ _ _ _ _ _ ends => ⟨abreast.same ⟨rfl, rfl, rfl⟩ ⟨rfl, rfl, rfl⟩
    (twins _ _ _ _ ends), ends⟩).edit

/-! ## Attaching -/

/-- A node that was made in both builds gets its place in both, and the forests stay
twins. -/
def Admits (pairing : Pairing) (target target' : Target) (before after : Forest) : Prop :=
  ∀ (node node' : NodeId) (grown grown' : World), pairing.Abreast grown grown' →
    pairing.Doubles before after node grown.forest node' grown'.forest →
    Concurs (attach target node) (attach target' node') grown grown'
      fun _ later _ later' => pairing.Abreast later later'

/-- Nodes get their places under nodes that go together. -/
theorem Bears.admits {bearer bearer' : NodeId} (bears : pairing.Bears before bearer bearer')
    (twins : pairing.Twins before after) :
    pairing.Admits (.under bearer) (.under bearer') before after := by
  intro node node' grown grown' abreast doubles
  have isNew := doubles.new twins
  obtain rfl := doubles.goes twins
  have bears' : pairing.Bears grown.forest bearer bearer' :=
    bears.later (by rw [doubles.fresh.intact.content _ bears.isHost.lt_size])
  have lower : bearer < node := doubles.fresh.number ▸ bears.isHost.lt_size
  have lower' : bearer' < node + pairing.shift :=
    doubles.fresh'.number ▸ (bears.isHost' twins).lt_size
  have houses := houses_attach_under doubles.twins.frames.intact bears'.isHost doubles.loose lower
  have houses' := houses_attach_under doubles.twins.frames'.intact (bears'.isHost' doubles.twins)
    doubles.loose' lower'
  refine (Concurs.of_ensures houses houses').mono fun _ later _ later' _ _ ends => ?_
  obtain ⟨⟨values, gone, houses⟩, values', gone', houses'⟩ := ends
  exact abreast.same values values' (doubles.twins.houses bears' isNew houses houses')

/-- The first node gets its place under the home, and at the target of the second build. -/
theorem admits_home (pairing : Pairing)
    (isHome : pairing.target.home? pairing.second = some pairing.hold) :
    pairing.Admits (.under pairing.home) pairing.target pairing.forest pairing.second := by
  intro node node' grown grown' abreast doubles
  have start := pairing.twins_start
  have isNew := doubles.new start
  obtain rfl := doubles.goes start
  have fresh := doubles.fresh.intact
  have fresh' := doubles.fresh'.intact
  have early := pairing.isHost.lt_size
  have early' := pairing.isHost'.lt_size
  have inside : pairing.target.reference < pairing.second.size := by
    unfold Target.home? at isHome
    split at isHome
    · rw [Option.some.inj isHome]
      exact early'
    · exact lt_size_of_parent? isHome
  have isHome' : pairing.target.home? grown'.forest = some pairing.hold := by
    rw [← isHome]
    unfold Target.home?
    rw [fresh'.parent _ inside]
  have isHost : grown.forest.IsHost pairing.home :=
    pairing.isHost.later (by rw [fresh.content _ early])
  have isHost' : grown'.forest.IsHost pairing.hold :=
    pairing.isHost'.later (by rw [fresh'.content _ early'])
  have lower : pairing.home < node := doubles.fresh.number ▸ early
  have houses := houses_attach_under doubles.twins.frames.intact isHost doubles.loose lower
  have houses' := houses_attach doubles.twins.frames'.intact isHome' isHost' doubles.loose'
    (doubles.fresh'.number ▸ inside) (doubles.fresh'.number ▸ early')
  refine (Concurs.of_ensures houses houses').mono fun _ later _ later' _ _ ends => ?_
  obtain ⟨⟨values, gone, houses⟩, values', list', gone', inserts', houses'⟩ := ends
  refine abreast.same values values' (doubles.twins.houses_home isNew houses houses'
    fun tops row _ => ?_)
  obtain rfl : tops = [] := by
    rw [fresh.children _ early] at row
    exact List.self_eq_append_right.mp row
  rw [doubles.twins.bundle isNew, fresh'.children _ early'] at inserts'
  exact inserts'

end Pairing

end MarkupSpec
