import Mathlib.Logic.Relation
import MarkupSpec.Proofs.Build.Intact
import MarkupSpec.Proofs.Session.WellNamed

/-!
# Well-linked forests

Whatever documents are made, and whatever specs and pages are built, at any place
and however that ends, the nodes that there are form trees: children and parents
agree, no node is above itself, and all children are linked to their neighbours
(`Forest.WellLinked`, `reached_wellLinked`).

All that is asked of a request is that the node it goes by exists.
-/

namespace MarkupSpec

open Forest Edit Build

/-- The links of the nodes are those of trees. -/
structure Forest.WellLinked (forest : Forest) : Prop where
  /-- A node is in a list of children exactly when it has that parent. -/
  child_iff : ∀ home child, child ∈ forest.children home ↔ forest.parent? child = some home
  /-- No list of children has a node twice. -/
  nodup : ∀ home, (forest.children home).Nodup
  /-- No node is above itself. -/
  acyclic : ∀ id, ¬ Relation.TransGen (fun child home => forest.parent? child = some home) id id
  /-- The siblings that a child is linked to are its neighbours, where it has any. -/
  linked : ∀ home front id back, forest.children home = front ++ id :: back →
    forest.next? id = back.head? ∧ forest.previous? id = front.getLast?
  /-- A node without a parent is linked to nothing. -/
  loose : ∀ id, forest.parent? id = none → forest.next? id = none ∧ forest.previous? id = none

/-- A forest that is woven throughout is well linked. -/
theorem Forest.Intact.wellLinked {forest : Forest} (intact : Intact {} forest) :
    forest.WellLinked where
  child_iff home child := ⟨intact.agrees.parent home child, intact.agrees.child child home⟩
  nodup := intact.agrees.nodup
  acyclic id cycle := by
    -- On the way up the numbers fall.
    have falls {child home : NodeId}
        (above : Relation.TransGen (fun child home => forest.parent? child = some home) child home) :
        home < child := by
      induction above with
      | single there => exact (intact.under _ _ (Nat.zero_le _) there).2
      | tail _ there lower => exact Nat.lt_trans (intact.under _ _ (Nat.zero_le _) there).2 lower
    exact Nat.lt_irrefl id (falls cycle)
  linked home := intact.linked home (Nat.zero_le home)
  loose id := intact.loose id (Nat.zero_le id)

/-! ## What is asked for -/

/-- The world that a step leaves behind, whether it ends well or fails. -/
def World.after {α : Type} (world : World) (step : Build α) : World :=
  match step world with
  | .ok _ left => left
  | .error _ left => left

theorem Request.leaves_eq (request : Request) (world : World) :
    request.leaves world = world.after request.run := by
  unfold Request.leaves World.after
  cases request.run world <;> rfl

theorem Stays.after {α : Type} {I : Forest → Prop} {step : Build α} {world : World}
    (stays : Stays I step world) : I (world.after step).forest := by
  unfold World.after
  split
  · rename_i run
    exact stays.of_ok run
  · rename_i run
    exact stays.of_error run

/-- The nodes that a request goes by exist. -/
def Request.Known (world : World) : Request → Prop
  | .markup _ _ _ keywords _ =>
      ∀ entry ∈ keywords.given, ∀ id ∈ entry.2.node?, id < world.forest.size
  | .document _ | .page .. => True

instance (world : World) : (request : Request) → Decidable (request.Known world)
  | .markup _ _ _ keywords _ =>
      inferInstanceAs (Decidable
        (∀ entry ∈ keywords.given, ∀ id ∈ entry.2.node?, id < world.forest.size))
  | .document _ | .page .. => inferInstanceAs (Decidable True)

/-- The worlds that requests and builds lead to, from one without nodes.  Between them
anything may change but the forest. -/
inductive Reached : World → Prop where
  | start {world : World} (empty : world.forest = {}) : Reached world
  | meanwhile {before after : World} (reached : Reached before)
      (same : after.forest = before.forest) : Reached after
  | request {world : World} (reached : Reached world) (request : Request)
      (known : request.Known world) : Reached (request.leaves world)
  | compile {world : World} (reached : Reached world) (settings : Settings) (spec : Value)
      (where? : Option (Mode × Value)) (document arguments : Value)
      (known : ∀ choice ∈ where?, ∀ id ∈ choice.2.node?, id < world.forest.size) :
      Reached (world.after (compile settings spec where? document arguments))

section Keeps

variable {world : World}

theorem intact_compile {settings : Settings} {spec : Value} {where? : Option (Mode × Value)}
    {document arguments : Value} (intact : Intact {} world.forest)
    (known : ∀ choice ∈ where?, ∀ id ∈ choice.2.node?, id < world.forest.size) :
    Stays (Intact {}) (compile settings spec where? document arguments) world :=
  stays_compile (fun _ _ intact => intact.add _ _) intact known
    fun task start _ intact inside _ _ =>
      Intact.stays_buildWithin
        { value := spec, place := { target := task.target }, world := start } intact
        ⟨Nat.zero_le _, inside⟩ fun _ _ _ _ _ _ => Nat.zero_le _

theorem intact_markup {settings : Settings} {spec document : Value} {keywords : Keywords}
    {arguments : Value} (intact : Intact {} world.forest)
    (known : ∀ entry ∈ keywords.given, ∀ id ∈ entry.2.node?, id < world.forest.size) :
    Stays (Intact {}) (markup settings spec document keywords arguments) world := by
  show Ensures (markup settings spec document keywords arguments) world _ _
  rw [markup]
  cases chosen : Mode.choose keywords with
  | error cause => exact intact
  | ok where? =>
      exact intact_compile intact fun choice isChoice =>
        known choice (mem_given_of_choose chosen choice isChoice)

theorem Request.intact_run {request : Request} (intact : Intact {} world.forest)
    (known : request.Known world) : Stays (Intact {}) request.run world := by
  cases request with
  | document version => exact stays_newDocument (fun _ _ intact => intact.add _ _) intact version
  | markup settings spec document keywords arguments => exact intact_markup intact known
  | page page settings =>
      exact (Page.readsOnly_spec page settings.marker).stays_bind intact fun _ _ _ intact =>
        intact_markup intact nofun

/-- Whatever was asked for before, the forest is woven. -/
theorem Reached.intact (reached : Reached world) : Intact {} world.forest := by
  induction reached with
  | start empty =>
      rw [empty]
      exact Intact.refl wellNamed_empty.agrees
  | meanwhile _ same ih => exact same ▸ ih
  | request _ request known ih => exact request.leaves_eq _ ▸ (request.intact_run ih known).after
  | compile _ settings spec where? document arguments known ih => exact (intact_compile ih known).after

end Keeps

/-- Whatever was asked for before, and however it ended, the forest is well linked. -/
theorem reached_wellLinked {world : World} (reached : Reached world) : world.forest.WellLinked :=
  reached.intact.wellLinked

/-- Every request goes by nodes that exist in the world that it finds. -/
def KnownRequests : World → List Request → Prop
  | _, [] => True
  | world, request :: rest => request.Known world ∧ KnownRequests (request.leaves world) rest
termination_by structural _ requests => requests

instance decidableKnownRequests :
    (world : World) → (requests : List Request) → Decidable (KnownRequests world requests)
  | _, [] => inferInstanceAs (Decidable True)
  | world, request :: rest =>
      have := decidableKnownRequests (request.leaves world) rest
      inferInstanceAs (Decidable (request.Known world ∧ KnownRequests (request.leaves world) rest))
termination_by structural _ requests => requests

theorem Reached.requests : ∀ {requests : List Request} {world : World}, Reached world →
    KnownRequests world requests → Reached (worldAfter world requests)
  | [], _, reached, _ => reached
  | first :: _, _, reached, known => (reached.request first known.1).requests known.2

/-- An element around a text that is replaced by an element and another text, in front
of which a build of two elements fails at the second one. -/
def linkedRequests : List Request :=
  [.document .null,
    .markup {} (.map [(.null, .list [.text "r", .text "t"])]) (.node 0) {} (.list []),
    .markup {} (.list [.map [(.null, .text "a")], .text "u"]) .null { replacing := .node 2 }
      (.list []),
    .markup {} (.list [.map [(.null, .text "b")], .map [(.null, .text "x:y")]]) .null
      { before := .node 5 } (.list [])]

/-- The requests leave the element with two children, linked to each other. -/
theorem reached_wellLinked_linkedRequests :
    (worldAfter {} linkedRequests).forest.children 1 = [4, 5] ∧
      (worldAfter {} linkedRequests).forest.parent? 2 = none ∧
      (worldAfter {} linkedRequests).forest.size = 8 ∧
      (worldAfter {} linkedRequests).forest.WellLinked :=
  ⟨by decide +kernel, by decide +kernel, by decide +kernel,
    reached_wellLinked ((Reached.start rfl).requests (by decide +kernel))⟩

end MarkupSpec
