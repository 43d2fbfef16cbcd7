import MarkupSpec.Proofs.Namespace.WellNamed
import MarkupSpec.Proofs.Session.Requests

/-!
# Sessions

A session makes documents, builds specs and builds pages, one after the other, in
the forest that the ones before left, whether they ended well or failed
(`Session`).  If no spec holds an existing node and all that is resolved is plain,
then at every point between two requests the documents are namespace-well-formed by
their attributes alone (`session_obeys`).
-/

namespace MarkupSpec

open Forest Edit Build

/-! ## Tame requests -/

/-- The nodes that are given exist, and all visits of the build are tame. -/
structure TameMarkup (settings : Settings) (spec document : Value) (keywords : Keywords)
    (arguments : Value) (world : World) : Prop where
  there : ∀ entry ∈ keywords.given, ∀ id ∈ entry.2.node?, id < world.forest.size
  visits : ∀ ready ∈ ready? settings document keywords arguments world,
    ∀ visit ∈ ready.1.visits spec ready.2, visit.Tame ready.1.scene

instance (settings : Settings) (spec document : Value) (keywords : Keywords) (arguments : Value)
    (world : World) : Decidable (TameMarkup settings spec document keywords arguments world) :=
  decidable_of_iff
    ((∀ entry ∈ keywords.given, ∀ id ∈ entry.2.node?, id < world.forest.size) ∧
      ∀ ready ∈ ready? settings document keywords arguments world,
        ∀ visit ∈ ready.1.visits spec ready.2, visit.Tame ready.1.scene)
    ⟨fun ⟨there, visits⟩ => ⟨there, visits⟩, fun tame => ⟨tame.there, tame.visits⟩⟩

/-- A page that was put together as a spec is built of tame visits. -/
def TamePage (page : Page) (settings : Settings) : EStateM.Result Failure World Value → Prop
  | .ok spec after => TameMarkup settings spec page.document {} page.arguments after
  | .error _ _ => True

instance (page : Page) (settings : Settings) :
    (result : EStateM.Result Failure World Value) → Decidable (TamePage page settings result)
  | .ok spec after =>
      inferInstanceAs (Decidable (TameMarkup settings spec page.document {} page.arguments after))
  | .error _ _ => inferInstanceAs (Decidable True)

/-- The spec that is asked for holds no node and is plain. -/
def Request.Tame (world : World) : Request → Prop
  | .document _ => True
  | .markup settings spec root keywords arguments =>
      TameMarkup settings spec root keywords arguments world
  | .page sheet settings => TamePage sheet settings (sheet.spec settings.marker world)

instance (world : World) : (request : Request) → Decidable (request.Tame world)
  | .document _ => inferInstanceAs (Decidable True)
  | .markup settings spec root keywords arguments =>
      inferInstanceAs (Decidable (TameMarkup settings spec root keywords arguments world))
  | .page sheet settings =>
      inferInstanceAs (Decidable (TamePage sheet settings (sheet.spec settings.marker world)))

/-- The worlds that there are in a session.  It begins without nodes.  Between the
requests anything may change but the forest. -/
inductive Session : World → Prop where
  | start {world : World} (empty : world.forest = {}) : Session world
  | meanwhile {before after : World} (session : Session before)
      (same : after.forest = before.forest) : Session after
  | request {world : World} (session : Session world) (request : Request)
      (tame : request.Tame world) : Session (request.leaves world)

/-- The world that requests leave behind, one after the other. -/
def worldAfter : World → List Request → World
  | world, [] => world
  | world, request :: rest => worldAfter (request.leaves world) rest
termination_by structural _ requests => requests

/-- Every request is tame in the world that it finds. -/
def TameRequests : World → List Request → Prop
  | _, [] => True
  | world, request :: rest => request.Tame world ∧ TameRequests (request.leaves world) rest
termination_by structural _ requests => requests

instance decidableTameRequests :
    (world : World) → (requests : List Request) → Decidable (TameRequests world requests)
  | _, [] => inferInstanceAs (Decidable True)
  | world, request :: rest =>
      have := decidableTameRequests (request.leaves world) rest
      inferInstanceAs (Decidable (request.Tame world ∧ TameRequests (request.leaves world) rest))
termination_by structural _ requests => requests

/-- Tame requests go on with a session. -/
theorem Session.requests : ∀ {requests : List Request} {world : World}, Session world →
    TameRequests world requests → Session (worldAfter world requests)
  | [], _, session, _ => session
  | first :: _, _, session, tame => (session.request first tame.1).requests tame.2

/-! ## What a request keeps -/

section Keeps

variable {world : World}

theorem wellNamed_markup {settings : Settings} {spec document : Value} {keywords : Keywords}
    {arguments : Value} (wellNamed : world.forest.WellNamed)
    (tame : TameMarkup settings spec document keywords arguments world) :
    Stays WellNamed (markup settings spec document keywords arguments) world :=
  stays_markup (fun _ version wellNamed => wellNamed.add_document version) wellNamed tame.there
    fun task start isReady wellNamed inside _ isHome =>
      wellNamed.stays_buildWithin inside isHome (tame.visits (task, start) isReady)

/-- A request that is tame keeps the forest well-named. -/
theorem Request.wellNamed_run {request : Request} (wellNamed : world.forest.WellNamed)
    (tame : request.Tame world) : Stays WellNamed request.run world := by
  cases request with
  | document version =>
      exact stays_newDocument (fun _ version wellNamed => wellNamed.add_document version) wellNamed
        version
  | markup settings spec document keywords arguments => exact wellNamed_markup wellNamed tame
  | page page settings =>
      refine (Page.readsOnly_spec page settings.marker).stays_bind wellNamed
        fun spec after run wellNamed => ?_
      have tame : TamePage page settings (page.spec settings.marker world) := tame
      rw [run] at tame
      exact wellNamed_markup wellNamed tame

/-- In a session the forest is always well-named. -/
theorem Session.wellNamed (session : Session world) : world.forest.WellNamed := by
  induction session with
  | start empty => exact empty ▸ wellNamed_empty
  | meanwhile session same ih => exact same ▸ ih
  | request session request tame ih =>
      have runs := request.wellNamed_run ih tame
      unfold Request.leaves
      split
      · rename_i run
        exact runs.of_ok run
      · rename_i run
        exact runs.of_error run

end Keeps

/-! ## Documents -/

namespace Forest

/-- What is in the lists of children of a node and of those below it, and the node
itself. -/
inductive Reaches (forest : Forest) (top : NodeId) : NodeId → Prop where
  | here : Reaches forest top top
  | child {parent id : NodeId} (reaches : Reaches forest top parent)
      (among : id ∈ forest.children parent) : Reaches forest top id

/-- What qualifiers mean at a node by the attributes of it and of the nodes above it,
the nearest first. -/
def meaningAt (forest : Forest) (id : NodeId) : Meaning := fun qualifier =>
  (forest.written (forest.lineage id)).lookup (declarationKey qualifier)

variable {forest : Forest} {document id : NodeId} {path : List NodeId}

theorem hung_of_reaches (agrees : forest.Agrees)
    (isDocument : forest.isA Content.isDocument document) (reaches : forest.Reaches document id) :
    ∃ path, forest.Hung id path := by
  induction reaches with
  | here => exact ⟨[], .here isDocument⟩
  | @child parent id reaches among ih =>
      obtain ⟨path, hung⟩ := ih
      exact ⟨id :: path, .up trivial (agrees.parent parent id among) hung⟩

/-- The lineage of a node below a document is its way up, and the document. -/
theorem chain_of_hung (onTop : forest.DocumentsOnTop) (hung : forest.Hung id path) :
    ∃ document, forest.isA Content.isDocument document ∧ forest.Chain id (path ++ [document]) := by
  induction hung with
  | here isDocument =>
      exact ⟨_, isDocument, .top (lt_size_of_isA isDocument) (onTop _ isDocument)⟩
  | up _ there climb ih =>
      obtain ⟨document, isDocument, chain⟩ := ih
      exact ⟨document, isDocument, .up there chain⟩

theorem meaningAt_of_hung (onTop : forest.DocumentsOnTop) (hung : forest.Hung id path) :
    forest.meaningAt id = forest.writtenOver path Unmeant := by
  obtain ⟨document, isDocument, chain⟩ := chain_of_hung onTop hung
  have nothing : forest.writtenAt document = [] := by
    unfold writtenAt
    split
    · rename_i there
      rw [isA, there] at isDocument
      cases isDocument
    · rfl
  funext qualifier
  unfold meaningAt writtenOver
  rw [chain.lineage_eq]
  simp [written, nothing]

end Forest

/-- At every point of a session each element that a document reaches, and each of its
attributes, is in the namespace that the nearest attribute declares for its qualifier,
and all its qualifiers are declared. -/
theorem session_obeys {world : World} (session : Session world) {document id : NodeId} {tag : Tag}
    (isDocument : world.forest.isA Content.isDocument document)
    (reaches : world.forest.Reaches document id)
    (there : world.forest.content? id = some (.element tag)) :
    tag.Obeys (world.forest.meaningAt id) := by
  have wellNamed := session.wellNamed
  obtain ⟨path, hung⟩ := hung_of_reaches wellNamed.agrees isDocument reaches
  rw [meaningAt_of_hung wellNamed.rooted.onTop hung]
  exact wellNamed.obey id path tag hung there

/-- An element under a document, one beside it that fails, and one in its place that
takes a namespace from the root. -/
def smallRequests : List Request :=
  [.document .null,
    .markup {} (.map [(.null, .list [.text "p:r", .map [(.null, .text "x")]]),
      (.text "xmlns:p", .text "urn:p")]) (.node 0) {} (.list []),
    .markup {} (.list [.map [(.null, .text "p:y")], .map [(.null, .text "q:z")]]) .null
      { before := .node 2 } (.list []),
    .markup {} (.list [.map [(.null, .list [.text "p:y", .map [(.null, .text "q:z")]]),
      (.text "xmlns:q", .text "urn:q")]]) .null { replacing := .node 2 } (.list [])]

/-- The innermost element of the last of these requests is in a document and obeys. -/
theorem session_obeys_smallRequests :
    (worldAfter {} smallRequests).forest.isA Content.isElement 7 ∧
      ∀ tag, (worldAfter {} smallRequests).forest.content? 7 = some (.element tag) →
        tag.Obeys ((worldAfter {} smallRequests).forest.meaningAt 7) := by
  have session : Session (worldAfter {} smallRequests) :=
    (Session.start rfl).requests (by decide +kernel)
  have reaches : (worldAfter {} smallRequests).forest.Reaches 0 7 :=
    .child (.child (.child .here (by decide +kernel : 1 ∈ _)) (by decide +kernel : 6 ∈ _))
      (by decide +kernel)
  exact ⟨by decide +kernel, fun tag there => session_obeys session (by decide +kernel) reaches there⟩

end MarkupSpec
