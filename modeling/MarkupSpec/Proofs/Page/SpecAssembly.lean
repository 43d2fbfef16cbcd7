import MarkupSpec.Page
import MarkupSpec.Proofs.Build.ReadOnly

/-!
# Putting a page together

A page is put together as a spec before anything is built.  That may use up streams
and may fail, but it never changes the forest (`Page.readsOnly_spec`).
-/

namespace MarkupSpec.Page

open Build

/-! ## The head and the body -/

theorem readsOnly_headItems (marker : Marker) (tag : String) (value : Value) :
    ReadsOnly (headItems marker tag value) := by
  refine .bind (readsOnly_absent value) fun isAbsent => ?_
  split
  · exact readsOnly_pure _
  · split
    · exact .bind (readsOnly_members value) fun _ => readsOnly_pure _
    · exact .bind (readsOnly_pure _) fun _ => readsOnly_pure _

theorem readsOnly_titleSpec (arguments title : Value) : ReadsOnly (titleSpec arguments title) := by
  refine .bind (readsOnly_absent title) fun isAbsent => ?_
  split
  · exact readsOnly_pure _
  · split
    · exact readsOnly_pure _
    · split
      · refine .bind (readsOnly_members title) fun members => ?_
        cases members with
        | nil => exact readsOnly_throw _
        | cons text properties =>
            exact .bind (readsOnly_flattenWithin (readsOnly_spread arguments) _ _) fun _ =>
              readsOnly_pure _
      · exact readsOnly_pure _

theorem readsOnly_headSpec (page : Page) (marker : Marker) : ReadsOnly (page.headSpec marker) := by
  unfold headSpec
  split
  · exact readsOnly_pure _
  · exact .bind (readsOnly_titleSpec _ _) fun _ =>
      .bind (readsOnly_headItems _ _ _) fun _ => .bind (readsOnly_headItems _ _ _) fun _ =>
        .bind (readsOnly_headItems _ _ _) fun _ => .bind (readsOnly_headItems _ _ _) fun _ =>
          readsOnly_pure _

theorem readsOnly_bodySpec (page : Page) : ReadsOnly page.bodySpec := by
  unfold bodySpec
  split
  · exact readsOnly_pure _
  · split
    · split
      · exact readsOnly_pure _
      · exact readsOnly_throw _
    · exact readsOnly_pure _

/-! ## The root -/

theorem readsOnly_putPair (index : Nat) (pair : Value) (entries : Entries) :
    ReadsOnly (putPair index pair entries) := by
  refine .bind (readsOnly_spread pair) fun members => ?_
  split
  · split
    · exact readsOnly_pure _
    · exact readsOnly_throw _
  · exact readsOnly_throw _

theorem readsOnly_pairEntries :
    ∀ (index : Nat) (pairs : List Value) (entries : Entries),
      ReadsOnly (pairEntries index pairs entries)
  | _, [], _ => readsOnly_pure _
  | index, pair :: rest, _ =>
      .bind (readsOnly_putPair index pair _) fun _ => readsOnly_pairEntries (index + 1) rest _

theorem readsOnly_streamPairs (id : Nat) :
    ∀ (most index : Nat) (entries : Entries), ReadsOnly (streamPairs id most index entries)
  | 0, _, _ => readsOnly_pure _
  | most + 1, index, entries => by
      refine .bind (readsOnly_takeNext id) fun pair => ?_
      cases pair with
      | none => exact readsOnly_pure _
      | some pair =>
          exact .bind (readsOnly_putPair index pair entries) fun _ =>
            readsOnly_streamPairs id most (index + 1) _

theorem readsOnly_mapOfValue (value : Value) : ReadsOnly (mapOfValue value) := by
  unfold mapOfValue
  split
  · exact readsOnly_pure _
  · exact .bind (readsOnly_remaining _) fun _ =>
      .bind (readsOnly_streamPairs _ _ _ _) fun _ => readsOnly_pure _
  · exact .bind (readsOnly_pairEntries _ _ _) fun _ => readsOnly_pure _
  · exact .bind (readsOnly_spread _) fun _ =>
      .bind (readsOnly_pairEntries _ _ _) fun _ => readsOnly_pure _

theorem readsOnly_moreDeclarations (page : Page) (describe : NodeId → String) :
    ReadsOnly (page.moreDeclarations describe) := by
  unfold moreDeclarations
  split
  · split
    · exact readsOnly_pure _
    · exact readsOnly_throw _
  · exact readsOnly_pure _

theorem readsOnly_rootSpec (page : Page) (head body : Value) :
    ReadsOnly (page.rootSpec head body) := by
  refine .bind readsOnly_describe fun describe => ?_
  dsimp only
  split
  · exact .bind (readsOnly_mapOfValue _) fun _ =>
      .bind (readsOnly_pure _) fun _ => .bind (readsOnly_moreDeclarations page describe) fun _ =>
        readsOnly_pure _
  · exact .bind (readsOnly_pure _) fun _ =>
      .bind (readsOnly_moreDeclarations page describe) fun _ => readsOnly_pure _

/-! ## The page -/

theorem readsOnly_stylesheetSpecs (page : Page) (marker : Marker) :
    ReadsOnly (page.stylesheetSpecs marker) := by
  unfold stylesheetSpecs
  split
  · exact readsOnly_pure _
  · split
    · exact readsOnly_pure _
    · exact .bind readsOnly_describe fun _ => readsOnly_pure _

theorem readsOnly_doctypeSpecs (page : Page) (marker : Marker) :
    ReadsOnly (page.doctypeSpecs marker) := by
  unfold doctypeSpecs
  split
  · exact readsOnly_pure _
  · split
    · exact .bind (readsOnly_members _) fun _ => readsOnly_pure _
    · exact .bind (readsOnly_pure _) fun _ => readsOnly_pure _

theorem readsOnly_spec (page : Page) (marker : Marker) : ReadsOnly (page.spec marker) :=
  .bind (readsOnly_stylesheetSpecs page marker) fun _ =>
    .bind (readsOnly_doctypeSpecs page marker) fun _ =>
      .bind (readsOnly_headSpec page marker) fun _ => .bind (readsOnly_bodySpec page) fun _ =>
        .bind (readsOnly_rootSpec page _ _) fun _ => readsOnly_pure _

end MarkupSpec.Page
