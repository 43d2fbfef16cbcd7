/-!
# Sorting by text

Texts are ordered by code point, character by character.  `sortByText` sorts a
list by a text read off each member.  It is stable: members of equal text keep
their order.  It is an insertion sort, so that it is structural and its result
on a given list is found by evaluation.

`perm_sortByText` says nothing is lost, `pairwise_sortByText` that the result
ascends.
-/

namespace MarkupSpec.Text

/-- Put a member in front of the first one whose text is not smaller. -/
def insertByText {α : Type} (text : α → String) (new : α) : List α → List α
  | [] => [new]
  | old :: rest =>
      if text old < text new then old :: insertByText text new rest else new :: old :: rest
termination_by structural members => members

/-- The members in ascending order of their texts. -/
def sortByText {α : Type} (text : α → String) : List α → List α
  | [] => []
  | first :: rest => insertByText text first (sortByText text rest)
termination_by structural members => members

theorem perm_insertByText {α : Type} (text : α → String) (new : α) :
    ∀ members : List α, (insertByText text new members).Perm (new :: members)
  | [] => .refl _
  | old :: rest => by
      unfold insertByText
      split
      · exact ((perm_insertByText text new rest).cons old).trans (.swap new old rest)
      · exact .refl _

/-- Sorting only reorders. -/
theorem perm_sortByText {α : Type} (text : α → String) :
    ∀ members : List α, (sortByText text members).Perm members
  | [] => .refl _
  | first :: rest =>
      (perm_insertByText text first _).trans ((perm_sortByText text rest).cons first)

/-- Sorting keeps the members. -/
@[simp]
theorem mem_sortByText {α : Type} {text : α → String} {member : α} {members : List α} :
    member ∈ sortByText text members ↔ member ∈ members :=
  (perm_sortByText text members).mem_iff

theorem pairwise_insertByText {α : Type} {text : α → String} {new : α} {members : List α}
    (sorted : members.Pairwise fun a b => text a ≤ text b) :
    (insertByText text new members).Pairwise fun a b => text a ≤ text b := by
  induction members with
  | nil => simp [insertByText]
  | cons old rest ih =>
      rw [List.pairwise_cons] at sorted
      unfold insertByText
      split
      · rename_i smaller
        refine List.pairwise_cons.mpr ⟨fun other member => ?_, ih sorted.2⟩
        rcases List.mem_cons.mp ((perm_insertByText text new rest).mem_iff.mp member) with rfl | old
        · exact String.not_lt.mp (String.lt_asymm smaller)
        · exact sorted.1 other old
      · rename_i notSmaller
        refine List.pairwise_cons.mpr ⟨fun other member => ?_, List.pairwise_cons.mpr sorted⟩
        rcases List.mem_cons.mp member with rfl | old
        · exact String.not_lt.mp notSmaller
        · exact String.le_trans (String.not_lt.mp notSmaller) (sorted.1 other old)

/-- A sorted list ascends. -/
theorem pairwise_sortByText {α : Type} (text : α → String) (members : List α) :
    (sortByText text members).Pairwise fun a b => text a ≤ text b := by
  induction members with
  | nil => exact .nil
  | cons first rest ih => exact pairwise_insertByText ih

end MarkupSpec.Text
