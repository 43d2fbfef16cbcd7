import Mathlib.Data.List.Nodup
import MarkupSpec.Proofs.Namespace.ResolvedBindings

/-!
# Attributes in another order

The order in which the attributes of an element are written down is gone once they are sorted:
members with different texts can be sorted in one way only (`sortByText_of_perm`), and what a key
stands for does not depend on where it is (`lookup_of_perm`).

So attributes in another order resolve to the same element, where no two of them have the same key
or declare the same qualifier (`resolveIn_of_perm`): it has the same name, its qualifiers stand for
the same namespaces, and the same is set in the same order (`Resolution.Alike`).
-/

namespace MarkupSpec

/-! ## Lists in another order -/

section Lists

variable {α β : Type}

/-- Members with different texts are sorted in one way only. -/
theorem sortByText_of_perm {text : α → String} {members members' : List α}
    (perm : members.Perm members') (distinct : (members.map text).Nodup) :
    Text.sortByText text members' = Text.sortByText text members := by
  have sorted : (Text.sortByText text members').Perm (Text.sortByText text members) :=
    ((Text.perm_sortByText text members').trans perm.symm).trans
      (Text.perm_sortByText text members).symm
  refine sorted.eq_of_pairwise (fun first second among among' le le' => ?_)
    (Text.pairwise_sortByText text members') (Text.pairwise_sortByText text members)
  have isFirst : first ∈ members := perm.mem_iff.mpr (Text.mem_sortByText.mp among)
  have isSecond : second ∈ members := Text.mem_sortByText.mp among'
  exact List.inj_on_of_nodup_map distinct isFirst isSecond (String.le_antisymm le le')

variable [BEq α] [LawfulBEq α]

/-- Where no key is there twice, a key stands for what is there with it. -/
theorem lookup_eq_some_iff_mem {key : α} {value : β} {entries : List (α × β)}
    (distinct : (entries.map Prod.fst).Nodup) :
    entries.lookup key = some value ↔ (key, value) ∈ entries := by
  induction entries with
  | nil => simp
  | cons entry rest ih =>
      obtain ⟨other, there⟩ := entry
      rw [List.map_cons, List.nodup_cons] at distinct
      rw [List.lookup_cons, List.mem_cons, Prod.mk.injEq]
      by_cases same : key = other
      · subst same
        have absent : (key, value) ∉ rest := fun among =>
          distinct.1 (List.mem_map.mpr ⟨(key, value), among, rfl⟩)
        simp [absent, eq_comm]
      · have differ : (key == other) = false := by simpa using same
        simp [differ, same, ih distinct.2]

/-- What a key stands for does not depend on where it is. -/
theorem lookup_of_perm {key : α} {entries entries' : List (α × β)} (perm : entries.Perm entries')
    (distinct : (entries.map Prod.fst).Nodup) : entries'.lookup key = entries.lookup key := by
  have distinct' : (entries'.map Prod.fst).Nodup := (perm.map Prod.fst).nodup_iff.mp distinct
  refine Option.ext fun value => ?_
  rw [lookup_eq_some_iff_mem distinct, lookup_eq_some_iff_mem distinct', perm.mem_iff]

end Lists

/-! ## Declarations and plain attributes -/

theorem bindQualifier_of_not_mem {qualifier : Option String} {uri : String} :
    ∀ {bindings : List (Option String × String)}, qualifier ∉ bindings.map Prod.fst →
      bindQualifier qualifier uri bindings = bindings ++ [(qualifier, uri)]
  | [], _ => rfl
  | (other, old) :: rest, new => by
      simp only [List.map_cons, List.mem_cons, not_or] at new
      rw [bindQualifier, if_neg (Ne.symm new.1), bindQualifier_of_not_mem new.2, List.cons_append]

/-- What an attribute declares. -/
def declaration? (entry : String × String) : Option (Option String × String) :=
  (declaredQualifier? entry.1).map fun qualifier => (qualifier, entry.2)

/-- No two attributes have the same key, and no two declare the same qualifier. -/
structure Unambiguous {α : Type} (attributes : List (String × α)) : Prop where
  keys : (attributes.map Prod.fst).Nodup
  declared : (attributes.filterMap fun entry => declaredQualifier? entry.1).Nodup

/-- Some of the keys are unambiguous if all are. -/
theorem Unambiguous.of_sublist {α β : Type} {attributes : List (String × α)}
    {fewer : List (String × β)} (unambiguous : Unambiguous attributes)
    (sublist : (fewer.map Prod.fst).Sublist (attributes.map Prod.fst)) : Unambiguous fewer where
  keys := sublist.nodup unambiguous.keys
  declared := by
    have declared := sublist.filterMap declaredQualifier?
    rw [List.filterMap_map, List.filterMap_map] at declared
    exact declared.nodup unambiguous.declared

section Sorting

variable {attributes attributes' : List (String × String)}

theorem map_fst_declarations : (attributes.filterMap declaration?).map Prod.fst =
    attributes.filterMap fun entry => declaredQualifier? entry.1 := by
  rw [List.map_filterMap]
  congr 1
  funext entry
  cases declares : declaredQualifier? entry.1 <;> simp [declaration?, declares]

/-- Declarations of different qualifiers are in the order of the attributes. -/
theorem declared_sortAttributes (unambiguous : Unambiguous attributes) :
    (sortAttributes attributes).declared = attributes.filterMap declaration? := by
  have sorts : ∀ (entries : List (String × String)) (sofar : SortedAttributes),
      ((sofar.declared ++ entries.filterMap declaration?).map Prod.fst).Nodup →
        (entries.foldl SortedAttributes.add sofar).declared =
          sofar.declared ++ entries.filterMap declaration? := by
    intro entries
    induction entries with
    | nil => simp
    | cons entry rest ih =>
        intro sofar distinct
        rw [List.foldl_cons]
        cases declares : declaredQualifier? entry.1 with
        | none =>
            have nothing : declaration? entry = none := by rw [declaration?, declares]; rfl
            rw [List.filterMap_cons_none nothing] at distinct ⊢
            rw [ih, SortedAttributes.add, declares]
            rw [SortedAttributes.add, declares]
            exact distinct
        | some qualifier =>
            have something : declaration? entry = some (qualifier, entry.2) := by
              rw [declaration?, declares]
              rfl
            rw [List.filterMap_cons_some something] at distinct ⊢
            have new : qualifier ∉ sofar.declared.map Prod.fst := by
              intro among
              rw [List.map_append, List.nodup_append] at distinct
              exact distinct.2.2 qualifier among qualifier (by simp) rfl
            have added : (sofar.add entry).declared = sofar.declared ++ [(qualifier, entry.2)] := by
              simp only [SortedAttributes.add, declares, bindQualifier_of_not_mem new]
            rw [ih, added, List.append_assoc, List.singleton_append]
            rw [added, List.append_assoc, List.singleton_append]
            exact distinct
  refine sorts attributes {} ?_
  rw [List.nil_append, map_fst_declarations]
  exact unambiguous.declared

theorem Unambiguous.perm {α : Type} {attributes attributes' : List (String × α)}
    (unambiguous : Unambiguous attributes) (perm : attributes.Perm attributes') :
    Unambiguous attributes' where
  keys := (perm.map Prod.fst).nodup_iff.mp unambiguous.keys
  declared := (perm.filterMap _).nodup_iff.mp unambiguous.declared

variable (unambiguous : Unambiguous attributes) (perm : attributes.Perm attributes')

include unambiguous perm

theorem perm_declared : (sortAttributes attributes).declared.Perm
    (sortAttributes attributes').declared := by
  rw [declared_sortAttributes unambiguous, declared_sortAttributes (unambiguous.perm perm)]
  exact perm.filterMap _

omit unambiguous in
theorem perm_plain : (sortAttributes attributes).plain.Perm (sortAttributes attributes').plain := by
  rw [plain_sortAttributes, plain_sortAttributes]
  exact perm.filter _

theorem lookup_declared (qualifier : Option String) :
    (sortAttributes attributes').declared.lookup qualifier =
      (sortAttributes attributes).declared.lookup qualifier :=
  lookup_of_perm (perm_declared unambiguous perm) (sortAttributes_sound attributes).1

/-- The same qualifiers are left to the scope. -/
theorem mem_openQualifiers_of_perm (name : String) (qualifier : Option String) :
    qualifier ∈ openQualifiers name (sortAttributes attributes') ↔
      qualifier ∈ openQualifiers name (sortAttributes attributes) := by
  simp only [openQualifiers, List.mem_eraseDups, List.mem_filter, List.mem_append, List.mem_map,
    lookup_declared unambiguous perm, (perm_plain perm).mem_iff]

theorem isEmpty_openQualifiers_of_perm (name : String) :
    (openQualifiers name (sortAttributes attributes')).isEmpty =
      (openQualifiers name (sortAttributes attributes)).isEmpty := by
  rw [Bool.eq_iff_iff, List.isEmpty_iff, List.isEmpty_iff, List.eq_nil_iff_forall_not_mem,
    List.eq_nil_iff_forall_not_mem]
  exact forall_congr' fun qualifier =>
    not_congr (mem_openQualifiers_of_perm unambiguous perm name qualifier)

end Sorting

/-! ## Resolutions -/

theorem unboundQualifiers_eq_nil {scope : List (String × String)}
    {qualifiers : List (Option String)} : unboundQualifiers scope qualifiers = [] ↔
      ∀ qualifier, some qualifier ∈ qualifiers →
        (scope.lookup (declarationKey (some qualifier))).isSome := by
  refine ⟨fun nothing _ => isSome_of_unboundQualifiers nothing, fun all => ?_⟩
  refine List.eq_nil_iff_forall_not_mem.mpr fun qualifier among => ?_
  obtain ⟨open', isUnbound, same⟩ := List.mem_filterMap.mp (Text.mem_sortByText.mp among)
  obtain ⟨isOpen, isNone⟩ := List.mem_filter.mp isUnbound
  obtain rfl : open' = some qualifier := same
  exact Option.not_isSome_iff_eq_none.mpr (Option.isNone_iff_eq_none.mp isNone) (all _ isOpen)

/-- Two resolutions make the same element. -/
structure Resolution.Alike (resolution resolution' : Resolution) : Prop where
  qualifier : resolution'.qualifier = resolution.qualifier
  localName : resolution'.localName = resolution.localName
  bindings : ∀ qualifier,
    resolution'.bindings.lookup qualifier = resolution.bindings.lookup qualifier
  declared : resolution'.declaredInOrder = resolution.declaredInOrder
  attributes : Text.sortByText Prod.fst resolution'.attributes =
    Text.sortByText Prod.fst resolution.attributes

namespace Resolution.Alike

variable {resolution resolution' : Resolution} (alike : resolution.Alike resolution')

include alike

theorem name : resolution'.name = resolution.name := by
  rw [Resolution.name, Resolution.name, alike.qualifier, alike.localName]

theorem setting : resolution'.setting = resolution.setting := by
  simp only [Resolution.setting, alike.attributes, attributeNamespace, alike.bindings]

theorem createResolved (document : NodeId) :
    createResolved document resolution' = createResolved document resolution := by
  simp only [MarkupSpec.createResolved, alike.name, alike.declared, alike.setting,
    elementNamespace, alike.qualifier, alike.bindings]

end Resolution.Alike

/-- No attribute declares the empty qualifier. -/
theorem declaredQualifier?_ne_empty (key : String) : declaredQualifier? key ≠ some (some "") := by
  unfold declaredQualifier?
  split
  · exact nofun
  · exact nofun
  · rename_i rest _
    intro declares
    obtain ⟨line, -, isEmpty⟩ := Option.map_eq_some_iff.mp declares
    split at isEmpty
    · cases isEmpty
    · rename_i nonempty
      have nothing : line = [] := by simpa using isEmpty
      exact nonempty (by rw [nothing]; rfl)
  · exact nofun

theorem perm_declaredInOrder {attributes attributes' : List (String × String)}
    (unambiguous : Unambiguous attributes) (perm : attributes.Perm attributes')
    (test : Option String × String → Bool) :
    Text.sortByText (fun entry => entry.1.getD "")
        ((sortAttributes attributes').declared.filter test) =
      Text.sortByText (fun entry => entry.1.getD "")
        ((sortAttributes attributes).declared.filter test) := by
  refine sortByText_of_perm ((perm_declared unambiguous perm).filter test) ?_
  have nonempty : ∀ qualifier ∈ ((sortAttributes attributes).declared.filter test).map Prod.fst,
      qualifier ≠ some "" := by
    intro qualifier among
    obtain ⟨entry, isEntry, rfl⟩ := List.mem_map.mp among
    have isDeclared := (List.mem_filter.mp isEntry).1
    rw [declared_sortAttributes unambiguous] at isDeclared
    obtain ⟨given, -, declares⟩ := List.mem_filterMap.mp isDeclared
    obtain ⟨qualifier, isQualifier, rfl⟩ := Option.map_eq_some_iff.mp declares
    exact fun isEmpty =>
      declaredQualifier?_ne_empty given.1 (isQualifier.trans (congrArg some isEmpty))
  have distinct : (((sortAttributes attributes).declared.filter test).map Prod.fst).Nodup :=
    (List.filter_sublist.map Prod.fst).nodup (sortAttributes_sound attributes).1
  have texts := distinct.map_on (f := fun qualifier => qualifier.getD "")
    fun first among second among' same => by
      cases first with
      | none =>
          cases second with
          | none => rfl
          | some second => exact absurd (congrArg some same.symm) (nonempty _ among')
      | some first =>
          cases second with
          | none => exact absurd (congrArg some same) (nonempty _ among)
          | some second => exact congrArg some same
  rwa [List.map_map] at texts

/-- Attributes in another order resolve to the same element. -/
theorem resolveIn_of_perm {scope : List (String × String)} {name : String}
    {attributes attributes' : List (String × String)} {resolution : Resolution}
    (unambiguous : Unambiguous attributes) (perm : attributes.Perm attributes')
    (found : resolveIn scope name (sortAttributes attributes) = .ok resolution) :
    ∃ resolution', resolveIn scope name (sortAttributes attributes') = .ok resolution' ∧
      resolution.Alike resolution' := by
  have opens := mem_openQualifiers_of_perm unambiguous perm name
  unfold resolveIn at found ⊢
  dsimp only at found ⊢
  split at found
  · rename_i nothing
    cases found
    have nothing' : unboundQualifiers scope
        (openQualifiers name (sortAttributes attributes')) = [] := by
      rw [unboundQualifiers_eq_nil] at nothing ⊢
      exact fun qualifier among => nothing qualifier ((opens _).mp among)
    rw [nothing']
    refine ⟨_, rfl, rfl, rfl, fun qualifier => ?_, perm_declaredInOrder unambiguous perm _, ?_⟩
    · have distinct := (List.filter_sublist (p := fun entry : Option String × String =>
        entry.1 != xmlQualifier)).map Prod.fst |>.nodup (sortAttributes_sound attributes).1
      simp only [List.lookup_append, lookup_bindingsFrom, opens,
        lookup_of_perm ((perm_declared unambiguous perm).filter _) distinct]
    · refine sortByText_of_perm (perm_plain perm) ?_
      rw [plain_sortAttributes]
      exact (List.filter_sublist.map Prod.fst).nodup unambiguous.keys
  · cases found

end MarkupSpec
