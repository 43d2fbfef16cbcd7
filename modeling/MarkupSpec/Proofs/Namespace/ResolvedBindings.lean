import MarkupSpec.Proofs.Namespace.ElementTag

/-!
# What a resolution binds

A resolution that was found in a scope gives every qualifier in use the
namespace that the element declares for it, or else the one in scope
(`Resolution.FoundIn`).  So a qualifier in use has a namespace that depends on
the scope only by what the scope says about that qualifier.
-/

namespace MarkupSpec

variable {scope : List (String × String)} {name : String} {sorted : SortedAttributes}
  {resolution : Resolution}

/-! ## Sorting attributes -/

theorem map_fst_bindQualifier (qualifier : Option String) (uri : String) :
    ∀ bindings : List (Option String × String),
      (bindQualifier qualifier uri bindings).map Prod.fst =
        if qualifier ∈ bindings.map Prod.fst then bindings.map Prod.fst
        else bindings.map Prod.fst ++ [qualifier]
  | [] => rfl
  | (other, old) :: rest => by
      have later := map_fst_bindQualifier qualifier uri rest
      unfold bindQualifier
      split
      · rename_i same
        simp [same]
      · rename_i differ
        rw [List.map_cons, later]
        by_cases among : qualifier ∈ rest.map Prod.fst
        · simp [among]
        · simp [among, Ne.symm differ]

theorem nodup_bindQualifier (qualifier : Option String) (uri : String)
    {bindings : List (Option String × String)} (distinct : (bindings.map Prod.fst).Nodup) :
    ((bindQualifier qualifier uri bindings).map Prod.fst).Nodup := by
  rw [map_fst_bindQualifier]
  split
  · exact distinct
  · rename_i new
    refine List.nodup_append.mpr ⟨distinct, by simp, fun first among second last => ?_⟩
    rw [List.mem_singleton.mp last]
    rintro rfl
    exact new among

/-- Sorting declares each qualifier once, and what is plain declares nothing. -/
theorem sortAttributes_sound (entries : List (String × String)) :
    ((sortAttributes entries).declared.map Prod.fst).Nodup ∧
      ∀ entry ∈ (sortAttributes entries).plain, declaredQualifier? entry.1 = none := by
  have sound : ∀ (entries : List (String × String)) (sofar : SortedAttributes),
      (sofar.declared.map Prod.fst).Nodup ∧
        (∀ entry ∈ sofar.plain, declaredQualifier? entry.1 = none) →
      ((entries.foldl SortedAttributes.add sofar).declared.map Prod.fst).Nodup ∧
        ∀ entry ∈ (entries.foldl SortedAttributes.add sofar).plain,
          declaredQualifier? entry.1 = none := by
    intro entries
    induction entries with
    | nil => exact fun _ sound => sound
    | cons entry rest ih =>
        intro sofar ⟨distinct, plain⟩
        refine ih _ ?_
        unfold SortedAttributes.add
        split
        · exact ⟨nodup_bindQualifier _ _ distinct, plain⟩
        · rename_i declares
          refine ⟨distinct, fun other among => ?_⟩
          rcases List.mem_append.mp among with old | new
          · exact plain other old
          · rw [List.mem_singleton.mp new]
            exact declares
  exact sound entries {} ⟨.nil, fun _ none => absurd none List.not_mem_nil⟩

/-- Plain attributes are those that declare nothing, in order. -/
theorem plain_sortAttributes (entries : List (String × String)) :
    (sortAttributes entries).plain =
      entries.filter fun entry => (declaredQualifier? entry.1).isNone := by
  have sorts : ∀ (entries : List (String × String)) (sofar : SortedAttributes),
      (entries.foldl SortedAttributes.add sofar).plain =
        sofar.plain ++ entries.filter fun entry => (declaredQualifier? entry.1).isNone := by
    intro entries
    induction entries with
    | nil => simp
    | cons entry rest ih =>
        intro sofar
        rw [List.foldl_cons, ih]
        cases declares : declaredQualifier? entry.1 with
        | none => simp [SortedAttributes.add, declares]
        | some qualifier => simp [SortedAttributes.add, declares]
  rw [sortAttributes, sorts]
  rfl

/-! ## Names of resolutions -/

theorem dropLineFeed_append {front back : List Char} (nonempty : back ≠ []) :
    dropLineFeed (front ++ back) = front ++ dropLineFeed back := by
  have last : (front ++ back).getLast? = back.getLast? := by
    rw [List.getLast?_append]
    cases isLast : back.getLast? with
    | none => exact absurd (List.getLast?_eq_none_iff.mp isLast) nonempty
    | some c => rfl
  unfold dropLineFeed
  rw [last]
  split
  · exact List.dropLast_append_of_ne_nil nonempty
  · rfl

theorem nonemptyLine?_eq_some {chars line : List Char} (read : nonemptyLine? chars = some line) :
    line = dropLineFeed chars ∧ '\n' ∉ line := by
  simp only [nonemptyLine?, singleLine?, Option.filter_eq_some_iff] at read
  split at read
  · cases read.1
  · rename_i noFeed
    cases read.1
    exact ⟨rfl, by simpa using noFeed⟩

theorem nonemptyLine?_eq_none {chars : List Char} (read : nonemptyLine? chars = none) :
    '\n' ∈ dropLineFeed chars ∨ dropLineFeed chars = [] := by
  simp only [nonemptyLine?, singleLine?] at read
  split at read
  · rename_i feed
    exact .inl (by simpa using feed)
  · simp only [Option.filter_eq_none_iff] at read
    exact .inr (by simpa using read _ rfl)

/-- A line with a colon that is not split there begins or ends with one. -/
theorem not_plainName_of_cut {before after line : List Char}
    (read : nonemptyLine? (before ++ ':' :: after) = some line)
    (unsplit : before = [] ∨ nonemptyLine? after = none) : ¬ PlainName (String.ofList line) := by
  intro plain
  obtain ⟨rfl, noFeed⟩ := nonemptyLine?_eq_some read
  by_cases ends : after = []
  · subst ends
    have last := plain.last
    rw [dropLineFeed_append (by simp)] at last
    exact last (by simp [dropLineFeed])
  · have whole : dropLineFeed (before ++ ':' :: after) = before ++ ':' :: dropLineFeed after := by
      have parts : before ++ ':' :: after = (before ++ [':']) ++ after := by simp
      rw [parts, dropLineFeed_append ends]
      simp
    rcases unsplit with rfl | unread
    · have head := plain.head
      rw [whole] at head
      exact head (by simp)
    · rcases nonemptyLine?_eq_none unread with feed | empty
      · rw [whole] at noFeed
        exact noFeed (by simp [feed])
      · have last := plain.last
        rw [whole, empty] at last
        exact last (by simp)

theorem splitColon_of_not_mem {name : String} (noColon : ':' ∉ name.toList) :
    Text.splitColon name = (none, name) := by
  rw [Text.splitColon, Text.splitAt?_eq_none_iff.mpr noColon]

theorem splitColon_wholeName {name : String} (plain : PlainName (wholeName name))
    (unsplit : ∀ before after, name.toList = before ++ ':' :: after → ':' ∉ before →
      before = [] ∨ nonemptyLine? after = none) :
    Text.splitColon (wholeName name) = (none, wholeName name) := by
  refine splitColon_of_not_mem fun colon => ?_
  unfold wholeName at plain colon
  cases read : nonemptyLine? name.toList with
  | none =>
      rw [read] at plain colon
      rw [nonemptyLine?_of_not_mem plain.line (List.ne_nil_of_mem colon)] at read
      cases read
  | some line =>
      rw [read] at plain colon
      cases cut : Text.splitAt? ':' name.toList with
      | none =>
          have noColon := Text.splitAt?_eq_none_iff.mp cut
          obtain ⟨rfl, -⟩ := nonemptyLine?_eq_some read
          rw [String.toList_ofList, dropLineFeed] at colon
          split at colon
          · exact noColon ((List.dropLast_subset _) colon)
          · exact noColon colon
      | some parts =>
          obtain ⟨before, after⟩ := parts
          obtain ⟨whole, noColon⟩ := Text.splitAt?_eq_some_iff.mp cut
          rw [whole] at read
          exact not_plainName_of_cut read (unsplit before after whole noColon) plain

/-- A name that is plain once it was split has the qualifier that it has when it
is split at its colon. -/
theorem splitColon_joinColon_splitQualified {name : String}
    (plain : PlainName (Text.joinColon (splitQualified name).1 (splitQualified name).2)) :
    Text.splitColon (Text.joinColon (splitQualified name).1 (splitQualified name).2) =
      splitQualified name := by
  unfold splitQualified at plain ⊢
  cases cut : Text.splitAt? ':' name.toList with
  | none =>
      rw [cut] at plain
      refine splitColon_wholeName plain fun before after whole noColon => ?_
      rw [Text.splitAt?_eq_some_iff.mpr ⟨whole, noColon⟩] at cut
      cases cut
  | some parts =>
      obtain ⟨before, after⟩ := parts
      obtain ⟨whole, noColon⟩ := Text.splitAt?_eq_some_iff.mp cut
      rw [cut] at plain
      dsimp only at plain ⊢
      split at plain
      · rename_i line isSome read
        have cut' : Text.splitAt? ':'
            (Text.joinColon (some (String.ofList before)) (String.ofList line)).toList =
            some (before, line) := by
          refine Text.splitAt?_eq_some_iff.mpr ⟨?_, noColon⟩
          simp [Text.joinColon]
        rw [Text.splitColon, cut']
      · rename_i unsplit
        refine splitColon_wholeName plain fun front back whole' noColon' => ?_
        rw [Text.splitAt?_eq_some_iff.mpr ⟨whole', noColon'⟩] at cut
        cases cut
        cases isEmpty : before.isEmpty with
        | true => exact .inl (List.isEmpty_iff.mp isEmpty)
        | false =>
            cases read : nonemptyLine? after with
            | none => exact .inr rfl
            | some line => exact (unsplit line isEmpty read).elim

theorem splitQualified_ne_empty (name : String) : (splitQualified name).1 ≠ some "" := by
  unfold splitQualified
  split
  · rename_i before after cut
    split
    · rename_i line isSome read
      intro empty
      have nothing : before = [] := by simpa using empty
      simp [nothing] at isSome
    · exact nofun
  · exact nofun

/-! ## Bindings -/

theorem lookup_bindingsFrom (scope : List (String × String)) (qualifier : Option String) :
    ∀ qualifiers : List (Option String),
      (bindingsFrom scope qualifiers).lookup qualifier =
        if qualifier ∈ qualifiers then scope.lookup (declarationKey qualifier) else none
  | [] => rfl
  | first :: rest => by
      have later := lookup_bindingsFrom scope qualifier rest
      unfold bindingsFrom at later ⊢
      by_cases here : qualifier = first
      · subst here
        cases said : scope.lookup (declarationKey qualifier) with
        | none => simp [said, later]
        | some uri => simp [said]
      · cases said : scope.lookup (declarationKey first) with
        | none => simp [said, later, here]
        | some uri =>
            have apart : (qualifier == first) = false := by simpa using here
            simp [said, later, here, List.lookup_cons, apart]

/-- The qualifiers that the name and the plain attributes of an element have. -/
def Resolution.Uses (resolution : Resolution) (qualifier : Option String) : Prop :=
  qualifier = resolution.qualifier ∨
    ∃ key ∈ resolution.attributes.map Prod.fst, qualifier = (splitQualified key).1

/-- A resolution by what is in scope. -/
structure Resolution.FoundIn (scope : List (String × String)) (resolution : Resolution) :
    Prop where
  sorted : resolution.Sorted
  split : PlainName resolution.name →
    (Text.splitColon resolution.name).1 = resolution.qualifier
  qualified : resolution.qualifier ≠ some ""
  used : ∀ qualifier, resolution.Uses qualifier → qualifier ≠ xmlQualifier →
    resolution.bindings.lookup qualifier =
      (resolution.declarations.lookup qualifier).or (scope.lookup (declarationKey qualifier))
  bound : ∀ qualifier uri, resolution.bindings.lookup qualifier = some uri →
    resolution.declarations.lookup qualifier = some uri ∨
      scope.lookup (declarationKey qualifier) = some uri
  known : ∀ qualifier, resolution.Uses (some qualifier) → some qualifier ≠ xmlQualifier →
    (resolution.bindings.lookup (some qualifier)).isSome

/-- Where no qualifier is unbound, all of them stand for something. -/
theorem isSome_of_unboundQualifiers {scope : List (String × String)}
    {qualifiers : List (Option String)} (nothing : unboundQualifiers scope qualifiers = [])
    {qualifier : String} (among : some qualifier ∈ qualifiers) :
    (scope.lookup (declarationKey (some qualifier))).isSome := by
  rw [← Option.not_isNone, Bool.not_eq_true']
  refine Bool.eq_false_iff.mpr fun isNone => ?_
  have unbound : qualifier ∈ unboundQualifiers scope qualifiers := by
    unfold unboundQualifiers
    refine Text.mem_sortByText.mpr (List.mem_filterMap.mpr ⟨some qualifier, ?_, rfl⟩)
    exact List.mem_filter.mpr ⟨among, isNone⟩
  rw [nothing] at unbound
  cases unbound

/-- What is found in a scope is found in any that says the same of the qualifiers
that the element does not declare. -/
theorem foundIn_resolveIn {name : String} {entries : List (String × String)}
    {scope wider : List (String × String)} {resolution : Resolution}
    (found : resolveIn scope name (sortAttributes entries) = .ok resolution)
    (agree : ∀ qualifier ∈ openQualifiers name (sortAttributes entries),
      scope.lookup (declarationKey qualifier) = wider.lookup (declarationKey qualifier)) :
    resolution.FoundIn wider := by
  obtain ⟨distinct, plain⟩ := sortAttributes_sound entries
  unfold resolveIn at found
  dsimp only at found
  split at found
  · rename_i nothing
    cases found
    have declared {qualifier : Option String} (noXml : qualifier ≠ xmlQualifier) :
        ((sortAttributes entries).declared.filter (·.1 != xmlQualifier)).lookup qualifier =
          (sortAttributes entries).declared.lookup qualifier :=
      lookup_filter_ne noXml _
    have opened {qualifier : Option String}
        (among : qualifier ∈ openQualifiers name (sortAttributes entries)) :
        (bindingsFrom scope (openQualifiers name (sortAttributes entries))).lookup qualifier =
          wider.lookup (declarationKey qualifier) := by
      rw [lookup_bindingsFrom, if_pos among, agree qualifier among]
    -- A qualifier in use is declared by the element, or else open.
    have opens {qualifier : Option String}
        (uses : qualifier = (splitQualified name).1 ∨
          ∃ key ∈ (sortAttributes entries).plain.map Prod.fst, qualifier = (splitQualified key).1)
        (noXml : qualifier ≠ xmlQualifier)
        (own : (sortAttributes entries).declared.lookup qualifier = none) :
        qualifier ∈ openQualifiers name (sortAttributes entries) := by
      unfold openQualifiers
      rw [List.mem_eraseDups, List.mem_filter]
      refine ⟨?_, by simp [noXml, own]⟩
      rcases uses with here | ⟨key, among, here⟩
      · exact List.mem_append_right _ (by simpa using here)
      · obtain ⟨entry, member, rfl⟩ := List.mem_map.mp among
        exact List.mem_append_left _ (List.mem_map.mpr ⟨entry, member, here.symm⟩)
    refine
      { sorted := ⟨?_, plain, fun entry among => by simpa using (List.mem_filter.mp among).2⟩
        split := fun isPlain => congrArg Prod.fst (splitColon_joinColon_splitQualified isPlain)
        qualified := splitQualified_ne_empty name
        used := fun qualifier uses noXml => ?_
        bound := fun qualifier uri binds => ?_, known := fun qualifier uses noXml => ?_ }
    · exact (List.Sublist.map _ List.filter_sublist).nodup distinct
    · rw [List.lookup_append, declared noXml]
      cases own : (sortAttributes entries).declared.lookup qualifier with
      | some uri => rfl
      | none => exact congrArg (Option.or none) (opened (opens uses noXml own))
    · rw [List.lookup_append] at binds
      cases own : ((sortAttributes entries).declared.filter (·.1 != xmlQualifier)).lookup
          qualifier with
      | some other =>
          rw [own] at binds
          exact .inl binds
      | none =>
          rw [own, Option.none_or, lookup_bindingsFrom] at binds
          split at binds
          · rename_i among
            rw [agree qualifier among] at binds
            exact .inr binds
          · cases binds
    · rw [List.lookup_append, declared noXml]
      cases own : (sortAttributes entries).declared.lookup (some qualifier) with
      | some uri => rfl
      | none =>
          have among := opens uses noXml own
          rw [Option.none_or, lookup_bindingsFrom, if_pos among]
          exact isSome_of_unboundQualifiers nothing among
  · cases found

/-- Nothing but declarations is in the namespace of declarations if neither the
element nor the scope gives it to a qualifier. -/
theorem Resolution.FoundIn.apart {scope : List (String × String)} {resolution : Resolution}
    (found : resolution.FoundIn scope) (plain : resolution.Plain)
    (free : ∀ qualifier, qualifier ≠ xmlQualifier →
      scope.lookup (declarationKey qualifier) ≠ some declarationNamespace) :
    resolution.Apart := by
  intro key same
  unfold attributeNamespace at same
  split at same
  · cases same
  · rename_i qualifier _
    split at same
    · exact absurd (Option.some.inj same) (by decide)
    · rename_i noXml
      rcases found.bound _ _ (Option.filter_eq_some_iff.mp same).1 with own | said
      · exact (plain.declared (some qualifier, declarationNamespace) (mem_of_lookup own)).2 rfl
      · exact free _ noXml said

end MarkupSpec
