import MarkupSpec.Proofs.Calls.Account
import MarkupSpec.Proofs.Namespace.BuiltElements
import MarkupSpec.Proofs.Position.PairedPlaces
import MarkupSpec.Proofs.Run.Conduct
import MarkupSpec.Proofs.Spec.AttributeOrder

/-!
# What the resolver gives

The main statement is `resolve_exact`.  Once the attributes of an element are flattened, what the
resolver does with them is told by three things: what they declare (`declaredFor`), the qualifiers
in use (`usedQualifiers`), and what is in scope at the node that namespaces come from or behind it
(`Forest.inScope`).

A qualifier in use that is neither declared nor in scope is unbound (`Unbound`).  If there is any,
the resolver fails and names the unbound ones.  Otherwise its tables hold what is declared, and
what is in scope for the other qualifiers in use, and nothing else (`Resolution.Exact`).
-/

namespace MarkupSpec

open Forest Edit Build

/-! ## What attributes declare and use -/

/-- The namespace that attributes declare for a qualifier: that of the last declaration of it, in
any spelling.  The qualifier `xml` is never declared. -/
def declaredFor (entries : List (String × String)) (qualifier : Option String) : Option String :=
  if qualifier = xmlQualifier then none
  else
    ((entries.filter fun entry => declaredQualifier? entry.1 = some qualifier).map
      Prod.snd).getLast?

/-- The attributes that declare nothing. -/
def plainEntries (entries : List (String × String)) : List (String × String) :=
  entries.filter fun entry => (declaredQualifier? entry.1).isNone

/-- The qualifiers of a name and of the plain ones among attributes, without `xml`. -/
def usedQualifiers (name : String) (entries : List (String × String)) : List (Option String) :=
  ((name :: (plainEntries entries).map Prod.fst).map fun key => (splitQualified key).1).filter
    (· != xmlQualifier)

/-- What is in scope for a qualifier at a node, or else behind it. -/
def Forest.inScope (forest : Forest) (near : NodeId) (behind : Option NodeId)
    (qualifier : Option String) : Option String :=
  ((forest.declarations near).lookup (declarationKey qualifier)).or
    (behind.bind fun node => (forest.declarations node).lookup (declarationKey qualifier))

/-- A qualifier in use that stands for nothing. -/
structure Unbound (name : String) (entries : List (String × String))
    (scope : Option String → Option String) (qualifier : String) : Prop where
  used : some qualifier ∈ usedQualifiers name entries
  undeclared : declaredFor entries (some qualifier) = none
  unknown : scope (some qualifier) = none

/-- A table has one entry for each key, and its entries are the pairs that the relation has. -/
structure Tabulates {κ ν : Type} (table : List (κ × ν)) (relation : κ → ν → Prop) : Prop where
  distinct : (table.map Prod.fst).Nodup
  mem_iff : ∀ key value, (key, value) ∈ table ↔ relation key value

/-- The resolution of an element with this name and these flattened attributes: what is declared,
what is in scope for the other qualifiers in use, and nothing else. -/
structure Resolution.Exact (name : String) (entries : List (String × String))
    (scope : Option String → Option String) (resolution : Resolution) : Prop where
  split : (resolution.qualifier, resolution.localName) = splitQualified name
  declarations : Tabulates resolution.declarations fun qualifier uri =>
    declaredFor entries qualifier = some uri
  bindings : Tabulates resolution.bindings fun qualifier uri =>
    declaredFor entries qualifier = some uri ∨
      declaredFor entries qualifier = none ∧ qualifier ∈ usedQualifiers name entries ∧
        scope qualifier = some uri
  attributes : resolution.attributes = plainEntries entries

variable {name : String} {entries : List (String × String)}

/-! ## Sorting attributes -/

theorem lookup_bindQualifier (qualifier : Option String) (uri : String) (other : Option String) :
    ∀ bindings : List (Option String × String),
      (bindQualifier qualifier uri bindings).lookup other =
        if other = qualifier then some uri else bindings.lookup other
  | [] => by
      simp only [bindQualifier, List.lookup_cons, List.lookup_nil]
      split <;> simp_all
  | (first, old) :: rest => by
      have later := lookup_bindQualifier qualifier uri other rest
      by_cases here : first = qualifier
      · subst here
        rw [bindQualifier, if_pos rfl, List.lookup_cons, List.lookup_cons]
        split <;> simp_all
      · rw [bindQualifier, if_neg here, List.lookup_cons, List.lookup_cons, later]
        by_cases isFirst : other = first
        · simp [isFirst, here]
        · simp [show (other == first) = false by simpa using isFirst]

/-- A qualifier that is declared several times has the last of the namespaces. -/
theorem lookup_declared_sortAttributes (entries : List (String × String))
    (qualifier : Option String) :
    (sortAttributes entries).declared.lookup qualifier =
      ((entries.filter fun entry => declaredQualifier? entry.1 = some qualifier).map
        Prod.snd).getLast? := by
  have sorts : ∀ (entries : List (String × String)) (sofar : SortedAttributes),
      (entries.foldl SortedAttributes.add sofar).declared.lookup qualifier =
        ((entries.filter fun entry => declaredQualifier? entry.1 = some qualifier).map
          Prod.snd).getLast?.or (sofar.declared.lookup qualifier) := by
    intro entries
    induction entries with
    | nil => exact fun _ => rfl
    | cons entry rest ih =>
        intro sofar
        rw [List.foldl_cons, ih, SortedAttributes.add]
        cases declares : declaredQualifier? entry.1 with
        | none => simp [declares]
        | some other =>
            rw [lookup_bindQualifier]
            by_cases same : other = qualifier
            · subst same
              rw [List.filter_cons_of_pos (by simp [declares]), List.map_cons, if_pos rfl,
                List.getLast?_cons, Option.some_or]
              cases (List.map Prod.snd (rest.filter _)).getLast? <;> rfl
            · rw [List.filter_cons_of_neg (by simp [declares, same]), if_neg (Ne.symm same)]
  exact (sorts entries {}).trans (Option.or_none)

/-- What an element declares by its flattened attributes, qualifier by qualifier. -/
theorem tabulates_declarationsIn (entries : List (String × String)) :
    Tabulates (declarationsIn entries) fun qualifier uri =>
      declaredFor entries qualifier = some uri := by
  have distinct : ((declarationsIn entries).map Prod.fst).Nodup :=
    (List.filter_sublist.map _).nodup (sortAttributes_sound entries).1
  refine ⟨distinct, fun qualifier uri => ?_⟩
  rw [declaredFor, ← lookup_declared_sortAttributes, declarationsIn, List.mem_filter]
  split
  · rename_i isXml
    simp [isXml]
  · rename_i noXml
    rw [lookup_eq_some_iff_mem (sortAttributes_sound entries).1]
    simp [noXml]

theorem mem_openQualifiers {qualifier : Option String} :
    qualifier ∈ openQualifiers name (sortAttributes entries) ↔
      qualifier ∈ usedQualifiers name entries ∧ declaredFor entries qualifier = none := by
  rw [openQualifiers, usedQualifiers, List.mem_eraseDups, List.mem_filter, List.mem_filter,
    plain_sortAttributes, declaredFor, ← lookup_declared_sortAttributes]
  by_cases isXml : qualifier = xmlQualifier
  · simp [isXml]
  · rw [if_neg isXml, ← plainEntries, List.mem_append, List.mem_singleton, or_comm, List.map_cons,
      List.mem_cons, List.map_map, Function.comp_def]
    simp [isXml]

/-! ## Resolving in a scope -/

theorem nodup_eraseDups (qualifiers : List (Option String)) : qualifiers.eraseDups.Nodup := by
  cases qualifiers with
  | nil => simp
  | cons first rest =>
      rw [List.eraseDups_cons, List.nodup_cons]
      exact ⟨by simp [List.mem_eraseDups], nodup_eraseDups _⟩
termination_by qualifiers.length
decreasing_by exact Nat.lt_succ_of_le (List.length_filter_le _ _)

/-- Members with different texts are sorted in a strict order. -/
theorem strict_sortByText {α : Type} {text : α → String} {members : List α}
    (distinct : (members.map text).Nodup) :
    (Text.sortByText text members).Pairwise fun a b => text a < text b := by
  have distinct' : ((Text.sortByText text members).map text).Nodup :=
    ((Text.perm_sortByText text members).map text).nodup_iff.mpr distinct
  refine (Text.pairwise_sortByText text members).imp₂ (fun a b le differ => ?_)
    (List.pairwise_map.mp distinct')
  exact Std.lt_of_le_of_ne le differ

theorem mem_unboundQualifiers {scope : List (String × String)} {qualifiers : List (Option String)}
    {qualifier : String} : qualifier ∈ unboundQualifiers scope qualifiers ↔
      some qualifier ∈ qualifiers ∧ scope.lookup (declarationKey (some qualifier)) = none := by
  rw [unboundQualifiers, Text.mem_sortByText, List.mem_filterMap]
  simp

/-- Unbound qualifiers are named in order, each once. -/
theorem strict_unboundQualifiers (scope : List (String × String)) (name : String)
    (sorted : SortedAttributes) :
    (unboundQualifiers scope (openQualifiers name sorted)).Pairwise (· < ·) := by
  refine strict_sortByText ?_
  show (List.map id _).Nodup
  rw [List.map_id]
  refine ((nodup_eraseDups _).filter _).filterMap fun first second text isFirst isSecond => ?_
  exact (Option.mem_def.mp isFirst).trans (Option.mem_def.mp isSecond).symm

theorem map_fst_bindingsFrom (scope : List (String × String)) (qualifiers : List (Option String)) :
    (bindingsFrom scope qualifiers).map Prod.fst = qualifiers.filter fun qualifier =>
      (scope.lookup (declarationKey qualifier)).isSome := by
  induction qualifiers with
  | nil => rfl
  | cons qualifier rest ih =>
      unfold bindingsFrom at ih ⊢
      cases known : scope.lookup (declarationKey qualifier) <;> simp [known, ih]

theorem mem_bindingsFrom {scope : List (String × String)} {qualifiers : List (Option String)}
    {qualifier : Option String} {uri : String} : (qualifier, uri) ∈ bindingsFrom scope qualifiers ↔
      qualifier ∈ qualifiers ∧ scope.lookup (declarationKey qualifier) = some uri := by
  simp [bindingsFrom]

section ResolveIn

variable {scope : List (String × String)} {meaning : Option String → Option String}
  (means : ∀ qualifier, scope.lookup (declarationKey qualifier) = meaning qualifier)

include means

theorem mem_unboundQualifiers_iff {qualifier : String} :
    qualifier ∈ unboundQualifiers scope (openQualifiers name (sortAttributes entries)) ↔
      Unbound name entries meaning qualifier := by
  rw [mem_unboundQualifiers, mem_openQualifiers, means]
  exact ⟨fun ⟨⟨used, undeclared⟩, unknown⟩ => ⟨used, undeclared, unknown⟩,
    fun unbound => ⟨⟨unbound.used, unbound.undeclared⟩, unbound.unknown⟩⟩

/-- What is declared, and what the scope says of the other qualifiers in use. -/
theorem tabulates_bindings :
    Tabulates (declarationsIn entries ++
        bindingsFrom scope (openQualifiers name (sortAttributes entries)))
      fun qualifier uri => declaredFor entries qualifier = some uri ∨
        declaredFor entries qualifier = none ∧ qualifier ∈ usedQualifiers name entries ∧
          meaning qualifier = some uri where
  distinct := by
    have declared := tabulates_declarationsIn entries
    rw [List.map_append, map_fst_bindingsFrom, List.nodup_append]
    refine ⟨declared.distinct, (nodup_eraseDups _).filter _, ?_⟩
    -- A qualifier that is declared is not open.
    rintro qualifier here _ there rfl
    obtain ⟨⟨_, uri⟩, among, rfl⟩ := List.mem_map.mp here
    have undeclared := (mem_openQualifiers.mp (List.mem_filter.mp there).1).2
    rw [(declared.mem_iff _ uri).mp among] at undeclared
    cases undeclared
  mem_iff qualifier uri := by
    rw [List.mem_append, (tabulates_declarationsIn entries).mem_iff, mem_bindingsFrom,
      mem_openQualifiers, means, and_comm (a := qualifier ∈ _), and_assoc]

theorem exact_resolveIn (bound : ∀ qualifier, ¬ Unbound name entries meaning qualifier) :
    ∃ resolution, resolveIn scope name (sortAttributes entries) = .ok resolution ∧
      resolution.Exact name entries meaning := by
  have nothing : unboundQualifiers scope (openQualifiers name (sortAttributes entries)) = [] :=
    List.eq_nil_iff_forall_not_mem.mpr fun qualifier among =>
      bound qualifier ((mem_unboundQualifiers_iff means).mp among)
  refine ⟨_, by rw [resolveIn]; dsimp only; rw [nothing], ?_⟩
  exact
    { split := rfl
      declarations := tabulates_declarationsIn entries
      bindings := tabulates_bindings means
      attributes := plain_sortAttributes entries }

theorem error_resolveIn {qualifier : String} (unbound : Unbound name entries meaning qualifier) :
    resolveIn scope name (sortAttributes entries) =
      .error (unboundQualifiers scope (openQualifiers name (sortAttributes entries))) := by
  have among := (mem_unboundQualifiers_iff means).mpr unbound
  rw [resolveIn]
  dsimp only
  split
  · rename_i nothing
    rw [nothing] at among
    cases among
  · rfl

end ResolveIn

/-- A scope is looked at for open qualifiers only. -/
theorem resolveIn_of_closed {sorted : SortedAttributes} (closed : openQualifiers name sorted = [])
    (scope : List (String × String)) :
    resolveIn scope name sorted = resolveIn [] name sorted := by
  rw [resolveIn, resolveIn, closed]
  rfl

/-! ## Resolving at nodes -/

/-- Flattened attributes, going from one world to another: those that come to nothing are left
out. -/
inductive Flattened (arguments : List Value) :
    RawAttributes → World → List (String × String) → World → Prop
  | nil (world : World) : Flattened arguments [] world [] world
  | absent {key value rest entries before middle after} :
      flatten arguments value before = .ok none middle →
      Flattened arguments rest middle entries after →
      Flattened arguments ((key, value) :: rest) before entries after
  | present {key value text rest entries before middle after} :
      flatten arguments value before = .ok (some text) middle →
      Flattened arguments rest middle entries after →
      Flattened arguments ((key, value) :: rest) before ((key, text) :: entries) after

section Flattening

variable {arguments : List Value} {before after : World}

theorem flattened_iff : ∀ {attributes : RawAttributes} {entries : List (String × String)}
    {before : World}, Flattened arguments attributes before entries after ↔
      flattenAttributes pure arguments attributes before = .ok entries after
  | [], entries, before => by
      constructor
      · rintro ⟨⟩
        rfl
      · rintro ⟨⟩
        exact .nil _
  | (key, value) :: rest, entries, before => by
      constructor
      · intro flattened
        cases flattened with
        | absent flattens later =>
            exact bind_eq_ok.mpr ⟨none, _, flattens, flattened_iff.mp later⟩
        | present flattens later =>
            refine bind_eq_ok.mpr ⟨some _, _, flattens, bind_eq_ok.mpr ⟨key, _, rfl, ?_⟩⟩
            exact bind_eq_ok.mpr ⟨_, _, flattened_iff.mp later, rfl⟩
      · intro run
        obtain ⟨text, middle, flattens, later⟩ := bind_eq_ok.mp run
        cases text with
        | none => exact .absent flattens (flattened_iff.mpr later)
        | some text =>
            obtain ⟨_, _, ⟨⟩, later⟩ := bind_eq_ok.mp later
            obtain ⟨_, _, later, ⟨⟩⟩ := bind_eq_ok.mp later
            exact .present flattens (flattened_iff.mpr later)

/-- Attributes are not flattened only for a matter of their values. -/
theorem isOfValue_of_flattenAttributes {attributes : RawAttributes} {cause : Failure}
    (run : flattenAttributes pure arguments attributes before = .error cause after) :
    cause.isOfValue := by
  let account : Account :=
    { terms := { names := before.names }, callee := 0, arguments
      fails := fun cause => cause.isOfValue, ofValue := fun _ ofValue => ofValue }
  have nothing (id : Nat) : account.terms.aside id = none := rfl
  have accounts := account.accounts_flattenAttributes
    (fun value _ => Value.isClear_of_nothing nothing value) attributes
    fun entry _ => Value.isClear_of_nothing nothing entry.2
  exact ((accounts before (.refl rfl nothing)).of_error run).2

end Flattening

section Resolve

variable {attributes : RawAttributes} {arguments : List Value} {near : NodeId}
  {behind : Option NodeId} {context : Option ErrorContext} {level : ErrorLevel}

theorem lookup_scopes (forest : Forest) (qualifier : Option String) :
    (forest.scopes (near :: behind.toList)).lookup (declarationKey qualifier) =
      forest.inScope near behind qualifier := by
  rw [inScope, Forest.scopes, List.flatMap_cons, List.lookup_append, lookup_declarations]
  cases behind with
  | none => rfl
  | some node =>
      rw [Option.toList_some, List.flatMap_cons, List.flatMap_nil, List.append_nil,
        Option.bind_some, lookup_declarations]

/-- Flattened attributes are resolved by what is in scope. -/
theorem resolveFlat_eq {world : World} {nodes : List NodeId}
    (inside : ∀ node ∈ nodes, node < world.forest.size) :
    resolveFlat name entries nodes context level world =
      resolutionOr name context level
        (resolveIn (world.forest.scopes nodes) name (sortAttributes entries)) world := by
  unfold resolveFlat
  dsimp only
  split
  · rename_i closed
    rw [resolveIn_of_closed (List.isEmpty_iff.mp closed) (world.forest.scopes nodes)]
    rfl
  · have finds : scopeAt nodes world = .ok (world.forest.scopes nodes) world :=
      (finds_scopeAt inside).eq_ok
    simp only [Bind.bind, EStateM.bind, finds]

/-- How the resolver ends for a name and attributes, by what is in scope. -/
structure Resolves (name : String) (attributes : RawAttributes) (arguments : List Value)
    (scope : Option String → Option String) (context : Option ErrorContext) (level : ErrorLevel)
    (world : World) (result : EStateM.Result Failure World Resolution) : Prop where
  /-- If every qualifier in use stands for something, the resolution is exact. -/
  bound : ∀ entries after, Flattened arguments attributes world entries after →
    (∀ qualifier, ¬ Unbound name entries scope qualifier) →
    ∃ resolution, result = .ok resolution after ∧ resolution.Exact name entries scope
  /-- If any does not, exactly those that do not are named, in order. -/
  unbound : ∀ entries after, Flattened arguments attributes world entries after →
    (∃ qualifier, Unbound name entries scope qualifier) →
    ∃ missing, result =
        .error (.spec { cause := .unboundQualifiers missing name, context, level }) after ∧
      missing.Pairwise (· < ·) ∧ ∀ qualifier, qualifier ∈ missing ↔
        Unbound name entries scope qualifier
  /-- If the attributes cannot be flattened, the failure is one of their values. -/
  otherwise : (¬ ∃ entries after, Flattened arguments attributes world entries after) →
    ∃ cause after, result = .error cause after ∧ cause.isOfValue

/-- The resolver is exact: it fails for qualifiers in use that are neither declared nor in scope, and
names these; otherwise it gives what is declared, what is in scope for the other qualifiers in use,
and the plain attributes. -/
theorem resolve_exact (name : String) (attributes : RawAttributes) (arguments : List Value)
    (near : NodeId) (behind : Option NodeId) (context : Option ErrorContext) (level : ErrorLevel)
    (world : World) (isNear : near < world.forest.size)
    (isBehind : ∀ node ∈ behind, node < world.forest.size) :
    Resolves name attributes arguments (world.forest.inScope near behind) context level world
      (resolve name attributes (near :: behind.toList) arguments context level world) := by
  have inside : ∀ node ∈ near :: behind.toList, node < world.forest.size := by
    simpa using ⟨isNear, isBehind⟩
  have means (qualifier : Option String) :
      (world.forest.scopes (near :: behind.toList)).lookup (declarationKey qualifier) =
        world.forest.inScope near behind qualifier := lookup_scopes world.forest qualifier
  -- Flattening leaves the forest alone, and with it what is in scope.
  have judges {entries : List (String × String)} {after : World}
      (flattened : Flattened arguments attributes world entries after) :
      resolve name attributes (near :: behind.toList) arguments context level world =
        resolutionOr name context level (resolveIn (world.forest.scopes (near :: behind.toList)) name
          (sortAttributes entries)) after := by
    have flattens := flattened_iff.mp flattened
    have sameForest := (readsOnly_flattenAttributes arguments attributes).forest_of_ok flattens
    rw [← sameForest, ← resolveFlat_eq (by rwa [sameForest])]
    simp only [resolve, Bind.bind, EStateM.bind, flattens]
  refine ⟨fun entries after flattened bound => ?_, fun entries after flattened unbound => ?_,
    fun stuck => ?_⟩
  · obtain ⟨resolution, resolves, exact⟩ := exact_resolveIn means bound
    exact ⟨resolution, by rw [judges flattened, resolves]; rfl, exact⟩
  · obtain ⟨qualifier, unbound⟩ := unbound
    exact ⟨_, by rw [judges flattened, error_resolveIn means unbound]; rfl,
      strict_unboundQualifiers _ name _, fun _ => mem_unboundQualifiers_iff means⟩
  · cases run : flattenAttributes pure arguments attributes world with
    | ok entries after => exact absurd ⟨entries, after, flattened_iff.mpr run⟩ stuck
    | error cause after =>
        exact ⟨cause, after, by simp only [resolve, Bind.bind, EStateM.bind, run],
          isOfValue_of_flattenAttributes run⟩

/-- What was resolved is exact, whatever the nodes are. -/
theorem exact_of_resolve {resolution : Resolution} {world after : World}
    (run : resolve name attributes (near :: behind.toList) arguments context level world =
      .ok resolution after) :
    ∃ entries flat, flattenAttributes pure arguments attributes world = .ok entries flat ∧
      resolution.Exact name entries (world.forest.inScope near behind) := by
  obtain ⟨entries, flat, flattens, run⟩ := bind_eq_ok.mp run
  refine ⟨entries, flat, flattens, ?_⟩
  have sameForest := (readsOnly_flattenAttributes arguments attributes).forest_of_ok flattens
  have means (qualifier : Option String) :
      (world.forest.scopes (near :: behind.toList)).lookup (declarationKey qualifier) =
        world.forest.inScope near behind qualifier := lookup_scopes world.forest qualifier
  have judges {final : World} (run : resolutionOr name context level
      (resolveIn (world.forest.scopes (near :: behind.toList)) name (sortAttributes entries)) final =
        .ok resolution after) :
      resolution.Exact name entries (world.forest.inScope near behind) := by
    by_cases bound : ∀ qualifier, ¬ Unbound name entries (world.forest.inScope near behind) qualifier
    · obtain ⟨found, resolves, exact⟩ := exact_resolveIn means bound
      rw [resolves] at run
      cases run
      exact exact
    · obtain ⟨qualifier, unbound⟩ := not_forall_not.mp bound
      rw [error_resolveIn means unbound] at run
      cases run
  unfold resolveFlat at run
  dsimp only at run
  split at run
  · rename_i closed
    obtain ⟨_, _, ⟨⟩, run⟩ := bind_eq_ok.mp run
    rw [← resolveIn_of_closed (List.isEmpty_iff.mp closed)
      (world.forest.scopes (near :: behind.toList))] at run
    exact judges run
  · obtain ⟨scope, found, finds, run⟩ := bind_eq_ok.mp run
    rw [((ensures_scopeAt _).of_ok finds).2, sameForest] at run
    exact judges run

/-- Beside the text, a qualifier is declared in capitals, and another one is in scope. -/
theorem resolve_exact_smallWorld :
    (2 < smallWorld.forest.size ∧ ∀ node ∈ some 0, node < smallWorld.forest.size) ∧
      (∃ resolution after,
        resolve "p:a" [("XMLNS:q", .text "urn:q"), ("q:x", .int 1), ("z", .null)] [2, 0] [] none .user
          smallWorld = .ok resolution after ∧
        resolution.Exact "p:a" [("XMLNS:q", "urn:q"), ("q:x", "1")]
          (smallWorld.forest.inScope 2 (some 0))) ∧
      ∃ missing, resolve "s:a" [("r:b", .text "1")] [2] [] none .user smallWorld = .error
          (.spec { cause := .unboundQualifiers missing "s:a", level := .user }) smallWorld ∧
        missing.Pairwise (· < ·) ∧ ∀ qualifier, qualifier ∈ missing ↔
          Unbound "s:a" [("r:b", "1")] (smallWorld.forest.inScope 2 none) qualifier := by
  have there : 2 < smallWorld.forest.size := by decide
  have there' : ∀ node ∈ some 0, node < smallWorld.forest.size := by decide
  refine ⟨⟨there, there'⟩, ?_, ?_⟩
  · have exact := resolve_exact "p:a" [("XMLNS:q", .text "urn:q"), ("q:x", .int 1), ("z", .null)] []
      2 (some 0) none .user smallWorld there there'
    have flattened := flattened_iff.mpr (show flattenAttributes pure []
      [("XMLNS:q", .text "urn:q"), ("q:x", .int 1), ("z", .null)] smallWorld =
        .ok [("XMLNS:q", "urn:q"), ("q:x", "1")] smallWorld from rfl)
    obtain ⟨resolution, resolves, isExact⟩ := exact.bound _ _ flattened fun qualifier unbound => by
      have used := unbound.used
      have undeclared := unbound.undeclared
      have unknown := unbound.unknown
      rw [show usedQualifiers "p:a" [("XMLNS:q", "urn:q"), ("q:x", "1")] = [some "p", some "q"] by
        decide +kernel] at used
      simp only [List.mem_cons, Option.some.injEq, List.not_mem_nil, or_false] at used
      obtain rfl | rfl := used
      · revert unknown
        decide +kernel
      · revert undeclared
        decide +kernel
    exact ⟨resolution, smallWorld, resolves, isExact⟩
  · have exact := resolve_exact "s:a" [("r:b", .text "1")] [] 2 none none .user smallWorld there (by simp)
    have flattened := flattened_iff.mpr (show flattenAttributes pure [] [("r:b", .text "1")] smallWorld =
      .ok [("r:b", "1")] smallWorld from rfl)
    exact exact.unbound _ _ flattened
      ⟨"r", { used := by decide +kernel, undeclared := by decide +kernel, unknown := by decide +kernel }⟩

end Resolve

end MarkupSpec
