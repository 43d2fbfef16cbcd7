import MarkupSpec.Proofs.Build.TargetCourse
import MarkupSpec.Proofs.Namespace.ElementAttributes
import MarkupSpec.Text.Alphanumeric

/-!
# Pairs in processing instructions

The attributes of a processing instruction are written one after the other as pairs of a name and a
value in quotation marks (`writtenPairs`).  Values are written as they are.  So a value may hold
what looks like the end of a value with another pair behind it (`breaksOut`), and then different
attributes have the same content (`not_instructions_apart`).

If no value is such, the quotation mark that ends a value is the first one that the content ends
with or another pair follows (`value_unique`), and there is one way only to read the content
(`writtenPairs_injective`).
-/

namespace MarkupSpec

open Forest Edit Build Text

/-! ## Pairs as they are written -/

/-- A pair as it is written. -/
def writtenPair (pair : String × String) : String := pair.1 ++ "=\x22" ++ pair.2 ++ "\x22"

/-- Pairs as they are written, with blanks between. -/
def writtenPairs (pairs : List (String × String)) : String :=
  " ".intercalate (pairs.map writtenPair)

/-- Is the character a letter, a digit or a hyphen? -/
def isNameChar (c : Char) : Bool := isAlphanumeric c || c == '-'

/-- Is the text a name of letters, digits and hyphens? -/
def isPairName (name : List Char) : Bool := !name.isEmpty && name.all isNameChar

/-- Is this a blank, a name, an equals sign and a quotation mark, and anything behind? -/
def opensPair (chars : List Char) : Bool :=
  match chars with
  | ' ' :: rest =>
      match splitAt? '=' rest with
      | some (name, first :: _) => isPairName name && first == doubleQuote
      | _ => false
  | _ => false

/-- Does a pair open behind some quotation mark? -/
def reopens : List Char → Bool
  | [] => false
  | first :: rest => first == doubleQuote && opensPair rest || reopens rest
termination_by structural chars => chars

/-- Does a value, with the quotation mark that ends it, hold one that a pair opens behind? -/
def breaksOut (value : String) : Bool := reopens (value.toList ++ [doubleQuote])

/-- A pair with a name of letters, digits and hyphens, and a value that does not break out. -/
def IsClean (pair : String × String) : Prop :=
  isPairName pair.1.toList ∧ breaksOut pair.2 = false

instance (pair : String × String) : Decidable (IsClean pair) :=
  inferInstanceAs (Decidable (_ ∧ _))

/-! ## One way to read -/

theorem not_mem_of_isPairName {name : List Char} (named : isPairName name) {mark : Char}
    (noName : isNameChar mark = false) : mark ∉ name := by
  intro among
  have all := List.all_eq_true.mp (Bool.and_eq_true_iff.mp named).2 mark among
  rw [noName] at all
  cases all

theorem opensPair_iff {chars : List Char} : opensPair chars ↔
    ∃ name rest, isPairName name ∧ chars = ' ' :: name ++ '=' :: doubleQuote :: rest := by
  constructor
  · intro opens
    unfold opensPair at opens
    split at opens
    · rename_i rest
      split at opens
      · rename_i name first behind cut
        obtain ⟨named, isMark⟩ := Bool.and_eq_true_iff.mp opens
        obtain ⟨rfl, -⟩ := splitAt?_eq_some_iff.mp cut
        exact ⟨name, behind, named, by rw [beq_iff_eq.mp isMark]; rfl⟩
      · cases opens
    · cases opens
  · rintro ⟨name, rest, named, rfl⟩
    have cut : splitAt? '=' (name ++ '=' :: doubleQuote :: rest) =
        some (name, doubleQuote :: rest) :=
      splitAt?_eq_some_iff.mpr ⟨rfl, not_mem_of_isPairName named (by decide)⟩
    rw [List.cons_append, opensPair, cut]
    simp [named]

theorem reopens_append {front rest : List Char} (opens : opensPair rest) :
    reopens (front ++ doubleQuote :: rest) := by
  induction front with
  | nil => simp [reopens, opens]
  | cons first front ih => simp [reopens, ih]

/-- A text is cut at the first mark in one way only. -/
theorem first_mark_unique {mark : Char} {first first' rest rest' : List Char}
    (noMark : mark ∉ first) (noMark' : mark ∉ first')
    (same : first ++ mark :: rest = first' ++ mark :: rest') : first = first' ∧ rest = rest' := by
  have cut := splitAt?_eq_some_iff.mpr ⟨same, noMark'⟩
  rw [splitAt?_eq_some_iff.mpr ⟨rfl, noMark⟩] at cut
  cases cut
  exact ⟨rfl, rfl⟩

/-- All marks are behind what comes first and has none. -/
theorem exists_between {mark : Char} {first behind front rest : List Char} (noMark : mark ∉ first)
    (split : first ++ behind = front ++ mark :: rest) :
    ∃ between, front = first ++ between ∧ behind = between ++ mark :: rest := by
  rcases List.append_eq_append_iff.mp split with
    ⟨between, isFront, isBehind⟩ | ⟨more, isFirst, isRest⟩
  · exact ⟨between, isFront, isBehind⟩
  · cases more with
    | nil => exact ⟨[], by simpa using isFirst.symm, by simpa using isRest.symm⟩
    | cons next more =>
        cases isRest
        exact absurd (isFirst ▸ List.mem_append_right front List.mem_cons_self) noMark

/-- What opens a pair still does so where it is cut behind a quotation mark. -/
theorem opensPair_of_append {front rest : List Char}
    (opens : opensPair (front ++ doubleQuote :: rest)) : opensPair (front ++ [doubleQuote]) := by
  obtain ⟨name, behind, named, whole⟩ := opensPair_iff.mp opens
  have noMark : doubleQuote ∉ ' ' :: name ++ ['='] := by
    have inName : doubleQuote ∉ name := not_mem_of_isPairName named (by decide)
    have noBlank : doubleQuote ≠ ' ' := by decide
    have noSign : doubleQuote ≠ '=' := by decide
    simp [inName, noBlank, noSign]
  have split : (' ' :: name ++ ['=']) ++ doubleQuote :: behind = front ++ doubleQuote :: rest := by
    simpa using whole.symm
  obtain ⟨between, rfl, isBehind⟩ := exists_between noMark split
  cases between with
  | nil => exact opensPair_iff.mpr ⟨name, [], named, by simp⟩
  | cons first between =>
      cases isBehind
      exact opensPair_iff.mpr ⟨name, between ++ [doubleQuote], named, by simp⟩

/-- Where values do not break out and what is behind them is nothing or opens a pair, the values
end at the same quotation mark. -/
theorem value_unique {value value' rest rest' : List Char}
    (clean : reopens (value ++ [doubleQuote]) = false)
    (clean' : reopens (value' ++ [doubleQuote]) = false)
    (ends : rest = [] ∨ opensPair rest) (ends' : rest' = [] ∨ opensPair rest')
    (same : value ++ doubleQuote :: rest = value' ++ doubleQuote :: rest') :
    value = value' ∧ rest = rest' := by
  -- If one value goes on behind the end of the other, it breaks out there.
  have breaks {short more rest rest' : List Char} (ends : rest = [] ∨ opensPair rest)
      (goesOn : rest = more ++ doubleQuote :: rest') :
      reopens (short ++ doubleQuote :: more ++ [doubleQuote]) := by
    have opens : opensPair (more ++ doubleQuote :: rest') := by
      rcases ends with isEnd | opens
      · simp [isEnd] at goesOn
      · exact goesOn ▸ opens
    rw [List.append_assoc, List.cons_append]
    exact reopens_append (opensPair_of_append opens)
  rcases List.append_eq_append_iff.mp same with ⟨more, isValue, isRest⟩ | ⟨more, isValue, isRest⟩
  · cases more with
    | nil => exact ⟨by simpa using isValue.symm, by simpa using isRest⟩
    | cons first more =>
        cases isRest
        rw [isValue, breaks ends rfl] at clean'
        cases clean'
  · cases more with
    | nil => exact ⟨by simpa using isValue, by simpa using isRest.symm⟩
    | cons first more =>
        cases isRest
        rw [isValue, breaks ends' rfl] at clean
        cases clean

/-! ## Lists of pairs -/

/-- Pairs as they are written behind another one, each with a blank in front. -/
def writtenBehind (pairs : List (String × String)) : List Char :=
  pairs.flatMap fun pair => ' ' :: (writtenPair pair).toList

theorem toList_writtenPair (pair : String × String) : (writtenPair pair).toList =
    pair.1.toList ++ '=' :: doubleQuote :: (pair.2.toList ++ [doubleQuote]) := by
  simp [writtenPair, doubleQuote]

theorem toList_writtenPairs_cons (pair : String × String) (rest : List (String × String)) :
    ' ' :: (writtenPairs (pair :: rest)).toList = writtenBehind (pair :: rest) := by
  induction rest generalizing pair with
  | nil => simp [writtenPairs, writtenBehind]
  | cons next rest ih =>
      have split : writtenPairs (pair :: next :: rest) =
          writtenPair pair ++ " " ++ writtenPairs (next :: rest) := by
        simp [writtenPairs, String.intercalate_cons_cons]
      have blank : " ".toList = [' '] := rfl
      rw [split, String.toList_append, String.toList_append, blank, List.append_assoc,
        List.singleton_append, ih next]
      rfl

theorem writtenBehind_cons (pair : String × String) (rest : List (String × String)) :
    writtenBehind (pair :: rest) = ' ' :: pair.1.toList ++
      '=' :: doubleQuote :: (pair.2.toList ++ doubleQuote :: writtenBehind rest) := by
  simp [writtenBehind, toList_writtenPair]

/-- What is behind a pair is nothing or opens another one. -/
theorem opensPair_writtenBehind {pairs : List (String × String)}
    (clean : ∀ pair ∈ pairs, IsClean pair) :
    writtenBehind pairs = [] ∨ opensPair (writtenBehind pairs) := by
  cases pairs with
  | nil => exact .inl rfl
  | cons pair rest =>
      exact .inr (opensPair_iff.mpr ⟨_, _, (clean pair List.mem_cons_self).1,
        writtenBehind_cons pair rest⟩)

theorem writtenBehind_injective : ∀ {pairs pairs' : List (String × String)},
    (∀ pair ∈ pairs, IsClean pair) → (∀ pair ∈ pairs', IsClean pair) →
    writtenBehind pairs = writtenBehind pairs' → pairs = pairs'
  | [], [], _, _, _ => rfl
  | [], _ :: _, _, _, same => by simp [writtenBehind] at same
  | _ :: _, [], _, _, same => by simp [writtenBehind] at same
  | pair :: rest, pair' :: rest', clean, clean', same => by
      have here := clean pair List.mem_cons_self
      have here' := clean' pair' List.mem_cons_self
      rw [writtenBehind_cons, writtenBehind_cons] at same
      have inName : '=' ∉ pair.1.toList := not_mem_of_isPairName here.1 (by decide)
      have inName' : '=' ∉ pair'.1.toList := not_mem_of_isPairName here'.1 (by decide)
      obtain ⟨isName, behind⟩ := first_mark_unique inName inName' (List.cons.inj same).2
      obtain ⟨isValue, isRest⟩ := value_unique here.2 here'.2
        (opensPair_writtenBehind fun other among => clean other (List.mem_cons_of_mem _ among))
        (opensPair_writtenBehind fun other among => clean' other (List.mem_cons_of_mem _ among))
        (List.cons.inj behind).2
      have samePair : pair = pair' :=
        Prod.ext (String.toList_inj.mp isName) (String.toList_inj.mp isValue)
      rw [samePair, writtenBehind_injective
        (fun other among => clean other (List.mem_cons_of_mem _ among))
        (fun other among => clean' other (List.mem_cons_of_mem _ among)) isRest]

/-- Clean pairs can be read in one way only. -/
theorem writtenPairs_injective {pairs pairs' : List (String × String)}
    (clean : ∀ pair ∈ pairs, IsClean pair) (clean' : ∀ pair ∈ pairs', IsClean pair)
    (same : writtenPairs pairs = writtenPairs pairs') : pairs = pairs' := by
  have nonempty (pair : String × String) (rest : List (String × String)) :
      writtenPairs (pair :: rest) ≠ writtenPairs [] := fun isEmpty => by
    have behind := toList_writtenPairs_cons pair rest
    rw [isEmpty, writtenBehind_cons] at behind
    simp [writtenPairs] at behind
  refine writtenBehind_injective clean clean' ?_
  cases pairs with
  | nil =>
      cases pairs' with
      | nil => rfl
      | cons pair rest => exact absurd same.symm (nonempty pair rest)
  | cons pair rest =>
      cases pairs' with
      | nil => exact absurd same (nonempty pair rest)
      | cons pair' rest' =>
          rw [← toList_writtenPairs_cons, ← toList_writtenPairs_cons, same]

/-! ## Building an instruction -/

/-- The attributes of an instruction are flattened like those of an element, and written. -/
theorem pseudoAttributes_eq (scene : Scene) : ∀ attributes : RawAttributes,
    pseudoAttributes scene attributes = (do
      return (← flattenAttributes pure scene.arguments attributes).map writtenPair)
  | [] => rfl
  | (key, value) :: rest => by
      rw [pseudoAttributes, flattenAttributes, bind_assoc]
      refine bind_congr fun text => ?_
      cases text with
      | none => exact pseudoAttributes_eq scene rest
      | some text =>
          simp only [pseudoAttributes_eq scene rest, pure_bind, bind_assoc]
          rfl

theorem content_of_buildInstruction {scene : Scene} {spec : Spec} {path : List String}
    {children : List Value} {attributes : RawAttributes} {target : String}
    {pairs : List (String × String)} {node : NodeId} {read targeted flat made : World}
    (alone : children.tail = [])
    (isTarget : flatten scene.arguments (children.head?.getD .null) read =
      .ok (some target) targeted)
    (flattens : flattenAttributes pure scene.arguments (Text.sortByText Prod.fst attributes)
      targeted = .ok pairs flat)
    (makes : buildInstruction scene spec path children attributes read = .ok node made) :
    made.forest.content? node = some (.instruction target (writtenPairs pairs)) := by
  unfold buildInstruction at makes
  obtain ⟨text, led, leads, makes⟩ := bind_eq_ok.mp makes
  unfold leadingText at leads
  obtain ⟨first, _, isFirst, leads⟩ := bind_eq_ok.mp leads
  rw [isTarget] at isFirst
  cases isFirst
  cases leads
  rw [alone] at makes
  obtain ⟨texts, _, isTexts, makes⟩ := bind_eq_ok.mp makes
  rw [pseudoAttributes_eq] at isTexts
  obtain ⟨found, _, isFound, same⟩ := bind_eq_ok.mp isTexts
  rw [flattens] at isFound
  cases isFound
  cases same
  obtain ⟨content, _, same, makes⟩ := bind_eq_ok.mp makes
  cases same
  have creates : Ensures (edit (Edit.create scene.document
      (.instruction target (writtenPairs pairs)))) flat
      (fun node made => made.forest.content? node =
        some (.instruction target (writtenPairs pairs))) fun _ _ => True := by
    rw [ensures_edit, ensures_create]
    exact ⟨fun _ => by simp [content?], fun _ => trivial⟩
  exact creates.of_ok makes

section Visit

variable {scene : Scene} {visit : Visit} {target : String} {pairs : List (String × String)}
  {node : NodeId} {R : World → Prop}

/-- The value of a visit is read as a processing instruction with this target and no other child,
and its attributes, by key, come to these pairs. -/
def Visit.Instructs (scene : Scene) (visit : Visit) (target : String)
    (pairs : List (String × String)) : Prop :=
  ∃ children attributes read targeted flat,
    visit.part? scene = some (.instruction children attributes, read) ∧ children.tail = [] ∧
    flatten scene.arguments (children.head?.getD .null) read = .ok (some target) targeted ∧
    flattenAttributes pure scene.arguments (Text.sortByText Prod.fst attributes) targeted =
      .ok pairs flat

/-- What holds once a visit has made a node without parts, if it lasts with the nodes of the forest,
holds at the end of the visit. -/
theorem Visit.ensures_of_leaf {spec : Spec} {read made : World}
    (part : visit.part? scene = some (spec, read)) (isLeaf : spec.isLeaf)
    (makes : makeLeaf scene visit.place.path spec read = .ok node made)
    (lasts : ∀ before after, R before → Lasts before.forest after.forest → R after)
    (holds : R made) (budget : Nat) :
    Ensures (buildWithin scene (budget + 1) visit.value visit.place) visit.world
      (fun _ => R) fun _ => R := by
  rw [Visit.ensures_buildWithin part]
  have same : buildSpec scene (buildWithin scene budget) visit.place spec =
      buildLeaf scene visit.place spec := by
    cases spec <;> first | rfl | cases isLeaf
  rw [same, buildLeaf, MarkupSpec.ensures_bind, Ensures, makes]
  show Ensures _ made _ _
  rw [MarkupSpec.ensures_bind]
  exact (lasts_attach visit.place.target node made).mono
    (fun _ after lasting => lasts made after holds lasting.2)
    fun _ after lasting => lasts made after holds lasting.2

/-- What the instruction that a visit makes has as its content. -/
theorem Visit.Instructs.content (instructs : visit.Instructs scene target pairs)
    (isBuilt : visit.built? scene = some node) :
    ∃ spec read made, visit.part? scene = some (spec, read) ∧ spec.isLeaf ∧
      makeLeaf scene visit.place.path spec read = .ok node made ∧
      made.forest.content? node = some (.instruction target (writtenPairs pairs)) := by
  obtain ⟨children, attributes, read, targeted, flat, part, alone, isTarget, flattens⟩ := instructs
  have notMade := Visit.made?_of_part? part fun _ _ _ => nofun
  cases makes : makeLeaf scene visit.place.path (.instruction children attributes) read with
  | error cause made => simp [Visit.built?, notMade, part, makes, Spec.isLeaf] at isBuilt
  | ok built made =>
      obtain rfl : built = node := by
        simpa [Visit.built?, notMade, part, makes, Spec.isLeaf] using isBuilt
      refine ⟨_, read, made, part, rfl, makes, ?_⟩
      exact content_of_buildInstruction alone isTarget flattens makes

end Visit

/-! ## Instructions of builds -/

/-- An instruction has nothing that may change. -/
theorem Forest.Lasts.instruction {before after : Forest} (lasts : Lasts before after) {id : NodeId}
    {target content : String} (there : before.content? id = some (.instruction target content)) :
    after.content? id = some (.instruction target content) := by
  have inside : id < before.size := by
    by_contra beyond
    rw [content?_eq_none (Nat.le_of_not_lt beyond)] at there
    cases there
  have same := lasts.content id inside
  rw [there] at same
  obtain ⟨found, isFound, sameLasting⟩ := Option.map_eq_some_iff.mp same
  rw [isFound]
  cases found <;> simp_all [Content.lasting]

/-- A build, and one of the visits in it that make a processing instruction of attributes alone,
with the pairs that these come to. -/
structure Instructing where
  settings : Settings
  spec : Value
  where? : Option (Mode × Value)
  document : Value
  arguments : Value
  before : World
  start : World
  task : Task
  visit : Visit
  node : NodeId
  target : String
  pairs : List (String × String)
  prepared : prepare settings where? document arguments before = .ok task start
  among : visit ∈ task.visits spec start
  isBuilt : visit.built? task.scene = some node
  instructs : visit.Instructs task.scene target pairs

namespace Instructing

/-- However the build ends, the instruction has the target and this content. -/
def HasContent (made : Instructing) (content : String) : Prop :=
  Ensures (compile made.settings made.spec made.where? made.document made.arguments) made.before
    (fun _ after => after.forest.content? made.node = some (.instruction made.target content))
    fun _ after => after.forest.content? made.node = some (.instruction made.target content)

theorem hasContent (made : Instructing) : made.HasContent (writtenPairs made.pairs) := by
  obtain ⟨spec, read, after, part, isLeaf, makes, there⟩ := made.instructs.content made.isBuilt
  have lasts (first later : World) (there : first.forest.content? made.node =
      some (.instruction made.target (writtenPairs made.pairs)))
      (lasting : Lasts first.forest later.forest) : later.forest.content? made.node =
      some (.instruction made.target (writtenPairs made.pairs)) := lasting.instruction there
  have built := ensures_of_visit lasts (Visit.ensures_of_leaf part isLeaf makes lasts there)
    made.task.scene.settings.budget _ made.among
  rw [(scene_of_prepare made.prepared).1] at built
  unfold HasContent compile compileWithin
  rw [MarkupSpec.ensures_bind, Ensures, made.prepared]
  show Ensures _ made.start _ _
  rw [MarkupSpec.ensures_bind]
  exact built.mono (fun _ _ there => there) fun _ _ there => there

/-- An instruction has one content. -/
theorem HasContent.unique {made : Instructing} {content content' : String}
    (has : made.HasContent content) (has' : made.HasContent content') : content = content' := by
  unfold HasContent Ensures at has has'
  split at has <;> simp_all

end Instructing

/-- Pairs are read from a content: they are clean, and what is written. -/
def IsReading (pairs : List (String × String)) (content : String) : Prop :=
  (∀ pair ∈ pairs, IsClean pair) ∧ writtenPairs pairs = content

/-- Two processing instructions of attributes alone that come to different pairs have different
contents, however their builds end, and each content can be read in one way only.  The names are
letters, digits and hyphens, and no value holds, with the quotation mark that ends it, a quotation
mark that another pair opens behind. -/
theorem instructions_apart (first second : Instructing)
    (clean : ∀ pair ∈ first.pairs, IsClean pair) (clean' : ∀ pair ∈ second.pairs, IsClean pair)
    (differ : ∃ key, first.pairs.lookup key ≠ second.pairs.lookup key) :
    ∃ content content', content ≠ content' ∧
      first.HasContent content ∧ second.HasContent content' ∧
      (∀ pairs, IsReading pairs content ↔ pairs = first.pairs) ∧
      ∀ pairs, IsReading pairs content' ↔ pairs = second.pairs := by
  have reads (made : Instructing) (clean : ∀ pair ∈ made.pairs, IsClean pair)
      (pairs : List (String × String)) :
      IsReading pairs (writtenPairs made.pairs) ↔ pairs = made.pairs := by
    constructor
    · rintro ⟨others, same⟩
      exact writtenPairs_injective others clean same
    · rintro rfl
      exact ⟨clean, rfl⟩
  refine ⟨_, _, fun same => ?_, first.hasContent, second.hasContent, reads first clean,
    reads second clean'⟩
  obtain ⟨key, differs⟩ := differ
  exact differs (by rw [writtenPairs_injective clean clean' same])

/-- A processing instruction with these attributes. -/
def instructionMap (attributes : List (String × String)) : Value :=
  .map ((.null, .list [.text "#pi", .text "t"]) ::
    attributes.map fun (key, value) => (.text key, .text value))

/-- The first visit of the build of such a map before the text. -/
def instructionVisit (attributes : List (String × String)) : Visit where
  value := instructionMap attributes
  place := { target := (smallTask .before).target }
  world := smallWorld

/-- The build of such a map. -/
def smallInstructing (attributes : List (String × String))
    (isBuilt : (instructionVisit attributes).built? (smallTask .before).scene = some 3)
    (instructs : (instructionVisit attributes).Instructs (smallTask .before).scene "t" attributes) :
    Instructing where
  settings := {}
  spec := instructionMap attributes
  where? := some (.before, .node 2)
  document := .null
  arguments := .list []
  before := smallWorld
  start := smallWorld
  task := smallTask .before
  visit := instructionVisit attributes
  node := 3
  target := "t"
  pairs := attributes
  prepared := rfl
  among := List.mem_cons_self
  isBuilt := isBuilt
  instructs := instructs

/-- An instruction with two attributes. -/
def twoAttributes : Instructing :=
  smallInstructing [("a", "x"), ("b", "y")] (by decide +kernel) ⟨_, _, _, _, _, rfl, rfl, rfl, rfl⟩

/-- An instruction with one attribute, whose value ends with a quotation mark and has another one in
it with a blank behind. -/
def quotingAttribute : Instructing :=
  smallInstructing [("a", "x\x22 b=y\x22")] (by decide +kernel) ⟨_, _, _, _, _, rfl, rfl, rfl, rfl⟩

/-- An instruction with one attribute, whose value breaks out. -/
def breakingAttribute : Instructing :=
  smallInstructing [("a", "x\x22 b=\x22y")] (by decide +kernel) ⟨_, _, _, _, _, rfl, rfl, rfl, rfl⟩

/-- The value with quotation marks is not taken for two attributes. -/
theorem instructions_apart_quoting :
    (∀ pair ∈ twoAttributes.pairs, IsClean pair) ∧
    (∀ pair ∈ quotingAttribute.pairs, IsClean pair) ∧
    (∃ key, twoAttributes.pairs.lookup key ≠ quotingAttribute.pairs.lookup key) ∧
    ∃ content content', content ≠ content' ∧
      twoAttributes.HasContent content ∧ quotingAttribute.HasContent content' ∧
      (∀ pairs, IsReading pairs content ↔ pairs = twoAttributes.pairs) ∧
      ∀ pairs, IsReading pairs content' ↔ pairs = quotingAttribute.pairs := by
  have clean : ∀ pair ∈ twoAttributes.pairs, IsClean pair := by decide +kernel
  have clean' : ∀ pair ∈ quotingAttribute.pairs, IsClean pair := by decide +kernel
  have differ : ∃ key, twoAttributes.pairs.lookup key ≠ quotingAttribute.pairs.lookup key :=
    ⟨"b", by decide +kernel⟩
  exact ⟨clean, clean', differ, instructions_apart _ _ clean clean' differ⟩

/-- Without more said of the values, different pairs may have the same content: that with the value
that breaks out is the one with two attributes. -/
theorem not_instructions_apart :
    ¬ ∀ first second : Instructing, first.target = second.target →
      (∀ pair ∈ first.pairs, isPairName pair.1.toList) →
      (∀ pair ∈ second.pairs, isPairName pair.1.toList) →
      (∃ key, first.pairs.lookup key ≠ second.pairs.lookup key) →
      ∃ content content', content ≠ content' ∧
        first.HasContent content ∧ second.HasContent content' := by
  intro law
  obtain ⟨content, content', differ, has, has'⟩ := law twoAttributes breakingAttribute rfl
    (by decide +kernel) (by decide +kernel) ⟨"b", by decide +kernel⟩
  have same : writtenPairs twoAttributes.pairs = writtenPairs breakingAttribute.pairs := by
    decide +kernel
  rw [has.unique twoAttributes.hasContent, has'.unique breakingAttribute.hasContent] at differ
  exact differ same

end MarkupSpec
