import MarkupSpec.Proofs.Run.EvenWorlds

/-!
# Values under other numbers

Functions, things, streams and floats that are no number have numbers of their own.  A value is
renumbered if these are exchanged for other ones (`Value.renumbered`).  It is written as before
and has the shape that it had.  It is the same key as another value if it was so before both were
renumbered, as long as different numbers stay different (`Renumbering.Faithful`).  So what is put
together from renumbered values is what was put together before, renumbered.

A value is still if it holds no stream, and the numbers and the nodes in it pass tests
(`Value.isStill`).  It is left alone where these numbers are not exchanged
(`Value.renumbered_of_isStill`), and what was made earlier has smaller numbers
(`Value.predates`).
-/

namespace MarkupSpec

/-- Other numbers for functions, things and floats that are no number, and for streams. -/
structure Renumbering where
  id : Nat → Nat
  stream : Nat → Nat

/-- Different numbers stay different. -/
structure Renumbering.Faithful (numbers : Renumbering) : Prop where
  id : ∀ {first second}, numbers.id first = numbers.id second ↔ first = second
  stream : ∀ {first second}, numbers.stream first = numbers.stream second ↔ first = second

namespace Renumbering.Faithful

variable {numbers : Renumbering} (faithful : numbers.Faithful) (first second : Nat)

include faithful

theorem beq_id : (numbers.id first == numbers.id second) = (first == second) := by
  rw [Bool.eq_iff_iff, beq_iff_eq, beq_iff_eq, faithful.id]

theorem beq_stream : (numbers.stream first == numbers.stream second) = (first == second) := by
  rw [Bool.eq_iff_iff, beq_iff_eq, beq_iff_eq, faithful.stream]

end Renumbering.Faithful

namespace Value

mutual

/-- The value with other numbers. -/
def renumbered (numbers : Renumbering) : Value → Value
  | .nan id => .nan (numbers.id id)
  | .list items => .list (renumberedAll numbers items)
  | .tuple items => .tuple (renumberedAll numbers items)
  | .set isFrozen members => .set isFrozen (renumberedAll numbers members)
  | .map entries => .map (renumberedEntries numbers entries)
  | .stream id => .stream (numbers.stream id)
  | .thing id content => .thing (numbers.id id) content
  | .function callee => .function { callee with id := numbers.id callee.id }
  | value => value
termination_by structural value => value

def renumberedAll (numbers : Renumbering) : List Value → List Value
  | [] => []
  | value :: rest => renumbered numbers value :: renumberedAll numbers rest
termination_by structural values => values

def renumberedEntries (numbers : Renumbering) : List (Value × Value) → List (Value × Value)
  | [] => []
  | (key, value) :: rest =>
      (renumbered numbers key, renumbered numbers value) :: renumberedEntries numbers rest
termination_by structural entries => entries

end

mutual

/-- Does the value hold no stream, do the numbers of the functions, the things and the floats that
are no number in it pass a test, and do the nodes in it pass another one? -/
def isStill (ids : Nat → Bool) (nodes : NodeId → Bool) : Value → Bool
  | .nan id | .thing id _ => ids id
  | .function callee => ids callee.id
  | .node id => nodes id
  | .stream _ => false
  | .list items | .tuple items | .set _ items => areStill ids nodes items
  | .map entries => entriesStill ids nodes entries
  | _ => true
termination_by structural value => value

def areStill (ids : Nat → Bool) (nodes : NodeId → Bool) : List Value → Bool
  | [] => true
  | value :: rest => isStill ids nodes value && areStill ids nodes rest
termination_by structural values => values

def entriesStill (ids : Nat → Bool) (nodes : NodeId → Bool) : List (Value × Value) → Bool
  | [] => true
  | (key, value) :: rest =>
      isStill ids nodes key && isStill ids nodes value && entriesStill ids nodes rest
termination_by structural entries => entries

end

/-- Does the value hold no stream, and was all that has a number in it made before that number was
next? -/
def predates (nextId : Nat) (value : Value) : Bool :=
  value.isStill (· < nextId) fun _ => true

/-- Does the value hold no stream, and is each node in it there? -/
def isAtHand (forest : Forest) (value : Value) : Bool :=
  value.isStill (fun _ => true) (· < forest.size)

section Renumbered

variable {numbers : Renumbering}

@[simp]
theorem renumberedAll_eq_map (values : List Value) :
    renumberedAll numbers values = values.map (renumbered numbers) := by
  induction values with
  | nil => rfl
  | cons value rest ih => simp [renumberedAll, ih]

@[simp]
theorem renumberedEntries_eq_map (entries : Entries) : renumberedEntries numbers entries =
    entries.map fun entry => (entry.1.renumbered numbers, entry.2.renumbered numbers) := by
  induction entries with
  | nil => rfl
  | cons entry rest ih => simp [renumberedEntries, ih]

/-! ## What does not depend on numbers -/

mutual

/-- A value is written as before it was renumbered. -/
@[simp]
theorem quoted_renumbered (describe : NodeId → String) :
    ∀ value : Value, (value.renumbered numbers).quoted describe = value.quoted describe
  | .list items | .tuple items | .set _ items => by
      simp only [renumbered, quoted, quotedAll_renumbered describe items]
  | .map entries => by simp only [renumbered, quoted, quotedEntries_renumbered describe entries]
  | .null | .bool _ | .int _ | .float _ | .nan _ | .text _ | .bytes .. | .range .. | .stream _
  | .thing .. | .function _ | .node _ => rfl
termination_by structural value => value

theorem quotedAll_renumbered (describe : NodeId → String) : ∀ values : List Value,
    quotedAll describe (renumberedAll numbers values) = quotedAll describe values
  | [] => rfl
  | value :: rest => by
      simp only [renumberedAll, quotedAll, quoted_renumbered describe value,
        quotedAll_renumbered describe rest]
termination_by structural values => values

theorem quotedEntries_renumbered (describe : NodeId → String) :
    ∀ entries : List (Value × Value),
      quotedEntries describe (renumberedEntries numbers entries) = quotedEntries describe entries
  | [] => rfl
  | (key, value) :: rest => by
      simp only [renumberedEntries, quotedEntries, quoted_renumbered describe key,
        quoted_renumbered describe value, quotedEntries_renumbered describe rest]
termination_by structural entries => entries

end

@[simp]
theorem plain_renumbered (describe : NodeId → String) (value : Value) :
    (value.renumbered numbers).plain describe = value.plain describe := by
  cases value with
  | text | thing => rfl
  | _ => exact quoted_renumbered describe _

@[simp]
theorem isAbsent_renumbered (value : Value) :
    (value.renumbered numbers).isAbsent = value.isAbsent := by
  cases value with
  | list items | tuple items => cases items <;> rfl
  | map entries => cases entries <;> rfl
  | _ => rfl

@[simp]
theorem isCountable_renumbered (value : Value) :
    (value.renumbered numbers).isCountable = value.isCountable := by
  cases value <;> rfl

@[simp]
theorem asInt?_renumbered (value : Value) : asInt? (value.renumbered numbers) = asInt? value := by
  cases value <;> rfl

mutual

@[simp]
theorem isKey_renumbered : ∀ value : Value, (value.renumbered numbers).isKey = value.isKey
  | .tuple items => areKeys_renumbered items
  | .set isFrozen _ => by cases isFrozen <;> rfl
  | .bytes isMutable _ => by cases isMutable <;> rfl
  | .list _ | .map _ | .null | .bool _ | .int _ | .float _ | .nan _ | .text _ | .range ..
  | .stream _ | .thing .. | .function _ | .node _ => rfl
termination_by structural value => value

theorem areKeys_renumbered : ∀ values : List Value,
    areKeys (renumberedAll numbers values) = areKeys values
  | [] => rfl
  | value :: rest => by
      simp only [renumberedAll, areKeys, isKey_renumbered value, areKeys_renumbered rest]
termination_by structural values => values

end

@[simp]
theorem standsBefore_renumbered (first second : Value) :
    standsBefore (first.renumbered numbers) (second.renumbered numbers) =
      standsBefore first second := by
  simp only [standsBefore, asInt?_renumbered]

theorem insertMember_renumbered (new : Value) (members : List Value) :
    insertMember (new.renumbered numbers) (members.map (renumbered numbers)) =
      (insertMember new members).map (renumbered numbers) := by
  induction members with
  | nil => rfl
  | cons old rest ih =>
      simp only [List.map_cons, insertMember, standsBefore_renumbered]
      split
      · rfl
      · simp only [List.map_cons, ih]

/-! ## Keys -/

mutual

/-- Renumbered values are the same key if they were so before. -/
theorem sameKey_renumbered (faithful : numbers.Faithful) : ∀ first second : Value,
    sameKey (first.renumbered numbers) (second.renumbered numbers) = sameKey first second
  | .tuple items, second => by
      cases second with
      | tuple others => exact sameKeys_renumbered faithful items others
      | _ => rfl
  | .set _ members, second => by
      cases second with
      | set _ others =>
          have among := allAmong_renumbered faithful members others
          rw [renumberedAll_eq_map, renumberedAll_eq_map] at among
          simp only [renumbered, sameKey, renumberedAll_eq_map, List.length_map, among]
      | _ => rfl
  | .nan id, second => by
      cases second with
      | nan other => exact faithful.beq_id id other
      | _ => rfl
  | .stream id, second => by
      cases second with
      | stream other => exact faithful.beq_stream id other
      | _ => rfl
  | .thing id _, second => by
      cases second with
      | thing other => exact faithful.beq_id id other
      | _ => rfl
  | .function callee, second => by
      cases second with
      | function other => exact faithful.beq_id callee.id other.id
      | _ => rfl
  | .null, second | .bool _, second | .int _, second | .float _, second | .text _, second
  | .bytes .., second | .range .., second | .list _, second | .map _, second
  | .node _, second => by cases second <;> rfl
termination_by structural first => first

theorem sameKeys_renumbered (faithful : numbers.Faithful) : ∀ firsts seconds : List Value,
    sameKeys (renumberedAll numbers firsts) (renumberedAll numbers seconds) =
      sameKeys firsts seconds
  | [], seconds => by cases seconds <;> rfl
  | first :: rest, seconds => by
      cases seconds with
      | nil => rfl
      | cons second others =>
          simp only [renumberedAll, sameKeys, sameKey_renumbered faithful first second,
            sameKeys_renumbered faithful rest others]
termination_by structural firsts => firsts

theorem allAmong_renumbered (faithful : numbers.Faithful) : ∀ values others : List Value,
    allAmong (renumberedAll numbers values) (renumberedAll numbers others) = allAmong values others
  | [], _ => rfl
  | value :: rest, others => by
      simp only [renumberedAll, allAmong, allAmong_renumbered faithful rest others]
      rw [renumberedAll_eq_map, List.any_map]
      congr 2
      funext other
      exact sameKey_renumbered faithful value other
termination_by structural values => values

end

theorem addMember_renumbered (faithful : numbers.Faithful) (member : Value) (members : List Value) :
    addMember (member.renumbered numbers) (members.map (renumbered numbers)) =
      (addMember member members).map (renumbered numbers) := by
  have among : (members.map (renumbered numbers)).any (sameKey · (member.renumbered numbers)) =
      members.any (sameKey · member) := by
    simp only [List.any_map, Function.comp_def, sameKey_renumbered faithful]
  unfold addMember
  rw [among]
  split
  · rfl
  · exact insertMember_renumbered member members

theorem put_renumbered (faithful : numbers.Faithful) (key value : Value) (entries : Entries) :
    put (key.renumbered numbers) (value.renumbered numbers) (renumberedEntries numbers entries) =
      renumberedEntries numbers (put key value entries) := by
  induction entries with
  | nil => rfl
  | cons entry rest ih =>
      obtain ⟨other, old⟩ := entry
      simp only [renumberedEntries, put, sameKey_renumbered faithful]
      split
      · rfl
      · simp only [renumberedEntries, ih]

/-! ## Still values -/

section Still

variable {ids : Nat → Bool} {nodes : NodeId → Bool}

theorem areStill_iff {items : List Value} :
    areStill ids nodes items ↔ ∀ item ∈ items, item.isStill ids nodes := by
  induction items with
  | nil => simp [areStill]
  | cons item rest ih => simp [areStill, ih]

theorem entriesStill_iff {entries : Entries} : entriesStill ids nodes entries ↔
    ∀ entry ∈ entries, entry.1.isStill ids nodes ∧ entry.2.isStill ids nodes := by
  induction entries with
  | nil => simp [entriesStill]
  | cons entry rest ih => simp [entriesStill, ih, and_assoc]

mutual

/-- A value is left alone if it holds no stream and its numbers are not exchanged. -/
theorem renumbered_of_isStill (same : ∀ id, ids id → numbers.id id = id) :
    ∀ value : Value, value.isStill ids nodes → value.renumbered numbers = value
  | .list items, still | .tuple items, still | .set _ items, still => by
      simp only [renumbered, renumberedAll_of_areStill same items still]
  | .map entries, still => by
      simp only [renumbered, renumberedEntries_of_entriesStill same entries still]
  | .nan id, still => congrArg Value.nan (same id still)
  | .thing id content, still => congrArg (Value.thing · content) (same id still)
  | .function callee, still => by simp only [renumbered, same callee.id still]
  | .null, _ | .bool _, _ | .int _, _ | .float _, _ | .text _, _ | .bytes .., _ | .range .., _
  | .node _, _ => rfl
termination_by structural value => value

theorem renumberedAll_of_areStill (same : ∀ id, ids id → numbers.id id = id) :
    ∀ values : List Value, areStill ids nodes values → renumberedAll numbers values = values
  | [], _ => rfl
  | value :: rest, still => by
      simp only [areStill, Bool.and_eq_true] at still
      simp only [renumberedAll, renumbered_of_isStill same value still.1,
        renumberedAll_of_areStill same rest still.2]
termination_by structural values => values

theorem renumberedEntries_of_entriesStill (same : ∀ id, ids id → numbers.id id = id) :
    ∀ entries : List (Value × Value),
      entriesStill ids nodes entries → renumberedEntries numbers entries = entries
  | [], _ => rfl
  | (key, value) :: rest, still => by
      simp only [entriesStill, Bool.and_eq_true] at still
      simp only [renumberedEntries, renumbered_of_isStill same key still.1.1,
        renumbered_of_isStill same value still.1.2,
        renumberedEntries_of_entriesStill same rest still.2]
termination_by structural entries => entries

end

mutual

/-- Where no stream is, none is set aside. -/
theorem isClear_of_isStill (terms : Terms) :
    ∀ value : Value, value.isStill ids nodes → value.isClear terms
  | .list items, still | .tuple items, still | .set _ items, still =>
      areClear_of_areStill terms items still
  | .map entries, still => entriesClear_of_entriesStill terms entries still
  | .null, _ | .bool _, _ | .int _, _ | .float _, _ | .nan _, _ | .text _, _ | .bytes .., _
  | .range .., _ | .thing .., _ | .function _, _ | .node _, _ => rfl
termination_by structural value => value

theorem areClear_of_areStill (terms : Terms) :
    ∀ values : List Value, areStill ids nodes values → areClear terms values
  | [], _ => rfl
  | value :: rest, still => by
      simp only [areStill, Bool.and_eq_true] at still
      simp only [areClear, isClear_of_isStill terms value still.1,
        areClear_of_areStill terms rest still.2, Bool.and_self]
termination_by structural values => values

theorem entriesClear_of_entriesStill (terms : Terms) : ∀ entries : List (Value × Value),
    entriesStill ids nodes entries → entriesClear terms entries
  | [], _ => rfl
  | (key, value) :: rest, still => by
      simp only [entriesStill, Bool.and_eq_true] at still
      simp only [entriesClear, isClear_of_isStill terms key still.1.1,
        isClear_of_isStill terms value still.1.2,
        entriesClear_of_entriesStill terms rest still.2, Bool.and_self]
termination_by structural entries => entries

end

mutual

/-- A value is written in the same way if the nodes in it are. -/
theorem quoted_of_isStill {describe describe' : NodeId → String}
    (same : ∀ id, nodes id → describe' id = describe id) :
    ∀ value : Value, value.isStill ids nodes → value.quoted describe' = value.quoted describe
  | .list items, still | .tuple items, still | .set _ items, still => by
      simp only [quoted, quotedAll_of_areStill same items still]
  | .map entries, still => by simp only [quoted, quotedEntries_of_entriesStill same entries still]
  | .node id, still => same id still
  | .null, _ | .bool _, _ | .int _, _ | .float _, _ | .nan _, _ | .text _, _ | .bytes .., _
  | .range .., _ | .thing .., _ | .function _, _ => rfl
termination_by structural value => value

theorem quotedAll_of_areStill {describe describe' : NodeId → String}
    (same : ∀ id, nodes id → describe' id = describe id) :
    ∀ values : List Value, areStill ids nodes values →
      quotedAll describe' values = quotedAll describe values
  | [], _ => rfl
  | value :: rest, still => by
      simp only [areStill, Bool.and_eq_true] at still
      simp only [quotedAll, quoted_of_isStill same value still.1,
        quotedAll_of_areStill same rest still.2]
termination_by structural values => values

theorem quotedEntries_of_entriesStill {describe describe' : NodeId → String}
    (same : ∀ id, nodes id → describe' id = describe id) :
    ∀ entries : List (Value × Value), entriesStill ids nodes entries →
      quotedEntries describe' entries = quotedEntries describe entries
  | [], _ => rfl
  | (key, value) :: rest, still => by
      simp only [entriesStill, Bool.and_eq_true] at still
      simp only [quotedEntries, quoted_of_isStill same key still.1.1,
        quoted_of_isStill same value still.1.2, quotedEntries_of_entriesStill same rest still.2]
termination_by structural entries => entries

end

end Still

end Renumbered

end Value

theorem inherited_isAtHand (forest : Forest) : Inherited fun value => value.isAtHand forest where
  list := Value.areStill_iff
  tuple := Value.areStill_iff
  set := Value.areStill_iff
  map := Value.entriesStill_iff
  bare := by
    intro value isBare
    cases value with
    | list | tuple | set | map | stream | function | node => cases isBare
    | _ => rfl

end MarkupSpec
