import Pushdown.Coding.Conditions
import Pushdown.Proofs.Coding.Lawful
import Pushdown.Proofs.Predicate.Building
import Pushdown.Proofs.Value.Comparison

/-! # Reading back conditions and sort orders

Values, operands, sort keys and sort orders are all read back. Tests and predicates are read back
when they are well formed, and only well-formed ones are read: writing and reading go by the same
tree, and reading repeats the checks of the constructors at every node.
-/

namespace Pushdown

namespace Decoded

variable {α β : Type}

theorem bind_ok (part : α) (next : α → Decoded β) :
    ((.ok part : Decoded α) >>= next) = next part := rfl

theorem bind_eq_ok_iff {read : Decoded α} {next : α → Decoded β} {value : β} :
    (read >>= next) = .ok value ↔ ∃ part, read = .ok part ∧ next part = .ok value := by
  cases read with
  | error failure => exact iff_of_false nofun fun ⟨_, impossible, _⟩ => nomatch impossible
  | ok part => exact ⟨fun found => ⟨part, rfl, found⟩, fun ⟨_, rfl, found⟩ => found⟩

theorem map_eq_ok_iff {read : Decoded α} {image : α → β} {value : β} :
    read.map image = .ok value ↔ ∃ part, read = .ok part ∧ image part = value := by
  cases read with
  | error failure => exact iff_of_false nofun fun ⟨_, impossible, _⟩ => nomatch impossible
  | ok part =>
      change Except.ok (image part) = _ ↔ _
      rw [Except.ok.injEq]
      exact ⟨fun same => ⟨part, rfl, same⟩, fun ⟨_, rfl, same⟩ => same⟩

theorem checked_eq_ok_iff {result : Except Failure α} {value : α} :
    checked result = .ok value ↔ result = .ok value := by
  cases result with
  | error failure => exact iff_of_false nofun nofun
  | ok other => exact ⟨fun | rfl => rfl, fun | rfl => rfl⟩

end Decoded

/-! ## Choices -/

instance : LawfulJsonCoded Inclusion :=
  .ofNames fun value => by cases value <;> rfl

instance : LawfulJsonCoded FieldTest.Kind :=
  .ofNames fun value => by cases value <;> rfl

instance : LawfulJsonCoded Connective :=
  .ofNames fun value => by cases value <;> rfl

instance : LawfulJsonCoded Direction :=
  .ofNames fun value => by cases value <;> rfl

instance : LawfulJsonCoded NullPlacement :=
  .ofNames fun value => by cases value <;> rfl

/-! ## Values and operands -/

namespace Value

theorem ofJsonItems_toJsonItems (items : List Value)
    (each : ∀ item ∈ items, ofJson item.toJson = .ok item) :
    ofJsonItems (toJsonItems items) = .ok items := by
  induction items with
  | nil => rfl
  | cons item rest hyp =>
      have tail := hyp fun other member => each other (List.mem_cons_of_mem item member)
      rw [toJsonItems, ofJsonItems, each item List.mem_cons_self, tail]
      rfl

theorem ofJson_toJson (value : Value) : ofJson value.toJson = .ok value := by
  induction value using itemwise with
  | atom value plain =>
      cases value with
      | null => rfl
      | bool value => rfl
      | int value =>
          change (decode (encode value)).map int = _
          rw [decode_encode]
          rfl
      | uint value =>
          change (decode (encode value)).map uint = _
          rw [decode_encode]
          rfl
      | float value => rfl
      | text value => rfl
      | list items => exact (plain items rfl).elim
  | list items hyp =>
      change (ofJsonItems (toJsonItems items)).map list = _
      rw [ofJsonItems_toJsonItems items hyp]
      rfl

instance : LawfulJsonCoded Value := ⟨ofJson_toJson⟩

end Value

namespace Operand

instance : LawfulJsonCoded Operand where
  decode_encode operand := by
    cases operand with
    | value single =>
        change (decode (encode single)).map value = _
        rw [decode_encode]
        rfl
    | range start stop inclusion =>
        have parts : decode (encode (range start stop inclusion)) =
            (decode (encode start) >>= fun start => decode (encode stop) >>= fun stop =>
              decode (encode inclusion) >>= fun inclusion => .ok (range start stop inclusion)) := rfl
        rw [parts, decode_encode, decode_encode, decode_encode]
        rfl
    | set values =>
        change (decode (encode values)).map set = _
        rw [decode_encode]
        rfl

end Operand

/-! ## Tests -/

namespace FieldTest

theorem ofJson_toJson {test : FieldTest} (built : test.Built) : ofJson test.toJson = .ok test := by
  have parts : ofJson test.toJson =
      (decode (encode test.field) >>= fun field => decode (encode test.kind) >>= fun kind =>
        decode (encode test.operand) >>= fun operand =>
          Decoded.checked (of? field kind operand)) := rfl
  rw [parts, decode_encode, decode_encode, decode_encode]
  exact Decoded.checked_eq_ok_iff.mpr (of?_eq_ok_iff.mpr ⟨built_iff.mp built, rfl⟩)

/-- Only tests that can be built are read. -/
theorem built_of_ofJson {json : Json} {test : FieldTest} (found : ofJson json = .ok test) :
    test.Built := by
  unfold ofJson at found
  split at found
  · obtain ⟨field, -, found⟩ := Decoded.bind_eq_ok_iff.mp found
    obtain ⟨kind, -, found⟩ := Decoded.bind_eq_ok_iff.mp found
    obtain ⟨operand, -, found⟩ := Decoded.bind_eq_ok_iff.mp found
    exact .of field kind operand test (Decoded.checked_eq_ok_iff.mp found)
  · cases found

end FieldTest

/-! ## Predicates -/

namespace Predicate

theorem ofJsonMembers_toJsonMembers (members : List Predicate)
    (each : ∀ member ∈ members, ofJson member.toJson = .ok member) :
    ofJsonMembers (toJsonMembers members) = .ok members := by
  induction members with
  | nil => rw [toJsonMembers, ofJsonMembers]
  | cons member rest hyp =>
      have tail := hyp fun other present => each other (List.mem_cons_of_mem member present)
      rw [toJsonMembers, ofJsonMembers, each member List.mem_cons_self, tail]
      rfl

theorem groupOf_eq_ok_iff {json : Json} {read : Decoded (List Predicate)} {predicate : Predicate} :
    groupOf json read = .ok predicate ↔
      ∃ members, read = .ok members ∧ ∃ connective, decode json = .ok connective ∧
        members ≠ [] ∧ predicate = .group connective members := by
  simp only [groupOf, Decoded.bind_eq_ok_iff, Decoded.checked_eq_ok_iff, group?_eq_ok_iff]

theorem groupOfJson_groupJson {connective : Connective} {members : List Predicate}
    (nonempty : members ≠ []) (each : ∀ member ∈ members, ofJson member.toJson = .ok member) :
    groupOfJson (groupJson connective members) = .ok (.group connective members) := by
  have parts : groupOfJson (groupJson connective members) =
      groupOf (encode connective) (ofJsonMembers (toJsonMembers members)) := by
    simp [groupOfJson, groupJson, membersOfFields, membersOfJson, List.lookup_cons]
  rw [parts, groupOf_eq_ok_iff]
  exact ⟨members, ofJsonMembers_toJsonMembers members each, connective, decode_encode connective,
    nonempty, rfl⟩

theorem ofJson_toJson {predicate : Predicate} (formed : predicate.WellFormed) :
    ofJson predicate.toJson = .ok predicate := by
  induction formed with
  | test leaf fits =>
      have read : (decode (encode leaf) : Decoded FieldTest) = .ok leaf :=
        FieldTest.ofJson_toJson (FieldTest.built_iff.mpr fits)
      rw [toJson, ofJson, read]
      rfl
  | group connective members nonempty each hyp =>
      rw [toJson, ofJson]
      exact groupOfJson_groupJson nonempty hyp

/-! ### What is read -/

/-- A predicate that some JSON value is read as. -/
def IsRead (predicate : Predicate) : Prop :=
  ∃ json, ofJson json = .ok predicate

theorem isRead_of_ofJsonMembers {items : List Json} {members : List Predicate}
    (found : ofJsonMembers items = .ok members) : ∀ member ∈ members, member.IsRead := by
  induction items generalizing members with
  | nil =>
      rw [ofJsonMembers] at found
      cases found
      exact nofun
  | cons json rest hyp =>
      rw [ofJsonMembers] at found
      split at found
      · cases found
      · rename_i first read
        obtain ⟨others, later, rfl⟩ := Decoded.map_eq_ok_iff.mp found
        exact List.forall_mem_cons.mpr ⟨⟨json, read⟩, hyp later⟩

theorem isRead_of_membersOfJson {json : Json} {members : List Predicate}
    (found : membersOfJson json = .ok members) : ∀ member ∈ members, member.IsRead := by
  unfold membersOfJson at found
  split at found
  · exact isRead_of_ofJsonMembers found
  · cases found

theorem isRead_of_membersOfFields {fields : List (String × Json)} {members : List Predicate}
    (found : membersOfFields fields = some (.ok members)) :
    ∀ member ∈ members, member.IsRead := by
  induction fields with
  | nil =>
      rw [membersOfFields] at found
      cases found
  | cons field rest hyp =>
      obtain ⟨name, json⟩ := field
      rw [membersOfFields] at found
      split at found
      · exact isRead_of_membersOfJson (Option.some.inj found)
      · exact hyp found

/-- What is read as a group is a group with members, and all of them have been read. -/
theorem members_of_groupOfJson {json : Json} {predicate : Predicate}
    (found : groupOfJson json = .ok predicate) :
    ∃ connective members, predicate = .group connective members ∧ members ≠ [] ∧
      ∀ member ∈ members, member.IsRead := by
  unfold groupOfJson at found
  split at found
  · split at found
    · rename_i fields members connective given named
      obtain ⟨members, rfl, connective, -, nonempty, rfl⟩ := groupOf_eq_ok_iff.mp found
      exact ⟨connective, members, rfl, nonempty, isRead_of_membersOfFields given⟩
    · cases found
    · cases found
  · split at found
    · cases found
    · obtain ⟨members, ended, connective, -, nonempty, rfl⟩ := groupOf_eq_ok_iff.mp found
      obtain ⟨members', given, whole⟩ := Decoded.bind_eq_ok_iff.mp ended
      split at whole
      · cases whole
        exact ⟨connective, members, rfl, nonempty, isRead_of_membersOfJson given⟩
      · cases whole
  · cases found

/-- A predicate is read from the form of its head. -/
theorem content_of_ofJson {json : Json} {predicate : Predicate}
    (found : ofJson json = .ok predicate) :
    (∃ content leaf, FieldTest.ofJson content = .ok leaf ∧ predicate = .test leaf) ∨
      ∃ content, groupOfJson content = .ok predicate := by
  unfold ofJson at found
  split at found
  · rename_i content
    obtain ⟨leaf, read, same⟩ := Decoded.map_eq_ok_iff.mp found
    exact .inl ⟨content, leaf, read, same.symm⟩
  · rename_i content
    exact .inr ⟨content, found⟩
  · cases found

/-- Only well-formed predicates are read. -/
theorem IsRead.wellFormed {predicate : Predicate} (read : predicate.IsRead) :
    predicate.WellFormed := by
  obtain ⟨json, found⟩ := read
  -- The members of a group are read themselves, so the induction is on what has been read.
  induction predicate generalizing json with
  | test leaf =>
      rcases content_of_ofJson found with ⟨content, leaf', read, same⟩ | ⟨content, read⟩
      · cases same
        exact .test leaf (FieldTest.built_iff.mp (FieldTest.built_of_ofJson read))
      · obtain ⟨connective, members, same, -⟩ := members_of_groupOfJson read
        cases same
  | group connective members hyp =>
      rcases content_of_ofJson found with ⟨content, leaf, read, same⟩ | ⟨content, read⟩
      · cases same
      · obtain ⟨connective', members', same, nonempty, each⟩ := members_of_groupOfJson read
        cases same
        refine .group connective members nonempty fun member present => ?_
        obtain ⟨json, found⟩ := each member present
        exact hyp member present json found

end Predicate

/-! ## Sort orders -/

instance : LawfulJsonCoded SortKey where
  decode_encode key := by
    have parts : decode (encode key) =
        (decode (encode key.field) >>= fun field => decode (encode key.direction) >>=
          fun direction => decode (encode key.nulls) >>= fun nulls =>
            .ok (SortKey.mk field direction nulls)) := rfl
    rw [parts, decode_encode, decode_encode, decode_encode]
    rfl

instance : LawfulJsonCoded SortOrder where
  decode_encode order := by
    have parts : decode (encode order) =
        (decode (encode order.keys) >>= fun keys => Decoded.checked (SortOrder.ofKeys? keys)) := rfl
    rw [parts, decode_encode]
    rfl

end Pushdown
