import Pushdown.Coding.Plans
import Pushdown.Proofs.Coding.Conditions

/-! # Coding in JSON loses nothing

Windows and settings are read back too, whatever may be left out of a document. With them, all that
is exchanged in JSON is read back from what it is written as, and whatever has been read, from a
document in another form perhaps, is read again from the form in which it is written.
-/

namespace Pushdown

instance : LawfulJsonCoded Window where
  decode_encode window := by
    have parts : decode (encode window) =
        (Decoded.present (some (encode window.offset)) >>= fun offset =>
          decode offset >>= fun offset =>
            decode ((some (encode window.limit)).getD .null) >>= fun limit =>
              .ok (Window.mk offset limit)) := rfl
    rw [parts, Decoded.present, Decoded.bind_ok, decode_encode, Decoded.bind_ok, Option.getD_some,
      decode_encode]
    rfl

instance : LawfulJsonCoded Simplification :=
  .ofNames fun value => by cases value <;> rfl

instance : LawfulJsonCoded PushRule :=
  .ofNames fun value => by cases value <;> rfl

instance : LawfulJsonCoded Settings where
  decode_encode settings := by
    have parts : decode (encode settings) =
        (decode (encode settings.simplifications) >>= fun simplifications =>
          decode (encode settings.pushRules) >>= fun pushRules =>
            decode (encode settings.countShortcut) >>= fun countShortcut =>
              .ok (Settings.mk simplifications pushRules countShortcut)) := rfl
    rw [parts, decode_encode, decode_encode, decode_encode]
    rfl

/-- A predicate that is a group. -/
def Predicate.IsGroup (predicate : Predicate) : Prop :=
  ∃ connective members, predicate = .group connective members

namespace ReadsBack

theorem fieldTest : ReadsBack (encode : FieldTest → Json) decode FieldTest.Built :=
  of_sound (fun _ => FieldTest.ofJson_toJson) fun _ _ => FieldTest.built_of_ofJson

theorem predicate : ReadsBack (encode : Predicate → Json) decode Predicate.Built := by
  apply of_sound
  · intro predicate built
    exact Predicate.ofJson_toJson (Predicate.built_iff.mp built)
  · intro json predicate found
    exact Predicate.built_iff.mpr (Predicate.IsRead.wellFormed ⟨json, found⟩)

/-- A group is written and read by itself as it is inside a predicate. -/
theorem group : ReadsBack Predicate.contentJson Predicate.groupOfJson
    fun predicate => predicate.Built ∧ predicate.IsGroup := by
  apply of_sound
  · rintro _ ⟨built, connective, members, rfl⟩
    cases Predicate.built_iff.mp built with
    | group _ _ nonempty each =>
        exact Predicate.groupOfJson_groupJson nonempty fun member present =>
          Predicate.ofJson_toJson (each member present)
  · intro json predicate found
    obtain ⟨connective, members, rfl, nonempty, each⟩ := Predicate.members_of_groupOfJson found
    have formed : (Predicate.group connective members).WellFormed :=
      .group connective members nonempty fun member present => (each member present).wellFormed
    exact ⟨Predicate.built_iff.mpr formed, connective, members, rfl⟩

/-- **Coding loses nothing.** What can be built is read back from what it is written as, and what
has been read is read back as well. -/
theorem all_coded :
    ReadsBack (encode : Value → Json) decode (fun _ => True) ∧
      ReadsBack (encode : Operand → Json) decode (fun _ => True) ∧
      ReadsBack (encode : FieldTest → Json) decode FieldTest.Built ∧
      ReadsBack Predicate.contentJson Predicate.groupOfJson
        (fun predicate => predicate.Built ∧ predicate.IsGroup) ∧
      ReadsBack (encode : Predicate → Json) decode Predicate.Built ∧
      ReadsBack (encode : SortKey → Json) decode (fun _ => True) ∧
      ReadsBack (encode : SortOrder → Json) decode (fun _ => True) ∧
      ReadsBack (encode : Window → Json) decode (fun _ => True) ∧
      ReadsBack (encode : Settings → Json) decode (fun _ => True) :=
  ⟨of_lawful, of_lawful, fieldTest, group, predicate, of_lawful, of_lawful, of_lawful, of_lawful⟩

end ReadsBack

end Pushdown
