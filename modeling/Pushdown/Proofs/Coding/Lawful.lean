import Pushdown.Json.Coding

/-! # Reading back what was written

A type is coded lawfully when every value is read back from what it is written as. Some types have
values that no constructor builds; there reading back is asked of the others alone, and it follows
for whatever has been read, because nothing is read that no constructor builds.
-/

namespace Pushdown

/-- Types whose values are all read back. -/
class LawfulJsonCoded (α : Type) [JsonCoded α] : Prop where
  decode_encode (value : α) : decode (encode value) = .ok value

export LawfulJsonCoded (decode_encode)

attribute [simp] decode_encode

/-- What can be built is read back from what it is written as, and so is what has been read. -/
structure ReadsBack {α : Type} (write : α → Json) (read : Json → Decoded α) (built : α → Prop) :
    Prop where
  written (value : α) (can : built value) : read (write value) = .ok value
  again (json : Json) (value : α) (found : read json = .ok value) : read (write value) = .ok value

namespace ReadsBack

variable {α : Type} {write : α → Json} {read : Json → Decoded α} {built : α → Prop}

/-- Where only what can be built is read, what has been read is read back. -/
theorem of_sound (written : ∀ value, built value → read (write value) = .ok value)
    (sound : ∀ json value, read json = .ok value → built value) : ReadsBack write read built where
  written := written
  again json value found := written value (sound json value found)

theorem of_lawful [JsonCoded α] [LawfulJsonCoded α] :
    ReadsBack (encode (α := α)) decode fun _ => True :=
  of_sound (fun value _ => decode_encode value) fun _ _ _ => trivial

end ReadsBack

namespace LawfulJsonCoded

/-! ## Choices and scalars -/

/-- A choice is read back when its name leads back to it. -/
theorem ofNames {α : Type} {all : List α} {name : α → String}
    (found : ∀ value, (all.find? fun other => name other == name value) = some value) :
    @LawfulJsonCoded α (.ofNames all name) :=
  @LawfulJsonCoded.mk α (.ofNames all name) fun value => by
    change Decoded.present (all.find? fun other => name other == name value) = _
    rw [found]
    rfl

instance : LawfulJsonCoded String where
  decode_encode _ := rfl

instance : LawfulJsonCoded Bool where
  decode_encode _ := rfl

instance : LawfulJsonCoded Int64 where
  decode_encode value := by
    have within : Int64.minValue.toInt ≤ value.toInt ∧ value.toInt ≤ Int64.maxValue.toInt :=
      ⟨Int64.minValue_le_toInt value, Int64.toInt_le value⟩
    change (if _ then _ else _) = _
    rw [if_pos within, Int64.ofInt_toInt]

instance : LawfulJsonCoded UInt64 where
  decode_encode value := by
    have within : 0 ≤ (value.toNat : Int) ∧ (value.toNat : Int) < UInt64.size :=
      ⟨Int.natCast_nonneg _, Int.ofNat_lt.mpr value.toNat_lt_size⟩
    change (if _ then _ else _) = _
    rw [if_pos within, Int.toNat_natCast, UInt64.ofNat_toNat]

instance : LawfulJsonCoded Binary64 where
  decode_encode _ := rfl

/-! ## Lists and options -/

variable {α : Type} [JsonCoded α] [LawfulJsonCoded α]

instance : LawfulJsonCoded (List α) where
  decode_encode values := by
    change (values.map encode).mapM decode = _
    induction values with
    | nil => rfl
    | cons value rest hyp =>
        rw [List.map_cons, List.mapM_cons, decode_encode, hyp]
        rfl

omit [LawfulJsonCoded α] in
theorem decode_of_ne_null {json : Json} (present : json ≠ .null) :
    (decode json : Decoded (Option α)) = (decode json).map some := by
  cases json <;> first | exact absurd rfl present | rfl

/-- An optional value is read back when no value is written like a missing one. -/
theorem option (present : ∀ value : α, encode value ≠ .null) : LawfulJsonCoded (Option α) where
  decode_encode
    | none => rfl
    | some value => by
        change decode (encode value) = _
        rw [decode_of_ne_null (present value), decode_encode]
        rfl

instance : LawfulJsonCoded (Option UInt64) :=
  option fun _ => nofun

end LawfulJsonCoded

end Pushdown
