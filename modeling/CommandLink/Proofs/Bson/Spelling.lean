import CommandLink.Bson.Encode
import CommandLink.Bson.Extended

/-!
# What a reserved name spells

A reserved name decides the kind of the value under it: whatever the body is, a value that is read
from it has that kind, in bytes (`tag_of_read?`) as in memory (`tag_of_inMemory?`). So neither a
document nor a boolean is ever spelled.
-/

namespace CommandLink.Bson.Spelling

variable {spelling : Spelling} {value : Bson}

/-- The kind of what is spelled under a reserved name. -/
def tag : Spelling → UInt8
  | double => 0x01
  | binary => 0x05
  | uuid => 0x05
  | undefined => 0x06
  | objectId => 0x07
  | date => 0x09
  | regex => 0x0B
  | dbPointer => 0x0C
  | symbol => 0x0E
  | int32 => 0x10
  | timestamp => 0x11
  | int64 => 0x12
  | decimal => 0x13
  | decimalBytes => 0x13
  | minKey => 0xFF
  | maxKey => 0x7F

/-- What a string spells has the kind of its name. -/
theorem tag_of_value? {text : String} (h : spelling.value? text = some value) :
    value.tag = spelling.tag := by
  unfold value? at h
  cases spelling with
  | objectId | int32 | int64 | double | uuid | date | decimal =>
    obtain ⟨_, -, rfl⟩ := Option.map_eq_some_iff.mp h
    rfl
  | symbol =>
    cases h
    rfl
  | _ => cases h

/-- **What is spelled in bytes** has the kind of its name. -/
theorem tag_of_read? {element : RawElement} (h : spelling.read? element = some value) :
    value.tag = spelling.tag := by
  unfold read? at h
  cases spelling with
  | objectId | binary | timestamp | regex | dbPointer | date | decimalBytes =>
    obtain ⟨_, -, rfl⟩ := Option.map_eq_some_iff.mp h
    rfl
  | maxKey | minKey | undefined =>
    obtain ⟨-, ⟨⟩⟩ := Option.ite_none_right_eq_some.mp h
    rfl
  | _ =>
    obtain ⟨text, -, h⟩ := Option.bind_eq_some_iff.mp h
    exact tag_of_value? h

/-- **What is spelled in memory** has it too. -/
theorem tag_of_inMemory? {body : Bson} (h : spelling.inMemory? body = some value) :
    value.tag = spelling.tag := by
  unfold inMemory? at h
  split at h
  -- bodies with fields of their own
  case h_1 | h_2 | h_3 | h_4 =>
    obtain ⟨_, -, rfl⟩ := Option.map_eq_some_iff.mp h
    rfl
  case h_5 | h_10 =>
    cases h
    rfl
  -- bodies that have to be one value
  case h_6 | h_7 | h_8 | h_9 | h_11 =>
    obtain ⟨-, ⟨⟩⟩ := Option.ite_none_right_eq_some.mp h
    rfl
  case h_13 => exact tag_of_value? h
  all_goals cases h

/-- Neither a document nor a boolean is spelled. -/
theorem tag_ne (spelling : Spelling) : spelling.tag ≠ 0x03 ∧ spelling.tag ≠ 0x08 := by
  cases spelling <;> decide

end CommandLink.Bson.Spelling
