import CommandLink.Bytes
import CommandLink.Number.Binary64

/-!
# Document values

A document is an ordered list of named values. Inserting under a name that
is there already replaces the value and keeps its place, so the order of a
document is the order in which its names first appeared.
-/

namespace CommandLink

/-- A value of a document. -/
inductive Bson where
  | double (bits : Binary64)
  | string (text : String)
  | document (entries : List (String × Bson))
  | array (items : List Bson)
  | binary (subtype : UInt8) (bytes : Bytes)
  | undefined
  | objectId (bytes : Bytes)
  | boolean (value : Bool)
  | dateTime (millis : Int64)
  | null
  | regex (pattern options : String)
  | dbPointer (collection : String) (id : Bytes)
  | javaScript (code : String)
  | symbol (text : String)
  | javaScriptWithScope (code : String) (scope : List (String × Bson))
  | int32 (value : Int32)
  | timestamp (time increment : UInt32)
  | int64 (value : Int64)
  | decimal128 (bytes : Bytes)
  | minKey
  | maxKey
  deriving Repr, Inhabited

/-- Named values in order. -/
abbrev Document := List (String × Bson)

namespace Bson

/-- The text of a string. -/
def text? : Bson → Option String
  | .string text => some text
  | _ => none

/-- The entries of a sub-document. -/
def document? : Bson → Option Document
  | .document entries => some entries
  | _ => none

/-- The items of an array. -/
def array? : Bson → Option (List Bson)
  | .array items => some items
  | _ => none

/-- The value of a boolean. -/
def boolean? : Bson → Option Bool
  | .boolean value => some value
  | _ => none

end Bson

namespace Document

/-- The names, in order. -/
def keys (document : Document) : List String := document.map (·.1)

/-- The value under a name. -/
def get? : Document → String → Option Bson
  | [], _ => none
  | (name, value) :: rest, key => if name = key then some value else get? rest key

/-- Whether a name is there. -/
def has (document : Document) (key : String) : Bool := (document.get? key).isSome

/-- Put a value under a name: in its place when the name is there already, at
the end when it is new. -/
def insert : Document → String → Bson → Document
  | [], key, value => [(key, value)]
  | (name, old) :: rest, key, value =>
    if name = key then (name, value) :: rest else (name, old) :: insert rest key value

@[simp] theorem get?_insert_self (document : Document) (key : String) (value : Bson) :
    (document.insert key value).get? key = some value := by
  induction document with
  | nil => simp [insert, get?]
  | cons entry rest ih =>
    obtain ⟨name, old⟩ := entry
    by_cases h : name = key <;> simp [insert, get?, h, ih]

theorem get?_insert_of_ne (document : Document) {key other : String} (value : Bson)
    (h : other ≠ key) : (document.insert key value).get? other = document.get? other := by
  induction document with
  | nil => simp [insert, get?, Ne.symm h]
  | cons entry rest ih =>
    obtain ⟨name, old⟩ := entry
    by_cases hn : name = key
    · subst hn; simp [insert, get?, Ne.symm h]
    · by_cases ho : name = other
      · subst ho; simp [insert, get?, hn]
      · simp [insert, get?, hn, ho, ih]

end Document

end CommandLink
