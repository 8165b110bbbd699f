import KeySweeper.Text.JsonString

/-!
# JSON documents

The documents that the admin interface answers with: objects keep their fields in the order in which
they are listed, numbers are natural numbers, and the written form has no blanks.
-/

namespace KeySweeper

/-- A JSON value as the admin interface writes it. -/
inductive Document where
  /-- The absent value. -/
  | null
  /-- A natural number. -/
  | number (value : Nat)
  /-- A text. -/
  | text (value : String)
  /-- An object with its fields in order. -/
  | object (fields : List (String × Document))

namespace Document

mutual

/-- The written form of a document. -/
def render : Document → String
  | .null => "null"
  | .number value => toString value
  | .text value => Text.JsonString.quote value
  | .object fields => "\x7b" ++ renderFields fields ++ "\x7d"

/-- The written form of the fields of an object, with commas between them. -/
def renderFields : List (String × Document) → String
  | [] => ""
  | [(name, value)] => Text.JsonString.quote name ++ ":" ++ render value
  | (name, value) :: rest =>
    Text.JsonString.quote name ++ ":" ++ render value ++ "," ++ renderFields rest

end

/-- An optional value, absent if there is none. -/
def ofOption {α : Type} (toDocument : α → Document) : Option α → Document
  | none => .null
  | some value => toDocument value

end Document

end KeySweeper
