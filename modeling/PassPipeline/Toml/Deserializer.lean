import PassPipeline.Deserializer
import PassPipeline.Toml.Document

/-!
# Records in documents

A record is decoded from a table.  It may as well be an array of its fields in order, which may
end early and may go on after them, and a date or time counts as a table without any entry that
matters.
-/

namespace PassPipeline.Toml

/-- Refuses a document, or an item of one. -/
def refuse {α : Type} : Except String α := .error "TOML parse error"

/-- What is there, or else a refusal. -/
def orRefuse {α : Type} : Option α → Except String α
  | some value => .ok value
  | none => refuse

namespace Item

/-- The entries of a table, by their keys. -/
def table? : Item → Option (String → Option Item)
  | .table _ entries => some fun key => entries.lookup key
  | _ => none

/-- The whole number that an item is. -/
def integer? : Item → Option Int
  | .integer value => some value
  | _ => none

/-- The truth value that an item is. -/
def boolean? : Item → Option Bool
  | .boolean value => some value
  | _ => none

/-- The text that an item is. -/
def text? : Item → Option String
  | .text value => some value
  | _ => none

/-- The texts that an item lists. -/
def texts? : Item → Option (List String)
  | .array items => items.mapM text?
  | _ => none

/-- The whole number that an item is, if it is not negative. -/
def natural? : Item → Option Nat
  | .integer (.ofNat value) => some value
  | _ => none

/-- The record whose fields are given in order. -/
def inOrder {α : Type} : Fields Item α → List Item → Except String α
  | .done record, _ => .ok record
  | .field _ _ absent rest, [] => inOrder (rest absent) []
  | .field _ decode _ rest, item :: items => do inOrder (rest (← decode item)) items

/-- The record that an item is. -/
def record {α : Type} (fields : Fields Item α) : Item → Except String α
  | .table _ entries => fields.read fun key => entries.lookup key
  | .array items => inOrder fields items
  | .datetime => fields.read fun _ => none
  | _ => refuse

end Item

/-- The items of documents, and what is made of them. -/
def deserializer : Deserializer where
  Item := Item
  document text := (orRefuse (parse text)).map (.table .heading)
  table? := Item.table?
  integer? := Item.integer?
  boolean? := Item.boolean?
  text item := orRefuse item.text?
  texts item := orRefuse item.texts?
  natural item := orRefuse item.natural?
  truth item := orRefuse item.boolean?
  record := Item.record

end PassPipeline.Toml
