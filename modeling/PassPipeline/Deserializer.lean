/-!
# Data from text

Settings that stand in a text are read by a library, which knows the items that a document may
have.  A record is described to it by its fields (`Fields`), and for every kind of value that a
field may have there is a decoder.  What the library is relied on for is said of the items that
it calls tables, whole numbers and truth values (`Deserializer.Lawful`); of any other item it may
make a value or not.
-/

namespace PassPipeline

/-- The fields of a record, in order.  Each has a key, a decoder, and the value that it has where
the key is absent. -/
inductive Fields (Item : Type) (α : Type) : Type 1 where
  | done (record : α)
  | field {β : Type} (key : String) (decode : Item → Except String β) (absent : β)
    (rest : β → Fields Item α)

/-- The record that entries make up.  Entries of other keys are passed over. -/
def Fields.read {Item α : Type} (entry : String → Option Item) :
    Fields Item α → Except String α
  | .done record => .ok record
  | .field key decode absent rest =>
    match entry key with
    | none => (rest absent).read entry
    | some item =>
      match decode item with
      | .error reason => .error reason
      | .ok value => (rest value).read entry

/-- A library that reads documents.  Where it refuses something it says why. -/
structure Deserializer where
  /-- What a document is made of. -/
  Item : Type
  /-- The item that a text describes. -/
  document : String → Except String Item
  /-- The entries of a table, by their keys. -/
  table? : Item → Option (String → Option Item)
  /-- A whole number. -/
  integer? : Item → Option Int
  /-- A truth value. -/
  boolean? : Item → Option Bool
  /-- Decodes a text. -/
  text : Item → Except String String
  /-- Decodes a list of texts. -/
  texts : Item → Except String (List String)
  /-- Decodes a whole number that is not negative. -/
  natural : Item → Except String Nat
  /-- Decodes a truth value. -/
  truth : Item → Except String Bool
  /-- Decodes a record. -/
  record {α : Type} : Fields Item α → Item → Except String α

/-- What is relied on. -/
structure Deserializer.Lawful (library : Deserializer) : Prop where
  /-- A document is a table. -/
  isSome_table? {text : String} {item : library.Item}
    (hdocument : library.document text = .ok item) : (library.table? item).isSome
  /-- In a table the fields of a record are looked up by their keys. -/
  record_eq_ok_iff {item : library.Item} {entry : String → Option library.Item}
    (htable : library.table? item = some entry) {α : Type} (fields : Fields library.Item α)
    (value : α) : library.record fields item = .ok value ↔ fields.read entry = .ok value
  natural_eq_ok_iff (item : library.Item) (n : Nat) :
    library.natural item = .ok n ↔ library.integer? item = some n
  truth_eq_ok_iff (item : library.Item) (choice : Bool) :
    library.truth item = .ok choice ↔ library.boolean? item = some choice

end PassPipeline
