import Mathlib.Tactic.Common
import PassPipeline.Toml.Deserializer

/-!
# Documents and their records

The library at hand keeps what is relied on: a document is a table, the fields of a record are
looked up in it, and numbers and truth values are what they are (`lawful_deserializer`).
-/

namespace PassPipeline.Toml

theorem orRefuse_eq_ok_iff {α : Type} {found : Option α} {value : α} :
    orRefuse found = .ok value ↔ found = some value := by
  cases found <;> simp [orRefuse, refuse]

theorem natural?_eq_some_iff {item : Item} {n : Nat} :
    item.natural? = some n ↔ item.integer? = some (n : Int) := by
  cases item with
  | integer value =>
    cases value with
    | ofNat value =>
      rw [Item.natural?, Item.integer?, Option.some_inj, Option.some_inj]
      exact Int.ofNat_inj.symm
    | negSucc value => exact ⟨nofun, nofun⟩
  | _ => simp [Item.natural?, Item.integer?]

theorem document_eq_ok_iff {text : String} {item : Item} :
    deserializer.document text = .ok item ↔
      ∃ rows, parse text = some rows ∧ item = .table .heading rows := by
  have hdocument : deserializer.document text =
      (orRefuse (parse text)).map (Item.table .heading) := rfl
  rw [hdocument]
  rcases parse text with _ | rows
  · exact ⟨nofun, nofun⟩
  · constructor
    · rintro ⟨⟩
      exact ⟨rows, rfl, rfl⟩
    · rintro ⟨_, ⟨⟩, rfl⟩
      rfl

theorem lawful_deserializer : deserializer.Lawful where
  isSome_table? {text item} hdocument := by
    obtain ⟨rows, -, rfl⟩ := document_eq_ok_iff.mp hdocument
    rfl
  record_eq_ok_iff {item entry} htable {α} fields value := by
    cases item with
    | table origin entries =>
      cases htable
      rfl
    | _ => cases htable
  natural_eq_ok_iff item n := orRefuse_eq_ok_iff.trans natural?_eq_some_iff
  truth_eq_ok_iff item choice := orRefuse_eq_ok_iff

end PassPipeline.Toml
