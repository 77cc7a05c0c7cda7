import PassPipeline.PassError
import PassPipeline.Value

/-!
# The values stored during a run

A result table holds at most one value for each pass identity.  Reading names
the kind that is expected; a table that holds nothing and a table that holds a
value of another kind are told apart.
-/

namespace PassPipeline

/-- The values that passes have stored, keyed by pass identity. -/
abbrev Results := IdMap Value

namespace Results

/-- The content stored under an identity, if it is of the expected kind. -/
def fetch (results : Results) (id : PassId) (kind : Kind) : Except PassError kind.Content :=
  match results[id]? with
  | none => .error (.resultMissing id)
  | some value =>
    match value.content? kind with
    | some content => .ok content
    | none => .error (.resultTypeMismatch id)

/-- Reading succeeds exactly if a value of the expected kind is stored. -/
theorem fetch_eq_ok_iff {results : Results} {id : PassId} {kind : Kind}
    {content : kind.Content} :
    results.fetch id kind = .ok content ↔ results[id]? = some (Value.ofContent kind content) := by
  unfold fetch
  split
  · next hnone => simp [hnone]
  · next value hvalue =>
    rw [hvalue, Option.some.injEq, ← Value.content?_eq_some_iff]
    split
    · next found hfound => simp [hfound]
    · next hfound => simp [hfound]

/-- The table with the listed values stored one after the other. -/
def ofValues (values : List (PassId × Value)) : Results :=
  values.foldl (fun results entry => results.insert entry.1 entry.2) ∅

/-- Describes a table by the identities that have a value. -/
def debug (results : Results) : String :=
  "PassResult \x7b ids: [" ++ ", ".intercalate (results.keys.map PassId.debug) ++ "] \x7d"

end Results

end PassPipeline
