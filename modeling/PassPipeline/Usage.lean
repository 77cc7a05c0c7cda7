import PassPipeline.PassId

/-!
# What a pass declares

A pass declares which passes have to run before it and which capabilities it
provides.  Declarations are made one at a time, in any order and as often as the
pass likes; what counts is the two sets that they add up to.
-/

namespace PassPipeline

/-- One declaration of a pass. -/
inductive Declaration where
  /-- The pass with that identity has to run first. -/
  | require (id : PassId)
  /-- The declaring pass provides the capability with that identity. -/
  | provide (id : PassId)
  deriving DecidableEq, Repr

/-- The sets of required passes and of provided capabilities. -/
structure Usage where
  /-- The passes that have to run first. -/
  requires : IdSet := ∅
  /-- The capabilities that are provided. -/
  provides : IdSet := ∅

namespace Usage

/-- Adds one declaration. -/
def declare (usage : Usage) : Declaration → Usage
  | .require id => { usage with requires := usage.requires.insert id }
  | .provide id => { usage with provides := usage.provides.insert id }

/-- The sets that a list of declarations adds up to. -/
def ofDeclarations (declarations : List Declaration) : Usage :=
  declarations.foldl declare {}

/-- A declaration requires what it names, and nothing else. -/
theorem mem_requires_declare {usage : Usage} {declaration : Declaration} {id : PassId} :
    id ∈ (usage.declare declaration).requires ↔
      declaration = .require id ∨ id ∈ usage.requires := by
  cases declaration <;> simp [declare, Std.ExtTreeSet.mem_insert]

/-- A declaration provides what it names, and nothing else. -/
theorem mem_provides_declare {usage : Usage} {declaration : Declaration} {id : PassId} :
    id ∈ (usage.declare declaration).provides ↔
      declaration = .provide id ∨ id ∈ usage.provides := by
  cases declaration <;> simp [declare, Std.ExtTreeSet.mem_insert]

theorem mem_requires_foldl {declarations : List Declaration} {usage : Usage} {id : PassId} :
    id ∈ (declarations.foldl declare usage).requires ↔
      .require id ∈ declarations ∨ id ∈ usage.requires := by
  induction declarations generalizing usage with
  | nil => simp
  | cons declaration rest ih =>
    rw [List.foldl_cons, ih, mem_requires_declare, List.mem_cons, eq_comm]
    grind

theorem mem_provides_foldl {declarations : List Declaration} {usage : Usage} {id : PassId} :
    id ∈ (declarations.foldl declare usage).provides ↔
      .provide id ∈ declarations ∨ id ∈ usage.provides := by
  induction declarations generalizing usage with
  | nil => simp
  | cons declaration rest ih =>
    rw [List.foldl_cons, ih, mem_provides_declare, List.mem_cons, eq_comm]
    grind

/-- What is required is what some declaration requires, in whatever order and however
often. -/
theorem mem_requires_ofDeclarations {declarations : List Declaration} {id : PassId} :
    id ∈ (ofDeclarations declarations).requires ↔ .require id ∈ declarations := by
  simp [ofDeclarations, mem_requires_foldl]

/-- What is provided is what some declaration provides. -/
theorem mem_provides_ofDeclarations {declarations : List Declaration} {id : PassId} :
    id ∈ (ofDeclarations declarations).provides ↔ .provide id ∈ declarations := by
  simp [ofDeclarations, mem_provides_foldl]

/-- Do two usages consist of the same sets? -/
def agrees (first second : Usage) : Bool :=
  first.requires.toList == second.requires.toList &&
    first.provides.toList == second.provides.toList

/-- Describes a set by its members in ascending order. -/
def debugSet (ids : IdSet) : String :=
  "\x7b" ++ ", ".intercalate (ids.toList.map PassId.debug) ++ "\x7d"

/-- Describes a usage by its two sets. -/
def debug (usage : Usage) : String :=
  "PassUsage \x7b requires: " ++ debugSet usage.requires ++ ", provides: " ++
    debugSet usage.provides ++ " \x7d"

end Usage

end PassPipeline
