import PassPipeline.Manager.Dump
import PassPipeline.Proofs.Text.Lines

/-!
# The picture that a report gives

A report consists of lines, and the lines of blocks.  A block begins with the name of a pass, goes
on with the names of the passes that it requires and of those that provide it, each behind an
arrow, and ends with an empty line.  Names are not restricted, and may be empty or look like a line
with an arrow; but the first line of a block is always a name, and a line with an arrow is never
empty, so the blocks can be told from the lines (`Block.flatMap_lines_inj`).

There is a report if all passes that are mentioned resolve.  Otherwise it is refused for one that
does not (`resolves_report`).
-/

namespace PassPipeline

/-! ## Blocks -/

/-- The block of a pass in a report. -/
structure Block where
  name : String
  requirements : List String
  providers : List String

namespace Block

/-- A line with an arrow. -/
def edge (arrow name : String) : String := "    " ++ arrow ++ " " ++ name

/-- The lines with arrows. -/
def edges (block : Block) : List String :=
  block.requirements.map (edge "<--") ++ block.providers.map (edge "-->")

/-- The lines of a block, with the empty one at its end. -/
def lines (block : Block) : List String := block.name :: (block.edges ++ [""])

theorem edge_ne_empty (arrow name : String) : edge arrow name ≠ "" := by
  simp [edge]

theorem edge_injective (arrow : String) : Function.Injective (edge arrow) := by
  intro first second hsame
  simpa [edge] using hsame

theorem empty_notMem_edges (block : Block) : "" ∉ block.edges := by
  simp [edges, edge_ne_empty]

/-- The arrow is to the left. -/
def leftward (line : String) : Bool := line.toList[4]? == some '<'

theorem leftward_required (name : String) : leftward (edge "<--" name) = true := by
  simp [leftward, edge]

theorem leftward_provider (name : String) : leftward (edge "-->" name) = false := by
  simp [leftward, edge]

theorem edges_inj {first second : Block} (hedges : first.edges = second.edges) :
    first.requirements = second.requirements ∧ first.providers = second.providers := by
  have hleft : ∀ block : Block,
      block.edges.filter leftward = block.requirements.map (edge "<--") := by
    intro block
    simp [edges, leftward_required, leftward_provider, List.filter_map, Function.comp_def]
  have hrequirements := (hleft first).symm.trans ((congrArg _ hedges).trans (hleft second))
  rw [edges, edges, hrequirements] at hedges
  exact ⟨(edge_injective "<--").list_map hrequirements,
    (edge_injective "-->").list_map (List.append_cancel_left hedges)⟩

/-- Where a block ends can be told from its lines. -/
theorem lines_append_inj {first second : Block} {rest others : List String}
    (heq : first.lines ++ rest = second.lines ++ others) : first = second ∧ rest = others := by
  obtain ⟨hname, htail⟩ := List.cons.inj heq
  obtain ⟨hedges, hrest⟩ := Text.append_cons_inj first.empty_notMem_edges
    second.empty_notMem_edges (by simpa using htail)
  obtain ⟨hrequirements, hproviders⟩ := edges_inj hedges
  refine ⟨?_, hrest⟩
  cases first
  cases second
  congr

theorem flatMap_lines_inj {blocks others : List Block}
    (heq : blocks.flatMap lines = others.flatMap lines) : blocks = others := by
  induction blocks generalizing others with
  | nil =>
    cases others with
    | nil => rfl
    | cons other others => simp [lines] at heq
  | cons block blocks ih =>
    cases others with
    | nil => simp [lines] at heq
    | cons other others =>
      obtain ⟨rfl, hrest⟩ := lines_append_inj heq
      rw [ih hrest]

/-- There is no line feed in the names. -/
structure Plain (block : Block) : Prop where
  name : '\n' ∉ block.name.toList
  requirements : ∀ name ∈ block.requirements, '\n' ∉ name.toList
  providers : ∀ name ∈ block.providers, '\n' ∉ name.toList

theorem Plain.lines {block : Block} (hplain : block.Plain) :
    ∀ line ∈ block.lines, '\n' ∉ line.toList := by
  have hedge : ∀ arrow name : String, '\n' ∉ arrow.toList → '\n' ∉ name.toList →
      '\n' ∉ (edge arrow name).toList := by
    intro arrow name harrow hname
    simp [edge, harrow, hname]
  intro line hline
  simp only [Block.lines, edges, List.mem_cons, List.mem_append, List.mem_map,
    List.not_mem_nil, or_false] at hline
  rcases hline with rfl | (⟨name, hname, rfl⟩ | ⟨name, hname, rfl⟩) | rfl
  · exact hplain.name
  · exact hedge _ _ (by decide) (hplain.requirements name hname)
  · exact hedge _ _ (by decide) (hplain.providers name hname)
  · simp

/-- The text of the blocks. -/
def render (blocks : List Block) : String := Text.unlines (blocks.flatMap Block.lines)

theorem render_inj {blocks others : List Block} (hblocks : ∀ block ∈ blocks, block.Plain)
    (hothers : ∀ block ∈ others, block.Plain) (heq : render blocks = render others) :
    blocks = others := by
  have hlines : ∀ {blocks : List Block}, (∀ block ∈ blocks, block.Plain) →
      ∀ line ∈ blocks.flatMap Block.lines, '\n' ∉ line.toList := by
    intro blocks hblocks line hline
    obtain ⟨block, hblock, hmem⟩ := List.mem_flatMap.mp hline
    exact (hblocks block hblock).lines line hmem
  exact flatMap_lines_inj (Text.unlines_inj (hlines hblocks) (hlines hothers) heq)

end Block

/-! ## Passes that resolve -/

/-- The value if the listed passes are all in the catalogue, and otherwise the refusal for one that
is not. -/
inductive Resolves {α : Type} (catalog : Catalog) (ids : List PassId) (value : α) :
    Except PassError α → Prop
  | known (hknown : ∀ id ∈ ids, (catalog.find? id).isSome = true) :
      Resolves catalog ids value (.ok value)
  | unknown {id : PassId} (hid : id ∈ ids) (hunknown : catalog.find? id = none) :
      Resolves catalog ids value (.error (.unknownPass id))

namespace Resolves

variable {α β : Type} {catalog : Catalog} {ids others : List PassId} {value : α} {result : β}
  {outcome : Except PassError α}

theorem pure (catalog : Catalog) (value : α) : Resolves catalog [] value (.ok value) :=
  .known (by simp)

theorem map (hresolves : Resolves catalog ids value outcome) (change : α → β) :
    Resolves catalog ids (change value) (outcome.map change) := by
  cases hresolves with
  | known hknown => exact .known hknown
  | unknown hid hunknown => exact .unknown hid hunknown

theorem bind (hfirst : Resolves catalog ids value outcome) {next : α → Except PassError β}
    (hnext : Resolves catalog others result (next value)) :
    Resolves catalog (ids ++ others) result (outcome.bind next) := by
  cases hfirst with
  | unknown hid hunknown => exact .unknown (List.mem_append_left _ hid) hunknown
  | known hknown =>
    change Resolves catalog (ids ++ others) result (next value)
    generalize next value = outcome at hnext
    cases hnext with
    | known hothers => exact .known (List.forall_mem_append.mpr ⟨hknown, hothers⟩)
    | unknown hid hunknown => exact .unknown (List.mem_append_right _ hid) hunknown

theorem mapM {γ : Type} {list : List γ} {needs : γ → List PassId} {values : γ → α}
    {change : γ → Except PassError α}
    (hall : ∀ item ∈ list, Resolves catalog (needs item) (values item) (change item)) :
    Resolves catalog (list.flatMap needs) (list.map values) (list.mapM change) := by
  induction list with
  | nil => exact .pure catalog []
  | cons item list ih =>
    obtain ⟨hitem, hlist⟩ := List.forall_mem_cons.mp hall
    rw [List.mapM_cons]
    exact hitem.bind ((ih hlist).map (values item :: ·))

theorem eq_ok_iff (hresolves : Resolves catalog ids value outcome) {other : α} :
    outcome = .ok other ↔ (∀ id ∈ ids, (catalog.find? id).isSome = true) ∧ other = value := by
  cases hresolves with
  | known hknown => exact ⟨fun heq => ⟨hknown, (Except.ok.inj heq).symm⟩, fun heq => by rw [heq.2]⟩
  | unknown hid hunknown =>
    constructor
    · rintro ⟨⟩
    · rintro ⟨hknown, -⟩
      have hsome := hknown _ hid
      simp [hunknown] at hsome

theorem of_error {error : PassError} (hresolves : Resolves catalog ids value (.error error)) :
    ∃ id ∈ ids, catalog.find? id = none ∧ error = .unknownPass id := by
  cases hresolves with
  | unknown hid hunknown => exact ⟨_, hid, hunknown, rfl⟩

end Resolves

/-! ## Reports -/

namespace Site

/-- The name of a pass, as far as it has one. -/
def called (site : Site) (id : PassId) : String := (site.name id).toOption.getD ""

/-- What a report has on a pass. -/
def sketch (site : Site) (id : PassId) : Block where
  name := site.called id
  requirements := (site.manager.dependencies.required id).map site.called
  providers := (site.manager.dependencies.providing id).map site.called

/-- What a report has on all passes. -/
def picture (site : Site) : List Block :=
  site.manager.dependencies.usages.keys.map site.sketch

/-- The passes that a block mentions. -/
def involved (site : Site) (id : PassId) : List PassId :=
  id :: (site.manager.dependencies.required id ++ site.manager.dependencies.providing id)

/-- The passes that a report mentions. -/
def mentioned (site : Site) : List PassId :=
  site.manager.dependencies.usages.keys.flatMap site.involved

variable (site : Site)

theorem resolves_name (id : PassId) :
    Resolves site.world.catalog [id] (site.called id) (site.name id) := by
  rw [called, name, Catalog.info]
  cases hfind : site.world.catalog.find? id with
  | none => exact .unknown (List.mem_singleton_self id) hfind
  | some pass => exact .known (by simp [hfind])

theorem resolves_edgeLines (arrow : String) (ids : List PassId) :
    Resolves site.world.catalog ids (ids.map fun id => Block.edge arrow (site.called id) ++ "\n")
      (site.edgeLines arrow ids) := by
  have hlines : ∀ id ∈ ids, Resolves site.world.catalog [id]
      (Block.edge arrow (site.called id) ++ "\n")
      ((site.name id).map fun name => Block.edge arrow name ++ "\n") :=
    fun id _ => (site.resolves_name id).map fun name => Block.edge arrow name ++ "\n"
  have hall := Resolves.mapM hlines
  rwa [List.flatMap_singleton'] at hall

theorem resolves_block (id : PassId) :
    Resolves site.world.catalog (site.involved id) (Text.unlines (site.sketch id).lines)
      (site.block id) := by
  -- A block is refused for the first of its passes that has no name, in the order of the lines.
  have hblock : site.block id = (site.name id).bind fun name =>
      (site.edgeLines "<--" (site.manager.dependencies.required id)).bind fun requirements =>
      (site.edgeLines "-->" (site.manager.dependencies.providing id)).map fun providers =>
        name ++ "\n" ++ String.join requirements ++ String.join providers ++ "\n" := by
    rw [block]
    rcases site.name id with error | name
    · rfl
    · rcases site.edgeLines "<--" (site.manager.dependencies.required id) with error | requirements
      · rfl
      · rcases site.edgeLines "-->" (site.manager.dependencies.providing id) with error | providers
        · rfl
        · rfl
  have htext : Text.unlines (site.sketch id).lines =
      site.called id ++ "\n" ++
        String.join ((site.manager.dependencies.required id).map fun other =>
          Block.edge "<--" (site.called other) ++ "\n") ++
        String.join ((site.manager.dependencies.providing id).map fun other =>
          Block.edge "-->" (site.called other) ++ "\n") ++ "\n" := by
    rw [Block.lines, Text.unlines_cons, Text.unlines_append, Block.edges, Text.unlines_append]
    simp [Text.unlines, sketch, Function.comp_def, String.append_assoc]
  rw [hblock, htext]
  refine (site.resolves_name id).bind ((site.resolves_edgeLines "<--" _).bind ?_)
  exact (site.resolves_edgeLines "-->" _).map fun providers =>
    site.called id ++ "\n" ++ String.join _ ++ String.join providers ++ "\n"

/-- The report is the text of the picture, if all passes that are mentioned resolve. -/
theorem resolves_report :
    Resolves site.world.catalog site.mentioned (Block.render site.picture) site.report := by
  have hblocks : Resolves site.world.catalog site.mentioned
      (site.manager.dependencies.usages.keys.map fun id => Text.unlines (site.sketch id).lines)
      (site.manager.dependencies.usages.keys.mapM site.block) :=
    .mapM fun id _ => site.resolves_block id
  have htext : Block.render site.picture = String.join
      (site.manager.dependencies.usages.keys.map fun id => Text.unlines (site.sketch id).lines) := by
    rw [Block.render, picture, List.flatMap_map, Text.unlines_flatMap]
  rw [htext, report]
  exact hblocks.map String.join

end Site

end PassPipeline
