import PassPipeline.Proofs.CommandLine.Reading
import PassPipeline.Proofs.CommandLine.Writing
import PassPipeline.Proofs.Invocation.Selection

/-!
# The command lines of the program

The passes that the program registers have forms that can be told apart (`fit_command`), and so a
reader that goes by the conventions reads a command line as what it was written for, in whatever
order and in whichever forms (`parse_written`).
-/

namespace PassPipeline.Invocation

open CommandLine (Argument Item Reader Spells Writes longWord shortWord valueWord dashes)
open TextPipeline

variable {ids : Ids} {catalog : Catalog}

/-- The arguments of the program. -/
def known : List Argument :=
  [.input, .config, .metrics, .verbose] ++ register.map .ofPass

theorem arguments_eq (hcatalog : catalog? = .ok (ids, catalog)) :
    (CommandLine.command catalog).arguments = known := by
  rw [CommandLine.command, (descriptors_eq hcatalog).2, known]

theorem short_known : ∀ argument ∈ known,
    argument.short ≠ some 'h' ∧ argument.short ≠ some '-' ∧ argument.short ≠ some '=' := by
  decide +kernel

/-- The arguments of the program can be told apart, and flags have long forms. -/
theorem fit_command (hcatalog : catalog? = .ok (ids, catalog)) :
    (CommandLine.command catalog).Fit := by
  have harguments := arguments_eq hcatalog
  refine ⟨⟨?_, ?_, ?_, ?_, ?_, .input, "INPUT", ?_, rfl⟩, ?_, ?_, ?_⟩ <;> rw [harguments]
  case refine_5 =>
    intro argument hargument form hform
    have hother := short_known argument hargument
    rw [Option.mem_def.mp hform] at hother
    simpa using hother
  all_goals decide +kernel

/-- The program reads a command line as what it says, however it is written: the arguments may
come in any order, flags in their long or their short forms, short forms in one word or in
several, and the files in either of two ways. -/
theorem parse_written (hcatalog : catalog? = .ok (ids, catalog)) {ε : Type} {read : Reader ε}
    (hread : read.Conventional) {line : CommandLine}
    (hselected : line.selected.Sublist (catalog.descriptors.map (·.arg)))
    (hconfig : line.config ≠ some "")
    (hinput : ∀ path, line.input = some path → path.isEmpty = false)
    {items : List Item} (hitems : items.Perm line.items) {words : List OsText}
    (hwrites : Writes (CommandLine.command catalog) items words) :
    CommandLine.parse read catalog words = .ok line :=
  CommandLine.parse_writes hread (fit_command hcatalog) hselected hconfig hinput hitems hwrites

/-- Selects three passes, and its files look like flags. -/
def misleading : CommandLine where
  input := some "-t".toUTF8
  config := some "--emit=x"
  metrics := true
  verbose := true
  selected := ["tokenize", "stats", "report"]

/-- Two short forms share a word. -/
theorem writes_misleading :
    Writes (CommandLine.command workshopCatalog)
      ([Item.flag "report", Item.flag "stats"] ++ ([Item.config "--emit=x"] ++
        ([Item.flag "verbose"] ++ ([Item.flag "tokenize"] ++ ([Item.flag "metrics"] ++
          [Item.input "-t".toUTF8])))))
      ([shortWord ['r', 's']] ++ ([valueWord "config" "--emit=x"] ++ ([longWord "verbose"] ++
        ([longWord "tokenize"] ++ ([longWord "metrics"] ++ [dashes, "-t".toUTF8]))))) := by
  obtain ⟨⟨_, _, _, _, _⟩, hreport, ⟨_, _, _, _, _⟩, hstats, ⟨_, _, _, _, _⟩, htokenize,
      ⟨rfl, rfl, rfl⟩, ⟨rfl, rfl, rfl⟩, rfl, rfl, rfl⟩ :
      ∃ report ∈ known, ∃ stats ∈ known, ∃ tokenize ∈ known,
        (report.name = "report" ∧ report.short = some 'r' ∧ report.kind = .flag) ∧
        (stats.name = "stats" ∧ stats.short = some 's' ∧ stats.kind = .flag) ∧
        tokenize.name = "tokenize" ∧ tokenize.long = some "tokenize" ∧ tokenize.kind = .flag := by
    decide +kernel
  have hmetrics : .metrics ∈ known := by decide
  have hverbose : .verbose ∈ known := by decide
  rw [← arguments_eq Launch.catalog?_workshop] at hreport hstats htokenize hmetrics hverbose
  have hcluster : Spells (CommandLine.command workshopCatalog) [.flag "report", .flag "stats"]
      [shortWord ['r', 's']] :=
    .cluster
      (List.forall_mem_cons.mpr ⟨⟨hreport, rfl⟩, List.forall_mem_singleton.mpr ⟨hstats, rfl⟩⟩)
      rfl (List.cons_ne_nil 'r' ['s'])
  exact .next hcluster (.next (.attached "--emit=x") (.next (.long hverbose rfl rfl)
    (.next (.long htokenize rfl rfl) (.next (.long hmetrics rfl rfl) (.last "-t".toUTF8)))))

theorem parse_written_misleading :
    CommandLine.parse CommandLine.read workshopCatalog
        ["-rs".toUTF8, "--config=--emit=x".toUTF8, "--verbose".toUTF8, "--tokenize".toUTF8,
          "--metrics".toUTF8, "--".toUTF8, "-t".toUTF8] =
      .ok misleading := by
  refine parse_written Launch.catalog?_workshop CommandLine.conventional_read ?_ (by decide) ?_ ?_
    writes_misleading
  · rw [(descriptors_eq Launch.catalog?_workshop).2]
    decide +kernel
  · rintro path ⟨⟩
    decide +kernel
  · decide +kernel

end PassPipeline.Invocation
