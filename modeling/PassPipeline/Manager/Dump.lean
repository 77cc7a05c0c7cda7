import PassPipeline.Manager

/-!
# The report of the dependencies

The report has one block for each pass of the latest collection, in ascending order:
the name of the pass, one line for each pass that it requires, one line for each pass
that provides it, and an empty line.  A pass without a name makes the report
impossible, and then nothing of it is written.
-/

namespace PassPipeline.Site

/-- A line of the report for each of the listed passes. -/
def edgeLines (site : Site) (arrow : String) (ids : List PassId) :
    Except PassError (List String) :=
  ids.mapM fun id => (site.name id).map fun name => "    " ++ arrow ++ " " ++ name ++ "\n"

/-- The block of one pass. -/
def block (site : Site) (id : PassId) : Except PassError String :=
  match site.name id with
  | .error error => .error error
  | .ok name =>
    match site.edgeLines "<--" (site.manager.dependencies.required id) with
    | .error error => .error error
    | .ok requirements =>
      match site.edgeLines "-->" (site.manager.dependencies.providing id) with
      | .error error => .error error
      | .ok providers =>
        .ok (name ++ "\n" ++ String.join requirements ++ String.join providers ++ "\n")

/-- The report. -/
def report (site : Site) : Except PassError String :=
  (site.manager.dependencies.usages.keys.mapM site.block).map String.join

/-- Writes the report to the manager's stream. -/
def dump (site : Site) : Except Halt Unit × Site :=
  match site.report with
  | .error error => (.error (.refused error), site)
  | .ok text =>
    match site.manager.stream.writeText text with
    | (.error halt, written) => (.error halt, site.update ({ · with stream := written }))
    | (.ok (), written) =>
      match written.flush with
      | (.error error, stream) => (.error (.refused error), site.update ({ · with stream }))
      | (.ok (), stream) => (.ok (), site.update ({ · with stream }))

end PassPipeline.Site
