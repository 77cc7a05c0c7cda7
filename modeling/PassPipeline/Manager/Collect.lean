import PassPipeline.Manager

/-!
# Collection

Before a run a manager forgets what it collected before and asks every pass under
management, in ascending order, whether it is selected and what it declares.  A pass
that is not in the catalogue ends the collection, and so would a pass that is met twice;
what was collected up to there stays.
-/

namespace PassPipeline.Site

/-- Forgets the selection and the dependencies. -/
def forget (site : Site) : Site :=
  site.update ({ · with selected := ∅, dependencies := {} })

/-- Takes a pass into the selection if its flag is set.  A pass that is selected already is
refused. -/
def noteSelection (site : Site) (pass : Descriptor) (id : PassId) : Except PassError Unit × Site :=
  if pass.selected then
    let told := site.log .debug .selection (pass.name ++ ": selected") none
    if told.manager.selected.contains id then (.error (.alreadySelected pass.arg), told)
    else
      (.ok (), told.update fun manager =>
        { manager with selected := manager.selected.insert id })
  else (.ok (), site)

/-- Asks a pass what it declares. -/
def noteUsage (site : Site) (pass : Descriptor) (id : PassId) : Site :=
  ((site.call pass pass.behaviour.inquiry).call pass .usage).update fun manager =>
    { manager with dependencies := manager.dependencies.insert id pass.behaviour.usage }

/-- Collects from the listed passes. -/
def collectFrom : List PassId → Site → Except PassError Unit × Site
  | [], site => (.ok (), site)
  | id :: rest, site =>
    match site.world.catalog.info id with
    | .error error => (.error error, site)
    | .ok pass =>
      match site.noteSelection pass id with
      | (.error error, after) => (.error error, after)
      | (.ok (), after) => collectFrom rest (after.noteUsage pass id)

/-- Collects from every pass under management. -/
def collect (site : Site) : Except PassError Unit × Site :=
  collectFrom site.manager.managed.toList site.forget

end PassPipeline.Site
