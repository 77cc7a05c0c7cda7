import PassPipeline.Proofs.History.Restatement
import PassPipeline.Proofs.Run.Effects

/-!
# The same in other words

A *rewording* lets every pass declare the same in other words and leaves the rest of its
behaviour alone.  Whatever is done to a catalogue can as well be done to the reworded one,
since nothing that is done to a catalogue looks at a behaviour.  So a program gets the same
answers in a reworded world, and leaves it reworded (`Program.mirror_exec`).

The two worlds may have different traces behind them.  What they have in common is told by
`Mirror` relative to the worlds in which they began; of what is observed, it compares all but
the readings of the clock.
-/

namespace PassPipeline

/-- Behaviours in other words: an instance is made, declares and runs as before. -/
structure Rewording where
  behaviour : PassId → Behaviour → Behaviour
  run_eq (id : PassId) (given : Behaviour) : (behaviour id given).run = given.run
  inquiry_eq (id : PassId) (given : Behaviour) : (behaviour id given).inquiry = given.inquiry
  declaresAs (id : PassId) (given : Behaviour) : given.DeclaresAs (behaviour id given)

namespace Rewording

variable (rewording : Rewording)

/-- The same words. -/
def plain : Rewording where
  behaviour _ given := given
  run_eq _ _ := rfl
  inquiry_eq _ _ := rfl
  declaresAs _ _ _ := Iff.rfl

def pass (id : PassId) (given : Descriptor) : Descriptor :=
  { given with behaviour := rewording.behaviour id given.behaviour }

def catalog (given : Catalog) : Catalog :=
  { given with entries := given.entries.map rewording.pass }

theorem catalog_plain (given : Catalog) : plain.catalog given = given := by
  have hentries : given.entries.map plain.pass = given.entries := Std.ExtTreeMap.map_id
  rw [catalog, hentries]

theorem usage_pass (id : PassId) (given : Descriptor) :
    (rewording.pass id given).behaviour.usage = given.behaviour.usage :=
  Behaviour.usage_congr (rewording.declaresAs id given.behaviour)

/-! ## Catalogues -/

theorem find?_catalog (given : Catalog) (id : PassId) :
    (rewording.catalog given).find? id = (given.find? id).map (rewording.pass id) :=
  Std.ExtTreeMap.getElem?_map

theorem info_catalog (given : Catalog) (id : PassId) :
    (rewording.catalog given).info id = (given.info id).map (rewording.pass id) := by
  rw [Catalog.info, Catalog.info, find?_catalog]
  cases given.find? id with
  | none => rfl
  | some pass => rfl

theorem restates_catalog (given : Catalog) (ids : IdSet) :
    given.Restates ids (rewording.catalog given) := by
  intro id _
  rw [find?_catalog]
  cases given.find? id with
  | none => exact .none
  | some pass => exact .some ⟨rfl, rewording.declaresAs id pass.behaviour⟩

/-- A change that does not look at the behaviour is made in the reworded catalogue alike. -/
theorem update_catalog (given : Catalog) (id : PassId) {change : Descriptor → Descriptor}
    (hchange : ∀ pass, change (rewording.pass id pass) = rewording.pass id (change pass)) :
    (rewording.catalog given).update id change = rewording.catalog (given.update id change) := by
  rw [Catalog.update, Catalog.update, find?_catalog]
  cases given.find? id with
  | none => rfl
  | some pass =>
      have hentries :
          (given.entries.map rewording.pass).insert id (rewording.pass id (change pass)) =
            (given.entries.insert id (change pass)).map rewording.pass := by
        apply Std.ExtTreeMap.ext_getElem?
        intro other
        rw [Std.ExtTreeMap.getElem?_map, Std.ExtTreeMap.getElem?_insert,
          Std.ExtTreeMap.getElem?_insert, Std.ExtTreeMap.getElem?_map]
        by_cases hother : id = other
        · subst hother
          simp
        · simp [hother]
      simp only [Option.map_some, catalog, hchange, hentries]

theorem updateKnown_catalog (given : Catalog) (id : PassId) {change : Descriptor → Descriptor}
    (hchange : ∀ pass, change (rewording.pass id pass) = rewording.pass id (change pass)) :
    (rewording.catalog given).updateKnown id change =
      (given.updateKnown id change).map rewording.catalog := by
  rw [Catalog.updateKnown, Catalog.updateKnown, info_catalog,
    rewording.update_catalog given id hchange]
  cases given.info id with
  | error error => rfl
  | ok pass => rfl

theorem setSelected_catalog (given : Catalog) (id : PassId) (selected : Bool) :
    (rewording.catalog given).setSelected id selected =
      (given.setSelected id selected).map rewording.catalog :=
  rewording.updateKnown_catalog given id fun _ => rfl

theorem addChanges_catalog (given : Catalog) (id : PassId) (count : UInt64) :
    (rewording.catalog given).addChanges id count =
      (given.addChanges id count).map rewording.catalog :=
  rewording.updateKnown_catalog given id fun _ => rfl

theorem withdraw_catalog (given : Catalog) (id : PassId) :
    (rewording.catalog given).withdraw id =
      ((given.withdraw id).1, rewording.catalog (given.withdraw id).2) := by
  rw [Catalog.withdraw, Catalog.withdraw]
  have hadmission : (rewording.catalog given).admission = given.admission := rfl
  rw [hadmission]
  cases given.admission with
  | numbered => rfl
  | free =>
      have hentries : (given.entries.map rewording.pass).erase id =
          (given.entries.erase id).map rewording.pass := by
        apply Std.ExtTreeMap.ext_getElem?
        intro other
        rw [Std.ExtTreeMap.getElem?_map, Std.ExtTreeMap.getElem?_erase,
          Std.ExtTreeMap.getElem?_erase, Std.ExtTreeMap.getElem?_map]
        by_cases hother : id = other
        · simp [hother]
        · simp [hother]
      simp [catalog, hentries]

end Rewording

/-! ## Worlds -/

/-- An event but for the reading of the clock. -/
def Event.untimed : Event → Event
  | .log message => .log { message with took := none }
  | event => event

/-- `here` and `there` are what has become of `first` and `second`, and the same has become of
them. -/
structure World.Mirror (rewording : Rewording) (first second here there : World) : Prop where
  catalog : there.catalog = rewording.catalog here.catalog
  input : there.input = here.input
  observed : ∃ events events' : List Event,
    here.trace.toList = first.trace.toList ++ events ∧
    there.trace.toList = second.trace.toList ++ events' ∧
    events'.map Event.untimed = events.map Event.untimed

variable {rewording : Rewording} {first second : World}

namespace World.Mirror

variable {here there : World}

theorem record (hmirror : Mirror rewording first second here there) {event event' : Event}
    (hevent : event'.untimed = event.untimed) :
    Mirror rewording first second (here.record event) (there.record event') := by
  obtain ⟨hcatalog, hinput, events, events', hhere, hthere, hsame⟩ := hmirror
  refine ⟨hcatalog, hinput, events ++ [event], events' ++ [event'], ?_, ?_, ?_⟩
  · simp [World.record, hhere]
  · simp [World.record, hthere]
  · simp [hsame, hevent]

theorem withCatalog (hmirror : Mirror rewording first second here there) {after after' : Catalog}
    (hafter : after' = rewording.catalog after) :
    Mirror rewording first second { here with catalog := after } { there with catalog := after' } :=
  ⟨hafter, hmirror.input, hmirror.observed⟩

end World.Mirror

/-! ## Programs -/

/-- The same result, and what is left is in the relation. -/
def Agree {α β : Type} (relation : β → β → Prop) (here there : α × β) : Prop :=
  there.1 = here.1 ∧ relation here.2 there.2

theorem Agree.exists {α β : Type} {relation : β → β → Prop} {here there : α × β}
    (hagree : Agree relation here there) :
    ∃ result after after', here = (result, after) ∧ there = (result, after') ∧
      relation after after' :=
  ⟨here.1, here.2, there.2, rfl, Prod.ext hagree.1 rfl, hagree.2⟩

structure Scene.Mirror (rewording : Rewording) (first second : World) (here there : Scene) :
    Prop where
  self : there.self = here.self
  name : there.name = here.name
  results : there.results = here.results
  stream : there.stream = here.stream
  world : World.Mirror rewording first second here.world there.world

/-- The same effect has the same answer. -/
theorem Scene.mirror_perform {here there : Scene}
    (hmirror : Mirror rewording first second here there) (effect : Effect) :
    Agree (Mirror rewording first second) (here.perform effect) (there.perform effect) := by
  obtain ⟨hself, hname, hresults, hstream, hworld⟩ := hmirror
  have hcatalog := hworld.catalog
  cases effect with
  | whoAmI => exact ⟨congrArg some hself, hself, hname, hresults, hstream, hworld⟩
  | fetch id kind =>
      refine ⟨?_, hself, hname, hresults, hstream, hworld⟩
      rw [perform, perform, hresults]
  | holds id =>
      refine ⟨?_, hself, hname, hresults, hstream, hworld⟩
      rw [perform, perform, hresults]
  | store id value =>
      exact ⟨rfl, hself, hname, congrArg (·.insert id value) hresults, hstream, hworld⟩
  | discard id =>
      refine ⟨?_, hself, hname, congrArg (·.erase id) hresults, hstream, hworld⟩
      rw [perform, perform, hresults]
  | stored =>
      refine ⟨?_, hself, hname, hresults, hstream, hworld⟩
      rw [perform, perform, hresults]
  | write text =>
      rw [hears_write, hears_write, hstream]
      exact ⟨rfl, hself, hname, hresults, rfl, hworld⟩
  | readInput =>
      refine ⟨?_, hself, hname, hresults, hstream, hcatalog, rfl, hworld.observed⟩
      rw [perform, perform, hworld.input]
  | mark id selected =>
      rw [perform, perform, hcatalog, rewording.setSelected_catalog]
      rcases here.world.catalog.setSelected id selected with error | after
      · exact ⟨rfl, hself, hname, hresults, hstream, hworld⟩
      · exact ⟨rfl, hself, hname, hresults, hstream, hworld.withCatalog rfl⟩
  | credit id count =>
      rw [perform, perform, hcatalog, rewording.addChanges_catalog]
      rcases here.world.catalog.addChanges id count with error | after
      · exact ⟨rfl, hself, hname, hresults, hstream, hworld⟩
      · exact ⟨rfl, hself, hname, hresults, hstream, hworld.withCatalog rfl⟩
  | inspect id =>
      refine ⟨?_, hself, hname, hresults, hstream, hworld⟩
      rw [perform, perform, hcatalog, rewording.info_catalog]
      cases here.world.catalog.info id with
      | error error => rfl
      | ok pass => rfl
  | withdraw id =>
      rw [perform, perform, hcatalog, rewording.withdraw_catalog]
      exact ⟨rfl, hself, hname, hresults, hstream, hworld.withCatalog rfl⟩
  | «recall» =>
      refine ⟨?_, hself, hname, hresults, hstream, hworld⟩
      rw [perform, perform, hcatalog, hself, rewording.find?_catalog, Option.map_map]
      rfl
  | remember memory =>
      refine ⟨rfl, hself, hname, hresults, hstream, hworld.withCatalog ?_⟩
      rw [hcatalog, hself]
      exact rewording.update_catalog _ _ fun _ => rfl
  | note text =>
      refine ⟨rfl, hself, hname, hresults, hstream, hworld.record ?_⟩
      rw [hself, hname]
  | log level text => exact ⟨rfl, hself, hname, hresults, hstream, hworld.record rfl⟩
  | panic => exact ⟨rfl, hself, hname, hresults, hstream, hworld⟩

/-- The same program ends alike, or dies alike. -/
theorem Program.mirror_exec {α : Type} (program : Program α) {here there : Scene}
    (hmirror : Scene.Mirror rewording first second here there) :
    Agree (Scene.Mirror rewording first second) (program.exec here) (program.exec there) := by
  induction program generalizing here there with
  | done value => exact ⟨rfl, hmirror⟩
  | perform effect next ih =>
      obtain ⟨answer, after, after', hhere, hthere, hafter⟩ :=
        (Scene.mirror_perform hmirror effect).exists
      rw [exec, exec, hhere, hthere]
      cases answer with
      | none => exact ⟨rfl, hafter⟩
      | some answer => exact ih answer hafter

end PassPipeline
