import PassPipeline.Proofs.Pipeline.Registration
import PassPipeline.Proofs.Run.Declarations
import PassPipeline.Proofs.Run.Threading

/-!
# The schedules of the pipeline

A manager that has the six passes under management, beside its own pass, learns from a
collection which of them lead to which (`Hosted.wired`).  Nothing is on a circle, so the
schedule strings together the unfoldings of the selected passes, the last registered first, and
eighteen slots are enough for all of them.

Every unfolding begins with the reading pass.  So the leading slot of a schedule, the only one
that can be skipped, is that of the reading pass (`Hosted.agenda_eq_cons`).
-/

namespace PassPipeline.TextPipeline

open Schedule

variable {ids : Ids} {site : Site} {graph : Graph}

/-! ## What is learned -/

/-- The manager has the six passes under management, its own pass, and no other. -/
structure Ids.Hosted (ids : Ids) (site : Site) : Prop where
  entered : ids.Entered site.world.catalog
  own : site.world.catalog.Offers site.manager.own Manager.registration
  managed : ∀ id, id ∈ site.manager.managed ↔ id = site.manager.own ∨ id ∈ ids.all

/-- What the six passes declare. -/
def Ids.declarations (ids : Ids) : List (PassId × Declaration) :=
  [(ids.tokenize, .require ids.read), (ids.stats, .require ids.tokenize),
    (ids.stats, .provide ids.summary), (ids.emit, .require ids.tokenize),
    (ids.report, .require ids.summary)]

/-- The passes that the six passes lead to. -/
structure Ids.Wired (ids : Ids) (graph : Graph) : Prop where
  read : graph.children ids.read = []
  tokenize : graph.children ids.tokenize = [ids.read]
  summary : graph.children ids.summary = [ids.stats]
  stats : graph.children ids.stats = [ids.tokenize]
  emit : graph.children ids.emit = [ids.tokenize]
  report : graph.children ids.report = [ids.summary]

theorem mem_declarations {id : PassId} {declaration : Declaration} :
    (id, declaration) ∈ ids.declarations ↔
      (id = ids.tokenize ∧ declaration = .require ids.read) ∨
        (id = ids.stats ∧ declaration = .require ids.tokenize) ∨
        (id = ids.stats ∧ declaration = .provide ids.summary) ∨
        (id = ids.emit ∧ declaration = .require ids.tokenize) ∨
        (id = ids.report ∧ declaration = .require ids.summary) := by
  simp [Ids.declarations]

theorem declares_iff_of_offers {id : PassId} {registration : Registration}
    {declaration : Declaration} (hmanaged : id ∈ site.manager.managed)
    (hoffers : site.world.catalog.Offers id registration) :
    site.Declares id declaration ↔ declaration ∈
      registration.behaviour.internalDeclarations.getD registration.behaviour.declarations := by
  obtain ⟨pass, hfind, rfl, -⟩ := hoffers
  constructor
  · rintro ⟨-, other, hother, hdeclared⟩
    cases hfind.symm.trans hother
    exact hdeclared
  · intro hdeclared
    exact ⟨hmanaged, pass, hfind, hdeclared⟩

theorem Ids.Hosted.mem_managed (hhosted : ids.Hosted site) {id : PassId} (hid : id ∈ ids.all) :
    id ∈ site.manager.managed := (hhosted.managed id).mpr (Or.inr hid)

theorem Ids.Hosted.declares_iff (hhosted : ids.Hosted site) {id : PassId}
    {declaration : Declaration} :
    site.Declares id declaration ↔ (id, declaration) ∈ ids.declarations := by
  have hentered := hhosted.entered
  -- A pass declares what it was registered with, so one case for each registration is enough.
  have hoffered : ∀ {id : PassId} {registration : Registration}, id ∈ ids.all →
      site.world.catalog.Offers id registration → (site.Declares id declaration ↔ _) :=
    fun hid hoffers => declares_iff_of_offers (hhosted.mem_managed hid) hoffers
  constructor
  · intro hdeclares
    rcases (hhosted.managed id).mp hdeclares.1 with rfl | hid
    · rw [declares_iff_of_offers hdeclares.1 hhosted.own] at hdeclares
      cases hdeclares
    · rcases mem_all.mp hid with rfl | rfl | rfl | rfl | rfl | rfl
      · rw [hoffered hid hentered.read] at hdeclares
        cases hdeclares
      · rw [hoffered hid hentered.tokenize] at hdeclares
        obtain rfl : declaration = .require ids.read := List.mem_singleton.mp hdeclares
        simp [mem_declarations]
      · rw [hoffered hid hentered.summary] at hdeclares
        cases hdeclares
      · rw [hoffered hid hentered.stats] at hdeclares
        obtain rfl | rfl : declaration = .require ids.tokenize ∨
            declaration = .provide ids.summary := by
          simpa [statsRegistration] using hdeclares
        · simp [mem_declarations]
        · simp [mem_declarations]
      · rw [hoffered hid hentered.emit] at hdeclares
        obtain rfl : declaration = .require ids.tokenize := List.mem_singleton.mp hdeclares
        simp [mem_declarations]
      · rw [hoffered hid hentered.report] at hdeclares
        obtain rfl : declaration = .require ids.summary := List.mem_singleton.mp hdeclares
        simp [mem_declarations]
  · intro hdeclared
    rcases mem_declarations.mp hdeclared with
      ⟨rfl, rfl⟩ | ⟨rfl, rfl⟩ | ⟨rfl, rfl⟩ | ⟨rfl, rfl⟩ | ⟨rfl, rfl⟩
    · rw [hoffered (by simp [mem_all]) hentered.tokenize]
      simp [tokenizeRegistration]
    · rw [hoffered (by simp [mem_all]) hentered.stats]
      simp [statsRegistration]
    · rw [hoffered (by simp [mem_all]) hentered.stats]
      simp [statsRegistration]
    · rw [hoffered (by simp [mem_all]) hentered.emit]
      simp [emitRegistration]
    · rw [hoffered (by simp [mem_all]) hentered.report]
      simp [reportRegistration]

theorem Ids.Hosted.collect_eq (hhosted : ids.Hosted site) : site.collect.1 = .ok () := by
  rcases site.collect_cases with ⟨hok, -⟩ | ⟨missing, hmanaged, hmissing, -, -⟩
  · exact hok
  · have hoffers : ∃ registration, site.world.catalog.Offers missing registration := by
      rcases (hhosted.managed missing).mp hmanaged with rfl | hid
      · exact ⟨_, hhosted.own⟩
      · exact hhosted.entered.offers hid
    obtain ⟨registration, pass, hfind, -⟩ := hoffers
    cases hfind.symm.trans hmissing

/-- A collection learns which of the six passes lead to which. -/
theorem Ids.Hosted.wired (hhosted : ids.Hosted site) : ids.Wired site.collect.2.graph := by
  have hok := hhosted.collect_eq
  -- No pass has more than one child of either kind, so there is no order to care about.
  have hlist : ∀ {list expected : List PassId}, list.Nodup → expected.length ≤ 1 →
      (∀ id, id ∈ list ↔ id ∈ expected) → list = expected := by
    intro list expected hlist hlength hmem
    match expected, hlength with
    | [], _ => exact List.eq_nil_iff_forall_not_mem.mpr fun id hid => by simpa using (hmem id).mp hid
    | [only], _ =>
        have hperm := (List.perm_ext_iff_of_nodup hlist (List.nodup_singleton only)).mpr hmem
        exact List.perm_singleton.mp hperm
  have hchildren : ∀ {id : PassId} (required providing : List PassId),
      required.length ≤ 1 → providing.length ≤ 1 →
      (∀ other, ((id, .require other) ∈ ids.declarations ↔ other ∈ required) ∧
        ((other, .provide id) ∈ ids.declarations ↔ other ∈ providing)) →
      site.collect.2.graph.children id = required ++ providing := by
    intro id required providing hrequired hproviding hmem
    have hfirst := hlist (site.collect.2.manager.dependencies.nodup_required id) hrequired
      fun other => ((Site.mem_required_collect hok).trans hhosted.declares_iff).trans (hmem other).1
    have hsecond := hlist (site.collect.2.manager.dependencies.nodup_providing id) hproviding
      fun other => ((Site.mem_providing_collect hok).trans hhosted.declares_iff).trans (hmem other).2
    rw [← hfirst, ← hsecond]
    rfl
  have hdistinct := Ids.distinct hhosted.entered.nodup
  constructor
  · exact hchildren [] [] (by simp) (by simp) fun other => by grind [mem_declarations]
  · exact hchildren [ids.read] [] (by simp) (by simp) fun other => by grind [mem_declarations]
  · exact hchildren [] [ids.stats] (by simp) (by simp) fun other => by grind [mem_declarations]
  · exact hchildren [ids.tokenize] [] (by simp) (by simp) fun other => by
      grind [mem_declarations]
  · exact hchildren [ids.tokenize] [] (by simp) (by simp) fun other => by
      grind [mem_declarations]
  · exact hchildren [ids.summary] [] (by simp) (by simp) fun other => by grind [mem_declarations]

/-! ## What is planned -/

/-- What stands in a schedule for each of the six passes. -/
structure Ids.Unfolded (ids : Ids) (graph : Graph) : Prop where
  read : graph.unfolding ids.read = [ids.read]
  tokenize : graph.unfolding ids.tokenize = [ids.read, ids.tokenize]
  summary : graph.unfolding ids.summary = [ids.read, ids.tokenize, ids.stats, ids.summary]
  stats : graph.unfolding ids.stats = [ids.read, ids.tokenize, ids.stats]
  emit : graph.unfolding ids.emit = [ids.read, ids.tokenize, ids.emit]
  report : graph.unfolding ids.report =
    [ids.read, ids.tokenize, ids.stats, ids.summary, ids.report]

theorem Ids.Wired.unfolded (hwired : ids.Wired graph) :
    (∀ id ∈ ids.all, graph.Grounded id) ∧ ids.Unfolded graph := by
  -- Bottom up, from the pass without children.
  have hread : graph.Grounded ids.read := Graph.grounded_of_children (by simp [hwired.read])
  have htokenize : graph.Grounded ids.tokenize :=
    Graph.grounded_of_children (by simp [hwired.tokenize, hread])
  have hstats : graph.Grounded ids.stats :=
    Graph.grounded_of_children (by simp [hwired.stats, htokenize])
  have hsummary : graph.Grounded ids.summary :=
    Graph.grounded_of_children (by simp [hwired.summary, hstats])
  have hemit : graph.Grounded ids.emit :=
    Graph.grounded_of_children (by simp [hwired.emit, htokenize])
  have hreport : graph.Grounded ids.report :=
    Graph.grounded_of_children (by simp [hwired.report, hsummary])
  refine ⟨?_, ?_⟩
  · intro id hid
    rcases mem_all.mp hid with rfl | rfl | rfl | rfl | rfl | rfl
    · exact hread
    · exact htokenize
    · exact hsummary
    · exact hstats
    · exact hemit
    · exact hreport
  · constructor
    · simp [Graph.unfolding_eq, hwired.read, hread]
    · simp [Graph.unfolding_eq, hwired.read, hwired.tokenize, hread, htokenize]
    · simp [Graph.unfolding_eq, hwired.read, hwired.tokenize, hwired.stats, hwired.summary, hread,
        htokenize, hstats, hsummary]
    · simp [Graph.unfolding_eq, hwired.read, hwired.tokenize, hwired.stats, hread, htokenize,
        hstats]
    · simp [Graph.unfolding_eq, hwired.read, hwired.tokenize, hwired.emit, hread, htokenize,
        hemit]
    · simp [Graph.unfolding_eq, hwired.read, hwired.tokenize, hwired.stats, hwired.summary,
        hwired.report, hread, htokenize, hstats, hsummary, hreport]

/-- The six passes that are flagged, in the order of registration. -/
def Ids.chosen (ids : Ids) (site : Site) : List PassId :=
  ids.all.filter fun id => (site.world.catalog.find? id).any (·.selected)

/-- The manager's own pass is not flagged, but one of the six is. -/
structure Ids.Picked (ids : Ids) (site : Site) : Prop where
  own : ¬ site.Flagged site.manager.own
  some : ∃ id ∈ ids.all, site.Flagged id

/-- The unfoldings of the flagged passes, the last one first. -/
noncomputable def Ids.agenda (ids : Ids) (site : Site) : List PassId :=
  (ids.chosen site).reverse.flatMap site.collect.2.graph.unfolding

theorem flagged_iff {id : PassId} : site.Flagged id ↔
    id ∈ site.manager.managed ∧ (site.world.catalog.find? id).any (·.selected) = true := by
  rw [Site.Flagged, Option.any_eq_true]

theorem Ids.Hosted.mem_chosen (hhosted : ids.Hosted site) {id : PassId} :
    id ∈ ids.chosen site ↔ id ∈ ids.all ∧ site.Flagged id := by
  rw [Ids.chosen, List.mem_filter, flagged_iff]
  constructor
  · rintro ⟨hid, hflag⟩
    exact ⟨hid, hhosted.mem_managed hid, hflag⟩
  · rintro ⟨hid, -, hflag⟩
    exact ⟨hid, hflag⟩

theorem Ids.Hosted.flagged (hhosted : ids.Hosted site) (hpicked : ids.Picked site) {id : PassId}
    (hflagged : site.Flagged id) : id ∈ ids.all := by
  rcases (hhosted.managed id).mp hflagged.1 with rfl | hid
  · exact absurd hflagged hpicked.own
  · exact hid

theorem Ids.Hosted.selected_toList (hhosted : ids.Hosted site) (hpicked : ids.Picked site)
    {ready : Site} {timing : Timing} (hready : site.Ready timing ready) :
    ready.manager.selected.toList = ids.chosen site := by
  have hmem : ∀ id, id ∈ ready.manager.selected.toList ↔ id ∈ ids.chosen site := by
    intro id
    rw [Std.ExtTreeSet.mem_toList, hready.mem_selected, hhosted.mem_chosen]
    obtain ⟨some, -, hsome⟩ := hpicked.some
    constructor
    · rintro (hflagged | ⟨hnone, -⟩)
      · exact ⟨hhosted.flagged hpicked hflagged, hflagged⟩
      · exact absurd hsome (hnone some)
    · rintro ⟨-, hflagged⟩
      exact Or.inl hflagged
  have hchosen : (ids.chosen site).Pairwise (·.toNat < ·.toNat) :=
    hhosted.entered.ascending.filter _
  have hselected : ready.manager.selected.toList.Pairwise (·.toNat < ·.toNat) :=
    ready.manager.selected.ordered_toList.imp PassId.compare_eq_lt.mp
  exact PassId.eq_of_ascending hselected hchosen hmem

theorem Ids.Hosted.plan (hhosted : ids.Hosted site) (hpicked : ids.Picked site)
    (timing : Timing) :
    ∃ ready, site.Ready timing ready ∧
      ready.manager.selected.contains ready.manager.own = false ∧
      ready.plan =
        if (ids.agenda site).length ≤ site.manager.settings.scheduleLimit then
          .ok (ids.agenda site)
        else .error (.scheduleLimitExceeded site.manager.settings.scheduleLimit) := by
  obtain ⟨some, hsome, hflagged⟩ := hpicked.some
  have hmem := Site.mem_selected_of_collected hhosted.collect_eq
  have hnonempty : site.collect.2.manager.selected.isEmpty = false := by
    rw [← Bool.not_eq_true, Std.ExtTreeSet.isEmpty_iff]
    intro hempty
    have hselected := (hmem some).mpr hflagged
    simp [hempty] at hselected
  obtain ⟨ready, hready⟩ : ∃ ready, site.Ready timing ready :=
    ⟨_, .chosen (Prod.ext hhosted.collect_eq rfl) hnonempty⟩
  obtain ⟨selected, trace, hframe⟩ := hready.frame
  refine ⟨ready, hready, ?_, ?_⟩
  · rw [← Bool.not_eq_true, Std.ExtTreeSet.contains_iff_mem, hready.mem_selected, hframe]
    -- The manager's own pass would have to be flagged, or chosen for want of a flag.
    rintro (hown | ⟨hnone, -⟩)
    · exact hpicked.own hown
    · exact hnone some hflagged
  · have hsettings : ready.manager.settings = site.manager.settings := by rw [hframe]
    have hgrounded : ∀ id ∈ ids.chosen site, site.collect.2.graph.Grounded id := fun id hid =>
      hhosted.wired.unfolded.1 id (hhosted.mem_chosen.mp hid).1
    rw [Site.plan, hready.graph_eq, hsettings, hhosted.selected_toList hpicked hready,
      Graph.build_of_grounded _ hgrounded]
    rfl

theorem Ids.chosen_sublist (ids : Ids) (site : Site) : (ids.chosen site).Sublist ids.all :=
  List.filter_sublist

theorem Ids.Hosted.length_agenda (hhosted : ids.Hosted site) : (ids.agenda site).length ≤ 18 := by
  obtain ⟨-, hunfolded⟩ := hhosted.wired.unfolded
  have hsub := (ids.chosen_sublist site).reverse.flatMap site.collect.2.graph.unfolding
  refine hsub.length_le.trans ?_
  simp [Ids.all, hunfolded.read, hunfolded.tokenize, hunfolded.summary, hunfolded.stats,
    hunfolded.emit, hunfolded.report]

theorem Ids.Hosted.executes (hhosted : ids.Hosted site) (hpicked : ids.Picked site)
    (hfits : (ids.agenda site).length ≤ site.manager.settings.scheduleLimit) (timing : Timing) :
    ∃ ready, site.Executes timing ready (ids.agenda site) := by
  obtain ⟨ready, hready, hown, hplan⟩ := hhosted.plan hpicked timing
  rw [if_pos hfits] at hplan
  exact ⟨ready, hready, hown, hplan⟩

/-- A pass stands in the schedule if a flagged pass unfolds to it. -/
theorem Ids.Hosted.mem_agenda (hhosted : ids.Hosted site) {id : PassId} :
    id ∈ ids.agenda site ↔
      ∃ chosen ∈ ids.all, site.Flagged chosen ∧ id ∈ site.collect.2.graph.unfolding chosen := by
  simp only [Ids.agenda, List.mem_flatMap, List.mem_reverse, hhosted.mem_chosen, and_assoc]

theorem Ids.Unfolded.exists_tail (hunfolded : ids.Unfolded graph) {id : PassId}
    (hid : id ∈ ids.all) : ∃ tail, graph.unfolding id = ids.read :: tail := by
  rcases mem_all.mp hid with rfl | rfl | rfl | rfl | rfl | rfl
  · exact ⟨_, hunfolded.read⟩
  · exact ⟨_, hunfolded.tokenize⟩
  · exact ⟨_, hunfolded.summary⟩
  · exact ⟨_, hunfolded.stats⟩
  · exact ⟨_, hunfolded.emit⟩
  · exact ⟨_, hunfolded.report⟩

theorem Ids.Unfolded.mem_iff (hunfolded : ids.Unfolded graph) (hdistinct : ids.all.Nodup)
    {chosen : PassId} (hchosen : chosen ∈ ids.all) {id : PassId} :
    id ∈ graph.unfolding chosen ↔
      id = ids.read ∨ (id = ids.tokenize ∧ chosen ≠ ids.read) ∨
        (id = ids.stats ∧ (chosen = ids.summary ∨ chosen = ids.stats ∨ chosen = ids.report)) ∨
        (id = ids.summary ∧ (chosen = ids.summary ∨ chosen = ids.report)) ∨
        (id = ids.emit ∧ chosen = ids.emit) ∨ (id = ids.report ∧ chosen = ids.report) := by
  have hne := Ids.distinct hdistinct
  rcases mem_all.mp hchosen with rfl | rfl | rfl | rfl | rfl | rfl
  · simp only [hunfolded.read, List.mem_cons, List.not_mem_nil, or_false]
    grind
  · simp only [hunfolded.tokenize, List.mem_cons, List.not_mem_nil, or_false]
    grind
  · simp only [hunfolded.summary, List.mem_cons, List.not_mem_nil, or_false]
    grind
  · simp only [hunfolded.stats, List.mem_cons, List.not_mem_nil, or_false]
    grind
  · simp only [hunfolded.emit, List.mem_cons, List.not_mem_nil, or_false]
    grind
  · simp only [hunfolded.report, List.mem_cons, List.not_mem_nil, or_false]
    grind

theorem Ids.Hosted.mem_all_of_agenda (hhosted : ids.Hosted site) {id : PassId}
    (hid : id ∈ ids.agenda site) : id ∈ ids.all := by
  obtain ⟨chosen, hchosen, -, hmem⟩ := hhosted.mem_agenda.mp hid
  rw [hhosted.wired.unfolded.2.mem_iff hhosted.entered.nodup hchosen] at hmem
  rw [mem_all]
  tauto

theorem Ids.Hosted.mem_agenda_iff (hhosted : ids.Hosted site) {id : PassId}
    {needs : PassId → Prop}
    (hneeds : ∀ chosen ∈ ids.all, id ∈ site.collect.2.graph.unfolding chosen ↔ needs chosen) :
    id ∈ ids.agenda site ↔ ∃ chosen ∈ ids.all, site.Flagged chosen ∧ needs chosen := by
  rw [hhosted.mem_agenda]
  refine exists_congr fun chosen => and_congr_right fun hchosen => ?_
  rw [hneeds chosen hchosen]

/-- The words are needed as soon as anything but the text is. -/
theorem Ids.Hosted.tokenize_mem_agenda (hhosted : ids.Hosted site) :
    ids.tokenize ∈ ids.agenda site ↔
      ∃ chosen ∈ ids.all, site.Flagged chosen ∧ chosen ≠ ids.read := by
  have hdistinct := hhosted.entered.nodup
  refine hhosted.mem_agenda_iff fun chosen hchosen => ?_
  rw [hhosted.wired.unfolded.2.mem_iff hdistinct hchosen]
  have hne := Ids.distinct hdistinct
  grind

/-- The counts are needed for themselves, for their availability and for the report. -/
theorem Ids.Hosted.stats_mem_agenda (hhosted : ids.Hosted site) :
    ids.stats ∈ ids.agenda site ↔
      site.Flagged ids.summary ∨ site.Flagged ids.stats ∨ site.Flagged ids.report := by
  have hdistinct := hhosted.entered.nodup
  have hmem : ids.stats ∈ ids.agenda site ↔ ∃ chosen ∈ ids.all, site.Flagged chosen ∧
      (chosen = ids.summary ∨ chosen = ids.stats ∨ chosen = ids.report) := by
    refine hhosted.mem_agenda_iff fun chosen hchosen => ?_
    rw [hhosted.wired.unfolded.2.mem_iff hdistinct hchosen]
    have hne := Ids.distinct hdistinct
    grind
  rw [hmem]
  constructor
  · rintro ⟨chosen, -, hflagged, rfl | rfl | rfl⟩
    · exact Or.inl hflagged
    · exact Or.inr (Or.inl hflagged)
    · exact Or.inr (Or.inr hflagged)
  · rintro (hflagged | hflagged | hflagged)
    · exact ⟨_, by simp [mem_all], hflagged, Or.inl rfl⟩
    · exact ⟨_, by simp [mem_all], hflagged, Or.inr (Or.inl rfl)⟩
    · exact ⟨_, by simp [mem_all], hflagged, Or.inr (Or.inr rfl)⟩

theorem Ids.Hosted.agenda_eq_cons (hhosted : ids.Hosted site) (hpicked : ids.Picked site) :
    ∃ rest, ids.agenda site = ids.read :: rest ∧ ∀ id ∈ rest, id ∈ ids.all := by
  obtain ⟨some, hsome, hflagged⟩ := hpicked.some
  have hchosen : (ids.chosen site).reverse ≠ [] :=
    List.ne_nil_of_mem (List.mem_reverse.mpr (hhosted.mem_chosen.mpr ⟨hsome, hflagged⟩))
  obtain ⟨first, others, hreverse⟩ := List.exists_cons_of_ne_nil hchosen
  have hfirst : first ∈ (ids.chosen site).reverse := hreverse ▸ List.mem_cons_self
  obtain ⟨tail, htail⟩ := hhosted.wired.unfolded.2.exists_tail
    (hhosted.mem_chosen.mp (List.mem_reverse.mp hfirst)).1
  have hagenda : ids.agenda site =
      ids.read :: (tail ++ others.flatMap site.collect.2.graph.unfolding) := by
    rw [Ids.agenda, hreverse, List.flatMap_cons, htail, List.cons_append]
  refine ⟨_, hagenda, fun id hid => hhosted.mem_all_of_agenda ?_⟩
  rw [hagenda]
  exact List.mem_cons_of_mem _ hid

theorem Ids.Hosted.head_agenda (hhosted : ids.Hosted site) (hpicked : ids.Picked site)
    {id : PassId} (hid : (ids.agenda site)[0]? = some id) : id = ids.read := by
  obtain ⟨rest, hcons, -⟩ := hhosted.agenda_eq_cons hpicked
  rw [hcons] at hid
  exact (Option.some.inj hid).symm

/-- What is planned depends on the catalogue alone. -/
theorem Ids.Hosted.agenda_congr (hhosted : ids.Hosted site) {other : Site}
    (hother : ids.Hosted other) (hcatalog : other.world.catalog = site.world.catalog) :
    ids.agenda other = ids.agenda site := by
  have hsame := hhosted.wired.unfolded.2
  have hunfolded := hother.wired.unfolded.2
  have hunfolding : ∀ id ∈ ids.all,
      other.collect.2.graph.unfolding id = site.collect.2.graph.unfolding id := by
    intro id hid
    rcases mem_all.mp hid with rfl | rfl | rfl | rfl | rfl | rfl
    · rw [hunfolded.read, hsame.read]
    · rw [hunfolded.tokenize, hsame.tokenize]
    · rw [hunfolded.summary, hsame.summary]
    · rw [hunfolded.stats, hsame.stats]
    · rw [hunfolded.emit, hsame.emit]
    · rw [hunfolded.report, hsame.report]
  -- The graphs are collected apart from each other, but only the unfoldings come into a plan.
  have hchosen : ids.chosen other = ids.chosen site := by rw [Ids.chosen, Ids.chosen, hcatalog]
  rw [Ids.agenda, Ids.agenda, hchosen]
  refine List.flatMap_congr fun id hid => hunfolding id ?_
  exact (hhosted.mem_chosen.mp (List.mem_reverse.mp hid)).1

/-! ## The order of the slots -/

/-- What a pass works with stands in the slots before. -/
structure Ids.Supplied (ids : Ids) (id : PassId) (before : List PassId) : Prop where
  tokenize : id = ids.stats ∨ id = ids.emit → ids.tokenize ∈ before
  stats : id = ids.summary ∨ id = ids.report → ids.stats ∈ before

theorem Ids.Wired.supplied (hwired : ids.Wired graph) {schedule : List PassId}
    (hordered : graph.Ordered schedule) {slot : Nat} {id : PassId}
    (hid : schedule[slot]? = some id) : ids.Supplied id (schedule.take slot) := by
  have htake : ∀ below, Relation.TransGen graph.Leads id below →
      below ∈ schedule.take slot := by
    intro below hbelow
    obtain ⟨earlier, hearlier, hfound⟩ := hordered.below_earlier hid hbelow
    refine List.mem_iff_getElem?.mpr ⟨earlier, ?_⟩
    rw [List.getElem?_take, if_pos hearlier, hfound]
  have hsummary : graph.Leads ids.summary ids.stats := by simp [Graph.Leads, hwired.summary]
  constructor
  · rintro (rfl | rfl)
    · exact htake _ (.single (by simp [Graph.Leads, hwired.stats]))
    · exact htake _ (.single (by simp [Graph.Leads, hwired.emit]))
  · rintro (rfl | rfl)
    · exact htake _ (.single hsummary)
    · exact htake _ (.head (by simp [Graph.Leads, hwired.report]) (.single hsummary))

end PassPipeline.TextPipeline
