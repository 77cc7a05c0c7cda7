import Mathlib.Data.List.Sort
import PassPipeline.Proofs.Catalog.Numbering

/-!
# What a numbered catalogue is asked

A catalogue is asked for an entry by its number, by its name and by its argument.  The name
and the argument are looked for among the entries, and it is the lowest number that is found.
In a catalogue that no two entries share a name, an argument or a short argument with
(`Orderly`) there is at most one to find, so that each of the three is as good as an index
(`Orderly.findName_eq_some_iff`, `Orderly.findArg_eq_some_iff`).

All of this goes by four fields of an entry, which make up its `Card`.  A change that leaves
the cards alone leaves the answers alone.
-/

namespace PassPipeline

theorem IdMap.values_eq {α : Type} (map : IdMap α) : map.values = map.toList.map Prod.snd := by
  obtain ⟨⟨tree⟩⟩ := map
  induction tree using Quotient.inductionOn with
  | h tree =>
    show tree.inner.values =
      (Std.DTreeMap.Internal.Impl.Const.toList tree.inner).map Prod.snd
    rw [Std.DTreeMap.Internal.Impl.values_eq_map_snd,
      Std.DTreeMap.Internal.Impl.Const.toList_eq_toListModel_map, List.map_map]
    rfl

/-- What a catalogue goes by. -/
structure Card where
  id : PassId
  name : String
  arg : String
  short : Option Char

/-- The name as a key: every entry has one. -/
def Card.naming (card : Card) : Option String := some card.name

/-- The long argument as a key. -/
def Card.calling (card : Card) : Option String := some card.arg

/-- The card of a pass type that is registered under that identity. -/
def Registration.card (registration : Registration) (id : PassId) : Card where
  id
  name := registration.name
  arg := registration.arg
  short := registration.short

/-- The card of an entry. -/
def Descriptor.card (pass : Descriptor) : Card := pass.toRegistration.card pass.id

namespace Catalog

variable {κ : Type} {catalog after : Catalog} {id other : PassId} {registration : Registration}
  {key : Card → Option κ} {value : κ}

/-- The card of the entry with that identity. -/
def card? (catalog : Catalog) (id : PassId) : Option Card :=
  (catalog.find? id).map Descriptor.card

theorem card?_eq_some_iff {card : Card} :
    catalog.card? id = some card ↔ ∃ pass, catalog.find? id = some pass ∧ pass.card = card :=
  Option.map_eq_some_iff

/-! ## Keys -/

/-- No two entries have the same value of a key. -/
def Unique (catalog : Catalog) (key : Card → Option κ) : Prop :=
  ∀ ⦃id other card another value⦄, catalog.card? id = some card →
    catalog.card? other = some another → key card = some value → key another = some value →
    id = other

/-- An entry has that value of a key. -/
def Takes (catalog : Catalog) (key : Card → Option κ) (value : κ) : Prop :=
  ∃ id card, catalog.card? id = some card ∧ key card = some value

/-- What is looked for is found where it is. -/
theorem search_isSome_iff (catalog : Catalog) {condition : Descriptor → Bool}
    (hkey : ∀ pass, condition pass = true ↔ key pass.card = some value) :
    (catalog.search condition).isSome = true ↔ catalog.Takes key value := by
  rw [search, Option.isSome_map, List.find?_isSome]
  constructor
  · rintro ⟨⟨id, pass⟩, hmem, hcondition⟩
    rw [Std.ExtTreeMap.mem_toList_iff_getElem?_eq_some] at hmem
    exact ⟨id, pass.card, card?_eq_some_iff.mpr ⟨pass, hmem, rfl⟩, (hkey pass).mp hcondition⟩
  · rintro ⟨id, card, hcard, hvalue⟩
    obtain ⟨pass, hpass, rfl⟩ := card?_eq_some_iff.mp hcard
    exact ⟨(id, pass), Std.ExtTreeMap.mem_toList_iff_getElem?_eq_some.mpr hpass,
      (hkey pass).mpr hvalue⟩

theorem Unique.search_eq_some_iff (hunique : catalog.Unique key)
    {condition : Descriptor → Bool}
    (hkey : ∀ pass, condition pass = true ↔ key pass.card = some value) :
    catalog.search condition = some id ↔
      ∃ card, catalog.card? id = some card ∧ key card = some value := by
  have hfound : ∀ found, catalog.search condition = some found →
      ∃ card, catalog.card? found = some card ∧ key card = some value := by
    intro found hsearch
    obtain ⟨⟨id, pass⟩, hfind, rfl⟩ := Option.map_eq_some_iff.mp hsearch
    have hmem := List.mem_of_find?_eq_some hfind
    rw [Std.ExtTreeMap.mem_toList_iff_getElem?_eq_some] at hmem
    have hcondition := List.find?_some hfind
    exact ⟨pass.card, card?_eq_some_iff.mpr ⟨pass, hmem, rfl⟩, (hkey pass).mp hcondition⟩
  refine ⟨hfound id, ?_⟩
  rintro ⟨card, hcard, hvalue⟩
  have hsome := (catalog.search_isSome_iff hkey).mpr ⟨id, card, hcard, hvalue⟩
  obtain ⟨found, hsearch⟩ := Option.isSome_iff_exists.mp hsome
  obtain ⟨another, hanother, hsame⟩ := hfound found hsearch
  rw [hsearch, hunique hanother hcard hsame hvalue]

/-! ## Orderly catalogues -/

/-- A numbered catalogue whose entries know their numbers and share no name and no argument. -/
structure Orderly (catalog : Catalog) : Prop extends catalog.Numbered where
  few : catalog.size ≤ 2 ^ 32
  id_eq : ∀ ⦃id card⦄, catalog.card? id = some card → card.id = id
  names : catalog.Unique Card.naming
  args : catalog.Unique Card.calling
  shorts : catalog.Unique Card.short

theorem name_beq_iff (name : String) (pass : Descriptor) :
    (pass.name == name) = true ↔ pass.card.naming = some name := by
  rw [beq_iff_eq, Card.naming, Option.some_inj]
  exact Iff.rfl

theorem arg_beq_iff (arg : String) (pass : Descriptor) :
    (pass.arg == arg) = true ↔ pass.card.calling = some arg := by
  rw [beq_iff_eq, Card.calling, Option.some_inj]
  exact Iff.rfl

theorem short_beq_iff (short : Char) (pass : Descriptor) :
    (pass.short == some short) = true ↔ pass.card.short = some short := by
  rw [beq_iff_eq]
  exact Iff.rfl

theorem Orderly.findName_eq_some_iff (horderly : catalog.Orderly) {name : String} :
    catalog.findName name = some id ↔ ∃ pass, catalog.find? id = some pass ∧ pass.name = name := by
  rw [findName, horderly.names.search_eq_some_iff (name_beq_iff name)]
  simp [card?_eq_some_iff, Card.naming, Descriptor.card, Registration.card]

theorem Orderly.findArg_eq_some_iff (horderly : catalog.Orderly) {arg : String} :
    catalog.findArg arg = some id ↔ ∃ pass, catalog.find? id = some pass ∧ pass.arg = arg := by
  rw [findArg, horderly.args.search_eq_some_iff (arg_beq_iff arg)]
  simp [card?_eq_some_iff, Card.calling, Descriptor.card, Registration.card]

theorem orderly_empty : ({} : Catalog).Orderly where
  toNumbered := numbered_empty
  few := Nat.zero_le _
  id_eq _ _ hcard := by simp [card?, find?] at hcard
  names _ _ _ _ _ hcard := by simp [card?, find?] at hcard
  args _ _ _ _ _ hcard := by simp [card?, find?] at hcard
  shorts _ _ _ _ _ hcard := by simp [card?, find?] at hcard

/-! ## Entries in order -/

/-- The identities of the entries are the first numbers. -/
theorem Numbered.keys_eq (hnumbered : catalog.Numbered) (hfew : catalog.size ≤ 2 ^ 32) :
    catalog.entries.keys = (List.range catalog.size).map PassId.ofNat := by
  have htoNat : ∀ number < catalog.size, (PassId.ofNat number).toNat = number :=
    fun number hnumber => PassId.toNat_ofNat (Nat.lt_of_lt_of_le hnumber hfew)
  refine PassId.eq_of_ascending ?_ ?_ fun id => ?_
  · exact catalog.entries.ordered_keys.imp PassId.compare_eq_lt.mp
  · refine List.pairwise_map.mpr (List.pairwise_lt_range.imp_of_mem ?_)
    intro first second hfirst hsecond hless
    rwa [htoNat first (List.mem_range.mp hfirst), htoNat second (List.mem_range.mp hsecond)]
  · rw [Std.ExtTreeMap.mem_keys, hnumbered.mem_iff, List.mem_map]
    constructor
    · intro hless
      exact ⟨id.toNat, List.mem_range.mpr hless, PassId.toNat_injective (htoNat _ hless)⟩
    · rintro ⟨number, hnumber, rfl⟩
      rw [List.mem_range] at hnumber
      rwa [htoNat number hnumber]

/-- The entries stand in the order of their numbers. -/
theorem Numbered.getElem?_descriptors (hnumbered : catalog.Numbered) (hfew : catalog.size ≤ 2 ^ 32)
    (id : PassId) : catalog.descriptors[id.toNat]? = catalog.find? id := by
  rw [descriptors, IdMap.values_eq, List.getElem?_map]
  rcases hentry : catalog.entries.toList[id.toNat]? with _ | ⟨key, pass⟩
  · have hsize : catalog.size ≤ id.toNat := by
      rw [List.getElem?_eq_none_iff, Std.ExtTreeMap.length_toList] at hentry
      exact hentry
    symm
    rw [Option.map_none, ← Option.not_isSome_iff_eq_none, find?,
      Std.ExtTreeMap.isSome_getElem?_iff_mem, hnumbered.mem_iff]
    omega
  · have hless : id.toNat < catalog.size := by
      have := (List.getElem?_eq_some_iff.mp hentry).1
      rwa [Std.ExtTreeMap.length_toList] at this
    have hkey : (catalog.entries.keys)[id.toNat]? = some key := by
      rw [← Std.ExtTreeMap.map_fst_toList_eq_keys, List.getElem?_map, hentry]
      rfl
    have hid : key = id := by
      rw [hnumbered.keys_eq hfew, List.getElem?_map, List.getElem?_range hless, Option.map_some,
        Option.some_inj] at hkey
      rw [← hkey]
      exact PassId.toNat_injective (PassId.toNat_ofNat (Nat.lt_of_lt_of_le hless hfew))
    rw [Option.map_some, ← hid]
    exact (Std.ExtTreeMap.mem_toList_iff_getElem?_eq_some.mp
      (List.mem_of_getElem? hentry)).symm

theorem length_descriptors (catalog : Catalog) : catalog.descriptors.length = catalog.size := by
  rw [descriptors, IdMap.values_eq, List.length_map, Std.ExtTreeMap.length_toList]
  rfl

/-- A list that has the entries at their numbers, and nothing behind them, is the list of the
entries. -/
theorem Numbered.descriptors_eq (hnumbered : catalog.Numbered) (hfew : catalog.size ≤ 2 ^ 32)
    {passes : List Descriptor} (hlength : passes.length = catalog.size)
    (hpasses : ∀ id : PassId, id.toNat < catalog.size →
      passes[id.toNat]? = catalog.find? id) :
    catalog.descriptors = passes := by
  refine List.ext_getElem? fun position => ?_
  by_cases hposition : position < catalog.size
  · have hnumber := PassId.toNat_ofNat (Nat.lt_of_lt_of_le hposition hfew)
    have hentry := hpasses (PassId.ofNat position) (by omega)
    rw [← hnumber, hentry, hnumbered.getElem?_descriptors hfew]
  · rw [List.getElem?_eq_none (by rw [length_descriptors]; omega),
      List.getElem?_eq_none (by omega)]

theorem mem_descriptors_iff {pass : Descriptor} :
    pass ∈ catalog.descriptors ↔ ∃ id, catalog.find? id = some pass := by
  rw [descriptors, IdMap.values_eq, List.mem_map]
  constructor
  · rintro ⟨⟨id, pass⟩, hmem, rfl⟩
    exact ⟨id, Std.ExtTreeMap.mem_toList_iff_getElem?_eq_some.mp hmem⟩
  · rintro ⟨id, hfind⟩
    exact ⟨(id, pass), Std.ExtTreeMap.mem_toList_iff_getElem?_eq_some.mpr hfind, rfl⟩

/-- The values of a key are all different. -/
theorem Orderly.nodup_of_unique (horderly : catalog.Orderly) (hunique : catalog.Unique key) :
    (catalog.descriptors.filterMap (key ·.card)).Nodup := by
  have hentry : ∀ {position pass}, catalog.descriptors[position]? = some pass →
      ∃ id : PassId, id.toNat = position ∧ catalog.card? id = some pass.card := by
    intro position pass hpass
    have hposition := (List.getElem?_eq_some_iff.mp hpass).1
    rw [length_descriptors] at hposition
    have hnumber := PassId.toNat_ofNat (Nat.lt_of_lt_of_le hposition horderly.few)
    refine ⟨PassId.ofNat position, hnumber, card?_eq_some_iff.mpr ⟨pass, ?_, rfl⟩⟩
    rw [← horderly.getElem?_descriptors horderly.few, hnumber, hpass]
  rw [List.Nodup, List.pairwise_filterMap, List.pairwise_iff_getElem]
  · rintro first second hfirst hsecond hless value hvalue another hsame rfl
    obtain ⟨id, hid, hcard⟩ := hentry (List.getElem?_eq_getElem hfirst)
    obtain ⟨other, hother, hanother⟩ := hentry (List.getElem?_eq_getElem hsecond)
    cases hunique hcard hanother hvalue hsame
    omega

/-! ## Registrations -/

/-- The reasons for a refusal, in the order in which they are looked for. -/
inductive Refuses (catalog : Catalog) (registration : Registration) : PassError → Prop
  | name : catalog.Takes Card.naming registration.name →
      catalog.Refuses registration (.duplicateName registration.name)
  | arg : ¬ catalog.Takes Card.naming registration.name →
      catalog.Takes Card.calling registration.arg →
      catalog.Refuses registration (.duplicateArg registration.arg)
  | short {short : Char} : ¬ catalog.Takes Card.naming registration.name →
      ¬ catalog.Takes Card.calling registration.arg →
      registration.short = some short → catalog.Takes Card.short short →
      catalog.Refuses registration (.duplicateArg short.toString)

theorem Refuses.conflict?_eq {error : PassError} (hrefuses : catalog.Refuses registration error) :
    catalog.conflict? registration = some error := by
  have hname := catalog.search_isSome_iff (name_beq_iff registration.name)
  have harg := catalog.search_isSome_iff (arg_beq_iff registration.arg)
  rw [conflict?, findName, findArg]
  cases hrefuses with
  | name htaken => rw [if_pos (hname.mpr htaken)]
  | arg hfree htaken => rw [if_neg (mt hname.mp hfree), if_pos (harg.mpr htaken)]
  | @short short hfree hfreeArg hshort htaken =>
    have hused := (catalog.search_isSome_iff (short_beq_iff short)).mpr htaken
    rw [if_neg (mt hname.mp hfree), if_neg (mt harg.mp hfreeArg), hshort]
    exact if_pos hused

theorem conflict?_of_free (hname : ¬ catalog.Takes Card.naming registration.name)
    (harg : ¬ catalog.Takes Card.calling registration.arg)
    (hshort : ∀ short, registration.short = some short → ¬ catalog.Takes Card.short short) :
    catalog.conflict? registration = none := by
  have hfreeName := mt (catalog.search_isSome_iff (name_beq_iff registration.name)).mp hname
  have hfreeArg := mt (catalog.search_isSome_iff (arg_beq_iff registration.arg)).mp harg
  rw [conflict?, findName, findArg, if_neg hfreeName, if_neg hfreeArg]
  cases hsome : registration.short with
  | none => rfl
  | some short =>
    exact if_neg (mt (catalog.search_isSome_iff (short_beq_iff short)).mp (hshort short hsome))

/-- A registration is free, or there is one reason to refuse it. -/
theorem refuses_or_free (catalog : Catalog) (registration : Registration) :
    (∃ error, catalog.Refuses registration error) ∨
      ¬ catalog.Takes Card.naming registration.name ∧
      ¬ catalog.Takes Card.calling registration.arg ∧
      ∀ short, registration.short = some short → ¬ catalog.Takes Card.short short := by
  by_cases hname : catalog.Takes Card.naming registration.name
  · exact Or.inl ⟨_, .name hname⟩
  by_cases harg : catalog.Takes Card.calling registration.arg
  · exact Or.inl ⟨_, .arg hname harg⟩
  by_cases hshort : ∃ short, registration.short = some short ∧ catalog.Takes Card.short short
  · obtain ⟨short, hsome, htaken⟩ := hshort
    exact Or.inl ⟨_, .short hname harg hsome htaken⟩
  · exact Or.inr ⟨hname, harg, fun short hsome htaken => hshort ⟨short, hsome, htaken⟩⟩

theorem conflict?_eq_some_iff {error : PassError} :
    catalog.conflict? registration = some error ↔ catalog.Refuses registration error := by
  refine ⟨fun hconflict => ?_, Refuses.conflict?_eq⟩
  rcases catalog.refuses_or_free registration with ⟨reason, hrefuses⟩ | ⟨hname, harg, hshort⟩
  · cases hrefuses.conflict?_eq.symm.trans hconflict
    exact hrefuses
  · cases (conflict?_of_free hname harg hshort).symm.trans hconflict

theorem conflict?_eq_none_iff :
    catalog.conflict? registration = none ↔
      ¬ catalog.Takes Card.naming registration.name ∧
      ¬ catalog.Takes Card.calling registration.arg ∧
      ∀ short, registration.short = some short → ¬ catalog.Takes Card.short short := by
  refine ⟨fun hnone => ?_, fun ⟨hname, harg, hshort⟩ => conflict?_of_free hname harg hshort⟩
  refine (catalog.refuses_or_free registration).resolve_left ?_
  rintro ⟨error, hrefuses⟩
  cases hrefuses.conflict?_eq.symm.trans hnone

theorem card?_install :
    (catalog.install id registration).card? other =
      if id = other then some (registration.card id) else catalog.card? other := by
  rw [card?, find?_install]
  split
  · rfl
  · rfl

/-- A key stays unique if the entry that is added has a value of its own. -/
theorem Unique.install (hunique : catalog.Unique key)
    (hfree : ∀ value, key (registration.card id) = some value → ¬ catalog.Takes key value) :
    (catalog.install id registration).Unique key := by
  intro first second card another value hcard hanother hvalue hsame
  rw [card?_install] at hcard hanother
  split at hcard
  · next hfirst =>
    cases hcard
    split at hanother
    · next hsecond => exact hfirst.symm.trans hsecond
    · exact absurd ⟨second, another, hanother, hsame⟩ (hfree value hvalue)
  · split at hanother
    · cases hanother
      exact absurd ⟨first, card, hcard, hvalue⟩ (hfree value hsame)
    · exact hunique hcard hanother hvalue hsame

/-- What is looked for is now found at the new entry, if it has the value. -/
theorem Unique.search_install (hunique : catalog.Unique key)
    (hafter : (catalog.install id registration).Unique key) {condition : Descriptor → Bool}
    (hkey : ∀ pass, condition pass = true ↔ key pass.card = some value)
    (hnew : catalog.card? id = none)
    (hfree : ∀ value, key (registration.card id) = some value → ¬ catalog.Takes key value)
    [Decidable (key (registration.card id) = some value)] :
    (catalog.install id registration).search condition =
      if key (registration.card id) = some value then some id else catalog.search condition := by
  refine Option.ext fun other => ?_
  rw [hafter.search_eq_some_iff hkey, card?_install]
  split
  · next hsame =>
    subst hsame
    split
    · next hvalue => simp [hvalue]
    · next hvalue =>
      rw [hunique.search_eq_some_iff hkey, hnew]
      simp [hvalue]
  · next hne =>
    split
    · next hvalue =>
      have hno : ¬ ∃ card, catalog.card? other = some card ∧ key card = some value :=
        fun htaken => hfree value hvalue ⟨other, htaken⟩
      simp [hno, hne]
    · rw [hunique.search_eq_some_iff hkey]

theorem register_eq_ok_iff :
    catalog.register registration = .ok (id, after) ↔
      catalog.conflict? registration = none ∧ id = PassId.ofNat catalog.size ∧
        after = catalog.install id registration := by
  rw [register]
  split
  · next error herror => simp [herror]
  · next hnone => aesop

theorem register_eq_error_iff {error : PassError} :
    catalog.register registration = .error error ↔ catalog.Refuses registration error := by
  rw [← conflict?_eq_some_iff, register]
  split
  · next found hfound => simp [hfound]
  · next hnone => simp [hnone]

/-- A registration adds an entry behind the others. -/
theorem Orderly.register (horderly : catalog.Orderly) (hroom : catalog.size < 2 ^ 32)
    (hregister : catalog.register registration = .ok (id, after)) :
    after.Orderly ∧ after.descriptors = catalog.descriptors ++ [{ registration with id }] := by
  have hgrows := horderly.toNumbered.register hroom hregister
  obtain ⟨hnone, -, rfl⟩ := register_eq_ok_iff.mp hregister
  obtain ⟨hname, harg, hshort⟩ := conflict?_eq_none_iff.mp hnone
  have hfew : (catalog.install id registration).size ≤ 2 ^ 32 := by
    rw [hgrows.size_eq]
    exact hroom
  constructor
  · refine ⟨hgrows.numbered, hfew, fun other card hcard => ?_, ?_, ?_, ?_⟩
    · rw [card?_install] at hcard
      split at hcard
      · next hsame =>
        cases hcard
        exact hsame
      · exact horderly.id_eq hcard
    · refine horderly.names.install fun value hvalue => ?_
      cases hvalue
      exact hname
    · refine horderly.args.install fun value hvalue => ?_
      cases hvalue
      exact harg
    · exact horderly.shorts.install hshort
  · -- The numbers are positions, so the list is compared entry by entry.
    refine hgrows.numbered.descriptors_eq hfew ?_ fun other hother => ?_
    · rw [hgrows.size_eq, List.length_append, length_descriptors]
      rfl
    · rw [find?_install]
      split
      · next hsame =>
        rw [← hsame, hgrows.number, List.getElem?_append_right (by rw [length_descriptors]),
          length_descriptors, Nat.sub_self]
        rfl
      · next hne =>
        have hnumber : other.toNat ≠ id.toNat := fun heq => hne (PassId.toNat_injective heq).symm
        have hsize := hgrows.size_eq
        have hid := hgrows.number
        rw [List.getElem?_append_left (by rw [length_descriptors]; omega)]
        exact horderly.getElem?_descriptors horderly.few other

/-! ## Changes -/

/-- What leaves the cards alone leaves a catalogue orderly. -/
theorem Orderly.of_cards (horderly : catalog.Orderly) (hnumbered : after.Numbered)
    (hsize : after.size = catalog.size) (hcards : ∀ id, after.card? id = catalog.card? id) :
    after.Orderly where
  toNumbered := hnumbered
  few := by
    rw [hsize]
    exact horderly.few
  id_eq _ _ hcard := horderly.id_eq ((hcards _).symm.trans hcard)
  names _ _ _ _ _ hcard hanother := horderly.names ((hcards _).symm.trans hcard)
    ((hcards _).symm.trans hanother)
  args _ _ _ _ _ hcard hanother := horderly.args ((hcards _).symm.trans hcard)
    ((hcards _).symm.trans hanother)
  shorts _ _ _ _ _ hcard hanother := horderly.shorts ((hcards _).symm.trans hcard)
    ((hcards _).symm.trans hanother)

theorem Orderly.findName_congr (horderly : catalog.Orderly) (hafter : after.Orderly)
    (hcards : ∀ id, after.card? id = catalog.card? id) (name : String) :
    after.findName name = catalog.findName name := by
  refine Option.ext fun id => ?_
  rw [findName, findName, hafter.names.search_eq_some_iff (name_beq_iff name),
    horderly.names.search_eq_some_iff (name_beq_iff name), hcards]

theorem Orderly.findArg_congr (horderly : catalog.Orderly) (hafter : after.Orderly)
    (hcards : ∀ id, after.card? id = catalog.card? id) (arg : String) :
    after.findArg arg = catalog.findArg arg := by
  refine Option.ext fun id => ?_
  rw [findArg, findArg, hafter.args.search_eq_some_iff (arg_beq_iff arg),
    horderly.args.search_eq_some_iff (arg_beq_iff arg), hcards]

theorem card?_update {change : Descriptor → Descriptor}
    (hchange : ∀ pass, (change pass).card = pass.card) :
    (catalog.update id change).card? other = catalog.card? other := by
  rw [card?, card?, find?_update]
  split
  · next hsame =>
    subst hsame
    rw [Option.map_map]
    exact congrArg (Option.map · _) (funext hchange)
  · rfl

theorem Orderly.update (horderly : catalog.Orderly) {change : Descriptor → Descriptor}
    (hchange : ∀ pass, (change pass).card = pass.card) :
    (catalog.update id change).Orderly ∧
      (catalog.update id change).descriptors = catalog.descriptors.modify id.toNat change := by
  have hsize := (catalog.mem_entries_update id id change).2
  have hnumbered := horderly.toNumbered.update id change
  refine ⟨horderly.of_cards hnumbered hsize fun _ => card?_update hchange, ?_⟩
  refine hnumbered.descriptors_eq (hsize ▸ horderly.few) ?_ fun other _ => ?_
  · rw [List.length_modify, length_descriptors, hsize]
  · rw [List.getElem?_modify, horderly.getElem?_descriptors horderly.few, find?_update]
    by_cases hsame : id = other
    · subst hsame
      simp
    · have hne : id.toNat ≠ other.toNat := fun heq => hsame (PassId.toNat_injective heq)
      simp [hne, hsame]

theorem find?_clearSelection :
    catalog.clearSelection.find? id =
      (catalog.find? id).map fun pass => { pass with selected := false } := by
  rw [find?, clearSelection, Std.ExtTreeMap.getElem?_map]
  rfl

theorem card?_clearSelection : catalog.clearSelection.card? id = catalog.card? id := by
  rw [card?, card?, find?_clearSelection, Option.map_map]
  rfl

theorem Orderly.clearSelection (horderly : catalog.Orderly) :
    catalog.clearSelection.Orderly ∧
      catalog.clearSelection.descriptors =
        catalog.descriptors.map fun pass => { pass with selected := false } := by
  have hsize : catalog.clearSelection.size = catalog.size := Std.ExtTreeMap.size_map
  have hnumbered : catalog.clearSelection.Numbered := ⟨fun id => by
    rw [hsize, ← horderly.mem_iff, mem_entries_iff, mem_entries_iff]
    simp [find?_clearSelection]⟩
  refine ⟨horderly.of_cards hnumbered hsize fun _ => card?_clearSelection, ?_⟩
  refine hnumbered.descriptors_eq (hsize ▸ horderly.few) ?_ fun id _ => ?_
  · rw [List.length_map, length_descriptors, hsize]
  · rw [List.getElem?_map, horderly.getElem?_descriptors horderly.few, find?_clearSelection]

end Catalog

end PassPipeline
