import Mathlib.Data.List.SplitBy
import PassPipeline.Environment
import PassPipeline.Proofs.Text.Bytes

/-!
# The variables of a process

The system lists the variables of a process, each as its name, an equals sign and its value, and
ends each with a zero.  The names and the values are bytes.  The environment is read from the
listing as it was put there (`ofBytes_listing`), and a name has a text if its value is one
(`get?_listed`).
-/

namespace PassPipeline.Environment

variable {first second : String} {value : OsText} {bindings : List (OsText × OsText)}

/-- A variable as it is listed, but for the zero. -/
def written (binding : OsText × OsText) : List UInt8 :=
  (binding.1 ++ ("=".toUTF8 ++ binding.2)).data.toList

/-- The listing of variables. -/
def listing (bindings : List (OsText × OsText)) : ByteArray :=
  ⟨(bindings.flatMap fun binding => written binding ++ [0]).toArray⟩

/-- The name of the variable ends where the equals sign is, and the variable where the zero is. -/
structure Listable (binding : OsText × OsText) : Prop where
  name : 0x3D ∉ binding.1.data.toList
  written : 0 ∉ written binding

/-- Zeros are where a listing is divided. -/
theorem splitBy_listing {words : List (List UInt8)} (hwords : ∀ word ∈ words, 0 ∉ word) :
    (words.flatMap (· ++ [0])).splitBy (fun byte _ => byte ≠ 0) = words.map (· ++ [0]) := by
  rw [List.flatMap_def]
  refine List.splitBy_flatten (by simp) ?_ ?_
  · intro whole hwhole
    obtain ⟨word, hword, rfl⟩ := List.mem_map.mp hwhole
    rw [List.isChain_iff_getElem]
    intro place hplace
    rw [List.length_append, List.length_singleton] at hplace
    have hwithin : place < word.length := by omega
    rw [List.getElem_append_left hwithin]
    have hbyte : word[place] ≠ 0 := fun hzero => hwords word hword (hzero ▸ List.getElem_mem _)
    exact decide_eq_true hbyte
  · rw [List.isChain_map, List.isChain_iff_getElem]
    intro place hplace
    exact ⟨by simp, by simp, by simp⟩

theorem ofLine?_written {binding : OsText × OsText} (hname : 0x3D ∉ binding.1.data.toList) :
    ofLine? (written binding) = some binding := by
  have hwritten : written binding =
      binding.1.data.toList ++ 0x3D :: binding.2.data.toList := by
    simp [written, ByteArray.data_append]
    rfl
  rw [hwritten, ofLine?, Text.span_name hname]
  rfl

/-! ## What is read -/

/-- A listing is read as the variables that it was made from. -/
theorem ofBytes_listing (hlistable : ∀ binding ∈ bindings, Listable binding) :
    ofBytes (listing bindings) = ⟨bindings⟩ := by
  have hlines : ∀ line ∈ bindings.map written, 0 ∉ line := by
    intro line hline
    obtain ⟨binding, hbinding, rfl⟩ := List.mem_map.mp hline
    exact (hlistable binding hbinding).written
  have hbytes : (listing bindings).toList = (bindings.map written).flatMap (· ++ [0]) := by
    rw [Text.toList_eq, List.flatMap_map]
    rfl
  have hread : ∀ binding ∈ bindings,
      ofLine? ((written binding ++ [0]).filter (· ≠ 0)) = some binding := by
    intro binding hbinding
    have hplain : ∀ byte ∈ written binding, decide (byte ≠ 0) = true := fun byte hbyte =>
      decide_eq_true fun hzero => (hlistable binding hbinding).written (hzero ▸ hbyte)
    rw [List.filter_append, List.filter_eq_self.mpr hplain, List.filter_cons_of_neg (by decide),
      List.filter_nil, List.append_nil, ofLine?_written (hlistable binding hbinding).name]
  rw [ofBytes, hbytes, splitBy_listing hlines, List.map_map, List.filterMap_map]
  exact congrArg Environment.mk ((List.filterMap_congr hread).trans List.filterMap_some)

theorem value?_eq_some_iff (hdistinct : (bindings.map Prod.fst).Nodup) :
    (⟨bindings⟩ : Environment).value? first = some value ↔ (first.toUTF8, value) ∈ bindings := by
  rw [value?, Option.map_eq_some_iff]
  constructor
  · rintro ⟨⟨name, found⟩, hfound, rfl⟩
    obtain rfl : name = first.toUTF8 := by simpa using List.find?_some hfound
    exact List.mem_of_find?_eq_some hfound
  · intro hmem
    induction bindings with
    | nil => cases hmem
    | cons binding rest ih =>
      obtain ⟨hnew, hrest⟩ := List.nodup_cons.mp hdistinct
      rcases List.mem_cons.mp hmem with rfl | hmem
      · exact ⟨_, List.find?_cons_of_pos (by simp), rfl⟩
      · have hother : binding.1 ≠ first.toUTF8 := by
          rintro heq
          exact hnew (heq ▸ List.mem_map_of_mem hmem)
        rw [List.find?_cons_of_neg (by simpa using hother)]
        exact ih hrest hmem

/-- What an environment says that was read from a listing. -/
theorem get?_listed (hdistinct : (bindings.map Prod.fst).Nodup)
    (hlistable : ∀ binding ∈ bindings, Listable binding) :
    (ofBytes (listing bindings)).get? first = some second ↔
      (first.toUTF8, second.toUTF8) ∈ bindings := by
  rw [ofBytes_listing hlistable, get?, Option.bind_eq_some_iff]
  simp only [value?_eq_some_iff hdistinct, Text.fromUTF8?_eq_some_iff]
  constructor
  · rintro ⟨value, hmem, rfl⟩
    exact hmem
  · exact fun hmem => ⟨_, hmem, rfl⟩

end PassPipeline.Environment
