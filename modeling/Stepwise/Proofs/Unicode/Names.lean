import Stepwise.Unicode.Property

/-!
# Names of properties

No property has a backslash in its name, and none is dropped when names are compared. Main
statement: what is found by a name is found by a name without a backslash.
-/

namespace Stepwise.Unicode

/-- The tables in which names are looked up. -/
def namedTables : List (List (List String × Ranges)) :=
  [composedProperties ++ tabulatedProperties, categories, scripts, ages, clusterClasses,
   wordClasses, sentenceClasses]

variable {name : String}

/-- A backslash is one byte of a text, which is quicker to look for than a character. -/
theorem byte_mem_of_backslash_mem (h : '\\' ∈ name.toList) :
    92 ∈ name.toByteArray.data.toList := by
  rw [← String.utf8Encode_toList, List.utf8Encode, List.toList_data_toByteArray]
  exact List.mem_flatMap.mpr ⟨'\\', h, by decide⟩

theorem byte_not_mem_names :
    ∀ table ∈ namedTables, ∀ entry ∈ table, ∀ name ∈ entry.1,
      92 ∉ name.toByteArray.data.toList := by
  decide +kernel

theorem backslash_not_mem_of_contains {table : List (List String × Ranges)}
    (htable : table ∈ namedTables) {entry : List String × Ranges} (hentry : entry ∈ table)
    (hname : entry.1.contains name = true) : '\\' ∉ name.toList := fun h =>
  byte_not_mem_names table htable entry hentry name (List.contains_iff_mem.mp hname)
    (byte_mem_of_backslash_mem h)

theorem backslash_not_mem_of_find? {table : List (List String × Ranges)}
    (htable : table ∈ namedTables) {entry : List String × Ranges}
    (h : table.find? (·.1.contains name) = some entry) : '\\' ∉ name.toList :=
  backslash_not_mem_of_contains htable (List.mem_of_find?_eq_some h)
    (List.find?_some (p := fun entry : List String × Ranges => entry.1.contains name) h)

/-- A backslash is kept when names are compared. -/
theorem backslash_mem_looseName (h : '\\' ∈ name.toList) : '\\' ∈ (looseName name).toList := by
  have hkept : ∀ (isDropped : Bool) (cs : List Char), '\\' ∈ cs →
      let kept := (cs.filter fun c => c.toNat < 0x80 ∧ c ∉ [' ', '_', '-']).map Char.toLower
      '\\' ∈ (if isDropped ∧ kept = ['c'] then "isc" else String.ofList kept).toList := by
    intro isDropped cs hcs kept
    have hmem : '\\' ∈ kept :=
      List.mem_map.mpr ⟨'\\', List.mem_filter.mpr ⟨hcs, by decide⟩, by decide⟩
    rw [if_neg, String.toList_ofList]
    · exact hmem
    · rintro ⟨-, hc⟩
      rw [hc] at hmem
      exact absurd hmem (by decide)
  unfold looseName
  generalize name.toList = cs at h ⊢
  simp only
  split
  · rename_i a b rest
    by_cases his : a.toLower = 'i' ∧ b.toLower = 's'
    · rw [if_pos his]
      refine hkept true rest ?_
      simp only [List.mem_cons] at h
      rcases h with rfl | rfl | h
      · exact absurd his.1 (by decide)
      · exact absurd his.2 (by decide)
      · exact h
    · rw [if_neg his]
      exact hkept false _ h
  · exact hkept false cs h

theorem backslash_not_mem_of_script? {entry : List String × Ranges}
    (h : script? name = some entry) : '\\' ∉ name.toList :=
  backslash_not_mem_of_find? (show scripts ∈ namedTables by simp [namedTables]) h

theorem backslash_not_mem_of_category? {s : Ranges} (h : category? name = some s) :
    '\\' ∉ name.toList := by
  obtain ⟨entry, hentry, -⟩ := Option.map_eq_some_iff.mp h
  exact backslash_not_mem_of_find? (show categories ∈ namedTables by simp [namedTables]) hentry

theorem backslash_not_mem_of_named? {s : Ranges} (h : named? name = some s) :
    '\\' ∉ name.toList := by
  refine fun hmem => absurd (backslash_mem_looseName hmem) ?_
  rcases Option.or_eq_some_iff.mp h with h | ⟨-, h⟩
  · obtain ⟨entry, hentry, -⟩ := Option.map_eq_some_iff.mp h
    exact backslash_not_mem_of_find? (by simp [namedTables]) hentry
  · rcases Option.or_eq_some_iff.mp h with h | ⟨-, h⟩
    · exact backslash_not_mem_of_category? h
    · obtain ⟨entry, hentry, -⟩ := Option.map_eq_some_iff.mp h
      exact backslash_not_mem_of_script? hentry

theorem backslash_not_mem_of_classOf? {classes : List (List String × Ranges)}
    (hclasses : classes ∈ namedTables) {s : Ranges} (h : classOf? classes name = some s) :
    '\\' ∉ name.toList := by
  obtain ⟨entry, hentry, -⟩ := Option.map_eq_some_iff.mp h
  exact backslash_not_mem_of_find? hclasses hentry

theorem backslash_not_mem_of_agedUpTo? {s : Ranges} (h : agedUpTo? name = some s) :
    '\\' ∉ name.toList := by
  unfold agedUpTo? at h
  extract_lets isMeant at h
  split at h
  · cases h
  · rename_i version later heq
    have hmem : version ∈ ages :=
      (List.dropWhile_sublist (!isMeant ·)).subset (by rw [heq]; exact List.mem_cons_self)
    have hversion : isMeant version = true := by
      have hhead := List.head?_dropWhile_not (!isMeant ·) ages
      rw [heq] at hhead
      simpa using hhead
    exact backslash_not_mem_of_contains (show ages ∈ namedTables by simp [namedTables]) hmem
      hversion

theorem backslash_not_mem_of_scriptExtension? {s : Ranges} (h : scriptExtension? name = some s) :
    '\\' ∉ name.toList := by
  obtain ⟨entry, hentry, -⟩ := Option.map_eq_some_iff.mp h
  exact backslash_not_mem_of_script? hentry

theorem backslash_not_mem_of_valued? {property value : String} {s : Ranges}
    (h : valued? property value = some s) :
    '\\' ∉ property.toList ∧ '\\' ∉ value.toList := by
  unfold valued? at h
  extract_lets loose at h
  constructor
  · refine fun hmem => absurd (backslash_mem_looseName hmem) ?_
    split at h
    case h_14 => cases h
    all_goals
      rename_i heq
      rw [heq]
      decide
  · refine fun hmem => absurd (backslash_mem_looseName hmem) ?_
    split at h
    · exact backslash_not_mem_of_category? h
    · exact backslash_not_mem_of_category? h
    · obtain ⟨entry, hentry, -⟩ := Option.map_eq_some_iff.mp h
      exact backslash_not_mem_of_script? hentry
    · obtain ⟨entry, hentry, -⟩ := Option.map_eq_some_iff.mp h
      exact backslash_not_mem_of_script? hentry
    · exact backslash_not_mem_of_scriptExtension? h
    · exact backslash_not_mem_of_scriptExtension? h
    · exact backslash_not_mem_of_agedUpTo? h
    · exact backslash_not_mem_of_classOf? (by simp [namedTables]) h
    · exact backslash_not_mem_of_classOf? (by simp [namedTables]) h
    · exact backslash_not_mem_of_classOf? (by simp [namedTables]) h
    · exact backslash_not_mem_of_classOf? (by simp [namedTables]) h
    · exact backslash_not_mem_of_classOf? (by simp [namedTables]) h
    · exact backslash_not_mem_of_classOf? (by simp [namedTables]) h
    · cases h

end Stepwise.Unicode
