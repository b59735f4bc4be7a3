import LoadOrder.Assembly
import LoadOrder.Proofs.Plugin.Merging

/-!
# What assembly makes of scans and lists

One record for each scanned plugin: the enabled records about it, combined in the order of the lists,
under what its first scan found.

* **`mem_firstOfEach_iff`**: a scan counts exactly when none before it is of the same plugin.
* **`find?_listed`**: the lists as one record for each plugin, without records for patterns.
* **`assembleOne_eq`**: the record of a scanned plugin.
* **`assemble_records`**: all records and their fields, from the first scans and the lists.
-/

namespace LoadOrder

/-! ## First scans -/

namespace Scanned

variable {scans : List Scanned} {seen : List String} {scanned : Scanned}

/-- The scan is in the list, and no scan before it is of the same plugin. -/
def IsFirst (scans : List Scanned) (scanned : Scanned) : Prop :=
  ∃ before after, scans = before ++ scanned :: after ∧
    ∀ earlier ∈ before, earlier.key ≠ scanned.key

theorem isFirst_cons {first : Scanned} :
    IsFirst (first :: scans) scanned
      ↔ scanned = first ∨ first.key ≠ scanned.key ∧ IsFirst scans scanned := by
  constructor
  · rintro ⟨before, after, hsplit, hbefore⟩
    cases before with
    | nil =>
      cases hsplit
      exact Or.inl rfl
    | cons _ before =>
      cases hsplit
      exact Or.inr ⟨hbefore first (List.mem_cons_self ..), before, after, rfl,
        fun earlier hearlier => hbefore earlier (List.mem_cons_of_mem _ hearlier)⟩
  · rintro (rfl | ⟨hfirst, before, after, rfl, hbefore⟩)
    · exact ⟨[], scans, rfl, fun _ hearlier => absurd hearlier List.not_mem_nil⟩
    · refine ⟨first :: before, after, rfl, fun earlier hearlier => ?_⟩
      rcases List.mem_cons.mp hearlier with rfl | hearlier
      · exact hfirst
      · exact hbefore earlier hearlier

/-- **Which scans count.** Those of plugins that have not been seen, and of these none but the
first. -/
theorem mem_firstOfEach_iff :
    scanned ∈ firstOfEach seen scans ↔ scanned.key ∉ seen ∧ IsFirst scans scanned := by
  fun_induction firstOfEach seen scans with
  | case1 seen =>
    refine iff_of_false List.not_mem_nil ?_
    rintro ⟨_, before, after, hsplit, _⟩
    exact absurd hsplit (by simp)
  | case2 seen first rest hseen ih =>
    have hseen : first.key ∈ seen := List.contains_iff_mem.mp hseen
    rw [ih, isFirst_cons]
    refine and_congr_right fun hnew => ?_
    have hkey : first.key ≠ scanned.key := fun hsame => hnew (hsame ▸ hseen)
    rw [or_iff_right (fun hsame => hkey (congrArg key hsame.symm)), and_iff_right hkey]
  | case3 seen first rest hseen ih =>
    have hseen : first.key ∉ seen := fun hmem => hseen (List.contains_iff_mem.mpr hmem)
    rw [List.mem_cons, ih, isFirst_cons]
    constructor
    · rintro (rfl | ⟨hnew, hfirst⟩)
      · exact ⟨hseen, Or.inl rfl⟩
      · exact ⟨List.not_mem_of_not_mem_cons hnew,
          Or.inr ⟨Ne.symm (List.ne_of_not_mem_cons hnew), hfirst⟩⟩
    · rintro ⟨hnew, rfl | ⟨hkey, hfirst⟩⟩
      · exact Or.inl rfl
      · exact Or.inr ⟨List.not_mem_cons_of_ne_of_not_mem (Ne.symm hkey) hnew, hfirst⟩

theorem IsFirst.find? (h : IsFirst scans scanned) :
    scans.find? (·.key == scanned.key) = some scanned := by
  obtain ⟨before, after, rfl, hbefore⟩ := h
  refine List.find?_eq_some_iff_append.mpr ⟨beq_self_eq_true _, before, after, rfl, ?_⟩
  intro earlier hearlier
  rw [beq_eq_false_iff_ne.mpr (hbefore earlier hearlier), Bool.not_false]

/-- First scans come in the order in which their plugins are first met. -/
theorem keys_firstOfEach (seen : List String) (scans : List Scanned) :
    (firstOfEach seen scans).map key
      = ((scans.map key).filter fun key => !seen.contains key).eraseDups := by
  fun_induction firstOfEach seen scans with
  | case1 => rfl
  | case2 seen first rest hseen ih =>
    rw [ih, List.map_cons, List.filter_cons_of_neg (by simpa using hseen)]
  | case3 seen first rest hseen ih =>
    have hnew : ∀ other : String, (!(first.key :: seen).contains other)
        = ((!other == first.key) && !seen.contains other) := by
      intro other
      rw [List.contains_cons, Bool.not_or]
    rw [List.map_cons, ih, List.map_cons, List.filter_cons_of_pos (by simpa using hseen),
      List.eraseDups_cons, List.filter_filter]
    simp only [hnew]

theorem pairwise_firstOfEach (seen : List String) (scans : List Scanned) :
    (firstOfEach seen scans).Pairwise fun a b => a.key ≠ b.key := by
  fun_induction firstOfEach seen scans with
  | case1 => exact .nil
  | case2 seen first rest _ ih => exact ih
  | case3 seen first rest _ ih =>
    refine List.pairwise_cons.mpr ⟨fun other hother => ?_, ih⟩
    exact Ne.symm (List.ne_of_not_mem_cons (mem_firstOfEach_iff.mp hother).1)

theorem exists_mem_firstOfEach (h : scanned ∈ scans) (hnew : scanned.key ∉ seen) :
    ∃ first ∈ firstOfEach seen scans, first.key = scanned.key := by
  have hkey : scanned.key ∈ (firstOfEach seen scans).map key := by
    rw [keys_firstOfEach, List.mem_eraseDups]
    exact List.mem_filter.mpr ⟨List.mem_map_of_mem h, by simpa using hnew⟩
  exact List.mem_map.mp hkey

end Scanned

/-! ## Listed records -/

namespace Assembly

variable {lists : List (List Plugin)} {scanned : Scanned} {key : String}

/-- The records of the lists that count for the plugin with a key, in their order. -/
def recordsAbout (lists : List (List Plugin)) (key : String) : List Plugin :=
  lists.flatten.filter fun record => record.enabled && !record.hasPatternName && record.key == key

theorem mem_recordsAbout {record : Plugin} :
    record ∈ recordsAbout lists key ↔ record ∈ lists.flatten ∧ record.enabled = true ∧
      record.hasPatternName = false ∧ record.key = key := by
  rw [recordsAbout, List.mem_filter, Bool.and_eq_true, Bool.and_eq_true, Bool.not_eq_true',
    beq_iff_eq, and_assoc]

theorem hasPatternName_congr {a b : Plugin} (h : a.key = b.key) :
    a.hasPatternName = b.hasPatternName := by
  rw [Plugin.hasPatternName, Plugin.hasPatternName, h]

/-- A test on which records about one plugin agree may come after the look-up. -/
theorem find?_filter_of_congr {keep : Plugin → Bool}
    (hkeep : ∀ a b : Plugin, a.key = b.key → keep a = keep b) (records : List Plugin) (key : String) :
    (records.filter keep).find? (·.key == key)
      = (records.find? (·.key == key)).filter keep := by
  induction records with
  | nil => rfl
  | cons first rest ih =>
    by_cases hkey : first.key = key
    · by_cases hpass : keep first
      · simp [Option.filter_some, hkey, hpass]
      · -- what is left of the records about the plugin fails the test as well
        have hrest : (rest.find? (·.key == key)).filter keep = none := by
          refine Option.filter_eq_none_iff.mpr fun other hother => ?_
          have hsame := List.find?_some hother
          rwa [hkeep other first ((eq_of_beq hsame).trans hkey.symm)]
        simp [Option.filter_some, hkey, hpass, ih, hrest]
    · by_cases hpass : keep first <;> simp [hkey, hpass, ih]

/-- What the lists say about the plugin with a key: its enabled records merged in their order, if there
are any and its name is not a pattern. -/
def listedAbout (lists : List (List Plugin)) (key : String) : Option Plugin :=
  (Plugin.mergeAll (lists.flatten.filter fun record => record.enabled && record.key == key)).filter
    fun record => !record.hasPatternName

/-- **The listed record about a plugin.** -/
theorem find?_listed (lists : List (List Plugin)) (key : String) :
    (listed lists).find? (·.key == key) = listedAbout lists key := by
  have hmerge : Plugin.mergeAll (lists.flatten.filter fun record => record.enabled && record.key == key)
      = Plugin.mergeAll (lists.flatten.filter (·.key == key)) := by
    rw [← List.filter_filter]
    unfold Plugin.mergeAll
    rw [List.filter_filter]
    simp only [Bool.and_self]
  rw [listed, find?_filter_of_congr (fun _ _ h => congrArg not (hasPatternName_congr h)),
    Plugin.find?_mergeSources, listedAbout, hmerge]

/-- Records that do not count may be left out before merging. -/
theorem listedAbout_eq (lists : List (List Plugin)) (key : String) :
    listedAbout lists key = Plugin.mergeAll (recordsAbout lists key) := by
  have hcounts : ∀ record ∈ lists.flatten.filter fun record => record.enabled && record.key == key,
      record.enabled = true ∧ record.key = key := by
    intro record hrecord
    obtain ⟨henabled, hkey⟩ := Bool.and_eq_true_iff.mp (List.mem_filter.mp hrecord).2
    exact ⟨henabled, eq_of_beq hkey⟩
  rw [listedAbout, Plugin.filter_mergeAll (fun record hrecord => (hcounts record hrecord).1)
    (fun record hrecord => (hcounts record hrecord).2)
    (fun _ _ h => congrArg not (hasPatternName_congr h)), List.filter_filter, recordsAbout]
  simp only [Bool.and_left_comm, Bool.and_assoc]

/-- What the lists say about a plugin combines the records that count for it. -/
theorem combines_of_listedAbout {record : Plugin} (h : listedAbout lists key = some record) :
    Plugin.Combines (recordsAbout lists key) record ∧ record.key = key ∧ record.enabled = true := by
  rw [listedAbout_eq] at h
  exact Plugin.combines_of_mergeAll (fun record hrecord => (mem_recordsAbout.mp hrecord).2.1)
    (fun record hrecord => (mem_recordsAbout.mp hrecord).2.2.2) h

theorem recordsAbout_eq_nil (h : listedAbout lists key = none) : recordsAbout lists key = [] := by
  rw [listedAbout_eq] at h
  exact (Plugin.mergeAll_eq_none_iff fun record hrecord => (mem_recordsAbout.mp hrecord).2.1).mp h

/-- **The record of a scanned plugin.** What the scan found is put over what the lists say, under the
scanned name. -/
theorem assembleOne_eq (lists : List (List Plugin)) (scanned : Scanned) :
    assembleOne (listed lists) scanned
      = ((listedAbout lists scanned.key).elim ({ name := scanned.name } : Plugin) fun record =>
          { record with name := scanned.name, enabled := true }).withScan scanned.scan := by
  unfold assembleOne
  rw [find?_listed]
  cases hlisted : listedAbout lists scanned.key with
  | none => rfl
  | some record =>
    have haccepts : ({ name := scanned.name } : Plugin).accepts record = true :=
      Plugin.accepts_iff.mpr (combines_of_listedAbout hlisted).2
    exact congrArg (Plugin.withScan · scanned.scan) (Plugin.merge_bare haccepts)

/-- What the scan found is put over a record that combines those of the lists. -/
theorem exists_combines_assembleOne (lists : List (List Plugin)) (scanned : Scanned) :
    ∃ unscanned : Plugin,
      assembleOne (listed lists) scanned = unscanned.withScan scanned.scan ∧
        unscanned.name = scanned.name ∧ unscanned.enabled = true ∧
          Plugin.Combines (recordsAbout lists scanned.key) unscanned := by
  refine ⟨_, assembleOne_eq lists scanned, ?_⟩
  cases hlisted : listedAbout lists scanned.key with
  | none =>
    rw [recordsAbout_eq_nil hlisted]
    exact ⟨rfl, rfl, .nil scanned.name⟩
  | some record =>
    obtain ⟨hcombines, _⟩ := combines_of_listedAbout hlisted
    exact ⟨rfl, rfl, hcombines.priority, hcombines.loadAfter, hcombines.requirements,
      hcombines.incompatibilities, hcombines.tags, hcombines.messages⟩

/-! ## Embedded tags -/

/-- The tags embedded in the description of a scan; of one name the first counts. -/
def embeddedTags (scan : ContentScan) : EntrySet Tag :=
  KeyedSet.insertAllNew ∅ ((Tag.embedded (scan.description.getD "")).map Entry.always)

/-- Embedded tags have no conditions. -/
theorem condition_of_mem_embeddedTags {scan : ContentScan} {entry : Entry Tag}
    (h : entry ∈ (embeddedTags scan).toList) : entry.condition = "" := by
  have hfind : (embeddedTags scan).find? (Keyed.key entry) = some entry :=
    KeyedSet.find?_eq_some_iff.mpr ⟨h, Keyed.hasKey_self entry⟩
  rw [embeddedTags, KeyedSet.find?_insertAllNew, KeyedSet.find?_empty, Option.none_or] at hfind
  obtain ⟨tag, _, rfl⟩ := List.mem_map.mp (List.mem_of_find?_eq_some hfind)
  rfl

theorem filter_embeddedTags (scan : ContentScan) {keep : String → Bool} (hkeep : keep "" = true) :
    (embeddedTags scan).filter (keep ·.condition) = embeddedTags scan := by
  have hall : (embeddedTags scan).toList.filter (keep ·.condition) = (embeddedTags scan).toList :=
    List.filter_eq_self.mpr fun entry hentry => by
      rw [condition_of_mem_embeddedTags hentry, hkeep]
  simp only [KeyedSet.filter, hall]

/-- The sets of tags of a scanned plugin, from the one that counts most: those of the records from the
last on, then the embedded ones. -/
def tagLayers (records : List Plugin) (scan : ContentScan) : List (EntrySet Tag) :=
  (records.map Plugin.tags).reverse ++ [embeddedTags scan]

theorem layers_tags_withScan {records : List Plugin} {plugin : Plugin}
    (h : Plugin.Combines records plugin) (scan : ContentScan) :
    KeyedSet.Layers (tagLayers records scan) (plugin.withScan scan).tags :=
  h.tags.insertAllNew _

/-- A tag that the record has is kept; of the embedded ones with its name the first counts. -/
theorem get?_tags_withScan (plugin : Plugin) (scan : ContentScan) (name : String) :
    (plugin.withScan scan).tags.get? name
      = (plugin.tags.get? name).or
          (((Tag.embedded (scan.description.getD "")).find? fun tag =>
            Name.key tag.name == Name.key name).map Entry.always) := by
  have hkey : (Keyed.hasKey (Name.key name) ∘ Entry.always)
      = fun tag : Tag => Name.key tag.name == Name.key name := by
    funext tag
    rw [Bool.eq_iff_iff, Function.comp_apply, Keyed.hasKey_iff, beq_iff_eq]
    exact Std.LawfulEqCmp.compare_eq_iff_eq
  rw [EntrySet.get?, Plugin.withScan, KeyedSet.find?_insertAllNew, List.find?_map, hkey]
  rfl

/-! ## Assembled records -/

/-- The record of a plugin is made of a scan and of what the lists say about it, if they say anything.
Lists have no say in what the plugin file holds; of the tags, those of the lists come first. -/
structure Assembled (listed? : Option Plugin) (scanned : Scanned) (plugin : Plugin) : Prop where
  name : plugin.name = scanned.name
  enabled : plugin.enabled = true
  priority : plugin.priority = listed?.elim 0 Plugin.priority
  loadAfter : plugin.loadAfter = listed?.elim ∅ Plugin.loadAfter
  requirements : plugin.requirements = listed?.elim ∅ Plugin.requirements
  incompatibilities : plugin.incompatibilities = listed?.elim ∅ Plugin.incompatibilities
  messages : plugin.messages = listed?.elim [] Plugin.messages
  isMaster : plugin.isMaster = scanned.scan.isMaster
  masters : plugin.masters = scanned.scan.masters
  content : plugin.content = scanned.scan.content
  tags : ∀ name, plugin.tags.get? name
    = (listed?.bind (·.tags.get? name)).or
        (((Tag.embedded (scanned.scan.description.getD "")).find? fun tag =>
          Name.key tag.name == Name.key name).map Entry.always)

theorem assembled_assembleOne (lists : List (List Plugin)) (scanned : Scanned) :
    Assembled (listedAbout lists scanned.key) scanned (assembleOne (listed lists) scanned) := by
  rw [assembleOne_eq]
  cases listedAbout lists scanned.key <;>
    exact ⟨rfl, rfl, rfl, rfl, rfl, rfl, rfl, rfl, rfl, rfl, get?_tags_withScan _ scanned.scan⟩

@[simp] theorem name_assembleOne (listed : List Plugin) (scanned : Scanned) :
    (assembleOne listed scanned).name = scanned.name := by
  unfold assembleOne Plugin.withScan
  split
  · exact Plugin.name_merge _ _
  · rfl

theorem names_assemble (scans : List Scanned) (lists : List (List Plugin)) :
    (assemble scans lists).map Plugin.name = (Scanned.firstOfEach [] scans).map Scanned.name := by
  rw [assemble, List.map_map]
  exact List.map_congr_left fun scanned _ => name_assembleOne (listed lists) scanned

/-- **What is assembled.** One record for each key among the scans, in the order in which the keys are
first met. It is made of the first scan with the key and of what the lists say about the plugin. -/
theorem assemble_records (scans : List Scanned) (lists : List (List Plugin)) :
    (assemble scans lists).map Plugin.key = (scans.map Scanned.key).eraseDups ∧
      ∀ plugin ∈ assemble scans lists, ∃ scanned,
        scans.find? (·.key == plugin.key) = some scanned ∧
          Assembled (listedAbout lists plugin.key) scanned plugin := by
  have hkey : ∀ scanned : Scanned, (assembleOne (listed lists) scanned).key = scanned.key :=
    fun scanned => congrArg Name.key (name_assembleOne (listed lists) scanned)
  refine ⟨?_, fun plugin hplugin => ?_⟩
  · rw [assemble, List.map_map]
    have hfirst : (Scanned.firstOfEach [] scans).map Scanned.key
        = (scans.map Scanned.key).eraseDups := by
      simpa using Scanned.keys_firstOfEach [] scans
    rw [← hfirst]
    exact List.map_congr_left fun scanned _ => hkey scanned
  · obtain ⟨scanned, hscanned, rfl⟩ := List.mem_map.mp hplugin
    rw [hkey]
    exact ⟨scanned, (Scanned.mem_firstOfEach_iff.mp hscanned).2.find?,
      assembled_assembleOne lists scanned⟩

/-- A plugin that is scanned twice, with tags in its description, and one that is named like a pattern. -/
def mixedScans : List Scanned :=
  [⟨"a.esp", { description := some "\x7b\x7bBASH:Delev,-delev,Relev\x7d\x7d" }⟩,
    ⟨".*\\.esp", {}⟩, ⟨"A.esp", { isMaster := true }⟩]

/-- A disabled record and one that counts about the first plugin, and a record about the other. -/
def mixedLists : List (List Plugin) :=
  [[{ name := "A.ESP", enabled := false, priority := 9 },
    { name := "A.esp", priority := 3, isMaster := true,
      tags := KeyedSet.ofList [.always { name := "relev", isAddition := false }] }],
    [{ name := ".*\\.esp", priority := 7 }]]

theorem mixedScans_records :
    (assemble mixedScans mixedLists).map Plugin.priority = [3, 0] ∧
      ∃ plugin ∈ assemble mixedScans mixedLists, plugin.name = "a.esp" ∧
        (∃ scanned, mixedScans.find? (·.key == plugin.key) = some scanned ∧
          Assembled (listedAbout mixedLists plugin.key) scanned plugin) ∧
        plugin.isMaster = false ∧
          plugin.tags.get? "Delev" = some (.always { name := "Delev" }) ∧
            plugin.tags.get? "Relev" = some (.always { name := "relev", isAddition := false }) := by
  have hmem : assembleOne (listed mixedLists) mixedScans[0] ∈ assemble mixedScans mixedLists :=
    List.mem_map_of_mem (List.mem_cons_self ..)
  exact ⟨by decide +kernel, _, hmem, name_assembleOne _ _,
    (assemble_records mixedScans mixedLists).2 _ hmem,
    by decide +kernel, by decide +kernel, by decide +kernel⟩

end Assembly

end LoadOrder
