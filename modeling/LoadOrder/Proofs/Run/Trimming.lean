import LoadOrder.Proofs.Run.Preparation
import Mathlib.Data.List.Forall2

/-!
# Entries that do not hold

An entry whose condition does not hold does not reach the prepared plugins. It is not without effect,
though: sources are merged before conditions are looked at, and an entry is told from others by its
name alone, so it may keep out an entry of the same name that holds.

## The crux

The sets of an assembled record are layered: what counts of the entries of one name is the first in a
row of sets. Deleting entries from the lists leaves them out of each layer, filtering the assembled
record leaves them out of the whole, and `Layers.filter_eq_iff` says when this is the same.

* **`restrict_withScan_eq_iff`**: the record of one plugin.
* **`prepare_trim`**: deletion leaves the preparation unchanged exactly when no entry that does not
  hold hides one that does. It never takes anything away.
-/

namespace LoadOrder

open LoadOrder.Filter (conditionsOf Decides rejects)
open KeyedSet (Layers Hides)

namespace Plugin

/-! ## Uncovered entries -/

/-- The second record has all entries of the first and maybe more in its sets, and nothing else
differs. -/
structure Uncovers (covered uncovered : Plugin) : Prop where
  rest : uncovered = { covered with
    loadAfter := uncovered.loadAfter
    requirements := uncovered.requirements
    incompatibilities := uncovered.incompatibilities
    tags := uncovered.tags }
  loadAfter : covered.loadAfter.toList ⊆ uncovered.loadAfter.toList
  requirements : covered.requirements.toList ⊆ uncovered.requirements.toList
  incompatibilities : covered.incompatibilities.toList ⊆ uncovered.incompatibilities.toList
  tags : covered.tags.toList ⊆ uncovered.tags.toList

theorem Uncovers.eq_iff {p q : Plugin} (h : p.Uncovers q) :
    q = p ↔ q.loadAfter = p.loadAfter ∧ q.requirements = p.requirements ∧
      q.incompatibilities = p.incompatibilities ∧ q.tags = p.tags := by
  constructor
  · rintro rfl
    exact ⟨rfl, rfl, rfl, rfl⟩
  · rintro ⟨hload, hrequire, hconflict, htags⟩
    have hrest := h.rest
    rw [hload, hrequire, hconflict, htags] at hrest
    exact hrest

/-! ## Conditions of assembled records -/

variable {plugin : Plugin} {records : List Plugin} {condition : String}

/-- The conditions in a layered set are those of a record that it is put together from. -/
theorem exists_mem_conditionsOf {α : Type} [Named α] {group : Plugin → EntrySet α} {s : EntrySet α}
    (h : Layers (records.map group) s) (hmem : condition ∈ conditionsOf s.toList) :
    ∃ record ∈ records, condition ∈ conditionsOf (group record).toList := by
  obtain ⟨entry, hentry, rfl⟩ := List.mem_map.mp hmem
  obtain ⟨layer, hlayer, hentry⟩ := h.exists_mem hentry
  obtain ⟨record, hrecord, rfl⟩ := List.mem_map.mp hlayer
  exact ⟨record, hrecord, List.mem_map_of_mem hentry⟩

theorem Combines.exists_mem_conditions (h : Combines records plugin)
    (hmem : condition ∈ plugin.conditions) : ∃ record ∈ records, condition ∈ record.conditions := by
  simp only [mem_conditions] at hmem ⊢
  rcases hmem with hmem | hmem | hmem | hmem | hmem
  · obtain ⟨record, hrecord, hmem⟩ := exists_mem_conditionsOf h.loadAfter hmem
    exact ⟨record, hrecord, .inl hmem⟩
  · obtain ⟨record, hrecord, hmem⟩ := exists_mem_conditionsOf h.requirements hmem
    exact ⟨record, hrecord, .inr (.inl hmem)⟩
  · obtain ⟨record, hrecord, hmem⟩ := exists_mem_conditionsOf h.incompatibilities hmem
    exact ⟨record, hrecord, .inr (.inr (.inl hmem))⟩
  · have htags := h.tags
    rw [← List.map_reverse] at htags
    obtain ⟨record, hrecord, hmem⟩ := exists_mem_conditionsOf htags hmem
    exact ⟨record, List.mem_reverse.mp hrecord, .inr (.inr (.inr (.inl hmem)))⟩
  · rw [h.messages, conditionsOf, List.mem_map] at hmem
    obtain ⟨entry, hentry, rfl⟩ := hmem
    obtain ⟨record, hrecord, hentry⟩ := List.mem_flatMap.mp hentry
    exact ⟨record, hrecord, .inr (.inr (.inr (.inr (List.mem_map_of_mem hentry))))⟩

end Plugin

namespace Assembly

/-- The scan itself brings no condition into a record. -/
theorem mem_conditions_of_withScan {plugin : Plugin} {scan : ContentScan} {condition : String}
    (h : condition ∈ (plugin.withScan scan).conditions) :
    condition = "" ∨ condition ∈ plugin.conditions := by
  rw [Plugin.mem_conditions] at h ⊢
  rcases h with h | h | h | h | h
  · exact .inr (.inl h)
  · exact .inr (.inr (.inl h))
  · exact .inr (.inr (.inr (.inl h)))
  · -- a tag is one of the record or an embedded one
    obtain ⟨entry, hentry, rfl⟩ := List.mem_map.mp h
    have hlayers : Layers [plugin.tags, embeddedTags scan] (plugin.withScan scan).tags :=
      (Layers.single plugin.tags).insertAllNew _
    obtain ⟨layer, hlayer, hentry⟩ := hlayers.exists_mem hentry
    rcases List.mem_pair.mp hlayer with rfl | rfl
    · exact .inr (.inr (.inr (.inr (.inl (List.mem_map_of_mem hentry)))))
    · exact .inl (condition_of_mem_embeddedTags hentry)
  · exact .inr (.inr (.inr (.inr (.inr h))))

/-- The conditions of a scanned plugin's record are those of the records that count. -/
theorem exists_mem_conditions_assembleOne {lists : List (List Plugin)} {scanned : Scanned}
    {condition : String} (h : condition ∈ (assembleOne (listed lists) scanned).conditions) :
    condition = "" ∨ ∃ record ∈ recordsAbout lists scanned.key, condition ∈ record.conditions := by
  obtain ⟨unscanned, hassemble, _, _, hcombines⟩ := exists_combines_assembleOne lists scanned
  rw [hassemble] at h
  exact (mem_conditions_of_withScan h).imp_right hcombines.exists_mem_conditions

/-! ## Deleting entries from the lists -/

/-- The lists with only the entries whose conditions pass a test. -/
def trim (keep : String → Bool) (lists : List (List Plugin)) : List (List Plugin) :=
  lists.map (List.map (Plugin.restrict keep))

variable {keep : String → Bool} {lists : List (List Plugin)} {scanned : Scanned}

theorem recordsAbout_trim (keep : String → Bool) (lists : List (List Plugin)) (key : String) :
    recordsAbout (trim keep lists) key = (recordsAbout lists key).map (Plugin.restrict keep) := by
  rw [recordsAbout, trim, ← List.map_flatten, List.filter_map]
  rfl

/-- Some entry of a plugin that fails the test keeps out one of the same name that passes. -/
def HidesAny (keep : String → Bool) (records : List Plugin) (scan : ContentScan) : Prop :=
  Hides (keep ·.condition) (records.map Plugin.loadAfter) ∨
    Hides (keep ·.condition) (records.map Plugin.requirements) ∨
      Hides (keep ·.condition) (records.map Plugin.incompatibilities) ∨
        Hides (keep ·.condition) (tagLayers records scan)

theorem map_restrict {α : Type} [Named α] {group : Plugin → EntrySet α}
    (hgroup : ∀ record : Plugin, group (record.restrict keep) = (group record).filter (keep ·.condition))
    (records : List Plugin) :
    (records.map (Plugin.restrict keep)).map group
      = (records.map group).map (·.filter (keep ·.condition)) := by
  rw [List.map_map, List.map_map]
  exact List.map_congr_left fun record _ => hgroup record

theorem tagLayers_restrict (hkeep : keep "" = true) (records : List Plugin) (scan : ContentScan) :
    tagLayers (records.map (Plugin.restrict keep)) scan
      = (tagLayers records scan).map (·.filter (keep ·.condition)) := by
  rw [tagLayers, tagLayers, List.map_append, List.map_reverse, map_restrict (fun _ => rfl),
    List.map_singleton, filter_embeddedTags scan hkeep]

/-- Messages are never hidden. -/
theorem filter_messages_restrict (records : List Plugin) :
    ((records.map (Plugin.restrict keep)).flatMap Plugin.messages).filter (keep ·.condition)
      = (records.flatMap Plugin.messages).filter (keep ·.condition) := by
  rw [List.flatMap_map, List.filter_flatMap, List.filter_flatMap]
  congr 1
  funext record
  show (record.messages.filter (keep ·.condition)).filter (keep ·.condition) = _
  rw [List.filter_filter]
  simp only [Bool.and_self]

/-- The layers of the sets that trimmed records are combined from. -/
theorem layers_restrict {records : List Plugin} {trimmed : Plugin} (hkeep : keep "" = true)
    (h : Plugin.Combines (records.map (Plugin.restrict keep)) trimmed) (scan : ContentScan) :
    Layers ((records.map Plugin.loadAfter).map (·.filter (keep ·.condition))) trimmed.loadAfter ∧
      Layers ((records.map Plugin.requirements).map (·.filter (keep ·.condition)))
        trimmed.requirements ∧
      Layers ((records.map Plugin.incompatibilities).map (·.filter (keep ·.condition)))
        trimmed.incompatibilities ∧
      Layers ((tagLayers records scan).map (·.filter (keep ·.condition)))
        (trimmed.withScan scan).tags := by
  refine ⟨?_, ?_, ?_, ?_⟩
  · rw [← map_restrict fun _ => rfl]
    exact h.loadAfter
  · rw [← map_restrict fun _ => rfl]
    exact h.requirements
  · rw [← map_restrict fun _ => rfl]
    exact h.incompatibilities
  · rw [← tagLayers_restrict hkeep]
    exact layers_tags_withScan h scan

section OnePlugin

variable {records : List Plugin} {full trimmed : Plugin} (hkeep : keep "" = true)
  (hfull : Plugin.Combines records full)
  (htrimmed : Plugin.Combines (records.map (Plugin.restrict keep)) trimmed)
  (hname : trimmed.name = full.name) (henabled : trimmed.enabled = full.enabled)
  (scan : ContentScan)

include hkeep hfull htrimmed hname henabled

/-- **Deletion takes nothing away.** Outside of the sets it does not matter when entries are left out,
and what is left in a set afterwards is left before. -/
theorem uncovers_restrict :
    ((full.withScan scan).restrict keep).Uncovers ((trimmed.withScan scan).restrict keep) := by
  have hpriority : trimmed.priority = full.priority := by
    rw [htrimmed.priority, hfull.priority, List.getLast?_map, Option.map_map]
    rfl
  have hmessages : trimmed.messages.filter (keep ·.condition)
      = full.messages.filter (keep ·.condition) := by
    rw [htrimmed.messages, hfull.messages, filter_messages_restrict]
  obtain ⟨hload, hrequire, hconflict, htags⟩ := layers_restrict hkeep htrimmed scan
  refine ⟨?_, hfull.loadAfter.filter_subset hload, hfull.requirements.filter_subset hrequire,
    hfull.incompatibilities.filter_subset hconflict,
    (layers_tags_withScan hfull scan).filter_subset htags⟩
  simp only [Plugin.restrict, Plugin.withScan, hname, henabled, hpriority, hmessages]

/-- **One plugin.** Entries that fail may be left out of the lists or of the assembled record, unless one
of them hides an entry that passes. -/
theorem restrict_withScan_eq_iff :
    (trimmed.withScan scan).restrict keep = (full.withScan scan).restrict keep
      ↔ ¬ HidesAny keep records scan := by
  have huncovers := uncovers_restrict hkeep hfull htrimmed hname henabled scan
  obtain ⟨hload, hrequire, hconflict, htags⟩ := layers_restrict hkeep htrimmed scan
  -- each set of the one record is that of the other unless its layers hide something
  rw [HidesAny, not_or, not_or, not_or, ← hfull.loadAfter.filter_eq_iff hload,
    ← hfull.requirements.filter_eq_iff hrequire,
    ← hfull.incompatibilities.filter_eq_iff hconflict,
    ← (layers_tags_withScan hfull scan).filter_eq_iff htags]
  exact huncovers.eq_iff

end OnePlugin

end Assembly

/-! ## Runs -/

namespace Install

/-- The messages about problems can be told from the others by the rest of the record. -/
theorem attach_injective (has : String → Bool) : Function.Injective (attach has) := by
  intro p q h
  obtain ⟨name, enabled, priority, masters, isMaster, loadAfter, requirements, incompatibilities,
    tags, messages, content⟩ := p
  obtain ⟨name', enabled', priority', masters', isMaster', loadAfter', requirements',
    incompatibilities', tags', messages', content'⟩ := q
  simp only [attach, Plugin.addMessages, Plugin.mk.injEq] at h
  obtain ⟨rfl, rfl, rfl, rfl, rfl, rfl, rfl, rfl, rfl, hmessages, rfl⟩ := h
  -- the problems do not depend on the messages
  have hsame : messages = messages' := List.append_cancel_right hmessages
  rw [hsame]

end Install

namespace Run

variable {run : Run} {scans : List Scanned} {lists : List (List Plugin)}

/-- An entry with the condition stays: it is not put, or it does not have the value false. -/
def admits (run : Run) (condition : String) : Bool :=
  !rejects (run.evaluator · run.state) condition

/-- Every condition in the lists that is put has a value. -/
def Decides (run : Run) (lists : List (List Plugin)) : Prop :=
  Filter.Decides (run.evaluator · run.state) (lists.flatten.flatMap Plugin.conditions)

/-- The record of a scanned plugin, without the entries that do not hold. -/
def keptRecord (run : Run) (lists : List (List Plugin)) (scanned : Scanned) : Plugin :=
  (Assembly.assembleOne (Assembly.listed lists) scanned).restrict run.admits

theorem filterOne_assembleOne (h : run.Decides lists) (scanned : Scanned) :
    run.filterOne (Assembly.assembleOne (Assembly.listed lists) scanned)
      = .ok (run.keptRecord lists scanned) := by
  refine Plugin.tryFilter_of_decides run.settings.conditionFailures (h.mono fun condition hmem => ?_)
  refine (Assembly.exists_mem_conditions_assembleOne hmem).imp_right fun ⟨record, hrecord, hmem⟩ => ?_
  exact List.mem_flatMap.mpr ⟨record, (Assembly.mem_recordsAbout.mp hrecord).1, hmem⟩

/-- **Preparation where every condition has a value.** It succeeds, and each record loses the entries
that do not hold. -/
theorem prepare_of_decides (h : run.Decides lists) :
    run.prepare scans lists
      = .ok (run.checkInstall ((Scanned.firstOfEach [] scans).map (run.keptRecord lists))) := by
  -- each plugin is filtered by itself, and none fails
  have hfilter : run.filter (Assembly.assemble scans lists)
      = .ok ((Scanned.firstOfEach [] scans).map (run.keptRecord lists)) := by
    rw [filter_eq_ok_iff, Assembly.assemble, List.map_map, List.map_map]
    exact List.map_congr_left fun scanned _ => filterOne_assembleOne h scanned
  rw [prepare, hfilter]

theorem Decides.trim (h : run.Decides lists) (keep : String → Bool) :
    run.Decides (Assembly.trim keep lists) := by
  refine h.mono fun condition hmem => Or.inr ?_
  rw [Assembly.trim, ← List.map_flatten, List.flatMap_map] at hmem
  obtain ⟨record, hrecord, hmem⟩ := List.mem_flatMap.mp hmem
  exact List.mem_flatMap.mpr ⟨record, hrecord, record.conditions_restrict_subset keep hmem⟩

/-- The record of one plugin, with entries deleted before and after the records are combined. -/
theorem keptRecord_trim (run : Run) (lists : List (List Plugin)) (scanned : Scanned) :
    (run.keptRecord lists scanned).Uncovers
        (run.keptRecord (Assembly.trim run.admits lists) scanned) ∧
      (run.keptRecord (Assembly.trim run.admits lists) scanned = run.keptRecord lists scanned
        ↔ ¬ Assembly.HidesAny run.admits (Assembly.recordsAbout lists scanned.key)
          scanned.scan) := by
  have hempty : run.admits "" = true := rfl
  obtain ⟨full, hfull, hfullName, hfullEnabled, hfullCombines⟩ :=
    Assembly.exists_combines_assembleOne lists scanned
  obtain ⟨trimmed, htrimmed, hname, henabled, hcombines⟩ :=
    Assembly.exists_combines_assembleOne (Assembly.trim run.admits lists) scanned
  -- the records that count for the plugin are trimmed one by one
  rw [Assembly.recordsAbout_trim] at hcombines
  have hname : trimmed.name = full.name := hname.trans hfullName.symm
  have henabled : trimmed.enabled = full.enabled := henabled.trans hfullEnabled.symm
  rw [keptRecord, keptRecord, hfull, htrimmed]
  exact ⟨Assembly.uncovers_restrict hempty hfullCombines hcombines hname henabled scanned.scan,
    Assembly.restrict_withScan_eq_iff hempty hfullCombines hcombines hname henabled scanned.scan⟩

theorem checkInstall_injective (run : Run) : Function.Injective run.checkInstall := fun _ _ h =>
  List.map_injective_iff.mpr (Install.attach_injective run.state.isInstalled) (congrArg Prod.fst h)

/-- **Entries that do not hold.** Where every condition in the lists has a value, deleting the entries
that do not hold leaves the preparation unchanged exactly when for no scanned plugin one of them hides
an entry that holds: of the entries of one name in a set the first counts, among tags that of the last
list, and embedded tags count last. In any case all that deletion does to the records, before the
install check, is to uncover what was hidden. -/
theorem prepare_trim (h : run.Decides lists) :
    ∃ full trimmed, run.prepare scans lists = .ok (run.checkInstall full) ∧
      run.prepare scans (Assembly.trim run.admits lists) = .ok (run.checkInstall trimmed) ∧
      (run.prepare scans (Assembly.trim run.admits lists) = run.prepare scans lists
        ↔ ∀ scanned, Scanned.IsFirst scans scanned →
          ¬ Assembly.HidesAny run.admits (Assembly.recordsAbout lists scanned.key) scanned.scan) ∧
      List.Forall₂ Plugin.Uncovers full trimmed := by
  refine ⟨_, _, prepare_of_decides h, prepare_of_decides (h.trim run.admits), ?_, ?_⟩
  · rw [prepare_of_decides h, prepare_of_decides (h.trim run.admits), Except.ok.injEq,
      run.checkInstall_injective.eq_iff, List.map_inj_left]
    refine forall_congr' fun scanned => ?_
    rw [Scanned.mem_firstOfEach_iff, and_iff_right List.not_mem_nil,
      (run.keptRecord_trim lists scanned).2]
  · rw [List.forall₂_map_left_iff, List.forall₂_map_right_iff, List.forall₂_same]
    exact fun scanned _ => (run.keptRecord_trim lists scanned).1

/-- One list says on a condition that never holds what the next says without one. -/
def coveredLists : List (List Plugin) :=
  [[{ name := "a.esp",
      loadAfter := KeyedSet.ofList [{ condition := "false", payload := { name := "b.esp" } }] }],
    [{ name := "a.esp", loadAfter := KeyedSet.ofList [.always { name := "b.esp" }] }]]

def coveredScans : List Scanned := [⟨"a.esp", {}⟩]

theorem decides_coveredLists : ({} : Run).Decides coveredLists := by
  have hconditions : coveredLists.flatten.flatMap Plugin.conditions = ["false", ""] := by
    decide +kernel
  have hfalse : ({} : Run).evaluator "false" ({} : Run).state = .ok false := by decide +kernel
  intro condition hmem hasked
  rw [hconditions, List.mem_cons, List.mem_singleton] at hmem
  rw [hmem.resolve_right hasked]
  exact ⟨false, hfalse⟩

theorem coveredLists_uncovered :
    ({} : Run).Decides coveredLists ∧
      ∃ full trimmed, ({} : Run).prepare coveredScans coveredLists
          = .ok (({} : Run).checkInstall full) ∧
        ({} : Run).prepare coveredScans (Assembly.trim ({} : Run).admits coveredLists)
          = .ok (({} : Run).checkInstall trimmed) ∧
        (({} : Run).prepare coveredScans (Assembly.trim ({} : Run).admits coveredLists)
            = ({} : Run).prepare coveredScans coveredLists
          ↔ ∀ scanned, Scanned.IsFirst coveredScans scanned →
            ¬ Assembly.HidesAny ({} : Run).admits (Assembly.recordsAbout coveredLists scanned.key)
              scanned.scan) ∧
        List.Forall₂ Plugin.Uncovers full trimmed :=
  ⟨decides_coveredLists, prepare_trim decides_coveredLists⟩

/-- **A hidden entry.** The entry that does not hold takes the place of the one that does, and then it
is dropped; if it is deleted from the first list, the plugin keeps its file to load after. -/
theorem coveredLists_hidden :
    ({} : Run).Decides coveredLists ∧
      ({} : Run).prepare coveredScans coveredLists = .ok ([{ name := "a.esp" }], ∅) ∧
      ({} : Run).prepare coveredScans (Assembly.trim ({} : Run).admits coveredLists)
        = .ok
          ([{ name := "a.esp", loadAfter := KeyedSet.ofList [.always { name := "b.esp" }] }], ∅) ∧
      ({} : Run).prepare coveredScans (Assembly.trim ({} : Run).admits coveredLists)
        ≠ ({} : Run).prepare coveredScans coveredLists := by
  refine ⟨decides_coveredLists, ?_⟩
  decide +kernel

end Run

end LoadOrder
