import LoadOrder.KeyedSet.Layers
import LoadOrder.Plugin.Merge
import LoadOrder.Proofs.Name.Agreement
import Mathlib.Data.List.Basic
import Mathlib.Data.List.Induction
import Mathlib.Data.List.Nodup

/-!
# What merging makes of records

A record that combines others one after the other, in terms of these. The sets of files of the first
record lie over those of the next, the sets of tags the other way round, messages follow each other,
and the priority is that of the last.

* **`Combines.merge`**: one merge, from the policies of the fields.
* **`combines_of_mergeAll`**: the records about one plugin merged into the first of them.
* **`Merging.Indexed.add`**: the index of positions that the pass over several sources keeps is right
  after every record, so **`mergeSources_eq`** may forget it.
* **`mergeSources_groups`**: merging the records of several sources in one pass gives for each plugin
  what merging its records alone gives.
-/

namespace LoadOrder.Plugin

variable {target source other merged : Plugin} {records rest : List Plugin} {key : String}

/-! ## One merge -/

@[simp] theorem name_merge (target source : Plugin) : (target.merge source).name = target.name := by
  unfold merge
  split <;> rfl

@[simp] theorem key_merge (target source : Plugin) : (target.merge source).key = target.key :=
  congrArg Name.key (name_merge target source)

@[simp] theorem enabled_merge (target source : Plugin) :
    (target.merge source).enabled = target.enabled := by
  unfold merge
  split <;> rfl

theorem accepts_iff :
    target.accepts source = true ↔ source.key = target.key ∧ source.enabled = true := by
  rw [accepts, Bool.and_eq_true, Name.agree_iff, eq_comm, Plugin.key, Plugin.key]

@[simp] theorem accepts_merge_left (target source other : Plugin) :
    (target.merge source).accepts other = target.accepts other := by
  rw [accepts, accepts, name_merge]

@[simp] theorem accepts_merge_right (target source other : Plugin) :
    target.accepts (source.merge other) = target.accepts source := by
  rw [accepts, accepts, name_merge, enabled_merge]

/-- Records about one plugin take the same records. -/
theorem accepts_congr (hkey : target.key = source.key) (other : Plugin) :
    target.accepts other = source.accepts other := by
  rw [Bool.eq_iff_iff, accepts_iff, accepts_iff, hkey]

theorem merge_of_accepts (h : target.accepts source = true) :
    target.merge source = { target with
      priority := source.priority
      masters := source.masters
      content := source.content
      isMaster := source.isMaster
      loadAfter := target.loadAfter.insertAllNew source.loadAfter.toList
      requirements := target.requirements.insertAllNew source.requirements.toList
      incompatibilities := target.incompatibilities.insertAllNew source.incompatibilities.toList
      tags := target.tags.insertAll source.tags.toList
      messages := target.messages ++ source.messages } := by
  rw [merge, if_pos h]

theorem merge_of_not_accepts (h : target.accepts source = false) : target.merge source = target := by
  rw [merge, if_neg (Bool.eq_false_iff.mp h)]

/-- What a record is that combines others in their order. -/
structure Combines (records : List Plugin) (plugin : Plugin) : Prop where
  priority : plugin.priority = (records.getLast?.map Plugin.priority).getD 0
  loadAfter : KeyedSet.Layers (records.map Plugin.loadAfter) plugin.loadAfter
  requirements : KeyedSet.Layers (records.map Plugin.requirements) plugin.requirements
  incompatibilities :
    KeyedSet.Layers (records.map Plugin.incompatibilities) plugin.incompatibilities
  tags : KeyedSet.Layers (records.map Plugin.tags).reverse plugin.tags
  messages : plugin.messages = records.flatMap Plugin.messages

theorem Combines.nil (name : String) : Combines [] { name } where
  priority := rfl
  loadAfter := .nil
  requirements := .nil
  incompatibilities := .nil
  tags := .nil
  messages := rfl

theorem Combines.single (plugin : Plugin) : Combines [plugin] plugin where
  priority := rfl
  loadAfter := .single plugin.loadAfter
  requirements := .single plugin.requirements
  incompatibilities := .single plugin.incompatibilities
  tags := .single plugin.tags
  messages := (List.append_nil plugin.messages).symm

/-- **One merge.** A record that is merged into a combination is combined with the others. -/
theorem Combines.merge (h : Combines records target) (haccepts : target.accepts source = true) :
    Combines (records ++ [source]) (target.merge source) := by
  rw [merge_of_accepts haccepts]
  constructor
  · rw [List.getLast?_concat]
    rfl
  · rw [List.map_append]
    exact h.loadAfter.under source.loadAfter
  · rw [List.map_append]
    exact h.requirements.under source.requirements
  · rw [List.map_append]
    exact h.incompatibilities.under source.incompatibilities
  · rw [List.map_append, List.reverse_append]
    exact h.tags.over source.tags
  · rw [List.flatMap_append, ← h.messages]
    show target.messages ++ source.messages = target.messages ++ (source.messages ++ [])
    rw [List.append_nil]

theorem merge_bare {name : String} (haccepts : ({ name } : Plugin).accepts source = true) :
    ({ name } : Plugin).merge source = { source with name, enabled := true } := by
  rw [merge_of_accepts haccepts]
  simp only [KeyedSet.insertAllNew_empty, KeyedSet.insertAll_empty, List.nil_append]

theorem Combines.foldl (h : Combines records target)
    (haccepts : ∀ source ∈ rest, target.accepts source = true) :
    Combines (records ++ rest) (rest.foldl Plugin.merge target) := by
  induction rest generalizing records target with
  | nil =>
    rw [List.append_nil]
    exact h
  | cons source rest ih =>
    have hnext := ih (h.merge (haccepts source (List.mem_cons_self ..))) fun other hother => by
      rw [accepts_merge_left]
      exact haccepts other (List.mem_cons_of_mem _ hother)
    rw [List.append_assoc, List.singleton_append] at hnext
    exact hnext

/-! ## Merging the records about one plugin -/

/-- What one merge leaves alone, several do. -/
theorem foldl_merge_eq {β : Type} {field : Plugin → β}
    (hfield : ∀ target source : Plugin, field (target.merge source) = field target)
    (target : Plugin) (rest : List Plugin) : field (rest.foldl merge target) = field target := by
  induction rest generalizing target with
  | nil => rfl
  | cons source rest ih => rw [List.foldl_cons, ih, hfield]

section OnePlugin

variable (henabled : ∀ record ∈ records, record.enabled = true)
  (hkey : ∀ record ∈ records, record.key = key)

include henabled

theorem mergeAll_eq_none_iff : mergeAll records = none ↔ records = [] := by
  rw [mergeAll, List.filter_eq_self.mpr henabled]
  cases records <;> simp

include hkey

/-- **Merging the records about one plugin.** The outcome is an enabled record about the plugin that
combines them. -/
theorem combines_of_mergeAll (h : mergeAll records = some merged) :
    Combines records merged ∧ merged.key = key ∧ merged.enabled = true := by
  rw [mergeAll, List.filter_eq_self.mpr henabled] at h
  cases records with
  | nil => exact absurd h (by simp)
  | cons first rest =>
    cases h
    have hfirst := hkey first (List.mem_cons_self ..)
    refine ⟨(Combines.single first).foldl fun source hsource => accepts_iff.mpr ⟨?_, ?_⟩, ?_, ?_⟩
    · exact (hkey source (List.mem_cons_of_mem _ hsource)).trans hfirst.symm
    · exact henabled source (List.mem_cons_of_mem _ hsource)
    · exact (foldl_merge_eq key_merge first rest).trans hfirst
    · exact (foldl_merge_eq enabled_merge first rest).trans (henabled first (List.mem_cons_self ..))

/-- A test on which records about one plugin agree may come before the merge. -/
theorem filter_mergeAll {keep : Plugin → Bool} (hkeep : ∀ a b, a.key = b.key → keep a = keep b) :
    (mergeAll records).filter keep = mergeAll (records.filter keep) := by
  cases hmerged : mergeAll records with
  | none =>
    rw [(mergeAll_eq_none_iff henabled).mp hmerged]
    rfl
  | some merged =>
    have hkeyMerged : merged.key = key := (combines_of_mergeAll henabled hkey hmerged).2.1
    have hall : ∀ record ∈ records, keep record = keep merged := fun record hrecord =>
      hkeep record merged ((hkey record hrecord).trans hkeyMerged.symm)
    cases hpass : keep merged with
    | true =>
      rw [List.filter_eq_self.mpr fun record hrecord => (hall record hrecord).trans hpass, hmerged]
      exact if_pos hpass
    | false =>
      have hnil : records.filter keep = [] := List.filter_eq_nil_iff.mpr fun record hrecord =>
        Bool.eq_false_iff.mp ((hall record hrecord).trans hpass)
      rw [hnil]
      exact if_neg (Bool.eq_false_iff.mp hpass)

end OnePlugin

/-! ## Merging in one pass

The pass looks records up in an index of positions. The index is right all along, so the pass comes to
the same as one that looks for the record itself. -/

/-- The merged records so far with one more record: merged into the record of the same plugin, or put
at the end if there is none. -/
def mergeInto (merged : List Plugin) (record : Plugin) : List Plugin :=
  match merged with
  | [] => [record]
  | first :: rest =>
    if first.key = record.key then first.merge record :: rest else first :: mergeInto rest record

/-- The index says of every key where the first record with the key stands. -/
def Merging.Indexed (merging : Merging) : Prop :=
  ∀ key, (merging.index.find? key).map Slot.position = merging.records.findIdx? (·.key == key)

theorem Merging.indexed_start : Merging.Indexed {} := fun _ => rfl

/-- Merging into the record at a position moves no record, and their keys stay. -/
theorem findIdx?_modify_merge (merged : List Plugin) (i : Nat) (record : Plugin) (key : String) :
    (merged.modify i (·.merge record)).findIdx? (·.key == key)
      = merged.findIdx? (·.key == key) := by
  induction merged generalizing i with
  | nil => cases i <;> rfl
  | cons first rest ih =>
    cases i with
    | zero => simp only [List.modify_zero_cons, List.findIdx?_cons, key_merge]
    | succ i => simp only [List.modify_succ_cons, List.findIdx?_cons, ih]

theorem Merging.Indexed.add {merging : Merging} (h : merging.Indexed) (record : Plugin) :
    (merging.add record).Indexed := by
  intro key
  unfold Merging.add
  split
  · next slot hslot =>
    -- the record goes where the index says, and every key stays where it is
    rw [findIdx?_modify_merge]
    exact h key
  · next hnone =>
    -- the record goes to the end, and the length so far becomes the position of its key
    rw [KeyedSet.find?_insert, List.findIdx?_append, ← h key]
    by_cases hkey : record.key = key
    · subst hkey
      have hslot : Keyed.hasKey record.key (Slot.mk record.key merging.records.length) = true :=
        Keyed.hasKey_self (Slot.mk record.key merging.records.length)
      rw [if_pos hslot, hnone]
      simp
    · have hslot : ¬ Keyed.hasKey key (Slot.mk record.key merging.records.length) = true :=
        fun hhas => hkey (Std.LawfulEqCmp.compare_eq_iff_eq.mp (Keyed.hasKey_iff.mp hhas))
      rw [if_neg hslot]
      simp [hkey]

/-- A record goes where the first record of its plugin stands. -/
theorem mergeInto_eq (merged : List Plugin) (record : Plugin) :
    mergeInto merged record
      = match merged.findIdx? (·.key == record.key) with
        | some i => merged.modify i (·.merge record)
        | none => merged ++ [record] := by
  induction merged with
  | nil => rfl
  | cons first rest ih =>
    rw [mergeInto, List.findIdx?_cons]
    by_cases hkey : first.key = record.key
    · rw [if_pos hkey, beq_iff_eq.mpr hkey]
      rfl
    · rw [if_neg hkey, beq_eq_false_iff_ne.mpr hkey, ih]
      cases rest.findIdx? (·.key == record.key) <;> rfl

theorem Merging.Indexed.records_add {merging : Merging} (h : merging.Indexed) (record : Plugin) :
    (merging.add record).records = mergeInto merging.records record := by
  rw [mergeInto_eq, ← h record.key]
  unfold Merging.add
  cases merging.index.find? record.key <;> rfl

theorem Merging.Indexed.records_foldl {merging : Merging} (h : merging.Indexed)
    (records : List Plugin) :
    (records.foldl Merging.add merging).records = records.foldl mergeInto merging.records := by
  induction records generalizing merging with
  | nil => rfl
  | cons record records ih =>
    rw [List.foldl_cons, List.foldl_cons, ih (h.add record), h.records_add]

/-- **The index saves the search.** -/
theorem mergeSources_eq (sources : List (List Plugin)) :
    mergeSources sources = (sources.flatten.filter (·.enabled)).foldl mergeInto [] :=
  Merging.indexed_start.records_foldl _

/-- A record put into the merged records changes the one about its plugin and no other. -/
theorem find?_mergeInto (merged : List Plugin) (record : Plugin) (key : String) :
    (mergeInto merged record).find? (·.key == key)
      = if record.key = key then
          some (((merged.find? (·.key == key)).map (·.merge record)).getD record)
        else merged.find? (·.key == key) := by
  induction merged with
  | nil => by_cases hkey : record.key = key <;> simp [mergeInto, hkey]
  | cons first rest ih =>
    rw [mergeInto]
    split
    · next hsame =>
      -- the record goes into the first one, which keeps its key
      by_cases hkey : record.key = key <;> simp [hsame, hkey]
    · next hdiffer =>
      rw [List.find?_cons, List.find?_cons, ih]
      by_cases hkey : first.key = key
      · have hother : record.key ≠ key := fun hrecord => hdiffer (hkey.trans hrecord.symm)
        simp [hkey, hother]
      · rw [beq_eq_false_iff_ne.mpr hkey]

theorem foldl_merge_some (first : Plugin) (rest : List Plugin) :
    rest.foldl (fun found record => some ((found.map (·.merge record)).getD record)) (some first)
      = some (rest.foldl merge first) := by
  induction rest generalizing first with
  | nil => rfl
  | cons record rest ih => exact ih (first.merge record)

theorem find?_foldl_mergeInto (merged records : List Plugin) (key : String) :
    (records.foldl mergeInto merged).find? (·.key == key)
      = (records.filter (·.key == key)).foldl
          (fun found record => some ((found.map (·.merge record)).getD record))
          (merged.find? (·.key == key)) := by
  induction records generalizing merged with
  | nil => rfl
  | cons record records ih =>
    rw [List.foldl_cons, ih, find?_mergeInto]
    by_cases hkey : record.key = key <;> simp [hkey]

/-- **One pass or one plugin at a time.** The merged record about a plugin is that of its records
alone. -/
theorem find?_mergeSources (sources : List (List Plugin)) (key : String) :
    (mergeSources sources).find? (·.key == key)
      = mergeAll (sources.flatten.filter (·.key == key)) := by
  rw [mergeSources_eq, find?_foldl_mergeInto, mergeAll, List.filter_comm]
  cases (sources.flatten.filter (·.key == key)).filter (·.enabled) with
  | nil => rfl
  | cons first rest => exact foldl_merge_some first rest

/-- A record for a new plugin is put at the end, and no record goes or moves. -/
theorem keys_mergeInto (merged : List Plugin) (record : Plugin) :
    (mergeInto merged record).map Plugin.key
      = if record.key ∈ merged.map Plugin.key then merged.map Plugin.key
        else merged.map Plugin.key ++ [record.key] := by
  induction merged with
  | nil => rfl
  | cons first rest ih =>
    rw [mergeInto]
    by_cases hkey : first.key = record.key
    · simp [hkey]
    · rw [if_neg hkey, List.map_cons, ih]
      by_cases hmem : record.key ∈ rest.map Plugin.key <;> simp [hmem, Ne.symm hkey]

/-- **The order of the pass.** There is one record for each key, where the key is first met. -/
theorem keys_foldl_mergeInto (records : List Plugin) :
    (records.foldl mergeInto []).map Plugin.key = (records.map Plugin.key).eraseDups := by
  -- from the end: whether a key is new depends on the keys before it
  induction records using List.reverseRecOn with
  | nil => rfl
  | append_singleton records record ih =>
    rw [List.foldl_append, List.foldl_cons, List.foldl_nil, keys_mergeInto, ih, List.map_append,
      List.map_singleton, List.eraseDups_append]
    have hlast : ∀ keys : List String, [record.key].removeAll keys
        = if record.key ∈ keys then [] else [record.key] := by
      intro keys
      by_cases hmem : record.key ∈ keys <;> simp [List.removeAll, hmem]
    rw [hlast]
    by_cases hmem : record.key ∈ records.map Plugin.key
    · rw [if_pos (List.mem_eraseDups.mpr hmem), if_pos hmem, List.eraseDups_nil, List.append_nil]
    · rw [if_neg fun hold => hmem (List.mem_eraseDups.mp hold), if_neg hmem]
      rfl

theorem nodup_keys_foldl_mergeInto (records : List Plugin) :
    ((records.foldl mergeInto []).map Plugin.key).Nodup := by
  induction records using List.reverseRecOn with
  | nil => exact List.nodup_nil
  | append_singleton records record ih =>
    rw [List.foldl_append, List.foldl_cons, List.foldl_nil, keys_mergeInto]
    split
    · exact ih
    · next hnew => exact List.nodup_append_comm.mp (List.nodup_cons.mpr ⟨hnew, ih⟩)

theorem find?_key_of_mem {merged : List Plugin} (hkeys : (merged.map Plugin.key).Nodup)
    {record : Plugin} (hmem : record ∈ merged) :
    merged.find? (·.key == record.key) = some record := by
  cases hfind : merged.find? (·.key == record.key) with
  | none =>
    have hdiffer := List.find?_eq_none.mp hfind record hmem
    exact absurd (beq_self_eq_true record.key) hdiffer
  | some found =>
    have hfound := List.find?_some hfind
    have hkey : found.key = record.key := eq_of_beq hfound
    rw [List.inj_on_of_nodup_map hkeys (List.mem_of_find?_eq_some hfind) hmem hkey]

/-- The keys of the enabled records, in the order in which they are first met. -/
def enabledKeys (sources : List (List Plugin)) : List String :=
  ((sources.flatten.filter (·.enabled)).map Plugin.key).eraseDups

theorem keys_mergeSources (sources : List (List Plugin)) :
    (mergeSources sources).map Plugin.key = enabledKeys sources := by
  rw [mergeSources_eq, keys_foldl_mergeInto, enabledKeys]

/-- **One pass or one group at a time.** The records of several sources are merged into one record for
each key among the enabled ones, in the order in which the keys are first met, and each is what all
records with its key are merged into. Disabled records might as well not be there. -/
theorem mergeSources_groups (sources : List (List Plugin)) :
    (mergeSources sources).map Plugin.key = enabledKeys sources ∧
      (mergeSources sources).map some
        = (enabledKeys sources).map (fun key => mergeAll (sources.flatten.filter (·.key == key))) ∧
      mergeSources (sources.map (List.filter (·.enabled))) = mergeSources sources := by
  refine ⟨keys_mergeSources sources, ?_, ?_⟩
  · have hnodup : ((mergeSources sources).map Plugin.key).Nodup := by
      rw [mergeSources_eq]
      exact nodup_keys_foldl_mergeInto _
    rw [← keys_mergeSources, List.map_map]
    refine List.map_congr_left fun record hrecord => ?_
    rw [Function.comp_apply, ← find?_mergeSources]
    exact (find?_key_of_mem hnodup hrecord).symm
  · rw [mergeSources, mergeSources, ← List.filter_flatten, List.filter_filter]
    simp only [Bool.and_self]

end LoadOrder.Plugin
