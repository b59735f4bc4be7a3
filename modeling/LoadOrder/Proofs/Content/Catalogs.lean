import LoadOrder.Proofs.Content.Resolution
import LoadOrder.Proofs.Name.Agreement
import LoadOrder.ScanList
import Mathlib.Data.List.Induction

/-!
# Catalogs of scan records

A catalog is filled record by record, and keeps two things that are changed by different means: a
record is put over the one under its key, while a name is struck from the list, in whatever spelling,
and the new one written at the end. They have to stay in step: a name without a record could not be
scanned, and a name that is listed twice would be scanned twice.

* **`Holds.add`**: one more record. What the catalog holds are the last records of the list so far, and
  the names it lists are theirs.
* **`ofList_serves`**: what a catalog lists and what it finds, for any list of records.
-/

namespace LoadOrder

namespace ScanRecord

variable {records : List ScanRecord} {record : ScanRecord}

theorem hasKey_iff {key : String} : Keyed.hasKey key record = true ↔ record.key = key :=
  Keyed.hasKey_iff.trans Std.LawfulEqCmp.compare_eq_iff_eq

/-- The records that are not followed by one about the same plugin. -/
def lastOfEach : List ScanRecord → List ScanRecord
  | [] => []
  | record :: later =>
    if later.any (·.key == record.key) then lastOfEach later else record :: lastOfEach later

theorem lastOfEach_sublist (records : List ScanRecord) : (lastOfEach records).Sublist records := by
  fun_induction lastOfEach records with
  | case1 => exact .refl []
  | case2 record later _ ih => exact ih.cons record
  | case3 record later _ ih => exact ih.cons_cons record

theorem pairwise_lastOfEach (records : List ScanRecord) :
    (lastOfEach records).Pairwise fun a b => a.key ≠ b.key := by
  fun_induction lastOfEach records with
  | case1 => exact .nil
  | case2 record later _ ih => exact ih
  | case3 record later hnone ih =>
    refine List.pairwise_cons.mpr ⟨fun other hother hkey => hnone ?_, ih⟩
    have hlater : other ∈ later := (lastOfEach_sublist later).subset hother
    exact List.any_eq_true.mpr ⟨other, hlater, beq_iff_eq.mpr hkey.symm⟩

/-- One more record takes the place of those about its plugin. -/
theorem lastOfEach_concat (records : List ScanRecord) (record : ScanRecord) :
    lastOfEach (records ++ [record])
      = (lastOfEach records).filter (fun other => other.key ≠ record.key) ++ [record] := by
  induction records with
  | nil => rfl
  | cons first later ih =>
    have hany : (later ++ [record]).any (·.key == first.key)
        = (later.any (·.key == first.key) || record.key == first.key) := by simp
    rw [List.cons_append, lastOfEach, lastOfEach, hany, ih]
    by_cases hlater : later.any (·.key == first.key) = true
    · rw [if_pos hlater, if_pos (by rw [hlater, Bool.true_or])]
    · rw [if_neg hlater, Bool.eq_false_iff.mpr hlater, Bool.false_or]
      by_cases hkey : first.key = record.key
      · rw [if_pos (beq_iff_eq.mpr hkey.symm), List.filter_cons_of_neg (by simpa using hkey)]
      · have hne : ¬ (record.key == first.key) = true := by simpa using Ne.symm hkey
        rw [if_neg hne, List.filter_cons_of_pos (by simpa using hkey)]
        rfl

/-- The last records are those that a search from the end finds under their own keys. -/
theorem mem_lastOfEach_iff :
    record ∈ lastOfEach records ↔ records.reverse.find? (·.key == record.key) = some record := by
  induction records using List.reverseRecOn with
  | nil => simp [lastOfEach]
  | append_singleton records last ih =>
    rw [lastOfEach_concat, List.mem_append, List.mem_filter, List.mem_singleton, ih,
      List.reverse_concat, List.find?_cons]
    by_cases hkey : last.key = record.key
    · simp [hkey, eq_comm]
    · have hne : record ≠ last := fun h => hkey (congrArg key h).symm
      simp [Ne.symm hkey, hne, beq_eq_false_iff_ne.mpr hkey]

theorem read_eq_scan (record : ScanRecord) : record.read = .ok record.scan :=
  ContentScan.read_eq_ok ..

end ScanRecord

namespace Catalog

open ScanRecord (lastOfEach)

variable {catalog : Catalog} {records : List ScanRecord}

/-- The catalog after records have been added to an empty one: under each key it has the last record,
and it lists the names of the last records. -/
structure Holds (catalog : Catalog) (records : List ScanRecord) : Prop where
  find?_eq : ∀ key, catalog.records.find? key = records.reverse.find? (·.key == key)
  names_eq : catalog.names = (lastOfEach records).map ScanRecord.name

theorem Holds.empty : ({} : Catalog).Holds [] where
  find?_eq key := KeyedSet.find?_empty key
  names_eq := by rw [lastOfEach, List.map_nil]

theorem Holds.find?_add (h : catalog.Holds records) (record : ScanRecord) (key : String) :
    (catalog.add record).records.find? key
      = (records ++ [record]).reverse.find? (·.key == key) := by
  show (catalog.records.insert record).find? key = _
  rw [KeyedSet.find?_insert, List.reverse_concat, List.find?_cons, h.find?_eq]
  by_cases hkey : record.key = key
  · rw [if_pos (ScanRecord.hasKey_iff.mpr hkey), beq_iff_eq.mpr hkey]
  · rw [if_neg (fun hhas => hkey (ScanRecord.hasKey_iff.mp hhas)), beq_eq_false_iff_ne.mpr hkey]

theorem Holds.names_add (h : catalog.Holds records) (record : ScanRecord) :
    (catalog.add record).names = (lastOfEach (records ++ [record])).map ScanRecord.name := by
  have hreplaced : catalog.records.replaced? record
      = records.reverse.find? (·.key == record.key) := by
    rw [KeyedSet.replaced?_eq_find?]
    exact h.find?_eq record.key
  have hstruck : (catalog.names.filter fun name => Name.key name ≠ record.key)
      = ((lastOfEach records).filter fun other => other.key ≠ record.key).map ScanRecord.name := by
    rw [h.names_eq, List.filter_map]
    rfl
  rw [ScanRecord.lastOfEach_concat, List.map_append, List.map_singleton, ← hstruck]
  unfold Catalog.add
  dsimp only
  rw [hreplaced]
  cases hfind : records.reverse.find? (·.key == record.key) with
  | some _ => rw [if_pos Option.isSome_some]
  | none =>
    -- no record before is about the plugin, so there is no name to strike out
    have hnone := List.find?_eq_none.mp hfind
    have hkept : (catalog.names.filter fun name => Name.key name ≠ record.key) = catalog.names := by
      rw [hstruck, h.names_eq, List.filter_eq_self.mpr]
      intro other hother
      have hmem : other ∈ records := (ScanRecord.lastOfEach_sublist records).subset hother
      simpa using hnone other (List.mem_reverse.mpr hmem)
    rw [if_neg (by simp), hkept]

/-- **One more record** changes the records and the names alike. -/
theorem Holds.add (h : catalog.Holds records) (record : ScanRecord) :
    (catalog.add record).Holds (records ++ [record]) :=
  ⟨h.find?_add record, h.names_add record⟩

theorem Holds.foldl (h : catalog.Holds records) (more : List ScanRecord) :
    (more.foldl Catalog.add catalog).Holds (records ++ more) := by
  induction more generalizing catalog records with
  | nil =>
    rw [List.append_nil]
    exact h
  | cons record more ih =>
    rw [List.append_cons]
    exact ih (h.add record)

theorem holds_ofList (records : List ScanRecord) : (ofList records).Holds records :=
  Holds.empty.foldl records

theorem Holds.extract_eq (h : catalog.Holds records) (name : String) :
    catalog.extract name = match records.reverse.find? (·.key == Name.key name) with
      | some record => .ok record.scan
      | none => .error (.extraction name "no scan record") := by
  unfold extract
  rw [h.find?_eq]
  cases records.reverse.find? (·.key == Name.key name) with
  | none => rfl
  | some record =>
    show record.read.mapError Error.resolve = .ok record.scan
    rw [ScanRecord.read_eq_scan]
    rfl

/-- **What a catalog serves.** No two of the listed names agree; they are the names of the last records
about the plugins, spelled and ordered as in these records. Any spelling of a listed name finds the
content of the last record, and exactly the names that agree with no record find nothing. -/
theorem ofList_serves (records : List ScanRecord) :
    ((ofList records).names.Pairwise fun a b => Name.agree a b = false) ∧
      (ofList records).names = (lastOfEach records).map ScanRecord.name ∧
      (∀ record ∈ lastOfEach records, ∀ name, Name.agree record.name name = true →
        (ofList records).extract name = .ok record.scan) ∧
      ∀ name error, (ofList records).extract name = .error error
        ↔ error = .extraction name "no scan record" ∧
          ∀ record ∈ records, Name.agree record.name name = false := by
  have h := holds_ofList records
  refine ⟨?_, h.names_eq, fun record hrecord name hagree => ?_, fun name error => ?_⟩
  · rw [h.names_eq, List.pairwise_map]
    exact (ScanRecord.pairwise_lastOfEach records).imp Name.agree_eq_false_iff.mpr
  · have hkey : Name.key name = record.key := (Name.agree_iff.mp hagree).symm
    rw [h.extract_eq, hkey, ScanRecord.mem_lastOfEach_iff.mp hrecord]
  · have hnone : records.reverse.find? (·.key == Name.key name) = none
        ↔ ∀ record ∈ records, Name.agree record.name name = false := by
      simp [List.find?_eq_none, Name.agree_eq_false_iff, ScanRecord.key]
    rw [h.extract_eq, ← hnone]
    cases records.reverse.find? (·.key == Name.key name) with
    | none => simp [eq_comm]
    | some record => simp

/-- Two records about one plugin and one about another between them. -/
def respelledRecords : List ScanRecord :=
  [{ name := "ΑΣ 2.esp", records := [1] }, { name := "b.esp" },
    { name := "ας 2.ESP", records := [1, 2] }]

theorem respelledRecords_served :
    (ofList respelledRecords).names = ["b.esp", "ας 2.ESP"] ∧
      respelledRecords[2] ∈ lastOfEach respelledRecords ∧ Name.agree "ας 2.ESP" "ΑΣ 2.esp" = true ∧
        (ofList respelledRecords).extract "ΑΣ 2.esp" = .ok respelledRecords[2].scan := by
  obtain ⟨_, hnames, hfound, _⟩ := ofList_serves respelledRecords
  have hmem : respelledRecords[2] ∈ lastOfEach respelledRecords := by decide +kernel
  have hagree : Name.agree "ας 2.ESP" "ΑΣ 2.esp" = true := by decide +kernel
  exact ⟨hnames.trans (by decide +kernel), hmem, hagree, hfound _ hmem "ΑΣ 2.esp" hagree⟩

end Catalog

end LoadOrder
