import LoadOrder.Proofs.Assembly.Records

/-!
# Records that carry nothing but a name

A bare record in the lists brings no entry and no message into an assembled record, and what it says of
the plugin file gives way to the scan. What it does bring is its priority, the default one, for of
several records the last one's priority counts.

## The crux

An assembled record combines the records about its plugin, and all but one of the fields of a
combination look past an empty part: sets are layered, messages follow each other. The priority is that
of the last part, empty or not.

* **`Combines.withScan_eq`**: leaving bare records out of a combination changes the priority at most.
* **`assemble_withoutBare`**: leaving them out of the lists gives each plugin the priority of the last
  record about it that is not bare, and changes nothing exactly if no bare record is the last one after
  another priority.
-/

namespace LoadOrder

/-! ## Bare records -/

namespace Plugin

variable {records : List Plugin} {p q record : Plugin}

/-- What a bare record does not hold. -/
structure SaysNothing (record : Plugin) : Prop where
  priority : record.priority = 0
  loadAfter : record.loadAfter = ∅
  requirements : record.requirements = ∅
  incompatibilities : record.incompatibilities = ∅
  tags : record.tags = ∅
  messages : record.messages = []

theorem saysNothing_of_isBare (h : record.isBare = true) : record.SaysNothing := by
  simp only [isBare, Bool.and_eq_true, beq_iff_eq, KeyedSet.isEmpty_iff, List.isEmpty_iff] at h
  obtain ⟨⟨⟨⟨⟨⟨hpriority, -⟩, hload⟩, hrequire⟩, hconflict⟩, hmessages⟩, htags⟩ := h
  exact ⟨hpriority, hload, hrequire, hconflict, htags, hmessages⟩

theorem saysNothing_of_dropped (h : (!record.isBare) = false) : record.SaysNothing :=
  saysNothing_of_isBare (by simpa using h)

theorem flatMap_messages_filter (records : List Plugin) :
    (records.filter (!·.isBare)).flatMap messages = records.flatMap messages := by
  induction records with
  | nil => rfl
  | cons record records ih =>
    rw [List.flatMap_cons, ← ih]
    cases hbare : record.isBare with
    | false => rw [List.filter_cons_of_pos (by simp [hbare]), List.flatMap_cons]
    | true =>
      rw [List.filter_cons_of_neg (by simp [hbare]), (saysNothing_of_isBare hbare).messages,
        List.nil_append]

/-- **Combining without bare records.** The sets and the messages of a combination are the same without
the bare records in it, and a scan decides the rest but the name and the priority. -/
theorem Combines.withScan_eq (hp : Combines records p)
    (hq : Combines (records.filter (!·.isBare)) q) (hname : q.name = p.name)
    (henabled : q.enabled = p.enabled) (scan : ContentScan) :
    q.withScan scan = { p.withScan scan with priority := q.priority } := by
  have hloadAfter : q.loadAfter = p.loadAfter :=
    (hq.loadAfter.of_filter fun _ hx => (saysNothing_of_dropped hx).loadAfter).unique hp.loadAfter
  have hrequirements : q.requirements = p.requirements :=
    (hq.requirements.of_filter fun _ hx => (saysNothing_of_dropped hx).requirements).unique
      hp.requirements
  have hincompatibilities : q.incompatibilities = p.incompatibilities :=
    (hq.incompatibilities.of_filter fun _ hx => (saysNothing_of_dropped hx).incompatibilities).unique
      hp.incompatibilities
  have htags : q.tags = p.tags := by
    -- tags are layered from the last record on
    have hlayers := hq.tags
    rw [← List.map_reverse, ← List.filter_reverse] at hlayers
    have hall := hlayers.of_filter fun _ hx => (saysNothing_of_dropped hx).tags
    rw [List.map_reverse] at hall
    exact hall.unique hp.tags
  have hmessages : q.messages = p.messages := by
    rw [hq.messages, hp.messages, flatMap_messages_filter]
  simp only [withScan, hname, henabled, hloadAfter, hrequirements, hincompatibilities, htags,
    hmessages]

/-! ## The priority -/

/-- The priority of the last record, or the default one. -/
def latestPriority (records : List Plugin) : Int32 :=
  (records.getLast?.map priority).getD 0

/-- The last record is bare, and the last one that is not has another priority. -/
def ForgetsPriority (records : List Plugin) : Prop :=
  ∃ last said, records.getLast? = some last ∧ last.isBare = true ∧
    (records.filter (!·.isBare)).getLast? = some said ∧ said.priority ≠ 0

theorem latestPriority_of_isBare (h : record.isBare = true) :
    latestPriority (records ++ [record]) = 0 := by
  rw [latestPriority, List.getLast?_concat]
  exact (saysNothing_of_isBare h).priority

theorem filter_concat_of_not_isBare (h : record.isBare = false) :
    (records ++ [record]).filter (!·.isBare) = records.filter (!·.isBare) ++ [record] := by
  rw [List.filter_append, List.filter_cons_of_pos (by simp [h]), List.filter_nil]

theorem filter_concat_of_isBare (h : record.isBare = true) :
    (records ++ [record]).filter (!·.isBare) = records.filter (!·.isBare) := by
  rw [List.filter_append, List.filter_cons_of_neg (by simp [h]), List.filter_nil, List.append_nil]

/-- Bare records make a difference to the priority only by coming last. -/
theorem latestPriority_filter_iff :
    latestPriority (records.filter (!·.isBare)) = latestPriority records
      ↔ ¬ ForgetsPriority records := by
  rcases List.eq_nil_or_concat records with rfl | ⟨before, last, rfl⟩
  · refine iff_of_true rfl ?_
    rintro ⟨_, _, hlast, _⟩
    exact absurd hlast (by simp)
  rw [ForgetsPriority, List.concat_eq_append, List.getLast?_concat]
  cases hbare : last.isBare with
  | false =>
    -- the last record stays, and its priority with it
    refine iff_of_true ?_ ?_
    · rw [filter_concat_of_not_isBare hbare, latestPriority, latestPriority, List.getLast?_concat,
        List.getLast?_concat]
    · rintro ⟨_, _, hlast, hlastBare, _⟩
      rw [← Option.some.inj hlast, hbare] at hlastBare
      exact absurd hlastBare (by simp)
  | true =>
    -- the priority is the default one; without bare records it is that of the last one that stays
    rw [latestPriority_of_isBare hbare, filter_concat_of_isBare hbare, latestPriority]
    cases (before.filter (!·.isBare)).getLast? with
    | none => exact iff_of_true rfl fun ⟨_, _, _, _, hsome, _⟩ => absurd hsome (by simp)
    | some said =>
      show said.priority = 0 ↔ _
      constructor
      · rintro hzero ⟨_, _, _, _, hsame, hother⟩
        exact hother (Option.some.inj hsame ▸ hzero)
      · intro hnot
        by_contra hother
        exact hnot ⟨last, said, rfl, hbare, rfl, hother⟩

end Plugin

/-! ## Leaving them out of the lists -/

namespace Assembly

open Plugin (latestPriority ForgetsPriority)

variable {lists : List (List Plugin)} {scanned : Scanned} {key : String}

/-- The lists without the bare records. -/
def withoutBare (lists : List (List Plugin)) : List (List Plugin) :=
  lists.map (List.filter (!·.isBare))

theorem recordsAbout_withoutBare (lists : List (List Plugin)) (key : String) :
    recordsAbout (withoutBare lists) key = (recordsAbout lists key).filter (!·.isBare) := by
  rw [recordsAbout, withoutBare, ← List.filter_flatten, List.filter_comm, recordsAbout]

theorem priority_assembleOne (lists : List (List Plugin)) (scanned : Scanned) :
    (assembleOne (listed lists) scanned).priority
      = latestPriority (recordsAbout lists scanned.key) := by
  obtain ⟨unscanned, hassemble, -, -, hcombines⟩ := exists_combines_assembleOne lists scanned
  rw [hassemble]
  exact hcombines.priority

/-- The record of one plugin. -/
theorem assembleOne_withoutBare (lists : List (List Plugin)) (scanned : Scanned) :
    assembleOne (listed (withoutBare lists)) scanned
      = { assembleOne (listed lists) scanned with
          priority := latestPriority ((recordsAbout lists scanned.key).filter (!·.isBare)) } := by
  obtain ⟨p, hp, hname, henabled, hcombines⟩ := exists_combines_assembleOne lists scanned
  obtain ⟨q, hq, hname', henabled', hcombines'⟩ :=
    exists_combines_assembleOne (withoutBare lists) scanned
  rw [recordsAbout_withoutBare] at hcombines'
  rw [hp, hq, hcombines.withScan_eq hcombines' (hname'.trans hname.symm)
    (henabled'.trans henabled.symm), hcombines'.priority]
  rfl

theorem assembleOne_withoutBare_eq_iff :
    assembleOne (listed (withoutBare lists)) scanned = assembleOne (listed lists) scanned
      ↔ ¬ ForgetsPriority (recordsAbout lists scanned.key) := by
  rw [← Plugin.latestPriority_filter_iff, assembleOne_withoutBare, ← priority_assembleOne lists]
  constructor
  · intro heq
    have hpriority := congrArg Plugin.priority heq
    exact hpriority
  · intro hpriority
    rw [hpriority]

/-- **Bare records say a priority and nothing else.** Without them assembly makes the same records,
except that each has the priority of the last record about the plugin that is not bare, or the default
one if there is none. So it makes the same records exactly if of no scanned plugin the last record is
bare and the last one that is not has a priority other than the default one. -/
theorem assemble_withoutBare (scans : List Scanned) (lists : List (List Plugin)) :
    assemble scans (withoutBare lists)
        = (assemble scans lists).map (fun plugin => { plugin with
            priority := latestPriority ((recordsAbout lists plugin.key).filter (!·.isBare)) }) ∧
      (assemble scans (withoutBare lists) = assemble scans lists
        ↔ ∀ scanned ∈ scans, ¬ ForgetsPriority (recordsAbout lists scanned.key)) := by
  constructor
  · rw [assemble, assemble, List.map_map]
    refine List.map_congr_left fun scanned _ => ?_
    have hkey : (assembleOne (listed lists) scanned).key = scanned.key :=
      congrArg Name.key (name_assembleOne (listed lists) scanned)
    rw [Function.comp_apply, hkey, assembleOne_withoutBare]
  · rw [assemble, assemble, List.map_inj_left]
    simp only [assembleOne_withoutBare_eq_iff]
    constructor
    · intro hfirst scanned hscanned
      -- every scan is of a plugin that a first scan is of
      obtain ⟨first, hmem, hkey⟩ :=
        Scanned.exists_mem_firstOfEach hscanned (List.not_mem_nil (a := scanned.key))
      rw [← hkey]
      exact hfirst first hmem
    · intro hall first hmem
      obtain ⟨before, after, hsplit, -⟩ := (Scanned.mem_firstOfEach_iff.mp hmem).2
      exact hall first (hsplit ▸ List.mem_append_right before (List.mem_cons_self ..))

/-- Two lists about one plugin; the second one only mentions it. -/
def mentioningLists : List (List Plugin) :=
  [[{ name := "a.esp", priority := 5 }], [{ name := "a.esp" }]]

/-- **A mere mention takes back a priority.** -/
theorem mentioningLists_forgotten :
    withoutBare mentioningLists = [[{ name := "a.esp", priority := 5 }], []] ∧
      assemble [⟨"a.esp", {}⟩] (withoutBare mentioningLists) = [{ name := "a.esp", priority := 5 }] ∧
      assemble [⟨"a.esp", {}⟩] mentioningLists = [{ name := "a.esp", priority := 0 }] ∧
      assemble [⟨"a.esp", {}⟩] (withoutBare mentioningLists)
        ≠ assemble [⟨"a.esp", {}⟩] mentioningLists := by
  decide +kernel

end Assembly

end LoadOrder
