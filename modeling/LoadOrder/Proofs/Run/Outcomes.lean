import LoadOrder.Proofs.Order.Circles
import LoadOrder.Proofs.Order.MastersFirst
import LoadOrder.Proofs.Run.Preparation

/-!
# The outcomes of a strict run

What a complete run promises, from scans and metadata lists to its report. Sorting promises little of
a batch in which names agree; that the prepared plugins never contain such names is what carries its
promises over to runs.

* **`report_sorted`**: a load order holds the prepared plugins, one for each scanned plugin, in an
  order that honours what is left of their relations.
* **`report_cycle`**: a run ends in a cycle exactly when there is one, and what it then returns are the
  prepared plugins with a message for those on the cycle.
-/

namespace LoadOrder.Run

open Relation

variable {run : Run} {scans : List Scanned} {lists : List (List Plugin)} {plugins out : List Plugin}
  {problems : Install.Problems} {report : Report}

/-! ## Reports -/

theorem report_of_prepare (h : run.prepare scans lists = .ok (plugins, problems)) :
    run.report scans lists = .ok { outcome := run.outcome plugins, problems } := by
  unfold Run.report
  rw [h]

/-- A report speaks of the prepared plugins. -/
theorem exists_prepare_of_report (h : run.report scans lists = .ok report) :
    ∃ plugins, run.prepare scans lists = .ok (plugins, report.problems) ∧
      report.outcome = run.outcome plugins := by
  cases hprepare : run.prepare scans lists with
  | error error =>
    unfold Run.report at h
    rw [hprepare] at h
    exact absurd h (by simp)
  | ok prepared =>
    obtain ⟨plugins, problems⟩ := prepared
    rw [report_of_prepare hprepare] at h
    cases h
    exact ⟨plugins, rfl, rfl⟩

theorem sort_of_outcome (h : run.outcome plugins = .sorted out) :
    Order.sort run.settings.strictness plugins = .ok out := by
  unfold outcome at h
  split at h
  · next hsort =>
    cases h
    exact hsort
  · exact absurd h (by simp)

/-! ## Who is in the batch -/

/-- Each prepared plugin is spelled as it was first scanned. -/
theorem exists_isFirst_of_prepare (h : run.prepare scans lists = .ok (plugins, problems))
    {p : Plugin} (hp : p ∈ plugins) :
    ∃ scanned, Scanned.IsFirst scans scanned ∧ p.name = scanned.name := by
  have hname : p.name ∈ plugins.map Plugin.name := List.mem_map_of_mem hp
  rw [names_of_prepare h] at hname
  obtain ⟨scanned, hscanned, hsame⟩ := List.mem_map.mp hname
  exact ⟨scanned, (Scanned.mem_firstOfEach_iff.mp hscanned).2, hsame.symm⟩

theorem nodup_key_of_prepare (h : run.prepare scans lists = .ok (plugins, problems)) :
    (plugins.map Plugin.key).Nodup :=
  List.pairwise_map.mpr <| (distinctNames_of_prepare h).imp fun hnames =>
    Name.agree_eq_false_iff.mp hnames

/-- There is one prepared plugin for each scanned one. -/
theorem count_key_of_prepare (h : run.prepare scans lists = .ok (plugins, problems))
    {scanned : Scanned} (hscanned : scanned ∈ scans) :
    (plugins.map Plugin.key).count scanned.key = 1 := by
  obtain ⟨first, hfirst, hkey⟩ := Scanned.exists_mem_firstOfEach hscanned List.not_mem_nil
  -- the keys follow from the names, which are those of the first scans
  have hkeys : plugins.map Plugin.key = (Scanned.firstOfEach [] scans).map Scanned.key := by
    have hnames := congrArg (List.map Name.key) (names_of_prepare h)
    rw [List.map_map, List.map_map] at hnames
    exact hnames
  refine List.count_eq_one_of_mem (nodup_key_of_prepare h) ?_
  rw [hkeys, ← hkey]
  exact List.mem_map_of_mem hfirst

/-! ## Load orders -/

/-- **What a load order is worth.** The plugins of a strict load order are the prepared ones, record by
record: for each scanned plugin one, spelled as it was first scanned. None has a master, requirement
or file to load after behind it, unless it is a master and the other one is not, and all masters stand
in front. The install problems are those of the preparation. -/
theorem report_sorted (hstrict : run.settings.strictness = .strict)
    (h : run.report scans lists = .ok report) (hsorted : report.outcome = .sorted out) :
    ∃ plugins, run.prepare scans lists = .ok (plugins, report.problems) ∧ out.Perm plugins ∧
      (∀ p ∈ out, ∃ scanned, Scanned.IsFirst scans scanned ∧ p.name = scanned.name) ∧
      (∀ scanned ∈ scans, (out.map Plugin.key).count scanned.key = 1) ∧
      out.Pairwise (fun p q => p.mustFollow q = true → p.isMaster = true ∧ q.isMaster = false) ∧
      out.Pairwise (fun p q => q.isMaster = true → p.isMaster = true) := by
  obtain ⟨plugins, hprepare, houtcome⟩ := exists_prepare_of_report h
  have hsort : Order.sort .strict plugins = .ok out := by
    rw [← hstrict]
    exact sort_of_outcome (houtcome.symm.trans hsorted)
  have hd := distinctNames_of_prepare hprepare
  have hperm : out.Perm plugins := Order.perm_of_trace (Order.sort_eq_ok_iff.mp hsort).2
  refine ⟨plugins, hprepare, hperm, fun p hp => ?_, fun scanned hscanned => ?_, ?_,
    Order.mastersFirst_of_sort_strict hd hsort⟩
  · exact exists_isFirst_of_prepare hprepare (hperm.subset hp)
  · rw [(hperm.map Plugin.key).count_eq]
    exact count_key_of_prepare hprepare hscanned
  · -- of two plugins with different names the relation counts unless the master rule overrides it
    refine (hd.perm hperm).imp₂ (fun p q hnamed hrel hfollow => ?_)
      (Order.relates_of_sort_strict hd hsort)
    by_contra hcount
    refine Bool.eq_false_iff.mp hrel (Order.Relations.relates_iff.mpr ⟨hnamed, fun hp => ?_, hfollow⟩)
    exact (Bool.not_eq_false _).mp fun hq => hcount ⟨hp, hq⟩

/-- The file of the one master is there. -/
def respelledRun : Run := { state := { installed := ["b.esm"] } }

/-- A plugin scanned twice in different spelling, its master, and another plugin. -/
def respelledScans : List Scanned :=
  [⟨"a.esp", { masters := ["B.ESM"] }⟩, ⟨"A.ESP", { isMaster := true }⟩,
    ⟨"b.esm", { isMaster := true }⟩, ⟨"c.esp", {}⟩]

/-- The plugin is to load after the other one on a condition that never holds. -/
def respelledLists : List (List Plugin) :=
  [[{ name := "A.esp",
      loadAfter := KeyedSet.ofList [{ condition := "false", payload := { name := "c.esp" } }] }]]

def respelledBatch : List Plugin :=
  [{ name := "a.esp", masters := ["B.ESM"] }, { name := "b.esm", isMaster := true },
    { name := "c.esp" }]

theorem prepare_respelled :
    respelledRun.prepare respelledScans respelledLists = .ok (respelledBatch, ∅) := by
  decide +kernel

theorem checkCycles_respelledBatch :
    (Order.Relations.ofPlugins respelledBatch).checkCycles = .ok () := by
  have hkeys : (Order.Relations.ofPlugins respelledBatch).nodes.map Order.Node.key
      = ["a.esp", "b.esm", "c.esp"] := by
    decide +kernel
  obtain ⟨ha, hb, hc⟩ : (Order.Relations.ofPlugins respelledBatch).afterKeys "a.esp" = ["b.esm"] ∧
      (Order.Relations.ofPlugins respelledBatch).afterKeys "b.esm" = [] ∧
      (Order.Relations.ofPlugins respelledBatch).afterKeys "c.esp" = [] := by
    decide +kernel
  unfold Order.Relations.checkCycles Order.Relations.findCycle
  rw [hkeys]
  simp [Order.Relations.search, ha, hb, hc]

theorem outcome_respelledBatch : respelledRun.outcome respelledBatch
    = .sorted [respelledBatch[1], respelledBatch[0], respelledBatch[2]] := by
  have hsorted : Order.byName respelledBatch = respelledBatch :=
    List.mergeSort_of_pairwise (by decide +kernel)
  have hsort : Order.sort .strict respelledBatch
      = .ok [respelledBatch[1], respelledBatch[0], respelledBatch[2]] := by
    rw [Order.sort_strict_of_ok checkCycles_respelledBatch, Order.queueOf, hsorted]
    decide +kernel
  rw [outcome, show respelledRun.settings.strictness = .strict from rfl, hsort]

theorem respelled_sorted :
    ∃ report out, respelledRun.report respelledScans respelledLists = .ok report ∧
      report.outcome = .sorted out ∧ out.map Plugin.name = ["b.esm", "a.esp", "c.esp"] ∧
        ∃ plugins, respelledRun.prepare respelledScans respelledLists
            = .ok (plugins, report.problems) ∧ out.Perm plugins ∧
          (∀ p ∈ out, ∃ scanned, Scanned.IsFirst respelledScans scanned ∧ p.name = scanned.name) ∧
          (∀ scanned ∈ respelledScans, (out.map Plugin.key).count scanned.key = 1) ∧
          out.Pairwise (fun p q => p.mustFollow q = true → p.isMaster = true ∧ q.isMaster = false) ∧
          out.Pairwise (fun p q => q.isMaster = true → p.isMaster = true) :=
  ⟨_, _, report_of_prepare prepare_respelled, outcome_respelledBatch, rfl,
    report_sorted rfl (report_of_prepare prepare_respelled) outcome_respelledBatch⟩

/-! ## Cycles -/

theorem outcome_eq_cycle_iff (hstrict : run.settings.strictness = .strict) {error : Order.Error}
    {returned : List Plugin} :
    run.outcome plugins = .cycle error returned
      ↔ (∃ path, (Order.Relations.ofPlugins plugins).findCycle = some path ∧
          error = Order.Relations.cycleError path) ∧ returned = attachCycle error plugins := by
  unfold outcome
  rw [hstrict]
  cases hfind : (Order.Relations.ofPlugins plugins).findCycle with
  | none =>
    have hcheck : (Order.Relations.ofPlugins plugins).checkCycles = .ok () := by
      rw [Order.Relations.checkCycles, hfind]
    obtain ⟨out, hsort, _⟩ := Order.exists_sort_strict hcheck
    rw [hsort]
    simp
  | some path =>
    have hcheck : (Order.Relations.ofPlugins plugins).checkCycles
        = .error (Order.Relations.cycleError path) := by
      rw [Order.Relations.checkCycles, hfind]
    rw [Order.sort_strict_of_error hcheck]
    simp only [Outcome.cycle.injEq, Option.some.injEq, exists_eq_left']
    constructor
    · rintro ⟨rfl, rfl⟩
      exact ⟨rfl, rfl⟩
    · rintro ⟨rfl, rfl⟩
      exact ⟨rfl, rfl⟩

/-- The message about a cycle goes to the plugins that the error names. -/
theorem attachCycle_eq (hd : Order.DistinctNames plugins) {error : Order.Error}
    {members : List Plugin} (hsub : members ⊆ plugins)
    (hnames : error.plugins = members.map Plugin.name) :
    attachCycle error plugins = plugins.map fun p =>
      if p.name ∈ error.plugins then
        { p with messages := p.messages ++
          [{ condition := "",
             payload := { severity := .error, text := error.message, language := none } }] }
      else p := by
  refine List.map_congr_left fun p hp => ?_
  have hnamed : (error.plugins.map Name.key).contains p.key = true ↔ p.name ∈ error.plugins := by
    rw [List.contains_iff_mem, hnames, List.map_map, List.mem_map, List.mem_map]
    constructor
    · rintro ⟨q, hq, hkey⟩
      rw [← hd.eq_of_key_eq (hsub hq) hp hkey]
      exact ⟨q, hq, rfl⟩
    · rintro ⟨q, hq, hname⟩
      exact ⟨q, hq, congrArg Name.key hname⟩
  by_cases hmem : p.name ∈ error.plugins
  · rw [if_pos hmem, if_pos (hnamed.mpr hmem)]
    rfl
  · rw [if_neg hmem, if_neg (mt hnamed.mp hmem)]

/-- **What a cycle leads to.** Where the preparation succeeds, a strict run ends in a cycle exactly
when some prepared plugin has to load after itself by way of others. The error then names a circle of
them, each once: at least two, all masters or none, each of which has to load after the next and the
last after the first; it speaks of two plugins exactly if there are two. The plugins are returned as
they were prepared, except that those named get one more message at the end: an error under no condition,
for readers of every language, with the text of the error that the run ends in. -/
theorem report_cycle (hstrict : run.settings.strictness = .strict)
    (h : run.prepare scans lists = .ok (plugins, problems)) :
    ∃ outcome, run.report scans lists = .ok { outcome, problems } ∧
      ((∃ error returned, outcome = .cycle error returned)
        ↔ ∃ p, TransGen (Order.Follows plugins) p p) ∧
      ∀ error returned, outcome = .cycle error returned →
        (∃ members, Order.Circle plugins members ∧ error.plugins = members.map Plugin.name ∧
          ∃ flag, ∀ p ∈ members, p.isMaster = flag) ∧
        ((∃ first second, error = .mutualRelation first second) ↔ error.plugins.length = 2) ∧
        returned = plugins.map fun p =>
          if p.name ∈ error.plugins then
            { p with messages := p.messages ++
              [{ condition := "",
                 payload := { severity := .error, text := error.message, language := none } }] }
          else p := by
  have hd := distinctNames_of_prepare h
  refine ⟨run.outcome plugins, report_of_prepare h, ?_, fun error returned hcycle => ?_⟩
  · simp only [outcome_eq_cycle_iff hstrict]
    rw [← hd.exists_findCycle_iff]
    constructor
    · rintro ⟨_, _, ⟨path, hpath, _⟩, _⟩
      exact ⟨path, hpath⟩
    · rintro ⟨path, hpath⟩
      exact ⟨_, _, ⟨path, hpath, rfl⟩, rfl⟩
  · obtain ⟨⟨path, hpath, rfl⟩, rfl⟩ := (outcome_eq_cycle_iff hstrict).mp hcycle
    obtain ⟨members, hcircle, rfl⟩ := hd.exists_circle_of_findCycle hpath
    -- the path is the names of the circle with the first one again, which the error leaves off
    have hlength : 2 ≤ (members.map Plugin.name).length := by
      rw [List.length_map]
      exact hcircle.two_le_length
    obtain ⟨hnames, hmutual⟩ := Order.plugins_cycleError hlength
    rw [← List.map_take, ← List.map_append] at hnames hmutual
    refine ⟨⟨members, hcircle, hnames, hcircle.isMaster_eq⟩, ?_,
      attachCycle_eq hd hcircle.subset hnames⟩
    rw [hmutual, hnames]

/-- Two plugins built on each other, and one that has nothing to do with them. -/
def mutualScans : List Scanned :=
  [⟨"a.esp", { masters := ["B.ESP"] }⟩, ⟨"b.esp", { masters := ["a.esp"] }⟩, ⟨"c.esp", {}⟩]

/-- There is something to tell about the first one anyway. -/
def mutualLists : List (List Plugin) :=
  [[{ name := "A.esp", messages := [.always { severity := .note, text := "Read me." }] }]]

def mutualRun : Run := { state := { installed := ["a.esp", "b.esp"] } }

def mutualBatch : List Plugin :=
  [{ name := "a.esp", masters := ["B.ESP"],
     messages := [.always { severity := .note, text := "Read me." }] },
    { name := "b.esp", masters := ["a.esp"] }, { name := "c.esp" }]

/-- What is told about the two plugins. -/
def mutualNotice : Entry Message where
  condition := ""
  payload :=
    { severity := .error
      text := "Cyclic interaction detected between \"a.esp\" and \"b.esp\": " ++
        "each must load after the other"
      language := none }

theorem prepare_mutual : mutualRun.prepare mutualScans mutualLists = .ok (mutualBatch, ∅) := by
  decide +kernel

theorem findCycle_mutualBatch :
    (Order.Relations.ofPlugins mutualBatch).findCycle = some ["a.esp", "b.esp", "a.esp"] := by
  have hkeys : (Order.Relations.ofPlugins mutualBatch).nodes.map Order.Node.key
      = ["a.esp", "b.esp", "c.esp"] := by
    decide +kernel
  obtain ⟨ha, hb⟩ : (Order.Relations.ofPlugins mutualBatch).afterKeys "a.esp" = ["b.esp"] ∧
      (Order.Relations.ofPlugins mutualBatch).afterKeys "b.esp" = ["a.esp"] := by
    decide +kernel
  have hsearch : (Order.Relations.ofPlugins mutualBatch).search ["a.esp", "b.esp", "c.esp"] []
      = some ["a.esp", "b.esp", "a.esp"] := by
    simp [Order.Relations.search, Order.Relations.roundTrip, ha, hb]
  rw [Order.Relations.findCycle, hkeys, hsearch]
  decide +kernel

theorem mutual_cycle :
    mutualRun.prepare mutualScans mutualLists = .ok (mutualBatch, ∅) ∧
      (∃ p, TransGen (Order.Follows mutualBatch) p p) ∧
      (∃ members, Order.Circle mutualBatch members ∧ members.map Plugin.name = ["a.esp", "b.esp"]) ∧
      mutualRun.report mutualScans mutualLists = .ok {
        outcome := .cycle (.mutualRelation "a.esp" "b.esp")
          [{ name := "a.esp", masters := ["B.ESP"],
             messages := [.always { severity := .note, text := "Read me." }, mutualNotice] },
            { name := "b.esp", masters := ["a.esp"], messages := [mutualNotice] },
            { name := "c.esp" }]
        problems := ∅ } := by
  obtain ⟨outcome, hreport, hiff, hcycle⟩ := report_cycle rfl prepare_mutual
  have houtcome : outcome = .cycle (.mutualRelation "a.esp" "b.esp")
      (attachCycle (.mutualRelation "a.esp" "b.esp") mutualBatch) := by
    rw [report_of_prepare prepare_mutual] at hreport
    cases hreport
    exact (outcome_eq_cycle_iff rfl).mpr ⟨⟨_, findCycle_mutualBatch, rfl⟩, rfl⟩
  obtain ⟨⟨members, hcircle, hnames, -⟩, -, hreturned⟩ := hcycle _ _ houtcome
  refine ⟨prepare_mutual, hiff.mp ⟨_, _, houtcome⟩, ⟨members, hcircle, hnames.symm⟩, ?_⟩
  rw [hreport, houtcome, hreturned]
  decide +kernel

end LoadOrder.Run
