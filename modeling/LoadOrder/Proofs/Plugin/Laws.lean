import LoadOrder.Proofs.Plugin.Merging

/-!
# Laws of merging

How merges follow each other. A merge leaves alone what decides about the next one: the name and the
enabled flag of the target.

* **`merge_assoc`**: records may be merged into each other before they are merged into a target.
-/

namespace LoadOrder.Plugin

variable {target source : Plugin}

/-! ## Three records -/

/-- **Merging is associative.** A record is merged into a target and then a third one, or the third one
is merged into the record first: it comes to the same, whatever the third record is, if the record is
enabled and about the target's plugin. -/
theorem merge_assoc (hname : Name.agree target.name source.name = true)
    (henabled : source.enabled = true) (other : Plugin) :
    (target.merge source).merge other = target.merge (source.merge other) := by
  have haccepts : target.accepts source = true := Bool.and_eq_true_iff.mpr ⟨hname, henabled⟩
  have hsame : target.accepts other = source.accepts other :=
    accepts_congr (Name.agree_iff.mp hname) other
  cases hother : source.accepts other with
  | false =>
    -- the third record counts nowhere
    rw [merge_of_not_accepts hother, merge_of_not_accepts]
    rw [accepts_merge_left, hsame, hother]
  | true =>
    have hleft : (target.merge source).accepts other = true := by
      rw [accepts_merge_left, hsame, hother]
    have hright : target.accepts (source.merge other) = true := by
      rw [accepts_merge_right, haccepts]
    rw [merge_of_accepts hleft, merge_of_accepts hright, merge_of_accepts haccepts,
      merge_of_accepts hother]
    simp only [KeyedSet.insertAllNew_assoc, KeyedSet.insertAll_assoc, List.append_assoc]

/-- Three records about one plugin that all have a file to load after and a tag of the same names. -/
def layeredRecords : List Plugin :=
  [{ name := "a.esp", enabled := false, priority := 1,
      loadAfter := KeyedSet.ofList [{ condition := "false", payload := { name := "X.esp" } }],
      tags := KeyedSet.ofList [.always { name := "Delev" }] },
    { name := "A.esp", priority := 2,
      loadAfter := KeyedSet.ofList [.always { name := "x.esp" }, .always { name := "y.esp" }],
      tags := KeyedSet.ofList [.always { name := "delev", isAddition := false }] },
    { name := "A.ESP", priority := 3,
      loadAfter := KeyedSet.ofList [{ condition := "true", payload := { name := "Y.ESP" } }],
      tags := KeyedSet.ofList [{ condition := "true", payload := { name := "DELEV" } }],
      messages := [Message.failure "broken"] }]

theorem layeredRecords_assoc :
    Name.agree layeredRecords[0].name layeredRecords[1].name = true ∧
      layeredRecords[1].enabled = true ∧
      (layeredRecords[0].merge layeredRecords[1]).merge layeredRecords[2]
        = layeredRecords[0].merge (layeredRecords[1].merge layeredRecords[2]) ∧
      ((layeredRecords[0].merge layeredRecords[1]).merge layeredRecords[2]).loadAfter.names
        = ["X.esp", "y.esp"] ∧
      ((layeredRecords[0].merge layeredRecords[1]).merge layeredRecords[2]).tags.names = ["DELEV"] := by
  have hname : Name.agree layeredRecords[0].name layeredRecords[1].name = true := by decide +kernel
  exact ⟨hname, rfl, merge_assoc hname rfl layeredRecords[2], by decide +kernel, by decide +kernel⟩

end LoadOrder.Plugin
