import LoadOrder.Proofs.Entry.Sets
import LoadOrder.Proofs.Plugin.Merging

/-!
# The policy table and the merge

`Field.policy` says of each field how the merge is to combine it, and the merge does not look at the
table. Here the table gets its meaning, field by field and through the look-ups of sets, and the merge
is shown to be what the table says.

* **`MergePolicy.Prescribes`**: what each policy makes of two values of a field.
* **`prescribes_iff`**: of each field the merge makes what its policy prescribes, and nothing else is
  prescribed. One case for each field.
* **`merge_eq_iff`**: the merge is the one record that follows the table in every field.
-/

namespace LoadOrder

/-! ## Fields and their values -/

/-- What a record holds in one field. -/
inductive Plugin.Field.Value where
  | text (value : String)
  | flag (value : Bool)
  | number (value : Int32)
  | names (value : List String)
  | content (value : ContentSet)
  | files (value : EntrySet FileRef)
  | tags (value : EntrySet Tag)
  | messages (value : List (Entry Message))

/-- What the record holds in a field. -/
def Plugin.value (plugin : Plugin) : Field → Field.Value
  | .name => .text plugin.name
  | .enabled => .flag plugin.enabled
  | .priority => .number plugin.priority
  | .masters => .names plugin.masters
  | .content => .content plugin.content
  | .isMaster => .flag plugin.isMaster
  | .loadAfter => .files plugin.loadAfter
  | .requirements => .files plugin.requirements
  | .incompatibilities => .files plugin.incompatibilities
  | .tags => .tags plugin.tags
  | .messages => .messages plugin.messages

/-- There is nothing in a record besides its fields. -/
theorem Plugin.ext_value {a b : Plugin} (h : ∀ field, a.value field = b.value field) : a = b := by
  cases a
  cases b
  cases h .name
  cases h .enabled
  cases h .priority
  cases h .masters
  cases h .content
  cases h .isMaster
  cases h .loadAfter
  cases h .requirements
  cases h .incompatibilities
  cases h .tags
  cases h .messages
  rfl

/-! ## What the policies mean -/

open EntrySet (IsOverlay)

/-- Whether the policy makes the third value of the first two, which are the target's and the
source's. Only sets have unions, and only messages are put behind each other. -/
def MergePolicy.Prescribes :
    MergePolicy → Plugin.Field.Value → Plugin.Field.Value → Plugin.Field.Value → Prop
  | keep, target, _, merged => merged = target
  | replace, _, source, merged => merged = source
  | unionKeepTarget, .files target, .files source, .files merged => IsOverlay target source merged
  | unionKeepTarget, .tags target, .tags source, .tags merged => IsOverlay target source merged
  | unionSourceWins, .files target, .files source, .files merged => IsOverlay source target merged
  | unionSourceWins, .tags target, .tags source, .tags merged => IsOverlay source target merged
  | concatenate, .messages target, .messages source, .messages merged => merged = target ++ source
  | _, _, _, _ => False

namespace Plugin

variable {target source : Plugin}

/-- The files of the target lie over those of the source, in whichever field. -/
theorem prescribes_files_iff (target source : EntrySet FileRef) (merged : Field.Value) :
    MergePolicy.unionKeepTarget.Prescribes (.files target) (.files source) merged
      ↔ merged = .files (target.insertAllNew source.toList) := by
  constructor
  · intro h
    cases merged with
    | files merged => exact congrArg _ (h.unique (EntrySet.isOverlay_insertAllNew target source))
    | _ => exact h.elim
  · rintro rfl
    exact EntrySet.isOverlay_insertAllNew target source

/-- **One field.** The policy of a field prescribes what the merge makes of it, and nothing else. -/
theorem prescribes_iff (haccepts : target.accepts source = true) (field : Field)
    (merged : Field.Value) :
    field.policy.Prescribes (target.value field) (source.value field) merged
      ↔ merged = (target.merge source).value field := by
  rw [merge_of_accepts haccepts]
  cases field with
  | name | enabled | priority | masters | content | isMaster => exact Iff.rfl
  | loadAfter => exact prescribes_files_iff target.loadAfter source.loadAfter merged
  | requirements => exact prescribes_files_iff target.requirements source.requirements merged
  | incompatibilities =>
    exact prescribes_files_iff target.incompatibilities source.incompatibilities merged
  | tags =>
    constructor
    · intro h
      cases merged with
      | tags merged =>
        exact congrArg _ (h.unique (EntrySet.isOverlay_insertAll target.tags source.tags))
      | _ => exact h.elim
    · rintro rfl
      exact EntrySet.isOverlay_insertAll target.tags source.tags
  | messages =>
    constructor
    · intro h
      cases merged with
      | messages merged => exact congrArg _ h
      | _ => exact h.elim
    · rintro rfl
      exact rfl

/-- **The merge follows the table.** If the source is enabled and about the target's plugin, the merged
record has in each field what the policy of the field prescribes; otherwise it has in each field what
the target has. No other record does. -/
theorem merge_eq_iff (target source merged : Plugin) :
    target.merge source = merged ↔ ∀ field : Field,
      if Name.agree target.name source.name = true ∧ source.enabled = true then
        field.policy.Prescribes (target.value field) (source.value field) (merged.value field)
      else merged.value field = target.value field := by
  have hiff : Name.agree target.name source.name = true ∧ source.enabled = true
      ↔ target.accepts source = true := Bool.and_eq_true_iff.symm
  simp only [hiff]
  cases haccepts : target.accepts source with
  | true =>
    simp only [if_true, prescribes_iff haccepts]
    exact ⟨fun h field => h ▸ rfl, fun h => ext_value fun field => (h field).symm⟩
  | false =>
    rw [merge_of_not_accepts haccepts]
    simp only [Bool.false_eq_true, if_false]
    exact ⟨fun h field => h ▸ rfl, fun h => ext_value fun field => (h field).symm⟩

end Plugin

end LoadOrder
