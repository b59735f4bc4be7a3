import LoadOrder.KeyedSet.Common
import LoadOrder.Plugin
import LoadOrder.Proofs.Name.Agreement

/-!
# Content in common

Two questions are asked about the content of two plugins: whether they have any in common, and which.
The first is answered by looking up the content of the smaller plugin in the larger one, so that it
depends on the sizes who is looked up in whom; the second goes through both in order. The answers agree,
as a record is told by its owner's key and its number both times.

* **`sharesContent_iff`**: what the quick answer means.
* **`sharesContent_comm`**: it does not matter who is asked.
* **`sharesContent_agrees`**: both answers are about the records that both plugins define.
-/

namespace LoadOrder

namespace ContentId

theorem key_eq_iff {a b : ContentId} :
    a.key = b.key ↔ Name.agree a.owner b.owner = true ∧ a.localId = b.localId := by
  rw [key, key, Key.mk.injEq, Name.agree_iff]

/-- The set has the record, in whatever spelling of the owner. -/
def IsIn (id : ContentId) (records : ContentSet) : Prop :=
  ∃ found ∈ records.toList, Name.agree found.owner id.owner = true ∧ found.localId = id.localId

theorem isIn_iff {id : ContentId} {records : ContentSet} :
    id.IsIn records ↔ records.contains id.key = true := by
  rw [KeyedSet.contains_iff, List.mem_map]
  exact exists_congr fun found => and_congr_right fun _ => key_eq_iff.symm

end ContentId

namespace Plugin

variable {p q : Plugin}

/-- **Plugins share content** exactly if there is a key that the content of both has. -/
theorem sharesContent_iff : p.sharesContent q = true ↔
    ∃ key, p.content.contains key = true ∧ q.content.contains key = true := by
  unfold sharesContent
  split
  · exact KeyedSet.any_contains_iff
  · exact KeyedSet.any_contains_iff.trans (exists_congr fun key => and_comm)

theorem sharesContent_comm (p q : Plugin) : p.sharesContent q = q.sharesContent p := by
  rw [Bool.eq_iff_iff, sharesContent_iff, sharesContent_iff]
  exact exists_congr fun key => and_comm

theorem isIn_commonContent_iff {id : ContentId} :
    id.IsIn (p.commonContent q) ↔ id.IsIn p.content ∧ id.IsIn q.content := by
  simp only [ContentId.isIn_iff, commonContent, KeyedSet.contains_common, Bool.and_eq_true]

/-- **Sharing content is having content in common.** The records that two plugins have in common are
those that both define, in whatever spelling of the owner's name; the plugins share content exactly if
there are any. Neither depends on which of the two is asked: the same records are found in the same
order. -/
theorem sharesContent_agrees (p q : Plugin) :
    (p.sharesContent q = true ↔ (p.commonContent q).isEmpty = false) ∧
    (∀ id : ContentId, id.IsIn (p.commonContent q) ↔ id.IsIn p.content ∧ id.IsIn q.content) ∧
    p.sharesContent q = q.sharesContent p ∧
    (p.commonContent q).isEmpty = (q.commonContent p).isEmpty ∧
    (p.commonContent q).toList.map ContentId.key = (q.commonContent p).toList.map ContentId.key := by
  have hkeys : (p.commonContent q).toList.map ContentId.key
      = (q.commonContent p).toList.map ContentId.key :=
    KeyedSet.map_key_common_comm p.content q.content
  refine ⟨sharesContent_iff.trans KeyedSet.isEmpty_common_eq_false_iff.symm,
    fun id => isIn_commonContent_iff, sharesContent_comm p q, ?_, hkeys⟩
  have hempty := congrArg List.isEmpty hkeys
  rwa [List.isEmpty_map, List.isEmpty_map] at hempty

end Plugin

end LoadOrder
