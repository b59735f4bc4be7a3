import LoadOrder.Plugin
import LoadOrder.Proofs.Entry.Sets

/-!
# Matching names

Names are matched in two ways. The masters of a plugin are a list, and each of them is compared with
the name in question; requirements and files to load after are sets, in which the key of the name is
looked up. The ways agree, because the comparison never matches names that the keys tell apart, the
short cut that it takes for ASCII letters included.

* **`any_agree_iff`**: comparing a name with each of a list is looking for its key among theirs.
* **`mustFollow_iff_mem_followed`**: so one look-up tells whether a plugin has to load after another.
* **`matched_by_key`**: what a key is, when names agree, and what follows for lists, sets and plugins.
-/

namespace LoadOrder

theorem Name.any_agree_iff {names : List String} {name : String} :
    names.any (agree · name) = true ↔ key name ∈ names.map key := by
  simp only [List.any_eq_true, List.mem_map, agree_iff]

theorem Name.equivalence_agree : Equivalence fun a b : String => agree a b = true where
  refl := agree_self
  symm hab := by
    rw [agree_comm]
    exact hab
  trans hab hbc := by
    rw [agree_iff] at hab hbc ⊢
    exact hab.trans hbc

theorem EntrySet.has_ofList_iff {α : Type} [Named α] {entries : List (Entry α)} {name : String} :
    EntrySet.has (KeyedSet.ofList entries) name = true
      ↔ Name.key name ∈ (entries.map Entry.name).map Name.key := by
  rw [has, KeyedSet.contains_ofList_iff, List.map_map]
  rfl

namespace Plugin

/-- The names of the plugins that a plugin has to load after, for whatever reason. -/
def followed (plugin : Plugin) : List String :=
  plugin.masters ++ plugin.requirements.names ++ plugin.loadAfter.names

/-- A plugin has to load after another one exactly if the other's key is among the keys of its masters,
requirements and files to load after. -/
theorem mustFollow_iff_mem_followed {p q : Plugin} :
    p.mustFollow q = true ↔ q.key ∈ p.followed.map Name.key := by
  rw [mustFollow, Bool.or_eq_true, Bool.or_eq_true, Name.any_agree_iff, EntrySet.has_iff,
    EntrySet.has_iff, followed, List.map_append, List.map_append, List.mem_append, List.mem_append]
  rfl

end Plugin

/-- **Names are matched by their keys.** A key is the name with each character lower-cased in its place;
the capital sigma becomes the final one where a word ends. Two names agree exactly if
their keys are equal, which makes agreement an equivalence. Comparing a name with each of a list and
looking it up in a set that is made of the list come to the same, and a plugin has to load after
another one exactly if the other's key is that of a master, a requirement or a file to load after. -/
theorem Name.matched_by_key :
    (∀ name : String, (key name).toList = name.toList.zipIdx.flatMap fun (c, i) =>
      if c = 'Σ' then [if Text.EndsWordAt name.toList i then 'ς' else 'σ'] else Text.lowerChar c) ∧
    (∀ a b, agree a b = true ↔ key a = key b) ∧
    Equivalence (fun a b => agree a b = true) ∧
    (∀ {α : Type} [Named α] (entries : List (Entry α)) (name : String),
      (entries.map Entry.name).any (agree · name)
        = EntrySet.has (KeyedSet.ofList entries) name) ∧
    ∀ p q : Plugin, p.mustFollow q = true
      ↔ q.key ∈ (p.masters ++ p.requirements.names ++ p.loadAfter.names).map key := by
  refine ⟨fun name => ?_, fun a b => agree_iff, equivalence_agree,
    fun entries name => ?_, fun p q => Plugin.mustFollow_iff_mem_followed⟩
  · rw [key, String.toList_ofList]
    exact Text.lower_eq_flatMap name.toList
  · rw [Bool.eq_iff_iff, any_agree_iff, EntrySet.has_ofList_iff]

end LoadOrder
