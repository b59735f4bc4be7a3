import LoadOrder.Entry.Edit
import LoadOrder.Proofs.Entry.Sets
import Mathlib.Logic.Function.Basic

/-!
# Entry sets as maps

Whatever has been done to a set of entries, it is a finite map from keys of names to entries. Each edit
does to the set what it does to such a map, where nothing is spelled and nothing is in any order.

* **`onMap_find?`**: one edit, on the look-ups of a set and on a map.
* **`onMapAll_find?`**: the edits of a whole history.
* **`get?_of_not_concerns`**: an edit leaves alone what does not concern it.
* **`isMap_applyAll`**: what can be told of a set after any history.
-/

namespace LoadOrder.EntrySet

variable {α : Type} [Named α] {s : EntrySet α}

/-! ## Edits of a map -/

/-- The map with the entry under its key. -/
def put (map : String → Option (Entry α)) (entry : Entry α) : String → Option (Entry α) :=
  Function.update map entry.key (some entry)

/-- The map after an edit, and what the caller is told. -/
def Edit.onMap (map : String → Option (Entry α)) :
    Edit α → (String → Option (Entry α)) × Edit.Reply α
  | insert entry => (put map entry, .replaced (map entry.key))
  | insertNew entry =>
    if (map entry.key).isSome then (map, .inserted false) else (put map entry, .inserted true)
  | remove name => (Function.update map (Name.key name) none, .removed (map (Name.key name)))
  | retain keep => (fun key => (map key).filter keep, .done)
  | extend entries => (entries.foldl put map, .done)
  | collect entries => (entries.foldl put fun _ => none, .done)

/-- The map after several edits, and what the caller is told after each. -/
def Edit.onMapAll (map : String → Option (Entry α)) :
    List (Edit α) → (String → Option (Entry α)) × List (Edit.Reply α)
  | [] => (map, [])
  | edit :: edits =>
    let (next, reply) := edit.onMap map
    let (last, replies) := onMapAll next edits
    (last, reply :: replies)

theorem find?_insert_eq_put (s : EntrySet α) (entry : Entry α) :
    (s.insert entry).find? = put s.find? entry := by
  funext key
  rw [KeyedSet.find?_insert, put]
  by_cases hkey : entry.key = key
  · rw [if_pos (hasKey_entry_iff.mpr hkey), ← hkey, Function.update_self]
  · rw [if_neg (mt hasKey_entry_iff.mp hkey), Function.update_of_ne (Ne.symm hkey)]

theorem find?_insertAll_eq_foldl (s : EntrySet α) (entries : List (Entry α)) :
    (s.insertAll entries).find? = entries.foldl put s.find? := by
  induction entries generalizing s with
  | nil => rfl
  | cons entry entries ih =>
    rw [List.foldl_cons, ← find?_insert_eq_put]
    exact ih (s.insert entry)

theorem find?_remove_eq_update (s : EntrySet α) (name : String) :
    (EntrySet.remove s name).find? = Function.update s.find? (Name.key name) none := by
  funext key
  rw [EntrySet.remove, KeyedSet.find?_erase]
  by_cases hkey : key = Name.key name
  · rw [if_pos (Std.LawfulEqCmp.compare_eq_iff_eq.mpr hkey), hkey, Function.update_self]
  · rw [if_neg (mt Std.LawfulEqCmp.compare_eq_iff_eq.mp hkey), Function.update_of_ne hkey]

/-- **One edit** does to the look-ups of a set what it does to a map, and tells the same. -/
theorem onMap_find? (s : EntrySet α) (edit : Edit α) :
    edit.onMap s.find? = ((edit.apply s).1.find?, (edit.apply s).2) := by
  cases edit with
  | insert entry =>
    have hreplaced : s.replaced? entry = s.find? entry.key := s.replaced?_eq_find? entry
    rw [Edit.onMap, Edit.apply, find?_insert_eq_put, hreplaced]
  | insertNew entry =>
    have hnew : s.insertNew entry = if (s.find? entry.key).isSome then s else s.insert entry := rfl
    have hhas : s.has entry.name = (s.find? entry.key).isSome := rfl
    rw [Edit.onMap, Edit.apply, hnew, hhas]
    cases (s.find? entry.key).isSome with
    | true => rfl
    | false => rw [if_neg (by simp), if_neg (by simp), find?_insert_eq_put, Bool.not_false]
  | remove name =>
    rw [Edit.onMap, Edit.apply, find?_remove_eq_update]
    rfl
  | retain keep =>
    have hfilter : (s.filter keep).find? = fun key => (s.find? key).filter keep :=
      funext fun key => s.find?_filter keep key
    rw [Edit.onMap, Edit.apply, hfilter]
  | extend entries => rw [Edit.onMap, Edit.apply, find?_insertAll_eq_foldl]
  | collect entries =>
    rw [Edit.onMap, Edit.apply, KeyedSet.ofList, find?_insertAll_eq_foldl]
    rfl

/-- **A whole history** does to the look-ups of a set what it does to a map, and tells the same at every
point of it. -/
theorem onMapAll_find? (s : EntrySet α) (edits : List (Edit α)) :
    Edit.onMapAll s.find? edits = ((Edit.applyAll s edits).1.find?, (Edit.applyAll s edits).2) := by
  induction edits generalizing s with
  | nil => rfl
  | cons edit edits ih =>
    rw [Edit.onMapAll, onMap_find?]
    dsimp only
    rw [ih]
    rfl

/-! ## What does not concern an edit -/

/-- Whether the edit is about the entry of the named thing. A test is about the entries that fail it,
and a collection is also about all that it throws away. -/
def Edit.Concerns (s : EntrySet α) (name : String) : Edit α → Prop
  | insert entry | insertNew entry => Name.agree entry.name name = true
  | remove other => Name.agree other name = true
  | retain keep => ∃ entry, s.get? name = some entry ∧ keep entry = false
  | extend entries => ∃ entry ∈ entries, Name.agree entry.name name = true
  | collect entries =>
    s.has name = true ∨ ∃ entry ∈ entries, Name.agree entry.name name = true

theorem put_of_not_agree (map : String → Option (Entry α)) {entry : Entry α} {name : String}
    (h : ¬ Name.agree entry.name name = true) : put map entry (Name.key name) = map (Name.key name) :=
  Function.update_of_ne (fun hkey => h (Name.agree_of_key_eq hkey.symm)) _ _

theorem foldl_put_of_not_agree (map : String → Option (Entry α)) {entries : List (Entry α)}
    {name : String} (h : ¬ ∃ entry ∈ entries, Name.agree entry.name name = true) :
    entries.foldl put map (Name.key name) = map (Name.key name) := by
  induction entries generalizing map with
  | nil => rfl
  | cons entry entries ih =>
    have hfirst : ¬ Name.agree entry.name name = true := fun hagree =>
      h ⟨entry, List.mem_cons_self .., hagree⟩
    have hrest : ¬ ∃ other ∈ entries, Name.agree other.name name = true :=
      fun ⟨other, hmem, hagree⟩ => h ⟨other, List.mem_cons_of_mem _ hmem, hagree⟩
    rw [List.foldl_cons, ih (put map entry) hrest, put_of_not_agree map hfirst]

/-- **An edit leaves alone what does not concern it.** -/
theorem get?_of_not_concerns {edit : Edit α} {name : String} (h : ¬ edit.Concerns s name) :
    (edit.apply s).1.get? name = s.get? name := by
  -- of a map it is plain at which keys an edit changes it
  have hmap : (edit.apply s).1.find? = (edit.onMap s.find?).1 := by rw [onMap_find?]
  rw [get?, get?, hmap]
  cases edit with
  | insert entry => exact put_of_not_agree s.find? h
  | insertNew entry =>
    rw [Edit.onMap]
    split
    · rfl
    · exact put_of_not_agree s.find? h
  | remove other =>
    exact Function.update_of_ne (fun hkey => h (Name.agree_of_key_eq hkey.symm)) _ _
  | retain keep =>
    show (s.find? (Name.key name)).filter keep = s.find? (Name.key name)
    cases hfind : s.find? (Name.key name) with
    | none => rfl
    | some entry =>
      have hkeep : keep entry = true := by
        by_contra hfail
        exact h ⟨entry, hfind, Bool.eq_false_iff.mpr hfail⟩
      rw [Option.filter_some_pos hkeep]
  | extend entries => exact foldl_put_of_not_agree s.find? h
  | collect entries =>
    have hnone : s.find? (Name.key name) = none := by
      by_contra hsome
      exact h (.inl (Option.isSome_iff_ne_none.mpr hsome))
    show entries.foldl put (fun _ => none) (Name.key name) = s.find? (Name.key name)
    rw [hnone]
    exact foldl_put_of_not_agree _ fun hlisted => h (.inr hlisted)

/-! ## Sets of entries by their keys -/

/-- The set is a finite map from keys of names: it holds every entry under the key of its own name, in
the order of the keys and for each name at most one, and any spelling of a name finds it. -/
structure IsMap (s : EntrySet α) : Prop where
  key_of_find? : ∀ {key entry}, s.find? key = some entry → entry.key = key
  mem_iff : ∀ {entry}, entry ∈ s.toList ↔ s.find? entry.key = some entry
  increasing : s.toList.Pairwise (·.key < ·.key)
  distinct : s.toList.Pairwise fun a b => Name.agree a.name b.name = false
  get?_iff : ∀ {name entry},
    s.get? name = some entry ↔ entry ∈ s.toList ∧ Name.agree entry.name name = true
  has_iff : ∀ {name}, s.has name = true ↔ ∃ entry ∈ s.toList, Name.agree entry.name name = true

theorem isMap (s : EntrySet α) : s.IsMap where
  key_of_find? := EntrySet.key_of_find?
  mem_iff := KeyedSet.mem_toList_iff
  increasing := s.increasing.imp fun hbefore => compareOfLessAndEq_eq_lt.mp hbefore
  distinct := s.increasing.imp fun {a b} hbefore => by
    have hother : ¬ Keyed.hasKey a.key b = true :=
      Bool.eq_false_iff.mp (hbefore.not_hasKey (Keyed.hasKey_self a))
    exact Name.agree_eq_false_iff.mpr fun hkey => hother (hasKey_entry_iff.mpr hkey.symm)
  get?_iff := get?_eq_some_iff
  has_iff := by
    intro name
    have hhas : s.has name = (s.get? name).isSome := rfl
    rw [hhas, Option.isSome_iff_exists]
    exact exists_congr fun entry => get?_eq_some_iff

/-- **A set after any history.** It holds what the same edits make of a map, and every edit has told what
it tells of a map. It is a finite map from keys of names. Whatever edit comes next: an insertion tells
the entry that gives way; an insertion of a new entry that tells that there is one already changes
nothing; and no edit changes what does not concern it. -/
theorem isMap_applyAll (edits : List (Edit α)) :
    ∃ s replies, Edit.applyAll ∅ edits = (s, replies) ∧
      Edit.onMapAll (fun _ => none) edits = (s.find?, replies) ∧
      s.IsMap ∧
      (∀ entry, ((Edit.insert entry).apply s).2 = .replaced (s.get? entry.name)) ∧
      (∀ entry, ((Edit.insertNew entry).apply s).2 = .inserted false →
        ((Edit.insertNew entry).apply s).1 = s) ∧
      ∀ (edit : Edit α) name, ¬ edit.Concerns s name →
        (edit.apply s).1.get? name = s.get? name := by
  refine ⟨_, _, rfl, onMapAll_find? ∅ edits, isMap _, fun entry => ?_, fun entry htold => ?_,
    fun edit name => get?_of_not_concerns⟩
  · exact congrArg Edit.Reply.replaced (KeyedSet.replaced?_eq_find? _ entry)
  · have hhas : (Edit.applyAll ∅ edits).1.has entry.name = true := by simpa [Edit.apply] using htold
    exact if_pos hhas

/-- Edits that spell one name in several ways. -/
def respelledEdits : List (Edit FileRef) :=
  [.insert (.always { name := "B.esp" }),
    .insertNew { condition := "false", payload := { name := "b.ESP" } },
    .extend [{ condition := "true", payload := { name := "b.esp" } }, .always { name := "A.esp" }],
    .retain (·.isConditional)]

theorem respelledEdits_isMap :
    ∃ s replies, Edit.applyAll ∅ respelledEdits = (s, replies) ∧
      s.names = ["b.esp"] ∧ replies = [.replaced none, .inserted false, .done, .done] ∧
      ((Edit.insertNew (.always { name := "B.ESP" })).apply s).2 = .inserted false ∧
      ((Edit.insertNew (.always { name := "B.ESP" })).apply s).1 = s ∧
      ¬ (Edit.remove "a.esp").Concerns s "b.esp" ∧
      ((Edit.remove "a.esp").apply s).1.get? "b.esp" = s.get? "b.esp" := by
  obtain ⟨s, replies, happly, -, -, -, hnew, hframe⟩ := isMap_applyAll respelledEdits
  obtain ⟨rfl, rfl⟩ := Prod.mk.inj happly
  have htold : ((Edit.insertNew (.always { name := "B.ESP" })).apply
      (Edit.applyAll ∅ respelledEdits).1).2 = .inserted false := by decide +kernel
  have hother : ¬ Name.agree "a.esp" "b.esp" = true := by decide +kernel
  exact ⟨_, _, rfl, by decide +kernel, by decide +kernel, htold, hnew _ htold, hother,
    hframe (.remove "a.esp") "b.esp" hother⟩

end LoadOrder.EntrySet
