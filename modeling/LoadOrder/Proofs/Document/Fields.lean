import LoadOrder.Document.Decode
import LoadOrder.Document.Encode

/-!
# Fields of records

A record is laid out as a table: all its fields in order, each with a value or without one. What is
written are the fields with a value, and a look-up by name among them gives the table's own answer.

* **`lookup_present`**: a look-up finds what the table has for the name, be it nothing.
* **`required_present`**, **`defaulted_present`**: so a field is read as its reader reads the value,
  and one that was left out as its default.
* **`plugin_eq`**, **`entry_eq`**: the tables of plugin records and entries.
-/

namespace LoadOrder.Document

/-! ## Tables -/

/-- Fields in order, each with a value unless it is left out. -/
abbrev Table (α : Type) := List (String × Option α)

namespace Table

variable {α β : Type}

/-- The names of all fields, those left out included. -/
def names (table : Table α) : List String := table.map Prod.fst

/-- The fields that have a value. -/
def present (table : Table α) : List (String × α) :=
  table.filterMap fun field => field.2.map (field.1, ·)

/-- The table with a change to every value. -/
def mapValues (f : α → β) (table : Table α) : Table β :=
  table.map fun field => (field.1, field.2.map f)

variable {table : Table α} {name : String} {value : Option α}

theorem names_mapValues (f : α → β) (table : Table α) :
    (table.mapValues f).names = table.names := by
  rw [names, mapValues, List.map_map]
  rfl

theorem mem_mapValues (f : α → β) (hmem : (name, value) ∈ table) :
    (name, value.map f) ∈ mapValues f table :=
  List.mem_map_of_mem (f := fun field : String × Option α => (field.1, field.2.map f)) hmem

theorem mapValues_mapValues {γ : Type} (g : β → γ) (f : α → β) (table : Table α) :
    mapValues g (mapValues f table) = mapValues (g ∘ f) table := by
  unfold mapValues
  rw [List.map_map]
  congr
  funext field
  rw [Function.comp_apply, Option.map_map]

theorem present_append (table others : Table α) :
    present (table ++ others) = table.present ++ others.present :=
  List.filterMap_append

theorem present_mapValues (f : α → β) (table : Table α) :
    (table.mapValues f).present = table.present.map fun field => (field.1, f field.2) := by
  unfold present mapValues
  rw [List.map_filterMap, List.filterMap_map]
  congr
  funext field
  rw [Function.comp_apply, Option.map_map, Option.map_map]
  rfl

/-- A test of the names may be made before or after fields are left out. -/
theorem filter_present (keep : String → Bool) (table : Table α) :
    table.present.filter (keep ·.1) = present (table.filter (keep ·.1)) := by
  induction table with
  | nil => rfl
  | cons field table ih =>
    obtain ⟨name, value⟩ := field
    cases value <;> cases hkeep : keep name <;> simp_all [present]

theorem names_present_sublist (table : Table α) :
    (table.present.map Prod.fst).Sublist table.names := by
  induction table with
  | nil => exact List.Sublist.refl _
  | cons field table ih =>
    obtain ⟨name, value⟩ := field
    cases value with
    | none => exact ih.cons _
    | some value => exact ih.cons_cons _

/-- **A look-up by name finds the value of the field**, if no two fields have one name. -/
theorem lookup_present (hnodup : table.names.Nodup) (hmem : (name, value) ∈ table) :
    table.present.lookup name = value := by
  induction table with
  | nil => exact absurd hmem List.not_mem_nil
  | cons field table ih =>
    obtain ⟨first, firstValue⟩ := field
    rw [names, List.map_cons, List.nodup_cons] at hnodup
    rcases List.mem_cons.mp hmem with heq | hrest
    · cases heq
      cases value with
      | none =>
        -- left out here, and the names of the others are different
        refine List.lookup_eq_none_iff.mpr fun field hfield => bne_iff_ne.mpr fun hname => ?_
        have hmem := (names_present_sublist table).subset (List.mem_map_of_mem hfield)
        rw [← hname] at hmem
        exact hnodup.1 hmem
      | some value => exact List.lookup_cons_self
    · have hname : name ≠ first := by
        intro heq
        have hmem : name ∈ names table := List.mem_map_of_mem (f := Prod.fst) hrest
        rw [heq] at hmem
        exact hnodup.1 hmem
      cases firstValue with
      | none => exact ih hnodup.2 hrest
      | some firstValue =>
        have hbeq : (name == first) = false := beq_eq_false_iff_ne.mpr hname
        rw [← ih hnodup.2 hrest]
        simp [present, List.lookup_cons, hbeq]

end Table

/-! ## Reading fields -/

namespace Decode

open Table

variable {α β : Type} {table : Table α} {names : List String} {name : String} {value : Option α}

theorem knownMembers_present (hnodup : table.names.Nodup) :
    knownMembers names table.present
      = some (present (table.filter fun field => names.contains field.1)) := by
  have hnames := (List.filter_sublist (p := fun member => names.contains member.1)
    (l := table.present)).map Prod.fst
  unfold knownMembers
  dsimp only
  rw [if_pos ((hnodup.sublist table.names_present_sublist).sublist hnames)]
  rw [filter_present (fun name => names.contains name)]

/-- A record whose fields are all known keeps them all. -/
theorem knownMembers_present_of_subset (hnodup : table.names.Nodup) (hnames : table.names ⊆ names) :
    knownMembers names table.present = some table.present := by
  have hfilter : (table.filter fun field => names.contains field.1) = table := by
    rw [List.filter_eq_self]
    intro field hfield
    exact List.contains_iff_mem.mpr (hnames (List.mem_map_of_mem hfield))
  rw [knownMembers_present hnodup, hfilter]

/-- A field that has to be there is read as its value is. -/
theorem required_present {value : α} (hnodup : table.names.Nodup)
    (hmem : (name, some value) ∈ table) (read : α → Option β) :
    required table.present name read = read value := by
  rw [required, lookup_present hnodup hmem, Option.bind_some]

/-- A field with a default is read as the result, if it is left out only where the default is the
result. -/
theorem defaulted_present {read : α → Option β} {default result : β}
    (hnodup : table.names.Nodup) (hmem : (name, value) ∈ table)
    (hnone : value = none → default = result) (hsome : ∀ a, value = some a → read a = some result) :
    defaulted table.present name default read = some result := by
  rw [defaulted, lookup_present hnodup hmem]
  cases value with
  | none => rw [hnone rfl]
  | some a => exact hsome a rfl

/-- A field with a default is the default or is read. -/
theorem eq_default_or_read {fields : List (String × α)} {default b : β} {read : α → Option β}
    (h : defaulted fields name default read = some b) : b = default ∨ ∃ a, read a = some b := by
  unfold defaulted at h
  split at h
  · exact .inl (Option.some.inj h).symm
  · next a _ => exact .inr ⟨a, h⟩

/-! ### Lists -/

theorem all_map {γ : Type} {f : α → Option β} {g : γ → α} {h : γ → β} {xs : List γ}
    (hf : ∀ x ∈ xs, f (g x) = some (h x)) : all f (xs.map g) = some (xs.map h) := by
  induction xs with
  | nil => rfl
  | cons x xs ih =>
    rw [List.map_cons, all, hf x (List.mem_cons_self ..),
      ih fun y hy => hf y (List.mem_cons_of_mem _ hy)]
    rfl

/-- Every result of a list is the result of one of its items. -/
theorem exists_of_mem_all {f : α → Option β} {xs : List α} {ys : List β} {y : β}
    (h : all f xs = some ys) (hy : y ∈ ys) : ∃ x ∈ xs, f x = some y := by
  induction xs generalizing ys with
  | nil =>
    cases h
    exact absurd hy List.not_mem_nil
  | cons x xs ih =>
    unfold all at h
    split at h
    · exact absurd h (by simp)
    · next first hfirst =>
      obtain ⟨others, hothers, rfl⟩ := Option.map_eq_some_iff.mp h
      rcases List.mem_cons.mp hy with rfl | hy
      · exact ⟨x, List.mem_cons_self .., hfirst⟩
      · obtain ⟨item, hitem, hread⟩ := ih hothers hy
        exact ⟨item, List.mem_cons_of_mem _ hitem, hread⟩

end Decode

/-! ## The tables of records -/

namespace Encode

open Table

/-- A list, unless it is empty. -/
def listOrNone (items : List Value) : Option Value :=
  if items.isEmpty then none else some (.list items)

/-- A text, unless it is empty. -/
def textOrNone (text : String) : Option String := if text.isEmpty then none else some text

theorem eq_of_textOrNone {text a : String} (h : textOrNone text = some a) : a = text := by
  unfold textOrNone at h
  split at h
  · exact absurd h (by simp)
  · exact (Option.some.inj h).symm

theorem eq_empty_of_textOrNone {text : String} (h : textOrNone text = none) : text = "" := by
  unfold textOrNone at h
  split at h
  · next hempty => exact String.isEmpty_iff.mp hempty
  · exact absurd h (by simp)

theorem eq_of_listOrNone {items : List Value} {value : Value} (h : listOrNone items = some value) :
    value = .list items := by
  unfold listOrNone at h
  split at h
  · exact absurd h (by simp)
  · exact (Option.some.inj h).symm

theorem eq_nil_of_listOrNone {items : List Value} (h : listOrNone items = none) : items = [] := by
  unfold listOrNone at h
  split at h
  · next hempty => exact List.isEmpty_iff.mp hempty
  · exact absurd h (by simp)

theorem field_eq (name : String) (value : Value) :
    field name value = present [(name, some value)] := rfl

theorem listUnlessEmpty_eq (name : String) (items : List Value) :
    listUnlessEmpty name items = present [(name, listOrNone items)] := by
  unfold listUnlessEmpty listOrNone
  split <;> rfl

theorem textUnlessEmpty_eq (name text : String) :
    textUnlessEmpty name text = present [(name, (textOrNone text).map .text)] := by
  unfold textUnlessEmpty textOrNone
  split <;> rfl

theorem optionalText_eq (name : String) (text : Option String) :
    optionalText name text = present [(name, text.map .text)] := by
  cases text <;> rfl

/-- The fields of a file. -/
def fileTable (file : FileRef) : Table String :=
  [("name", some file.name), ("display_name", textOrNone file.displayName)]

/-- The fields of a tag. -/
def tagTable (tag : Tag) : Table String := [("name", some tag.written)]

/-- The fields of a message. -/
def messageTable (message : Message) : Table String :=
  [("severity", some message.severity.word), ("text", some message.text),
   ("language", message.language)]

/-- The fields of an entry whose payload has the fields of a table. -/
def entryTable (condition : String) (table : Table String) : Table String :=
  ("condition", textOrNone condition) :: table

/-- The fields of a plugin record. -/
def pluginTable (plugin : Plugin) : Table Value :=
  [("name", some (.text plugin.name)), ("enabled", some (.bool plugin.enabled)),
   ("priority", some (.int plugin.priority.toInt)),
   ("master_plugins", listOrNone (plugin.masters.map .text)),
   ("is_master_file", some (.bool plugin.isMaster)),
   ("load_after", listOrNone (files plugin.loadAfter)),
   ("requirements", listOrNone (files plugin.requirements)),
   ("incompatibilities", listOrNone (files plugin.incompatibilities)),
   ("tags", listOrNone (plugin.tags.toList.map (entry tag))),
   ("messages", listOrNone (plugin.messages.map (entry message)))]

theorem fileRef_eq (file : FileRef) : fileRef file = ((fileTable file).mapValues .text).present := by
  rw [fileRef, field_eq, textUnlessEmpty_eq, ← present_append]
  rfl

theorem tag_eq (t : Tag) : tag t = ((tagTable t).mapValues .text).present := rfl

theorem message_eq (m : Message) : message m = ((messageTable m).mapValues .text).present := by
  rw [message, field_eq, field_eq, optionalText_eq, ← present_append, ← present_append]
  rfl

theorem entry_eq {α : Type} {payload : α → List (String × Value)} {table : α → Table String}
    (hpayload : ∀ a, payload a = present (mapValues .text (table a))) (e : Entry α) :
    entry payload e
      = .record (present (mapValues .text (entryTable e.condition (table e.payload)))) := by
  rw [entry, textUnlessEmpty_eq, hpayload, ← present_append]
  rfl

theorem plugin_eq (p : Plugin) : plugin p = .record (pluginTable p).present := by
  unfold plugin
  simp only [field_eq, listUnlessEmpty_eq, ← present_append]
  rfl

end Encode

end LoadOrder.Document
