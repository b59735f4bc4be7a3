import LoadOrder.Document.Text
import LoadOrder.KeyedSet.Lemmas
import LoadOrder.Proofs.Document.Fields
import LoadOrder.Proofs.Document.Json.Values
import LoadOrder.Proofs.Entry.Tags
import Mathlib.Data.List.Nodup

/-!
# Records written and read again

Reading what was written gives the records back. The content of a record is never written, and the
written form of a tag is trimmed in reading, so this cannot hold of all records; it holds of those that
a document can hold, and every record that was read is one of them.

* **`plugin_ofValue`**: a record that a document can hold is read back.
* **`isDocumented_of_plugins`**: what is read are records that a document can hold, whatever the format
  is.
* **`readPlugins_writePlugins_iff`**: exactly the lists of such records survive.
-/

namespace LoadOrder

/-- The record holds nothing that a document cannot hold. -/
structure Plugin.IsDocumented (plugin : Plugin) : Prop where
  content_eq : plugin.content = ∅
  isTidy_of_mem : ∀ e ∈ plugin.tags.toList, e.payload.IsTidy

namespace Document

/-! ## Trees of records -/

namespace Json

theorem ofItems_eq_map (items : List Value) : Tree.ofItems items = items.map Tree.ofValue := by
  induction items with
  | nil => rfl
  | cons item items ih => rw [Tree.ofItems, ih, List.map_cons]

theorem members?_ofValue (table : Table Value) :
    Source.members? (Tree.ofValue (.record table.present))
      = some (table.mapValues Tree.ofValue).present := by
  rw [Table.present_mapValues]
  show Decode.all _ (Tree.ofFields table.present) = _
  induction table.present with
  | nil => rfl
  | cons field fields ih =>
    obtain ⟨name, value⟩ := field
    rw [Tree.ofFields, Decode.all, ih]
    rfl

end Json

namespace Decode

open Json Table

theorem fields?_ofValue {table : Table Value} {names : List String} (hnodup : table.names.Nodup)
    (hnames : table.names ⊆ names) :
    fields? names (Tree.ofValue (.record table.present))
      = some (table.mapValues Tree.ofValue).present := by
  have hsame := names_mapValues Tree.ofValue table
  unfold fields?
  rw [members?_ofValue]
  exact knownMembers_present_of_subset (hsame ▸ hnodup) (hsame ▸ hnames)

/-- A list is read back if every item is. -/
theorem listOf_ofValue {α : Type} {read : Tree → Option α} {write : α → Value} {xs : List α}
    (hread : ∀ x ∈ xs, read (Tree.ofValue (write x)) = some x) :
    listOf read (Tree.ofValue (.list (xs.map write))) = some xs := by
  show all read (Tree.ofItems (xs.map write)) = some xs
  rw [ofItems_eq_map, List.map_map]
  have hall := all_map (f := read) (g := Tree.ofValue ∘ write) (h := id) hread
  rwa [List.map_id] at hall

/-- A list field is read back, if its default is the result for no items. -/
theorem defaulted_list {α β : Type} {table : Table Value} {name : String} {items : List α}
    {write : α → Value} {read : Tree → Option β} {default result : β}
    (hnodup : (Table.names table).Nodup)
    (hmem : (name, Encode.listOrNone (items.map write)) ∈ table)
    (hnil : items = [] → default = result)
    (hread : read (Tree.ofValue (.list (items.map write))) = some result) :
    defaulted (present (mapValues Tree.ofValue table)) name default read = some result := by
  refine defaulted_present (names_mapValues Tree.ofValue table ▸ hnodup) (mem_mapValues _ hmem)
    (fun hnone => ?_) (fun a hsome => ?_)
  · rw [Option.map_eq_none_iff] at hnone
    exact hnil (List.map_eq_nil_iff.mp (Encode.eq_nil_of_listOrNone hnone))
  · obtain ⟨value, hvalue, rfl⟩ := Option.map_eq_some_iff.mp hsome
    rw [Encode.eq_of_listOrNone hvalue]
    exact hread

/-! ## Entries -/

section Entries

variable {α β : Type} {table : Table String} {name : String}

/-- A text field is read back, if it is left out where it is empty. -/
theorem defaulted_text {node : String → α} {read : α → Option String} {text : String}
    (hnodup : table.names.Nodup) (hmem : (name, Encode.textOrNone text) ∈ table)
    (hread : ∀ text, read (node text) = some text) :
    defaulted (present (mapValues node table)) name "" read = some text := by
  refine defaulted_present (names_mapValues node table ▸ hnodup) (mem_mapValues node hmem)
    (fun hnone => ?_) (fun a hsome => ?_)
  · rw [Option.map_eq_none_iff] at hnone
    exact (Encode.eq_empty_of_textOrNone hnone).symm
  · obtain ⟨written, hwritten, rfl⟩ := Option.map_eq_some_iff.mp hsome
    rw [hread, Encode.eq_of_textOrNone hwritten]

theorem all_withPlain (table : Table String) :
    all withPlain (table.mapValues fun text => Tree.text (some text)).present
      = some (table.mapValues Plain.text).present := by
  rw [present_mapValues, present_mapValues]
  exact all_map fun _ _ => rfl

/-! ### Conditions and what they stand beside

The condition of an entry is one of its members, and the payload is all the others.
-/

theorem ne_of_mem_mapValues {node : String → α} (hcondition : "condition" ∉ table.names) :
    ∀ field ∈ mapValues node table, field.1 ≠ "condition" := by
  intro field hfield heq
  have hmem : field.1 ∈ Table.names (mapValues node table) := List.mem_map_of_mem hfield
  rw [names_mapValues, heq] at hmem
  exact hcondition hmem

theorem knownMembers_condition (condition : String) (node : String → α)
    (hcondition : "condition" ∉ table.names) (hnodup : table.names.Nodup) :
    knownMembers ["condition"] (present (mapValues node (Encode.entryTable condition table)))
      = some (present (mapValues node [("condition", Encode.textOrNone condition)])) := by
  rw [knownMembers_present]
  · congr 2
    refine (List.filter_cons_of_pos rfl).trans (congrArg (List.cons _) ?_)
    refine List.filter_eq_nil_iff.mpr fun field hfield => ?_
    simpa using ne_of_mem_mapValues hcondition field hfield
  · rw [names_mapValues]
    exact List.nodup_cons.mpr ⟨hcondition, hnodup⟩

theorem filter_ne_condition (condition : String) (node : String → α)
    (hcondition : "condition" ∉ table.names) :
    (present (mapValues node (Encode.entryTable condition table))).filter
      (fun member => member.1 ≠ "condition") = present (mapValues node table) := by
  rw [filter_present (fun name => name ≠ "condition")]
  congr 1
  refine (List.filter_cons_of_neg (by simp)).trans ?_
  exact List.filter_eq_self.mpr fun field hfield =>
    decide_eq_true (ne_of_mem_mapValues hcondition field hfield)

/-- **An entry is read back** if its payload is. -/
theorem entry_ofValue (condition : String) {names : List String}
    {payload : List (String × Plain) → Option α} {a : α} (hcondition : "condition" ∉ names)
    (hnames : table.names ⊆ names) (hnodup : table.names.Nodup)
    (hpayload : payload (present (mapValues Plain.text table)) = some a) :
    entry names payload (Tree.ofValue
        (.record (present (mapValues Value.text (Encode.entryTable condition table)))))
      = some ⟨condition, a⟩ := by
  let node : String → Tree := fun text => .text (some text)
  have hnot : "condition" ∉ table.names := fun hmem => hcondition (hnames hmem)
  have hmembers : Source.entryMembers? (Tree.ofValue
      (.record (present (mapValues Value.text (Encode.entryTable condition table)))))
      = some (present (mapValues node (Encode.entryTable condition table))) := by
    refine (members?_ofValue _).trans ?_
    rw [mapValues_mapValues]
    rfl
  have hvalue : defaulted (present (mapValues node [("condition", Encode.textOrNone condition)]))
      "condition" "" Source.text? = some condition :=
    defaulted_text (List.nodup_singleton _) (List.mem_singleton.mpr rfl) fun _ => rfl
  have hknown : knownMembers names (present (mapValues Plain.text table))
      = some (present (mapValues Plain.text table)) := by
    have hsame := names_mapValues Plain.text table
    exact knownMembers_present_of_subset (hsame ▸ hnodup) (hsame ▸ hnames)
  unfold entry
  rw [hmembers]
  simp only [Option.bind_eq_bind, Option.bind_some, knownMembers_condition condition node hnot hnodup,
    hvalue, filter_ne_condition condition node hnot, all_withPlain table, hknown, hpayload, node]

/-- A text that has to be there is read back. -/
theorem required_text {text : String} (hnodup : table.names.Nodup)
    (hmem : (name, some text) ∈ table) (read : Plain → Option β) :
    required (present (mapValues Plain.text table)) name read = read (.text text) :=
  required_present (names_mapValues Plain.text table ▸ hnodup) (mem_mapValues Plain.text hmem) read

end Entries

/-! ### Payloads -/

theorem names_fileTable (file : FileRef) :
    (Encode.fileTable file).names = ["name", "display_name"] := rfl

theorem names_messageTable (m : Message) :
    (Encode.messageTable m).names = ["severity", "text", "language"] := rfl

theorem fileRef_present (file : FileRef) :
    fileRef (present (mapValues Plain.text (Encode.fileTable file))) = some file := by
  have hnodup : (Encode.fileTable file).names.Nodup := by
    rw [names_fileTable]
    decide
  have hname : required (present (mapValues Plain.text (Encode.fileTable file))) "name" plainText
      = some file.name :=
    required_text hnodup (by simp [Encode.fileTable]) plainText
  have hdisplay : defaulted (present (mapValues Plain.text (Encode.fileTable file)))
      "display_name" "" plainText = some file.displayName :=
    defaulted_text hnodup (by simp [Encode.fileTable]) fun _ => rfl
  unfold fileRef
  rw [hname, hdisplay]
  rfl

theorem tag_present {t : Tag} (htidy : t.IsTidy) :
    tag (present (mapValues Plain.text (Encode.tagTable t))) = some t :=
  congrArg some (Tag.parse_written htidy)

theorem message_present (m : Message) :
    message (present (mapValues Plain.text (Encode.messageTable m))) = some m := by
  have hnodup : (Encode.messageTable m).names.Nodup := by
    rw [names_messageTable]
    decide
  have hseverity : required (present (mapValues Plain.text (Encode.messageTable m))) "severity"
      plainSeverity = some m.severity := by
    have hmem : ("severity", some m.severity.word) ∈ Encode.messageTable m := by
      simp [Encode.messageTable]
    rw [required_text hnodup hmem]
    cases m.severity <;> rfl
  have htext : required (present (mapValues Plain.text (Encode.messageTable m))) "text" plainText
      = some m.text :=
    required_text hnodup (by simp [Encode.messageTable]) plainText
  have hlanguage : defaulted (present (mapValues Plain.text (Encode.messageTable m))) "language"
      none plainOptionalText = some m.language := by
    have hmem : ("language", m.language) ∈ Encode.messageTable m := by
      simp [Encode.messageTable]
    refine defaulted_present (names_mapValues Plain.text _ ▸ hnodup) (mem_mapValues Plain.text hmem)
      (fun hnone => ?_) (fun a hsome => ?_)
    · exact (Option.map_eq_none_iff.mp hnone).symm
    · obtain ⟨text, htext, rfl⟩ := Option.map_eq_some_iff.mp hsome
      rw [htext]
      rfl
  unfold message
  rw [hseverity, htext, hlanguage]
  rfl

/-! ### Groups of entries -/

theorem files_ofValue (set : EntrySet FileRef) :
    files (Tree.ofValue (.list (Encode.files set))) = some set := by
  have hlist : listOf (entry ["name", "display_name"] fileRef)
      (Tree.ofValue (.list (Encode.files set))) = some set.toList := by
    refine listOf_ofValue fun e _ => ?_
    rw [Encode.entry_eq Encode.fileRef_eq]
    refine entry_ofValue e.condition (by decide) ?_ ?_ (fileRef_present e.payload)
    · exact fun _ => id
    · rw [names_fileTable]
      decide
  rw [files, hlist]
  exact congrArg some set.insertAll_empty

theorem tags_ofValue {set : EntrySet Tag} (htidy : ∀ e ∈ set.toList, e.payload.IsTidy) :
    tags (Tree.ofValue (.list (set.toList.map (Encode.entry Encode.tag)))) = some set := by
  have hlist : listOf (entry ["name"] tag)
      (Tree.ofValue (.list (set.toList.map (Encode.entry Encode.tag)))) = some set.toList := by
    refine listOf_ofValue fun e he => ?_
    rw [Encode.entry_eq Encode.tag_eq]
    refine entry_ofValue e.condition (by decide) ?_ ?_ (tag_present (htidy e he))
    · exact fun _ => id
    · exact List.nodup_singleton _
  rw [tags, hlist]
  exact congrArg some set.insertAll_empty

theorem messages_ofValue (entries : List (Entry Message)) :
    messages (Tree.ofValue (.list (entries.map (Encode.entry Encode.message)))) = some entries := by
  refine listOf_ofValue fun e _ => ?_
  rw [Encode.entry_eq Encode.message_eq]
  refine entry_ofValue e.condition (by decide) ?_ ?_ (message_present e.payload)
  · exact fun _ => id
  · rw [names_messageTable]
    decide

/-! ## Plugin records -/

theorem priority_ofValue (p : Int32) : priority (Tree.ofValue (.int p.toInt)) = some p := by
  show (if -Int.pow 2 31 ≤ p.toInt ∧ p.toInt < Int.pow 2 31 then some (Int32.ofInt p.toInt)
    else none) = some p
  rw [if_pos ⟨p.le_toInt, p.toInt_lt⟩, Int32.ofInt_toInt]

/-- The fields of a plugin record as they are read back. -/
def pluginMembers (p : Plugin) : List (String × Tree) :=
  present (mapValues Tree.ofValue (Encode.pluginTable p))

theorem nodup_pluginTable (p : Plugin) : (Encode.pluginTable p).names.Nodup := by
  show pluginFields.Nodup
  decide

theorem nodup_pluginMembers (p : Plugin) :
    (mapValues Tree.ofValue (Encode.pluginTable p)).names.Nodup := by
  rw [names_mapValues]
  exact nodup_pluginTable p

/-- A field that is always written is read as its value is, with a default or without. -/
theorem defaulted_pluginMembers {α : Type} {p : Plugin} {name : String} (value : Value) {a : α}
    (hmem : (name, some value) ∈ Encode.pluginTable p) (default : α) {read : Tree → Option α}
    (hread : read (Tree.ofValue value) = some a) :
    defaulted (pluginMembers p) name default read = some a := by
  refine defaulted_present (nodup_pluginMembers p) (mem_mapValues Tree.ofValue hmem)
    (fun hnone => absurd hnone (by simp)) (fun tree hsome => ?_)
  rw [← Option.some.inj hsome]
  exact hread

theorem defaulted_files {p : Plugin} {name : String} (set : EntrySet FileRef)
    (hmem : (name, Encode.listOrNone (Encode.files set)) ∈ Encode.pluginTable p) :
    defaulted (pluginMembers p) name ∅ files = some set := by
  refine defaulted_list (nodup_pluginTable p) hmem (fun hnil => ?_) (files_ofValue set)
  exact (KeyedSet.eq_empty_of_toList hnil).symm

/-- **A record is read back** if a document can hold it. -/
theorem plugin_ofValue {p : Plugin} (h : p.IsDocumented) :
    plugin (Tree.ofValue (Encode.plugin p)) = some p := by
  have hfields : fields? pluginFields (Tree.ofValue (Encode.plugin p)) = some (pluginMembers p) := by
    rw [Encode.plugin_eq]
    exact fields?_ofValue (nodup_pluginTable p) fun _ => id
  have hname : required (pluginMembers p) "name" Source.text? = some p.name := by
    have hmem : ("name", some (.text p.name)) ∈ Encode.pluginTable p := by
      simp [Encode.pluginTable]
    exact required_present (nodup_pluginMembers p) (mem_mapValues Tree.ofValue hmem) Source.text?
  have henabled : defaulted (pluginMembers p) "enabled" true Source.bool? = some p.enabled :=
    defaulted_pluginMembers (.bool p.enabled) (by simp [Encode.pluginTable]) true rfl
  have hpriority : defaulted (pluginMembers p) "priority" 0 priority = some p.priority :=
    defaulted_pluginMembers (.int p.priority.toInt) (by simp [Encode.pluginTable]) 0
      (priority_ofValue p.priority)
  have hmasters : defaulted (pluginMembers p) "master_plugins" [] (listOf Source.text?)
      = some p.masters := by
    have hread : listOf Source.text? (Tree.ofValue (.list (p.masters.map Value.text)))
        = some p.masters := listOf_ofValue fun _ _ => rfl
    exact defaulted_list (nodup_pluginTable p) (by simp [Encode.pluginTable]) Eq.symm hread
  have hisMaster : defaulted (pluginMembers p) "is_master_file" false Source.bool?
      = some p.isMaster :=
    defaulted_pluginMembers (.bool p.isMaster) (by simp [Encode.pluginTable]) false rfl
  have hloadAfter : defaulted (pluginMembers p) "load_after" ∅ files = some p.loadAfter :=
    defaulted_files p.loadAfter (by simp [Encode.pluginTable])
  have hrequirements : defaulted (pluginMembers p) "requirements" ∅ files = some p.requirements :=
    defaulted_files p.requirements (by simp [Encode.pluginTable])
  have hincompatibilities : defaulted (pluginMembers p) "incompatibilities" ∅ files
      = some p.incompatibilities :=
    defaulted_files p.incompatibilities (by simp [Encode.pluginTable])
  have htags : defaulted (pluginMembers p) "tags" ∅ tags = some p.tags :=
    defaulted_list (nodup_pluginTable p) (by simp [Encode.pluginTable])
      (fun hnil => (KeyedSet.eq_empty_of_toList hnil).symm) (tags_ofValue h.isTidy_of_mem)
  have hmessages : defaulted (pluginMembers p) "messages" [] messages = some p.messages :=
    defaulted_list (nodup_pluginTable p) (by simp [Encode.pluginTable]) Eq.symm
      (messages_ofValue p.messages)
  unfold plugin
  rw [hfields]
  simp only [Option.bind_eq_bind, Option.bind_some, hname, henabled, hpriority, hmasters, hisMaster,
    hloadAfter, hrequirements, hincompatibilities, htags, hmessages]
  rw [← h.content_eq]

theorem plugins_ofValue {plugins : List Plugin} (h : ∀ p ∈ plugins, p.IsDocumented) :
    Decode.plugins (Tree.ofValue (Encode.plugins plugins)) = some plugins := by
  let table : Table Value := [("plugins", some (.list (plugins.map Encode.plugin)))]
  have hfields : fields? ["plugins"] (Tree.ofValue (Encode.plugins plugins))
      = some (present (mapValues Tree.ofValue table)) := by
    show fields? ["plugins"] (Tree.ofValue (.record table.present)) = _
    exact fields?_ofValue (List.nodup_singleton _) fun _ => id
  unfold Decode.plugins
  rw [hfields]
  exact listOf_ofValue fun p hp => plugin_ofValue (h p hp)

/-! ## What a document can hold -/

section Inversion

variable {ν : Type} [Source ν] {node : ν}

theorem isTidy_of_tag {fields : List (String × Plain)} {t : Tag} (h : tag fields = some t) :
    t.IsTidy := by
  obtain ⟨text, -, rfl⟩ := Option.map_eq_some_iff.mp h
  exact Tag.isTidy_parse text

/-- The payload of an entry is read from some of its members. -/
theorem exists_payload_of_entry {α : Type} {names : List String}
    {payload : List (String × Plain) → Option α} {e : Entry α}
    (h : entry names payload node = some e) : ∃ fields, payload fields = some e.payload := by
  simp only [entry, Option.bind_eq_bind, Option.bind_eq_some_iff] at h
  obtain ⟨_, _, _, _, _, _, _, _, fields, _, a, hpayload, heq⟩ := h
  cases heq
  exact ⟨fields, hpayload⟩

theorem isTidy_of_tags {set : EntrySet Tag} (h : tags node = some set) :
    ∀ e ∈ set.toList, e.payload.IsTidy := by
  obtain ⟨entries, hentries, rfl⟩ := Option.map_eq_some_iff.mp h
  obtain ⟨items, -, hall⟩ := Option.bind_eq_some_iff.mp hentries
  intro e he
  rcases KeyedSet.mem_of_mem_insertAll he with hempty | hmem
  · exact absurd hempty List.not_mem_nil
  · obtain ⟨item, -, hitem⟩ := exists_of_mem_all hall hmem
    obtain ⟨fields, hpayload⟩ := exists_payload_of_entry hitem
    exact isTidy_of_tag hpayload

theorem isDocumented_of_plugin {p : Plugin} (h : plugin node = some p) : p.IsDocumented := by
  simp only [plugin, Option.bind_eq_bind, Option.bind_eq_some_iff] at h
  obtain ⟨_, _, _, _, _, _, _, _, _, _, _, _, _, _, _, _, _, _, set, htags, _, _, heq⟩ := h
  cases heq
  refine ⟨rfl, ?_⟩
  rcases eq_default_or_read htags with hdefault | ⟨_, hread⟩
  · intro e he
    rw [hdefault] at he
    exact absurd he List.not_mem_nil
  · exact isTidy_of_tags hread

/-- **What is read are records that a document can hold**, whatever the kind of tree. -/
theorem isDocumented_of_plugins {plugins : List Plugin} (h : Decode.plugins node = some plugins) :
    ∀ p ∈ plugins, p.IsDocumented := by
  obtain ⟨fields, -, hplugins⟩ := Option.bind_eq_some_iff.mp h
  intro p hp
  rcases eq_default_or_read hplugins with rfl | ⟨_, hlist⟩
  · exact absurd hp List.not_mem_nil
  · obtain ⟨items, -, hall⟩ := Option.bind_eq_some_iff.mp hlist
    obtain ⟨item, -, hitem⟩ := exists_of_mem_all hall hp
    exact isDocumented_of_plugin hitem

end Inversion

end Decode

/-! ## Documents -/

/-- What a text in any format holds are records that a document can hold. -/
theorem isDocumented_of_readPlugins {format : Format} {text : String} {plugins : List Plugin}
    (h : readPlugins format text = .ok plugins) : ∀ p ∈ plugins, p.IsDocumented := by
  unfold readPlugins read at h
  dsimp only at h
  split at h
  · next hresult =>
    cases h
    cases format with
    | json =>
      obtain ⟨tree, -, htree⟩ := Option.bind_eq_some_iff.mp hresult
      exact Decode.isDocumented_of_plugins htree
    | yaml =>
      obtain ⟨tree, -, htree⟩ := Option.bind_eq_some_iff.mp hresult
      exact Decode.isDocumented_of_plugins htree
    | toml =>
      obtain ⟨tree, -, htree⟩ := Option.bind_eq_some_iff.mp hresult
      exact Decode.isDocumented_of_plugins htree
  · exact absurd h (by simp)

/-- **Exactly the records that a document can hold survive** being written in JSON and read. -/
theorem readPlugins_writePlugins_iff {plugins : List Plugin} :
    readPlugins .json (writePlugins .json plugins) = .ok plugins
      ↔ ∀ p ∈ plugins, p.IsDocumented := by
  refine ⟨isDocumented_of_readPlugins, fun h => ?_⟩
  have hread : (Json.read (writePlugins .json plugins)).bind Decode.plugins = some plugins := by
    show (Json.read (Json.write (Encode.plugins plugins))).bind Decode.plugins = some plugins
    rw [Json.read_write, Option.bind_some]
    exact Decode.plugins_ofValue h
  unfold readPlugins read
  dsimp only
  rw [hread]

/-- **A list that was read survives being written and read again**: whatever format it was read from,
its text in JSON is read, and as an equal list. -/
theorem readPlugins_of_readPlugins {format : Format} {text : String} {plugins : List Plugin}
    (h : readPlugins format text = .ok plugins) :
    readPlugins .json (writePlugins .json plugins) = .ok plugins :=
  readPlugins_writePlugins_iff.mpr (isDocumented_of_readPlugins h)

/-! ### A list written by hand

An escape in a name and blanks in a tag: what is written again is another text.
-/

open Json

/-- The text of the list. -/
def handwritten : String :=
  "\x7b \"plugins\":[\x7b\"name\":\"A\\u002eesp\",\"tags\":[\x7b\"name\":\" - Relev \"\x7d]\x7d]\x7d"

/-- The plugin in the list. -/
def handwrittenPlugin : Plugin where
  name := "A.esp"
  tags := KeyedSet.ofList [.always { name := "Relev", isAddition := false }]

/-- The tree of the plugin's tag. -/
def handwrittenTag : Tree := .object [(some "name", .text (some " - Relev "))]

/-- The members of the plugin's tree. -/
def handwrittenMembers : List (Option String × Tree) :=
  [(some "name", .text (some "A.esp")), (some "tags", .list [handwrittenTag])]

theorem read_handwritten :
    Json.read handwritten = some (.object [(some "plugins", .list [.object handwrittenMembers])]) := by
  have htag : ∃ hlt, readMembers "\"name\":\" - Relev \"\x7d]\x7d]\x7d".toList
      = some ⟨[(some "name", .text (some " - Relev "))], "]\x7d]\x7d".toList, hlt⟩ :=
    readMembers_cons ⟨by decide, rfl⟩ rfl (readValue_string ⟨by decide, rfl⟩) (.last rfl)
  have htags : ∃ hlt, readValue "[\x7b\"name\":\" - Relev \"\x7d]\x7d]\x7d".toList
      = some ⟨.list [handwrittenTag], "\x7d]\x7d".toList, hlt⟩ :=
    readValue_list (by decide) (readItems_cons (readValue_object (by decide) htag) (.last rfl))
  have hplugin : ∃ hlt, readMembers
      "\"name\":\"A\\u002eesp\",\"tags\":[\x7b\"name\":\" - Relev \"\x7d]\x7d]\x7d".toList
      = some ⟨handwrittenMembers, "]\x7d".toList, hlt⟩ :=
    readMembers_cons ⟨by decide, rfl⟩ rfl (readValue_string ⟨by decide, rfl⟩)
      (.more rfl (readMembers_cons ⟨by decide, rfl⟩ rfl htags (.last rfl)))
  have hplugins : ∃ hlt, readValue
      "[\x7b\"name\":\"A\\u002eesp\",\"tags\":[\x7b\"name\":\" - Relev \"\x7d]\x7d]\x7d".toList
      = some ⟨.list [.object handwrittenMembers], "\x7d".toList, hlt⟩ :=
    readValue_list (by decide) (readItems_cons (readValue_object (by decide) hplugin) (.last rfl))
  have htext : ∃ hlt, readValue handwritten.toList
      = some ⟨.object [(some "plugins", .list [.object handwrittenMembers])], [], hlt⟩ :=
    readValue_object (by decide) (readMembers_cons ⟨by decide, rfl⟩ rfl hplugins (.last rfl))
  exact read_of_readValue htext rfl

theorem readPlugins_handwritten : readPlugins .json handwritten = .ok [handwrittenPlugin] := by
  have hplugins : (Json.read handwritten).bind Decode.plugins = some [handwrittenPlugin] := by
    rw [read_handwritten]
    decide +kernel
  unfold readPlugins read
  dsimp only
  rw [hplugins]

theorem readPlugins_of_readPlugins_handwritten :
    readPlugins .json handwritten = .ok [handwrittenPlugin] ∧
      readPlugins .json (writePlugins .json [handwrittenPlugin]) = .ok [handwrittenPlugin] :=
  ⟨readPlugins_handwritten, readPlugins_of_readPlugins readPlugins_handwritten⟩

end Document

end LoadOrder
