import LoadOrder.Content.Scan
import LoadOrder.KeyedSet.Lemmas
import Mathlib.Algebra.Group.Nat.Defs
import Mathlib.Data.Finset.Card

/-!
# From words to content records

A plugin file numbers its records by words, and whoever scans it has to find the owner of each. There
are two ways, one that fails on a word beyond the contributing plugins and one that gives it to the last
of them. Reading a file goes the first way, so that it can count such words, and ends up with what the
second way gives.

* **`exists_resolve`**, **`exists_resolveStrict_error_iff`**: which record a word denotes, and when the
  strict way fails.
* **`read_eq_ok`**: reading a file word by word never fails, as the file itself contributes.
* **`eq_of_key_identify`**: the owner and the number tell words apart, so that no record gets lost.
* **`exists_read`**: what reading a file gives.
-/

namespace LoadOrder

namespace ContentId

variable {contributors : List String} {raw : RawId}

/-- Records are told apart by their keys. -/
theorem beq_iff {a b : ContentId} : (a == b) = true ↔ a.key = b.key := by
  show (a.key == b.key) = true ↔ a.key = b.key
  exact beq_iff_eq

/-! ## One word -/

theorem resolveStrict_of_lt (h : RawId.index raw < contributors.length) :
    resolveStrict contributors raw = .ok (ofRaw contributors[RawId.index raw] raw) := by
  unfold resolveStrict
  rw [List.getElem?_eq_getElem h]

theorem resolveStrict_of_le (hsome : contributors ≠ [])
    (h : contributors.length ≤ RawId.index raw) :
    resolveStrict contributors raw
      = .error (.indexOutOfRange raw (RawId.index raw) contributors.length) := by
  unfold resolveStrict
  rw [List.getElem?_eq_none h]
  cases contributors with
  | nil => exact absurd rfl hsome
  | cons first rest => rfl

/-- **The strict way fails** on the words beyond the contributing plugins. -/
theorem exists_resolveStrict_error_iff (hsome : contributors ≠ []) :
    (∃ error, resolveStrict contributors raw = .error error)
      ↔ contributors.length ≤ RawId.index raw := by
  constructor
  · rintro ⟨error, herror⟩
    by_contra hlt
    rw [resolveStrict_of_lt (Nat.lt_of_not_le hlt)] at herror
    exact absurd herror (by simp)
  · exact fun hle => ⟨_, resolveStrict_of_le hsome hle⟩

/-- **The record that a word denotes**: its owner is the contributing plugin that the word selects, or
the last one. -/
theorem exists_resolve (hsome : contributors ≠ []) (raw : RawId) :
    ∃ id, resolve contributors raw = .ok id ∧
      contributors[min (RawId.index raw) (contributors.length - 1)]? = some id.owner ∧
      id.localId.toNat = raw.toNat % Nat.pow 2 24 := by
  have hlength : 0 < contributors.length := List.length_pos_iff.mpr hsome
  by_cases hlt : RawId.index raw < contributors.length
  · have hmin : min (RawId.index raw) (contributors.length - 1) = RawId.index raw := by omega
    refine ⟨ofRaw contributors[RawId.index raw] raw, ?_, ?_, localId_ofRaw _ raw⟩
    · rw [resolve, resolveStrict_of_lt hlt]
    · rw [hmin, List.getElem?_eq_getElem hlt]
      rfl
  · have hmin : min (RawId.index raw) (contributors.length - 1) = contributors.length - 1 := by omega
    refine ⟨clampToLast contributors raw, ?_, ?_, localId_ofRaw _ raw⟩
    · rw [resolve, resolveStrict_of_le hsome (Nat.le_of_not_lt hlt)]
    · rw [hmin, ← List.getLast?_eq_getElem?, List.getLast?_eq_some_getLast hsome]
      show some (contributors.getLast hsome) = some (contributors.getLast?.getD "")
      rw [List.getLast?_eq_some_getLast hsome, Option.getD_some]

end ContentId

namespace ContentScan

open ContentId (resolve resolveStrict)

section Words

variable {contributors : List String} {raw : RawId}

/-! ## Reading a file -/

/-- The strict way with the last plugin to fall back on is the other way. -/
theorem resolve_eq_identify (hsome : contributors ≠ []) (raw : RawId) :
    resolve contributors raw = .ok (identify contributors raw) := by
  by_cases hlt : RawId.index raw < contributors.length
  · rw [resolve, identify, ContentId.resolveStrict_of_lt hlt]
    rfl
  · rw [resolve, identify, ContentId.resolveStrict_of_le hsome (Nat.le_of_not_lt hlt)]
    rfl

theorem isMalformed_eq (hsome : contributors ≠ []) (raw : RawId) :
    isMalformed contributors raw = decide (contributors.length ≤ RawId.index raw) := by
  by_cases hlt : RawId.index raw < contributors.length
  · rw [isMalformed, ContentId.resolveStrict_of_lt hlt, decide_eq_false (Nat.not_le_of_lt hlt)]
    rfl
  · have hle := Nat.le_of_not_lt hlt
    rw [isMalformed, ContentId.resolveStrict_of_le hsome hle, decide_eq_true hle]
    rfl

/-- **One word.** Where somebody contributes, it is read. -/
theorem addWord_eq_ok (hsome : contributors ≠ []) (scan : ContentScan) (raw : RawId) :
    scan.addWord contributors raw = .ok { scan with
      content := scan.content.insertNew (identify contributors raw)
      malformed := scan.malformed + if isMalformed contributors raw then 1 else 0 } := by
  by_cases hlt : RawId.index raw < contributors.length
  · have hstrict := ContentId.resolveStrict_of_lt hlt
    simp [addWord, identify, isMalformed, hstrict, Except.toOption, Except.isOk, Except.toBool]
  · have hstrict := ContentId.resolveStrict_of_le hsome (Nat.le_of_not_lt hlt)
    simp [addWord, identify, isMalformed, hstrict, Except.toOption, Except.isOk, Except.toBool]

/-- **All words.** -/
theorem addWords_eq_ok (hsome : contributors ≠ []) (scan : ContentScan) (raws : List RawId) :
    scan.addWords contributors raws = .ok { scan with
      content := scan.content.insertAllNew (raws.map (identify contributors))
      malformed := scan.malformed + raws.countP (isMalformed contributors) } := by
  induction raws generalizing scan with
  | nil => rfl
  | cons raw raws ih =>
    have hcount : scan.malformed + (if isMalformed contributors raw then 1 else 0)
          + raws.countP (isMalformed contributors)
        = scan.malformed + (raw :: raws).countP (isMalformed contributors) := by
      rw [List.countP_cons]
      omega
    rw [addWords, addWord_eq_ok hsome]
    dsimp only
    rw [ih, ← hcount]
    rfl

/-- **Reading a file does not fail**, and word by word or all at once makes no difference. -/
theorem read_eq_ok (name : String) (isMaster : Bool) (masters : List String) (raws : List RawId)
    (description : Option String) :
    read name isMaster masters raws description
      = .ok (ofRaw name isMaster masters raws description) := by
  rw [read, addWords_eq_ok (by simp [contributors]), ofRaw, Nat.zero_add]

/-! ## The records of a file -/

/-- **No record gets lost.** Words that select contributing plugins denote different records, if no two
of these plugins have the same key: the owner tells the top byte and the number the rest. -/
theorem eq_of_key_identify (hnodup : (contributors.map Name.key).Nodup) {a b : RawId}
    (ha : RawId.index a < contributors.length) (hb : RawId.index b < contributors.length)
    (hkey : (identify contributors a).key = (identify contributors b).key) : a = b := by
  have hidentify : ∀ {raw : RawId} (h : RawId.index raw < contributors.length),
      identify contributors raw = ContentId.ofRaw contributors[RawId.index raw] raw := by
    intro raw h
    rw [identify, ContentId.resolveStrict_of_lt h]
    rfl
  rw [hidentify ha, hidentify hb] at hkey
  have howner : (contributors.map Name.key)[RawId.index a]?
      = (contributors.map Name.key)[RawId.index b]? := by
    rw [List.getElem?_map, List.getElem?_map, List.getElem?_eq_getElem ha,
      List.getElem?_eq_getElem hb]
    exact congrArg (fun key : ContentId.Key => some key.owner) hkey
  -- an owner has one place among the plugins, and the place is the top byte
  have hindex : RawId.index a = RawId.index b :=
    (List.getElem?_inj (by rwa [List.length_map]) hnodup).mp howner
  have hlocal : a.toNat % Nat.pow 2 24 = b.toNat % Nat.pow 2 24 := by
    rw [← ContentId.localId_ofRaw contributors[RawId.index a],
      ← ContentId.localId_ofRaw contributors[RawId.index b]]
    exact congrArg (fun key : ContentId.Key => key.localId.toNat) hkey
  rw [ContentId.index_eq, ContentId.index_eq] at hindex
  refine UInt32.toNat_inj.mp ?_
  rw [← Nat.div_add_mod a.toNat (Nat.pow 2 24), hindex, hlocal, Nat.div_add_mod]

/-- A file has as many records as its words have keys. -/
theorem size_content_eq (ids : List ContentId) :
    (KeyedSet.insertAllNew ∅ ids : ContentSet).size = (ids.map ContentId.key).toFinset.card := by
  have hkeys : (ids.map ContentId.key).toFinset
      = ((KeyedSet.insertAllNew ∅ ids : ContentSet).toList.map ContentId.key).toFinset := by
    ext key
    rw [List.mem_toFinset, List.mem_toFinset]
    exact KeyedSet.mem_keys_insertAllNew_empty.symm
  have hcard := List.toFinset_card_of_nodup
    (KeyedSet.nodup_keys (KeyedSet.insertAllNew ∅ ids : ContentSet))
  rw [List.length_map] at hcard
  rw [hkeys]
  exact hcard.symm

/-- A file has the records that its words denote. -/
theorem mem_content_iff (hsome : contributors ≠ []) (raws : List RawId) (id : ContentId) :
    (∃ found ∈ (KeyedSet.insertAllNew ∅ (raws.map (identify contributors)) : ContentSet).toList,
        (found == id) = true)
      ↔ ∃ raw ∈ raws, ∃ denoted, resolve contributors raw = .ok denoted ∧ (denoted == id) = true := by
  have hkeys : id.key ∈ (KeyedSet.insertAllNew ∅ (raws.map (identify contributors))).toList.map
        ContentId.key ↔ id.key ∈ (raws.map (identify contributors)).map ContentId.key :=
    KeyedSet.mem_keys_insertAllNew_empty
  simp only [List.mem_map, List.map_map, Function.comp_apply] at hkeys
  simp only [resolve_eq_identify hsome, ContentId.beq_iff, Except.ok.injEq, exists_eq_left', hkeys]

end Words

/-! ## The scan -/

/-- What the scan of a file says of the words in it. The plugins that contribute to the file are its
masters and then the plugin itself. -/
structure IsScanOf (scan : ContentScan) (name : String) (masters : List String)
    (raws : List RawId) : Prop where
  /-- The records are those that the words denote. -/
  mem_content_iff (id : ContentId) :
    (∃ found ∈ scan.content.toList, (found == id) = true)
      ↔ ∃ raw ∈ raws, ∃ denoted, resolve (masters ++ [name]) raw = .ok denoted ∧
          (denoted == id) = true
  /-- A word beyond the contributing plugins counts as often as it occurs. -/
  malformed_eq : scan.malformed = raws.countP fun raw => masters.length < raw.toNat / Nat.pow 2 24
  /-- If there is no such word and no two plugins have one key, there are as many records as words. -/
  size_content : (∀ raw ∈ raws, raw.toNat / Nat.pow 2 24 ≤ masters.length) →
    ((masters ++ [name]).map Name.key).Nodup → scan.content.size = raws.toFinset.card

section Contributors

variable (name : String) (masters : List String)

theorem length_masters_append : (masters ++ [name]).length = masters.length + 1 := by
  rw [List.length_append, List.length_singleton]

theorem masters_append_ne_nil : masters ++ [name] ≠ [] :=
  List.append_ne_nil_of_right_ne_nil masters (List.cons_ne_nil name [])

theorem isScanOf (isMaster : Bool) (raws : List RawId) (description : Option String) :
    (ofRaw name isMaster masters raws description).IsScanOf name masters raws where
  mem_content_iff := mem_content_iff (masters_append_ne_nil name masters) raws
  malformed_eq := by
    refine List.countP_congr fun raw _ => ?_
    rw [contributors, isMalformed_eq (masters_append_ne_nil name masters), length_masters_append,
      ContentId.index_eq, decide_eq_true_iff, decide_eq_true_iff]
    exact Nat.succ_le_iff
  size_content := by
    intro hwords hnodup
    have hlt : ∀ raw ∈ raws, RawId.index raw < (masters ++ [name]).length := by
      intro raw hraw
      rw [length_masters_append, ContentId.index_eq]
      exact Nat.lt_succ_of_le (hwords raw hraw)
    have himage : ((raws.map (identify (masters ++ [name]))).map ContentId.key).toFinset
        = raws.toFinset.image fun raw => (identify (masters ++ [name]) raw).key := by
      ext key
      simp only [List.mem_toFinset, List.mem_map, List.map_map, Finset.mem_image,
        Function.comp_apply]
    have hinj : Set.InjOn (fun raw => (identify (masters ++ [name]) raw).key)
        (raws.toFinset : Set RawId) := by
      intro a ha b hb hkey
      have ha := List.mem_toFinset.mp (Finset.mem_coe.mp ha)
      have hb := List.mem_toFinset.mp (Finset.mem_coe.mp hb)
      exact eq_of_key_identify hnodup (hlt a ha) (hlt b hb) hkey
    -- no two words have one key, so that there are as many keys as words
    calc (ofRaw name isMaster masters raws description).content.size
        = ((raws.map (identify (masters ++ [name]))).map ContentId.key).toFinset.card :=
          size_content_eq _
      _ = (raws.toFinset.image fun raw => (identify (masters ++ [name]) raw).key).card := by
          rw [himage]
      _ = raws.toFinset.card := Finset.card_image_of_injOn hinj

end Contributors

/-- **Reading a plugin file.** It succeeds, and the scan holds the records that the words denote and
counts the words that select no plugin, those that the strict way refuses. Words select among the masters
and, behind them, the plugin itself. Each denotes a record of the plugin that its top byte selects, or of
the plugin itself if there is none. -/
theorem exists_read (name : String) (isMaster : Bool) (masters : List String) (raws : List RawId)
    (description : Option String) :
    (∃ scan, read name isMaster masters raws description = .ok scan ∧
      scan.isMaster = isMaster ∧ scan.masters = masters ∧ scan.description = description ∧
      scan.IsScanOf name masters raws) ∧
    (∀ raw, ∃ id, resolve (masters ++ [name]) raw = .ok id ∧
      (masters ++ [name])[min (raw.toNat / Nat.pow 2 24) ((masters ++ [name]).length - 1)]?
        = some id.owner ∧
      id.localId.toNat = raw.toNat % Nat.pow 2 24) ∧
    ∀ raw, (∃ error, resolveStrict (masters ++ [name]) raw = .error error)
      ↔ masters.length < raw.toNat / Nat.pow 2 24 := by
  have hsome := masters_append_ne_nil name masters
  refine ⟨⟨_, read_eq_ok .., rfl, rfl, rfl, isScanOf ..⟩, fun raw => ?_, fun raw => ?_⟩
  · rw [← ContentId.index_eq]
    exact ContentId.exists_resolve hsome raw
  · rw [ContentId.exists_resolveStrict_error_iff hsome, length_masters_append, ContentId.index_eq]
    exact Nat.succ_le_iff

/-- Two words with one number but different owners, one of them twice; and a word that selects no plugin,
whose record goes to the plugin itself. -/
theorem exists_read_oneMaster :
    (∃ scan, read "Patch.esp" false ["Base.esm"] [0x01000001, 0x00000001, 0x01000001] none = .ok scan ∧
      scan.content.toList = [⟨"Base.esm", 1⟩, ⟨"Patch.esp", 1⟩] ∧ scan.content.size = 2 ∧
      scan.malformed = 0) ∧
    (∃ scan, read "Patch.esp" false ["Base.esm"] [0x05000002, 0x00000001] none = .ok scan ∧
      scan.content.toList = [⟨"Base.esm", 1⟩, ⟨"Patch.esp", 2⟩] ∧ scan.malformed = 1) ∧
    resolve ["Base.esm", "Patch.esp"] 0x05000002 = .ok ⟨"Patch.esp", 2⟩ ∧
    ∃ error, resolveStrict ["Base.esm", "Patch.esp"] 0x05000002 = .error error := by
  obtain ⟨⟨scan, hread, -, -, -, hscan⟩, -, -⟩ :=
    exists_read "Patch.esp" false ["Base.esm"] [0x01000001, 0x00000001, 0x01000001] none
  obtain ⟨⟨clamped, hreadClamped, -, -, -, hclamped⟩, -, hrefused⟩ :=
    exists_read "Patch.esp" false ["Base.esm"] [0x05000002, 0x00000001] none
  have hwords : ∀ raw ∈ [(0x01000001 : RawId), 0x00000001, 0x01000001],
      raw.toNat / Nat.pow 2 24 ≤ ["Base.esm"].length := by
    -- word by word: deciding it at once might go through all words that there are
    simp only [List.forall_mem_cons]
    exact ⟨by decide +kernel, by decide +kernel, by decide +kernel, nofun⟩
  refine ⟨⟨scan, hread, ?_, ?_, ?_⟩, ⟨clamped, hreadClamped, ?_, ?_⟩, by decide +kernel,
    (hrefused _).mpr (by decide +kernel)⟩
  · cases hread
    decide +kernel
  · rw [hscan.size_content hwords (by decide +kernel)]
    decide +kernel
  · rw [hscan.malformed_eq]
    decide +kernel
  · cases hreadClamped
    decide +kernel
  · rw [hclamped.malformed_eq]
    decide +kernel

end ContentScan

end LoadOrder
