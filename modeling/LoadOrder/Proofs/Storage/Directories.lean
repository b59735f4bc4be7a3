import LoadOrder.Proofs.Install.Reports
import LoadOrder.Proofs.Name.Agreement
import LoadOrder.Proofs.Text.Search
import LoadOrder.Storage.FileTree
import LoadOrder.Storage.Load

/-!
# Looking into a directory

There are two ways to ask whether a directory has a file of some name. One follows the path that leads
to the name, the other compares the name with those of the files in the directory.

## The crux

A path into a directory is the path to the directory with one more part, so it is followed to the
directory and then leads to the entry of exactly that name, be it a file or a directory
(**`hasIn_iff`**). The state that is loaded from the directory knows the files only, by the keys of
their names (**`isInstalled_iff`**). The two agree where the name is that of a file to the letter, or
agrees with that of no entry at all.

* **`check_hasIn_eq_iff`**: when the two ways give a plugin the same report.
-/

namespace LoadOrder

/-! ## Parts of a path -/

namespace Storage

/-- The name can be that of an entry: it is one part of a path, and leads neither nowhere nor back. -/
structure IsPlainName (name : String) : Prop where
  ne_empty : name ≠ ""
  slash_not_mem : '/' ∉ name.toList
  ne_dot : name ≠ "."
  ne_dots : name ≠ ".."

instance (name : String) : Decidable (IsPlainName name) :=
  decidable_of_iff (name ≠ "" ∧ '/' ∉ name.toList ∧ name ≠ "." ∧ name ≠ "..")
    ⟨fun ⟨hempty, hslash, hdot, hdots⟩ => ⟨hempty, hslash, hdot, hdots⟩,
      fun ⟨hempty, hslash, hdot, hdots⟩ => ⟨hempty, hslash, hdot, hdots⟩⟩

/-- The parts of a path between its slashes. -/
def pathParts (path : String) : List String :=
  (Text.splitAtEach '/' path.toList).map String.ofList

variable {directory name : String}

theorem endsWith_slash_iff (path : String) : path.endsWith "/" = true ↔ ['/'] <:+ path.toList := by
  rw [← String.endsWith_toSlice, String.Slice.endsWith_string_iff, String.copy_toSlice]
  rfl

theorem not_startsWith_slash (hname : IsPlainName name) : name.startsWith "/" = false := by
  rw [Bool.eq_false_iff, ne_eq, String.startsWith_string_iff]
  intro hstart
  exact hname.slash_not_mem (hstart.subset (List.mem_singleton_self _))

/-- **A path into a directory has one part more**, an empty last part aside. -/
theorem pathParts_join (hdirectory : directory ≠ "") (hname : IsPlainName name) :
    ∃ parts, (pathParts directory = parts ∨ pathParts directory = parts ++ [""]) ∧
      pathParts (join directory name) = parts ++ [name] := by
  have hsplit : Text.splitAtEach '/' name.toList = [name.toList] :=
    Text.splitAtEach_of_not_mem hname.slash_not_mem
  have hempty : directory.isEmpty = false := by simpa using hdirectory
  unfold join
  rw [if_neg (by simp [not_startsWith_slash hname]), hempty, Bool.false_or]
  by_cases hslash : directory.endsWith "/" = true
  · rw [if_pos hslash]
    obtain ⟨before, hbefore⟩ := (endsWith_slash_iff directory).mp hslash
    refine ⟨(Text.splitAtEach '/' before).map String.ofList, .inr ?_, ?_⟩
    · rw [pathParts, ← hbefore, Text.splitAtEach_append, List.map_append]
      rfl
    · rw [pathParts, String.toList_append, ← hbefore, List.append_assoc]
      show (Text.splitAtEach '/' (before ++ '/' :: name.toList)).map String.ofList = _
      rw [Text.splitAtEach_append, hsplit, List.map_append, List.map_singleton,
        String.ofList_toList]
  · rw [if_neg hslash]
    refine ⟨pathParts directory, .inl rfl, ?_⟩
    rw [pathParts, String.toList_append, String.toList_append, List.append_assoc]
    show (Text.splitAtEach '/' (directory.toList ++ '/' :: name.toList)).map String.ofList = _
    rw [Text.splitAtEach_append, hsplit, List.map_append, List.map_singleton, String.ofList_toList]
    rfl

theorem startsWith_join (hdirectory : directory ≠ "") (hname : IsPlainName name) :
    (join directory name).startsWith "/" = directory.startsWith "/" := by
  have hstarts : ∀ more : String, (directory ++ more).startsWith "/" = directory.startsWith "/" := by
    intro more
    rw [Bool.eq_iff_iff, String.startsWith_string_iff, String.startsWith_string_iff,
      String.toList_append]
    cases hchars : directory.toList with
    | nil => exact absurd (String.toList_eq_nil_iff.mp hchars) hdirectory
    | cons c chars => simp [List.cons_prefix_cons]
  unfold join
  rw [if_neg (by simp [not_startsWith_slash hname])]
  split
  · exact hstarts name
  · rw [String.append_assoc]
    exact hstarts ("/" ++ name)

theorem toList_join (directory : String) (hname : IsPlainName name) :
    (join directory name).toList = directory.toList ++ name.toList ∨
      (join directory name).toList = directory.toList ++ '/' :: name.toList := by
  unfold join
  rw [if_neg (by simp [not_startsWith_slash hname])]
  split
  · exact .inl String.toList_append
  · refine .inr ?_
    rw [String.toList_append, String.toList_append, List.append_assoc]
    rfl

theorem utf8ByteSize_join_le (directory : String) (hname : IsPlainName name) :
    (join directory name).utf8ByteSize ≤ directory.utf8ByteSize + 1 + name.utf8ByteSize := by
  unfold join
  rw [if_neg (by simp [not_startsWith_slash hname])]
  split
  · rw [String.utf8ByteSize_append]
    omega
  · rw [String.utf8ByteSize_append, String.utf8ByteSize_append]
    show directory.utf8ByteSize + 1 + name.utf8ByteSize ≤ _
    omega

namespace FileTree

/-! ## The directory at the end of a path -/

/-- The entries of the directory that the parts of a path lead to. -/
def entriesAlong? : (above : List FileTree) → FileTree → (parts : List String) →
    Option (List (String × FileTree))
  | _, .directory entries, [] => some entries
  | _, .file _, _ => none
  | above, .directory entries, part :: parts =>
    if part = "" ∨ part = "." then entriesAlong? above (.directory entries) parts
    else if part = ".." then entriesAlong? above.tail (above.head?.getD empty) parts
    else if maxNameBytes < part.utf8ByteSize then none
    else match entries.lookup part with
      | none => none
      | some tree => entriesAlong? (.directory entries :: above) tree parts

variable {above : List FileTree} {tree : FileTree} {parts : List String}
  {entries : List (String × FileTree)} {directory name : String}

theorem walk_eq_directory_iff {files : List String} :
    walk above tree parts = .directory files
      ↔ ∃ entries, entriesAlong? above tree parts = some entries
          ∧ entries.filterMap fileName? = files := by
  fun_induction entriesAlong? above tree parts with
  | case1 above entries => simp [walk, found]
  | case2 parts above content => cases parts <;> simp [walk, found]
  | case3 above entries part parts hskip ih => rw [walk, if_pos hskip, ih]
  | case4 above entries parts hskip ih => rw [walk, if_neg hskip, if_pos rfl, ih]
  | case5 above entries part parts hskip hup hlong =>
    simp [walk, hskip, hup, hlong]
  | case6 above entries part parts hskip hup hlong hlookup =>
    simp [walk, hskip, hup, hlong, hlookup]
  | case7 above entries part parts hskip hup hlong tree hlookup ih =>
    rw [walk, if_neg hskip, if_neg hup, if_neg hlong, hlookup]
    exact ih

/-- An empty part at the end of a path does not count. -/
theorem entriesAlong?_append_empty :
    entriesAlong? above tree (parts ++ [""]) = entriesAlong? above tree parts := by
  fun_induction entriesAlong? above tree parts with
  | case1 above entries => simp [entriesAlong?]
  | case2 parts above content => simp [entriesAlong?]
  | case3 above entries part parts hskip ih => rw [List.cons_append, entriesAlong?, if_pos hskip, ih]
  | case4 above entries parts hskip ih =>
    rw [List.cons_append, entriesAlong?, if_neg hskip, if_pos rfl, ih]
  | case5 above entries part parts hskip hup hlong => simp [entriesAlong?, hskip, hup, hlong]
  | case6 above entries part parts hskip hup hlong hlookup =>
    simp [entriesAlong?, hskip, hup, hlong, hlookup]
  | case7 above entries part parts hskip hup hlong tree hlookup ih =>
    rw [List.cons_append, entriesAlong?, if_neg hskip, if_neg hup, if_neg hlong, hlookup]
    exact ih

/-- **One more part leads to the entry of exactly that name.** -/
theorem walk_append_name (hname : IsPlainName name)
    (hentries : entriesAlong? above tree parts = some entries) :
    walk above tree (parts ++ [name])
      = if maxNameBytes < name.utf8ByteSize then .nothing .nameTooLong
        else match entries.lookup name with
          | none => .nothing .notFound
          | some tree => tree.found := by
  fun_induction entriesAlong? above tree parts with
  | case1 above found =>
    cases hentries
    rw [List.nil_append, walk, if_neg (by simp [hname.ne_empty, hname.ne_dot]), if_neg hname.ne_dots]
    congr
  | case2 parts above content => exact absurd hentries (by simp)
  | case3 above found part parts hskip ih => rw [List.cons_append, walk, if_pos hskip, ih hentries]
  | case4 above found parts hskip ih =>
    rw [List.cons_append, walk, if_neg hskip, if_pos rfl, ih hentries]
  | case5 above found part parts hskip hup hlong => exact absurd hentries (by simp)
  | case6 above found part parts hskip hup hlong hlookup => exact absurd hentries (by simp)
  | case7 above found part parts hskip hup hlong tree hlookup ih =>
    rw [List.cons_append, walk, if_neg hskip, if_neg hup, if_neg hlong, hlookup]
    exact ih hentries

/-! ### Whole paths -/

/-- The directory that a path is followed from. -/
def start (tree : FileTree) (path : String) : FileTree :=
  if path.startsWith "/" then empty else tree

/-- The path can be handed to the system. -/
structure IsUsablePath (path : String) : Prop where
  ne_empty : path ≠ ""
  nul_not_mem : '\x00' ∉ path.toList
  size_le : path.utf8ByteSize ≤ maxPathBytes

theorem look_of_isUsablePath {path : String} (hpath : IsUsablePath path) :
    tree.look path = walk [] (tree.start path) (pathParts path) := by
  unfold look start
  dsimp only
  rw [if_neg hpath.ne_empty, if_neg (by simpa using hpath.nul_not_mem),
    if_neg (Nat.not_lt.mpr hpath.size_le)]
  split <;> rfl

theorem exists_look_of_not_isUsablePath (tree : FileTree) {path : String} (hpath : ¬ IsUsablePath path) :
    ∃ obstacle, tree.look path = .nothing obstacle := by
  unfold look
  dsimp only
  split
  · exact ⟨_, rfl⟩
  · next hempty =>
    split
    · exact ⟨_, rfl⟩
    · next hnul =>
      split
      · exact ⟨_, rfl⟩
      · next hsize =>
        exact absurd ⟨hempty, by simpa using hnul, Nat.not_lt.mp hsize⟩ hpath

/-- The path leads to a directory with the entries, and there is room for their names behind it. -/
structure IsDirectory (tree : FileTree) (directory : String)
    (entries : List (String × FileTree)) : Prop where
  isUsablePath : IsUsablePath directory
  entriesAlong?_eq : entriesAlong? [] (tree.start directory) (pathParts directory) = some entries
  room : directory.utf8ByteSize + 1 + maxNameBytes ≤ maxPathBytes
  nul_not_mem : ∀ entry ∈ entries, '\x00' ∉ entry.1.toList
  size_le : ∀ entry ∈ entries, entry.1.utf8ByteSize ≤ maxNameBytes

theorem look_of_isDirectory (h : IsDirectory tree directory entries) :
    tree.look directory = .directory (entries.filterMap fileName?) := by
  rw [look_of_isUsablePath h.isUsablePath]
  exact walk_eq_directory_iff.mpr ⟨entries, h.entriesAlong?_eq, rfl⟩

/-- A name in a directory is looked up among the entries, unless it could be that of none. -/
theorem look_join (h : IsDirectory tree directory entries) (hname : IsPlainName name)
    (hpath : IsUsablePath (join directory name)) :
    tree.look (join directory name)
      = if maxNameBytes < name.utf8ByteSize then .nothing .nameTooLong
        else match entries.lookup name with
          | none => .nothing .notFound
          | some tree => tree.found := by
  obtain ⟨parts, hparts, hjoin⟩ := pathParts_join h.isUsablePath.ne_empty hname
  have hstart : tree.start (join directory name) = tree.start directory := by
    unfold start
    rw [startsWith_join h.isUsablePath.ne_empty hname]
  have hentries : entriesAlong? [] (tree.start directory) parts = some entries := by
    rcases hparts with hparts | hparts
    · rw [← hparts]
      exact h.entriesAlong?_eq
    · rw [← entriesAlong?_append_empty, ← hparts]
      exact h.entriesAlong?_eq
  rw [look_of_isUsablePath hpath, hstart, hjoin]
  exact walk_append_name hname hentries

/-- A path to a name that an entry can have is usable. -/
theorem isUsablePath_join (h : IsDirectory tree directory entries) (hname : IsPlainName name)
    (hnul : '\x00' ∉ name.toList) (hsize : name.utf8ByteSize ≤ maxNameBytes) :
    IsUsablePath (join directory name) := by
  have hdirectory := h.isUsablePath.nul_not_mem
  refine ⟨?_, ?_, ?_⟩
  · intro hempty
    have hchars := toList_join directory hname
    rw [hempty] at hchars
    have hboth : directory = "" ∧ name = "" := by simpa using hchars
    exact hname.ne_empty hboth.2
  · rcases toList_join directory hname with hchars | hchars
    · rw [hchars, List.mem_append]
      exact fun hmem => hmem.elim hdirectory hnul
    · rw [hchars, List.mem_append, List.mem_cons]
      exact fun hmem => hmem.elim hdirectory fun hmem => hmem.elim (by decide) hnul
  · have hroom := h.room
    have hle := utf8ByteSize_join_le directory hname
    omega

/-- **A directory has what one of its entries is called to the letter.** -/
theorem hasIn_iff (h : IsDirectory tree directory entries) (hname : IsPlainName name) :
    tree.disk.hasIn directory name = true ↔ name ∈ entries.map Prod.fst := by
  have hdisk : tree.disk.look (join directory name) = tree.look (join directory name) := rfl
  rw [Disk.hasIn, Disk.has, hdisk]
  constructor
  · intro hfound
    by_cases hpath : IsUsablePath (join directory name)
    · rw [look_join h hname hpath] at hfound
      by_cases hlong : maxNameBytes < name.utf8ByteSize
      · rw [if_pos hlong] at hfound
        exact absurd hfound (by simp)
      · rw [if_neg hlong] at hfound
        cases hlookup : entries.lookup name with
        | none =>
          rw [hlookup] at hfound
          exact absurd hfound (by simp)
        | some found =>
          obtain ⟨before, after, hentries, -⟩ := List.lookup_eq_some_iff.mp hlookup
          rw [hentries]
          simp
    · obtain ⟨obstacle, hlook⟩ := exists_look_of_not_isUsablePath tree hpath
      rw [hlook] at hfound
      exact absurd hfound (by simp)
  · intro hmem
    obtain ⟨entry, hentry, rfl⟩ := List.mem_map.mp hmem
    have hsize := h.size_le entry hentry
    have hpath := isUsablePath_join h hname (h.nul_not_mem entry hentry) hsize
    rw [look_join h hname hpath, if_neg (Nat.not_lt.mpr hsize)]
    cases hlookup : entries.lookup entry.1 with
    | none =>
      have hother := List.lookup_eq_none_iff.mp hlookup entry hentry
      simp at hother
    | some tree => cases tree <;> rfl

/-! ## The state of a directory -/

theorem loadState_of_isDirectory (h : IsDirectory tree directory entries) :
    tree.disk.loadState directory
      = .ok (({} : GameState).addFiles
          ((entries.filterMap fileName?).mergeSort fun a b => decide (a ≤ b))) := by
  have hlook : tree.disk.look directory = .directory (entries.filterMap fileName?) :=
    look_of_isDirectory h
  rw [Disk.loadState, Disk.fileNames, hlook]

/-- **The state of a directory has the files in it**, whatever the letter case. -/
theorem isInstalled_iff (h : IsDirectory tree directory entries) :
    ∃ state, tree.disk.loadState directory = .ok state ∧
      ∀ name, state.isInstalled name = true
        ↔ ∃ file ∈ entries.filterMap fileName?, Name.agree file name = true := by
  refine ⟨_, loadState_of_isDirectory h, fun name => ?_⟩
  rw [GameState.isInstalled_addFiles]
  simp [GameState.isInstalled, List.any_eq_true, Name.agree_iff]

/-! ## The two reports of a plugin -/

open Install (check listedFiles)

/-- **The two ways give a plugin the same report** exactly when each of its files is called like an
entry to the letter if and only if its name agrees with that of a file. -/
theorem check_hasIn_eq_iff (h : IsDirectory tree directory entries) {plugin : Plugin}
    (hplain : ∀ name ∈ listedFiles plugin, IsPlainName name) :
    ∃ state, tree.disk.loadState directory = .ok state ∧
      (check (tree.disk.hasIn directory) plugin = check state.isInstalled plugin
        ↔ ∀ name ∈ listedFiles plugin, (name ∈ entries.map Prod.fst
            ↔ ∃ file ∈ entries.filterMap fileName?, Name.agree file name = true)) := by
  obtain ⟨state, hstate, hinstalled⟩ := isInstalled_iff h
  refine ⟨state, hstate, ?_⟩
  rw [Install.check_eq_iff]
  refine forall₂_congr fun name hname => ?_
  rw [Bool.eq_iff_iff, hasIn_iff h (hplain name hname), hinstalled]

/-! ### A directory with a file and a directory in it -/

/-- The directory lies under the root. -/
def smallTree : FileTree :=
  .directory [("Data", .directory [("Present.esp", .file .empty), ("Textures", .directory [])])]

theorem isDirectory_smallTree : IsDirectory smallTree "Data"
    [("Present.esp", .file .empty), ("Textures", .directory [])] where
  isUsablePath := ⟨by decide, by decide, by decide⟩
  entriesAlong?_eq := by
    have hstart : smallTree.start "Data" = smallTree := by
      rw [start, not_startsWith_slash (by decide)]
      rfl
    have hparts : pathParts "Data" = ["Data"] := by decide
    rw [hstart, hparts]
    rfl
  room := by decide
  nul_not_mem := by decide
  size_le := by decide

theorem loadState_smallTree :
    smallTree.disk.loadState "Data" = .ok (({} : GameState).addFiles ["Present.esp"]) := by
  rw [loadState_of_isDirectory isDirectory_smallTree]
  have hfiles : [("Present.esp", FileTree.file .empty), ("Textures", .directory [])].filterMap
      fileName? = ["Present.esp"] := rfl
  rw [hfiles, List.mergeSort_singleton]

/-- A plugin that needs the file, spelled as it is, and one that is not there. -/
def exactPlugin : Plugin where
  name := "x.esp"
  masters := ["Gone.esm"]
  requirements := KeyedSet.ofList [.always { name := "Present.esp" }]

theorem check_hasIn_eq_exactPlugin :
    IsDirectory smallTree "Data" [("Present.esp", .file .empty), ("Textures", .directory [])] ∧
      (∀ name ∈ listedFiles exactPlugin, IsPlainName name) ∧
      ∃ state, smallTree.disk.loadState "Data" = .ok state ∧
        check (smallTree.disk.hasIn "Data") exactPlugin = check state.isInstalled exactPlugin := by
  have hplain : ∀ name ∈ listedFiles exactPlugin, IsPlainName name := by decide +kernel
  obtain ⟨state, hstate, heq⟩ := check_hasIn_eq_iff isDirectory_smallTree hplain
  exact ⟨isDirectory_smallTree, hplain, state, hstate, heq.mpr (by decide +kernel)⟩

/-- A plugin that needs the file, spelled otherwise, and must not meet a file that is called like the
directory. -/
def loosePlugin : Plugin where
  name := "x.esp"
  requirements := KeyedSet.ofList [.always { name := "present.esp" }]
  incompatibilities := KeyedSet.ofList [.always { name := "Textures" }]

/-- To one who follows paths the file is missing and the directory is a file. -/
theorem check_hasIn_ne_loosePlugin :
    (∀ name ∈ listedFiles loosePlugin, IsPlainName name) ∧
      ∃ state, smallTree.disk.loadState "Data" = .ok state ∧
        check (smallTree.disk.hasIn "Data") loosePlugin
          ≠ check state.isInstalled loosePlugin := by
  exact ⟨by decide +kernel, _, loadState_smallTree, by decide +kernel⟩

end FileTree

end Storage

end LoadOrder
