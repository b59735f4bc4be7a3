import LoadOrder.Order.Relations
import Mathlib.Data.List.Pairwise
import Mathlib.Logic.Relation

/-!
# The arrows of a graph

A graph is built by calls that add a plugin or an arrow. This module says what such a graph holds in
terms of the calls alone:

* **`arrow_build`**: there is an arrow between two keys exactly when a call has added one between
  names with these keys, however the names were spelled.
* **`arrow_ofPlugins`**: in the graph of a batch the arrows are the relations within the batch.
* **`closed_build`**: every arrow leads to a plugin of the graph.

Everything about cycles and about load orders rests on these three facts; nothing behind them looks
at the list of nodes again.
-/

namespace LoadOrder.Order

/-- What can be added to a graph. -/
inductive Addition where
  /-- A plugin. -/
  | node (name : String)
  /-- An arrow from a plugin to one that it has to load after. -/
  | arrow (plugin dependency : String)
deriving Repr, DecidableEq

namespace Relations

/-- The keys of the plugins of a graph. -/
def keys (relations : Relations) : List String := relations.nodes.map Node.key

/-- The plugin with the first key has to load after the plugin with the second. -/
def Arrow (relations : Relations) (key other : String) : Prop := other ∈ relations.afterKeys key

/-- Following arrows comes to an end, wherever it starts. -/
def Grounded (relations : Relations) : Prop :=
  WellFounded fun next key => relations.Arrow key next

/-- Every arrow leads to a plugin of the graph. -/
def Closed (relations : Relations) : Prop :=
  ∀ key other, relations.Arrow key other → other ∈ relations.keys

/-- The graph with one addition. -/
def add (relations : Relations) : Addition → Relations
  | .node name => relations.addNode name
  | .arrow plugin dependency => relations.addArrow plugin dependency

/-- The graph that a list of additions builds, in their order. -/
def build (additions : List Addition) : Relations := additions.foldl add {}

/-- One of the additions is an arrow between names with these keys. -/
def Declared (additions : List Addition) (key other : String) : Prop :=
  ∃ plugin dependency, Addition.arrow plugin dependency ∈ additions ∧
    Name.key plugin = key ∧ Name.key dependency = other

/-! ## Look-ups -/

theorem find?_eq_some_imp {relations : Relations} {key : String} {node : Node}
    (h : relations.find? key = some node) : node ∈ relations.nodes ∧ node.key = key := by
  refine ⟨List.mem_of_find?_eq_some h, ?_⟩
  have hkey := List.find?_some h
  exact eq_of_beq hkey

theorem isSome_find?_iff {relations : Relations} {key : String} :
    (relations.find? key).isSome ↔ key ∈ relations.keys := by
  rw [find?, List.find?_isSome, keys, List.mem_map]
  constructor
  · rintro ⟨node, hmem, hkey⟩
    exact ⟨node, hmem, eq_of_beq hkey⟩
  · rintro ⟨node, hmem, hkey⟩
    exact ⟨node, hmem, beq_iff_eq.mpr hkey⟩

/-- A new plugin is found under its key unless the key was taken; all else is found as before. -/
theorem find?_addNode (relations : Relations) (name key : String) :
    (relations.addNode name).find? key
      = (relations.find? key).or (if Name.key name = key then some { name } else none) := by
  unfold addNode
  split
  · next node hnode =>
    by_cases hkey : Name.key name = key
    · subst hkey
      rw [hnode, Option.some_or]
    · rw [if_neg hkey, Option.or_none]
  · next hnone =>
    show (relations.nodes ++ [({ name } : Node)]).find? (fun node => node.key == key) = _
    rw [List.find?_append]
    by_cases hkey : Name.key name = key <;> simp [find?, Node.key, hkey]

theorem key_addArrow (node : Node) (target : String) : (node.addArrow target).key = node.key := by
  unfold Node.addArrow
  split <;> rfl

/-- An arrow changes the node that it starts from and no other. -/
theorem find?_addArrow (relations : Relations) (plugin dependency key : String) :
    (relations.addArrow plugin dependency).find? key
      = (((relations.addNode plugin).addNode dependency).find? key).map fun node =>
          if key = Name.key plugin then node.addArrow (Name.key dependency) else node := by
  have hkey : ∀ node : Node, (if node.key = Name.key plugin
      then node.addArrow (Name.key dependency) else node).key = node.key := by
    intro node
    split
    · exact key_addArrow node _
    · rfl
  -- the nodes keep their keys, so the same node is found as without the arrow
  have hfound : (relations.addArrow plugin dependency).find? key
      = (((relations.addNode plugin).addNode dependency).find? key).map fun node =>
          if node.key = Name.key plugin then node.addArrow (Name.key dependency) else node := by
    unfold addArrow find?
    rw [List.find?_map]
    simp only [Function.comp_def, hkey]
  rw [hfound]
  cases hnode : ((relations.addNode plugin).addNode dependency).find? key with
  | none => rfl
  | some node => rw [Option.map_some, Option.map_some, (find?_eq_some_imp hnode).2]

/-- Arrows start from plugins of the graph. -/
theorem mem_keys_of_arrow {relations : Relations} {key other : String}
    (h : relations.Arrow key other) : key ∈ relations.keys := by
  rw [← isSome_find?_iff]
  cases hfind : relations.find? key with
  | some node => rfl
  | none =>
    rw [Arrow, afterKeys, hfind] at h
    exact absurd h List.not_mem_nil

/-- Where following arrows comes to an end, no plugin leads back to itself. -/
theorem Grounded.not_transGen {relations : Relations} (h : relations.Grounded) (key : String) :
    ¬ Relation.TransGen relations.Arrow key key := by
  induction key using h.induction with
  | _ key ih =>
    intro hreach
    obtain ⟨next, harrow, hback⟩ := Relation.TransGen.head'_iff.mp hreach
    exact ih next harrow (Relation.TransGen.tail' hback harrow)

/-! ## What an addition changes -/

theorem mem_keys_addNode {relations : Relations} {name key : String} :
    key ∈ (relations.addNode name).keys ↔ key ∈ relations.keys ∨ key = Name.key name := by
  rw [← isSome_find?_iff, ← isSome_find?_iff, find?_addNode]
  by_cases h : Name.key name = key
  · simp [h]
  · simp [h, Ne.symm h]

theorem afterKeys_addNode (relations : Relations) (name key : String) :
    (relations.addNode name).afterKeys key = relations.afterKeys key := by
  unfold afterKeys
  rw [find?_addNode]
  cases relations.find? key with
  | some node => rfl
  | none => by_cases h : Name.key name = key <;> simp [h]

theorem mem_after_addArrow {node : Node} {target other : String} :
    other ∈ (node.addArrow target).after ↔ other ∈ node.after ∨ other = target := by
  unfold Node.addArrow
  split
  · next h =>
    have hmem : target ∈ node.after := by simpa using h
    constructor
    · exact Or.inl
    · rintro (hold | rfl)
      · exact hold
      · exact hmem
  · rw [List.mem_append, List.mem_singleton]

theorem mem_keys_addArrow {relations : Relations} {plugin dependency key : String} :
    key ∈ (relations.addArrow plugin dependency).keys
      ↔ key ∈ relations.keys ∨ key = Name.key plugin ∨ key = Name.key dependency := by
  rw [← isSome_find?_iff, find?_addArrow, Option.isSome_map, isSome_find?_iff, mem_keys_addNode,
    mem_keys_addNode, or_assoc]

/-- An added arrow is there, and no other arrow comes or goes. -/
theorem arrow_addArrow {relations : Relations} {plugin dependency key other : String} :
    (relations.addArrow plugin dependency).Arrow key other
      ↔ relations.Arrow key other ∨ Name.key plugin = key ∧ Name.key dependency = other := by
  have hold : relations.Arrow key other
      ↔ other ∈ ((relations.addNode plugin).addNode dependency).afterKeys key := by
    rw [afterKeys_addNode, afterKeys_addNode, Arrow]
  rw [hold, Arrow, afterKeys, afterKeys, find?_addArrow]
  by_cases hkey : key = Name.key plugin
  · -- the plugin itself has just been added, so its node is there
    have hsome : (((relations.addNode plugin).addNode dependency).find? key).isSome := by
      rw [isSome_find?_iff, mem_keys_addNode, mem_keys_addNode]
      exact Or.inl (Or.inr hkey)
    obtain ⟨node, hnode⟩ := Option.isSome_iff_exists.mp hsome
    rw [hnode]
    simp only [Option.map_some, Option.getD_some, if_pos hkey, mem_after_addArrow]
    rw [and_iff_right hkey.symm, eq_comm (a := other)]
  · simp only [if_neg hkey, Option.map_id']
    rw [iff_self_or]
    exact fun h => absurd h.1.symm hkey

theorem not_declared_node {name key other : String} : ¬ Declared [.node name] key other := by
  rintro ⟨plugin, dependency, hmem, _⟩
  exact absurd (List.mem_singleton.mp hmem) (by simp)

theorem declared_arrow {plugin dependency key other : String} :
    Declared [.arrow plugin dependency] key other
      ↔ Name.key plugin = key ∧ Name.key dependency = other := by
  constructor
  · rintro ⟨_, _, hmem, hkeys⟩
    cases List.mem_singleton.mp hmem
    exact hkeys
  · exact fun hkeys => ⟨plugin, dependency, List.mem_singleton_self _, hkeys⟩

theorem declared_cons {addition : Addition} {additions : List Addition} {key other : String} :
    Declared (addition :: additions) key other
      ↔ Declared [addition] key other ∨ Declared additions key other := by
  simp only [Declared, List.mem_cons, List.not_mem_nil, or_false, or_and_right, exists_or]

theorem arrow_add {relations : Relations} {addition : Addition} {key other : String} :
    (relations.add addition).Arrow key other
      ↔ relations.Arrow key other ∨ Declared [addition] key other := by
  cases addition with
  | node name =>
    show other ∈ (relations.addNode name).afterKeys key ↔ _
    rw [afterKeys_addNode, or_iff_left not_declared_node, Arrow]
  | arrow plugin dependency =>
    show (relations.addArrow plugin dependency).Arrow key other ↔ _
    rw [arrow_addArrow, declared_arrow]

theorem closed_add {relations : Relations} (h : relations.Closed) (addition : Addition) :
    (relations.add addition).Closed := by
  intro key other harrow
  cases addition with
  | node name =>
    show other ∈ (relations.addNode name).keys
    have hold : relations.Arrow key other :=
      (arrow_add.mp harrow).resolve_right not_declared_node
    exact mem_keys_addNode.mpr (Or.inl (h key other hold))
  | arrow plugin dependency =>
    show other ∈ (relations.addArrow plugin dependency).keys
    rcases arrow_addArrow.mp harrow with hold | ⟨_, hnew⟩
    · exact mem_keys_addArrow.mpr (Or.inl (h key other hold))
    · exact mem_keys_addArrow.mpr (Or.inr (Or.inr hnew.symm))

/-! ## Graphs built by additions -/

theorem arrow_foldl_add {additions : List Addition} {relations : Relations} {key other : String} :
    (additions.foldl add relations).Arrow key other
      ↔ relations.Arrow key other ∨ Declared additions key other := by
  induction additions generalizing relations with
  | nil => simp [Declared]
  | cons addition additions ih =>
    have hsplit : Declared (addition :: additions) key other
        ↔ Declared [addition] key other ∨ Declared additions key other := declared_cons
    rw [List.foldl_cons, ih, arrow_add, hsplit, or_assoc]

/-- **The arrows of a built graph are the declared ones.** -/
theorem arrow_build {additions : List Addition} {key other : String} :
    (build additions).Arrow key other ↔ Declared additions key other := by
  have hempty : ¬ ({} : Relations).Arrow key other := List.not_mem_nil
  rw [build, arrow_foldl_add, or_iff_right hempty]

/-- **Every arrow of a built graph leads to one of its plugins.** -/
theorem closed_build (additions : List Addition) : (build additions).Closed := by
  have hfold : ∀ relations : Relations, relations.Closed →
      (additions.foldl add relations).Closed := by
    induction additions with
    | nil => exact fun _ h => h
    | cons addition additions ih => exact fun relations h => ih _ (closed_add h addition)
  exact hfold {} fun _ _ h => absurd h List.not_mem_nil

/-! ## The graph of a batch -/

/-- The additions that make up the graph of a batch: the plugins, then the relations between
them. -/
def additionsOf (batch : List Plugin) : List Addition :=
  batch.map (fun plugin => .node plugin.name) ++ batch.flatMap fun plugin =>
    (batch.filter (relates plugin)).map fun other => .arrow plugin.name other.name

theorem ofPlugins_eq_build (batch : List Plugin) : ofPlugins batch = build (additionsOf batch) := by
  rw [build, additionsOf, List.foldl_append, List.foldl_map, List.foldl_flatMap]
  simp only [List.foldl_map]
  rfl

/-- **The arrows of a batch are the relations within it.** -/
theorem arrow_ofPlugins {batch : List Plugin} {key other : String} :
    (ofPlugins batch).Arrow key other
      ↔ ∃ p ∈ batch, ∃ q ∈ batch, relates p q = true ∧ p.key = key ∧ q.key = other := by
  rw [ofPlugins_eq_build, arrow_build, Declared]
  constructor
  · rintro ⟨plugin, dependency, hmem, hkey, hother⟩
    simp only [additionsOf, List.mem_append, List.mem_map, List.mem_flatMap, List.mem_filter,
      reduceCtorEq, and_false, exists_false, false_or, Addition.arrow.injEq] at hmem
    obtain ⟨p, hp, q, ⟨hq, hrel⟩, rfl, rfl⟩ := hmem
    exact ⟨p, hp, q, hq, hrel, hkey, hother⟩
  · rintro ⟨p, hp, q, hq, hrel, rfl, rfl⟩
    refine ⟨p.name, q.name, List.mem_append_right _ ?_, rfl, rfl⟩
    refine List.mem_flatMap.mpr ⟨p, hp, List.mem_map.mpr ⟨q, ?_, rfl⟩⟩
    exact List.mem_filter.mpr ⟨hq, hrel⟩

theorem closed_ofPlugins (batch : List Plugin) : (ofPlugins batch).Closed := by
  rw [ofPlugins_eq_build]
  exact closed_build _

end Relations

/-! ## Batches of different plugins

Where no two names agree, a key stands for one plugin of the batch, and the arrows between keys are
the relations between plugins. -/

/-- No two names of the batch agree. -/
def DistinctNames (batch : List Plugin) : Prop :=
  batch.Pairwise fun p q => Name.agree p.name q.name = false

namespace DistinctNames

variable {batch other : List Plugin} {p q : Plugin}

instance symm_agree : Std.Symm fun p q : Plugin => Name.agree p.name q.name = false :=
  ⟨fun p q h => by rw [Name.agree_comm]; exact h⟩

theorem perm (h : DistinctNames batch) (hperm : other.Perm batch) : DistinctNames other :=
  (hperm.pairwise_iff fun {p q} => symm_agree.symm p q).mpr h

theorem isNamed (h : DistinctNames batch) (hp : p ∈ batch) (hq : q ∈ batch) (hne : p ≠ q) :
    p.isNamed q.name = false :=
  List.Pairwise.forall h hp hq hne

theorem eq_of_key_eq (h : DistinctNames batch) (hp : p ∈ batch) (hq : q ∈ batch)
    (hkey : p.key = q.key) : p = q := by
  by_contra hne
  have hagree := Name.agree_of_key_eq hkey
  rw [← Plugin.isNamed, h.isNamed hp hq hne] at hagree
  exact absurd hagree (by simp)

/-- A plugin does not have the name of one behind it. -/
theorem isNamed_behind {before after : List Plugin} (h : DistinctNames (before ++ p :: after))
    (hq : q ∈ after) : p.isNamed q.name = false :=
  List.rel_of_pairwise_cons (List.pairwise_append.mp h).2.1 hq

/-- **Arrows between keys are relations between plugins.** -/
theorem arrow_iff (h : DistinctNames batch) (hp : p ∈ batch) (hq : q ∈ batch) :
    (Relations.ofPlugins batch).Arrow p.key q.key ↔ Relations.relates p q = true := by
  rw [Relations.arrow_ofPlugins]
  constructor
  · rintro ⟨a, ha, b, hb, hrel, hakey, hbkey⟩
    rw [← h.eq_of_key_eq ha hp hakey, ← h.eq_of_key_eq hb hq hbkey]
    exact hrel
  · exact fun hrel => ⟨p, hp, q, hq, hrel, rfl, rfl⟩

/-- An arrow from a plugin of the batch is a relation to another one. -/
theorem exists_of_arrow (h : DistinctNames batch) (hp : p ∈ batch) {key : String}
    (harrow : (Relations.ofPlugins batch).Arrow p.key key) :
    ∃ q ∈ batch, Relations.relates p q = true ∧ q.key = key := by
  obtain ⟨a, ha, q, hq, hrel, hakey, hqkey⟩ := Relations.arrow_ofPlugins.mp harrow
  rw [h.eq_of_key_eq ha hp hakey] at hrel
  exact ⟨q, hq, hrel, hqkey⟩

end DistinctNames

end LoadOrder.Order
