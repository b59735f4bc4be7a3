import LoadOrder.Proofs.Order.CycleSearch
import LoadOrder.Proofs.Order.Precedence

/-!
# Circles of plugins

What strict mode reports when it fails. The search works on keys and reports names; in a batch of
plugins with different names a key and a name stand for one plugin each, so the report can be read
as a statement about the plugins.

* **`exists_circle_of_findCycle`**: the reported path goes round a circle of plugins of the batch, each
  of which has to load after the next, under the names that they bear.
* **`Circle.isMaster_eq`**: a plugin that has to load after another one is a master only if that one
  is. Round a circle this makes all alike.
* **`exists_findCycle_iff`**: something is reported exactly when some plugin has to load after itself
  by way of others.
-/

namespace LoadOrder.Order

open Relation

variable {batch members : List Plugin} {p q : Plugin}

/-- The first plugin has to load after the second, another one of the batch, and the master rule does
not override this. -/
def Follows (batch : List Plugin) (p q : Plugin) : Prop :=
  p ∈ batch ∧ q ∈ batch ∧ p ≠ q ∧ p.mustFollow q = true ∧ (p.isMaster = true → q.isMaster = true)

/-- Several plugins of a batch, each of which has to load after the next and the last after the
first. -/
structure Circle (batch members : List Plugin) : Prop where
  two_le_length : 2 ≤ members.length
  subset : members ⊆ batch
  nodup : (members.map Plugin.key).Nodup
  linked : (members ++ members.take 1).IsChain (Follows batch)

/-! ## Relations between plugins -/

theorem DistinctNames.follows_iff (hd : DistinctNames batch) (hp : p ∈ batch) (hq : q ∈ batch) :
    Follows batch p q ↔ Relations.relates p q = true := by
  rw [Relations.relates_iff]
  constructor
  · rintro ⟨_, _, hne, hfollow, hmaster⟩
    exact ⟨hd.isNamed hp hq hne, hmaster, hfollow⟩
  · rintro ⟨hnamed, hmaster, hfollow⟩
    exact ⟨hp, hq, ne_of_isNamed hnamed, hfollow, hmaster⟩

theorem DistinctNames.arrow_of_follows (hd : DistinctNames batch) (h : Follows batch p q) :
    (Relations.ofPlugins batch).Arrow p.key q.key := by
  obtain ⟨hp, hq, _⟩ := id h
  exact (hd.arrow_iff hp hq).mpr ((hd.follows_iff hp hq).mp h)

/-- A chain of arrows from a plugin of the batch is a chain of relations to another one. -/
theorem DistinctNames.exists_of_transGen (hd : DistinctNames batch) (hp : p ∈ batch) {key : String}
    (h : TransGen (Relations.ofPlugins batch).Arrow p.key key) :
    ∃ q ∈ batch, q.key = key ∧ TransGen (Follows batch) p q := by
  have hstep : ∀ {a : Plugin} {key : String}, a ∈ batch →
      (Relations.ofPlugins batch).Arrow a.key key → ∃ b ∈ batch, b.key = key ∧ Follows batch a b := by
    intro a key ha harrow
    obtain ⟨b, hb, hrel, hkey⟩ := hd.exists_of_arrow ha harrow
    exact ⟨b, hb, hkey, (hd.follows_iff ha hb).mpr hrel⟩
  induction h with
  | single harrow =>
    obtain ⟨q, hq, hkey, hfollow⟩ := hstep hp harrow
    exact ⟨q, hq, hkey, .single hfollow⟩
  | tail _ harrow ih =>
    obtain ⟨m, hm, rfl, hreach⟩ := ih
    obtain ⟨q, hq, hkey, hfollow⟩ := hstep hm harrow
    exact ⟨q, hq, hkey, hreach.tail hfollow⟩

/-- **When a cycle is reported.** Some plugin has to load after itself by way of others. -/
theorem DistinctNames.exists_findCycle_iff (hd : DistinctNames batch) :
    (∃ path, (Relations.ofPlugins batch).findCycle = some path)
      ↔ ∃ p, TransGen (Follows batch) p p := by
  have hclosed := Relations.closed_ofPlugins batch
  constructor
  · -- the path is a cycle of keys; its first key belongs to a plugin
    rintro ⟨path, hpath⟩
    obtain ⟨keyPath, hcycle, _⟩ := Relations.exists_isCycle_of_findCycle hclosed hpath
    obtain ⟨key, hreach⟩ := hcycle.exists_transGen
    obtain ⟨_, harrow, _⟩ := TransGen.head'_iff.mp hreach
    obtain ⟨p, hp, _, _, _, rfl, _⟩ := Relations.arrow_ofPlugins.mp harrow
    obtain ⟨q, hq, hkey, hcircle⟩ := hd.exists_of_transGen hp hreach
    rw [hd.eq_of_key_eq hq hp hkey] at hcircle
    exact ⟨p, hcircle⟩
  · -- a search that finds nothing leaves no way back to any key
    rintro ⟨p, hcircle⟩
    by_contra hnone
    push Not at hnone
    have hgrounded := Relations.grounded_of_findCycle hclosed
      (Option.eq_none_iff_forall_ne_some.mpr hnone)
    refine hgrounded.not_transGen p.key ?_
    exact hcircle.lift Plugin.key fun _ _ => hd.arrow_of_follows

/-! ## Names shown

A key is shown under the name that was first used for it, which in a batch of plugins with different
names is the name of the one plugin with the key. -/

/-- The names that an addition uses. -/
def Addition.names : Addition → List String
  | .node name => [name]
  | .arrow plugin dependency => [plugin, dependency]

namespace Relations

theorem name_addNode (relations : Relations) (name key : String) :
    ((relations.addNode name).find? key).map Node.name
      = ((relations.find? key).map Node.name).or ([name].find? (Name.key · == key)) := by
  rw [find?_addNode, Option.map_or]
  by_cases hkey : Name.key name = key <;> simp [hkey]

/-- An addition names what had no name before. -/
theorem name_add (relations : Relations) (addition : Addition) (key : String) :
    ((relations.add addition).find? key).map Node.name
      = ((relations.find? key).map Node.name).or (addition.names.find? (Name.key · == key)) := by
  cases addition with
  | node name => exact name_addNode relations name key
  | arrow plugin dependency =>
    have hname : ∀ node : Node, (if key = Name.key plugin
        then node.addArrow (Name.key dependency) else node).name = node.name := by
      intro node
      unfold Node.addArrow
      split
      · split <;> rfl
      · rfl
    show ((relations.addArrow plugin dependency).find? key).map Node.name = _
    rw [find?_addArrow, Option.map_map]
    simp only [Function.comp_def, hname]
    rw [name_addNode, name_addNode, Option.or_assoc, ← List.find?_append]
    rfl

/-- **The name shown is the name first used.** -/
theorem name_build (additions : List Addition) (key : String) :
    ((build additions).find? key).map Node.name
      = (additions.flatMap Addition.names).find? (Name.key · == key) := by
  -- from any relations, since the induction goes on from what the first addition makes
  have hfold : ∀ relations : Relations, ((additions.foldl add relations).find? key).map Node.name
      = ((relations.find? key).map Node.name).or
        ((additions.flatMap Addition.names).find? (Name.key · == key)) := by
    induction additions with
    | nil => exact fun relations => Option.or_none.symm
    | cons addition additions ih =>
      intro relations
      rw [List.foldl_cons, ih, name_add, Option.or_assoc, ← List.find?_append, List.flatMap_cons]
  exact hfold {}

end Relations

theorem DistinctNames.shownName_key (hd : DistinctNames batch) (hp : p ∈ batch) :
    (Relations.ofPlugins batch).shownName p.key = p.name := by
  -- all plugins are added as nodes before the first arrow
  have hnames : (Relations.additionsOf batch).flatMap Addition.names
      = batch.map Plugin.name ++ (batch.flatMap fun plugin =>
          (batch.filter (Relations.relates plugin)).map fun other =>
            Addition.arrow plugin.name other.name).flatMap Addition.names := by
    rw [Relations.additionsOf, List.flatMap_append, List.flatMap_map]
    rw [List.map_eq_flatMap]
    rfl
  have hfound : (batch.map Plugin.name).find? (Name.key · == p.key) = some p.name := by
    rw [List.find?_map, Option.map_eq_some_iff]
    have hsome : (batch.find? ((Name.key · == p.key) ∘ Plugin.name)).isSome :=
      List.find?_isSome.mpr ⟨p, hp, beq_self_eq_true p.key⟩
    obtain ⟨q, hq⟩ := Option.isSome_iff_exists.mp hsome
    have hkey := List.find?_some hq
    have hsame : q = p := hd.eq_of_key_eq (List.mem_of_find?_eq_some hq) hp (eq_of_beq hkey)
    exact ⟨q, hq, congrArg Plugin.name hsame⟩
  rw [Relations.shownName, Relations.ofPlugins_eq_build, Relations.name_build, hnames,
    List.find?_append, hfound]
  rfl

/-! ## Circles -/

theorem IsCycle.exists_eq_concat {α : Type} {link : α → α → Prop} {path : List α}
    (h : IsCycle link path) : ∃ first rest, path = first :: rest ++ [first] := by
  match path, h with
  | [], h => exact absurd h.two_le_length (by simp)
  | first :: rest, h =>
    have hrest : rest ≠ [] := by
      rintro rfl
      exact absurd h.two_le_length (by simp)
    have hlast : rest.getLast? = some first := by
      rw [← List.getLast?_cons_of_ne_nil hrest, ← h.closed, List.head?_cons]
    refine ⟨first, rest.dropLast, ?_⟩
    rw [List.cons_append, List.dropLast_append_getLast? first hlast]

theorem IsCycle.exists_link {α : Type} {link : α → α → Prop} {first a : α} {rest : List α}
    (h : IsCycle link (first :: rest ++ [first])) (ha : a ∈ first :: rest) : ∃ b, link a b := by
  refine exists_link_of_mem_dropLast h.linked ?_
  rw [List.dropLast_concat]
  exact ha

theorem exists_map_key {keys : List String} (h : ∀ key ∈ keys, ∃ p ∈ batch, p.key = key) :
    ∃ members : List Plugin, members ⊆ batch ∧ members.map Plugin.key = keys := by
  induction keys with
  | nil => exact ⟨[], List.nil_subset _, rfl⟩
  | cons key keys ih =>
    obtain ⟨p, hp, rfl⟩ := h key (List.mem_cons_self ..)
    obtain ⟨members, hsub, rfl⟩ := ih fun key hkey => h key (List.mem_cons_of_mem _ hkey)
    exact ⟨p :: members, List.cons_subset.mpr ⟨hp, hsub⟩, rfl⟩

theorem append_take_subset (members : List Plugin) : members ++ members.take 1 ⊆ members :=
  List.append_subset.mpr ⟨fun _ h => h, List.take_subset 1 members⟩

/-- Plugins of the batch that each have to load after the next make up a circle: no plugin makes one
by itself. -/
theorem Circle.of_linked (hne : members ≠ []) (hsub : members ⊆ batch)
    (hnodup : (members.map Plugin.key).Nodup)
    (hlinked : (members ++ members.take 1).IsChain (Follows batch)) : Circle batch members := by
  refine ⟨?_, hsub, hnodup, hlinked⟩
  match members, hne, hlinked with
  | [p], _, hlinked => exact absurd rfl (List.isChain_cons_cons.mp hlinked).1.2.2.1
  | _ :: _ :: _, _, _ => simp

/-- A cycle of keys goes round a circle of plugins. -/
theorem DistinctNames.exists_circle (hd : DistinctNames batch) {keyPath : List String}
    (h : IsCycle (Relations.ofPlugins batch).Arrow keyPath) :
    ∃ members, Circle batch members ∧ keyPath = (members ++ members.take 1).map Plugin.key := by
  obtain ⟨first, rest, rfl⟩ := h.exists_eq_concat
  have hkeys : ∀ key ∈ first :: rest, ∃ p ∈ batch, p.key = key := by
    intro key hkey
    obtain ⟨next, harrow⟩ := h.exists_link hkey
    obtain ⟨p, hp, _, _, _, hpkey, _⟩ := Relations.arrow_ofPlugins.mp harrow
    exact ⟨p, hp, hpkey⟩
  obtain ⟨members, hsub, hmembers⟩ := exists_map_key hkeys
  have hpath : first :: rest ++ [first] = (members ++ members.take 1).map Plugin.key := by
    rw [List.map_append, List.map_take, hmembers]
    rfl
  have hlinked : (members ++ members.take 1).IsChain (Follows batch) := by
    have hchain := h.linked
    rw [hpath, List.isChain_map] at hchain
    refine hchain.imp_of_mem_imp fun a b ha hb harrow => ?_
    have ha : a ∈ batch := hsub (append_take_subset members ha)
    have hb : b ∈ batch := hsub (append_take_subset members hb)
    exact (hd.follows_iff ha hb).mpr ((hd.arrow_iff ha hb).mp harrow)
  have hnodup := h.nodup
  rw [List.dropLast_concat, ← hmembers] at hnodup
  have hne : members ≠ [] := by
    rintro rfl
    exact absurd hmembers (by simp)
  exact ⟨members, .of_linked hne hsub hnodup hlinked, hpath⟩

theorem DistinctNames.exists_circle_of_isCycle (hd : DistinctNames batch) {path : List Plugin}
    (h : IsCycle (Follows batch) path) :
    ∃ members, Circle batch members ∧ path = members ++ members.take 1 := by
  obtain ⟨first, rest, rfl⟩ := h.exists_eq_concat
  have hnodup := h.nodup
  rw [List.dropLast_concat] at hnodup
  have hsub : first :: rest ⊆ batch := by
    intro p hp
    obtain ⟨_, hfollow⟩ := h.exists_link hp
    exact hfollow.1
  have hkeys : ((first :: rest).map Plugin.key).Nodup :=
    hnodup.map_on fun p hp q hq => hd.eq_of_key_eq (hsub hp) (hsub hq)
  exact ⟨first :: rest, .of_linked (List.cons_ne_nil _ _) hsub hkeys h.linked, rfl⟩

/-- Each plugin of a circle has another one of it that has to load after it. -/
theorem Circle.exists_follows (h : Circle batch members) (hq : q ∈ members) :
    ∃ p ∈ members, Follows batch p q := by
  match members, h with
  | [], _ => exact absurd hq List.not_mem_nil
  | first :: rest, h =>
    have htail : q ∈ (first :: rest ++ [first]).tail := by
      rcases List.mem_cons.mp hq with rfl | hq
      · exact List.mem_append_right rest (List.mem_singleton_self _)
      · exact List.mem_append_left _ hq
    obtain ⟨p, hp, hfollow⟩ := exists_link_of_mem_tail h.linked htail
    exact ⟨p, append_take_subset (first :: rest) hp, hfollow⟩

/-- **What is reported.** A reported path goes round a circle of plugins, under their names. -/
theorem DistinctNames.exists_circle_of_findCycle (hd : DistinctNames batch) {path : List String}
    (h : (Relations.ofPlugins batch).findCycle = some path) :
    ∃ members, Circle batch members ∧ path = (members ++ members.take 1).map Plugin.name := by
  obtain ⟨keyPath, hcycle, rfl⟩ :=
    Relations.exists_isCycle_of_findCycle (Relations.closed_ofPlugins batch) h
  obtain ⟨members, hcircle, rfl⟩ := hd.exists_circle hcycle
  refine ⟨members, hcircle, ?_⟩
  rw [List.map_map]
  refine List.map_congr_left fun p hp => ?_
  exact hd.shownName_key (hcircle.subset (append_take_subset members hp))

/-- **All plugins of a circle are masters, or none is.** -/
theorem Circle.isMaster_eq (h : Circle batch members) :
    ∃ flag, ∀ p ∈ members, p.isMaster = flag := by
  match members, h with
  | [], h => exact absurd h.two_le_length (by simp)
  | first :: rest, h =>
    have htrans : Trans (fun p q : Plugin => p.isMaster = true → q.isMaster = true)
        (fun p q : Plugin => p.isMaster = true → q.isMaster = true)
        (fun p q : Plugin => p.isMaster = true → q.isMaster = true) := ⟨fun hpq hqr hp => hqr (hpq hp)⟩
    -- the first one comes again at the end, so each is between it and itself
    have hround : (first :: (rest ++ [first])).Pairwise
        fun p q => p.isMaster = true → q.isMaster = true :=
      (h.linked.imp fun _ _ hfollow => hfollow.2.2.2.2).pairwise
    obtain ⟨hthere, hrest⟩ := List.pairwise_cons.mp hround
    refine ⟨first.isMaster, fun p hp => ?_⟩
    rcases List.mem_cons.mp hp with rfl | hp
    · rfl
    · refine Bool.eq_iff_iff.mpr ⟨?_, hthere p (List.mem_append_left _ hp)⟩
      exact (List.pairwise_append.mp hrest).2.2 p hp first (List.mem_singleton_self _)

/-! ## The error -/

/-- The error about a path names the plugins on it, each once; it speaks of two plugins exactly if
there are two. -/
theorem plugins_cycleError {names : List String} (h : 2 ≤ names.length) :
    (Relations.cycleError (names ++ names.take 1)).plugins = names ∧
      ((∃ a b, Relations.cycleError (names ++ names.take 1) = .mutualRelation a b)
        ↔ names.length = 2) := by
  match names, h with
  | [], h => exact absurd h (by simp)
  | [_], h => exact absurd h (by simp)
  | [a, b], _ => exact ⟨rfl, ⟨fun _ => rfl, fun _ => ⟨a, b, rfl⟩⟩⟩
  | a :: b :: c :: rest, _ =>
    have herror : Relations.cycleError (a :: b :: c :: rest ++ [a])
        = .cycle (a :: b :: c :: rest ++ [a]) := by
      cases rest <;> rfl
    have hends : (a :: b :: c :: rest ++ [a]).head? = (a :: b :: c :: rest ++ [a]).getLast? := by
      rw [List.getLast?_concat, List.cons_append, List.head?_cons]
    rw [show (a :: b :: c :: rest).take 1 = [a] from rfl, herror]
    constructor
    · have hround : (decide ((a :: b :: c :: rest ++ [a]).length > 1)
          && (a :: b :: c :: rest ++ [a]).head? == (a :: b :: c :: rest ++ [a]).getLast?) = true := by
        rw [← hends, beq_self_eq_true, Bool.and_true, decide_eq_true_eq]
        simp
      rw [Error.plugins, if_pos hround, List.dropLast_concat]
    · refine iff_of_false ?_ (by simp)
      rintro ⟨_, _, hmutual⟩
      exact absurd hmutual (by simp)

end LoadOrder.Order
