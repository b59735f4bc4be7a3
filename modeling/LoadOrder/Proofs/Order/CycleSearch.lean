import LoadOrder.Order.Cycle
import LoadOrder.Proofs.Order.Arrows
import Mathlib.Data.List.Chain
import Mathlib.Data.List.Nodup

/-!
# The search for a cycle

The search ends with a path exactly when some plugin has to load after itself, and the path it ends
with is a cycle.

## The crux

The search never forgets what it has seen, so it passes over arrows to plugins that it has left
before. That loses nothing: a plugin that has been left is *settled*, all its arrows lead to plugins
that were settled earlier. `Settled` says so of a list of plugins, `Underway` says of the trail that
each stop leads to the stop above it and has only arrows to settled plugins behind it, and
`SearchState` joins the two with the plugins that are still fresh.

* **`search_spec`**: from any state with the invariant the search ends as it should. Induction on
  the search itself; each of its steps keeps the invariant.
* **`grounded_of_settled`**: once all plugins are settled, the order in which they were settled shows
  that there is no cycle.
* **`isCycle_roundTrip`**: the part of the trail that an arrow closes is a cycle.
* **`exists_isCycle_of_transGen`**: whatever leads back to itself, by way of anything, has a cycle as
  the reason.
* **`exists_isCycle_of_findCycle`**: what is reported is such a cycle in the names that are shown.
-/

namespace LoadOrder.Order

open Relation

/-- A path along links that ends where it starts and meets nothing else twice. -/
structure IsCycle {α : Type} (link : α → α → Prop) (path : List α) : Prop where
  two_le_length : 2 ≤ path.length
  closed : path.head? = path.getLast?
  nodup : path.dropLast.Nodup
  linked : path.IsChain link

/-! ## Cycles as paths -/

section Paths

variable {α β : Type} {link : α → α → Prop} {path : List α}

/-- The ends of a path with at least one link are connected. -/
theorem transGen_of_isChain {a b : α} {rest : List α} (h : (a :: b :: rest).IsChain link) :
    ∃ last, (a :: b :: rest).getLast? = some last ∧ TransGen link a last := by
  induction rest generalizing a b with
  | nil => exact ⟨b, rfl, .single (List.isChain_cons_cons.mp h).1⟩
  | cons c rest ih =>
    obtain ⟨hab, hrest⟩ := List.isChain_cons_cons.mp h
    obtain ⟨last, hlast, hreach⟩ := ih hrest
    refine ⟨last, ?_, .head hab hreach⟩
    rw [List.getLast?_cons_cons]
    exact hlast

theorem IsCycle.exists_transGen (h : IsCycle link path) : ∃ a, TransGen link a a := by
  match path, h with
  | [], h => exact absurd h.two_le_length (by simp)
  | [_], h => exact absurd h.two_le_length (by simp)
  | a :: b :: rest, h =>
    obtain ⟨last, hlast, hreach⟩ := transGen_of_isChain h.linked
    have hclosed := h.closed
    rw [hlast, List.head?_cons, Option.some.injEq] at hclosed
    subst hclosed
    exact ⟨a, hreach⟩

/-- A path that comes back to its start holds a cycle. -/
theorem exists_isCycle_of_isChain (hlength : 2 ≤ path.length) (hclosed : path.head? = path.getLast?)
    (hlinked : path.IsChain link) : ∃ cycle, IsCycle link cycle := by
  induction hsize : path.length using Nat.strong_induction_on generalizing path with
  | _ size ih =>
    by_cases hnodup : path.dropLast.Nodup
    · exact ⟨path, hlength, hclosed, hnodup, hlinked⟩
    · -- between two places of one element the path has come back to its start earlier
      rw [List.nodup_iff_sublist] at hnodup
      push Not at hnodup
      obtain ⟨x, htwice⟩ := hnodup
      obtain ⟨front, back, hsplit, hfront, hback⟩ := List.cons_sublist_iff.mp htwice
      obtain ⟨before, middle, rfl⟩ := List.append_of_mem hfront
      obtain ⟨rest, after, rfl⟩ := List.append_of_mem (List.singleton_sublist.mp hback)
      have hne : path ≠ [] := List.length_pos_iff.mp (by omega)
      have hpath : path = before ++ (x :: (middle ++ rest) ++ [x] ++ (after ++ [path.getLast hne])) := by
        conv_lhs => rw [← List.dropLast_concat_getLast hne, hsplit]
        simp
      have hpart : (x :: (middle ++ rest) ++ [x]).IsChain link := by
        rw [hpath] at hlinked
        exact hlinked.right_of_append.left_of_append
      have hshort : (x :: (middle ++ rest) ++ [x]).length < size := by
        rw [← hsize, hpath]
        simp only [List.length_append, List.length_cons]
        omega
      refine ih _ hshort ?_ ?_ hpart rfl
      · simp only [List.length_append, List.length_cons]
        omega
      · rw [List.getLast?_concat, List.cons_append, List.head?_cons]

theorem exists_isCycle_of_transGen {a : α} (h : TransGen link a a) : ∃ cycle, IsCycle link cycle := by
  obtain ⟨b, hab, hba⟩ := TransGen.head'_iff.mp h
  obtain ⟨rest, hchain, hlast⟩ := List.exists_isChain_cons_of_relationReflTransGen hba
  have hclosed : (a :: b :: rest).head? = (a :: b :: rest).getLast? := by
    rw [List.head?_cons, List.getLast?_cons_cons,
      List.getLast?_eq_some_getLast (List.cons_ne_nil b rest), hlast]
  exact exists_isCycle_of_isChain (by simp) hclosed (.cons_cons hab hchain)

theorem IsCycle.imp {other : α → α → Prop} (h : IsCycle link path)
    (himp : ∀ a b, link a b → other a b) : IsCycle other path :=
  { h with linked := h.linked.imp himp }

/-- Every element of a path but the first has a link from another one. -/
theorem exists_link_of_mem_tail {b : α} (h : path.IsChain link) (hb : b ∈ path.tail) :
    ∃ a ∈ path, link a b := by
  induction path with
  | nil => exact absurd hb List.not_mem_nil
  | cons x rest ih =>
    cases rest with
    | nil => exact absurd hb List.not_mem_nil
    | cons y rest =>
      obtain ⟨hxy, hrest⟩ := List.isChain_cons_cons.mp h
      rcases List.mem_cons.mp hb with rfl | hb
      · exact ⟨x, List.mem_cons_self .., hxy⟩
      · obtain ⟨a, ha, hab⟩ := ih hrest hb
        exact ⟨a, List.mem_cons_of_mem x ha, hab⟩

theorem exists_link_of_mem_dropLast {a : α} (h : path.IsChain link) (ha : a ∈ path.dropLast) :
    ∃ b, link a b := by
  induction path with
  | nil => exact absurd ha List.not_mem_nil
  | cons x rest ih =>
    cases rest with
    | nil => exact absurd ha List.not_mem_nil
    | cons y rest =>
      obtain ⟨hxy, hrest⟩ := List.isChain_cons_cons.mp h
      rw [List.dropLast_cons_cons] at ha
      rcases List.mem_cons.mp ha with rfl | ha
      · exact ⟨y, hxy⟩
      · exact ih hrest ha

/-- A map that keeps links, and that can be undone where links start, keeps cycles. -/
theorem IsCycle.map {link' : β → β → Prop} {f : α → β} (g : β → α)
    (hlink : ∀ a b, link a b → link' (f a) (f b)) (hinv : ∀ a b, link a b → g (f a) = a)
    (h : IsCycle link path) : IsCycle link' (path.map f) where
  two_le_length := by rw [List.length_map]; exact h.two_le_length
  closed := by rw [List.head?_map, List.getLast?_map, h.closed]
  nodup := by
    rw [← List.map_dropLast]
    refine List.Nodup.of_map g ?_
    rw [List.map_map]
    have hid : path.dropLast.map (g ∘ f) = path.dropLast := by
      refine (List.map_congr_left fun a ha => ?_).trans (List.map_id _)
      obtain ⟨b, hb⟩ := exists_link_of_mem_dropLast h.linked ha
      exact hinv a b hb
    rw [hid]
    exact h.nodup
  linked := (List.isChain_map f).mpr (h.linked.imp fun {a b} => hlink a b)

/-- A link from the end of a path back to one of its elements closes a cycle. The path is given
backwards, from its end. -/
theorem isCycle_roundTrip {link : String → String → Prop} {key next : String} {trail : List String}
    (hlink : link key next) (hnext : next ∈ key :: trail) (hnodup : (key :: trail).Nodup)
    (hchain : (key :: trail).IsChain fun a b => link b a) :
    IsCycle link (Relations.roundTrip (key :: trail) next) := by
  obtain ⟨above, below, hsplit, hnot⟩ := List.eq_append_cons_of_mem hnext
  have htake : (key :: trail).takeWhile (· ≠ next) = above := by
    rw [hsplit, List.takeWhile_append_of_pos fun a ha => ?_]
    · simp
    · simpa using fun h : a = next => hnot (h ▸ ha)
  have hpath : Relations.roundTrip (key :: trail) next = next :: above.reverse ++ [next] := by
    rw [Relations.roundTrip, htake]
  have hreverse : next :: above.reverse ++ [next] = (next :: (above ++ [next])).reverse := by
    simp
  rw [hsplit] at hnodup hchain
  rw [hpath]
  refine ⟨by simp, ?_, ?_, ?_⟩
  · rw [List.getLast?_concat, List.cons_append, List.head?_cons]
  · rw [List.dropLast_concat, List.nodup_cons, List.mem_reverse, List.nodup_reverse]
    exact ⟨hnot, (List.nodup_append.mp hnodup).1⟩
  · rw [hreverse, List.isChain_reverse, List.isChain_cons]
    -- the first link of the path is the new one, the others are those of the trail
    constructor
    · intro first hfirst
      have hkey : first = key := by
        cases above with
        | nil =>
          cases hsplit
          simpa using hfirst.symm
        | cons a above =>
          cases hsplit
          simpa using hfirst.symm
      rw [hkey]
      exact hlink
    · have hprefix : (above ++ [next]) <+: above ++ next :: below := ⟨below, by simp⟩
      exact hchain.prefix hprefix

end Paths

namespace Relations

/-! ## The state of the search -/

/-- Plugins listed so that all arrows of a plugin lead to plugins behind it. -/
inductive Settled (relations : Relations) : List String → Prop where
  | nil : Settled relations []
  | cons {key : String} {done : List String}
      (harrows : ∀ next, relations.Arrow key next → next ∈ done)
      (hdone : Settled relations done) :
      Settled relations (key :: done)

/-- A trail in the middle of the search: from each stop there are arrows to what is ahead of it and
to the stop above, and any other arrow leads to a settled plugin. `above` is the stop above the
whole trail. -/
inductive Underway (relations : Relations) (done : List String) :
    Option String → List Stop → Prop where
  | nil (above : Option String) : Underway relations done above []
  | cons {above : Option String} {key : String} {ahead : List String} {trail : List Stop}
      (hahead : ∀ next ∈ ahead, relations.Arrow key next)
      (habove : ∀ next ∈ above, relations.Arrow key next)
      (hrest : ∀ next, relations.Arrow key next → next ∈ ahead ∨ next ∈ above ∨ next ∈ done)
      (htrail : Underway relations done (some key) trail) :
      Underway relations done above (⟨key, ahead⟩ :: trail)

/-- What holds at each moment of the search. -/
structure SearchState (relations : Relations) (fresh : List String) (trail : List Stop)
    (done : List String) : Prop where
  settled : relations.Settled done
  underway : relations.Underway done none trail
  nodup : (trail.map Stop.key).Nodup
  covered : ∀ key ∈ relations.keys, key ∈ fresh ∨ key ∈ trail.map Stop.key ∨ key ∈ done

variable {relations : Relations} {fresh done ahead : List String} {trail : List Stop}
  {key next : String}

theorem Settled.acc (h : relations.Settled done) (hkey : key ∈ done) :
    Acc (fun next key => relations.Arrow key next) key := by
  induction h generalizing key with
  | nil => exact absurd hkey List.not_mem_nil
  | cons harrows _ ih =>
    rcases List.mem_cons.mp hkey with rfl | hkey
    · exact Acc.intro _ fun next harrow => ih (harrows next harrow)
    · exact ih hkey

theorem grounded_of_settled (h : relations.Settled done) (hall : ∀ key ∈ relations.keys, key ∈ done) :
    relations.Grounded := by
  refine ⟨fun key => ?_⟩
  by_cases hkey : key ∈ relations.keys
  · exact h.acc (hall key hkey)
  · exact Acc.intro key fun next harrow => absurd (mem_keys_of_arrow harrow) hkey

/-- More settled plugins do no harm, and the stop above may turn into one of them. -/
theorem Underway.settle {above : Option String} (h : relations.Underway done above trail) :
    relations.Underway (above.toList ++ done) none trail := by
  have hmono : ∀ {above : Option String} {trail : List Stop} {done done' : List String},
      done ⊆ done' → relations.Underway done above trail →
        relations.Underway done' above trail := by
    intro above trail done done' hsub h
    induction h with
    | nil above => exact .nil above
    | cons hahead habove hrest _ ih =>
      exact .cons hahead habove
        (fun next harrow => (hrest next harrow).imp_right (Or.imp_right (hsub ·))) ih
  cases h with
  | nil => exact .nil none
  | cons hahead habove hrest htrail =>
    refine .cons hahead (by simp) (fun next harrow => ?_)
      (hmono (List.subset_append_right _ _) htrail)
    rcases hrest next harrow with hnext | hnext | hnext
    · exact Or.inl hnext
    · exact Or.inr (Or.inr (List.mem_append_left _ (Option.mem_toList.mpr hnext)))
    · exact Or.inr (Or.inr (List.mem_append_right _ hnext))

/-- Read backwards, the trail is a path along arrows. -/
theorem Underway.isChain {above : Option String} (h : relations.Underway done above trail) :
    (above.toList ++ trail.map Stop.key).IsChain fun a b => relations.Arrow b a := by
  induction h with
  | nil above => cases above <;> simp
  | @cons above key ahead trail _ habove _ _ ih =>
    cases above with
    | none => exact ih
    | some top => exact List.isChain_cons_cons.mpr ⟨habove top rfl, ih⟩

/-! ## The steps of the search -/

theorem SearchState.start (relations : Relations) : relations.SearchState relations.keys [] [] :=
  ⟨.nil, .nil none, List.nodup_nil, fun _ hkey => Or.inl hkey⟩

theorem SearchState.setOut (h : relations.SearchState (key :: fresh) [] done) :
    relations.SearchState fresh [⟨key, relations.afterKeys key⟩] done where
  settled := h.settled
  underway := .cons (fun _ hnext => hnext) (by simp) (fun _ harrow => Or.inl harrow) (.nil _)
  nodup := List.nodup_singleton key
  covered := by
    intro other hother
    rcases h.covered other hother with hfresh | htrail | hdone
    · rcases List.mem_cons.mp hfresh with rfl | hfresh
      · exact Or.inr (Or.inl (List.mem_singleton_self _))
      · exact Or.inl hfresh
    · exact absurd htrail List.not_mem_nil
    · exact Or.inr (Or.inr hdone)

/-- A stop with nothing ahead is settled. -/
theorem SearchState.leave (h : relations.SearchState fresh (⟨key, []⟩ :: trail) done) :
    relations.SearchState fresh trail (key :: done) := by
  cases h.underway with
  | cons _ _ hrest htrail =>
    refine ⟨.cons (fun next harrow => ?_) h.settled, htrail.settle,
      (List.nodup_cons.mp h.nodup).2, fun other hother => ?_⟩
    · rcases hrest next harrow with hnext | hnext | hnext
      · exact absurd hnext List.not_mem_nil
      · exact absurd hnext (by simp)
      · exact hnext
    · rcases h.covered other hother with hfresh | hon | hdone
      · exact Or.inl hfresh
      · rcases List.mem_cons.mp hon with rfl | hon
        · exact Or.inr (Or.inr (List.mem_cons_self ..))
        · exact Or.inr (Or.inl hon)
      · exact Or.inr (Or.inr (List.mem_cons_of_mem _ hdone))

theorem SearchState.enter (h : relations.SearchState fresh (⟨key, next :: ahead⟩ :: trail) done)
    (hnot : next ∉ key :: trail.map Stop.key) :
    relations.SearchState (fresh.erase next)
      (⟨next, relations.afterKeys next⟩ :: ⟨key, ahead⟩ :: trail) done := by
  cases h.underway with
  | cons hahead _ hrest htrail =>
    have hbelow : relations.Underway done (some next) (⟨key, ahead⟩ :: trail) := by
      refine .cons (fun other hother => hahead other (List.mem_cons_of_mem _ hother))
        (fun other hother => ?_) (fun other harrow => ?_) htrail
      · cases hother
        exact hahead next (List.mem_cons_self ..)
      · rcases hrest other harrow with hother | hother | hother
        · rcases List.mem_cons.mp hother with rfl | hother
          · exact Or.inr (Or.inl rfl)
          · exact Or.inl hother
        · exact absurd hother (by simp)
        · exact Or.inr (Or.inr hother)
    refine ⟨h.settled, .cons (fun _ hother => hother) (by simp) (fun _ harrow => Or.inl harrow) hbelow,
      List.nodup_cons.mpr ⟨hnot, h.nodup⟩, fun other hother => ?_⟩
    rcases h.covered other hother with hfresh | hon | hdone
    · by_cases hsame : other = next
      · exact Or.inr (Or.inl (hsame ▸ List.mem_cons_self ..))
      · exact Or.inl ((List.mem_erase_of_ne hsame).mpr hfresh)
    · exact Or.inr (Or.inl (List.mem_cons_of_mem _ hon))
    · exact Or.inr (Or.inr hdone)

/-- An arrow to a plugin that has been left before is passed over: that plugin is settled. -/
theorem SearchState.pass (hclosed : relations.Closed)
    (h : relations.SearchState fresh (⟨key, next :: ahead⟩ :: trail) done)
    (hnot : next ∉ key :: trail.map Stop.key) (hfresh : next ∉ fresh) :
    relations.SearchState fresh (⟨key, ahead⟩ :: trail) done := by
  cases h.underway with
  | cons hahead habove hrest htrail =>
    have harrow : relations.Arrow key next := hahead next (List.mem_cons_self ..)
    have hdone : next ∈ done :=
      ((h.covered next (hclosed key next harrow)).resolve_left hfresh).resolve_left hnot
    refine ⟨h.settled, .cons (fun other hother => hahead other (List.mem_cons_of_mem _ hother))
      habove (fun other hother => ?_) htrail, h.nodup, h.covered⟩
    rcases hrest other hother with hother | hother | hother
    · rcases List.mem_cons.mp hother with rfl | hother
      · exact Or.inr (Or.inr hdone)
      · exact Or.inl hother
    · exact Or.inr (Or.inl hother)
    · exact Or.inr (Or.inr hother)

/-- An arrow back to the trail closes a cycle. -/
theorem SearchState.isCycle (h : relations.SearchState fresh (⟨key, next :: ahead⟩ :: trail) done)
    (hon : next ∈ key :: trail.map Stop.key) :
    IsCycle relations.Arrow (roundTrip (key :: trail.map Stop.key) next) := by
  have hchain := h.underway.isChain
  cases h.underway with
  | cons hahead _ _ _ =>
    exact isCycle_roundTrip (hahead next (List.mem_cons_self ..)) hon h.nodup hchain

/-- **The search ends as it should.** From any state it reaches it finds a cycle, or there is
none. -/
theorem search_spec (hclosed : relations.Closed) (h : relations.SearchState fresh trail done) :
    match relations.search fresh trail with
    | none => relations.Grounded
    | some path => IsCycle relations.Arrow path := by
  fun_induction search relations fresh trail generalizing done with
  | case1 =>
    -- nothing is fresh and nothing is on the trail, so all plugins are settled
    refine grounded_of_settled h.settled fun key hkey => ?_
    rcases h.covered key hkey with hfresh | hon | hdone
    · exact absurd hfresh List.not_mem_nil
    · exact absurd hon List.not_mem_nil
    · exact hdone
  | case2 key fresh ih => exact ih h.setOut
  | case3 fresh key trail ih => exact ih h.leave
  | case4 fresh key next ahead trail hon =>
    have hon : next ∈ key :: trail.map Stop.key := by simpa using hon
    rw [if_pos (List.contains_iff_mem.mpr hon)]
    exact h.isCycle hon
  | case5 fresh key next ahead trail hnot hfresh ih =>
    have hnot : next ∉ key :: trail.map Stop.key := by simpa using hnot
    rw [if_neg (fun hon => hnot (List.contains_iff_mem.mp hon)), if_pos hfresh]
    exact ih (h.enter hnot)
  | case6 fresh key next ahead trail hnot hfresh ih =>
    have hnot : next ∉ key :: trail.map Stop.key := by simpa using hnot
    rw [if_neg (fun hon => hnot (List.contains_iff_mem.mp hon)), if_neg hfresh]
    exact ih (h.pass hclosed hnot hfresh)

/-! ## The names of a cycle

The search works on keys; what it returns are the names under which the plugins are shown. A shown
name has the key that it stands for, so nothing is lost on the way. -/

theorem key_shownName (h : key ∈ relations.keys) : Name.key (relations.shownName key) = key := by
  obtain ⟨node, hnode⟩ := Option.isSome_iff_exists.mp (isSome_find?_iff.mpr h)
  rw [shownName, hnode]
  exact (find?_eq_some_imp hnode).2

theorem exists_node_shownName (h : key ∈ relations.keys) :
    ∃ node ∈ relations.nodes, node.name = relations.shownName key := by
  obtain ⟨node, hnode⟩ := Option.isSome_iff_exists.mp (isSome_find?_iff.mpr h)
  refine ⟨node, (find?_eq_some_imp hnode).1, ?_⟩
  rw [shownName, hnode]
  rfl

theorem shownName_mem_dependenciesOf (h : relations.Arrow key next) :
    relations.shownName next ∈ relations.dependenciesOf (relations.shownName key) := by
  rw [dependenciesOf, key_shownName (mem_keys_of_arrow h)]
  exact List.mem_map_of_mem h

/-- **Without a cycle to report there is none.** -/
theorem grounded_of_findCycle (hclosed : relations.Closed) (h : relations.findCycle = none) :
    relations.Grounded := by
  have hspec := search_spec hclosed (.start relations)
  rw [findCycle, Option.map_eq_none_iff] at h
  rw [show relations.search relations.keys [] = none from h] at hspec
  exact hspec

/-- A reported cycle shows the names of a cycle of keys. -/
theorem exists_isCycle_of_findCycle {path : List String} (hclosed : relations.Closed)
    (h : relations.findCycle = some path) :
    ∃ keyPath, IsCycle relations.Arrow keyPath ∧ path = keyPath.map relations.shownName := by
  have hspec := search_spec hclosed (.start relations)
  rw [findCycle, Option.map_eq_some_iff] at h
  obtain ⟨keyPath, hfound, rfl⟩ := h
  rw [show relations.search relations.keys [] = some keyPath from hfound] at hspec
  exact ⟨keyPath, hspec, rfl⟩

theorem findCycle_eq_none (hclosed : relations.Closed)
    (h : ∀ key, ¬ TransGen relations.Arrow key key) : relations.findCycle = none := by
  -- a reported cycle would lead from a key back to itself
  by_contra hsome
  obtain ⟨path, hpath⟩ := Option.ne_none_iff_exists'.mp hsome
  obtain ⟨keyPath, hcycle, _⟩ := exists_isCycle_of_findCycle hclosed hpath
  obtain ⟨key, hreach⟩ := hcycle.exists_transGen
  exact h key hreach

/-- **The search is sound and complete.** In a graph built by any additions, in any spelling, it
comes back empty-handed exactly when no key leads back to itself along declared arrows. What it comes
back with is a cycle of names: each has the next among the plugins that it has to load after, and all
but the last are the names of different plugins of the graph. -/
theorem findCycle_build (additions : List Addition) :
    ((build additions).findCycle = none ↔ ¬ ∃ key, TransGen (Declared additions) key key) ∧
      ∀ path, (build additions).findCycle = some path →
        IsCycle (fun name next => next ∈ (build additions).dependenciesOf name) path ∧
          ∀ name ∈ path.dropLast, ∃ node ∈ (build additions).nodes, node.name = name := by
  have hclosed := closed_build additions
  have harrows : Declared additions = (build additions).Arrow :=
    funext₂ fun key other => propext arrow_build.symm
  rw [harrows]
  refine ⟨⟨fun hnone => ?_, fun hacyclic => ?_⟩, fun path hpath => ?_⟩
  · rintro ⟨key, hreach⟩
    exact (grounded_of_findCycle hclosed hnone).not_transGen key hreach
  · exact findCycle_eq_none hclosed fun key hreach => hacyclic ⟨key, hreach⟩
  · obtain ⟨keyPath, hcycle, rfl⟩ := exists_isCycle_of_findCycle hclosed hpath
    refine ⟨hcycle.map Name.key (fun a b => shownName_mem_dependenciesOf)
      (fun a b harrow => key_shownName (mem_keys_of_arrow harrow)), fun name hname => ?_⟩
    rw [← List.map_dropLast, List.mem_map] at hname
    obtain ⟨key, hkey, rfl⟩ := hname
    obtain ⟨next, harrow⟩ := exists_link_of_mem_dropLast hcycle.linked hkey
    exact exists_node_shownName (mem_keys_of_arrow harrow)

end Relations

end LoadOrder.Order
