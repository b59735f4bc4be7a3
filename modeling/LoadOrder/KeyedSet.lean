/-!
# Sets of keyed things

A `KeyedSet` holds things that are told apart by a key, at most one for each key, in the order of
their keys. The list is the whole representation, and it is canonical: `KeyedSet.ext_find?`, beside
the laws of the operations in `KeyedSet.Lemmas`, says that two sets with the same look-ups are equal.
-/

namespace LoadOrder

/-- Things of type `α` are told apart by a key of type `κ`. -/
class Keyed (α : Type) (κ : outParam Type) where
  key : α → κ

variable {α κ : Type} [Keyed α κ] [Ord κ]

/-- The key of `x` is smaller than the key of `y`. -/
def Keyed.Before (x y : α) : Prop :=
  compare (Keyed.key x) (Keyed.key y) = .lt

/-- Whether `x` has the key `k`. -/
def Keyed.hasKey (k : κ) (x : α) : Bool := compare (Keyed.key x) k == .eq

/-- Things in the strictly increasing order of their keys. -/
structure KeyedSet (α : Type) {κ : Type} [Keyed α κ] [Ord κ] where
  toList : List α
  increasing : toList.Pairwise Keyed.Before

namespace KeyedSet

instance [DecidableEq α] : DecidableEq (KeyedSet α) := fun s t =>
  decidable_of_iff (s.toList = t.toList) (by cases s; cases t; simp)

instance [BEq α] : BEq (KeyedSet α) := ⟨fun s t => s.toList == t.toList⟩

instance [Repr α] : Repr (KeyedSet α) := ⟨fun s prec => reprPrec s.toList prec⟩

/-- The set that holds nothing. -/
def empty : KeyedSet α := ⟨[], .nil⟩

instance : EmptyCollection (KeyedSet α) := ⟨empty⟩

instance : Inhabited (KeyedSet α) := ⟨∅⟩

/-- How many things the set holds. -/
def size (s : KeyedSet α) : Nat := s.toList.length

/-- Whether the set holds nothing. -/
def isEmpty (s : KeyedSet α) : Bool := s.toList.isEmpty

/-- The thing with the given key. -/
def find? (s : KeyedSet α) (k : κ) : Option α :=
  s.toList.find? (Keyed.hasKey k)

/-- Whether the set holds a thing with the given key. -/
def contains (s : KeyedSet α) (k : κ) : Bool := (s.find? k).isSome

/-- The things that pass a test. -/
def filter (s : KeyedSet α) (keep : α → Bool) : KeyedSet α :=
  ⟨s.toList.filter keep, s.increasing.filter keep⟩

/-- The elements of a list whose marks are set; elements without a mark are left out. -/
def marked : (marks : List Bool) → List α → List α
  | true :: marks, x :: xs => x :: marked marks xs
  | false :: marks, _ :: xs => marked marks xs
  | _, _ => []

omit [Keyed α κ] [Ord κ] in
theorem marked_sublist (marks : List Bool) (xs : List α) : (marked marks xs).Sublist xs := by
  fun_induction marked marks xs with
  | case1 _ _ _ ih => exact ih.cons_cons _
  | case2 _ _ _ ih => exact ih.cons _
  | case3 => exact List.nil_sublist _

omit [Keyed α κ] [Ord κ] in
theorem marked_map (keep : α → Bool) (xs : List α) :
    marked (xs.map keep) xs = xs.filter keep := by
  induction xs with
  | nil => rfl
  | cons x xs ih => cases h : keep x <;> simp [marked, h, ih]

/-- The things whose marks are set, in the order of the keys. -/
def filterMarked (s : KeyedSet α) (marks : List Bool) : KeyedSet α :=
  ⟨marked marks s.toList, s.increasing.sublist (marked_sublist marks s.toList)⟩

theorem filterMarked_map (s : KeyedSet α) (keep : α → Bool) :
    s.filterMarked (s.toList.map keep) = s.filter keep := by
  simp [filterMarked, filter, marked_map]

/-- The things of one increasing list whose keys another one has, too. The two are walked side by side:
what comes before the next thing of the one is passed over in the other. -/
def walkCommon : List α → List α → List α
  | [], _ => []
  | x :: xs, ys =>
    match ys.dropWhile fun y => compare (Keyed.key y) (Keyed.key x) == .lt with
    | [] => []
    | y :: rest =>
      if compare (Keyed.key x) (Keyed.key y) = .eq then x :: walkCommon xs rest
      else walkCommon xs (y :: rest)

theorem walkCommon_sublist (xs ys : List α) : (walkCommon xs ys).Sublist xs := by
  fun_induction walkCommon xs ys with
  | case1 => exact List.nil_sublist _
  | case2 => exact List.nil_sublist _
  | case3 _ _ _ _ _ _ _ ih => exact ih.cons_cons _
  | case4 _ _ _ _ _ _ _ ih => exact ih.cons _

/-- Whether the last key of one set is the first key of the other. -/
def meetsAtEnd (s t : KeyedSet α) : Bool :=
  s.toList.getLast?.any fun x => t.toList.head?.any (Keyed.hasKey (Keyed.key x))

/-- How many times larger a set has to be for looking things up in it to pay. -/
def lookUpFactor : Nat := 16

/-- The things whose keys both sets have, as the first set holds them. If the second set is much smaller,
its things are looked up in the first instead, and it is they that are taken; they are not if the sets
only meet where one of them ends. -/
def common (s t : KeyedSet α) : KeyedSet α :=
  if t.size ≤ s.size / lookUpFactor && !(meetsAtEnd s t || meetsAtEnd t s) then
    t.filter fun y => s.contains (Keyed.key y)
  else ⟨walkCommon s.toList t.toList, s.increasing.sublist (walkCommon_sublist ..)⟩

/-- The set without the thing that has the given key. -/
def erase (s : KeyedSet α) (k : κ) : KeyedSet α :=
  s.filter (!Keyed.hasKey k ·)

/-- `x` put at its place in an increasing list, instead of the thing with the same key if there is
one. -/
def place (x : α) : List α → List α
  | [] => [x]
  | y :: rest =>
    match compare (Keyed.key x) (Keyed.key y) with
    | .lt => x :: y :: rest
    | .eq => x :: rest
    | .gt => y :: place x rest

theorem mem_of_mem_place {x z : α} {xs : List α} (h : z ∈ place x xs) : z = x ∨ z ∈ xs := by
  induction xs with
  | nil => simpa [place] using h
  | cons y rest ih =>
    simp only [place] at h
    split at h
    · simpa using h
    · exact (List.mem_cons.1 h).imp_right (List.mem_cons_of_mem y)
    · rcases List.mem_cons.1 h with rfl | h
      · exact .inr (List.mem_cons_self ..)
      · exact (ih h).imp_right (List.mem_cons_of_mem y)

/-- The thing in an increasing list that gives way when `x` is put at its place. -/
def displaced? (x : α) : List α → Option α
  | [] => none
  | y :: rest =>
    match compare (Keyed.key x) (Keyed.key y) with
    | .lt => none
    | .eq => some y
    | .gt => displaced? x rest

/-- The thing in the set that gives way when `x` is put in. -/
def replaced? (s : KeyedSet α) (x : α) : Option α := displaced? x s.toList

variable [Std.TransOrd κ]

theorem increasing_place (x : α) {xs : List α} (h : xs.Pairwise Keyed.Before) :
    (place x xs).Pairwise Keyed.Before := by
  induction xs with
  | nil => simp [place]
  | cons y rest ih =>
    have hy := List.pairwise_cons.1 h
    simp only [place]
    split
    · next hxy =>
      refine List.pairwise_cons.2 ⟨fun z hz => ?_, h⟩
      rcases List.mem_cons.1 hz with rfl | hz
      · exact hxy
      · exact Std.TransCmp.lt_trans hxy (hy.1 z hz)
    · next hxy =>
      exact List.pairwise_cons.2 ⟨fun z hz => Std.TransCmp.lt_of_eq_of_lt hxy (hy.1 z hz), hy.2⟩
    · next hxy =>
      refine List.pairwise_cons.2 ⟨fun z hz => ?_, ih hy.2⟩
      rcases mem_of_mem_place hz with rfl | hz
      · exact Std.OrientedCmp.lt_of_gt hxy
      · exact hy.1 z hz

/-- The set with `x` in it; a thing with the same key gives way to it. -/
def insert (s : KeyedSet α) (x : α) : KeyedSet α :=
  ⟨place x s.toList, increasing_place x s.increasing⟩

/-- The set with `x` in it, unless it already holds a thing with the same key. -/
def insertNew (s : KeyedSet α) (x : α) : KeyedSet α :=
  if s.contains (Keyed.key x) then s else s.insert x

/-- The set with all the things in it, put in one after the other. -/
def insertAll (s : KeyedSet α) (xs : List α) : KeyedSet α := xs.foldl insert s

/-- The set with the things in it whose keys are not taken, put in one after the other. -/
def insertAllNew (s : KeyedSet α) (xs : List α) : KeyedSet α := xs.foldl insertNew s

/-- The set of the listed things; of two with the same key the later stays. -/
def ofList (xs : List α) : KeyedSet α := insertAll ∅ xs

end KeyedSet

end LoadOrder
