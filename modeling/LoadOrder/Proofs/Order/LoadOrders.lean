import LoadOrder.Proofs.Order.LenientSort
import LoadOrder.Proofs.Order.StrictSort

/-!
# Load orders in either mode

The two modes of sorting differ in what they refuse, not in what they return: both return the plugins
of a run of the placement that empties the queue, and strict mode asks for a batch without cycles
first. On such a batch neither mode fails, and every run that strict mode takes is one that lenient
mode takes (`Trace.of_strict`).

* **`sort_lenient_extends`**: lenient mode never fails, and strict mode returns what it returns or
  nothing.
-/

namespace LoadOrder.Order

variable {strictness : Strictness} {batch placed out : List Plugin} {queue last : List Waiting}

/-! ## Runs in strict mode -/

theorem candidates_of_strict {positions : List (Fin queue.length)}
    (h : candidates .strict queue = .ok positions) : candidates strictness queue = .ok positions := by
  unfold candidates at h ⊢
  split at h
  · exact absurd h (by simp)
  · exact h

theorem pick_of_strict {best i : Fin queue.length} {others : List (Fin queue.length)}
    (h : pick .strict queue best others = .ok i) : pick strictness queue best others = .ok i := by
  fun_induction pick .strict queue best others with
  | case1 best => exact h
  | case2 => exact absurd h (by simp)
  | case3 best j others hprec ih =>
    rw [pick, precedes_of_strict hprec]
    exact ih h
  | case4 best j others hprec ih =>
    rw [pick, precedes_of_strict hprec]
    exact ih h

theorem Chooses.of_strict {i : Fin queue.length} (h : Chooses .strict queue i) :
    Chooses strictness queue i := by
  obtain ⟨best, others, hcandidates, hpick⟩ := h
  exact ⟨best, others, candidates_of_strict hcandidates, pick_of_strict hpick⟩

/-- **What strict mode does, either mode does.** -/
theorem Trace.of_strict (h : Trace .strict queue placed last) : Trace strictness queue placed last := by
  induction h with
  | nil queue => exact .nil queue
  | cons hchooses _ ih => exact .cons hchooses.of_strict ih

/-! ## Sorting -/

/-- A batch without cycles is placed in either mode. -/
theorem sort_of_acyclic (strictness : Strictness)
    (h : ∀ key, ¬ Relation.TransGen (Relations.ofPlugins batch).Arrow key key) :
    sort strictness batch = placeAll strictness (queueOf (Relations.ofPlugins batch) batch) := by
  cases strictness with
  | lenient => exact sort_lenient_eq batch
  | strict => exact sort_strict_of_ok (checkCycles_of_acyclic h)

/-- A batch without cycles has a load order in either mode. -/
theorem exists_sort_of_acyclic (strictness : Strictness)
    (h : ∀ key, ¬ Relation.TransGen (Relations.ofPlugins batch).Arrow key key) :
    ∃ out, sort strictness batch = .ok out := by
  cases strictness with
  | lenient => exact exists_sort_lenient batch
  | strict =>
    obtain ⟨out, hout, _⟩ := exists_sort_strict (checkCycles_of_acyclic h)
    exact ⟨out, hout⟩

/-- **What sorting returns.** The plugins of a run of the placement that empties the queue; in strict
mode, of a batch without cycles. -/
theorem sort_eq_ok_iff :
    sort strictness batch = .ok out
      ↔ (strictness = .strict → (Relations.ofPlugins batch).Grounded) ∧
        Trace strictness (queueOf (Relations.ofPlugins batch) batch) out [] := by
  cases strictness with
  | lenient =>
    rw [sort_lenient_eq, placeAll_eq_ok_iff]
    exact (and_iff_right fun hstrict => absurd hstrict (by decide)).symm
  | strict =>
    constructor
    · intro h
      obtain ⟨hgrounded, htrace⟩ := trace_of_sort_strict h
      exact ⟨fun _ => hgrounded, htrace⟩
    · rintro ⟨hgrounded, htrace⟩
      rw [sort_of_acyclic .strict (hgrounded rfl).not_transGen]
      exact placeAll_eq_ok_iff.mpr htrace

theorem sort_lenient_of_strict (h : sort .strict batch = .ok out) : sort .lenient batch = .ok out := by
  obtain ⟨_, htrace⟩ := sort_eq_ok_iff.mp h
  exact sort_eq_ok_iff.mpr ⟨fun hstrict => absurd hstrict (by decide), htrace.of_strict⟩

theorem checkCycles_of_sort_strict (h : sort .strict batch = .ok out) :
    (Relations.ofPlugins batch).checkCycles = .ok () := by
  obtain ⟨hgrounded, _⟩ := sort_eq_ok_iff.mp h
  exact checkCycles_of_acyclic (hgrounded rfl).not_transGen

/-- **Lenient mode extends strict mode.** On any batch, names that agree included, lenient sorting
returns the same records. Strict mode is the check for cycles in front of it: where the check passes
both modes return one load order, and strict mode returns no other. -/
theorem sort_lenient_extends (batch : List Plugin) :
    (∃ out, sort .lenient batch = .ok out ∧ out.Perm batch) ∧
      ∀ out, sort .strict batch = .ok out
        ↔ (Relations.ofPlugins batch).checkCycles = .ok () ∧ sort .lenient batch = .ok out := by
  constructor
  · obtain ⟨out, hout⟩ := exists_sort_lenient batch
    exact ⟨out, hout, perm_of_trace (sort_eq_ok_iff.mp hout).2⟩
  · intro out
    constructor
    · exact fun h => ⟨checkCycles_of_sort_strict h, sort_lenient_of_strict h⟩
    · rintro ⟨hcheck, hlenient⟩
      -- strict mode has a load order too, and lenient mode returns just that
      obtain ⟨out', hstrict, _⟩ := exists_sort_strict hcheck
      have hsame : out' = out := Except.ok.inj ((sort_lenient_of_strict hstrict).symm.trans hlenient)
      rw [← hsame]
      exact hstrict

theorem crossedBatch_extends :
    sort .strict crossedBatch = .ok [crossedBatch[3], crossedBatch[0], crossedBatch[2], crossedBatch[1]] ∧
      sort .lenient crossedBatch
        = .ok [crossedBatch[3], crossedBatch[0], crossedBatch[2], crossedBatch[1]] := by
  obtain ⟨_, hextends⟩ := sort_lenient_extends crossedBatch
  exact ⟨sort_strict_crossedBatch, ((hextends _).mp sort_strict_crossedBatch).2⟩

end LoadOrder.Order
