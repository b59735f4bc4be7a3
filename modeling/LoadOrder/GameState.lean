import LoadOrder.Name

/-!
# The state of a game

Which files are installed and which plugins are active, by the keys of their names.
-/

namespace LoadOrder

/-- What conditions are decided against. -/
structure GameState where
  /-- The keys of the installed files. -/
  installed : List String := []
  /-- The keys of the active plugins. -/
  active : List String := []
deriving Repr, DecidableEq

namespace GameState

/-- The state with one more file installed. -/
def addFile (state : GameState) (name : String) : GameState :=
  { state with installed := Name.key name :: state.installed }

/-- The state with more files installed. -/
def addFiles (state : GameState) (names : List String) : GameState :=
  names.foldl addFile state

/-- The state with one more plugin active. -/
def activate (state : GameState) (name : String) : GameState :=
  { state with active := Name.key name :: state.active }

/-- The state with more plugins active. -/
def activateAll (state : GameState) (names : List String) : GameState :=
  names.foldl activate state

def isInstalled (state : GameState) (name : String) : Bool :=
  state.installed.contains (Name.key name)

def isActive (state : GameState) (name : String) : Bool :=
  state.active.contains (Name.key name)

/-! ### Characterization -/

theorem isInstalled_addFiles (state : GameState) (names : List String) (name : String) :
    (state.addFiles names).isInstalled name =
      (state.isInstalled name || names.any fun n => Name.key n == Name.key name) := by
  induction names generalizing state with
  | nil => simp [addFiles]
  | cons n names ih =>
    have hn : (state.addFile n).isInstalled name =
        (state.isInstalled name || Name.key n == Name.key name) := by
      simp only [isInstalled, addFile, List.contains_cons]
      rw [Bool.or_comm, Bool.beq_comm]
    have := ih (state.addFile n)
    simp only [addFiles, List.foldl_cons, List.any_cons] at this ⊢
    rw [this, hn, Bool.or_assoc]

end GameState

end LoadOrder
