import LoadOrder.Text.Case

/-!
# Names

Plugins, files and tags are known by names whose letter case does not count. Two names denote the
same thing when their keys are equal; the key is the name in lower case. All comparison of names in
this library goes through `Name.key` and `Name.agree`.
-/

namespace LoadOrder.Name

/-- What is left of a name once letter case is disregarded. -/
def key (name : String) : String :=
  String.ofList (Text.lower name.toList)

/-- Whether two names differ at most in the case of ASCII letters. -/
def agreeInAscii (a b : String) : Bool :=
  a.toList.map Char.toLower == b.toList.map Char.toLower

/-- Whether two names denote the same thing. -/
def agree (a b : String) : Bool :=
  -- most names are ASCII, so the cheap comparison comes before the keys are formed
  agreeInAscii a b || key a == key b

/-! ### Characterization -/

theorem agree_of_key_eq {a b : String} (h : key a = key b) : agree a b = true := by
  simp [agree, h]

@[simp] theorem agree_self (a : String) : agree a a = true :=
  agree_of_key_eq rfl

theorem agree_comm (a b : String) : agree a b = agree b a := by
  simp only [agree, agreeInAscii, Bool.beq_comm]

end LoadOrder.Name
