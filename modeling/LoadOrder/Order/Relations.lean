import LoadOrder.Order.Error
import LoadOrder.Plugin

/-!
# Explicit relations within a batch

A directed graph on plugins: an arrow goes from a plugin to each plugin that it has to load after.
Plugins are told apart by the keys of their names and shown under the name first used. A relation to
a plugin outside the batch does not count, and neither does the wish of a master to load after a
plugin that is none.
-/

namespace LoadOrder.Order

/-- A plugin and the keys of the plugins that it has to load after. -/
structure Node where
  name : String
  after : List String := []
deriving Repr, DecidableEq

/-- What tells the plugin apart. -/
def Node.key (node : Node) : String := Name.key node.name

/-- The node with one more arrow; arrows are not doubled. -/
def Node.addArrow (node : Node) (target : String) : Node :=
  if node.after.contains target then node else { node with after := node.after ++ [target] }

/-- The plugins of a batch and the arrows between them, in the order of their arrival. -/
structure Relations where
  nodes : List Node := []
deriving Repr, DecidableEq

namespace Relations

def find? (relations : Relations) (key : String) : Option Node :=
  relations.nodes.find? (·.key == key)

/-- The graph with a plugin in it. -/
def addNode (relations : Relations) (name : String) : Relations :=
  match relations.find? (Name.key name) with
  | some _ => relations
  | none => ⟨relations.nodes ++ [{ name }]⟩

/-- The graph with an arrow from a plugin to one that it has to load after. -/
def addArrow (relations : Relations) (plugin dependency : String) : Relations :=
  let nodes := ((relations.addNode plugin).addNode dependency).nodes
  ⟨nodes.map fun node =>
    if node.key = Name.key plugin then node.addArrow (Name.key dependency) else node⟩

/-- The keys of the plugins that the plugin with a key has to load after. -/
def afterKeys (relations : Relations) (key : String) : List String :=
  ((relations.find? key).map Node.after).getD []

/-- The name under which the plugin with a key is shown. -/
def shownName (relations : Relations) (key : String) : String :=
  ((relations.find? key).map Node.name).getD key

/-- The plugins that a plugin has to load after. -/
def dependenciesOf (relations : Relations) (name : String) : List String :=
  (relations.afterKeys (Name.key name)).map relations.shownName

/-- Whether the batch holds an arrow from the first plugin to the second. -/
def relates (plugin other : Plugin) : Bool :=
  !plugin.isNamed other.name && !(plugin.isMaster && !other.isMaster) && plugin.mustFollow other

/-- The graph with the arrows from one plugin to the others of a batch. -/
def addArrowsOf (batch : List Plugin) (relations : Relations) (plugin : Plugin) : Relations :=
  (batch.filter (relates plugin)).foldl
    (fun relations other => relations.addArrow plugin.name other.name) relations

def ofPlugins (batch : List Plugin) : Relations :=
  batch.foldl (addArrowsOf batch)
    (batch.foldl (fun relations plugin => relations.addNode plugin.name) {})

end Relations

end LoadOrder.Order
