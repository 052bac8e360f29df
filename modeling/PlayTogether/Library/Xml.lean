import PlayTogether.Library.Bytes

/-! XML documents as a parser delivers them: names and values are resolved and texts are
decoded. The parser itself is outside this development. -/

namespace PlayTogether.Library

structure XmlAttribute where
  uri : Option Bytes
  name : Bytes
  value : Bytes
  deriving DecidableEq

/-- Comments and processing instructions are of one kind here. -/
inductive XmlNode where
  | element (uri : Option Bytes) (name : Bytes) (attributes : List XmlAttribute) (children : List XmlNode)
  | text (content : Bytes)
  | other

namespace XmlNode

def isElement : XmlNode → Bool
  | .element .. => true
  | .text _ | .other => false

/-- The local name; only elements have one. -/
def tagName : XmlNode → Bytes
  | .element _ name _ _ => name
  | .text _ | .other => []

def tagUri : XmlNode → Option Bytes
  | .element uri _ _ _ => uri
  | .text _ | .other => none

def children : XmlNode → List XmlNode
  | .element _ _ _ children => children
  | .text _ | .other => []

def elementChildren (node : XmlNode) : List XmlNode := node.children.filter isElement

/-- The value of an attribute that is in no namespace. -/
def attributeOf (name : String) : XmlNode → Option Bytes
  | .element _ _ attributes _ =>
    (attributes.find? fun entry => entry.uri.isNone && entry.name == ascii name).map XmlAttribute.value
  | .text _ | .other => none

/-- The text of a text node, or of the text that an element begins with. -/
def textOf : XmlNode → Option Bytes
  | .element _ _ _ (.text content :: _) => some content
  | .element .. => none
  | .text content => some content
  | .other => none

end XmlNode

mutual

/-- A node and all nodes below it in document order, each with the number of elements on
the way to it, itself included. -/
def nodesAt (depth : Nat) : XmlNode → List (Nat × XmlNode)
  | .element uri name attributes children =>
    (depth + 1, .element uri name attributes children) :: nodesBelow (depth + 1) children
  | .text content => [(depth, .text content)]
  | .other => [(depth, .other)]

def nodesBelow (depth : Nat) : List XmlNode → List (Nat × XmlNode)
  | [] => []
  | node :: rest => nodesAt depth node ++ nodesBelow depth rest

end

def XmlNode.descendants (node : XmlNode) : List XmlNode := (nodesAt 0 node).map Prod.snd

theorem nodesBelow_of_leaves {children : List XmlNode} (leaves : children.any XmlNode.isElement = false) (depth : Nat) :
    ((nodesBelow depth children).map Prod.snd).filter XmlNode.isElement = [] := by
  induction children with
  | nil => rfl
  | cons child rest ih =>
    rw [List.any_cons, Bool.or_eq_false_iff] at leaves
    obtain ⟨leaf, leaves⟩ := leaves
    cases child with
    | element => cases leaf
    | text content => exact ih leaves
    | other => exact ih leaves

/-- An element without elements below it is its only element. -/
theorem XmlNode.descendants_of_leaves {node : XmlNode} (element : node.isElement = true)
    (leaves : node.children.any XmlNode.isElement = false) : node.descendants.filter XmlNode.isElement = [node] := by
  cases node with
  | text content => cases element
  | other => cases element
  | element uri name attributes children =>
    have below := nodesBelow_of_leaves leaves 1
    change XmlNode.element uri name attributes children :: ((nodesBelow 1 children).map Prod.snd).filter _ = _
    exact congrArg _ below

/-! ## Texts cut into runs -/

/-- The texts among some nodes, one by one. -/
def textNodes : List XmlNode → List Bytes
  | [] => []
  | .text content :: rest => content :: textNodes rest
  | .element .. :: rest | .other :: rest => textNodes rest

/-- The texts directly below a node, parted where an element stands between them. -/
def XmlNode.textGroups (node : XmlNode) : List (List Bytes) := (node.children.splitOnP isElement).map textNodes

theorem XmlNode.textGroups_of_leaves {node : XmlNode} (leaves : node.children.any isElement = false) :
    node.textGroups = [textNodes node.children] := by
  have apart : ∀ child ∈ node.children, child.isElement = false := by
    intro child member
    exact Bool.eq_false_iff.mpr (List.any_eq_false.mp leaves child member)
  rw [textGroups, List.splitOnP_eq_singleton apart]
  rfl

section Runs
variable {α β : Type} (carried : List α → List β)

/-- The longest front that carries something. -/
def firstRun (pieces : List α) : List α :=
  (pieces.inits.reverse.find? fun run => !(carried run).isEmpty).getD []

/-- What pieces carry that are cut into runs from the front, each run as long as it can be. The
number counts the pieces of the last run that are still to be passed over. -/
def carriedRuns : Nat → List α → List β
  | _, [] => []
  | passed + 1, _ :: rest => carriedRuns passed rest
  | 0, piece :: rest => carried (firstRun carried (piece :: rest)) ++
      carriedRuns ((firstRun carried (piece :: rest)).length - 1) rest

/-- What the runs behind the first one carry. -/
def runsBehind : List α → List β
  | [] => []
  | piece :: rest => carriedRuns carried ((firstRun carried (piece :: rest)).length - 1) rest

/-- What is left when some pieces at the front were read. -/
def unread (read pieces : List α) : List β :=
  if (carried read).isEmpty then carriedRuns carried 0 pieces else runsBehind carried pieces

variable {carried} {pieces read : List α}

/-- The first run carries as much as a front does that none with something in it differs from. -/
theorem firstRun_carries (front : read <+: pieces) (filled : carried read ≠ [])
    (alike : ∀ run, run <+: pieces → carried run ≠ [] → carried run = carried read) :
    carried (firstRun carried pieces) = carried read := by
  have found : ∃ run ∈ pieces.inits.reverse, (!(carried run).isEmpty) = true := by
    refine ⟨read, List.mem_reverse.mpr ((List.mem_inits read pieces).mpr front), ?_⟩
    simpa using filled
  unfold firstRun
  cases looked : pieces.inits.reverse.find? fun run => !(carried run).isEmpty with
  | none =>
    obtain ⟨run, member, carries⟩ := found
    exact absurd carries (List.find?_eq_none.mp looked run member)
  | some run =>
    have member := List.mem_reverse.mp (List.mem_of_find?_eq_some looked)
    have carries := @List.find?_some _ (fun run => !(carried run).isEmpty) _ _ looked
    exact alike run ((List.mem_inits run pieces).mp member) (by simpa using carries)

theorem firstRun_nil : firstRun carried [] = [] := by
  unfold firstRun
  rw [List.inits, List.reverse_singleton, List.find?_singleton]
  split <;> rfl

/-- Pieces that carry something together are one run. -/
theorem firstRun_whole (filled : carried pieces ≠ []) : firstRun carried pieces = pieces := by
  have order : pieces.inits.reverse = (pieces.reverse.tails).map List.reverse := by
    rw [List.inits_eq_tails, List.reverse_reverse]
  cases turned : pieces.reverse with
  | nil =>
    rw [List.reverse_eq_nil_iff.mp turned]
    exact firstRun_nil
  | cons last rest =>
    rw [turned] at order
    unfold firstRun
    rw [order]
    have whole : (last :: rest).reverse = pieces := by rw [← turned, List.reverse_reverse]
    rw [List.tails, List.map_cons, whole, List.find?_cons_of_pos (by simpa using filled)]
    rfl

/-- What was read and what was not are all that the pieces carry. -/
theorem carriedRuns_split (empty : carried [] = [])
    (first : carried read ≠ [] → carried (firstRun carried pieces) = carried read) :
    carriedRuns carried 0 pieces = carried read ++ unread carried read pieces := by
  unfold unread
  by_cases nothing : carried read = []
  · rw [nothing]
    rfl
  · rw [if_neg (by simpa using nothing), ← first nothing]
    cases pieces with
    | nil =>
      have same := first nothing
      rw [firstRun_nil, empty] at same
      exact absurd same.symm nothing
    | cons piece rest => rfl

end Runs

/-- A document has one element at the top, with comments and instructions around it. -/
structure XmlDocument where
  before : Nat
  rootElement : XmlNode
  after : Nat
  isElement : rootElement.isElement = true

/-- All nodes, the document itself first. -/
def XmlDocument.nodes (document : XmlDocument) : List (Nat × XmlNode) :=
  List.replicate (1 + document.before) (0, .other) ++ nodesAt 0 document.rootElement ++
    List.replicate document.after (0, .other)

end PlayTogether.Library
