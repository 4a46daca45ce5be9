import CalculatorTrials.Workspace.Access

/-!
# File states

A file state says what each place of a file tree holds. A place is a list of
names, the innermost first. Paths start at the place without names, and the
folders above it are named `..`, one name for each step up. Besides the tree
there is one device, which takes the empty text and no other.
-/

namespace CalculatorTrials

/-- What a place holds. -/
inductive Node where
  | file (content : ByteArray)
  | folder

/-- What every place holds. -/
structure Files where
  /-- The node at a place, if there is one. The folder where paths start and
  those above it are there whatever this says about them. -/
  nodes : List String → Option Node

namespace Files

/-- The path of the device without space. -/
def fullDevice : String := "/dev/full"

/-- The most bytes that a name may have. -/
def longestName : Nat := 255

/-- The most bytes that a path may have. -/
def longestPath : Nat := 4095

/-- The state without files. -/
def empty : Files := ⟨fun _ => none⟩

/-- Whether a place is the folder where paths start or one above it. -/
def isTop (place : List String) : Bool :=
  place.head?.all (· == "..")

/-- The node at a place. -/
def node? (files : Files) (place : List String) : Option Node :=
  if isTop place then some .folder else files.nodes place

/-- Give a place a node. -/
def put (files : Files) (place : List String) (node : Node) : Files :=
  ⟨fun other => if other = place then some node else files.nodes other⟩

theorem node?_put_same
    (files : Files)
    {place : List String}
    (node : Node)
    (below : isTop place = false) :
    (files.put place node).node? place = some node := by
  simp [put, node?, below]

/-- Only the given place gets a node. -/
theorem node?_put_other
    (files : Files)
    {place other : List String}
    (node : Node)
    (different : other ≠ place) :
    (files.put place node).node? other = files.node? other := by
  simp [put, node?, different]

/-- The place one step up. -/
def above (place : List String) : List String :=
  if isTop place then ".." :: place else place.tail

/-- The place that a name leads to. The empty name and a dot stay. -/
def child
    (place : List String)
    (name : String) : Except FileFault (List String) :=
  if name = "" ∨ name = "." then .ok place
  else if name = ".." then .ok (above place)
  else if longestName < name.utf8ByteSize then .error .nameTooLong
  else .ok (name :: place)

/-- The folder that a name leads to. -/
def enter
    (files : Files)
    (place : List String)
    (name : String) : Except FileFault (List String) := do
  let place ← child place name
  match files.node? place with
  | some .folder => .ok place
  | some (.file _) => .error .notDirectory
  | none => .error .notFound

/-- The place that names lead to. All but the last have to name folders. -/
def follow
    (files : Files)
    (names : List String) : Except FileFault (List String) := do
  child (← names.dropLast.foldlM files.enter []) (names.getLastD "")

/-- The names of a path, the outermost first. No path leads from the root of
the system into the tree. -/
def names (path : String) : Except FileFault (List String) :=
  if path.contains '\x00' then .error .nulInPath
  else if longestPath < path.utf8ByteSize then .error .nameTooLong
  else
    match path.splitOn "/" with
    | [""] | "" :: _ => .error .notFound
    | names => .ok names

/-- The names in front of the empty names at the end. -/
def dropTrailing (names : List String) : List String :=
  (names.reverse.dropWhile (· == "")).reverse

/-- The place that names lead to when a file is to be made there. Names with an
empty name at their end ask for a folder, which no file can be. -/
def followNew
    (files : Files)
    (names : List String) : Except FileFault (List String) := do
  let given := dropTrailing names
  let name := given.getLastD ""
  if given.length < names.length ∧ name ≠ "." ∧ name ≠ ".." then
    discard <| given.dropLast.foldlM files.enter []
    .error .isDirectory
  else files.follow names

/-- The bytes of a file. -/
def read (files : Files) (path : String) : Except FileFault ByteArray := do
  match files.node? (← files.follow (← names path)) with
  | some (.file content) => .ok content
  | some .folder => .error .isDirectory
  | none => .error .notFound

/-- The place of the file that a path leads to when it is to be replaced, or
none for the device. -/
def target?
    (files : Files)
    (path : String) : Except FileFault (Option (List String)) := do
  if path = fullDevice then return none
  let place ← files.followNew (← names path)
  match files.node? place with
  | some .folder => .error .isDirectory
  | some (.file _) | none => .ok (some place)

/-- Replace a file by bytes, of which it is known whether there are any. -/
def replace
    (files : Files)
    (path : String)
    (isEmpty : Bool)
    (content : Thunk ByteArray) : Except FileFault Files := do
  match ← files.target? path with
  | none => if isEmpty then .ok files else .error .noSpace
  | some place => .ok (files.put place (.file content.get))

/-- Replace a file by bytes. -/
def write
    (files : Files)
    (path : String)
    (content : ByteArray) : Except FileFault Files :=
  files.replace path content.isEmpty (Thunk.pure content)

/-- Make the folder of a name in a place, unless it is there. -/
def makeChild
    (here : Files × List String)
    (name : String) : Except FileFault (Files × List String) := do
  let (files, place) := here
  let place ← child place name
  match files.node? place with
  | some .folder => .ok (files, place)
  | some (.file _) => .error .notDirectory
  | none => .ok (files.put place .folder, place)

/-- Make a folder, and the folders on the way to it. -/
def makeFolder (files : Files) (path : String) : Except FileFault Files :=
  return (← (← names path).foldlM makeChild (files, [])).1

/-- The text of a file. -/
def readText (files : Files) (path : String) : Except FileFault String := do
  match String.fromUTF8? (← files.read path) with
  | some text => .ok text
  | none => .error .notText

/-- Replace a file by a text. -/
def writeText
    (files : Files)
    (path : String)
    (draft : Draft) : Except FileFault Files :=
  files.replace path draft.isEmpty (draft.text.map String.toUTF8)

end Files

/-- A workspace whose files are a file state. -/
structure Workspace where
  files : Files
  journal : Array Entry

instance : MonadWorkspace (StateM Workspace) where
  readText path workspace := (workspace.files.readText path, workspace)
  writeText path draft workspace :=
    match workspace.files.writeText path draft with
    | .ok files => (.ok (), { workspace with files })
    | .error fault => (.error fault, workspace)
  record entry workspace :=
    ((), { workspace with journal := workspace.journal.push entry })

namespace Activity

/-- Run an activity on a file state. -/
def runOn
    (activity : Activity (StateM Workspace) α)
    (files : Files) : Except Failure α × Journal × Files :=
  let (result, workspace) := activity ⟨files, #[]⟩
  (result, workspace.journal.toList, workspace.files)

end Activity
end CalculatorTrials
