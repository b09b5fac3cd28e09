import Espresso.Preset.Admission

/-!
# Storage

Files and folders, as far as the service looks at them: a file is its bytes. Text is UTF-8 with
any of the three line ends, and a file that is not is as unreadable as a folder.
-/

namespace Espresso

structure Path where
  rooted : Bool
  parts : List String
  deriving DecidableEq, Repr

namespace Path

/-- Empty parts and dots add nothing to a path. -/
def ofString (text : String) : Path where
  rooted := text.startsWith "/"
  parts := (text.splitOn "/").filter fun part => part != "" && part != "."

def text (path : Path) : String :=
  let relative := String.intercalate "/" path.parts
  if path.rooted then "/" ++ relative else if path.parts.isEmpty then "." else relative

/-- The path of something inside a folder, given relative to it. -/
def inside (folder : Path) (name : String) : Path :=
  { folder with parts := folder.parts ++ (ofString name).parts }

/-- The folders on the way to a path, from the outermost on. -/
def ancestors (path : Path) : List Path :=
  (List.range (path.parts.length - 1)).map fun n =>
    { path with parts := path.parts.take (n + 1) }

def under (folder path : Path) : Bool :=
  folder.rooted == path.rooted && folder.parts.isPrefixOf path.parts

/-- The last part of the path, if what comes before it is `folder`. -/
def nameIn? (path folder : Path) : Option String :=
  if folder.rooted == path.rooted && folder.parts == path.parts.dropLast then path.parts.getLast?
  else none

end Path

inductive Node where
  | file (bytes : ByteArray)
  | folder

/-- Every line end becomes a line feed. -/
def unifyLineEnds : List Char → List Char
  | '\r' :: '\n' :: rest => '\n' :: unifyLineEnds rest
  | '\r' :: rest => '\n' :: unifyLineEnds rest
  | c :: rest => c :: unifyLineEnds rest
  | [] => []

def Node.isFolder : Node → Bool
  | file _ => false
  | folder => true

def Node.text? : Node → Option String
  | file bytes => (String.fromUTF8? bytes).map fun text =>
    String.ofList (unifyLineEnds text.toList)
  | folder => none

structure Storage where
  entries : List (Path × Node)

namespace Storage

def documentSuffix : String := ".tcl"

def isDocumentName (name : String) : Bool :=
  documentSuffix.toList.isSuffixOf name.toList

def empty : Storage :=
  ⟨[]⟩

def holds (storage : Storage) (path : Path) : Bool :=
  storage.entries.any fun entry => entry.1 == path

/-- The folders on the way to the path are made if they are not there. -/
def put (storage : Storage) (path : Path) (node : Node) : Storage :=
  let missing := path.ancestors.filter fun ancestor => !storage.holds ancestor
  ⟨storage.entries.filter (fun entry => entry.1 != path) ++ missing.map (·, .folder) ++
    [(path, node)]⟩

/-- A folder goes with all it holds. -/
def remove (storage : Storage) (path : Path) : Storage :=
  ⟨storage.entries.filter fun entry => !path.under entry.1⟩

def isFolder (storage : Storage) (path : Path) : Bool :=
  storage.entries.any fun (found, node) => found == path && node.isFolder

/-- The documents of a folder in the order of their names. -/
def sources (storage : Storage) (folder : Path) : List Source :=
  let found := storage.entries.filterMap fun (path, node) =>
    ((path.nameIn? folder).filter isDocumentName).map fun name => (⟨name, node.text?⟩ : Source)
  found.mergeSort fun first second => decide (first.name ≤ second.name)

/-- A folder that holds the given documents. -/
def putDocuments (storage : Storage) (folder : Path) (documents : List Document) : Storage :=
  documents.foldl
    (fun storage document =>
      storage.put (folder.inside document.name) (.file document.text.toUTF8))
    (storage.put folder .folder)

end Storage

end Espresso
