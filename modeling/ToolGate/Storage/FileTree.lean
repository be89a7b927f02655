/-
Files in memory.

A tree of folders and files, each with the time of its last change. A path is followed one part
at a time, from the root or from the working folder; what it goes through has to be there.

* `FileTree` — the tree; `FileTree.walk` follows a path.
* `FileTree.createFolders`, `write`, `read`, `remove`, `touch` — the operations.
* The instance of `Storage` for computations with such a tree as their state.
-/
import ToolGate.Storage.Basic

namespace ToolGate

/-- What a file holds: a text, or bytes that are none. -/
inductive FileTree.Content where
  | text (s : String)
  | bytes (count : Nat)
  deriving Repr, DecidableEq

/-- A folder or a file, with the time of its last change in nanoseconds. -/
inductive FileTree.Node where
  | folder (changed : Int)
  | file (changed : Int) (content : FileTree.Content)
  deriving Repr, DecidableEq

/-- Folders and files by their paths from the root. -/
structure FileTree where
  nodes : List (List String × FileTree.Node)
  /-- The folder in which relative paths start. -/
  working : List String
  /-- The time of the next change. -/
  now : Int
  deriving Repr

namespace FileTree

/-- The content of some bytes. -/
def Content.ofBytes (bytes : ByteArray) : Content :=
  match String.fromUTF8? bytes with
  | some s => .text s
  | none => .bytes bytes.size

/-- How many bytes a content takes. -/
def Content.length : Content → Nat
  | .text s => s.utf8ByteSize
  | .bytes n => n

/-- The text of a content, if it is one. -/
def Content.text? : Content → Option String
  | .text s => some s
  | .bytes _ => none

/-- A tree without files. -/
def empty : FileTree := ⟨[], [], 1700000000000000001⟩

/-- The parts of a path. One that ends in a slash ends in the part `.`, which folders alone
have. -/
def partsFrom (current : List Char) : List Char → List String
  | [] => [String.ofList (if current.isEmpty then ['.'] else current.reverse)]
  | '/' :: cs =>
    if current.isEmpty then partsFrom [] cs
    else String.ofList current.reverse :: partsFrom [] cs
  | c :: cs => partsFrom (c :: current) cs

/-- What stands at a path from the root. -/
def node? (t : FileTree) (path : List String) : Option Node :=
  if path.isEmpty then some (.folder 0) else (t.nodes.find? (·.1 == path)).map (·.2)

/-- Follow the parts of a path; all but the last place must be folders. -/
def follow (t : FileTree) (place : List String) : List String → Except StorageError (List String)
  | [] => .ok place
  | part :: rest =>
    match t.node? place with
    | none => .error .notFound
    | some (.file _ _) => .error .notAFolder
    | some (.folder _) =>
      t.follow
        (if part = "." then place else if part = ".." then place.dropLast else place ++ [part])
        rest

/-- The place that a path leads to. -/
def walk (t : FileTree) (path : String) : Except StorageError (List String) :=
  match path.toList with
  | [] => .error .notFound
  | '/' :: cs => t.follow [] (partsFrom [] cs)
  | cs => t.follow t.working (partsFrom [] cs)

/-- What a path leads to. -/
def at? (t : FileTree) (path : String) : Except StorageError Node :=
  match t.walk path with
  | .error e => .error e
  | .ok place =>
    match t.node? place with
    | some node => .ok node
    | none => .error .notFound

/-- Something stands at a path. -/
def hasPath (t : FileTree) (path : String) : Bool :=
  match t.at? path with
  | .ok _ => true
  | .error _ => false

/-- A folder stands at a path. -/
def isFolder (t : FileTree) (path : String) : Bool :=
  match t.at? path with
  | .ok (.folder _) => true
  | _ => false

/-- Put something at a place. -/
def put (t : FileTree) (place : List String) (node : Int → Node) : FileTree :=
  { t with
    nodes := (place, node t.now) :: t.nodes.filter (·.1 != place)
    now := t.now + 1 }

/-- Create one folder. -/
def createFolder (t : FileTree) (path : String) : Except StorageError FileTree :=
  match t.walk path with
  | .error e => .error e
  | .ok place =>
    match t.node? place with
    | some _ => .error .alreadyExists
    | none => .ok (t.put place .folder)

/-- Create a folder and those it lies in, where they are missing. -/
def createFoldersFrom : Nat → FileTree → String → Except StorageError FileTree
  | 0, _, _ => .error .notFound
  | fuel + 1, t, path =>
    if path.isEmpty then .ok t
    else
      match t.createFolder path with
      | .ok t => .ok t
      | .error .notFound =>
        match Storage.parent? path with
        | none => .error .notFound
        | some parent =>
          match createFoldersFrom fuel t parent with
          | .error e => .error e
          | .ok t =>
            match t.createFolder path with
            | .ok t => .ok t
            | .error e => if t.isFolder path then .ok t else .error e
      | .error e => if t.isFolder path then .ok t else .error e

/-- Create a folder and those it lies in, where they are missing. -/
def createFolders (t : FileTree) (path : String) : Except StorageError FileTree :=
  createFoldersFrom (path.length + 1) t path

/-- Give a file a content. -/
def write (t : FileTree) (path : String) (content : Content) : Except StorageError FileTree :=
  match t.walk path with
  | .error e => .error e
  | .ok place =>
    match t.node? place with
    | some (.folder _) => .error .isAFolder
    | _ => .ok (t.put place fun now => .file now content)

/-- A content with a text after it. -/
def Content.append (more : String) : Content → Content
  | .text s => .text (s ++ more)
  | .bytes n => .bytes (n + more.utf8ByteSize)

/-- Add a text at the end of a file. -/
def append (t : FileTree) (path more : String) : Except StorageError FileTree :=
  match t.at? path with
  | .ok (.file _ content) => t.write path (content.append more)
  | _ => t.write path (.text more)

/-- The text of a file. -/
def readText (t : FileTree) (path : String) : Except StorageError String :=
  match t.at? path with
  | .error e => .error e
  | .ok (.folder _) => .error .isAFolder
  | .ok (.file _ content) =>
    match content.text? with
    | some s => .ok s
    | none => .error .notText

/-- Remove what stands at a path, with all that lies in it. -/
def remove (t : FileTree) (path : String) : FileTree :=
  match t.walk path with
  | .error _ => t
  | .ok place => { t with nodes := t.nodes.filter fun n => !place.isPrefixOf n.1 }

/-- Set the time of the last change. -/
def touch (t : FileTree) (path : String) (changed : Int) : FileTree :=
  match t.walk path with
  | .error _ => t
  | .ok place =>
    { t with
      nodes := t.nodes.map fun (p, node) =>
        if p = place then
          (p, match node with
            | .folder _ => .folder changed
            | .file _ content => .file changed content)
        else (p, node) }

/-- The length that is told of a folder. -/
def folderLength : Nat := 4096

/-- What stands at a path. -/
def snapshot (t : FileTree) (path : String) : Option Snapshot :=
  match t.at? path with
  | .error _ => none
  | .ok (.folder changed) => some ⟨⟨some changed, folderLength⟩, none⟩
  | .ok (.file changed content) => some ⟨⟨some changed, content.length⟩, content.text?⟩

/-- Change the tree, unless that fails. -/
def attempt (change : FileTree → Except StorageError FileTree) :
    StateM FileTree (Except StorageError Unit) := fun t =>
  match change t with
  | .ok t => (.ok (), t)
  | .error e => (.error e, t)

instance : Storage (StateM FileTree) where
  pathExists path := fun t => (t.hasPath path, t)
  createFolders path := attempt fun t => t.createFolders path
  readText path := fun t => (t.readText path, t)
  writeText path text := attempt fun t => t.write path (.text text)
  appendText path more := attempt fun t => t.append path more
  snapshot path := fun t => (t.snapshot path, t)

end FileTree

end ToolGate
