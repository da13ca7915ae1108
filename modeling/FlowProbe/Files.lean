import FlowProbe.Text

set_option autoImplicit false

namespace FlowProbe

inductive FileNode where
  | file (bytes : List UInt8)
  | directory
  | device
  deriving DecidableEq

inductive FileFault where
  | notFound
  | notDirectory
  | isDirectory
  | nameTooLong
  | alreadyExists
  | nulInName
  | notText
  deriving DecidableEq, Repr

namespace FileFault

def reason : FileFault → String
  | .notFound => "No such file or directory"
  | .notDirectory => "Not a directory"
  | .isDirectory => "Is a directory"
  | .nameTooLong => "File name too long"
  | .alreadyExists => "File exists"
  | .nulInName => "file name contained an unexpected NUL byte"
  | .notText => "stream did not contain valid UTF-8"

def code? : FileFault → Option Nat
  | .notFound => some 2
  | .notDirectory => some 20
  | .isDirectory => some 21
  | .nameTooLong => some 36
  | .alreadyExists => some 17
  | .nulInName => none
  | .notText => none

def message (fault : FileFault) : String :=
  match fault.code? with
  | some code => fault.reason ++ " (os error " ++ toString code ++ ")"
  | none => fault.reason

end FileFault

structure FileTree where
  nodes : List (List String × FileNode)
  here : List String

namespace FileTree

-- Octets in one name.
def nameLimit : Nat := 255

-- Octets in a path, its terminator included.
def pathLimit : Nat := 4096

def names (path : List Char) : List String :=
  (parts '/' path).map String.ofList

/-- The names from the root down that a path leads to if all of them are directories. -/
def resolve (here : List String) (path : String) : List String :=
  let start := if path.toList.head? = some '/' then [] else here
  (names path.toList).foldl (fun place name =>
    if name = "" ∨ name = "." then place
    else if name = ".." then place.dropLast
    else place ++ [name]) start

def store (tree : FileTree) (path : String) (node : FileNode) : FileTree :=
  { tree with nodes := (resolve tree.here path, node) :: tree.nodes }

def node? (tree : FileTree) (path : List String) : Option FileNode :=
  match tree.nodes.lookup path with
  | some node => some node
  | none =>
    if path.isEmpty || tree.nodes.any fun entry => path.isPrefixOf entry.1 then some .directory
    else none

def walk (tree : FileTree) : List String → List String → Except FileFault (List String)
  | place, [] => .ok place
  | place, name :: rest =>
    match tree.node? place with
    | none => .error .notFound
    | some .directory =>
      if name = "" ∨ name = "." then walk tree place rest
      else if name = ".." then walk tree place.dropLast rest
      else if nameLimit < name.utf8ByteSize then .error .nameTooLong
      else walk tree (place ++ [name]) rest
    | some _ => .error .notDirectory

def find (tree : FileTree) (path : String) : Except FileFault FileNode :=
  if path.toList.contains '\x00' then .error .nulInName
  else if path.isEmpty then .error .notFound
  else if pathLimit ≤ path.utf8ByteSize then .error .nameTooLong
  else do
    let start := if path.toList.head? = some '/' then [] else tree.here
    let target ← tree.walk start (names path.toList)
    match tree.node? target with
    | none => .error .notFound
    | some node => .ok node

/-- Whether a new file can be put at a path, in place of a file that is there. Nothing can be put
where a directory is, and only a directory could be put at a path that ends with a slash. -/
def vacate (tree : FileTree) (path : String) : Except FileFault Unit := do
  let start := if path.toList.head? = some '/' then [] else tree.here
  match (names path.toList).reverse.span (· = "") with
  | (_, []) => .error .alreadyExists
  | (slashes, name :: before) =>
    let place ← tree.walk start before.reverse
    match tree.node? place with
    | none => .error .notFound
    | some .directory =>
      if name = "." ∨ name = ".." then .error .alreadyExists
      else
        match tree.node? (place ++ [name]) with
        | some .directory => .error .alreadyExists
        | some _ => if slashes.isEmpty then .ok () else .error .alreadyExists
        | none => if slashes.isEmpty then .ok () else .error .notFound
    | some _ => .error .notDirectory

def isFile (tree : FileTree) (path : String) : Bool :=
  match tree.find path with
  | .ok (.file _) => true
  | _ => false

def readText (tree : FileTree) (path : String) : Except FileFault String := do
  match ← tree.find path with
  | .directory => .error .isDirectory
  | .device => .ok ""
  | .file bytes =>
    match String.fromUTF8? ⟨bytes.toArray⟩ with
    | some text => .ok text
    | none => .error .notText

end FileTree

end FlowProbe
