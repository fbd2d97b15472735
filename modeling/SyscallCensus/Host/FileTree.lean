import SyscallCensus.Host.Basic

/-!
# A host in memory

The scratch files and the stand-in for a disassembler of `SPEC_FULL.md`, Section 10.9 (Test
tooling), as a host.

A directory tree that answers like a file system: paths are relative to its root, a path that goes
on below a file is refused, names and paths have a limited length, and only programs can be run. A
program that is named without a slash is looked for in the directory `bin`.
-/

namespace SyscallCensus

/-- Something in a directory tree. -/
inductive Entry where
  /-- A file that cannot be run. -/
  | file (content : List UInt8)
  /-- A program: what it leaves behind, given its arguments. -/
  | program (run : List (List UInt8) → Completed)
  /-- A directory. -/
  | directory

/-- A directory tree: its entries by the names that lead to them. The directories on the way need no
entry. -/
structure FileTree where
  /-- The entries. -/
  entries : List (List (List UInt8) × Entry)

namespace FileTree

/-- The tree with entries at paths. -/
def ofPaths (entries : List (Path × Entry)) : FileTree :=
  ⟨entries.map fun (path, entry) => (path.steps, entry)⟩

/-- What the names lead to. -/
def get? (tree : FileTree) (names : List (List UInt8)) : Option Entry :=
  match tree.entries.lookup names with
  | some entry => some entry
  | none =>
    if names.isEmpty || tree.entries.any (fun e => names.isPrefixOf e.1) then some .directory
    else none

/-- The most bytes that a name in a directory has. -/
def nameLimit : Nat := 255

/-- The most bytes that a path has. -/
def pathLimit : Nat := 4095

/-- Follows the rest of a path from where it has led so far. -/
def follow (tree : FileTree) (here : List (List UInt8)) (entry : Entry) :
    List (List UInt8) → Except IoError Entry
  | [] => .ok entry
  | name :: rest =>
    match entry with
    | .directory =>
      if name == [] || name == [Path.dot] then tree.follow here entry rest
      else if name.length > nameLimit then .error .nameTooLong
      else
        let there := if name == [Path.dot, Path.dot] then here.dropLast else here ++ [name]
        match tree.get? there with
        | some next => tree.follow there next rest
        | none => .error .noSuchFile
    | _ => .error .notADirectory

/-- What stands at a path. The empty path leads nowhere, and nothing is known of the machine but its
root. -/
def lookUp (tree : FileTree) (path : Path) : Except IoError Entry :=
  if path.bytes.contains 0 then .error .zeroInPath
  else if path.bytes.isEmpty then .error .noSuchFile
  else if path.bytes.length > pathLimit then .error .nameTooLong
  else
    let root : FileTree := if path.bytes.head? = some Path.slash then ⟨[]⟩ else tree
    root.follow [] .directory path.names

/-- What comes of running a program. -/
def run (tree : FileTree) (program : Path) (arguments : List (List UInt8)) :
    Except IoError Completed :=
  if (program.bytes :: arguments).any (·.contains 0) then .error .zeroInCommand
  else if program.bytes.isEmpty then .error .noSuchFile
  else do
    let entry ←
      if program.bytes.contains Path.slash then tree.lookUp program
      else tree.follow [] .directory [Text.Utf8.encode "bin", program.bytes]
    match entry with
    | .program answer => .ok (answer arguments)
    | .file _ | .directory => .error .accessDenied

/-- The tree as a host. -/
def host (tree : FileTree) (values : List (String × List UInt8)) : Host where
  lookUp path := do
    match ← tree.lookUp path with
    | .file content => .ok (.file (.complete content))
    | .program _ => .ok (.file (.complete []))
    | .directory => .ok .directory
  run := tree.run
  environment name := values.lookup name

end FileTree

end SyscallCensus
