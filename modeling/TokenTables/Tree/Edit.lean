import TokenTables.Tree.AtomicWrite

/-!
Plain changes to a disk: writing a file in place, making directories and links, changing modes, and
removing. Writing in place and changing a mode follow links; removing and making a link do not.
-/

namespace TokenTables.Disk

open TokenTables.Tree

def put (d : Disk) (path : Text) (bytes : ByteArray) : Except FileFault Disk := do
  let place ← d.tree.resolve path
  match d.tree.find? place with
  | some (.dir _) => .error .isDirectory
  | some node =>
    .ok { d with tree := d.tree.insert place (.file bytes (node.mode?.getD 0)) }
  | none => .ok { d with tree := d.tree.insert place (.file bytes (d.masked 0o666)) }

def changeMode (d : Disk) (path : Text) (mode : Mode) : Except FileFault Disk := do
  let tree ← d.tree.changeMode path mode
  .ok { d with tree := tree }

/-- Makes the directory reached through `names` if it is not there. A link that leads nowhere stands in
the way. -/
def makeDirectory (d : Disk) (names : List Text) : Except FileFault Disk := do
  let place ← walk d.tree mostLinks [] names
  match d.tree.find? place with
  | some (.dir _) => .ok d
  | some _ => .error .alreadyExists
  | none =>
    let parent ← d.tree.directory names.dropLast
    if place = parent ++ names.getLast?.toList then
      .ok { d with tree := d.tree.insert place (.dir (d.masked 0o777)) }
    else .error .alreadyExists

def makeDirectories (d : Disk) (path : Text) : Except FileFault Disk :=
  let names := Path.names path
  (List.range names.length).foldlM (fun d n => d.makeDirectory (names.take (n + 1))) d

/-- Makes a link at a free entry. The target need not lead anywhere, but it must not be empty. -/
def makeLink (d : Disk) (path target : Text) : Except FileFault Disk := do
  let place ← d.tree.entryOf path
  match target, d.tree.find? place with
  | [], _ => .error .notFound
  | _, some _ => .error .alreadyExists
  | _, none => .ok { d with tree := d.tree.insert place (.link target) }

def remove (d : Disk) (path : Text) : Except FileFault Disk := do
  let place ← d.tree.entryOf path
  match d.tree.find? place with
  | some _ => .ok { d with tree := d.tree.prune place }
  | none => .error .notFound

def setUmask (d : Disk) (mode : Mode) : Disk := { d with umask := mode &&& 0o777 }

end TokenTables.Disk
