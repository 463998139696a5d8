import Sockets.Kernel.Endpoint

/-!
# The file system of Unix-domain sockets

Unix-domain sockets bind to nodes of the file system. Relative paths start from a private
working directory inside `/tmp`, whose name the caller does not know; the root, `/tmp` and the
working directory always exist, and other directories are made with `makeDirectory`.

A path is walked one component at a time, as the kernel does: empty and `.` components stay
where they are, `..` steps up, and every other component must name a directory that exists,
except the last. So `a/..` needs the directory `a` (`ENOENT` without it), and a socket node in
the middle of a path is `ENOTDIR`. A path that ends in `.` or `..` names the directory it
reaches; a path whose last name is followed by a slash asks for a directory, so a socket node
named that way is `ENOTDIR` and a missing one cannot be made (`ENOENT`).

Errors are error numbers: a missing node or directory is `ENOENT`, a socket node where a
directory is needed `ENOTDIR`, an existing node where a socket is made `EADDRINUSE` (`EEXIST`
for a directory), and removing a directory `EISDIR`.
-/

namespace Sockets

namespace Kernel

/-- The private working directory, `/tmp/tmp1x9q7wd3`. -/
def workingDirectory : List (List UInt8) :=
  [[47], [116, 109, 112], [116, 109, 112, 49, 120, 57, 113, 55, 119, 100, 51]]

/-- The directories that always exist. -/
def standingDirectories : List (List (List UInt8)) :=
  [[[47]], [[47], [116, 109, 112]], workingDirectory]

/-- The node at resolved path components. -/
def node? (k : Kernel) (cs : List (List UInt8)) : Option Node :=
  if standingDirectories.contains cs then some .directory else k.nodes.lookup cs

/-- The directory one step up: the root stays where it is. -/
def up (here : List (List UInt8)) : List (List UInt8) :=
  if here == [[47]] then here else here.dropLast

/-- Walk components from the directory `here`: the directory reached, or the error number of
the first component that is no directory. -/
def walk (k : Kernel) (here : List (List UInt8)) : List (List UInt8) → Except Nat (List (List UInt8))
  | [] => .ok here
  | c :: rest =>
    if c.isEmpty || c == [46] then walk k here rest
    else if c == [46, 46] then walk k (up here) rest
    else
      match k.node? (here ++ [c]) with
      | some .directory => walk k (here ++ [c]) rest
      | some (.socket _) => .error 20
      | none => .error 2

/-- Where a path leads. -/
inductive Target where
  /-- The entry `name` of the directory `dir`; `slash` tells whether a slash follows the name. -/
  | entry (dir : List (List UInt8)) (name : List UInt8) (slash : Bool)
  /-- The directory the whole path names. -/
  | directory (cs : List (List UInt8))

/-- Where a path leads, or the error number of walking it; the empty path leads nowhere. -/
def target (k : Kernel) (path : List UInt8) : Except Nat Target :=
  let pieces := path.splitOn 47
  let start := if path.head? == some 47 then [[47]] else workingDirectory
  let named := pieces.filter fun c => !c.isEmpty
  match named.getLast? with
  | none => if path.isEmpty then .error 2 else .ok (.directory start)
  | some last =>
    if last == [46] || last == [46, 46] then (walk k start named).map .directory
    else (walk k start named.dropLast).map fun d => .entry d last (pieces.getLast? == some [])

/-- Make a socket node at a path; its inode number is returned. -/
def makeSocketNode (k : Kernel) (path : List UInt8) : Except Nat (Nat × Kernel) := do
  match ← k.target path with
  | .directory _ => throw 98
  | .entry d name slash =>
    let cs := d ++ [name]
    if (k.node? cs).isSome then throw 98
    if slash then throw 2
    pure (k.nextInode,
      { k with nodes := k.nodes ++ [(cs, .socket k.nextInode)], nextInode := k.nextInode + 1 })

/-- The node at a path, or the error of looking it up. -/
def find (k : Kernel) (path : List UInt8) : Except Nat Node := do
  match ← k.target path with
  | .directory _ => pure .directory
  | .entry d name slash =>
    match k.node? (d ++ [name]) with
    | some .directory => pure .directory
    | some (.socket i) => if slash then throw 20 else pure (.socket i)
    | none => throw 2

/-- Remove the node at a path. -/
def unlink (k : Kernel) (path : List UInt8) : Except Nat Kernel := do
  match ← k.target path with
  | .directory _ => throw 21
  | .entry d name slash =>
    let cs := d ++ [name]
    match k.node? cs with
    | some .directory => throw 21
    | some (.socket _) =>
      if slash then throw 20
      pure { k with nodes := k.nodes.filter (·.1 != cs) }
    | none => throw 2

/-- Make a directory at a path. -/
def makeDirectory (k : Kernel) (path : List UInt8) : Except Nat Kernel := do
  match ← k.target path with
  | .directory _ => throw 17
  | .entry d name _ =>
    let cs := d ++ [name]
    if (k.node? cs).isSome then throw 17
    pure { k with nodes := k.nodes ++ [(cs, .directory)] }

/-- Whether a path names a node. -/
def pathExists (k : Kernel) (path : List UInt8) : Bool := (k.find path) matches .ok _

end Kernel

end Sockets
