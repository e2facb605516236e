import Accessors.Text.Basic
import Accessors.Error.Basic

/-!
# A tree of files

The files a run reads and writes, kept in memory: the texts of files and the directories, by
path relative to the working directory, itself a directory at an absolute path (`root`). Paths
are cleaned lexically: repeated and trailing slashes, `.` elements and `name/..` pairs are
dropped, and the empty path is `.`. A relative path is read from the working directory; an
absolute one inside it is the same entry as its relative form; an absolute one outside it names
a directory when it is an ancestor of the working directory and nothing otherwise.

Operations fail as the operating system does, with messages naming the operation and the path as
it was given:

* a path is reached through its ancestors, each of which must be a directory (else `no such file
  or directory` for a missing one, `not a directory` for a file);
* reading a directory fails with `is a directory`, writing over one too, and listing a file
  fails with `not a directory`;
* creating a directory with its parents fails at the first ancestor that is a file;
* removing a directory that is not empty fails, removing a tree does not.

The changes between two trees (`changes`) are what a program on a real file system carries out
after a run.

Main statements: cleaning drops `.` elements (`cleanPath_dot`); a path relative to itself is `.`
(`relPath_self`); a new directory is made before the file in it is written
(`changes_newFile`).
-/

namespace Accessors

/-- An entry of the tree: a file with its text, or a directory. -/
inductive DiskEntry where
  | file (text : String)
  | dir
  deriving Repr, Inhabited, BEq, DecidableEq

/-- **A failed operation** on a path: the operation, the path as it was given (two paths for a
rename) and the reason. -/
structure DiskError where
  op : String
  path : String
  reason : String
  deriving Repr, Inhabited, BEq

/-- The message of a failed operation: `op path: reason`. -/
def DiskError.text (e : DiskError) : String := e.op ++ " " ++ e.path ++ ": " ++ e.reason

/-- A failed operation as an error: its message, caused by its reason. -/
def DiskError.toError (e : DiskError) : Error := .wrapped e.text (.plain e.reason)

/-- Whether a failed operation says that something does not exist. -/
def DiskError.isNotFound (e : DiskError) : Bool := e.reason == "no such file or directory"

/-- **A tree of files**: the absolute path of the working directory and the entries by cleaned
path. The working directory and its ancestors are always directories. -/
structure Disk where
  root : String
  entries : List (String × DiskEntry)
  deriving Repr, Inhabited

namespace Disk

/-- The empty tree, its working directory the root of the file system. -/
def empty : Disk := ⟨"/", []⟩

/-- The empty tree with its working directory at an absolute path. -/
def atRoot (root : String) : Disk := ⟨root, []⟩

/-- **Cleans a path** lexically: no empty or `.` elements, `..` cancels the element before it
(and is dropped at the root), and the empty path is `.`. -/
def cleanPath (p : String) : String :=
  let rooted := p.startsWith "/"
  let parts := (Text.splitOn p "/").filter fun x => x != "" && x != "."
  let stack := parts.foldl (fun st x =>
      if x == ".." then
        match st with
        | top :: rest => if top == ".." then x :: st else rest
        | [] => if rooted then [] else [x]
      else x :: st) ([] : List String)
  let body := "/".intercalate stack.reverse
  if rooted then "/" ++ body else if body.isEmpty then "." else body

/-- **Joins paths**, ignoring empty ones, and cleans the result. -/
def joinPath (parts : List String) : String :=
  match parts.filter (· != "") with
  | [] => ""
  | ps => cleanPath ("/".intercalate ps)

/-- The directory of a path: everything before its last element, cleaned. -/
def dirName (p : String) : String :=
  let cs := p.toList
  let rest := (cs.reverse.dropWhile (· != '/')).reverse
  cleanPath (String.ofList rest)

/-- The last element of a path; `.` for the empty path and `/` for the root. -/
def baseName (p : String) : String :=
  let cs := (p.toList.reverse.dropWhile (· == '/')).reverse
  if p.isEmpty then "."
  else if cs.isEmpty then "/"
  else String.ofList (cs.reverse.takeWhile (· != '/')).reverse

/-- The ancestors of a cleaned path, outermost first. -/
def ancestors (c : String) : List String :=
  let parts := Text.splitOn c "/"
  (List.range (parts.length - 1)).map fun i =>
    let a := "/".intercalate (parts.take (i + 1))
    if a.isEmpty then "/" else a

/-- The text after the first `n` characters. -/
def dropChars (s : String) (n : Nat) : String := String.ofList (s.toList.drop n)

/-- **The absolute form of a path**: an absolute path cleaned, a relative one read from the
working directory. -/
def absPath (d : Disk) (p : String) : String :=
  if p.startsWith "/" then cleanPath p else cleanPath (d.root ++ "/" ++ p)

/-- A cleaned absolute path relative to a directory it lies in, or none. -/
def within? (dir abs : String) : Option String :=
  if abs == dir then some "."
  else if dir == "/" then some (dropChars abs 1)
  else if abs.startsWith (dir ++ "/") then some (dropChars abs (dir.length + 1))
  else none

/-- **The key of a path** in the tree: relative to the working directory when it lies in it,
absolute otherwise. -/
def key (d : Disk) (p : String) : String := (within? d.root (d.absPath p)).getD (d.absPath p)

/-- Whether a key lies strictly above the working directory. -/
def isAncestorKey (d : Disk) (k : String) : Bool :=
  k.startsWith "/" && (k == "/" || d.root.startsWith (k ++ "/"))

/-- The entry at a path, if any; the working directory and its ancestors are directories. -/
def entry? (d : Disk) (p : String) : Option DiskEntry :=
  let k := d.key p
  if k == "." || d.isAncestorKey k then some .dir else d.entries.lookup k

/-- Whether something is at a path. -/
def present (d : Disk) (p : String) : Bool := (d.entry? p).isSome

/-- Whether a directory is at a path. -/
def isDir (d : Disk) (p : String) : Bool := d.entry? p == some .dir

/-- **Why a path cannot be reached**: its first ancestor that is missing or a file. -/
def blocked? (d : Disk) (p : String) : Option String :=
  let k := d.key p
  if k == "." then none
  else (ancestors k).findSome? fun a =>
    match d.entry? a with
    | some .dir => none
    | some (.file _) => some "not a directory"
    | none => some "no such file or directory"

/-- The tree with an entry set at a path. -/
def put (d : Disk) (p : String) (e : DiskEntry) : Disk :=
  let k := d.key p
  { d with entries := d.entries.filter (·.1 != k) ++ [(k, e)] }

/-- **The entry at a path**, or why there is none, as the operation `op` reports it. -/
def lookupAs (d : Disk) (op p : String) : Except DiskError DiskEntry :=
  match d.blocked? p with
  | some why => .error ⟨op, p, why⟩
  | none =>
    match d.entry? p with
    | some e => .ok e
    | none => .error ⟨op, p, "no such file or directory"⟩

/-- The entry at a path, as asking for its status reports failures. -/
def stat (d : Disk) (p : String) : Except DiskError DiskEntry := d.lookupAs "stat" p

/-- **Reads a file.** -/
def fileText (d : Disk) (p : String) : Except DiskError String := do
  match ← d.lookupAs "open" p with
  | .file t => .ok t
  | .dir => .error ⟨"read", p, "is a directory"⟩

/-- **Writes a file**, creating or replacing it; its directory must exist. -/
def putText (d : Disk) (p text : String) : Except DiskError Disk :=
  match d.blocked? p with
  | some why => .error ⟨"open", p, why⟩
  | none =>
    match d.entry? p with
    | some .dir => .error ⟨"open", p, "is a directory"⟩
    | _ => .ok (d.put p (.file text))

/-- **Creates a directory and its missing parents**; an ancestor or the path itself that is a
file is an error. -/
def mkdirAll (d : Disk) (p : String) : Except DiskError Disk :=
  let k := d.key p
  if k == "." then .ok d
  else (ancestors k ++ [k]).foldlM (fun (d : Disk) q =>
    match d.entry? q with
    | some .dir => .ok d
    | some (.file _) => .error ⟨"mkdir", q, "not a directory"⟩
    | none => .ok (d.put q .dir)) d

/-- Whether a key lies inside the directory of another key. -/
def isWithin (c dir : String) : Bool :=
  if dir == "." then !c.startsWith "/" && c != "." else c.startsWith (dir ++ "/")

/-- The entries directly inside a directory, by name, sorted. -/
def children (d : Disk) (p : String) : List (String × DiskEntry) :=
  let c := d.key p
  let inside := d.entries.filter fun (q, _) => isWithin q c && dirName q == c
  (inside.map fun (q, e) => (baseName q, e)).mergeSort fun a b => decide (a.1 ≤ b.1)

/-- **Lists a directory**: its entries by name, sorted. -/
def readDir (d : Disk) (p : String) : Except DiskError (List (String × DiskEntry)) := do
  match ← d.lookupAs "open" p with
  | .file _ => .error ⟨"open", p, "not a directory"⟩
  | .dir => .ok (d.children p)

/-- The tree without the entry at a path; what lies inside it stays. -/
def erase (d : Disk) (p : String) : Disk :=
  let k := d.key p
  { d with entries := d.entries.filter (·.1 != k) }

/-- **Removes a file or an empty directory.** -/
def remove (d : Disk) (p : String) : Except DiskError Disk := do
  match ← d.lookupAs "remove" p with
  | .file _ => .ok (d.erase p)
  | .dir =>
    if !(d.children p).isEmpty then .error ⟨"remove", p, "directory not empty"⟩
    else .ok (d.erase p)

/-- **Removes a path and everything inside it**; a missing path is no error. -/
def removeAll (d : Disk) (p : String) : Disk :=
  let k := d.key p
  { d with entries := d.entries.filter fun (q, _) => q != k && !isWithin q k }

/-- The files inside a directory at any depth, with their texts, by key. -/
def filesWithin (d : Disk) (p : String) : List (String × String) :=
  let c := d.key p
  (d.entries.filterMap fun (q, e) =>
    match e with
    | .file t => if isWithin q c then some (q, t) else none
    | .dir => none).mergeSort fun a b => decide (a.1 ≤ b.1)

/-- **A path relative to a directory**, both absolute and cleaned: up from the directory to
their common ancestor, then down to the path. -/
def relPath (base target : String) : String :=
  let elems := fun (s : String) => (Text.splitOn s "/").filter (· != "")
  let rec strip : List String → List String → List String × List String
    | b :: bs, t :: ts => if b == t then strip bs ts else (b :: bs, t :: ts)
    | bs, ts => (bs, ts)
  let (up, down) := strip (elems base) (elems target)
  match up.map (fun _ => "..") ++ down with
  | [] => "."
  | parts => "/".intercalate parts

/-- **A change to a tree of files**, as the file system carries it out. -/
inductive Change where
  | removeFile (path : String)
  | removeTree (path : String)
  | makeDir (path : String)
  | writeFile (path text : String)
  deriving Repr, Inhabited, DecidableEq

/-- **The changes that take one tree to another**: first what is gone or changed its kind,
deepest first, then the new directories, outermost first, then the files written. -/
def changes (before after : Disk) : List Change :=
  let sameKind := fun (a b : DiskEntry) => (a == .dir) == (b == .dir)
  let gone := before.entries.filter fun (k, e) =>
    match after.entries.lookup k with
    | some e' => !sameKind e e'
    | none => true
  let gone := gone.mergeSort fun a b => decide (b.1.length ≤ a.1.length)
  let fresh := after.entries.filter fun (k, e) => before.entries.lookup k != some e
  let dirs := (fresh.filter (·.2 == .dir)).mergeSort fun a b => decide (a.1.length ≤ b.1.length)
  gone.map (fun (k, e) => if e == .dir then Change.removeTree k else .removeFile k) ++
    dirs.map (fun (k, _) => Change.makeDir k) ++
    fresh.filterMap fun (k, e) =>
      match e with
      | .file t => some (Change.writeFile k t)
      | .dir => none

/-- Cleaning drops `.` elements. -/
theorem cleanPath_dot : cleanPath "./a/./b/" = "a/b" := by
  decide +kernel

/-- A path relative to itself is `.`. -/
theorem relPath_self : relPath "/r/a" "/r/a" = "." := by
  decide +kernel

/-- A new file in a new directory: the directory is made before the file is written. -/
theorem changes_newFile :
    changes empty ((empty.put "a" .dir).put "a/b" (.file "x")) = [.makeDir "a", .writeFile "a/b" "x"] := by
  decide +kernel

end Disk

end Accessors
