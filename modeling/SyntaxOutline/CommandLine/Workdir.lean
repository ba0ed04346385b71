import SyntaxOutline.CommandLine.Surroundings

/-!
# Working directories

A **working directory** holds directories and files, each known by the names that lead to it. A path
is a way through it, name by name; all names but the last must lead to a directory, and a file is
created under the last unless a directory stands there. A path that ends in a slash, or in one of
the two names that every directory has for itself and its parent, speaks of a directory and never of
a file.

A path may lead out into the surroundings, and one that begins with a slash is out from the start.
A file that is written there is not part of the working directory and does not show.
-/

namespace SyntaxOutline

/-- **What a path leads to** when a file is to be created there. -/
inductive Place where
  /-- A file in the working directory, by the names that lead to it. -/
  | file (names : List String)
  /-- A file elsewhere. -/
  | elsewhere
  | device (device : Device)
  deriving DecidableEq

/-- What a device says when bytes are to be passed on to it, if it refuses them. -/
def Device.refusal? : Device → Option String
  | .full => some "No space left on device (os error 28)"
  | .faulty => some "Input/output error (os error 5)"
  | _ => none

/-- **A working directory.** -/
structure Workdir where
  /-- The directories in it, by the names that lead to them. -/
  directories : List (List String)
  /-- The files in it, by the names that lead to them, and their contents. -/
  entries : List (List String × ByteArray)

namespace Workdir

/-- The names in a path. -/
def names (path : String) : List String :=
  (path.splitOn "/").filter (· ≠ "")

/-- The directories that the given names lead through, the last one included. -/
def along (names : List String) : List (List String) :=
  (List.range names.length).map fun count => names.take (count + 1)

/-- The working directory with the given directories and files, and the directories these are
in. -/
def ofPaths (directories : List String) (files : List (String × ByteArray)) : Workdir where
  directories :=
    directories.flatMap (fun path => along (names path)) ++
      files.flatMap (fun (path, _) => along (names path).dropLast)
  entries := files.map fun (path, contents) => (names path, contents)

/-- What is left of names that lead from the root into the working directory. -/
def inside? (names : List String) : Option (List String) :=
  if Surroundings.home.isPrefixOf names then some (names.drop Surroundings.home.length) else none

/-- What stands under names that lead from the root. -/
def entry? (workdir : Workdir) (names : List String) : Option Entry :=
  match inside? names with
  | none => Surroundings.entry? names
  | some inner =>
    if inner = [] ∨ inner ∈ workdir.directories then some (.directory none)
    else if inner ∈ workdir.entries.map Prod.fst then some .file
    else none

/-- What stands under names, beyond a link if there is one, and the names it has of its own. -/
def follow (workdir : Workdir) (names : List String) : List String × Option Entry :=
  match workdir.entry? names with
  | some (.link target) => (target, workdir.entry? target)
  | entry => (names, entry)

/-- Whether a name is longer than a directory allows. One that takes no new files does not look at
that. -/
def tooLong (workdir : Workdir) (here : List String) (name : String) : Bool :=
  workdir.entry? here = some (.directory none) && 255 < name.utf8ByteSize

/-- Goes on by one name from the directory that the names before it have led to. -/
def enter (workdir : Workdir) (here : List String) (name : String) :
    Except Refusal (List String) :=
  if name = "." then .ok here
  else if name = ".." then .ok here.dropLast
  else if workdir.tooLong here name then .error .nameTooLong
  else
    match workdir.follow (here ++ [name]) with
    | (there, some (.directory _)) => .ok there
    | (_, some _) => .error .notDirectory
    | (_, none) => .error .notFound

/-- What names lead to when a file is to be created under them. -/
def placeAt (names : List String) : Place :=
  match inside? names with
  | some inner => .file inner
  | none => .elsewhere

/-- What a last name leads to from the directory that the names before it have led to. -/
def last (workdir : Workdir) (here : List String) (name : String) (slash : Bool) :
    Except Refusal Place :=
  if slash ∨ name = "." ∨ name = ".." then .error .isDirectory
  else if workdir.tooLong here name then .error .nameTooLong
  else
    match workdir.follow (here ++ [name]) with
    | (_, some (.directory _)) => .error .isDirectory
    | (_, some (.device .absent)) => .error .noDevice
    | (_, some (.device device)) => .ok (.device device)
    | (there, some _) => .ok (placeAt there)
    | (there, none) =>
      match workdir.entry? here with
      | some (.directory (some refusal)) => .error refusal
      | _ => .ok (placeAt there)

/-- **What a path leads to** when a file is to be created there. -/
def place (workdir : Workdir) (path : String) : Except Refusal Place :=
  if 4096 ≤ path.utf8ByteSize then .error .nameTooLong
  else
    match (names path).reverse with
    | [] => .error .isDirectory
    | name :: before => do
      let start := if path.startsWith "/" then [] else Surroundings.home
      let here ← before.reverse.foldlM workdir.enter start
      workdir.last here name (path.endsWith "/")

/-- Gives a file its contents, whatever it held before. -/
def store (names : List String) (contents : ByteArray) (workdir : Workdir) : Workdir :=
  { workdir with
    entries := workdir.entries.filter (·.1 ≠ names) ++ [(names, contents)] }

/-- The contents of a file, if there is one under the names. -/
def contents? (workdir : Workdir) (names : List String) : Option ByteArray :=
  workdir.entries.lookup names

/-- The files that stand in the working directory itself. -/
def topFiles (workdir : Workdir) : List (String × ByteArray) :=
  workdir.entries.filterMap fun (names, contents) =>
    match names with
    | [name] => some (name, contents)
    | _ => none

/-- A file that was stored has the contents that it was stored with. -/
theorem contents?_store (names : List String) (contents : ByteArray) (workdir : Workdir) :
    (workdir.store names contents).contents? names = some contents := by
  have hgone : (workdir.entries.filter (·.1 ≠ names)).lookup names = none := by
    refine List.lookup_eq_none_iff.2 fun entry hentry => ?_
    have hne : entry.1 ≠ names := of_decide_eq_true (List.mem_filter.1 hentry).2
    exact bne_iff_ne.2 hne.symm
  rw [contents?, store, List.lookup_append, hgone, Option.none_or, List.lookup_cons_self]

/-- Every other file has the contents that it had. -/
theorem contents?_store_of_ne {names other : List String} (h : other ≠ names)
    (contents : ByteArray) (workdir : Workdir) :
    (workdir.store names contents).contents? other = workdir.contents? other := by
  have hkept (entries : List (List String × ByteArray)) :
      (entries.filter (·.1 ≠ names)).lookup other = entries.lookup other := by
    induction entries with
    | nil => rfl
    | cons entry rest ih =>
      obtain ⟨name, found⟩ := entry
      by_cases hname : name = names
      · rw [List.filter_cons_of_neg (by simpa using hname), ih, List.lookup_cons, hname,
          beq_eq_false_iff_ne.2 h]
      · rw [List.filter_cons_of_pos (by simpa using hname), List.lookup_cons, List.lookup_cons, ih]
  rw [contents?, contents?, store, List.lookup_append, hkept, List.lookup_cons,
    beq_eq_false_iff_ne.2 h]
  exact Option.or_none

/-- From within the working directory, names lead into it. -/
@[simp] theorem inside?_home_append (inner : List String) :
    inside? (Surroundings.home ++ inner) = some inner := by
  simp [inside?, Surroundings.home]

end Workdir

end SyntaxOutline
