/-!
# Surroundings

What a system has outside the working directory: directories, files and devices, each known by the
names that lead to it from the root. Of all this only what most systems have is listed here, as far
as it takes to try the program out. Some directories are kept by the system itself and take no new
files, and some names are **links**, that is, they stand for what has another name of its own.
-/

namespace SyntaxOutline

/-- **Why a file cannot be created.** -/
inductive Refusal where
  /-- A name on the way leads nowhere. -/
  | notFound
  /-- There is no device behind the name. -/
  | noDevice
  /-- The directory takes no new files. -/
  | notPermitted
  /-- A name on the way leads to a file. -/
  | notDirectory
  /-- The path speaks of a directory. -/
  | isDirectory
  /-- A name, or the whole path, is longer than the system allows. -/
  | nameTooLong
  deriving DecidableEq

/-- The words of the system, with the number it gives the error. -/
def Refusal.text : Refusal → String
  | notFound => "No such file or directory (os error 2)"
  | noDevice => "No such device or address (os error 6)"
  | notPermitted => "Permission denied (os error 13)"
  | notDirectory => "Not a directory (os error 20)"
  | isDirectory => "Is a directory (os error 21)"
  | nameTooLong => "File name too long (os error 36)"

/-- **What a device does with the bytes it is given.** -/
inductive Device where
  /-- It takes and forgets them. -/
  | forgetful
  /-- It never has room for any. -/
  | full
  /-- It fails when it is given any. -/
  | faulty
  /-- It passes them on as output of the program. -/
  | output
  /-- It passes them on as errors of the program. -/
  | errors
  /-- There is nothing that could take them. -/
  | absent
  deriving DecidableEq

/-- **What stands under a name.** -/
inductive Entry where
  /-- A directory, and what it says to a new file if it takes none. -/
  | directory (closed : Option Refusal)
  | file
  | device (device : Device)
  /-- What stands under other names, given from the root. -/
  | link (names : List String)
  deriving DecidableEq

namespace Surroundings

/-- The names that lead to the working directory. By what name it goes itself is not known; no path
has the empty name. -/
def home : List String := ["tmp", ""]

/-- The directories that take new files. -/
def ordinary : List String :=
  ["", "boot", "dev", "dev/shm", "etc", "home", "media", "mnt", "opt", "root", "run", "run/lock",
    "srv", "tmp", "usr", "usr/bin", "usr/games", "usr/include", "usr/lib", "usr/lib64",
    "usr/local", "usr/local/bin", "usr/local/etc", "usr/local/include", "usr/local/lib",
    "usr/local/sbin", "usr/local/share", "usr/local/src", "usr/sbin", "usr/share", "usr/src",
    "var", "var/backups", "var/cache", "var/lib", "var/local", "var/log", "var/mail", "var/opt",
    "var/spool", "var/tmp"]

/-- The directories in which every name that leads anywhere was there from the start. -/
def fixed : List String :=
  ["proc", "proc/1", "proc/self", "proc/self/fd", "proc/self/ns", "proc/self/task", "proc/sys",
    "proc/sys/kernel"]

/-- The directories that permit no new files. -/
def guarded : List String :=
  ["dev/pts", "sys", "sys/block", "sys/bus", "sys/class", "sys/dev", "sys/devices",
    "sys/firmware", "sys/fs", "sys/kernel", "sys/module", "sys/power"]

/-- The files. -/
def files : List String :=
  ["etc/group", "etc/hostname", "etc/hosts", "etc/passwd", "etc/resolv.conf", "etc/shadow",
    "usr/bin/bash", "usr/bin/cat", "usr/bin/env", "usr/bin/false", "usr/bin/ls", "usr/bin/sh",
    "usr/bin/true"]

/-- The devices, and the files that only the system itself writes, which behave like faulty ones. -/
def devices : List (String × Device) :=
  [("dev/full", .full), ("dev/null", .forgetful), ("dev/ptmx", .forgetful),
    ("dev/random", .forgetful), ("dev/tty", .absent), ("dev/urandom", .forgetful),
    ("dev/zero", .forgetful), ("proc/cpuinfo", .faulty), ("proc/loadavg", .faulty),
    ("proc/meminfo", .faulty), ("proc/stat", .faulty), ("proc/uptime", .faulty),
    ("proc/version", .faulty), ("proc/self/fd/0", .forgetful), ("proc/self/fd/1", .output),
    ("proc/self/fd/2", .errors)]

/-- The links. -/
def links : List (String × List String) :=
  [("bin", ["usr", "bin"]), ("dev/fd", ["proc", "self", "fd"]),
    ("dev/stderr", ["proc", "self", "fd", "2"]), ("dev/stdin", ["proc", "self", "fd", "0"]),
    ("dev/stdout", ["proc", "self", "fd", "1"]), ("lib", ["usr", "lib"]),
    ("lib64", ["usr", "lib64"]), ("proc/self/cwd", home), ("proc/self/root", []),
    ("proc/thread-self", ["proc", "self"]), ("sbin", ["usr", "sbin"]),
    ("var/lock", ["run", "lock"]), ("var/run", ["run"])]

/-- **What stands under names** that lead from the root, if anything does. -/
def entry? (names : List String) : Option Entry :=
  let path := "/".intercalate names
  if path ∈ ordinary then some (.directory none)
  else if path ∈ fixed then some (.directory (some .notFound))
  else if path ∈ guarded then some (.directory (some .notPermitted))
  else if path ∈ files then some .file
  else
    match devices.lookup path, links.lookup path with
    | some device, _ => some (.device device)
    | none, some target => some (.link target)
    | none, none => none

end Surroundings

end SyntaxOutline
