import TrafficShaper.Error

/-! # The files a run sees

A run of the command line reads its configuration from a file tree: the directories of a Linux
host with `/bin`, `/sbin` and the libraries linked into `/usr`, the process entries of `/proc`,
and the working directory, which sits in `/tmp` under a name no path can spell and holds at
most `config.json`.

A path is a list of components. It is followed from the root if it starts with `/`, else from
the working directory:

* an empty component (from `//` or a trailing `/`) and `.` stay, `..` goes to the parent (the
  root is its own parent);
* a name looks the entry up in the directory reached; a link is followed at once, so `..` after
  a link leaves the directory it leads to;
* any component after a file fails with "not a directory", a missing name with "no such file",
  and more than 40 links with "too many levels of symbolic links";
* a name of more than 255 bytes is "too long" for a directory on disk, and simply missing in
  the kernel's `/proc` and `/sys`; a path of 4096 bytes or more is always too long.

Reading a directory fails with "is a directory", reading a file that is not UTF-8 text with
"stream did not contain valid UTF-8".

* `FileTree.entry`: what a full path of the host names;
* `FileTree.locate`: where a path leads;
* `FileTree.read`: the text at a path, or the system's error.
-/

namespace TrafficShaper

/-- **A directory of the tree**: one of the host by its full path, or the working directory. -/
inductive Dir where
  | host (path : List String)
  | work
  deriving DecidableEq, Repr

/-- The parent of a directory; the root is its own parent, and the working directory's is
`/tmp`. -/
def Dir.parent : Dir → Dir
  | .host path => .host path.dropLast
  | .work => .host ["tmp"]

/-- Whether a directory belongs to the kernel's `/proc` or `/sys`, whose lookups take names of
any length. -/
def Dir.isKernel : Dir → Bool
  | .host ("proc" :: _) => true
  | .host ("sys" :: _) => true
  | _ => false

/-- **What a name names**: a directory, a file of text, a file that is not text, or a link,
followed as the components `path` from the directory `start`. -/
inductive Entry where
  | directory
  | text (content : String)
  | binary
  | link (start : Dir) (path : List String)
  deriving DecidableEq, Repr

/-- A link to a full path of the host. -/
def Entry.linkTo (path : List String) : Entry := .link (.host []) path

/-- **A file tree**: the text of `config.json` in the working directory, if there is one, and
the arguments of the process after its name. -/
structure FileTree where
  configFile : Option String
  arguments : List String

/-- The process number of the run. -/
def selfNumber : String := "7"

/-- The path of the program, as its command line starts. -/
def programPath : String := "/opt/netsim/netsim"

/-- The process's command line: its path and arguments, each ended by a zero character. -/
def FileTree.commandText (t : FileTree) : String :=
  String.join ((programPath :: t.arguments).map fun a => a ++ "\x00")

/-- The top directories of the host that are directories, not links. -/
def topDirectories : List String :=
  ["boot", "dev", "etc", "home", "media", "mnt", "opt", "proc", "root", "run", "srv", "sys", "tmp",
    "usr", "var"]

/-- Directories in `/usr`. -/
def systemDirectories : List String :=
  ["bin", "sbin", "lib", "lib64", "share", "include", "local", "src", "games"]

/-- Directories in `/sys`. -/
def kernelDirectories : List String :=
  ["block", "bus", "class", "dev", "devices", "firmware", "fs", "kernel", "module", "power"]

/-- Programs installed in `/usr/bin`. -/
def programs : List String :=
  ["sh", "bash", "dash", "env", "cat", "ls", "cp", "mv", "rm", "mkdir", "echo", "true", "false",
    "sleep", "uname", "date", "grep", "sed", "tar", "gzip"]

/-- Directories in the entry of every process. -/
def processDirectories : List String := ["task", "ns", "fd", "fdinfo", "net", "attr"]

/-- **What a path names inside a process's entry** of `/proc`, for the run itself or another
process, whose working directory is the root. -/
def FileTree.processEntry (t : FileTree) (isSelf : Bool) : List String → Option Entry
  | [] => some .directory
  | ["cwd"] => some (if isSelf then .link .work [] else Entry.linkTo [])
  | ["root"] => some (Entry.linkTo [])
  | ["exe"] => some .binary
  | ["personality"] => some (.text "00000000\n")
  | ["fd", "0"] => if isSelf then some (Entry.linkTo ["dev", "null"]) else none
  | ["comm"] => if isSelf then some (.text "netsim\n") else none
  | ["cmdline"] => if isSelf then some (.text t.commandText) else none
  | ["status"] => if isSelf then some (.text "Name:\tnetsim\n") else none
  | ["environ"] => if isSelf then some (.text "PATH=/usr/local/bin:/usr/bin:/bin\x00") else none
  | [name] => if processDirectories.contains name then some .directory else none
  | _ => none

/-- **What a full path of the host names**, if anything. -/
def FileTree.entry (t : FileTree) : List String → Option Entry
  | [] => some .directory
  | ["bin"] => some (Entry.linkTo ["usr", "bin"])
  | ["sbin"] => some (Entry.linkTo ["usr", "sbin"])
  | ["lib"] => some (Entry.linkTo ["usr", "lib"])
  | ["lib64"] => some (Entry.linkTo ["usr", "lib64"])
  | [top] => if topDirectories.contains top then some .directory else none
  | ["dev", "null"] => some (.text "")
  | ["dev", "stdin"] => some (Entry.linkTo ["proc", "self", "fd", "0"])
  | ["dev", "fd"] => some (Entry.linkTo ["proc", "self", "fd"])
  | ["dev", "shm"] => some .directory
  | ["dev", "pts"] => some .directory
  | ["etc", "passwd"] => some (.text "root:x:0:0:root:/root:/bin/sh\n")
  | ["etc", "group"] => some (.text "root:x:0:\n")
  | ["etc", "os-release"] => some (Entry.linkTo ["usr", "lib", "os-release"])
  | ["usr", "lib", "os-release"] => some (.text "PRETTY_NAME=\"Linux\"\n")
  | ["usr", "bin", name] => if programs.contains name then some .binary else none
  | ["usr", name] => if systemDirectories.contains name then some .directory else none
  | ["sys", name] => if kernelDirectories.contains name then some .directory else none
  | ["proc", "self"] => some (Entry.linkTo ["proc", selfNumber])
  | ["proc", "net"] => some (Entry.linkTo ["proc", "self", "net"])
  | ["proc", "version"] => some (.text "Linux version 6.1.0\n")
  | ["proc", "cpuinfo"] => some (.text "processor\t: 0\n")
  | ["proc", "meminfo"] => some (.text "MemTotal:       1048576 kB\n")
  | ["proc", "stat"] => some (.text "cpu  0 0 0 0\n")
  | ["proc", "filesystems"] => some (.text "nodev\tsysfs\n")
  | ["proc", "sys"] => some .directory
  | "proc" :: number :: rest =>
    if number = selfNumber then t.processEntry true rest
    else if number = "1" then t.processEntry false rest
    else none
  | _ => none

/-- **What a name in a directory names.** The working directory holds only `config.json`. -/
def FileTree.child (t : FileTree) : Dir → String → Option Entry
  | .host path, name => t.entry (path ++ [name])
  | .work, name => if name = "config.json" then t.configFile.map .text else none

/-- Where a path has led: a directory, a file's entry, or a failure. -/
inductive Place where
  | directory (d : Dir)
  | file (e : Entry)
  | failed (e : IoError)
  deriving DecidableEq, Repr

/-- How many links a path may pass through. -/
def linkLimit : Nat := 40

/-- **Following components** from the directory `here`, with `links` links still allowed. A
link puts its own components before the rest and starts again from where it begins. -/
def FileTree.walk (t : FileTree) (links : Nat) (here : Dir) : List String → Place
  | [] => .directory here
  | name :: rest =>
    if name = "" || name = "." then t.walk links here rest
    else if name = ".." then t.walk links here.parent rest
    else if 255 < name.utf8ByteSize && !here.isKernel then .failed .nameTooLong
    else
      match t.child here name with
      | none => .failed .notFound
      | some .directory =>
        match here with
        | .host path => t.walk links (.host (path ++ [name])) rest
        | .work => .failed .notFound
      | some (.link start path) =>
        match links with
        | 0 => .failed .tooManyLinks
        | n + 1 => t.walk n start (path ++ rest)
      | some e => if rest.isEmpty then .file e else .failed .notDirectory
termination_by rest => (links, rest.length)

/-- **Where a path leads**, from the root or the working directory. -/
def FileTree.locate (t : FileTree) (path : String) : Place :=
  if path = "" then .failed .notFound
  else if 4096 ≤ path.utf8ByteSize then .failed .nameTooLong
  else
    let start := if path.startsWith "/" then Dir.host [] else Dir.work
    t.walk linkLimit start (path.splitOn "/")

/-- **Reading a file**: its text, or the system's error. -/
def FileTree.read (t : FileTree) (path : String) : Except IoError String :=
  match t.locate path with
  | .file (.text s) => .ok s
  | .file _ => .error .invalidText
  | .directory _ => .error .isDirectory
  | .failed e => .error e

end TrafficShaper
