import Bindery.Formatter
import Bindery.Shell.Run

/-!
# A host with programs

The programs that one host can run: the shell and the utilities, by `Program.run`. It stands in for
the system where runs are tried out with formatters that are scripts; a host like that is one
launcher among many, and nothing that is said of runs rests on it.
-/

namespace Bindery.Program

/-- The programs of a host, by the names of their files. -/
def installed : List (String × String) :=
  ["sh", "dash", "bash"].map (·, "sh") ++ Utility.names.map fun name => (name, name)

/-- The directories that every host has. -/
def directories : List Location :=
  ["bin", "dev", "etc", "home", "lib", "mnt", "opt", "proc", "root", "run", "sbin", "srv", "sys",
    "tmp", "usr", "var"].map ([·]) ++
  [["usr", "bin"], ["usr", "lib"], ["usr", "local"], ["usr", "local", "bin"],
    ["usr", "local", "sbin"], ["usr", "sbin"], ["usr", "share"], ["var", "lib"], ["var", "tmp"],
    ["tmp", "work"]]

/-- The files that every host has. -/
def systemFiles : List (Location × String) :=
  [(["etc", "passwd"], "root:x:0:0:root:/root:/bin/bash\n"), (["etc", "group"], "root:x:0:\n"),
    (["etc", "shadow"], "root:*:19700:0:99999:7:::\n"), (["etc", "hostname"], "localhost\n"),
    (["etc", "hosts"], "127.0.0.1\tlocalhost\n"), (["etc", "resolv.conf"], ""),
    (["etc", "fstab"], ""), (["etc", "shells"], "# /etc/shells: valid login shells\n/bin/sh\n")]

/-- A host without files of its own: its programs and devices, and an empty directory to work
in. -/
def emptyHost : FileTree where
  nodes :=
    directories.map (·, .directory) ++
    [(["dev", "null"], .device .null), (["dev", "full"], .device .full),
      (["dev", "zero"], .device .zero), (["dev", "random"], .device .zero),
      (["dev", "urandom"], .device .zero)] ++
    systemFiles.map (fun (place, text) => (place, .file text.toUTF8)) ++
    [["bin"], ["usr", "bin"]].flatMap fun dir =>
      installed.map fun (file, name) => (dir ++ [file], .program name)
  cwd := ["tmp", "work"]

/-- The length from which on an argument is too long for the system. -/
def argumentLimit : Nat := 131072

/-- Runs the file at a path as a program, with nothing to read and its output dropped. It fails if
the file is no program, or if an argument cannot be handed over. -/
def run (tree : FileTree) (path : String) (args : List String) :
    Except SystemError (ExitStatus × FileTree) := do
  if (path :: args).any (·.toList.contains '\x00') then throw .nulArgument
  if args.any fun arg => argumentLimit ≤ arg.utf8ByteSize then throw .argumentsTooLong
  match ← tree.find path with
  | .program "sh" => return Shell.runShell tree path args
  | .program name => return Shell.runUtility tree name path args
  | _ => throw .permissionDenied

/-- The host as a launcher. -/
instance : Launcher where
  searchPath := ["/usr/local/sbin", "/usr/local/bin", "/usr/sbin", "/usr/bin", "/sbin", "/bin"]
  execute := run

end Bindery.Program
