import HintFuzz.Files.Basic

/-!
# The tree of a system

The directories, devices and programs that every program finds.
-/

namespace HintFuzz.Files

/-- The programs of the system. -/
def programNames : List String :=
  ["[", "arch", "base32", "base64", "basename", "bash", "cat", "chmod", "cksum", "cmp", "comm",
   "cp", "cut", "dash", "date", "dd", "diff", "dir", "dirname", "echo", "egrep", "env", "expand",
   "expr", "factor", "false", "fgrep", "find", "fold", "grep", "groups", "head", "hostname", "id",
   "kill", "ln", "logname", "ls", "mkdir", "mkfifo", "mktemp", "mv", "nice", "nl", "nohup",
   "nproc", "od", "paste", "printenv", "printf", "pwd", "readlink", "realpath", "rev", "rm",
   "rmdir", "sed", "seq", "setsid", "sh", "sha256sum", "sleep", "sort", "stat", "stdbuf", "sync",
   "tac", "tail", "tee", "test", "timeout", "touch", "tr", "true", "truncate", "tty", "uname",
   "uniq", "unlink", "vdir", "wc", "which", "whoami", "xargs", "yes"]

/-- The mode of a program. -/
def programMode : Nat := 0o755

/-- The users of the system. -/
def users : String :=
  "root:x:0:0:root:/root:/bin/bash\n" ++
  "daemon:x:1:1:daemon:/usr/sbin:/usr/sbin/nologin\n" ++
  "bin:x:2:2:bin:/bin:/usr/sbin/nologin\n" ++
  "nobody:x:65534:65534:nobody:/nonexistent:/usr/sbin/nologin\n"

/-- The groups of the system. -/
def groups : String :=
  "root:x:0:\ndaemon:x:1:\nbin:x:2:\nnogroup:x:65534:\n"

/-- The directories of the system. -/
def directories : List String :=
  ["/boot", "/dev/fd", "/etc", "/home", "/media", "/mnt", "/opt", "/proc", "/root", "/run",
   "/srv", "/sys", "/tmp", "/usr/bin", "/usr/games", "/usr/include", "/usr/lib",
   "/usr/local/bin", "/usr/local/sbin", "/usr/sbin", "/usr/share", "/usr/src", "/var/log",
   "/var/tmp"]

/-- The devices of the system, by their paths. -/
def devices : List (String × Device) :=
  [("/dev/null", .null), ("/dev/full", .full), ("/dev/zero", .zero), ("/dev/random", .random),
   ("/dev/urandom", .random), ("/dev/tty", .terminal), ("/dev/stdin", .standard 0),
   ("/dev/stdout", .standard 1), ("/dev/stderr", .standard 2)] ++
  (List.range 10).map fun number => (s!"/dev/fd/{number}", .standard number)

/-- The links of the system. -/
def links : List (String × String) :=
  [("/bin", "usr/bin"), ("/sbin", "usr/sbin"), ("/lib", "usr/lib")]

/-- The tree of a system without anything else. -/
def system : Files :=
  let files := directories.foldl withDirectory bare
  let files := devices.foldl
    (fun files (path, device) => files.withNode path ⟨.device device, 0o666, 0⟩) files
  let files := links.foldl
    (fun files (path, target) => files.withNode path ⟨.link target, 0o777, 0⟩) files
  let files := programNames.foldl
    (fun files name => files.withNode ("/usr/bin/" ++ name) ⟨.program name, programMode, 0⟩) files
  let files := files.withFile "/etc/passwd" (Text.bytes users)
  let files := files.withFile "/etc/group" (Text.bytes groups)
  match files.child? root "tmp" with
  | some id => files.change id fun node => { node with mode := 0o1777 }
  | none => files

/-- The tree of a system with one directory more, from which relative paths
start. -/
def fresh (here : String) : Files :=
  let (id, files) := system.provide root (names here)
  { files with here := id }

end HintFuzz.Files
