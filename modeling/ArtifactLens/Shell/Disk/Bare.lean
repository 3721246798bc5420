import ArtifactLens.Number.Rounding
import ArtifactLens.Shell.Disk.Change

/-!
# The disk of a bare system

The disk as commands find it: the directories that every system has, some files of theirs, and
programs of given names.
-/

namespace ArtifactLens.Shell

namespace Disk

/-- Accounts of a bare system: the name, its number, its group and its home directory. -/
def accounts : List (String × Nat × Nat × String) :=
  [("root", 0, 0, "/root"), ("daemon", 1, 1, "/usr/sbin"), ("bin", 2, 2, "/bin"),
    ("sys", 3, 3, "/dev"), ("sync", 4, 65534, "/bin"), ("games", 5, 60, "/usr/games"),
    ("man", 6, 12, "/var/cache/man"), ("lp", 7, 7, "/var/spool/lpd"),
    ("mail", 8, 8, "/var/mail"), ("news", 9, 9, "/var/spool/news"),
    ("uucp", 10, 10, "/var/spool/uucp"), ("proxy", 13, 13, "/bin"),
    ("www-data", 33, 33, "/var/www"), ("backup", 34, 34, "/var/backups"),
    ("list", 38, 38, "/var/list"), ("irc", 39, 39, "/run/ircd"),
    ("_apt", 42, 65534, "/nonexistent"), ("nobody", 65534, 65534, "/nonexistent")]

/-- The line of an account in the table of accounts. -/
def accountLine (account : String × Nat × Nat × String) : String :=
  let (name, number, group, home) := account
  let shell := if name = "root" then "/bin/bash"
    else if name = "sync" then "/bin/sync" else "/usr/sbin/nologin"
  let full := match name with
    | "list" => "Mailing List Manager"
    | "irc" => "ircd"
    | "_apt" => ""
    | other => other
  String.intercalate ":" [name, "x", toString number, toString group, full, home, shell] ++ "\n"

/-- Groups of a bare system, with their numbers. -/
def groups : List (String × Nat) :=
  [("root", 0), ("daemon", 1), ("bin", 2), ("sys", 3), ("adm", 4), ("tty", 5), ("disk", 6), ("lp", 7),
    ("mail", 8), ("news", 9), ("uucp", 10), ("man", 12), ("proxy", 13), ("kmem", 15),
    ("dialout", 20), ("fax", 21), ("voice", 22), ("cdrom", 24), ("floppy", 25), ("tape", 26),
    ("sudo", 27), ("audio", 29), ("dip", 30), ("www-data", 33), ("backup", 34), ("operator", 37),
    ("list", 38), ("irc", 39), ("src", 40), ("shadow", 42), ("utmp", 43), ("video", 44),
    ("sasl", 45), ("plugdev", 46), ("staff", 50), ("games", 60), ("users", 100),
    ("nogroup", 65534)]

/-- The line of a group in the table of groups. -/
def groupLine (group : String × Nat) : String :=
  String.intercalate ":" [group.1, "x", toString group.2, ""] ++ "\n"

/-- The directories of a bare system but the root, those above first. -/
def directories : List String :=
  ["/boot", "/dev", "/etc", "/home", "/media", "/mnt", "/opt", "/proc", "/root", "/run", "/srv",
    "/sys", "/tmp", "/usr", "/usr/bin", "/usr/games", "/usr/include", "/usr/lib", "/usr/lib64",
    "/usr/local", "/usr/local/bin", "/usr/local/etc", "/usr/local/games", "/usr/local/include",
    "/usr/local/lib", "/usr/local/sbin", "/usr/local/share", "/usr/local/src", "/usr/sbin",
    "/usr/share", "/usr/src", "/var", "/var/backups", "/var/cache", "/var/lib", "/var/local",
    "/var/log", "/var/mail", "/var/opt", "/var/spool", "/var/tmp", "/dev/pts", "/dev/shm",
    "/dev/fd"]

/-- The permissions of a directory of a bare system. -/
def directoryMode : String → Nat
  | "/tmp" | "/var/tmp" | "/dev/shm" => 0o1777
  | "/root" => 0o700
  | "/proc" | "/sys" => 0o555
  | "/var/local" | "/var/mail" => 0o2755
  | _ => 0o755

/-- The links, devices and files of a bare system. -/
def specials : List (String × FileBody) :=
  [("/bin", .link "usr/bin"), ("/lib", .link "usr/lib"), ("/lib64", .link "usr/lib64"),
    ("/sbin", .link "usr/sbin"), ("/usr/bin/sh", .link "dash"), ("/var/run", .link "/run"),
    ("/var/lock", .link "/run/lock"), ("/dev/null", .device .null), ("/dev/zero", .device .zero),
    ("/dev/full", .device .full), ("/dev/stdin", .device (.descriptor 0)),
    ("/dev/stdout", .device (.descriptor 1)), ("/dev/stderr", .device (.descriptor 2)),
    ("/etc/passwd", .octets (String.join (accounts.map accountLine))),
    ("/etc/group", .octets (String.join (groups.map groupLine))),
    ("/etc/hostname", .octets "localhost\n"), ("/etc/shells", .octets "/bin/sh\n")]

/-- The permissions of a file of a bare system. -/
def bodyMode : FileBody → Nat
  | .octets _ => 0o644
  | .program _ => 0o755
  | .device _ => 0o666
  | _ => 0o777

/-- The moment at which a bare system is found. -/
def start : Int := 1767225600 * 10 ^ 9

/-- The disk of a bare system with programs of given names. -/
def bare (programs : List String) : Disk :=
  let stand : Standpoint := { directory := root, mask := 0, moment := start - 10 ^ 15 }
  let top : DiskFile :=
    { body := .directory .empty root, mode := 0o755
      accessed := stand.moment, modified := stand.moment, changed := stand.moment }
  let put (disk : Disk) (path : String) (body : FileBody) (mode : Nat) : Disk :=
    match disk.make stand path body mode with
    | .ok (disk, _) => disk
    | .error _ => disk
  let disk : Disk := ⟨⟨[(root, top)]⟩, root + 1⟩
  let disk := directories.foldl (fun disk path =>
    put disk path (.directory .empty root) (directoryMode path)) disk
  let disk := specials.foldl (fun disk entry => put disk entry.1 entry.2 (bodyMode entry.2)) disk
  let disk := (List.range 10).foldl (fun disk n =>
    put disk ("/dev/fd/" ++ toString n) (.device (.descriptor n)) 0o700) disk
  programs.foldl (fun disk name => put disk ("/usr/bin/" ++ name) (.program name) 0o755) disk

end Disk

end ArtifactLens.Shell
