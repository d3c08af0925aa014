import EventBus.Trial.FileTree

/-!
# The files of every system

The directories of the standard hierarchy, the devices and the tables that a system has wherever it runs,
and the description of the running process. Nothing else stands anywhere.
-/

namespace EventBus.Trial

/-- Where paths without a leading slash start: a directory in the root that no path leads down to, since
its name is empty. -/
def workingDirectory : Place := [""]

namespace FileTree

def files (names : List String) : List (String × FileTree) :=
  names.map (·, file)

/-- Entries that are directories with nothing in them. -/
def folders (names : List String) : List (String × FileTree) :=
  names.map (·, directory [])

/-- The devices, and the streams of the process as links. -/
def devices : FileTree :=
  directory <|
    files ["full", "null", "ptmx", "random", "tty", "urandom", "zero"] ++
    folders ["pts", "shm"] ++
    [("fd", link ["proc", "self", "fd"]),
      ("stdin", link ["proc", "self", "fd", "0"]),
      ("stdout", link ["proc", "self", "fd", "1"]),
      ("stderr", link ["proc", "self", "fd", "2"])]

def settings : FileTree :=
  directory <|
    files ["fstab", "group", "gshadow", "host.conf", "hostname", "hosts", "ld.so.cache", "ld.so.conf",
      "machine-id", "mtab", "nsswitch.conf", "os-release", "passwd", "profile", "protocols", "resolv.conf",
      "services", "shadow", "shells"] ++
    folders ["default", "init.d", "opt", "profile.d", "security", "skel", "ssl", "systemd"]

def process : FileTree :=
  directory
    (files ["auxv", "cgroup", "cmdline", "comm", "environ", "exe", "io", "limits", "maps", "mem",
      "mountinfo", "mounts", "mountstats", "oom_adj", "oom_score", "oom_score_adj", "pagemap", "sched",
      "smaps", "stat", "statm", "status", "wchan"] ++
    folders ["attr", "fdinfo", "map_files", "net", "ns", "task"] ++
    [("cwd", link workingDirectory), ("root", link []), ("fd", directory (files ["0", "1", "2"]))])
    true

/-- The processes and the state of the system: of the processes, the running one and the first. -/
def processes : FileTree :=
  directory <|
    files ["cgroups", "cmdline", "consoles", "cpuinfo", "crypto", "devices", "diskstats", "filesystems",
      "interrupts", "iomem", "ioports", "kallsyms", "kmsg", "loadavg", "locks", "meminfo", "misc",
      "modules", "partitions", "slabinfo", "softirqs", "stat", "swaps", "timer_list", "uptime", "version",
      "vmstat", "zoneinfo"] ++
    folders ["bus", "driver", "fs", "irq", "sys", "sysvipc", "tty"] ++
    [("mounts", link ["proc", "self", "mounts"]), ("net", link ["proc", "self", "net"]),
      ("self", process), ("1", process)]

def programs : FileTree :=
  directory <|
    folders ["games", "include", "lib", "lib64", "libexec", "sbin", "share", "src"] ++
    [("bin", directory (files ["[", "awk", "bash", "cat", "chmod", "chown", "cp", "cut", "date", "dd", "df",
        "diff", "echo", "env", "expr", "false", "find", "grep", "gzip", "head", "hostname", "id", "kill",
        "ln", "ls", "mkdir", "mkfifo", "mknod", "mktemp", "mount", "mv", "nice", "nohup", "od", "passwd",
        "perl", "printf", "ps", "pwd", "rm", "rmdir", "sed", "sh", "sleep", "sort", "stat", "su", "sync", "tail",
        "tar", "tee", "test", "touch", "tr", "true", "umount", "uname", "uniq", "wc", "which", "whoami",
        "xargs", "yes"])),
      ("local", directory (folders ["bin", "etc", "games", "include", "lib", "sbin", "share", "src"]))]

/-- What programs keep while they run and afterwards. -/
def variableData : FileTree :=
  directory <|
    folders ["backups", "cache", "lib", "local", "log", "mail", "opt", "spool", "tmp"] ++
    [("lock", link ["run", "lock"]), ("run", link ["run"])]

def standard : FileTree :=
  directory <|
    folders ["", "boot", "home", "media", "mnt", "opt", "root", "srv", "tmp"] ++
    [("bin", link ["usr", "bin"]), ("lib", link ["usr", "lib"]), ("lib64", link ["usr", "lib64"]),
      ("sbin", link ["usr", "sbin"]),
      ("dev", devices), ("etc", settings), ("proc", processes), ("run", directory (folders ["lock"])),
      ("sys", directory (folders ["block", "bus", "class", "dev", "devices", "firmware", "fs", "kernel",
        "module", "power"])),
      ("usr", programs), ("var", variableData)]

end FileTree

end EventBus.Trial
