/-
# A machine

The machine on which the programs were tried out, as far as its tree of files tells one
machine from another.  Things that come and go with single devices are left out.

The directory of a process lies in the folder for temporary files, under a name that nobody
knows beforehand; it stands under the empty name, which no path can spell.
-/

import HeapFixtures.Linux.Tables.Device
import HeapFixtures.Linux.Tables.Process
import HeapFixtures.Linux.Tables.Setting
import HeapFixtures.Linux.Tables.Standard

namespace HeapFixtures
namespace Linux

def home : Names := ["tmp", ""]

/-- A process stands under its number, to which its own name for itself is a link.  What it
has for its streams is no folder, wherever it leads. -/
def links : List Link :=
  let own := ["proc", "self"]
  let thread := own ++ ["task", ownThread]
  [⟨["bin"], ["usr", "bin"], 1⟩, ⟨["sbin"], ["usr", "sbin"], 1⟩,
   ⟨["lib"], ["usr", "lib"], 1⟩, ⟨["lib64"], ["usr", "lib64"], 1⟩,
   ⟨["var", "run"], ["run"], 1⟩, ⟨["var", "lock"], ["run", "lock"], 1⟩,
   ⟨own, own, 1⟩, ⟨["proc", "thread-self"], thread, 1⟩,
   ⟨["proc", "net"], own ++ ["net"], 2⟩,
   ⟨own ++ ["cwd"], home, 1⟩, ⟨own ++ ["root"], [], 1⟩,
   ⟨thread ++ ["cwd"], home, 1⟩, ⟨thread ++ ["root"], [], 1⟩,
   ⟨["dev", "fd"], own ++ ["fd"], 2⟩, ⟨["dev", "stdin"], own ++ ["fd", "0"], 3⟩,
   ⟨["dev", "stdout"], own ++ ["fd", "1"], 3⟩, ⟨["dev", "stderr"], own ++ ["fd", "2"], 3⟩]

/-- Places at which a realm could begin, but none does, show nothing. -/
def realms : List (Names × Realm) :=
  (names "blkio cpu cpuacct cpuset devices freezer memory pids systemd unified").map
    (fun name => (["sys", "fs", "cgroup", name], .groups)) ++
  [(["sys", "fs", "cgroup"], .ordinary),
   (["sys", "fs", "bpf"], .view), (["sys", "fs", "fuse", "connections"], .view),
   (["sys", "fs", "pstore"], .view), (["sys", "kernel", "debug"], .view),
   (["sys", "kernel", "security"], .view), (["sys", "kernel", "tracing"], .view),
   (["sys"], .objects), (["dev", "pts"], .terminals), (["proc"], .view)]

/-- The machine.  A block that grows asks it only for what it grows by, so one that doubles
reaches twice the memory. -/
def tried : Machine where
  home := home
  listings := standard ++ devices ++ objects ++ processes ++ settings
  links := links
  realms := realms
  memory := 34359738368
  blockLimit := 68719476736

end Linux
end HeapFixtures
