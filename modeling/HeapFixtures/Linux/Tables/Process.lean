/-
# Processes as files

A process finds itself there under a name of its own, its thread below it, and the first process
of all.  The thread that asks stands under the empty name, which no path can spell.
-/

import HeapFixtures.Linux.Machine

namespace HeapFixtures
namespace Linux

/-- The name of the thread that asks. -/
def ownThread : String := ""

/-- The files of a process and of each thread. -/
def threadFiles : List String := names
  "arch_status auxv cgroup clear_refs cmdline comm cpuset environ gid_map io ksm_merging_pages
   ksm_stat limits loginuid maps mem mountinfo mounts numa_maps oom_adj oom_score oom_score_adj
   pagemap personality projid_map sched schedstat sessionid setgroups smaps smaps_rollup stack
   stat statm status syscall uid_map wchan"

/-- The files that a process has and a thread has not. -/
def processFiles : List String := names
  "autogroup coredump_filter mountstats timens_offsets timers timerslack_ns"

def networkFiles : List String := names
  "anycast6 arp arp_tables_matches arp_tables_names arp_tables_targets connector dev dev_mcast
   fib_trie fib_triestat icmp icmp6 if_inet6 igmp igmp6 ip6_flowlabel ip6_mr_cache ip6_mr_vif
   ip6_tables_matches ip6_tables_names ip6_tables_targets ip_mr_cache ip_mr_vif ip_tables_matches
   ip_tables_names ip_tables_targets ipv6_route mcfilter mcfilter6 netlink netstat nf_conntrack
   nf_conntrack_expect packet pnp protocols psched ptype raw raw6 route rt6_stats rt_acct
   rt_cache snmp snmp6 sockstat sockstat6 softnet_stat tcp tcp6 udp udp6 udplite udplite6 unix
   xfrm_stat"

/-- The spaces that a process lives in, such as its network and its users. -/
def spaceFiles : List String := names
  "cgroup ipc mnt net pid pid_for_children time time_for_children user uts"

def streamFiles : List String := names "0 1 2"

/-- The names in a folder that lead into a process: files for the process itself, and closed
for any other. -/
def guarded (own : Bool) (folder : Names) (folders files guarded : List String) : Listing :=
  if own then ⟨folder, folders, files ++ guarded, []⟩ else ⟨folder, folders, files, guarded⟩

def networkView (top : Names) : List Listing :=
  let folder := top ++ ["net"]
  [⟨folder, names "dev_snmp6 ip6t_hashlimit ipconfig ipt_hashlimit netfilter stat xt_recent",
      networkFiles, []⟩,
   .of (folder ++ ["dev_snmp6"]) "" "eth0 lo",
   .of (folder ++ ["ipconfig"]) "" "ntp_servers",
   .of (folder ++ ["netfilter"]) "" "nf_log nfnetlink_log nfnetlink_queue",
   .of (folder ++ ["stat"]) "" "arp_cache ndisc_cache nf_conntrack rt_cache synproxy"]

/-- What the views of a process and of a thread have in common.  The folders in which a
process runs and begins are no files for the process itself: there its paths go on. -/
def commonView (own : Bool) (top : Names) (folders files : List String) : List Listing :=
  [guarded own top (folders ++ names "attr fd fdinfo net ns") (files ++ threadFiles)
      (if own then ["exe"] else names "cwd exe root"),
   .of (top ++ ["attr"]) "" "current exec fscreate keycreate prev sockcreate",
   guarded own (top ++ ["fd"]) [] [] streamFiles,
   ⟨top ++ ["fdinfo"], [], streamFiles, []⟩,
   guarded own (top ++ ["ns"]) [] [] spaceFiles] ++
  networkView top

def processView (own : Bool) (process thread : String) : List Listing :=
  let top := ["proc", process]
  commonView own top (names "map_files task") processFiles ++
  ⟨top ++ ["task"], [thread], [], []⟩ ::
  commonView own (top ++ ["task", thread]) [] ["children"]

/-- The system as it shows itself beside its processes. -/
def systemView : List Listing :=
  [.of ["proc"] "1 acpi bus driver fs irq pressure self sys sysvipc tty"
     "buddyinfo cgroups cmdline config.gz consoles cpuinfo crypto devices diskstats dma
      execdomains filesystems interrupts iomem ioports kallsyms key-users keys kmsg kpagecgroup
      kpagecount kpageflags loadavg locks meminfo misc mounts mtrr pagetypeinfo partitions
      slabinfo softirqs stat swaps timer_list uptime version vmallocinfo vmstat zoneinfo",
   .of ["proc", "bus"] "input pci" "",
   .of ["proc", "bus", "input"] "" "devices handlers",
   .of ["proc", "bus", "pci"] "00" "devices",
   .of ["proc", "fs"] "ext4 jbd2 nfsd xfs" "",
   .of ["proc", "fs", "ext4"] "vda" "",
   .of ["proc", "fs", "xfs"] "" "stat",
   .of ["proc", "irq"] "" "default_smp_affinity",
   .of ["proc", "pressure"] "" "cpu io memory",
   .of ["proc", "sysvipc"] "" "msg sem shm",
   .of ["proc", "tty"] "driver ldisc" "drivers ldiscs",
   .of ["proc", "tty", "driver"] "" "serial"]

/-- The processes that are known: the one that asks and the first. -/
def processes : List Listing :=
  systemView ++ processView true "self" ownThread ++ processView false "1" "1"

end Linux
end HeapFixtures
