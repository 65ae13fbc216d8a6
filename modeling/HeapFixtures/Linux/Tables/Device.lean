/-
# Devices as files
-/

import HeapFixtures.Linux.Machine

namespace HeapFixtures
namespace Linux

/-- The devices that can be read and written. -/
def devices : List Listing :=
  [.of ["dev"] "cpu net pts shm"
     "autofs btrfs-control console cpu_dma_latency full fuse hwrng kmsg kvm loop-control loop0
      loop1 loop2 loop3 loop4 loop5 loop6 loop7 null ptmx random tty tty0 tty1 tty10 tty11 tty12
      tty13 tty14 tty15 tty16 tty17 tty18 tty19 tty2 tty20 tty21 tty22 tty23 tty24 tty25 tty26
      tty27 tty28 tty29 tty3 tty30 tty31 tty32 tty33 tty34 tty35 tty36 tty37 tty38 tty39 tty4
      tty40 tty41 tty42 tty43 tty44 tty45 tty46 tty47 tty48 tty49 tty5 tty50 tty51 tty52 tty53
      tty54 tty55 tty56 tty57 tty58 tty59 tty6 tty60 tty61 tty62 tty63 tty7 tty8 tty9 ttyS0
      urandom userfaultfd vcs vcs1 vcsa vcsa1 vcsu vcsu1 vda vdb vga_arbiter vsock zero zram0",
   .of ["dev", "cpu"] "0 1 2 3" "",
   .of ["dev", "net"] "" "tun",
   .of ["dev", "pts"] "" "ptmx"]

/-- What the devices are, and the parts of the system that look after them. -/
def objects : List Listing :=
  [.of ["sys"] "block bus class dev devices firmware fs kernel module power" "",
   .of ["sys", "block"] "loop0 loop1 loop2 loop3 loop4 loop5 loop6 loop7 vda vdb zram0" "",
   .of ["sys", "bus"]
     "acpi clockevents clocksource container cpu dax event_source faux hid mei memory
      memory_tiering nd node pci platform pnp serial serial-base virtio workqueue"
     "",
   .of ["sys", "class"]
     "bdi block bsg cpuid devlink dma firmware hidraw input iommu macvtap mei mem misc nd net
      pci_bus power_supply pps ptp thermal tty vc virtio-ports vtconsole watchdog xt_idletimer
      zram-control"
     "",
   .of ["sys", "class", "mem"] "full kmsg null random urandom zero" "",
   .of ["sys", "class", "net"] "eth0 lo" "",
   .of ["sys", "class", "net", "lo"] "power queues statistics subsystem"
     "addr_assign_type addr_len address broadcast carrier carrier_changes carrier_down_count
      carrier_up_count dev_id dev_port dormant duplex flags gro_flush_timeout ifalias ifindex
      iflink link_mode mtu name_assign_type napi_defer_hard_irqs netdev_group operstate
      proto_down speed testing threaded tx_queue_len type uevent",
   .of ["sys", "dev"] "block char" "",
   .of ["sys", "devices"]
     "LNXSYSTM:00 breakpoint faux msr pci0000:00 platform pnp0 software system tracepoint uprobe
      virtual"
     "",
   .of ["sys", "devices", "system"] "clockevents clocksource container cpu memory node" "",
   .of ["sys", "devices", "system", "cpu"]
     "cpu0 cpu1 cpu2 cpu3 cpufreq cpuidle hotplug power smt vulnerabilities"
     "enabled isolated kernel_max modalias offline online possible present uevent",
   .of ["sys", "devices", "virtual"]
     "bdi block cpuid mem memory_tiering misc net tty vc vtconsole workqueue xt_idletimer"
     "",
   .of ["sys", "firmware"] "acpi memmap" "",
   .of ["sys", "fs"] "bpf btrfs cgroup erofs ext4 fuse pstore tmpfs xfs" "",
   .of ["sys", "fs", "cgroup"]
     "blkio cpu cpuacct cpuset devices freezer memory pids systemd unified"
     "",
   .of ["sys", "fs", "fuse"] "connections" "",
   .of ["sys", "kernel"]
     "boot_params btf cgroup debug iommu_groups irq mm reboot security slab software_nodes
      tracing"
     "address_bits cpu_byteorder fscaps hardlockup_count notes oops_count profiling rcu_expedited
      rcu_normal rcu_stall_count softlockup_count uevent_seqnum vmcoreinfo warn_count",
   .of ["sys", "kernel", "boot_params"] "" "data version",
   .of ["sys", "kernel", "btf"] "" "vmlinux",
   .of ["sys", "kernel", "cgroup"] "" "delegate features",
   .of ["sys", "kernel", "mm"] "damon hugepages ksm mempolicy numa swap transparent_hugepage" "",
   .of ["sys", "kernel", "mm", "hugepages"] "hugepages-1048576kB hugepages-2048kB" "",
   .of ["sys", "kernel", "mm", "ksm"] ""
     "advisor_max_cpu advisor_max_pages_to_scan advisor_min_pages_to_scan advisor_mode
      advisor_target_scan_time full_scans general_profit ksm_zero_pages max_page_sharing
      merge_across_nodes pages_scanned pages_shared pages_sharing pages_skipped pages_to_scan
      pages_unshared pages_volatile run sleep_millisecs smart_scan stable_node_chains
      stable_node_chains_prune_millisecs stable_node_dups use_zero_pages",
   .of ["sys", "kernel", "mm", "transparent_hugepage"]
     "hugepages-1024kB hugepages-128kB hugepages-16kB hugepages-2048kB hugepages-256kB
      hugepages-32kB hugepages-512kB hugepages-64kB hugepages-8kB khugepaged"
     "anon_beside_full defrag enabled hpage_pmd_size shmem_enabled shrink_underused use_zero_page",
   .of ["sys", "kernel", "reboot"] "" "cpu force hw_protection mode type",
   .of ["sys", "module"]
     "8250 acpi amd_uncore blk_cgroup block bridge clocksource compaction cpufreq cpuidle
      cpuidle_haltpoll cryptomgr dns_resolver eeprom_93cx6 erofs firmware_class fscrypto fuse
      haltpoll hid intel_idle ip_set ipv6 jbd2 kernel keyboard kvm libnvdimm loop memory_hotplug
      nf_conntrack nf_conntrack_amanda nf_conntrack_ftp nf_conntrack_h323 nf_conntrack_irc
      nf_conntrack_netbios_ns nf_conntrack_sane nf_conntrack_sip nf_conntrack_snmp
      nf_conntrack_tftp nmi_backtrace overlay page_alloc page_reporting pcie_aspm pnp printk
      processor pstore pvclock random rcupdate rcutree rng_core sch_htb secretmem slab_common
      spurious srcutree tcp_cubic virtio_blk virtio_mem virtio_net virtio_pci
      virtio_pci_modern_dev vmw_vsock_virtio_transport vsock vt vxlan watchdog workqueue
      x86_pkg_temp_thermal xt_recent xz_dec zswap"
     "",
   .of ["sys", "power"] "" "pm_freeze_timeout state"]

end Linux
end HeapFixtures
