/-
# The settings of a system
-/

import HeapFixtures.Linux.Machine

namespace HeapFixtures
namespace Linux

def settings : List Listing :=
  [.of ["proc", "sys"] "abi debug dev fs kernel net user vm" "",
   .of ["proc", "sys", "abi"] "" "vsyscall32",
   .of ["proc", "sys", "debug"] "" "exception-trace",
   .of ["proc", "sys", "dev"] "tty" "",
   .of ["proc", "sys", "dev", "tty"] "" "ldisc_autoload legacy_tiocsti",
   .of ["proc", "sys", "fs"] "binfmt_misc epoll fanotify fuse inotify mqueue quota xfs"
     "aio-max-nr aio-nr dentry-negative dentry-state dir-notify-enable file-max file-nr inode-nr
      inode-state lease-break-time leases-enable mount-max nr_open overflowgid overflowuid
      pipe-max-size pipe-user-pages-hard pipe-user-pages-soft protected_fifos protected_hardlinks
      protected_regular protected_symlinks suid_dumpable",
   .of ["proc", "sys", "fs", "epoll"] "" "max_user_watches",
   .of ["proc", "sys", "fs", "fanotify"] ""
     "max_queued_events max_user_groups max_user_marks watchdog_timeout",
   .of ["proc", "sys", "fs", "fuse"] ""
     "default_request_timeout max_pages_limit max_request_timeout",
   .of ["proc", "sys", "fs", "inotify"] ""
     "max_queued_events max_user_instances max_user_watches",
   .of ["proc", "sys", "fs", "mqueue"] ""
     "msg_default msg_max msgsize_default msgsize_max queues_max",
   .of ["proc", "sys", "fs", "quota"] ""
     "allocated_dquots cache_hits drops free_dquots lookups reads syncs writes",
   .of ["proc", "sys", "fs", "xfs"] ""
     "error_level filestream_centisecs inherit_noatime inherit_nodefrag inherit_nodump
      inherit_nosymlinks inherit_sync panic_mask rotorstep speculative_prealloc_lifetime
      stats_clear xfssyncd_centisecs",
   .of ["proc", "sys", "kernel"] "firmware_config keys pty random seccomp usermodehelper"
     "acct arch auto_msgmni bootloader_type bootloader_version bpf_stats_enabled cad_pid
      cap_last_cap core_file_note_size_limit core_modes core_pattern core_pipe_limit
      core_sort_vma core_uses_pid ctrl-alt-del dmesg_restrict domainname ftrace_dump_on_oops
      ftrace_enabled hardlockup_all_cpu_backtrace hardlockup_panic hostname
      hung_task_all_cpu_backtrace hung_task_check_count hung_task_check_interval_secs
      hung_task_detect_count hung_task_panic hung_task_timeout_secs hung_task_warnings
      io_delay_type io_uring_disabled io_uring_group kptr_restrict max_lock_depth
      max_rcu_stall_to_panic msg_next_id msgmax msgmnb msgmni ngroups_max nmi_watchdog
      ns_last_pid numa_balancing numa_balancing_promote_rate_limit_MBps oops_all_cpu_backtrace
      oops_limit osrelease ostype overflowgid overflowuid panic panic_on_io_nmi panic_on_oops
      panic_on_rcu_stall panic_on_unrecovered_nmi panic_on_warn panic_print panic_sys_info
      perf_cpu_time_max_percent perf_event_max_contexts_per_stack perf_event_max_sample_rate
      perf_event_max_stack perf_event_mlock_kb perf_event_paranoid pid_max poweroff_cmd
      print-fatal-signals printk printk_delay printk_devkmsg printk_ratelimit
      printk_ratelimit_burst randomize_va_space real-root-dev sched_autogroup_enabled
      sched_cfs_bandwidth_slice_us sched_deadline_period_max_us sched_deadline_period_min_us
      sched_rr_timeslice_ms sched_rt_period_us sched_rt_runtime_us sem sem_next_id shm_next_id
      shm_rmid_forced shmall shmmax shmmni soft_watchdog softlockup_all_cpu_backtrace
      softlockup_panic split_lock_mitigate sysctl_writes_strict tainted task_delayacct
      threads-max timer_migration traceoff_on_warning tracepoint_printk unknown_nmi_panic
      unprivileged_bpf_disabled version warn_limit watchdog watchdog_cpumask watchdog_thresh",
   .of ["proc", "sys", "kernel", "firmware_config"] ""
     "force_sysfs_fallback ignore_sysfs_fallback",
   .of ["proc", "sys", "kernel", "keys"] ""
     "gc_delay maxbytes maxkeys persistent_keyring_expiry root_maxbytes root_maxkeys",
   .of ["proc", "sys", "kernel", "pty"] "" "max nr reserve",
   .of ["proc", "sys", "kernel", "random"] ""
     "boot_id entropy_avail poolsize urandom_min_reseed_secs uuid write_wakeup_threshold",
   .of ["proc", "sys", "kernel", "seccomp"] "" "actions_avail actions_logged",
   .of ["proc", "sys", "kernel", "usermodehelper"] "" "bset inheritable",
   .of ["proc", "sys", "net"] "bridge core ipv4 ipv6 mptcp netfilter unix" "nf_conntrack_max",
   .of ["proc", "sys", "net", "bridge"] ""
     "bridge-nf-call-arptables bridge-nf-call-ip6tables bridge-nf-call-iptables
      bridge-nf-filter-pppoe-tagged bridge-nf-filter-vlan-tagged bridge-nf-pass-vlan-input-dev",
   .of ["proc", "sys", "net", "core"] ""
     "bpf_jit_enable bpf_jit_harden bpf_jit_kallsyms bpf_jit_limit busy_poll busy_read
      default_qdisc dev_weight dev_weight_rx_bias dev_weight_tx_bias devconf_inherit_init_net
      fb_tunnels_only_for_init_net flow_limit_cpu_bitmap flow_limit_table_len gro_normal_batch
      high_order_alloc_disable max_skb_frags mem_pcpu_rsv message_burst message_cost
      netdev_budget netdev_budget_usecs netdev_max_backlog netdev_rss_key netdev_tstamp_prequeue
      netdev_unregister_timeout_secs optmem_max rmem_default rmem_max rps_default_mask
      rps_sock_flow_entries skb_defer_max somaxconn tstamp_allow_data txrehash warnings
      wmem_default wmem_max xfrm_acq_expires xfrm_aevent_etime xfrm_aevent_rseqth
      xfrm_larval_drop",
   .of ["proc", "sys", "net", "ipv4"] "conf neigh route"
     "cipso_cache_bucket_size cipso_cache_enable cipso_rbm_optfmt cipso_rbm_strictvalid
      fib_multipath_hash_fields fib_multipath_hash_policy fib_multipath_hash_seed
      fib_multipath_use_neigh fib_notify_on_flag_change fib_sync_mem fwmark_reflect
      icmp_echo_enable_probe icmp_echo_ignore_all icmp_echo_ignore_broadcasts
      icmp_errors_use_inbound_ifaddr icmp_ignore_bogus_error_responses icmp_msgs_burst
      icmp_msgs_per_sec icmp_ratelimit icmp_ratemask igmp_link_local_mcast_reports
      igmp_max_memberships igmp_max_msf igmp_qrv inet_peer_maxttl inet_peer_minttl
      inet_peer_threshold ip_autobind_reuse ip_default_ttl ip_dynaddr ip_early_demux ip_forward
      ip_forward_update_priority ip_forward_use_pmtu ip_local_port_range ip_local_reserved_ports
      ip_no_pmtu_disc ip_nonlocal_bind ip_unprivileged_port_start ipfrag_high_thresh
      ipfrag_low_thresh ipfrag_max_dist ipfrag_secret_interval ipfrag_time nexthop_compat_mode
      ping_group_range raw_l3mdev_accept tcp_abort_on_overflow tcp_adv_win_scale
      tcp_allowed_congestion_control tcp_app_win tcp_autocorking tcp_available_congestion_control
      tcp_available_ulp tcp_backlog_ack_defer tcp_base_mss tcp_challenge_ack_limit
      tcp_child_ehash_entries tcp_comp_sack_delay_ns tcp_comp_sack_nr tcp_comp_sack_slack_ns
      tcp_congestion_control tcp_dsack tcp_early_demux tcp_early_retrans tcp_ecn tcp_ecn_fallback
      tcp_ecn_option tcp_ecn_option_beacon tcp_ehash_entries tcp_fack tcp_fastopen
      tcp_fastopen_blackhole_timeout_sec tcp_fastopen_key tcp_fin_timeout tcp_frto
      tcp_fwmark_accept tcp_invalid_ratelimit tcp_keepalive_intvl tcp_keepalive_probes
      tcp_keepalive_time tcp_l3mdev_accept tcp_limit_output_bytes tcp_low_latency tcp_max_orphans
      tcp_max_reordering tcp_max_syn_backlog tcp_max_tw_buckets tcp_mem tcp_migrate_req
      tcp_min_rtt_wlen tcp_min_snd_mss tcp_min_tso_segs tcp_moderate_rcvbuf tcp_mtu_probe_floor
      tcp_mtu_probing tcp_no_metrics_save tcp_no_ssthresh_metrics_save tcp_notsent_lowat
      tcp_orphan_retries tcp_pacing_ca_ratio tcp_pacing_ss_ratio tcp_pingpong_thresh
      tcp_plb_cong_thresh tcp_plb_enabled tcp_plb_idle_rehash_rounds tcp_plb_rehash_rounds
      tcp_plb_suspend_rto_sec tcp_probe_interval tcp_probe_threshold tcp_recovery tcp_reflect_tos
      tcp_reordering tcp_retrans_collapse tcp_retries1 tcp_retries2 tcp_rfc1337 tcp_rmem
      tcp_rto_max_ms tcp_rto_min_us tcp_sack tcp_shrink_window tcp_slow_start_after_idle
      tcp_stdurg tcp_syn_linear_timeouts tcp_syn_retries tcp_synack_retries tcp_syncookies
      tcp_thin_linear_timeouts tcp_timestamps tcp_tso_rtt_log tcp_tso_win_divisor tcp_tw_reuse
      tcp_tw_reuse_delay tcp_window_scaling tcp_wmem tcp_workaround_signed_windows
      udp_child_hash_entries udp_early_demux udp_hash_entries udp_l3mdev_accept udp_mem
      udp_rmem_min udp_wmem_min xfrm4_gc_thresh",
   .of ["proc", "sys", "net", "ipv4", "conf"] "all default eth0 lo" "",
   .of ["proc", "sys", "net", "ipv4", "neigh"] "default eth0 lo" "",
   .of ["proc", "sys", "net", "ipv4", "route"] ""
     "error_burst error_cost flush gc_elasticity gc_interval gc_min_interval gc_min_interval_ms
      gc_thresh gc_timeout max_size min_adv_mss min_pmtu mtu_expires redirect_load
      redirect_number redirect_silence",
   .of ["proc", "sys", "net", "ipv6"] "conf icmp neigh route"
     "anycast_src_echo_reply auto_flowlabels bindv6only calipso_cache_bucket_size
      calipso_cache_enable fib_multipath_hash_fields fib_multipath_hash_policy
      fib_notify_on_flag_change flowlabel_consistency flowlabel_reflect flowlabel_state_ranges
      fwmark_reflect idgen_delay idgen_retries ioam6_id ioam6_id_wide ip6frag_high_thresh
      ip6frag_low_thresh ip6frag_secret_interval ip6frag_time ip_nonlocal_bind
      max_dst_opts_length max_dst_opts_number max_hbh_length max_hbh_opts_number mld_max_msf
      mld_qrv seg6_flowlabel xfrm6_gc_thresh",
   .of ["proc", "sys", "net", "ipv6", "conf"] "all default eth0 lo" "",
   .of ["proc", "sys", "net", "ipv6", "neigh"] "default eth0 lo" "",
   .of ["proc", "sys", "net", "ipv6", "icmp"] ""
     "echo_ignore_all echo_ignore_anycast echo_ignore_multicast error_anycast_as_unicast
      ratelimit ratemask",
   .of ["proc", "sys", "net", "ipv6", "route"] ""
     "flush gc_elasticity gc_interval gc_min_interval gc_min_interval_ms gc_thresh gc_timeout
      max_size min_adv_mss mtu_expires skip_notify_on_dev_down",
   .of ["proc", "sys", "net", "mptcp"] ""
     "add_addr_timeout allow_join_initial_addr_port available_path_managers available_schedulers
      blackhole_timeout checksum_enabled close_timeout enabled path_manager pm_type scheduler
      stale_loss_cnt syn_retrans_before_tcp_fallback",
   .of ["proc", "sys", "net", "unix"] "" "max_dgram_qlen",
   .of ["proc", "sys", "user"] ""
     "max_cgroup_namespaces max_fanotify_groups max_fanotify_marks max_inotify_instances
      max_inotify_watches max_ipc_namespaces max_mnt_namespaces max_net_namespaces
      max_pid_namespaces max_time_namespaces max_user_namespaces max_uts_namespaces",
   .of ["proc", "sys", "vm"] ""
     "admin_reserve_kbytes compact_memory compact_unevictable_allowed compaction_proactiveness
      defrag_mode dirty_background_bytes dirty_background_ratio dirty_bytes
      dirty_expire_centisecs dirty_ratio dirty_writeback_centisecs dirtytime_expire_seconds
      drop_caches extfrag_threshold hugetlb_optimize_vmemmap hugetlb_shm_group laptop_mode
      legacy_va_layout lowmem_reserve_ratio max_map_count memfd_noexec min_free_kbytes
      min_slab_ratio min_unmapped_ratio mmap_min_addr mmap_rnd_bits mmap_rnd_compat_bits
      nr_hugepages nr_hugepages_mempolicy nr_overcommit_hugepages numa_stat numa_zonelist_order
      oom_dump_tasks oom_kill_allocating_task overcommit_kbytes overcommit_memory
      overcommit_ratio page-cluster page_lock_unfairness panic_on_oom
      percpu_pagelist_high_fraction shrink_inodes_with_pagecache stat_interval stat_refresh
      swappiness unprivileged_userfaultfd user_reserve_kbytes vfs_cache_pressure
      vfs_cache_pressure_denom watermark_boost_factor watermark_scale_factor zone_reclaim_mode"]

end Linux
end HeapFixtures
