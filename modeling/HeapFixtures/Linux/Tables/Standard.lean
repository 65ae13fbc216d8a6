/-
# What a system comes with
-/

import HeapFixtures.Linux.Machine

namespace HeapFixtures
namespace Linux

/-- The folders and files of a plain installation. -/
def standard : List Listing :=
  [.of [] "boot dev etc home media mnt opt proc root run srv sys tmp usr var" "",
   .of ["etc"]
     "alternatives apt cron.d cron.daily default dpkg gss init.d kernel ld.so.conf.d logrotate.d
      opt pam.d perl profile.d rc0.d rc1.d rc2.d rc3.d rc4.d rc5.d rc6.d rcS.d security selinux
      skel ssl sysctl.d systemd terminfo update-motd.d"
     ".pwd.lock adduser.conf bash.bashrc bindresvport.blacklist debconf.conf debian_version
      deluser.conf environment fstab gai.conf group group- gshadow gshadow- host.conf hostname
      hosts issue issue.net ld.so.cache ld.so.conf legal libaudit.conf localtime login.defs
      lsb-release machine-id mke2fs.conf networks nsswitch.conf os-release pam.conf passwd
      passwd- profile protocols resolv.conf rmt rpc services shadow shadow- shells subgid subuid
      sysctl.conf timezone xattr.conf",
   .of ["etc", "alternatives"] "" "README awk nawk pager rmt which",
   .of ["etc", "apt"] "apt.conf.d auth.conf.d keyrings preferences.d sources.list.d trusted.gpg.d"
     "sources.list",
   .of ["etc", "cron.daily"] "" "apt-compat dpkg",
   .of ["etc", "default"] "" "locale useradd",
   .of ["etc", "ld.so.conf.d"] "" "libc.conf x86_64-linux-gnu.conf",
   .of ["etc", "pam.d"] ""
     "chfn chpasswd chsh common-account common-auth common-password common-session
      common-session-noninteractive login newusers other passwd runuser runuser-l su su-l",
   .of ["etc", "security"] "limits.d namespace.d"
     "access.conf faillock.conf group.conf limits.conf namespace.conf namespace.init opasswd
      pam_env.conf pwhistory.conf sepermit.conf time.conf",
   .of ["etc", "skel"] "" ".bash_logout .bashrc .profile",
   .of ["etc", "ssl"] "certs private" "openssl.cnf",
   .of ["etc", "systemd"] "system user" "",
   .of ["root"] "" ".bashrc .profile",
   .of ["run"] "lock" "",
   .of ["usr"] "bin games include lib lib64 libexec local sbin share src" "",
   .of ["usr", "bin"] ""
     "[ apt apt-get arch awk b2sum base32 base64 basename basenc bash bashbug cat chcon chgrp
      chmod chown cksum clear_console cmp comm cp csplit cut dash date dd df diff diff3 dir
      dircolors dirname dmesg dnsdomainname domainname dpkg du echo egrep env expand expr factor
      false fgrep find fmt fold getconf getent grep groups gunzip gzexe gzip head hostid hostname
      iconv id install join kill ldd link ln locale login logname ls lsblk mawk md5sum mkdir
      mkfifo mknod mktemp more mount mv nice nisdomainname nl nohup nproc numfmt od passwd paste
      pathchk perl pinky pr printenv printf ptx pwd rbash readlink realpath rgrep rm rmdir runcon
      sdiff sed seq sh sha1sum sha224sum sha256sum sha384sum sha512sum shred shuf sleep sort
      split stat stdbuf stty su sum sync tac tail tar tee test timeout touch tr true truncate
      tsort tty umount uname uncompress unexpand uniq unlink users vdir wc which who whoami xargs
      yes ypdomainname zcat zcmp zdiff zegrep zfgrep zforce zgrep zless zmore znew",
   .of ["usr", "lib"] "apt dpkg init locale lsb mime ssl systemd tmpfiles.d udev x86_64-linux-gnu"
     "os-release",
   .of ["usr", "lib", "x86_64-linux-gnu"] "" "ld-linux-x86-64.so.2 libc.so.6 libm.so.6",
   .of ["usr", "lib64"] "" "ld-linux-x86-64.so.2",
   .of ["usr", "local"] "bin etc games include lib sbin share src" "",
   .of ["usr", "sbin"] ""
     "addgroup adduser agetty badblocks blkid blockdev chgpasswd chpasswd chroot debugfs delgroup
      deluser dumpe2fs e2fsck e2image e2label findfs fsck fsck.ext2 fsck.ext3 fsck.ext4
      fsfreeze fstrim getty groupadd groupdel groupmod grpck grpconv grpunconv invoke-rc.d
      killall5 ldconfig losetup mke2fs mkfs mkfs.ext2 mkfs.ext3 mkfs.ext4 mkswap newusers nologin
      pam-auth-update pivot_root pwck pwconv pwunconv readprofile remove-shell resize2fs rmt
      rtcwake runuser service start-stop-daemon sulogin swapoff swapon switch_root sysctl tune2fs
      unix_chkpwd update-passwd update-rc.d useradd userdel usermod vigr vipw wipefs zic zramctl",
   .of ["usr", "share"]
     "bash-completion bug common-licenses dict doc info keyrings locale man misc perl5 terminfo
      zoneinfo"
     "",
   .of ["var"] "backups cache lib local log mail opt spool tmp" "",
   .of ["var", "cache"] "apt debconf ldconfig" "",
   .of ["var", "lib"] "apt dpkg misc pam systemd" "",
   .of ["var", "lib", "dpkg"] "alternatives info parts triggers updates"
     "available diversions lock lock-frontend status",
   .of ["var", "log"] "apt" ""]

end Linux
end HeapFixtures
