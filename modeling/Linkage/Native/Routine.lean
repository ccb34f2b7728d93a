import Linkage.Native.Processor.Execution

/-!
# Routines

A routine is called with arguments, runs until it goes back to its caller, and gives a
word back. Of the routines of the system no more is known than what they do with the
process: some end it, and some take an address, which has to be one.
-/

namespace Linkage.Native

/-! ## Routines of the system -/

namespace SystemRoutine

/-- The routines that end the process, once the routines for its end have run. -/
def leaving : List String := ["exit"]

/-- The routines that end the process at once. -/
def ending : List String := ["_exit", "_Exit", "quick_exit"]

/-- The routines that give the process up. -/
def giving : List String := ["abort", "__stack_chk_fail", "__chk_fail", "__fortify_fail"]

/-- The routines that send a signal to the process itself. -/
def signalling : List String := ["raise", "gsignal"]

/-- The signals that the process lives through: most are ignored, and two are caught once. -/
def harmlessSignals : List Word := [0, 7, 11, 13, 17, 18, 23, 28, 32, 33]

/-- The first number that no signal has. -/
def signalBound : Word := 65

/-- The routines that take numbers, or addresses that the system looks at itself. -/
def harmless : List String := SystemLibrary.words
  ["__close __ctype_b_loc __ctype_tolower_loc __ctype_toupper_loc __cxa_at_quick_exit",
   "__cxa_atexit __cxa_finalize __cxa_thread_atexit_impl __dup2 __errno_location __getpagesize",
   "__getpid __h_errno_location __libc_current_sigrtmax __libc_current_sigrtmin __res_state",
   "__sched_yield __sysconf abs access acct alarm aligned_alloc arc4random arc4random_uniform",
   "brk btowc calloc cfree chdir chmod chown chroot clock close close_range closelog copysign",
   "creat div dup dup2 dup3 endgrent endhostent endmntent endnetent endprotoent endpwent",
   "endservent endspent endttyent endusershell endutent endutxent epoll_create epoll_create1",
   "eventfd faccessat fchdir fchmod fchown fcloseall fcntl fdatasync ffs ffsl ffsll flock fsync",
   "ftruncate getauxval getdtablesize getegid geteuid getgid getgrent getgrgid gethostent",
   "gethostid getlogin getnetent getpagesize getpgid getpgrp getpid getppid getpriority",
   "getprotoent getpt getpwent getpwuid getrandom getservent getsid getspent gettid getttyent",
   "getuid getusershell getutent getutxent gnu_dev_major gnu_dev_makedev gnu_dev_minor grantpt",
   "hcreate hdestroy htonl htons imaxabs inet_lnaof inet_netof inotify_init inotify_init1 ioctl",
   "ioperm iopl isalnum isalpha isascii isatty isblank iscntrl isctype isdigit isgraph islower",
   "isprint ispunct isspace isupper iswalnum iswalpha iswblank iswcntrl iswdigit iswgraph",
   "iswlower iswprint iswpunct iswspace iswupper iswxdigit isxdigit jrand48 kill killpg klogctl",
   "labs lchown ldiv link linkat listen llabs lldiv localeconv lockf login_tty lrand48 lseek",
   "lseek64 madvise malloc malloc_stats malloc_trim memalign mincore mkdir mkdirat mkfifo mlock",
   "mlockall mount mprotect mrand48 msync munlock munlockall munmap nice nrand48 ntohl ntohs",
   "on_exit open openat personality pipe pipe2 posix_fadvise posix_fallocate posix_openpt prctl",
   "pread psiginfo pthread_getconcurrency pthread_self pthread_setconcurrency pthread_testcancel",
   "pthread_yield ptrace ptsname pvalloc pwrite quotactl rand random read readahead readlink",
   "reboot rename rmdir sched_get_priority_max sched_get_priority_min sched_getcpu",
   "sched_getscheduler sched_setaffinity sched_yield setegid seteuid setfsgid setfsuid setgid",
   "setgrent sethostent setlogmask setnetent setpgid setpgrp setpriority setprotoent setpwent",
   "setregid setresgid setresuid setreuid setrlimit setservent setsid setspent setttyent setuid",
   "setusershell setutent setutxent shmdt shmget shutdown sigblock siggetmask sighold sigignore",
   "siginterrupt signal sigrelse sigsetmask socket srand srand48 srandom stat statfs strerror",
   "strsignal swapoff swapon symlink sync sync_file_range syncfs sysconf sysinfo tcdrain tcflow",
   "tcflush tcgetpgrp tcgetsid tcsendbreak tcsetpgrp thrd_yield times toascii tolower toupper",
   "towlower towupper truncate ttyname tzset ualarm umask umount umount2 uname unlink unlinkat",
   "unlockpt unshare usleep utime valloc vhangup wctob write"]

/-- The routines whose argument is an address or none at all. -/
def acceptsNone : List String := SystemLibrary.words
  ["dlclose fflush fflush_unlocked free realloc reallocarray setlocale time"]

/-- The libraries whose routines take numbers. -/
def numeric : List String := ["libm.so.6", "libmvec.so.1"]

/-- What a routine does with the process, by its name and arguments. -/
def perform (name : String) (first : Word) : Run Unit := do
  let signal := first % 0x100000000
  if name ∈ leaving then throw (.leaving (first % 256).toNat)
  else if name ∈ ending then throw (.fatal (.exited (first % 256).toNat))
  else if name ∈ giving then violation
  else if name ∈ signalling then
    if signal < signalBound ∧ signal ∉ harmlessSignals then violation
  else if name ∈ harmless ∨ name ∈ acceptsNone ∧ first = 0 then return
  else let _ ← Run.octet first

end SystemRoutine

/-! ## Calls -/

namespace Routine

/-- Where a routine goes back to; nothing stands there. -/
def caller : Word := 0x7EFFFFFFF000

/-- The most instructions that are carried out in one call. -/
def stepBound : Nat := 100000

/-- Runs the routine of the system at an address, and goes back to its caller. -/
def performSystem (p : Processor) : Run Processor := do
  if let some name := SystemLibrary.nameAt? p.next then
    if !((SystemLibrary.at? p.next).any (·.name ∈ SystemRoutine.numeric)) then
      SystemRoutine.perform name (p.get .first)
  let (next, p) ← p.pop
  return { p.set .result 0 with next }

/--
Runs up to the return to the caller, at most `bound` instructions. An instruction that
nothing is known of counts as the return.
-/
def runUpTo : (bound : Nat) → Processor → Run Processor
  | 0, _ => violation
  | bound + 1, p => do
    if p.next = caller then return p
    else if (SystemLibrary.at? p.next).isSome then runUpTo bound (← performSystem p)
    else
      match ← p.step with
      | .goesOn p => runUpTo bound p
      | .unknown => return p.set .stack Process.stackTop

/-- Calls the routine that a processor is ready for, and gives the processor after that. -/
def call (p : Processor) : Run Processor := do
  runUpTo stepBound (← (p.set .stack Process.stackTop).push caller)

/-- Calls a routine whose caller has to find the stack as it was. -/
def callEven (p : Processor) : Run Unit := do
  if (← call p).top ≠ Process.stackTop then violation

/-- The processor that a routine finds that is told nothing: some registers hold addresses. -/
def unrelated (a result : Word) : Processor :=
  ((Processor.ready a Process.argumentStart).set .result result).set .second 0

/-- Asks the routine at an address for an address. It finds its own address in a register. -/
def resolve (a : Word) : Run Word := do
  return (← call { unrelated a a with flags := { zero := true, parity := true } }).get .result

/-- Calls the routine at an address with the arguments and variables of the process. -/
def begin_ (a : Word) : Run Unit := do
  let p ← get
  let processor := (Processor.ready a 0).set .first p.argumentCount
  let processor := processor.set .second Process.argumentStart
  callEven (processor.set .third (Process.variableStart p.argumentCount))

/-- Calls the routine at an address without arguments. -/
def end_ (a : Word) : Run Unit := callEven (unrelated a 0)

end Routine

end Linkage.Native
