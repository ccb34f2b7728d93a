import Linkage.Native.SystemLibrary.Release

/-!
# The libraries behind compiled code

What the loader of the system exports, and the library that supports compiled code.
-/

namespace Linkage.Native.SystemLibrary

/-- The versions of the loader of the system. -/
def loaderReleases : List Release :=
  [{ version := "GLIBC_2.2.5"
     current := words ["__libc_stack_end _dl_mcount _r_debug"] },
   { version := "GLIBC_2.3"
     current := words ["__tls_get_addr"] },
   { version := "GLIBC_2.4" },
   { version := "GLIBC_2.34"
     former := words ["__rtld_version_placeholder"] },
   { version := "GLIBC_2.35"
     current := words ["__rseq_flags __rseq_offset __rseq_size"] },
   { version := "GLIBC_PRIVATE"
     current := words
       ["__libc_enable_secure __nptl_change_stack_perm __nptl_initial_report_events",
        "__tunable_get_val __tunable_is_initialized _dl_allocate_tls _dl_allocate_tls_init",
        "_dl_argv _dl_audit_preinit _dl_audit_symbind_alt _dl_catch_exception",
        "_dl_deallocate_tls _dl_debug_state _dl_exception_create _dl_exception_create_format",
        "_dl_exception_free _dl_fatal_printf _dl_find_dso_for_object _dl_get_tls_static_info",
        "_dl_rtld_di_serinfo _dl_signal_error _dl_signal_exception _dl_x86_get_cpu_features",
        "_rtld_global _rtld_global_ro"] }]

/-- The versions of the library that supports compiled code. -/
def compilerReleases : List Release :=
  [{ version := "GCC_3.0"
     current := words
       ["_Unwind_DeleteException _Unwind_Find_FDE _Unwind_ForcedUnwind _Unwind_GetDataRelBase",
        "_Unwind_GetGR _Unwind_GetIP _Unwind_GetLanguageSpecificData _Unwind_GetRegionStart",
        "_Unwind_GetTextRelBase _Unwind_RaiseException _Unwind_Resume _Unwind_SetGR",
        "_Unwind_SetIP __absvdi2 __absvsi2 __addvdi3 __addvsi3 __ashlti3 __ashrti3",
        "__clear_cache __cmpti2 __deregister_frame __deregister_frame_info",
        "__deregister_frame_info_bases __divti3 __extendsfdf2 __ffsdi2 __ffsti2 __fixdfti",
        "__fixsfti __fixunsdfdi __fixunsdfti __fixunssfdi __fixunssfti __fixunsxfdi",
        "__fixunsxfti __fixxfti __floattidf __floattisf __floattixf __lshrti3 __modti3",
        "__multi3 __mulvdi3 __mulvsi3 __negti2 __negvdi2 __negvsi2 __register_frame",
        "__register_frame_info __register_frame_info_bases __register_frame_info_table",
        "__register_frame_info_table_bases __register_frame_table __subvdi3 __subvsi3",
        "__truncdfsf2 __ucmpti2 __udivmodti4 __udivti3 __umodti3"]
     former := words ["__gttf2 __lttf2 __netf2"] },
   { version := "GCC_3.3"
     current := words
       ["_Unwind_Backtrace _Unwind_FindEnclosingFunction _Unwind_GetCFA",
        "_Unwind_Resume_or_Rethrow"] },
   { version := "GCC_3.3.1"
     current := words ["__gcc_personality_v0"] },
   { version := "GCC_3.4"
     current := words
       ["__clzdi2 __clzti2 __ctzdi2 __ctzti2 __paritydi2 __parityti2 __popcountdi2",
        "__popcountti2"] },
   { version := "GCC_3.4.2"
     current := words ["__enable_execute_stack"] },
   { version := "GCC_3.4.4"
     current := words ["__absvti2 __addvti3 __mulvti3 __negvti2 __subvti3"] },
   { version := "GCC_4.0.0"
     current := words
       ["__divdc3 __divsc3 __divxc3 __muldc3 __mulsc3 __mulxc3 __powidf2 __powisf2 __powixf2"]
     former := words ["__divtc3 __multc3 __powitf2"] },
   { version := "GCC_4.2.0"
     current := words ["_Unwind_GetIPInfo __floatuntidf __floatuntisf __floatuntixf"] },
   { version := "GCC_4.3.0"
     current := words
       ["__addtf3 __bswapdi2 __bswapsi2 __divtc3 __divtf3 __emutls_get_address",
        "__emutls_register_common __eqtf2 __extenddftf2 __extendsftf2 __extendxftf2 __fixtfdi",
        "__fixtfsi __fixtfti __fixunstfdi __fixunstfsi __fixunstfti __floatditf __floatsitf",
        "__floattitf __floatunditf __floatunsitf __floatuntitf __getf2 __gttf2 __letf2 __lttf2",
        "__multc3 __multf3 __negtf2 __netf2 __powitf2 __subtf3 __trunctfdf2 __trunctfsf2",
        "__trunctfxf2 __unordtf2"] },
   { version := "GCC_4.7.0"
     current := words ["__clrsbdi2 __clrsbti2"] },
   { version := "GCC_4.8.0"
     former := words ["__cpu_indicator_init __cpu_model"] },
   { version := "GCC_7.0.0"
     current := words ["__divmodti4"] },
   { version := "GCC_12.0.0"
     current := words
       ["__divhc3 __eqhf2 __extendhfdf2 __extendhfsf2 __extendhftf2 __extendhfxf2 __fixhfti",
        "__fixunshfti __floattihf __floatuntihf __mulhc3 __nehf2 __truncdfhf2 __truncsfhf2",
        "__trunctfhf2 __truncxfhf2"] }]

end Linkage.Native.SystemLibrary
