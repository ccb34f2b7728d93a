import Linkage.Native.SystemLibrary.Release

/-!
# The library of streams and objects

What the library of streams and objects exports under a short name, or for the support of compiled
code. Its other names encode the types that they speak of, and there are thousands of them.
-/

namespace Linkage.Native.SystemLibrary

/-- The versions of the library of streams and objects. -/
def streamReleases : List Release :=
  [{ version := "GLIBCXX_3.4"
     current := words
       ["_ZNKSi6gcountEv _ZNKSs2atEm _ZNKSs3endEv _ZNKSs4copyEPcmm _ZNKSs4dataEv",
        "_ZNKSs4findEPKcm _ZNKSs4findEcm _ZNKSs4rendEv _ZNKSs4sizeEv _ZNKSs5beginEv",
        "_ZNKSs5c_strEv _ZNKSs5emptyEv _ZNKSs5rfindEcm _ZNKSs6_M_repEv _ZNKSs6lengthEv",
        "_ZNKSs6rbeginEv _ZNKSs6substrEmm _ZNKSs7_M_dataEv _ZNKSs7_M_iendEv _ZNKSsixEm",
        "_ZNSaIcEC1ERKS_ _ZNSaIcEC1Ev _ZNSaIcEC2ERKS_ _ZNSaIcEC2Ev _ZNSaIcED1Ev _ZNSaIcED2Ev",
        "_ZNSaIwEC1ERKS_ _ZNSaIwEC1Ev _ZNSaIwEC2ERKS_ _ZNSaIwEC2Ev _ZNSaIwED1Ev _ZNSaIwED2Ev",
        "_ZNSdC1Ev _ZNSdC2Ev _ZNSdD0Ev _ZNSdD1Ev _ZNSdD2Ev _ZNSi3getEPcl _ZNSi3getEPclc",
        "_ZNSi3getERc _ZNSi3getEv _ZNSi4peekEv _ZNSi4readEPcl _ZNSi4syncEv _ZNSi5tellgEv",
        "_ZNSi5ungetEv _ZNSi6ignoreEli _ZNSi7putbackEc _ZNSiC1Ev _ZNSiC2Ev _ZNSiD0Ev _ZNSiD1Ev",
        "_ZNSiD2Ev _ZNSirsEPFRSiS_E _ZNSirsERPv _ZNSirsERb _ZNSirsERd _ZNSirsERe _ZNSirsERf",
        "_ZNSirsERi _ZNSirsERj _ZNSirsERl _ZNSirsERm _ZNSirsERs _ZNSirsERt _ZNSirsERx",
        "_ZNSirsERy _ZNSo3putEc _ZNSo5flushEv _ZNSo5tellpEv _ZNSo5writeEPKcl _ZNSo6sentryD1Ev",
        "_ZNSo6sentryD2Ev _ZNSoC1Ev _ZNSoC2Ev _ZNSoD0Ev _ZNSoD1Ev _ZNSoD2Ev _ZNSolsEPFRSoS_E",
        "_ZNSolsEPKv _ZNSolsEb _ZNSolsEd _ZNSolsEe _ZNSolsEf _ZNSolsEi _ZNSolsEj _ZNSolsEl",
        "_ZNSolsEm _ZNSolsEs _ZNSolsEt _ZNSolsEx _ZNSolsEy _ZNSs2atEm _ZNSs3endEv _ZNSs4nposE",
        "_ZNSs4rendEv _ZNSs4swapERSs _ZNSs5beginEv _ZNSs5clearEv _ZNSs5eraseEmm",
        "_ZNSs6appendEPKc _ZNSs6appendEmc _ZNSs6assignEPKc _ZNSs6assignEmc _ZNSs6insertEmmc",
        "_ZNSs6rbeginEv _ZNSs6resizeEm _ZNSs6resizeEmc _ZNSs7_M_dataEPc _ZNSs7_M_leakEv",
        "_ZNSs7reserveEm _ZNSsC1ERKSaIcE _ZNSsC1ERKSs _ZNSsC1ERKSsmm _ZNSsC1Ev _ZNSsC2ERKSaIcE",
        "_ZNSsC2ERKSs _ZNSsC2ERKSsmm _ZNSsC2Ev _ZNSsD1Ev _ZNSsD2Ev _ZNSsaSEPKc _ZNSsaSERKSs",
        "_ZNSsaSEc _ZNSsixEm _ZNSspLEPKc _ZNSspLERKSs _ZNSspLEc _ZNSt6localeC1Ev",
        "_ZNSt6localeC2Ev _ZNSt6localeD1Ev _ZNSt6localeD2Ev _ZSt3cin _ZSt4cerr _ZSt4clog",
        "_ZSt4cout _ZSt4wcin _ZSt5wcerr _ZSt5wclog _ZSt5wcout _ZSt7nothrow _ZSt9terminatev",
        "_ZTISd _ZTISi _ZTISo _ZTISt5ctypeIcE _ZTISt5ctypeIwE _ZTISt8bad_cast _ZTISt8ios_base",
        "_ZTISt9bad_alloc _ZTISt9exception _ZTISt9strstream _ZTISt9time_base _ZTISt9type_info",
        "_ZTSSd _ZTSSi _ZTSSo _ZTSSt5ctypeIcE _ZTSSt5ctypeIwE _ZTSSt8bad_cast _ZTSSt8ios_base",
        "_ZTSSt9bad_alloc _ZTSSt9exception _ZTSSt9strstream _ZTSSt9time_base _ZTSSt9type_info",
        "_ZTTSd _ZTTSi _ZTTSo _ZTTSt9strstream _ZTVSd _ZTVSi _ZTVSo _ZTVSt5ctypeIcE",
        "_ZTVSt5ctypeIwE _ZTVSt8bad_cast _ZTVSt8ios_base _ZTVSt9bad_alloc _ZTVSt9exception",
        "_ZTVSt9strstream _ZTVSt9type_info _ZThn16_NSdD0Ev _ZThn16_NSdD1Ev _ZdaPv",
        "_ZdaPvRKSt9nothrow_t _ZdlPv _ZdlPvRKSt9nothrow_t _Znam _ZnamRKSt9nothrow_t _Znwm",
        "_ZnwmRKSt9nothrow_t"]
     former := words ["_ZNSi6ignoreEl _ZNSi6ignoreEv"] },
   { version := "GLIBCXX_3.4.1" },
   { version := "GLIBCXX_3.4.2" },
   { version := "GLIBCXX_3.4.3" },
   { version := "GLIBCXX_3.4.4" },
   { version := "GLIBCXX_3.4.5"
     current := words ["_ZNSi6ignoreEl _ZNSi6ignoreEv"] },
   { version := "GLIBCXX_3.4.6" },
   { version := "GLIBCXX_3.4.7" },
   { version := "GLIBCXX_3.4.8" },
   { version := "GLIBCXX_3.4.9" },
   { version := "GLIBCXX_3.4.10" },
   { version := "GLIBCXX_3.4.11"
     current := words ["_ZSt10adopt_lock _ZSt10defer_lock __once_proxy"] },
   { version := "GLIBCXX_3.4.12" },
   { version := "GLIBCXX_3.4.13" },
   { version := "GLIBCXX_3.4.14"
     current := words
       ["_ZNKSs4cendEv _ZNKSs5crendEv _ZNKSs6cbeginEv _ZNKSs7crbeginEv _ZNSs6assignEOSs",
        "_ZNSsC1EOSs _ZNSsaSEOSs"] },
   { version := "GLIBCXX_3.4.15"
     current := words ["_ZNKSs4backEv _ZNKSs5frontEv _ZNSs4backEv _ZNSs5frontEv _ZNSsC2EOSs"] },
   { version := "GLIBCXX_3.4.16" },
   { version := "GLIBCXX_3.4.17"
     current := words ["_ZNSs8pop_backEv"] },
   { version := "GLIBCXX_3.4.18" },
   { version := "GLIBCXX_3.4.19" },
   { version := "GLIBCXX_3.4.20" },
   { version := "GLIBCXX_3.4.21"
     current := words
       ["_ZNSd4swapERSd _ZNSdC1EOSd _ZNSdC2EOSd _ZNSdaSEOSd _ZNSi4swapERSi _ZNSiC1EOSi",
        "_ZNSiC2EOSi _ZNSiaSEOSi _ZNSo4swapERSo _ZNSoC1EOSo _ZNSoC1ERSd _ZNSoC2EOSo",
        "_ZNSoC2ERSd _ZNSoaSEOSo"] },
   { version := "GLIBCXX_3.4.22" },
   { version := "GLIBCXX_3.4.23" },
   { version := "GLIBCXX_3.4.24" },
   { version := "GLIBCXX_3.4.25" },
   { version := "GLIBCXX_3.4.26"
     current := words ["_ZNSolsEDn _ZNSs4dataEv"] },
   { version := "GLIBCXX_3.4.27" },
   { version := "GLIBCXX_3.4.28" },
   { version := "GLIBCXX_3.4.29"
     current := words ["_ZNSs7reserveEv"] },
   { version := "GLIBCXX_3.4.30" },
   { version := "CXXABI_1.3"
     current := words
       ["_ZTIPKa _ZTIPKb _ZTIPKc _ZTIPKd _ZTIPKe _ZTIPKf _ZTIPKh _ZTIPKi _ZTIPKj _ZTIPKl",
        "_ZTIPKm _ZTIPKs _ZTIPKt _ZTIPKv _ZTIPKw _ZTIPKx _ZTIPKy _ZTIPa _ZTIPb _ZTIPc _ZTIPd",
        "_ZTIPe _ZTIPf _ZTIPh _ZTIPi _ZTIPj _ZTIPl _ZTIPm _ZTIPs _ZTIPt _ZTIPv _ZTIPw _ZTIPx",
        "_ZTIPy _ZTIa _ZTIb _ZTIc _ZTId _ZTIe _ZTIf _ZTIh _ZTIi _ZTIj _ZTIl _ZTIm _ZTIs _ZTIt",
        "_ZTIv _ZTIw _ZTIx _ZTIy _ZTSPKa _ZTSPKb _ZTSPKc _ZTSPKd _ZTSPKe _ZTSPKf _ZTSPKh",
        "_ZTSPKi _ZTSPKj _ZTSPKl _ZTSPKm _ZTSPKs _ZTSPKt _ZTSPKv _ZTSPKw _ZTSPKx _ZTSPKy",
        "_ZTSPa _ZTSPb _ZTSPc _ZTSPd _ZTSPe _ZTSPf _ZTSPh _ZTSPi _ZTSPj _ZTSPl _ZTSPm _ZTSPs",
        "_ZTSPt _ZTSPv _ZTSPw _ZTSPx _ZTSPy _ZTSa _ZTSb _ZTSc _ZTSd _ZTSe _ZTSf _ZTSh _ZTSi",
        "_ZTSj _ZTSl _ZTSm _ZTSs _ZTSt _ZTSv _ZTSw _ZTSx _ZTSy __cxa_allocate_exception",
        "__cxa_bad_cast __cxa_bad_typeid __cxa_begin_catch __cxa_call_unexpected",
        "__cxa_current_exception_type __cxa_demangle __cxa_end_catch __cxa_free_exception",
        "__cxa_get_globals __cxa_get_globals_fast __cxa_guard_abort __cxa_guard_acquire",
        "__cxa_guard_release __cxa_pure_virtual __cxa_rethrow __cxa_throw __cxa_vec_cctor",
        "__cxa_vec_cleanup __cxa_vec_ctor __cxa_vec_delete __cxa_vec_delete2 __cxa_vec_delete3",
        "__cxa_vec_dtor __cxa_vec_new __cxa_vec_new2 __cxa_vec_new3 __dynamic_cast",
        "__gxx_personality_v0"] },
   { version := "CXXABI_1.3.1"
     current := words ["__cxa_get_exception_ptr"] },
   { version := "CXXABI_1.3.2" },
   { version := "CXXABI_1.3.3"
     current := words ["_ZTIDi _ZTIDs _ZTIPDi _ZTIPDs _ZTIPKDi _ZTIPKDs"] },
   { version := "CXXABI_1.3.4"
     current := words
       ["_ZTIDd _ZTIDe _ZTIDf _ZTIPDd _ZTIPDe _ZTIPDf _ZTIPKDd _ZTIPKDe _ZTIPKDf"] },
   { version := "CXXABI_1.3.5"
     current := words ["_ZTIDn _ZTIPDn _ZTIPKDn _ZTIPKn _ZTIPKo _ZTIPn _ZTIPo _ZTIn _ZTIo"] },
   { version := "CXXABI_1.3.6"
     current := words
       ["__cxa_allocate_dependent_exception __cxa_deleted_virtual",
        "__cxa_free_dependent_exception"] },
   { version := "CXXABI_1.3.7"
     current := words ["__cxa_thread_atexit"] },
   { version := "CXXABI_1.3.8"
     current := words ["__cxa_throw_bad_array_length __cxa_throw_bad_array_new_length"] },
   { version := "CXXABI_1.3.9"
     current := words ["_ZTSPKn _ZTSPKo _ZTSPn _ZTSPo _ZTSn _ZTSo _ZdaPvm _ZdlPvm"] },
   { version := "CXXABI_1.3.10" },
   { version := "CXXABI_1.3.11"
     current := words
       ["_ZdaPvSt11align_val_t _ZdaPvSt11align_val_tRKSt9nothrow_t _ZdaPvmSt11align_val_t",
        "_ZdlPvSt11align_val_t _ZdlPvSt11align_val_tRKSt9nothrow_t _ZdlPvmSt11align_val_t",
        "_ZnamSt11align_val_t _ZnamSt11align_val_tRKSt9nothrow_t _ZnwmSt11align_val_t",
        "_ZnwmSt11align_val_tRKSt9nothrow_t __cxa_init_primary_exception"] },
   { version := "CXXABI_1.3.12"
     current := words ["_ZTIDu _ZTIPDu _ZTIPKDu"] },
   { version := "CXXABI_1.3.13" },
   { version := "CXXABI_TM_1"
     current := words ["__cxa_tm_cleanup"] },
   { version := "CXXABI_FLOAT128"
     current := words ["_ZTIPKg _ZTIPg _ZTIg _ZTSPKg _ZTSPg _ZTSg"] }]

end Linkage.Native.SystemLibrary
