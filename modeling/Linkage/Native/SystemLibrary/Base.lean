import Linkage.Native.SystemLibrary.Release

/-!
# Libraries that come with a system

What some libraries export that other programs of the system need.
-/

namespace Linkage.Native.SystemLibrary

/-- The versions of the library that debuggers find threads with. -/
def threadDebuggingReleases : List Release :=
  [{ version := "GLIBC_2.2.5"
     current := words
       ["td_init td_log td_symbol_list td_ta_clear_event td_ta_delete td_ta_enable_stats",
        "td_ta_event_addr td_ta_event_getmsg td_ta_get_nthreads td_ta_get_ph td_ta_get_stats",
        "td_ta_map_id2thr td_ta_map_lwp2thr td_ta_new td_ta_reset_stats td_ta_set_event",
        "td_ta_setconcurrency td_ta_thr_iter td_ta_tsd_iter td_thr_clear_event td_thr_dbresume",
        "td_thr_dbsuspend td_thr_event_enable td_thr_event_getmsg td_thr_get_info",
        "td_thr_getfpregs td_thr_getgregs td_thr_getxregs td_thr_getxregsize td_thr_set_event",
        "td_thr_setfpregs td_thr_setgregs td_thr_setprio td_thr_setsigpending td_thr_setxregs",
        "td_thr_sigsetmask td_thr_tsd td_thr_validate"] },
   { version := "GLIBC_2.3"
     current := words ["td_thr_tls_get_addr"] },
   { version := "GLIBC_2.3.3"
     current := words ["td_thr_tlsbase"] }]

/-- The versions of the library that describes terminals. -/
def screenReleases : List Release :=
  [{ version := "NCURSES6_TIC_5.0.19991023" },
   { version := "NCURSES6_TIC_5.1.20000708" },
   { version := "NCURSES6_TIC_5.5.20051010" },
   { version := "NCURSES6_TIC_5.7.20081102" },
   { version := "NCURSES6_TIC_5.9.20150530" },
   { version := "NCURSES6_TIC_6.1.20171230"
     current := words ["_nc_read_entry2"] },
   { version := "NCURSES6_TINFO_5.0.19991023"
     current := words
       ["BC COLS LINES PC SP TABSIZE UP _nc_access _nc_add_to_try _nc_copy_termtype",
        "_nc_curr_col _nc_curr_line _nc_doalloc _nc_err_abort _nc_fallback _nc_find_entry",
        "_nc_find_type_entry _nc_first_name _nc_free_entries _nc_free_termtype _nc_free_tparm",
        "_nc_get_hash_table _nc_get_table _nc_get_tty_mode _nc_get_type _nc_getenv_num",
        "_nc_head _nc_home_terminfo _nc_init_acs _nc_keep_tic_dir _nc_keypad _nc_name_match",
        "_nc_outch _nc_read_entry _nc_read_file_entry _nc_screen_chain _nc_set_buffer",
        "_nc_set_source _nc_set_tty_mode _nc_set_type _nc_suppress_warnings _nc_syserr_abort",
        "_nc_tail _nc_tic_dir _nc_timed_wait _nc_tracing _nc_update_screensize _nc_visbuf",
        "_nc_visbuf2 _nc_warning acs_map baudrate boolcodes boolfnames boolnames cbreak",
        "cur_term curs_set curscr curses_version def_prog_mode def_shell_mode define_key",
        "del_curterm delay_output erasechar flushinp halfdelay has_ic has_il has_key idcok",
        "idlok intrflush keybound keyname keyok keypad killchar longname meta napms newscr",
        "nocbreak nodelay noqiflush noraw notimeout numcodes numfnames numnames ospeed putp",
        "qiflush raw reset_prog_mode reset_shell_mode resetty savetty set_curterm setupterm",
        "stdscr strcodes strfnames strnames termname tgetent tgetflag tgetnum tgetstr tgoto",
        "tigetflag tigetnum tigetstr tparm tputs ttytype typeahead unctrl use_env wtimeout"] },
   { version := "NCURSES6_TINFO_5.1.20000708"
     current := words
       ["_nc_align_termtype _nc_flush _nc_tinfo_fkeys _nc_user_definable use_extended_names"] },
   { version := "NCURSES6_TINFO_5.2.20001021"
     current := words
       ["_nc_basename _nc_env_access _nc_safe_strcat _nc_safe_strcpy _nc_str_copy _nc_str_init",
        "_nc_str_null"] },
   { version := "NCURSES6_TINFO_5.3.20021019"
     current := words ["_nc_rootname _nc_tparm_err _nc_visbufn"] },
   { version := "NCURSES6_TINFO_5.4.20040208"
     current := words
       ["_nc_get_locale _nc_locale_breaks_acs _nc_pathlast _nc_tparm_analyze",
        "_nc_unicode_locale key_defined"] },
   { version := "NCURSES6_TINFO_5.5.20051010"
     current := words ["_nc_get_source _nc_setupterm _nc_trim_sgr0"] },
   { version := "NCURSES6_TINFO_5.6.20061217"
     current := words
       ["_nc_first_db _nc_handle_sigwinch _nc_is_abs_path _nc_is_dir_path _nc_is_file_path",
        "_nc_last_db _nc_next_db _nc_read_termtype"] },
   { version := "NCURSES6_TINFO_5.7.20081102"
     current := words
       ["_nc_get_alias_table _nc_get_screensize _nc_globals _nc_leaks_tinfo _nc_prescreen",
        "_nc_screen_of _nc_set_no_padding set_tabsize"] },
   { version := "NCURSES6_TINFO_5.8.20110226"
     current := words
       ["_nc_flush_sp _nc_get_tty_mode_sp _nc_init_acs_sp _nc_outc_wrapper _nc_outch_sp",
        "_nc_putp _nc_putp_flush_sp _nc_putp_sp _nc_set_buffer_sp _nc_set_tty_mode_sp",
        "baudrate_sp cbreak_sp curs_set_sp def_prog_mode_sp def_shell_mode_sp define_key_sp",
        "del_curterm_sp delay_output_sp erasechar_sp flushinp_sp halfdelay_sp has_ic_sp",
        "has_il_sp has_key_sp intrflush_sp key_defined_sp keybound_sp keyname_sp keyok_sp",
        "killchar_sp longname_sp napms_sp new_prescr nocbreak_sp noqiflush_sp noraw_sp putp_sp",
        "qiflush_sp raw_sp reset_prog_mode_sp reset_shell_mode_sp resetty_sp savetty_sp",
        "set_curterm_sp set_tabsize_sp termname_sp tgetent_sp tgetflag_sp tgetnum_sp",
        "tgetstr_sp tigetflag_sp tigetnum_sp tigetstr_sp tiparm tputs_sp typeahead_sp",
        "unctrl_sp use_env_sp"] },
   { version := "NCURSES6_TINFO_5.9.20150530"
     current := words ["_nc_init_termtype _nc_putchar _nc_putchar_sp use_tioctl use_tioctl_sp"] },
   { version := "NCURSES6_TINFO_6.1.20171230"
     current := words
       ["_nc_copy_termtype2 _nc_export_termtype2 _nc_fallback2 _nc_free_termtype2"] },
   { version := "NCURSES6_TINFO_6.2.20200212"
     current := words ["_nc_find_user_entry curses_trace exit_terminfo"] },
   { version := "NCURSES6_TINFO_6.2.20211010"
     current := words ["_nc_reset_tparm _nc_safe_fopen _nc_safe_open3 _nc_tiparm"] },
   { version := "NCURSES6_TINFO_6.4.current"
     current := words
       ["is_cbreak is_cbreak_sp is_echo is_echo_sp is_nl is_nl_sp is_raw is_raw_sp tiparm_s",
        "tiscan_s"] },
   { version := "NCURSESW6_5.1.20000708" },
   { version := "NCURSESW6_5.3.20021019" },
   { version := "NCURSESW6_5.4.20040208" },
   { version := "NCURSESW6_5.5.20051010" },
   { version := "NCURSESW6_5.6.20061217" },
   { version := "NCURSESW6_5.7.20081102" },
   { version := "NCURSESW6_5.8.20110226" },
   { version := "NCURSESW6_5.9.20150530" },
   { version := "NCURSESW6_6.1.20171230" },
   { version := "NCURSESW6_6.2.20200212" }]

/-- The versions of the library of lists of who may access files. -/
def accessReleases : List Release :=
  [{ version := "ACL_1.0"
     current := words
       ["acl_add_perm acl_calc_mask acl_check acl_clear_perms acl_cmp acl_copy_entry",
        "acl_copy_ext acl_copy_int acl_create_entry acl_delete_def_file acl_delete_entry",
        "acl_delete_perm acl_dup acl_entries acl_equiv_mode acl_error acl_extended_fd",
        "acl_extended_file acl_free acl_from_mode acl_from_text acl_get_entry acl_get_fd",
        "acl_get_file acl_get_perm acl_get_permset acl_get_qualifier acl_get_tag_type acl_init",
        "acl_set_fd acl_set_file acl_set_permset acl_set_qualifier acl_set_tag_type acl_size",
        "acl_to_any_text acl_to_text acl_valid"] },
   { version := "ACL_1.1"
     current := words ["perm_copy_fd perm_copy_file"] },
   { version := "ACL_1.2"
     current := words ["acl_extended_file_nofollow"] }]

/-- The versions of the library of attributes of files. -/
def attributeReleases : List Release :=
  [{ version := "ATTR_1.0"
     current := words
       ["attr_get attr_getf attr_multi attr_multif attr_remove attr_removef attr_set attr_setf"]
     former := words
       ["fgetxattr flistxattr fremovexattr fsetxattr getxattr lgetxattr listxattr llistxattr",
        "lremovexattr lsetxattr removexattr setxattr"] },
   { version := "ATTR_1.1"
     current := words ["attr_copy_check_permissions attr_copy_fd attr_copy_file"] },
   { version := "ATTR_1.2"
     current := words ["attr_list attr_listf"] },
   { version := "ATTR_1.3"
     current := words ["attr_copy_action"] }]

/-- The versions of the library of what processes may do. -/
def capabilityReleases : List Release :=
  [{ version := ""
     current := words
       ["__execable_dl_loader __so_start _libcap_initialize _libcap_strdup cap_clear",
        "cap_clear_flag cap_compare cap_copy_ext cap_copy_int cap_copy_int_check",
        "cap_drop_bound cap_dup cap_fill cap_fill_flag cap_free cap_from_name cap_from_text",
        "cap_func_launcher cap_get_ambient cap_get_bound cap_get_fd cap_get_file cap_get_flag",
        "cap_get_mode cap_get_nsowner cap_get_pid cap_get_proc cap_get_secbits cap_iab_compare",
        "cap_iab_dup cap_iab_fill cap_iab_from_text cap_iab_get_pid cap_iab_get_proc",
        "cap_iab_get_vector cap_iab_init cap_iab_set_proc cap_iab_set_vector cap_iab_to_text",
        "cap_init cap_launch cap_launcher_callback cap_launcher_set_chroot",
        "cap_launcher_set_iab cap_launcher_set_mode cap_launcher_setgroups cap_launcher_setuid",
        "cap_max_bits cap_mode_name cap_new_launcher cap_prctl cap_prctlw cap_proc_root",
        "cap_reset_ambient cap_set_ambient cap_set_fd cap_set_file cap_set_flag cap_set_mode",
        "cap_set_nsowner cap_set_proc cap_set_secbits cap_set_syscall cap_setgroups cap_setuid",
        "cap_size cap_to_name cap_to_text capgetp capsetp psx_load_syscalls"] }]

/-- The versions of the library that compresses quickly. -/
def quickReleases : List Release :=
  [{ version := ""
     current := words
       ["LZ4F_compressBegin LZ4F_compressBegin_usingCDict LZ4F_compressBound LZ4F_compressEnd",
        "LZ4F_compressFrame LZ4F_compressFrameBound LZ4F_compressFrame_usingCDict",
        "LZ4F_compressUpdate LZ4F_compressionLevel_max LZ4F_createCDict",
        "LZ4F_createCDict_advanced LZ4F_createCompressionContext",
        "LZ4F_createCompressionContext_advanced LZ4F_createDecompressionContext",
        "LZ4F_createDecompressionContext_advanced LZ4F_decompress LZ4F_decompress_usingDict",
        "LZ4F_flush LZ4F_freeCDict LZ4F_freeCompressionContext LZ4F_freeDecompressionContext",
        "LZ4F_getBlockSize LZ4F_getErrorCode LZ4F_getErrorName LZ4F_getFrameInfo",
        "LZ4F_getVersion LZ4F_headerSize LZ4F_isError LZ4F_read LZ4F_readClose LZ4F_readOpen",
        "LZ4F_resetDecompressionContext LZ4F_uncompressedUpdate LZ4F_write LZ4F_writeClose",
        "LZ4F_writeOpen LZ4_compress LZ4_compressBound LZ4_compressHC LZ4_compressHC2",
        "LZ4_compressHC2_continue LZ4_compressHC2_limitedOutput",
        "LZ4_compressHC2_limitedOutput_continue LZ4_compressHC2_limitedOutput_withStateHC",
        "LZ4_compressHC2_withStateHC LZ4_compressHC_continue LZ4_compressHC_limitedOutput",
        "LZ4_compressHC_limitedOutput_continue LZ4_compressHC_limitedOutput_withStateHC",
        "LZ4_compressHC_withStateHC LZ4_compress_HC LZ4_compress_HC_continue",
        "LZ4_compress_HC_continue_destSize LZ4_compress_HC_destSize LZ4_compress_HC_extStateHC",
        "LZ4_compress_continue LZ4_compress_default LZ4_compress_destSize LZ4_compress_fast",
        "LZ4_compress_fast_continue LZ4_compress_fast_extState LZ4_compress_limitedOutput",
        "LZ4_compress_limitedOutput_continue LZ4_compress_limitedOutput_withState",
        "LZ4_compress_withState LZ4_create LZ4_createHC LZ4_createStream",
        "LZ4_createStreamDecode LZ4_createStreamHC LZ4_decoderRingBufferSize",
        "LZ4_decompress_fast LZ4_decompress_fast_continue LZ4_decompress_fast_usingDict",
        "LZ4_decompress_fast_withPrefix64k LZ4_decompress_safe LZ4_decompress_safe_continue",
        "LZ4_decompress_safe_partial LZ4_decompress_safe_partial_usingDict",
        "LZ4_decompress_safe_usingDict LZ4_decompress_safe_withPrefix64k LZ4_freeHC",
        "LZ4_freeStream LZ4_freeStreamDecode LZ4_freeStreamHC LZ4_initStream LZ4_initStreamHC",
        "LZ4_loadDict LZ4_loadDictHC LZ4_resetStream LZ4_resetStreamHC LZ4_resetStreamHC_fast",
        "LZ4_resetStreamState LZ4_resetStreamStateHC LZ4_resetStream_fast LZ4_saveDict",
        "LZ4_saveDictHC LZ4_setStreamDecode LZ4_sizeofState LZ4_sizeofStateHC",
        "LZ4_sizeofStreamState LZ4_sizeofStreamStateHC LZ4_slideInputBuffer",
        "LZ4_slideInputBufferHC LZ4_uncompress LZ4_uncompress_unknownOutputSize",
        "LZ4_versionNumber LZ4_versionString"] }]

/-- The versions of the library that compresses well and quickly. -/
def standardReleases : List Release :=
  [{ version := ""
     current := words
       ["ZDICT_addEntropyTablesFromBuffer ZDICT_finalizeDictionary ZDICT_getDictHeaderSize",
        "ZDICT_getDictID ZDICT_getErrorName ZDICT_isError ZDICT_optimizeTrainFromBuffer_cover",
        "ZDICT_optimizeTrainFromBuffer_fastCover ZDICT_trainFromBuffer",
        "ZDICT_trainFromBuffer_cover ZDICT_trainFromBuffer_fastCover",
        "ZDICT_trainFromBuffer_legacy ZSTD_CCtxParams_getParameter ZSTD_CCtxParams_init",
        "ZSTD_CCtxParams_init_advanced ZSTD_CCtxParams_reset ZSTD_CCtxParams_setParameter",
        "ZSTD_CCtx_getParameter ZSTD_CCtx_loadDictionary ZSTD_CCtx_loadDictionary_advanced",
        "ZSTD_CCtx_loadDictionary_byReference ZSTD_CCtx_refCDict ZSTD_CCtx_refPrefix",
        "ZSTD_CCtx_refPrefix_advanced ZSTD_CCtx_refThreadPool ZSTD_CCtx_reset",
        "ZSTD_CCtx_setCParams ZSTD_CCtx_setFParams ZSTD_CCtx_setParameter",
        "ZSTD_CCtx_setParametersUsingCCtxParams ZSTD_CCtx_setParams",
        "ZSTD_CCtx_setPledgedSrcSize ZSTD_CStreamInSize ZSTD_CStreamOutSize",
        "ZSTD_DCtx_getParameter ZSTD_DCtx_loadDictionary ZSTD_DCtx_loadDictionary_advanced",
        "ZSTD_DCtx_loadDictionary_byReference ZSTD_DCtx_refDDict ZSTD_DCtx_refPrefix",
        "ZSTD_DCtx_refPrefix_advanced ZSTD_DCtx_reset ZSTD_DCtx_setFormat",
        "ZSTD_DCtx_setMaxWindowSize ZSTD_DCtx_setParameter ZSTD_DStreamInSize",
        "ZSTD_DStreamOutSize ZSTD_adjustCParams ZSTD_cParam_getBounds ZSTD_checkCParams",
        "ZSTD_compress ZSTD_compress2 ZSTD_compressBegin ZSTD_compressBegin_advanced",
        "ZSTD_compressBegin_usingCDict ZSTD_compressBegin_usingCDict_advanced",
        "ZSTD_compressBegin_usingDict ZSTD_compressBlock ZSTD_compressBound ZSTD_compressCCtx",
        "ZSTD_compressContinue ZSTD_compressEnd ZSTD_compressSequences ZSTD_compressStream",
        "ZSTD_compressStream2 ZSTD_compressStream2_simpleArgs ZSTD_compress_advanced",
        "ZSTD_compress_usingCDict ZSTD_compress_usingCDict_advanced ZSTD_compress_usingDict",
        "ZSTD_copyCCtx ZSTD_copyDCtx ZSTD_createCCtx ZSTD_createCCtxParams",
        "ZSTD_createCCtx_advanced ZSTD_createCDict ZSTD_createCDict_advanced",
        "ZSTD_createCDict_advanced2 ZSTD_createCDict_byReference ZSTD_createCStream",
        "ZSTD_createCStream_advanced ZSTD_createDCtx ZSTD_createDCtx_advanced ZSTD_createDDict",
        "ZSTD_createDDict_advanced ZSTD_createDDict_byReference ZSTD_createDStream",
        "ZSTD_createDStream_advanced ZSTD_createThreadPool ZSTD_dParam_getBounds",
        "ZSTD_decodingBufferSize_min ZSTD_decompress ZSTD_decompressBegin",
        "ZSTD_decompressBegin_usingDDict ZSTD_decompressBegin_usingDict ZSTD_decompressBlock",
        "ZSTD_decompressBound ZSTD_decompressContinue ZSTD_decompressDCtx",
        "ZSTD_decompressStream ZSTD_decompressStream_simpleArgs ZSTD_decompress_usingDDict",
        "ZSTD_decompress_usingDict ZSTD_decompressionMargin ZSTD_defaultCLevel ZSTD_endStream",
        "ZSTD_estimateCCtxSize ZSTD_estimateCCtxSize_usingCCtxParams",
        "ZSTD_estimateCCtxSize_usingCParams ZSTD_estimateCDictSize",
        "ZSTD_estimateCDictSize_advanced ZSTD_estimateCStreamSize",
        "ZSTD_estimateCStreamSize_usingCCtxParams ZSTD_estimateCStreamSize_usingCParams",
        "ZSTD_estimateDCtxSize ZSTD_estimateDDictSize ZSTD_estimateDStreamSize",
        "ZSTD_estimateDStreamSize_fromFrame ZSTD_findDecompressedSize",
        "ZSTD_findFrameCompressedSize ZSTD_flushStream ZSTD_frameHeaderSize ZSTD_freeCCtx",
        "ZSTD_freeCCtxParams ZSTD_freeCDict ZSTD_freeCStream ZSTD_freeDCtx ZSTD_freeDDict",
        "ZSTD_freeDStream ZSTD_freeThreadPool ZSTD_generateSequences ZSTD_getBlockSize",
        "ZSTD_getCParams ZSTD_getDecompressedSize ZSTD_getDictID_fromCDict",
        "ZSTD_getDictID_fromDDict ZSTD_getDictID_fromDict ZSTD_getDictID_fromFrame",
        "ZSTD_getErrorCode ZSTD_getErrorName ZSTD_getErrorString ZSTD_getFrameContentSize",
        "ZSTD_getFrameHeader ZSTD_getFrameHeader_advanced ZSTD_getFrameProgression",
        "ZSTD_getParams ZSTD_initCStream ZSTD_initCStream_advanced ZSTD_initCStream_srcSize",
        "ZSTD_initCStream_usingCDict ZSTD_initCStream_usingCDict_advanced",
        "ZSTD_initCStream_usingDict ZSTD_initDStream ZSTD_initDStream_usingDDict",
        "ZSTD_initDStream_usingDict ZSTD_initStaticCCtx ZSTD_initStaticCDict",
        "ZSTD_initStaticCStream ZSTD_initStaticDCtx ZSTD_initStaticDDict",
        "ZSTD_initStaticDStream ZSTD_insertBlock ZSTD_isError ZSTD_isFrame",
        "ZSTD_isSkippableFrame ZSTD_maxCLevel ZSTD_mergeBlockDelimiters ZSTD_minCLevel",
        "ZSTD_nextInputType ZSTD_nextSrcSizeToDecompress ZSTD_readSkippableFrame",
        "ZSTD_registerSequenceProducer ZSTD_resetCStream ZSTD_resetDStream ZSTD_sequenceBound",
        "ZSTD_sizeof_CCtx ZSTD_sizeof_CDict ZSTD_sizeof_CStream ZSTD_sizeof_DCtx",
        "ZSTD_sizeof_DDict ZSTD_sizeof_DStream ZSTD_toFlushNow ZSTD_versionNumber",
        "ZSTD_versionString ZSTD_writeSkippableFrame"] }]

/-- The versions of the library that matches patterns. -/
def patternReleases : List Release :=
  [{ version := ""
     current := words
       ["pcre2_callout_enumerate_8 pcre2_code_copy_8 pcre2_code_copy_with_tables_8",
        "pcre2_code_free_8 pcre2_compile_8 pcre2_compile_context_copy_8",
        "pcre2_compile_context_create_8 pcre2_compile_context_free_8 pcre2_config_8",
        "pcre2_convert_context_copy_8 pcre2_convert_context_create_8",
        "pcre2_convert_context_free_8 pcre2_converted_pattern_free_8 pcre2_dfa_match_8",
        "pcre2_general_context_copy_8 pcre2_general_context_create_8",
        "pcre2_general_context_free_8 pcre2_get_error_message_8 pcre2_get_mark_8",
        "pcre2_get_match_data_size_8 pcre2_get_ovector_count_8 pcre2_get_ovector_pointer_8",
        "pcre2_get_startchar_8 pcre2_jit_compile_8 pcre2_jit_free_unused_memory_8",
        "pcre2_jit_match_8 pcre2_jit_stack_assign_8 pcre2_jit_stack_create_8",
        "pcre2_jit_stack_free_8 pcre2_maketables_8 pcre2_maketables_free_8 pcre2_match_8",
        "pcre2_match_context_copy_8 pcre2_match_context_create_8 pcre2_match_context_free_8",
        "pcre2_match_data_create_8 pcre2_match_data_create_from_pattern_8",
        "pcre2_match_data_free_8 pcre2_pattern_convert_8 pcre2_pattern_info_8",
        "pcre2_serialize_decode_8 pcre2_serialize_encode_8 pcre2_serialize_free_8",
        "pcre2_serialize_get_number_of_codes_8 pcre2_set_bsr_8 pcre2_set_callout_8",
        "pcre2_set_character_tables_8 pcre2_set_compile_extra_options_8",
        "pcre2_set_compile_recursion_guard_8 pcre2_set_depth_limit_8 pcre2_set_glob_escape_8",
        "pcre2_set_glob_separator_8 pcre2_set_heap_limit_8 pcre2_set_match_limit_8",
        "pcre2_set_max_pattern_length_8 pcre2_set_newline_8 pcre2_set_offset_limit_8",
        "pcre2_set_parens_nest_limit_8 pcre2_set_recursion_limit_8",
        "pcre2_set_recursion_memory_management_8 pcre2_set_substitute_callout_8",
        "pcre2_substitute_8 pcre2_substring_copy_byname_8 pcre2_substring_copy_bynumber_8",
        "pcre2_substring_free_8 pcre2_substring_get_byname_8 pcre2_substring_get_bynumber_8",
        "pcre2_substring_length_byname_8 pcre2_substring_length_bynumber_8",
        "pcre2_substring_list_free_8 pcre2_substring_list_get_8",
        "pcre2_substring_nametable_scan_8 pcre2_substring_number_from_name_8"] }]

/-- The versions of the library of labels for security. -/
def labelReleases : List Release :=
  [{ version := "LIBSELINUX_1.0"
     current := words
       ["avc_add_callback avc_audit avc_av_stats avc_cache_stats avc_cleanup",
        "avc_compute_create avc_compute_member avc_context_to_sid avc_context_to_sid_raw",
        "avc_destroy avc_get_initial_sid avc_has_perm avc_has_perm_noaudit avc_init",
        "avc_netlink_acquire_fd avc_netlink_check_nb avc_netlink_close avc_netlink_loop",
        "avc_netlink_open avc_netlink_release_fd avc_open avc_reset avc_sid_stats",
        "avc_sid_to_context avc_sid_to_context_raw checkPasswdAccess context_free context_new",
        "context_range_get context_range_set context_role_get context_role_set context_str",
        "context_type_get context_type_set context_user_get context_user_set fgetfilecon",
        "fgetfilecon_raw fini_selinuxmnt freecon freeconary fsetfilecon fsetfilecon_raw",
        "get_default_context get_default_context_with_level get_default_context_with_role",
        "get_default_context_with_rolelevel get_default_type get_ordered_context_list",
        "get_ordered_context_list_with_level getcon getcon_raw getexeccon getexeccon_raw",
        "getfilecon getfilecon_raw getfscreatecon getfscreatecon_raw getkeycreatecon",
        "getkeycreatecon_raw getpeercon getpeercon_raw getpidcon getpidcon_raw getprevcon",
        "getprevcon_raw getseuser getseuserbyname getsockcreatecon getsockcreatecon_raw",
        "is_context_customizable is_selinux_enabled is_selinux_mls_enabled lgetfilecon",
        "lgetfilecon_raw lsetfilecon lsetfilecon_raw manual_user_enter_context matchmediacon",
        "matchpathcon matchpathcon_checkmatches matchpathcon_filespec_add",
        "matchpathcon_filespec_destroy matchpathcon_filespec_eval matchpathcon_fini",
        "matchpathcon_index matchpathcon_init matchpathcon_init_prefix mode_to_security_class",
        "print_access_vector query_user_context realpath_not_final rpm_execcon",
        "security_av_perm_to_string security_av_string security_canonicalize_context",
        "security_canonicalize_context_raw security_check_context security_check_context_raw",
        "security_class_to_string security_commit_booleans security_compute_av",
        "security_compute_av_flags security_compute_av_flags_raw security_compute_av_raw",
        "security_compute_create security_compute_create_name security_compute_create_name_raw",
        "security_compute_create_raw security_compute_member security_compute_member_raw",
        "security_compute_relabel security_compute_relabel_raw security_compute_user",
        "security_compute_user_raw security_deny_unknown security_disable",
        "security_get_boolean_active security_get_boolean_names security_get_boolean_pending",
        "security_get_checkreqprot security_get_initial_context",
        "security_get_initial_context_raw security_getenforce security_load_booleans",
        "security_load_policy security_policyvers security_reject_unknown security_set_boolean",
        "security_set_boolean_list security_setenforce security_validatetrans",
        "security_validatetrans_raw selabel_close selabel_cmp selabel_digest",
        "selabel_get_digests_all_partial_matches selabel_hash_all_partial_matches",
        "selabel_lookup selabel_lookup_best_match selabel_lookup_best_match_raw",
        "selabel_lookup_raw selabel_open selabel_partial_match selabel_stats",
        "selinux_binary_policy_path selinux_boolean_sub selinux_booleans_path",
        "selinux_booleans_subs_path selinux_check_access selinux_check_passwd_access",
        "selinux_check_securetty_context selinux_colors_path selinux_contexts_path",
        "selinux_current_policy_path selinux_customizable_types_path",
        "selinux_default_context_path selinux_default_type_path selinux_failsafe_context_path",
        "selinux_file_context_cmp selinux_file_context_homedir_path",
        "selinux_file_context_local_path selinux_file_context_path",
        "selinux_file_context_subs_dist_path selinux_file_context_subs_path",
        "selinux_file_context_verify selinux_flush_class_cache selinux_get_callback",
        "selinux_getenforcemode selinux_getpolicytype selinux_homedir_context_path",
        "selinux_init_load_policy selinux_lsetfilecon_default selinux_lxc_contexts_path",
        "selinux_media_context_path selinux_mkload_policy selinux_mnt",
        "selinux_netfilter_context_path selinux_openrc_contexts_path",
        "selinux_openssh_contexts_path selinux_path selinux_policy_root",
        "selinux_raw_context_to_color selinux_raw_to_trans_context",
        "selinux_removable_context_path selinux_reset_config selinux_restorecon",
        "selinux_restorecon_default_handle selinux_restorecon_set_alt_rootpath",
        "selinux_restorecon_set_exclude_list selinux_restorecon_set_sehandle",
        "selinux_restorecon_xattr selinux_securetty_types_path selinux_sepgsql_context_path",
        "selinux_set_callback selinux_set_mapping selinux_set_policy_root",
        "selinux_snapperd_contexts_path selinux_status_close selinux_status_deny_unknown",
        "selinux_status_getenforce selinux_status_open selinux_status_policyload",
        "selinux_status_updated selinux_systemd_contexts_path selinux_trans_to_raw_context",
        "selinux_translations_path selinux_user_contexts_path selinux_users_path",
        "selinux_usersconf_path selinux_virtual_domain_context_path",
        "selinux_virtual_image_context_path selinux_x_context_path selinuxfs_exists",
        "set_matchpathcon_canoncon set_matchpathcon_flags set_matchpathcon_invalidcon",
        "set_matchpathcon_printf set_selinuxmnt setcon setcon_raw setexeccon setexeccon_raw",
        "setexecfilecon setfilecon setfilecon_raw setfscreatecon setfscreatecon_raw",
        "setkeycreatecon setkeycreatecon_raw setsockcreatecon setsockcreatecon_raw sidget",
        "sidput string_to_av_perm string_to_security_class"] },
   { version := "LIBSELINUX_3.4"
     current := words ["selinux_restorecon_get_skipped_errors selinux_restorecon_parallel"] },
   { version := "LIBSELINUX_3.5"
     current := words ["getpidprevcon getpidprevcon_raw"] },
   { version := "LIBSELINUX_3.7" }]

/-- The versions of the library that knows devices. -/
def deviceReleases : List Release :=
  [{ version := "LIBUDEV_183"
     current := words
       ["udev_device_get_action udev_device_get_devlinks_list_entry udev_device_get_devnode",
        "udev_device_get_devnum udev_device_get_devpath udev_device_get_devtype",
        "udev_device_get_driver udev_device_get_is_initialized udev_device_get_parent",
        "udev_device_get_parent_with_subsystem_devtype udev_device_get_properties_list_entry",
        "udev_device_get_property_value udev_device_get_seqnum udev_device_get_subsystem",
        "udev_device_get_sysattr_list_entry udev_device_get_sysattr_value",
        "udev_device_get_sysname udev_device_get_sysnum udev_device_get_syspath",
        "udev_device_get_tags_list_entry udev_device_get_udev",
        "udev_device_get_usec_since_initialized udev_device_has_tag",
        "udev_device_new_from_devnum udev_device_new_from_environment",
        "udev_device_new_from_subsystem_sysname udev_device_new_from_syspath udev_device_ref",
        "udev_device_unref udev_enumerate_add_match_is_initialized",
        "udev_enumerate_add_match_parent udev_enumerate_add_match_property",
        "udev_enumerate_add_match_subsystem udev_enumerate_add_match_sysattr",
        "udev_enumerate_add_match_sysname udev_enumerate_add_match_tag",
        "udev_enumerate_add_nomatch_subsystem udev_enumerate_add_nomatch_sysattr",
        "udev_enumerate_add_syspath udev_enumerate_get_list_entry udev_enumerate_get_udev",
        "udev_enumerate_new udev_enumerate_ref udev_enumerate_scan_devices",
        "udev_enumerate_scan_subsystems udev_enumerate_unref udev_get_log_priority",
        "udev_get_userdata udev_list_entry_get_by_name udev_list_entry_get_name",
        "udev_list_entry_get_next udev_list_entry_get_value udev_monitor_enable_receiving",
        "udev_monitor_filter_add_match_subsystem_devtype udev_monitor_filter_add_match_tag",
        "udev_monitor_filter_remove udev_monitor_filter_update udev_monitor_get_fd",
        "udev_monitor_get_udev udev_monitor_new_from_netlink udev_monitor_receive_device",
        "udev_monitor_ref udev_monitor_set_receive_buffer_size udev_monitor_unref udev_new",
        "udev_queue_get_kernel_seqnum udev_queue_get_queue_is_empty",
        "udev_queue_get_queued_list_entry udev_queue_get_seqnum_is_finished",
        "udev_queue_get_seqnum_sequence_is_finished udev_queue_get_udev",
        "udev_queue_get_udev_is_active udev_queue_get_udev_seqnum udev_queue_new",
        "udev_queue_ref udev_queue_unref udev_ref udev_set_log_fn udev_set_log_priority",
        "udev_set_userdata udev_unref udev_util_encode_string"] },
   { version := "LIBUDEV_189"
     current := words ["udev_device_new_from_device_id"] },
   { version := "LIBUDEV_196"
     current := words
       ["udev_hwdb_get_properties_list_entry udev_hwdb_new udev_hwdb_ref udev_hwdb_unref"] },
   { version := "LIBUDEV_199"
     current := words ["udev_device_set_sysattr_value"] },
   { version := "LIBUDEV_215"
     current := words ["udev_queue_flush udev_queue_get_fd"] },
   { version := "LIBUDEV_247"
     current := words ["udev_device_get_current_tags_list_entry udev_device_has_current_tag"] }]

/-- The versions of the library that watches the use of memory. -/
def memoryReleases : List Release :=
  [{ version := ""
     current := words ["calloc free malloc mmap mmap64 mremap munmap realloc"] }]

/-- The versions of the library that watches calls. -/
def counterReleases : List Release :=
  [{ version := ""
     current := words ["__cyg_profile_func_enter __cyg_profile_func_exit"] }]

end Linkage.Native.SystemLibrary
