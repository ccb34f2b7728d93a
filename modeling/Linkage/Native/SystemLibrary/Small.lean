import Linkage.Native.SystemLibrary.Release

/-!
# Small libraries of a system

What some smaller libraries export. A few of them are empty by now, and keep their versions only.
-/

namespace Linkage.Native.SystemLibrary

/-- The versions of the library that threads once needed. -/
def threadReleases : List Release :=
  [{ version := "GLIBC_2.2.5"
     former := words ["__libpthread_version_placeholder"] },
   { version := "GLIBC_2.2.6"
     former := words ["__libpthread_version_placeholder"] },
   { version := "GLIBC_2.3.2"
     former := words ["__libpthread_version_placeholder"] },
   { version := "GLIBC_2.3.3"
     former := words ["__libpthread_version_placeholder"] },
   { version := "GLIBC_2.3.4"
     former := words ["__libpthread_version_placeholder"] },
   { version := "GLIBC_2.4"
     former := words ["__libpthread_version_placeholder"] },
   { version := "GLIBC_2.11"
     former := words ["__libpthread_version_placeholder"] },
   { version := "GLIBC_2.12"
     former := words ["__libpthread_version_placeholder"] },
   { version := "GLIBC_2.18"
     former := words ["__libpthread_version_placeholder"] },
   { version := "GLIBC_2.28"
     former := words ["__libpthread_version_placeholder"] },
   { version := "GLIBC_2.30"
     former := words ["__libpthread_version_placeholder"] },
   { version := "GLIBC_2.31"
     former := words ["__libpthread_version_placeholder"] }]

/-- The versions of the library that loading once needed. -/
def dynamicReleases : List Release :=
  [{ version := "GLIBC_2.2.5"
     former := words ["__libdl_version_placeholder"] },
   { version := "GLIBC_2.3.3"
     former := words ["__libdl_version_placeholder"] },
   { version := "GLIBC_2.3.4"
     former := words ["__libdl_version_placeholder"] }]

/-- The versions of the library that timers once needed. -/
def realtimeReleases : List Release :=
  [{ version := "GLIBC_2.2.5"
     former := words ["__librt_version_placeholder"] },
   { version := "GLIBC_2.3.3"
     former := words ["__librt_version_placeholder"] },
   { version := "GLIBC_2.3.4"
     former := words ["__librt_version_placeholder"] },
   { version := "GLIBC_2.4"
     former := words ["__librt_version_placeholder"] },
   { version := "GLIBC_2.7"
     former := words ["__librt_version_placeholder"] }]

/-- The versions of the library that terminals once needed. -/
def terminalReleases : List Release :=
  [{ version := "GLIBC_2.2.5"
     former := words ["__libutil_version_placeholder"] }]

/-- The versions of the library that waiting for addresses once needed. -/
def lookupReleases : List Release :=
  [{ version := "GLIBC_2.2.5"
     former := words ["__libanl_version_placeholder"] }]

/-- The versions of the library of broken locales. -/
def localeReleases : List Release :=
  [{ version := "GLIBC_2.2.5"
     current := words ["__ctype_get_mb_cur_max"] }]

/-- The versions of the library that asks name servers. -/
def resolverReleases : List Release :=
  [{ version := "GLIBC_2.2.5"
     current := words
       ["__b64_ntop __b64_pton __dn_count_labels __fp_nquery __fp_query __fp_resstat",
        "__hostalias __loc_aton __loc_ntoa __p_cdname __p_cdnname __p_class __p_class_syms",
        "__p_fqname __p_fqnname __p_option __p_query __p_time __p_type __p_type_syms __putlong",
        "__putshort __res_close __res_hostalias __res_isourserver __res_nameinquery",
        "__res_queriesmatch __sym_ntop __sym_ntos __sym_ston _getlong _getshort _res_opcodes",
        "inet_net_ntop inet_net_pton inet_neta"]
     former := words
       ["__p_secstodate _gethtbyaddr _gethtbyname _gethtbyname2 _gethtent _sethtent",
        "res_gethostbyaddr res_gethostbyname res_gethostbyname2 res_send_setqhook",
        "res_send_setrhook"] },
   { version := "GLIBC_2.3.2"
     current := words ["__p_rcode"] },
   { version := "GLIBC_2.9"
     current := words
       ["ns_datetosecs ns_format_ttl ns_get16 ns_get32 ns_initparse ns_makecanon",
        "ns_msg_getflag ns_name_ntol ns_name_rollback ns_parse_ttl ns_parserr ns_put16",
        "ns_put32 ns_samedomain ns_samename ns_skiprr ns_sprintrr ns_sprintrrf ns_subdomain"] },
   { version := "GLIBC_PRIVATE"
     current := words ["__ns_get16 __ns_get32"] }]

/-- The versions of the library that asks directories of a network. -/
def directoryReleases : List Release :=
  [{ version := "GLIBC_2.2.5"
     former := words
       ["__free_fdresult __nis_default_access __nis_default_group __nis_default_owner",
        "__nis_default_ttl __nis_finddirectory __nis_hash __nisbind_connect __nisbind_create",
        "__nisbind_destroy __nisbind_next __yp_check nis_add nis_add_entry nis_addmember",
        "nis_checkpoint nis_clone_directory nis_clone_object nis_clone_result nis_creategroup",
        "nis_destroy_object nis_destroygroup nis_dir_cmp nis_domain_of nis_domain_of_r",
        "nis_first_entry nis_free_directory nis_free_object nis_free_request nis_freenames",
        "nis_freeresult nis_freeservlist nis_freetags nis_getnames nis_getservlist",
        "nis_ismember nis_leaf_of nis_leaf_of_r nis_lerror nis_list nis_local_directory",
        "nis_local_group nis_local_host nis_local_principal nis_lookup nis_mkdir nis_modify",
        "nis_modify_entry nis_name_of nis_name_of_r nis_next_entry nis_perror nis_ping",
        "nis_print_directory nis_print_entry nis_print_group nis_print_group_entry",
        "nis_print_link nis_print_object nis_print_result nis_print_rights nis_print_table",
        "nis_read_obj nis_remove nis_remove_entry nis_removemember nis_rmdir nis_servstate",
        "nis_sperrno nis_sperror nis_sperror_r nis_stats nis_verifygroup nis_write_obj",
        "readColdStartFile writeColdStartFile xdr_cback_data xdr_domainname xdr_keydat",
        "xdr_mapname xdr_obj_p xdr_peername xdr_valdat xdr_yp_buf xdr_ypall xdr_ypbind_binding",
        "xdr_ypbind_resp xdr_ypbind_resptype xdr_ypbind_setdom xdr_ypdelete_args",
        "xdr_ypmap_parms xdr_ypmaplist xdr_yppush_status xdr_yppushresp_xfr xdr_ypreq_key",
        "xdr_ypreq_nokey xdr_ypreq_xfr xdr_ypresp_all xdr_ypresp_key_val xdr_ypresp_maplist",
        "xdr_ypresp_master xdr_ypresp_order xdr_ypresp_val xdr_ypresp_xfr xdr_ypstat",
        "xdr_ypupdate_args xdr_ypxfrstat yp_all yp_bind yp_first yp_get_default_domain",
        "yp_maplist yp_master yp_match yp_next yp_order yp_unbind yp_update ypbinderr_string",
        "yperr_string ypprot_err"] },
   { version := "GLIBC_PRIVATE"
     former := words
       ["__create_ib_request __do_niscall3 __follow_path __prepare_niscall _xdr_ib_request",
        "_xdr_nis_result"] }]

/-- The versions of the library that finds users by name servers. -/
def hesiodReleases : List Release :=
  [{ version := "GLIBC_PRIVATE"
     current := words
       ["_nss_hesiod_endgrent _nss_hesiod_endprotoent _nss_hesiod_endpwent",
        "_nss_hesiod_endservent _nss_hesiod_getgrgid_r _nss_hesiod_getgrnam_r",
        "_nss_hesiod_getprotobyname_r _nss_hesiod_getprotobynumber_r _nss_hesiod_getpwnam_r",
        "_nss_hesiod_getpwuid_r _nss_hesiod_getservbyname_r _nss_hesiod_getservbyport_r",
        "_nss_hesiod_initgroups_dyn _nss_hesiod_setgrent _nss_hesiod_setprotoent",
        "_nss_hesiod_setpwent _nss_hesiod_setservent"] }]

/-- The versions of the library that finds users as it was done of old. -/
def compatReleases : List Release :=
  [{ version := "GLIBC_PRIVATE"
     current := words
       ["_nss_compat_endgrent _nss_compat_endpwent _nss_compat_endspent _nss_compat_getgrent_r",
        "_nss_compat_getgrgid_r _nss_compat_getgrnam_r _nss_compat_getpwent_r",
        "_nss_compat_getpwnam_r _nss_compat_getpwuid_r _nss_compat_getspent_r",
        "_nss_compat_getspnam_r _nss_compat_initgroups_dyn _nss_compat_setgrent",
        "_nss_compat_setpwent _nss_compat_setspent"] }]

/-- The versions of the library that hashes passwords. -/
def cipherReleases : List Release :=
  [{ version := "GLIBC_2.2.5"
     former := words ["crypt crypt_r encrypt encrypt_r fcrypt setkey setkey_r"] },
   { version := "XCRYPT_2.0"
     current := words
       ["crypt crypt_gensalt crypt_gensalt_ra crypt_gensalt_rn crypt_r crypt_ra crypt_rn"]
     former := words ["crypt_gensalt_r xcrypt xcrypt_gensalt xcrypt_gensalt_r xcrypt_r"] },
   { version := "XCRYPT_4.3"
     current := words ["crypt_checksalt"] },
   { version := "XCRYPT_4.4"
     current := words ["crypt_preferred_method"] }]

/-- The versions of the library that checks the use of memory. -/
def debugReleases : List Release :=
  [{ version := "GLIBC_2.2.5"
     former := words
       ["__free_hook __malloc_hook __memalign_hook __realloc_hook calloc free mallinfo malloc",
        "malloc_get_state malloc_set_state malloc_stats malloc_trim malloc_usable_size mallopt",
        "mcheck mcheck_check_all mcheck_pedantic memalign mprobe mtrace muntrace",
        "posix_memalign pvalloc realloc valloc"] },
   { version := "GLIBC_2.10"
     former := words ["malloc_info"] },
   { version := "GLIBC_2.16"
     former := words ["aligned_alloc"] },
   { version := "GLIBC_2.33"
     former := words ["mallinfo2"] }]

/-- The versions of the library that compresses streams. -/
def deflateReleases : List Release :=
  [{ version := ""
     current := words
       ["adler32 compress compress2 crc32 deflate deflateCopy deflateEnd deflateInit2_",
        "deflateInit_ deflateParams deflateReset deflateSetDictionary get_crc_table gzclose",
        "gzdopen gzeof gzerror gzflush gzgetc gzgets gzopen gzprintf gzputc gzputs gzread",
        "gzrewind gzseek gzsetparams gztell gzwrite inflate inflateEnd inflateInit2_",
        "inflateInit_ inflateReset inflateSetDictionary inflateSync inflateSyncPoint",
        "uncompress zError zlibVersion"] },
   { version := "ZLIB_1.2.0"
     current := words
       ["compressBound deflateBound inflateBack inflateBackEnd inflateBackInit_ inflateCopy"] },
   { version := "ZLIB_1.2.0.2"
     current := words ["gzclearerr gzungetc zlibCompileFlags"] },
   { version := "ZLIB_1.2.0.8"
     current := words ["deflatePrime"] },
   { version := "ZLIB_1.2.2"
     current := words ["adler32_combine crc32_combine deflateSetHeader inflateGetHeader"] },
   { version := "ZLIB_1.2.2.3"
     current := words ["deflateTune gzdirect"] },
   { version := "ZLIB_1.2.2.4"
     current := words ["inflatePrime"] },
   { version := "ZLIB_1.2.3.3"
     current := words
       ["adler32_combine64 crc32_combine64 gzopen64 gzseek64 gztell64 inflateUndermine"] },
   { version := "ZLIB_1.2.3.4"
     current := words ["inflateMark inflateReset2"] },
   { version := "ZLIB_1.2.3.5"
     current := words ["gzbuffer gzclose_r gzclose_w gzoffset gzoffset64"] },
   { version := "ZLIB_1.2.5.1"
     current := words ["deflatePending"] },
   { version := "ZLIB_1.2.5.2"
     current := words ["deflateResetKeep gzgetc_ inflateResetKeep"] },
   { version := "ZLIB_1.2.7.1"
     current := words ["gzvprintf inflateGetDictionary"] },
   { version := "ZLIB_1.2.9"
     current := words
       ["adler32_z crc32_z deflateGetDictionary gzfread gzfwrite inflateCodesUsed",
        "inflateValidate uncompress2"] },
   { version := "ZLIB_1.2.12"
     current := words ["crc32_combine_gen crc32_combine_gen64 crc32_combine_op"] }]

/-- The versions of the library that compresses blocks. -/
def blockReleases : List Release :=
  [{ version := ""
     current := words
       ["BZ2_blockSort BZ2_bsInitWrite BZ2_bzBuffToBuffCompress BZ2_bzBuffToBuffDecompress",
        "BZ2_bzCompress BZ2_bzCompressEnd BZ2_bzCompressInit BZ2_bzDecompress",
        "BZ2_bzDecompressEnd BZ2_bzDecompressInit BZ2_bzRead BZ2_bzReadClose",
        "BZ2_bzReadGetUnused BZ2_bzReadOpen BZ2_bzWrite BZ2_bzWriteClose BZ2_bzWriteClose64",
        "BZ2_bzWriteOpen BZ2_bz__AssertH__fail BZ2_bzclose BZ2_bzdopen BZ2_bzerror BZ2_bzflush",
        "BZ2_bzlibVersion BZ2_bzopen BZ2_bzread BZ2_bzwrite BZ2_compressBlock BZ2_crc32Table",
        "BZ2_decompress BZ2_hbAssignCodes BZ2_hbCreateDecodeTables BZ2_hbMakeCodeLengths",
        "BZ2_indexIntoF BZ2_rNums"] }]

/-- The versions of the library that compresses by chains. -/
def chainReleases : List Release :=
  [{ version := "XZ_5.0"
     current := words
       ["lzma_alone_decoder lzma_alone_encoder lzma_auto_decoder lzma_block_buffer_bound",
        "lzma_block_buffer_decode lzma_block_buffer_encode lzma_block_compressed_size",
        "lzma_block_decoder lzma_block_encoder lzma_block_header_decode",
        "lzma_block_header_encode lzma_block_header_size lzma_block_total_size",
        "lzma_block_unpadded_size lzma_check_is_supported lzma_check_size lzma_code lzma_crc32",
        "lzma_crc64 lzma_easy_buffer_encode lzma_easy_decoder_memusage lzma_easy_encoder",
        "lzma_easy_encoder_memusage lzma_end lzma_filter_decoder_is_supported",
        "lzma_filter_encoder_is_supported lzma_filter_flags_decode lzma_filter_flags_encode",
        "lzma_filter_flags_size lzma_filters_copy lzma_filters_update lzma_get_check",
        "lzma_index_append lzma_index_block_count lzma_index_buffer_decode",
        "lzma_index_buffer_encode lzma_index_cat lzma_index_checks lzma_index_decoder",
        "lzma_index_dup lzma_index_encoder lzma_index_end lzma_index_file_size",
        "lzma_index_hash_append lzma_index_hash_decode lzma_index_hash_end",
        "lzma_index_hash_init lzma_index_hash_size lzma_index_init lzma_index_iter_init",
        "lzma_index_iter_locate lzma_index_iter_next lzma_index_iter_rewind",
        "lzma_index_memusage lzma_index_memused lzma_index_size lzma_index_stream_count",
        "lzma_index_stream_flags lzma_index_stream_padding lzma_index_stream_size",
        "lzma_index_total_size lzma_index_uncompressed_size lzma_lzma_preset lzma_memlimit_get",
        "lzma_memlimit_set lzma_memusage lzma_mf_is_supported lzma_mode_is_supported",
        "lzma_physmem lzma_properties_decode lzma_properties_encode lzma_properties_size",
        "lzma_raw_buffer_decode lzma_raw_buffer_encode lzma_raw_decoder",
        "lzma_raw_decoder_memusage lzma_raw_encoder lzma_raw_encoder_memusage",
        "lzma_stream_buffer_bound lzma_stream_buffer_decode lzma_stream_buffer_encode",
        "lzma_stream_decoder lzma_stream_encoder lzma_stream_flags_compare",
        "lzma_stream_footer_decode lzma_stream_footer_encode lzma_stream_header_decode",
        "lzma_stream_header_encode lzma_version_number lzma_version_string lzma_vli_decode",
        "lzma_vli_encode lzma_vli_size"] },
   { version := "XZ_5.2"
     current := words
       ["lzma_block_uncomp_encode lzma_cputhreads lzma_get_progress lzma_stream_encoder_mt",
        "lzma_stream_encoder_mt_memusage"] },
   { version := "XZ_5.1.2alpha"
     former := words ["lzma_stream_encoder_mt lzma_stream_encoder_mt_memusage"] },
   { version := "XZ_5.2.2"
     former := words
       ["lzma_block_uncomp_encode lzma_cputhreads lzma_get_progress lzma_stream_encoder_mt",
        "lzma_stream_encoder_mt_memusage"] },
   { version := "XZ_5.4"
     current := words
       ["lzma_file_info_decoder lzma_filters_free lzma_lzip_decoder lzma_microlzma_decoder",
        "lzma_microlzma_encoder lzma_str_from_filters lzma_str_list_filters",
        "lzma_str_to_filters lzma_stream_decoder_mt"] }]

/-- The versions of the library that makes identifiers. -/
def identifierReleases : List Release :=
  [{ version := "UUID_1.0"
     current := words
       ["uuid_clear uuid_compare uuid_copy uuid_generate uuid_generate_random",
        "uuid_generate_time uuid_is_null uuid_parse uuid_time uuid_type uuid_unparse",
        "uuid_unparse_lower uuid_unparse_upper uuid_variant"] },
   { version := "UUID_2.20"
     current := words ["uuid_generate_time_safe"] },
   { version := "UUID_2.31"
     current := words ["uuid_generate_md5 uuid_generate_sha1 uuid_get_template"] },
   { version := "UUID_2.36"
     current := words ["uuid_parse_range"] },
   { version := "UUIDD_PRIVATE"
     current := words ["__uuid_generate_random __uuid_generate_time __uuid_generate_time_cont"] }]

end Linkage.Native.SystemLibrary
