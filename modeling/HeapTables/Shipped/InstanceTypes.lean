import HeapTables.Rows

/-! The instance types of the shipping build, in recorded order. -/
namespace HeapTables.Shipped

def instanceTypes : List (Named UInt16) := [
  ⟨0, "INTERNALIZED_STRING_TYPE"⟩,
  ⟨2, "EXTERNAL_INTERNALIZED_STRING_TYPE"⟩,
  ⟨8, "ONE_BYTE_INTERNALIZED_STRING_TYPE"⟩,
  ⟨10, "EXTERNAL_ONE_BYTE_INTERNALIZED_STRING_TYPE"⟩,
  ⟨18, "UNCACHED_EXTERNAL_INTERNALIZED_STRING_TYPE"⟩,
  ⟨26, "UNCACHED_EXTERNAL_ONE_BYTE_INTERNALIZED_STRING_TYPE"⟩,
  ⟨32, "STRING_TYPE"⟩,
  ⟨33, "CONS_STRING_TYPE"⟩,
  ⟨34, "EXTERNAL_STRING_TYPE"⟩,
  ⟨35, "SLICED_STRING_TYPE"⟩,
  ⟨37, "THIN_STRING_TYPE"⟩,
  ⟨40, "ONE_BYTE_STRING_TYPE"⟩,
  ⟨41, "CONS_ONE_BYTE_STRING_TYPE"⟩,
  ⟨42, "EXTERNAL_ONE_BYTE_STRING_TYPE"⟩,
  ⟨43, "SLICED_ONE_BYTE_STRING_TYPE"⟩,
  ⟨45, "THIN_ONE_BYTE_STRING_TYPE"⟩,
  ⟨50, "UNCACHED_EXTERNAL_STRING_TYPE"⟩,
  ⟨58, "UNCACHED_EXTERNAL_ONE_BYTE_STRING_TYPE"⟩,
  ⟨96, "SHARED_STRING_TYPE"⟩,
  ⟨98, "SHARED_EXTERNAL_STRING_TYPE"⟩,
  ⟨101, "SHARED_THIN_STRING_TYPE"⟩,
  ⟨104, "SHARED_ONE_BYTE_STRING_TYPE"⟩,
  ⟨106, "SHARED_EXTERNAL_ONE_BYTE_STRING_TYPE"⟩,
  ⟨109, "SHARED_THIN_ONE_BYTE_STRING_TYPE"⟩,
  ⟨114, "SHARED_UNCACHED_EXTERNAL_STRING_TYPE"⟩,
  ⟨122, "SHARED_UNCACHED_EXTERNAL_ONE_BYTE_STRING_TYPE"⟩,
  ⟨128, "SYMBOL_TYPE"⟩,
  ⟨129, "BIG_INT_BASE_TYPE"⟩,
  ⟨130, "HEAP_NUMBER_TYPE"⟩,
  ⟨131, "ODDBALL_TYPE"⟩,
  ⟨132, "PROMISE_FULFILL_REACTION_JOB_TASK_TYPE"⟩,
  ⟨133, "PROMISE_REJECT_REACTION_JOB_TASK_TYPE"⟩,
  ⟨134, "CALLABLE_TASK_TYPE"⟩,
  ⟨135, "CALLBACK_TASK_TYPE"⟩,
  ⟨136, "PROMISE_RESOLVE_THENABLE_JOB_TASK_TYPE"⟩,
  ⟨137, "LOAD_HANDLER_TYPE"⟩,
  ⟨138, "STORE_HANDLER_TYPE"⟩,
  ⟨139, "FUNCTION_TEMPLATE_INFO_TYPE"⟩,
  ⟨140, "OBJECT_TEMPLATE_INFO_TYPE"⟩,
  ⟨141, "ACCESS_CHECK_INFO_TYPE"⟩,
  ⟨142, "ACCESSOR_PAIR_TYPE"⟩,
  ⟨143, "ALIASED_ARGUMENTS_ENTRY_TYPE"⟩,
  ⟨144, "ALLOCATION_MEMENTO_TYPE"⟩,
  ⟨145, "ALLOCATION_SITE_TYPE"⟩,
  ⟨146, "ARRAY_BOILERPLATE_DESCRIPTION_TYPE"⟩,
  ⟨147, "ASM_WASM_DATA_TYPE"⟩,
  ⟨148, "ASYNC_GENERATOR_REQUEST_TYPE"⟩,
  ⟨149, "BREAK_POINT_TYPE"⟩,
  ⟨150, "BREAK_POINT_INFO_TYPE"⟩,
  ⟨151, "CACHED_TEMPLATE_OBJECT_TYPE"⟩,
  ⟨152, "CALL_SITE_INFO_TYPE"⟩,
  ⟨153, "CLASS_POSITIONS_TYPE"⟩,
  ⟨154, "DEBUG_INFO_TYPE"⟩,
  ⟨155, "ENUM_CACHE_TYPE"⟩,
  ⟨156, "ERROR_STACK_DATA_TYPE"⟩,
  ⟨157, "FEEDBACK_CELL_TYPE"⟩,
  ⟨158, "FUNCTION_TEMPLATE_RARE_DATA_TYPE"⟩,
  ⟨159, "INTERCEPTOR_INFO_TYPE"⟩,
  ⟨160, "INTERPRETER_DATA_TYPE"⟩,
  ⟨161, "MODULE_REQUEST_TYPE"⟩,
  ⟨162, "PROMISE_CAPABILITY_TYPE"⟩,
  ⟨163, "PROMISE_ON_STACK_TYPE"⟩,
  ⟨164, "PROMISE_REACTION_TYPE"⟩,
  ⟨165, "PROPERTY_DESCRIPTOR_OBJECT_TYPE"⟩,
  ⟨166, "PROTOTYPE_INFO_TYPE"⟩,
  ⟨167, "REG_EXP_BOILERPLATE_DESCRIPTION_TYPE"⟩,
  ⟨168, "SCRIPT_TYPE"⟩,
  ⟨169, "SCRIPT_OR_MODULE_TYPE"⟩,
  ⟨170, "SOURCE_TEXT_MODULE_INFO_ENTRY_TYPE"⟩,
  ⟨171, "STACK_FRAME_INFO_TYPE"⟩,
  ⟨172, "TEMPLATE_OBJECT_DESCRIPTION_TYPE"⟩,
  ⟨173, "TUPLE2_TYPE"⟩,
  ⟨174, "WASM_EXCEPTION_TAG_TYPE"⟩,
  ⟨175, "WASM_INDIRECT_FUNCTION_TABLE_TYPE"⟩,
  ⟨176, "FIXED_ARRAY_TYPE"⟩,
  ⟨177, "HASH_TABLE_TYPE"⟩,
  ⟨178, "EPHEMERON_HASH_TABLE_TYPE"⟩,
  ⟨179, "GLOBAL_DICTIONARY_TYPE"⟩,
  ⟨180, "NAME_DICTIONARY_TYPE"⟩,
  ⟨181, "NAME_TO_INDEX_HASH_TABLE_TYPE"⟩,
  ⟨182, "NUMBER_DICTIONARY_TYPE"⟩,
  ⟨183, "ORDERED_HASH_MAP_TYPE"⟩,
  ⟨184, "ORDERED_HASH_SET_TYPE"⟩,
  ⟨185, "ORDERED_NAME_DICTIONARY_TYPE"⟩,
  ⟨186, "REGISTERED_SYMBOL_TABLE_TYPE"⟩,
  ⟨187, "SIMPLE_NUMBER_DICTIONARY_TYPE"⟩,
  ⟨188, "CLOSURE_FEEDBACK_CELL_ARRAY_TYPE"⟩,
  ⟨189, "OBJECT_BOILERPLATE_DESCRIPTION_TYPE"⟩,
  ⟨190, "SCRIPT_CONTEXT_TABLE_TYPE"⟩,
  ⟨191, "BYTE_ARRAY_TYPE"⟩,
  ⟨192, "BYTECODE_ARRAY_TYPE"⟩,
  ⟨193, "FIXED_DOUBLE_ARRAY_TYPE"⟩,
  ⟨194, "INTERNAL_CLASS_WITH_SMI_ELEMENTS_TYPE"⟩,
  ⟨195, "SLOPPY_ARGUMENTS_ELEMENTS_TYPE"⟩,
  ⟨196, "TURBOFAN_BITSET_TYPE_TYPE"⟩,
  ⟨197, "TURBOFAN_HEAP_CONSTANT_TYPE_TYPE"⟩,
  ⟨198, "TURBOFAN_OTHER_NUMBER_CONSTANT_TYPE_TYPE"⟩,
  ⟨199, "TURBOFAN_RANGE_TYPE_TYPE"⟩,
  ⟨200, "TURBOFAN_UNION_TYPE_TYPE"⟩,
  ⟨201, "EXPORTED_SUB_CLASS_BASE_TYPE"⟩,
  ⟨202, "EXPORTED_SUB_CLASS_TYPE"⟩,
  ⟨203, "EXPORTED_SUB_CLASS2_TYPE"⟩,
  ⟨204, "FOREIGN_TYPE"⟩,
  ⟨205, "AWAIT_CONTEXT_TYPE"⟩,
  ⟨206, "BLOCK_CONTEXT_TYPE"⟩,
  ⟨207, "CATCH_CONTEXT_TYPE"⟩,
  ⟨208, "DEBUG_EVALUATE_CONTEXT_TYPE"⟩,
  ⟨209, "EVAL_CONTEXT_TYPE"⟩,
  ⟨210, "FUNCTION_CONTEXT_TYPE"⟩,
  ⟨211, "MODULE_CONTEXT_TYPE"⟩,
  ⟨212, "NATIVE_CONTEXT_TYPE"⟩,
  ⟨213, "SCRIPT_CONTEXT_TYPE"⟩,
  ⟨214, "WITH_CONTEXT_TYPE"⟩,
  ⟨215, "UNCOMPILED_DATA_WITH_PREPARSE_DATA_TYPE"⟩,
  ⟨216, "UNCOMPILED_DATA_WITH_PREPARSE_DATA_AND_JOB_TYPE"⟩,
  ⟨217, "UNCOMPILED_DATA_WITHOUT_PREPARSE_DATA_TYPE"⟩,
  ⟨218, "UNCOMPILED_DATA_WITHOUT_PREPARSE_DATA_WITH_JOB_TYPE"⟩,
  ⟨219, "WASM_FUNCTION_DATA_TYPE"⟩,
  ⟨220, "WASM_CAPI_FUNCTION_DATA_TYPE"⟩,
  ⟨221, "WASM_EXPORTED_FUNCTION_DATA_TYPE"⟩,
  ⟨222, "WASM_JS_FUNCTION_DATA_TYPE"⟩,
  ⟨223, "SMALL_ORDERED_HASH_MAP_TYPE"⟩,
  ⟨224, "SMALL_ORDERED_HASH_SET_TYPE"⟩,
  ⟨225, "SMALL_ORDERED_NAME_DICTIONARY_TYPE"⟩,
  ⟨226, "ABSTRACT_INTERNAL_CLASS_SUBCLASS1_TYPE"⟩,
  ⟨227, "ABSTRACT_INTERNAL_CLASS_SUBCLASS2_TYPE"⟩,
  ⟨228, "DESCRIPTOR_ARRAY_TYPE"⟩,
  ⟨229, "STRONG_DESCRIPTOR_ARRAY_TYPE"⟩,
  ⟨230, "SOURCE_TEXT_MODULE_TYPE"⟩,
  ⟨231, "SYNTHETIC_MODULE_TYPE"⟩,
  ⟨232, "WEAK_FIXED_ARRAY_TYPE"⟩,
  ⟨233, "TRANSITION_ARRAY_TYPE"⟩,
  ⟨234, "ACCESSOR_INFO_TYPE"⟩,
  ⟨235, "CALL_HANDLER_INFO_TYPE"⟩,
  ⟨236, "CELL_TYPE"⟩,
  ⟨237, "CODE_TYPE"⟩,
  ⟨238, "CODE_DATA_CONTAINER_TYPE"⟩,
  ⟨239, "COVERAGE_INFO_TYPE"⟩,
  ⟨240, "EMBEDDER_DATA_ARRAY_TYPE"⟩,
  ⟨241, "FEEDBACK_METADATA_TYPE"⟩,
  ⟨242, "FEEDBACK_VECTOR_TYPE"⟩,
  ⟨243, "FILLER_TYPE"⟩,
  ⟨244, "FREE_SPACE_TYPE"⟩,
  ⟨245, "INTERNAL_CLASS_TYPE"⟩,
  ⟨246, "INTERNAL_CLASS_WITH_STRUCT_ELEMENTS_TYPE"⟩,
  ⟨247, "MAP_TYPE"⟩,
  ⟨248, "MEGA_DOM_HANDLER_TYPE"⟩,
  ⟨249, "ON_HEAP_BASIC_BLOCK_PROFILER_DATA_TYPE"⟩,
  ⟨250, "PREPARSE_DATA_TYPE"⟩,
  ⟨251, "PROPERTY_ARRAY_TYPE"⟩,
  ⟨252, "PROPERTY_CELL_TYPE"⟩,
  ⟨253, "SCOPE_INFO_TYPE"⟩,
  ⟨254, "SHARED_FUNCTION_INFO_TYPE"⟩,
  ⟨255, "SMI_BOX_TYPE"⟩,
  ⟨256, "SMI_PAIR_TYPE"⟩,
  ⟨257, "SORT_STATE_TYPE"⟩,
  ⟨258, "SWISS_NAME_DICTIONARY_TYPE"⟩,
  ⟨259, "WASM_API_FUNCTION_REF_TYPE"⟩,
  ⟨260, "WASM_CONTINUATION_OBJECT_TYPE"⟩,
  ⟨261, "WASM_INTERNAL_FUNCTION_TYPE"⟩,
  ⟨262, "WASM_RESUME_DATA_TYPE"⟩,
  ⟨263, "WASM_STRING_VIEW_ITER_TYPE"⟩,
  ⟨264, "WASM_TYPE_INFO_TYPE"⟩,
  ⟨265, "WEAK_ARRAY_LIST_TYPE"⟩,
  ⟨266, "WEAK_CELL_TYPE"⟩,
  ⟨267, "WASM_ARRAY_TYPE"⟩,
  ⟨268, "WASM_STRUCT_TYPE"⟩,
  ⟨269, "JS_PROXY_TYPE"⟩,
  ⟨1057, "JS_OBJECT_TYPE"⟩,
  ⟨270, "JS_GLOBAL_OBJECT_TYPE"⟩,
  ⟨271, "JS_GLOBAL_PROXY_TYPE"⟩,
  ⟨272, "JS_MODULE_NAMESPACE_TYPE"⟩,
  ⟨1040, "JS_SPECIAL_API_OBJECT_TYPE"⟩,
  ⟨1041, "JS_PRIMITIVE_WRAPPER_TYPE"⟩,
  ⟨1058, "JS_API_OBJECT_TYPE"⟩,
  ⟨2058, "JS_LAST_DUMMY_API_OBJECT_TYPE"⟩,
  ⟨2059, "JS_DATA_VIEW_TYPE"⟩,
  ⟨2060, "JS_TYPED_ARRAY_TYPE"⟩,
  ⟨2061, "JS_ARRAY_BUFFER_TYPE"⟩,
  ⟨2062, "JS_PROMISE_TYPE"⟩,
  ⟨2063, "JS_BOUND_FUNCTION_TYPE"⟩,
  ⟨2064, "JS_WRAPPED_FUNCTION_TYPE"⟩,
  ⟨2065, "JS_FUNCTION_TYPE"⟩,
  ⟨2066, "BIGINT64_TYPED_ARRAY_CONSTRUCTOR_TYPE"⟩,
  ⟨2067, "BIGUINT64_TYPED_ARRAY_CONSTRUCTOR_TYPE"⟩,
  ⟨2068, "FLOAT32_TYPED_ARRAY_CONSTRUCTOR_TYPE"⟩,
  ⟨2069, "FLOAT64_TYPED_ARRAY_CONSTRUCTOR_TYPE"⟩,
  ⟨2070, "INT16_TYPED_ARRAY_CONSTRUCTOR_TYPE"⟩,
  ⟨2071, "INT32_TYPED_ARRAY_CONSTRUCTOR_TYPE"⟩,
  ⟨2072, "INT8_TYPED_ARRAY_CONSTRUCTOR_TYPE"⟩,
  ⟨2073, "UINT16_TYPED_ARRAY_CONSTRUCTOR_TYPE"⟩,
  ⟨2074, "UINT32_TYPED_ARRAY_CONSTRUCTOR_TYPE"⟩,
  ⟨2075, "UINT8_CLAMPED_TYPED_ARRAY_CONSTRUCTOR_TYPE"⟩,
  ⟨2076, "UINT8_TYPED_ARRAY_CONSTRUCTOR_TYPE"⟩,
  ⟨2077, "JS_ARRAY_CONSTRUCTOR_TYPE"⟩,
  ⟨2078, "JS_PROMISE_CONSTRUCTOR_TYPE"⟩,
  ⟨2079, "JS_REG_EXP_CONSTRUCTOR_TYPE"⟩,
  ⟨2080, "JS_CLASS_CONSTRUCTOR_TYPE"⟩,
  ⟨2081, "JS_ARRAY_ITERATOR_PROTOTYPE_TYPE"⟩,
  ⟨2082, "JS_ITERATOR_PROTOTYPE_TYPE"⟩,
  ⟨2083, "JS_MAP_ITERATOR_PROTOTYPE_TYPE"⟩,
  ⟨2084, "JS_OBJECT_PROTOTYPE_TYPE"⟩,
  ⟨2085, "JS_PROMISE_PROTOTYPE_TYPE"⟩,
  ⟨2086, "JS_REG_EXP_PROTOTYPE_TYPE"⟩,
  ⟨2087, "JS_SET_ITERATOR_PROTOTYPE_TYPE"⟩,
  ⟨2088, "JS_SET_PROTOTYPE_TYPE"⟩,
  ⟨2089, "JS_STRING_ITERATOR_PROTOTYPE_TYPE"⟩,
  ⟨2090, "JS_TYPED_ARRAY_PROTOTYPE_TYPE"⟩,
  ⟨2091, "JS_MAP_KEY_ITERATOR_TYPE"⟩,
  ⟨2092, "JS_MAP_KEY_VALUE_ITERATOR_TYPE"⟩,
  ⟨2093, "JS_MAP_VALUE_ITERATOR_TYPE"⟩,
  ⟨2094, "JS_SET_KEY_VALUE_ITERATOR_TYPE"⟩,
  ⟨2095, "JS_SET_VALUE_ITERATOR_TYPE"⟩,
  ⟨2096, "JS_GENERATOR_OBJECT_TYPE"⟩,
  ⟨2097, "JS_ASYNC_FUNCTION_OBJECT_TYPE"⟩,
  ⟨2098, "JS_ASYNC_GENERATOR_OBJECT_TYPE"⟩,
  ⟨2099, "JS_MAP_TYPE"⟩,
  ⟨2100, "JS_SET_TYPE"⟩,
  ⟨2101, "JS_ATOMICS_CONDITION_TYPE"⟩,
  ⟨2102, "JS_ATOMICS_MUTEX_TYPE"⟩,
  ⟨2103, "JS_WEAK_MAP_TYPE"⟩,
  ⟨2104, "JS_WEAK_SET_TYPE"⟩,
  ⟨2105, "JS_ARGUMENTS_OBJECT_TYPE"⟩,
  ⟨2106, "JS_ARRAY_TYPE"⟩,
  ⟨2107, "JS_ARRAY_ITERATOR_TYPE"⟩,
  ⟨2108, "JS_ASYNC_FROM_SYNC_ITERATOR_TYPE"⟩,
  ⟨2109, "JS_COLLATOR_TYPE"⟩,
  ⟨2110, "JS_CONTEXT_EXTENSION_OBJECT_TYPE"⟩,
  ⟨2111, "JS_DATE_TYPE"⟩,
  ⟨2112, "JS_DATE_TIME_FORMAT_TYPE"⟩,
  ⟨2113, "JS_DISPLAY_NAMES_TYPE"⟩,
  ⟨2114, "JS_DURATION_FORMAT_TYPE"⟩,
  ⟨2115, "JS_ERROR_TYPE"⟩,
  ⟨2116, "JS_EXTERNAL_OBJECT_TYPE"⟩,
  ⟨2117, "JS_FINALIZATION_REGISTRY_TYPE"⟩,
  ⟨2118, "JS_LIST_FORMAT_TYPE"⟩,
  ⟨2119, "JS_LOCALE_TYPE"⟩,
  ⟨2120, "JS_MESSAGE_OBJECT_TYPE"⟩,
  ⟨2121, "JS_NUMBER_FORMAT_TYPE"⟩,
  ⟨2122, "JS_PLURAL_RULES_TYPE"⟩,
  ⟨2123, "JS_RAW_JSON_TYPE"⟩,
  ⟨2124, "JS_REG_EXP_TYPE"⟩,
  ⟨2125, "JS_REG_EXP_STRING_ITERATOR_TYPE"⟩,
  ⟨2126, "JS_RELATIVE_TIME_FORMAT_TYPE"⟩,
  ⟨2127, "JS_SEGMENT_ITERATOR_TYPE"⟩,
  ⟨2128, "JS_SEGMENTER_TYPE"⟩,
  ⟨2129, "JS_SEGMENTS_TYPE"⟩,
  ⟨2130, "JS_SHADOW_REALM_TYPE"⟩,
  ⟨2131, "JS_SHARED_ARRAY_TYPE"⟩,
  ⟨2132, "JS_SHARED_STRUCT_TYPE"⟩,
  ⟨2133, "JS_STRING_ITERATOR_TYPE"⟩,
  ⟨2134, "JS_TEMPORAL_CALENDAR_TYPE"⟩,
  ⟨2135, "JS_TEMPORAL_DURATION_TYPE"⟩,
  ⟨2136, "JS_TEMPORAL_INSTANT_TYPE"⟩,
  ⟨2137, "JS_TEMPORAL_PLAIN_DATE_TYPE"⟩,
  ⟨2138, "JS_TEMPORAL_PLAIN_DATE_TIME_TYPE"⟩,
  ⟨2139, "JS_TEMPORAL_PLAIN_MONTH_DAY_TYPE"⟩,
  ⟨2140, "JS_TEMPORAL_PLAIN_TIME_TYPE"⟩,
  ⟨2141, "JS_TEMPORAL_PLAIN_YEAR_MONTH_TYPE"⟩,
  ⟨2142, "JS_TEMPORAL_TIME_ZONE_TYPE"⟩,
  ⟨2143, "JS_TEMPORAL_ZONED_DATE_TIME_TYPE"⟩,
  ⟨2144, "JS_V8_BREAK_ITERATOR_TYPE"⟩,
  ⟨2145, "JS_WEAK_REF_TYPE"⟩,
  ⟨2146, "WASM_EXCEPTION_PACKAGE_TYPE"⟩,
  ⟨2147, "WASM_GLOBAL_OBJECT_TYPE"⟩,
  ⟨2148, "WASM_INSTANCE_OBJECT_TYPE"⟩,
  ⟨2149, "WASM_MEMORY_OBJECT_TYPE"⟩,
  ⟨2150, "WASM_MODULE_OBJECT_TYPE"⟩,
  ⟨2151, "WASM_SUSPENDER_OBJECT_TYPE"⟩,
  ⟨2152, "WASM_TABLE_OBJECT_TYPE"⟩,
  ⟨2153, "WASM_TAG_OBJECT_TYPE"⟩,
  ⟨2154, "WASM_VALUE_OBJECT_TYPE"⟩
]

end HeapTables.Shipped
