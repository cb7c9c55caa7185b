import HeapTables.Rows

/-! The known maps of the shipping build, in recorded order. -/
namespace HeapTables.Shipped

def knownMaps : List (Placed KnownMap) := [
  ⟨⟨"read_only_space", 0x02141⟩, ⟨247, "MetaMap"⟩⟩,
  ⟨⟨"read_only_space", 0x02169⟩, ⟨131, "NullMap"⟩⟩,
  ⟨⟨"read_only_space", 0x02191⟩, ⟨229, "StrongDescriptorArrayMap"⟩⟩,
  ⟨⟨"read_only_space", 0x021b9⟩, ⟨265, "WeakArrayListMap"⟩⟩,
  ⟨⟨"read_only_space", 0x021fd⟩, ⟨155, "EnumCacheMap"⟩⟩,
  ⟨⟨"read_only_space", 0x02231⟩, ⟨176, "FixedArrayMap"⟩⟩,
  ⟨⟨"read_only_space", 0x0227d⟩, ⟨8, "OneByteInternalizedStringMap"⟩⟩,
  ⟨⟨"read_only_space", 0x022c9⟩, ⟨244, "FreeSpaceMap"⟩⟩,
  ⟨⟨"read_only_space", 0x022f1⟩, ⟨243, "OnePointerFillerMap"⟩⟩,
  ⟨⟨"read_only_space", 0x02319⟩, ⟨243, "TwoPointerFillerMap"⟩⟩,
  ⟨⟨"read_only_space", 0x02341⟩, ⟨131, "UninitializedMap"⟩⟩,
  ⟨⟨"read_only_space", 0x023b9⟩, ⟨131, "UndefinedMap"⟩⟩,
  ⟨⟨"read_only_space", 0x023fd⟩, ⟨130, "HeapNumberMap"⟩⟩,
  ⟨⟨"read_only_space", 0x02431⟩, ⟨131, "TheHoleMap"⟩⟩,
  ⟨⟨"read_only_space", 0x02491⟩, ⟨131, "BooleanMap"⟩⟩,
  ⟨⟨"read_only_space", 0x02535⟩, ⟨191, "ByteArrayMap"⟩⟩,
  ⟨⟨"read_only_space", 0x0255d⟩, ⟨176, "FixedCOWArrayMap"⟩⟩,
  ⟨⟨"read_only_space", 0x02585⟩, ⟨177, "HashTableMap"⟩⟩,
  ⟨⟨"read_only_space", 0x025ad⟩, ⟨128, "SymbolMap"⟩⟩,
  ⟨⟨"read_only_space", 0x025d5⟩, ⟨40, "OneByteStringMap"⟩⟩,
  ⟨⟨"read_only_space", 0x025fd⟩, ⟨253, "ScopeInfoMap"⟩⟩,
  ⟨⟨"read_only_space", 0x02625⟩, ⟨254, "SharedFunctionInfoMap"⟩⟩,
  ⟨⟨"read_only_space", 0x0264d⟩, ⟨237, "CodeMap"⟩⟩,
  ⟨⟨"read_only_space", 0x02675⟩, ⟨236, "CellMap"⟩⟩,
  ⟨⟨"read_only_space", 0x0269d⟩, ⟨252, "GlobalPropertyCellMap"⟩⟩,
  ⟨⟨"read_only_space", 0x026c5⟩, ⟨204, "ForeignMap"⟩⟩,
  ⟨⟨"read_only_space", 0x026ed⟩, ⟨233, "TransitionArrayMap"⟩⟩,
  ⟨⟨"read_only_space", 0x02715⟩, ⟨45, "ThinOneByteStringMap"⟩⟩,
  ⟨⟨"read_only_space", 0x0273d⟩, ⟨242, "FeedbackVectorMap"⟩⟩,
  ⟨⟨"read_only_space", 0x02775⟩, ⟨131, "ArgumentsMarkerMap"⟩⟩,
  ⟨⟨"read_only_space", 0x027d5⟩, ⟨131, "ExceptionMap"⟩⟩,
  ⟨⟨"read_only_space", 0x02831⟩, ⟨131, "TerminationExceptionMap"⟩⟩,
  ⟨⟨"read_only_space", 0x02899⟩, ⟨131, "OptimizedOutMap"⟩⟩,
  ⟨⟨"read_only_space", 0x028f9⟩, ⟨131, "StaleRegisterMap"⟩⟩,
  ⟨⟨"read_only_space", 0x02959⟩, ⟨190, "ScriptContextTableMap"⟩⟩,
  ⟨⟨"read_only_space", 0x02981⟩, ⟨188, "ClosureFeedbackCellArrayMap"⟩⟩,
  ⟨⟨"read_only_space", 0x029a9⟩, ⟨241, "FeedbackMetadataArrayMap"⟩⟩,
  ⟨⟨"read_only_space", 0x029d1⟩, ⟨176, "ArrayListMap"⟩⟩,
  ⟨⟨"read_only_space", 0x029f9⟩, ⟨129, "BigIntMap"⟩⟩,
  ⟨⟨"read_only_space", 0x02a21⟩, ⟨189, "ObjectBoilerplateDescriptionMap"⟩⟩,
  ⟨⟨"read_only_space", 0x02a49⟩, ⟨192, "BytecodeArrayMap"⟩⟩,
  ⟨⟨"read_only_space", 0x02a71⟩, ⟨238, "CodeDataContainerMap"⟩⟩,
  ⟨⟨"read_only_space", 0x02a99⟩, ⟨239, "CoverageInfoMap"⟩⟩,
  ⟨⟨"read_only_space", 0x02ac1⟩, ⟨193, "FixedDoubleArrayMap"⟩⟩,
  ⟨⟨"read_only_space", 0x02ae9⟩, ⟨179, "GlobalDictionaryMap"⟩⟩,
  ⟨⟨"read_only_space", 0x02b11⟩, ⟨157, "ManyClosuresCellMap"⟩⟩,
  ⟨⟨"read_only_space", 0x02b39⟩, ⟨248, "MegaDomHandlerMap"⟩⟩,
  ⟨⟨"read_only_space", 0x02b61⟩, ⟨176, "ModuleInfoMap"⟩⟩,
  ⟨⟨"read_only_space", 0x02b89⟩, ⟨180, "NameDictionaryMap"⟩⟩,
  ⟨⟨"read_only_space", 0x02bb1⟩, ⟨157, "NoClosuresCellMap"⟩⟩,
  ⟨⟨"read_only_space", 0x02bd9⟩, ⟨182, "NumberDictionaryMap"⟩⟩,
  ⟨⟨"read_only_space", 0x02c01⟩, ⟨157, "OneClosureCellMap"⟩⟩,
  ⟨⟨"read_only_space", 0x02c29⟩, ⟨183, "OrderedHashMapMap"⟩⟩,
  ⟨⟨"read_only_space", 0x02c51⟩, ⟨184, "OrderedHashSetMap"⟩⟩,
  ⟨⟨"read_only_space", 0x02c79⟩, ⟨181, "NameToIndexHashTableMap"⟩⟩,
  ⟨⟨"read_only_space", 0x02ca1⟩, ⟨186, "RegisteredSymbolTableMap"⟩⟩,
  ⟨⟨"read_only_space", 0x02cc9⟩, ⟨185, "OrderedNameDictionaryMap"⟩⟩,
  ⟨⟨"read_only_space", 0x02cf1⟩, ⟨250, "PreparseDataMap"⟩⟩,
  ⟨⟨"read_only_space", 0x02d19⟩, ⟨251, "PropertyArrayMap"⟩⟩,
  ⟨⟨"read_only_space", 0x02d41⟩, ⟨234, "AccessorInfoMap"⟩⟩,
  ⟨⟨"read_only_space", 0x02d69⟩, ⟨235, "SideEffectCallHandlerInfoMap"⟩⟩,
  ⟨⟨"read_only_space", 0x02d91⟩, ⟨235, "SideEffectFreeCallHandlerInfoMap"⟩⟩,
  ⟨⟨"read_only_space", 0x02db9⟩, ⟨235, "NextCallSideEffectFreeCallHandlerInfoMap"⟩⟩,
  ⟨⟨"read_only_space", 0x02de1⟩, ⟨187, "SimpleNumberDictionaryMap"⟩⟩,
  ⟨⟨"read_only_space", 0x02e09⟩, ⟨223, "SmallOrderedHashMapMap"⟩⟩,
  ⟨⟨"read_only_space", 0x02e31⟩, ⟨224, "SmallOrderedHashSetMap"⟩⟩,
  ⟨⟨"read_only_space", 0x02e59⟩, ⟨225, "SmallOrderedNameDictionaryMap"⟩⟩,
  ⟨⟨"read_only_space", 0x02e81⟩, ⟨230, "SourceTextModuleMap"⟩⟩,
  ⟨⟨"read_only_space", 0x02ea9⟩, ⟨258, "SwissNameDictionaryMap"⟩⟩,
  ⟨⟨"read_only_space", 0x02ed1⟩, ⟨231, "SyntheticModuleMap"⟩⟩,
  ⟨⟨"read_only_space", 0x02ef9⟩, ⟨259, "WasmApiFunctionRefMap"⟩⟩,
  ⟨⟨"read_only_space", 0x02f21⟩, ⟨220, "WasmCapiFunctionDataMap"⟩⟩,
  ⟨⟨"read_only_space", 0x02f49⟩, ⟨221, "WasmExportedFunctionDataMap"⟩⟩,
  ⟨⟨"read_only_space", 0x02f71⟩, ⟨261, "WasmInternalFunctionMap"⟩⟩,
  ⟨⟨"read_only_space", 0x02f99⟩, ⟨222, "WasmJSFunctionDataMap"⟩⟩,
  ⟨⟨"read_only_space", 0x02fc1⟩, ⟨262, "WasmResumeDataMap"⟩⟩,
  ⟨⟨"read_only_space", 0x02fe9⟩, ⟨264, "WasmTypeInfoMap"⟩⟩,
  ⟨⟨"read_only_space", 0x03011⟩, ⟨260, "WasmContinuationObjectMap"⟩⟩,
  ⟨⟨"read_only_space", 0x03039⟩, ⟨232, "WeakFixedArrayMap"⟩⟩,
  ⟨⟨"read_only_space", 0x03061⟩, ⟨178, "EphemeronHashTableMap"⟩⟩,
  ⟨⟨"read_only_space", 0x03089⟩, ⟨240, "EmbedderDataArrayMap"⟩⟩,
  ⟨⟨"read_only_space", 0x030b1⟩, ⟨266, "WeakCellMap"⟩⟩,
  ⟨⟨"read_only_space", 0x030d9⟩, ⟨32, "StringMap"⟩⟩,
  ⟨⟨"read_only_space", 0x03101⟩, ⟨41, "ConsOneByteStringMap"⟩⟩,
  ⟨⟨"read_only_space", 0x03129⟩, ⟨33, "ConsStringMap"⟩⟩,
  ⟨⟨"read_only_space", 0x03151⟩, ⟨37, "ThinStringMap"⟩⟩,
  ⟨⟨"read_only_space", 0x03179⟩, ⟨35, "SlicedStringMap"⟩⟩,
  ⟨⟨"read_only_space", 0x031a1⟩, ⟨43, "SlicedOneByteStringMap"⟩⟩,
  ⟨⟨"read_only_space", 0x031c9⟩, ⟨34, "ExternalStringMap"⟩⟩,
  ⟨⟨"read_only_space", 0x031f1⟩, ⟨42, "ExternalOneByteStringMap"⟩⟩,
  ⟨⟨"read_only_space", 0x03219⟩, ⟨50, "UncachedExternalStringMap"⟩⟩,
  ⟨⟨"read_only_space", 0x03241⟩, ⟨0, "InternalizedStringMap"⟩⟩,
  ⟨⟨"read_only_space", 0x03269⟩, ⟨2, "ExternalInternalizedStringMap"⟩⟩,
  ⟨⟨"read_only_space", 0x03291⟩, ⟨10, "ExternalOneByteInternalizedStringMap"⟩⟩,
  ⟨⟨"read_only_space", 0x032b9⟩, ⟨18, "UncachedExternalInternalizedStringMap"⟩⟩,
  ⟨⟨"read_only_space", 0x032e1⟩, ⟨26, "UncachedExternalOneByteInternalizedStringMap"⟩⟩,
  ⟨⟨"read_only_space", 0x03309⟩, ⟨58, "UncachedExternalOneByteStringMap"⟩⟩,
  ⟨⟨"read_only_space", 0x03331⟩, ⟨104, "SharedOneByteStringMap"⟩⟩,
  ⟨⟨"read_only_space", 0x03359⟩, ⟨96, "SharedStringMap"⟩⟩,
  ⟨⟨"read_only_space", 0x03381⟩, ⟨106, "SharedExternalOneByteStringMap"⟩⟩,
  ⟨⟨"read_only_space", 0x033a9⟩, ⟨98, "SharedExternalStringMap"⟩⟩,
  ⟨⟨"read_only_space", 0x033d1⟩, ⟨122, "SharedUncachedExternalOneByteStringMap"⟩⟩,
  ⟨⟨"read_only_space", 0x033f9⟩, ⟨114, "SharedUncachedExternalStringMap"⟩⟩,
  ⟨⟨"read_only_space", 0x03421⟩, ⟨109, "SharedThinOneByteStringMap"⟩⟩,
  ⟨⟨"read_only_space", 0x03449⟩, ⟨101, "SharedThinStringMap"⟩⟩,
  ⟨⟨"read_only_space", 0x03471⟩, ⟨131, "SelfReferenceMarkerMap"⟩⟩,
  ⟨⟨"read_only_space", 0x03499⟩, ⟨131, "BasicBlockCountersMarkerMap"⟩⟩,
  ⟨⟨"read_only_space", 0x034dd⟩, ⟨146, "ArrayBoilerplateDescriptionMap"⟩⟩,
  ⟨⟨"read_only_space", 0x035dd⟩, ⟨159, "InterceptorInfoMap"⟩⟩,
  ⟨⟨"read_only_space", 0x075c9⟩, ⟨132, "PromiseFulfillReactionJobTaskMap"⟩⟩,
  ⟨⟨"read_only_space", 0x075f1⟩, ⟨133, "PromiseRejectReactionJobTaskMap"⟩⟩,
  ⟨⟨"read_only_space", 0x07619⟩, ⟨134, "CallableTaskMap"⟩⟩,
  ⟨⟨"read_only_space", 0x07641⟩, ⟨135, "CallbackTaskMap"⟩⟩,
  ⟨⟨"read_only_space", 0x07669⟩, ⟨136, "PromiseResolveThenableJobTaskMap"⟩⟩,
  ⟨⟨"read_only_space", 0x07691⟩, ⟨139, "FunctionTemplateInfoMap"⟩⟩,
  ⟨⟨"read_only_space", 0x076b9⟩, ⟨140, "ObjectTemplateInfoMap"⟩⟩,
  ⟨⟨"read_only_space", 0x076e1⟩, ⟨141, "AccessCheckInfoMap"⟩⟩,
  ⟨⟨"read_only_space", 0x07709⟩, ⟨142, "AccessorPairMap"⟩⟩,
  ⟨⟨"read_only_space", 0x07731⟩, ⟨143, "AliasedArgumentsEntryMap"⟩⟩,
  ⟨⟨"read_only_space", 0x07759⟩, ⟨144, "AllocationMementoMap"⟩⟩,
  ⟨⟨"read_only_space", 0x07781⟩, ⟨147, "AsmWasmDataMap"⟩⟩,
  ⟨⟨"read_only_space", 0x077a9⟩, ⟨148, "AsyncGeneratorRequestMap"⟩⟩,
  ⟨⟨"read_only_space", 0x077d1⟩, ⟨149, "BreakPointMap"⟩⟩,
  ⟨⟨"read_only_space", 0x077f9⟩, ⟨150, "BreakPointInfoMap"⟩⟩,
  ⟨⟨"read_only_space", 0x07821⟩, ⟨151, "CachedTemplateObjectMap"⟩⟩,
  ⟨⟨"read_only_space", 0x07849⟩, ⟨152, "CallSiteInfoMap"⟩⟩,
  ⟨⟨"read_only_space", 0x07871⟩, ⟨153, "ClassPositionsMap"⟩⟩,
  ⟨⟨"read_only_space", 0x07899⟩, ⟨154, "DebugInfoMap"⟩⟩,
  ⟨⟨"read_only_space", 0x078c1⟩, ⟨156, "ErrorStackDataMap"⟩⟩,
  ⟨⟨"read_only_space", 0x078e9⟩, ⟨158, "FunctionTemplateRareDataMap"⟩⟩,
  ⟨⟨"read_only_space", 0x07911⟩, ⟨160, "InterpreterDataMap"⟩⟩,
  ⟨⟨"read_only_space", 0x07939⟩, ⟨161, "ModuleRequestMap"⟩⟩,
  ⟨⟨"read_only_space", 0x07961⟩, ⟨162, "PromiseCapabilityMap"⟩⟩,
  ⟨⟨"read_only_space", 0x07989⟩, ⟨163, "PromiseOnStackMap"⟩⟩,
  ⟨⟨"read_only_space", 0x079b1⟩, ⟨164, "PromiseReactionMap"⟩⟩,
  ⟨⟨"read_only_space", 0x079d9⟩, ⟨165, "PropertyDescriptorObjectMap"⟩⟩,
  ⟨⟨"read_only_space", 0x07a01⟩, ⟨166, "PrototypeInfoMap"⟩⟩,
  ⟨⟨"read_only_space", 0x07a29⟩, ⟨167, "RegExpBoilerplateDescriptionMap"⟩⟩,
  ⟨⟨"read_only_space", 0x07a51⟩, ⟨168, "ScriptMap"⟩⟩,
  ⟨⟨"read_only_space", 0x07a79⟩, ⟨169, "ScriptOrModuleMap"⟩⟩,
  ⟨⟨"read_only_space", 0x07aa1⟩, ⟨170, "SourceTextModuleInfoEntryMap"⟩⟩,
  ⟨⟨"read_only_space", 0x07ac9⟩, ⟨171, "StackFrameInfoMap"⟩⟩,
  ⟨⟨"read_only_space", 0x07af1⟩, ⟨172, "TemplateObjectDescriptionMap"⟩⟩,
  ⟨⟨"read_only_space", 0x07b19⟩, ⟨173, "Tuple2Map"⟩⟩,
  ⟨⟨"read_only_space", 0x07b41⟩, ⟨174, "WasmExceptionTagMap"⟩⟩,
  ⟨⟨"read_only_space", 0x07b69⟩, ⟨175, "WasmIndirectFunctionTableMap"⟩⟩,
  ⟨⟨"read_only_space", 0x07b91⟩, ⟨195, "SloppyArgumentsElementsMap"⟩⟩,
  ⟨⟨"read_only_space", 0x07bb9⟩, ⟨228, "DescriptorArrayMap"⟩⟩,
  ⟨⟨"read_only_space", 0x07be1⟩, ⟨217, "UncompiledDataWithoutPreparseDataMap"⟩⟩,
  ⟨⟨"read_only_space", 0x07c09⟩, ⟨215, "UncompiledDataWithPreparseDataMap"⟩⟩,
  ⟨⟨"read_only_space", 0x07c31⟩, ⟨218, "UncompiledDataWithoutPreparseDataWithJobMap"⟩⟩,
  ⟨⟨"read_only_space", 0x07c59⟩, ⟨216, "UncompiledDataWithPreparseDataAndJobMap"⟩⟩,
  ⟨⟨"read_only_space", 0x07c81⟩, ⟨249, "OnHeapBasicBlockProfilerDataMap"⟩⟩,
  ⟨⟨"read_only_space", 0x07ca9⟩, ⟨196, "TurbofanBitsetTypeMap"⟩⟩,
  ⟨⟨"read_only_space", 0x07cd1⟩, ⟨200, "TurbofanUnionTypeMap"⟩⟩,
  ⟨⟨"read_only_space", 0x07cf9⟩, ⟨199, "TurbofanRangeTypeMap"⟩⟩,
  ⟨⟨"read_only_space", 0x07d21⟩, ⟨197, "TurbofanHeapConstantTypeMap"⟩⟩,
  ⟨⟨"read_only_space", 0x07d49⟩, ⟨198, "TurbofanOtherNumberConstantTypeMap"⟩⟩,
  ⟨⟨"read_only_space", 0x07d71⟩, ⟨245, "InternalClassMap"⟩⟩,
  ⟨⟨"read_only_space", 0x07d99⟩, ⟨256, "SmiPairMap"⟩⟩,
  ⟨⟨"read_only_space", 0x07dc1⟩, ⟨255, "SmiBoxMap"⟩⟩,
  ⟨⟨"read_only_space", 0x07de9⟩, ⟨201, "ExportedSubClassBaseMap"⟩⟩,
  ⟨⟨"read_only_space", 0x07e11⟩, ⟨202, "ExportedSubClassMap"⟩⟩,
  ⟨⟨"read_only_space", 0x07e39⟩, ⟨226, "AbstractInternalClassSubclass1Map"⟩⟩,
  ⟨⟨"read_only_space", 0x07e61⟩, ⟨227, "AbstractInternalClassSubclass2Map"⟩⟩,
  ⟨⟨"read_only_space", 0x07e89⟩, ⟨194, "InternalClassWithSmiElementsMap"⟩⟩,
  ⟨⟨"read_only_space", 0x07eb1⟩, ⟨246, "InternalClassWithStructElementsMap"⟩⟩,
  ⟨⟨"read_only_space", 0x07ed9⟩, ⟨203, "ExportedSubClass2Map"⟩⟩,
  ⟨⟨"read_only_space", 0x07f01⟩, ⟨257, "SortStateMap"⟩⟩,
  ⟨⟨"read_only_space", 0x07f29⟩, ⟨263, "WasmStringViewIterMap"⟩⟩,
  ⟨⟨"read_only_space", 0x07f51⟩, ⟨145, "AllocationSiteWithWeakNextMap"⟩⟩,
  ⟨⟨"read_only_space", 0x07f79⟩, ⟨145, "AllocationSiteWithoutWeakNextMap"⟩⟩,
  ⟨⟨"read_only_space", 0x08045⟩, ⟨137, "LoadHandler1Map"⟩⟩,
  ⟨⟨"read_only_space", 0x0806d⟩, ⟨137, "LoadHandler2Map"⟩⟩,
  ⟨⟨"read_only_space", 0x08095⟩, ⟨137, "LoadHandler3Map"⟩⟩,
  ⟨⟨"read_only_space", 0x080bd⟩, ⟨138, "StoreHandler0Map"⟩⟩,
  ⟨⟨"read_only_space", 0x080e5⟩, ⟨138, "StoreHandler1Map"⟩⟩,
  ⟨⟨"read_only_space", 0x0810d⟩, ⟨138, "StoreHandler2Map"⟩⟩,
  ⟨⟨"read_only_space", 0x08135⟩, ⟨138, "StoreHandler3Map"⟩⟩,
  ⟨⟨"old_space", 0x043a5⟩, ⟨2116, "ExternalMap"⟩⟩,
  ⟨⟨"old_space", 0x043d5⟩, ⟨2120, "JSMessageObjectMap"⟩⟩
]

end HeapTables.Shipped
