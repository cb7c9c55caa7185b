import HeapTables.Rows

/-! The known objects of the shipping build, in recorded order. -/
namespace HeapTables.Shipped

def knownObjects : List (Placed String) := [
  ⟨⟨"read_only_space", 0x021e1⟩, "EmptyWeakArrayList"⟩,
  ⟨⟨"read_only_space", 0x021ed⟩, "EmptyDescriptorArray"⟩,
  ⟨⟨"read_only_space", 0x02225⟩, "EmptyEnumCache"⟩,
  ⟨⟨"read_only_space", 0x02259⟩, "EmptyFixedArray"⟩,
  ⟨⟨"read_only_space", 0x02261⟩, "NullValue"⟩,
  ⟨⟨"read_only_space", 0x02369⟩, "UninitializedValue"⟩,
  ⟨⟨"read_only_space", 0x023e1⟩, "UndefinedValue"⟩,
  ⟨⟨"read_only_space", 0x02425⟩, "NanValue"⟩,
  ⟨⟨"read_only_space", 0x02459⟩, "TheHoleValue"⟩,
  ⟨⟨"read_only_space", 0x02485⟩, "HoleNanValue"⟩,
  ⟨⟨"read_only_space", 0x024b9⟩, "TrueValue"⟩,
  ⟨⟨"read_only_space", 0x024f9⟩, "FalseValue"⟩,
  ⟨⟨"read_only_space", 0x02529⟩, "empty_string"⟩,
  ⟨⟨"read_only_space", 0x02765⟩, "EmptyScopeInfo"⟩,
  ⟨⟨"read_only_space", 0x0279d⟩, "ArgumentsMarker"⟩,
  ⟨⟨"read_only_space", 0x027fd⟩, "Exception"⟩,
  ⟨⟨"read_only_space", 0x02859⟩, "TerminationException"⟩,
  ⟨⟨"read_only_space", 0x028c1⟩, "OptimizedOut"⟩,
  ⟨⟨"read_only_space", 0x02921⟩, "StaleRegister"⟩,
  ⟨⟨"read_only_space", 0x034c1⟩, "EmptyPropertyArray"⟩,
  ⟨⟨"read_only_space", 0x034c9⟩, "EmptyByteArray"⟩,
  ⟨⟨"read_only_space", 0x034d1⟩, "EmptyObjectBoilerplateDescription"⟩,
  ⟨⟨"read_only_space", 0x03505⟩, "EmptyArrayBoilerplateDescription"⟩,
  ⟨⟨"read_only_space", 0x03511⟩, "EmptyClosureFeedbackCellArray"⟩,
  ⟨⟨"read_only_space", 0x03519⟩, "EmptySlowElementDictionary"⟩,
  ⟨⟨"read_only_space", 0x0353d⟩, "EmptyOrderedHashMap"⟩,
  ⟨⟨"read_only_space", 0x03551⟩, "EmptyOrderedHashSet"⟩,
  ⟨⟨"read_only_space", 0x03565⟩, "EmptyFeedbackMetadata"⟩,
  ⟨⟨"read_only_space", 0x03571⟩, "EmptyPropertyDictionary"⟩,
  ⟨⟨"read_only_space", 0x03599⟩, "EmptyOrderedPropertyDictionary"⟩,
  ⟨⟨"read_only_space", 0x035b1⟩, "EmptySwissPropertyDictionary"⟩,
  ⟨⟨"read_only_space", 0x03605⟩, "NoOpInterceptorInfo"⟩,
  ⟨⟨"read_only_space", 0x0362d⟩, "EmptyArrayList"⟩,
  ⟨⟨"read_only_space", 0x03639⟩, "EmptyWeakFixedArray"⟩,
  ⟨⟨"read_only_space", 0x03641⟩, "InfinityValue"⟩,
  ⟨⟨"read_only_space", 0x0364d⟩, "MinusZeroValue"⟩,
  ⟨⟨"read_only_space", 0x03659⟩, "MinusInfinityValue"⟩,
  ⟨⟨"read_only_space", 0x03665⟩, "SingleCharacterStringTable"⟩,
  ⟨⟨"read_only_space", 0x04a6d⟩, "SelfReferenceMarker"⟩,
  ⟨⟨"read_only_space", 0x04aad⟩, "BasicBlockCountersMarker"⟩,
  ⟨⟨"read_only_space", 0x04af1⟩, "OffHeapTrampolineRelocationInfo"⟩,
  ⟨⟨"read_only_space", 0x04afd⟩, "GlobalThisBindingScopeInfo"⟩,
  ⟨⟨"read_only_space", 0x04b2d⟩, "EmptyFunctionScopeInfo"⟩,
  ⟨⟨"read_only_space", 0x04b51⟩, "NativeScopeInfo"⟩,
  ⟨⟨"read_only_space", 0x04b69⟩, "HashSeed"⟩,
  ⟨⟨"old_space", 0x0423d⟩, "ArgumentsIteratorAccessor"⟩,
  ⟨⟨"old_space", 0x04255⟩, "ArrayLengthAccessor"⟩,
  ⟨⟨"old_space", 0x0426d⟩, "BoundFunctionLengthAccessor"⟩,
  ⟨⟨"old_space", 0x04285⟩, "BoundFunctionNameAccessor"⟩,
  ⟨⟨"old_space", 0x0429d⟩, "ErrorStackAccessor"⟩,
  ⟨⟨"old_space", 0x042b5⟩, "FunctionArgumentsAccessor"⟩,
  ⟨⟨"old_space", 0x042cd⟩, "FunctionCallerAccessor"⟩,
  ⟨⟨"old_space", 0x042e5⟩, "FunctionNameAccessor"⟩,
  ⟨⟨"old_space", 0x042fd⟩, "FunctionLengthAccessor"⟩,
  ⟨⟨"old_space", 0x04315⟩, "FunctionPrototypeAccessor"⟩,
  ⟨⟨"old_space", 0x0432d⟩, "SharedArrayLengthAccessor"⟩,
  ⟨⟨"old_space", 0x04345⟩, "StringLengthAccessor"⟩,
  ⟨⟨"old_space", 0x0435d⟩, "ValueUnavailableAccessor"⟩,
  ⟨⟨"old_space", 0x04375⟩, "WrappedFunctionLengthAccessor"⟩,
  ⟨⟨"old_space", 0x0438d⟩, "WrappedFunctionNameAccessor"⟩,
  ⟨⟨"old_space", 0x043a5⟩, "ExternalMap"⟩,
  ⟨⟨"old_space", 0x043cd⟩, "InvalidPrototypeValidityCell"⟩,
  ⟨⟨"old_space", 0x043d5⟩, "JSMessageObjectMap"⟩,
  ⟨⟨"old_space", 0x043fd⟩, "EmptyScript"⟩,
  ⟨⟨"old_space", 0x04441⟩, "ManyClosuresCell"⟩,
  ⟨⟨"old_space", 0x0444d⟩, "ArrayConstructorProtector"⟩,
  ⟨⟨"old_space", 0x04461⟩, "NoElementsProtector"⟩,
  ⟨⟨"old_space", 0x04475⟩, "MegaDOMProtector"⟩,
  ⟨⟨"old_space", 0x04489⟩, "IsConcatSpreadableProtector"⟩,
  ⟨⟨"old_space", 0x0449d⟩, "ArraySpeciesProtector"⟩,
  ⟨⟨"old_space", 0x044b1⟩, "TypedArraySpeciesProtector"⟩,
  ⟨⟨"old_space", 0x044c5⟩, "PromiseSpeciesProtector"⟩,
  ⟨⟨"old_space", 0x044d9⟩, "RegExpSpeciesProtector"⟩,
  ⟨⟨"old_space", 0x044ed⟩, "StringLengthProtector"⟩,
  ⟨⟨"old_space", 0x04501⟩, "ArrayIteratorProtector"⟩,
  ⟨⟨"old_space", 0x04515⟩, "ArrayBufferDetachingProtector"⟩,
  ⟨⟨"old_space", 0x04529⟩, "PromiseHookProtector"⟩,
  ⟨⟨"old_space", 0x0453d⟩, "PromiseResolveProtector"⟩,
  ⟨⟨"old_space", 0x04551⟩, "MapIteratorProtector"⟩,
  ⟨⟨"old_space", 0x04565⟩, "PromiseThenProtector"⟩,
  ⟨⟨"old_space", 0x04579⟩, "SetIteratorProtector"⟩,
  ⟨⟨"old_space", 0x0458d⟩, "StringIteratorProtector"⟩,
  ⟨⟨"old_space", 0x045a1⟩, "StringSplitCache"⟩,
  ⟨⟨"old_space", 0x049a9⟩, "RegExpMultipleCache"⟩,
  ⟨⟨"old_space", 0x04db1⟩, "BuiltinsConstantsTable"⟩,
  ⟨⟨"old_space", 0x0520d⟩, "AsyncFunctionAwaitRejectSharedFun"⟩,
  ⟨⟨"old_space", 0x05231⟩, "AsyncFunctionAwaitResolveSharedFun"⟩,
  ⟨⟨"old_space", 0x05255⟩, "AsyncGeneratorAwaitRejectSharedFun"⟩,
  ⟨⟨"old_space", 0x05279⟩, "AsyncGeneratorAwaitResolveSharedFun"⟩,
  ⟨⟨"old_space", 0x0529d⟩, "AsyncGeneratorYieldWithAwaitResolveSharedFun"⟩,
  ⟨⟨"old_space", 0x052c1⟩, "AsyncGeneratorReturnResolveSharedFun"⟩,
  ⟨⟨"old_space", 0x052e5⟩, "AsyncGeneratorReturnClosedRejectSharedFun"⟩,
  ⟨⟨"old_space", 0x05309⟩, "AsyncGeneratorReturnClosedResolveSharedFun"⟩,
  ⟨⟨"old_space", 0x0532d⟩, "AsyncIteratorValueUnwrapSharedFun"⟩,
  ⟨⟨"old_space", 0x05351⟩, "PromiseAllResolveElementSharedFun"⟩,
  ⟨⟨"old_space", 0x05375⟩, "PromiseAllSettledResolveElementSharedFun"⟩,
  ⟨⟨"old_space", 0x05399⟩, "PromiseAllSettledRejectElementSharedFun"⟩,
  ⟨⟨"old_space", 0x053bd⟩, "PromiseAnyRejectElementSharedFun"⟩,
  ⟨⟨"old_space", 0x053e1⟩, "PromiseCapabilityDefaultRejectSharedFun"⟩,
  ⟨⟨"old_space", 0x05405⟩, "PromiseCapabilityDefaultResolveSharedFun"⟩,
  ⟨⟨"old_space", 0x05429⟩, "PromiseCatchFinallySharedFun"⟩,
  ⟨⟨"old_space", 0x0544d⟩, "PromiseGetCapabilitiesExecutorSharedFun"⟩,
  ⟨⟨"old_space", 0x05471⟩, "PromiseThenFinallySharedFun"⟩,
  ⟨⟨"old_space", 0x05495⟩, "PromiseThrowerFinallySharedFun"⟩,
  ⟨⟨"old_space", 0x054b9⟩, "PromiseValueThunkFinallySharedFun"⟩,
  ⟨⟨"old_space", 0x054dd⟩, "ProxyRevokeSharedFun"⟩,
  ⟨⟨"old_space", 0x05501⟩, "ShadowRealmImportValueFulfilledSFI"⟩,
  ⟨⟨"old_space", 0x05525⟩, "SourceTextModuleExecuteAsyncModuleFulfilledSFI"⟩,
  ⟨⟨"old_space", 0x05549⟩, "SourceTextModuleExecuteAsyncModuleRejectedSFI"⟩
]

end HeapTables.Shipped
