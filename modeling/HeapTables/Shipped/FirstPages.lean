import HeapTables.Rows

/-! The lower 32 address bits of the first page of each heap space. -/
namespace HeapTables.Shipped

def firstPages : List (Named UInt32) := [
  ⟨0x000c0000, "old_space"⟩,
  ⟨0x00000000, "read_only_space"⟩
]

end HeapTables.Shipped
