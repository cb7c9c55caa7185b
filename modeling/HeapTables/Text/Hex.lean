/-! Lower-case hexadecimal numerals, with no leading zero or filled up with
zeros to a width. A width is a lower bound: a longer numeral is never cut.
`hexValue` reads both forms back. -/
namespace HeapTables.Text

def hex (n : Nat) : String := String.ofList (Nat.toDigits 16 n)

def hexPadded (width n : Nat) : String :=
  String.ofList ((Nat.toDigits 16 n).leftpad width '0')

def hexDigits : List Char :=
  ['0', '1', '2', '3', '4', '5', '6', '7', '8', '9', 'a', 'b', 'c', 'd', 'e', 'f']

def hexValue (digits : List Char) : Nat :=
  digits.foldl (fun n digit => 16 * n + hexDigits.idxOf digit) 0

theorem digitValue : ∀ d < 16, hexDigits.idxOf (Nat.digitChar d) = d := by decide

theorem digitMem : ∀ d < 16, Nat.digitChar d ∈ hexDigits := by decide

theorem valueToDigits (n : Nat) : hexValue (Nat.toDigits 16 n) = n := by
  induction n using Nat.strongRecOn with
  | ind n ih =>
    rw [Nat.toDigits_eq_if (by decide)]
    split
    · next small => simpa [hexValue] using digitValue n small
    · next large =>
      have rest := ih (n / 16) (by omega)
      have last := digitValue (n % 16) (by omega)
      simp only [hexValue, List.foldl_append, List.foldl_cons, List.foldl_nil] at rest ⊢
      rw [rest, last]
      omega

theorem memToDigits {n : Nat} {c : Char} (mem : c ∈ Nat.toDigits 16 n) : c ∈ hexDigits := by
  induction n using Nat.strongRecOn with
  | ind n ih =>
    rw [Nat.toDigits_eq_if (by decide)] at mem
    split at mem
    · next small => exact List.mem_singleton.mp mem ▸ digitMem n small
    · rcases List.mem_append.mp mem with rest | last
      · exact ih (n / 16) (by omega) rest
      · exact List.mem_singleton.mp last ▸ digitMem (n % 16) (by omega)

theorem valueHex (n : Nat) : hexValue (hex n).toList = n := by
  rw [hex, String.toList_ofList, valueToDigits]

theorem valuePadded (width n : Nat) : hexValue (hexPadded width n).toList = n := by
  have zero : hexDigits.idxOf '0' = 0 := by decide
  have zeros : ∀ count, (List.replicate count '0').foldl
      (fun n digit => 16 * n + hexDigits.idxOf digit) 0 = 0 := by
    intro count
    induction count with
    | zero => rfl
    | succ count ih => simpa [List.replicate_succ, zero] using ih
  have digits := valueToDigits n
  rw [hexPadded, String.toList_ofList, List.leftpad]
  simp only [hexValue, List.foldl_append, zeros] at digits ⊢
  exact digits

theorem hexInj {m n : Nat} (same : hex m = hex n) : m = n := by
  rw [← valueHex m, same, valueHex]

theorem hexPaddedInj {width m n : Nat} (same : hexPadded width m = hexPadded width n) : m = n := by
  rw [← valuePadded width m, same, valuePadded]

/- The shortest numeral of `n` that has `width` digits or more. -/
structure Padded (width n : Nat) (text : String) : Prop where
  digits : ∀ c ∈ text.toList, c ∈ hexDigits
  value : hexValue text.toList = n
  filled : width ≤ text.length
  shortest : width < text.length → text.toList.head? ≠ some '0'

theorem Padded.free {width n : Nat} {text : String} {mark : Char} (numeral : Padded width n text)
    (other : mark ∉ hexDigits) : mark ∉ text.toList :=
  fun mem => other (numeral.digits mark mem)

theorem headToDigits {n : Nat} (positive : n ≠ 0) : (Nat.toDigits 16 n).head? ≠ some '0' := by
  have zero : ∀ d < 16, Nat.digitChar d = '0' → d = 0 := by decide
  induction n using Nat.strongRecOn with
  | ind n ih =>
    rw [Nat.toDigits_eq_if (by decide)]
    split
    · next small =>
      intro same
      exact positive (zero n small (Option.some.inj same))
    · next large =>
      have first := ih (n / 16) (by omega) (by omega)
      have nonempty := List.exists_cons_of_ne_nil (Nat.toDigits_ne_nil (n := n / 16) (b := 16))
      obtain ⟨digit, rest, same⟩ := nonempty
      rw [same] at first ⊢
      exact first

theorem lengthPadded (width n : Nat) :
    (hexPadded width n).length = max width (Nat.toDigits 16 n).length := by
  rw [hexPadded, String.length_ofList, List.length_leftpad]

theorem paddedHex {width : Nat} (positive : 0 < width) (n : Nat) :
    Padded width n (hexPadded width n) where
  digits := by
    intro c mem
    rw [hexPadded, String.toList_ofList, List.leftpad] at mem
    rcases List.mem_append.mp mem with zero | digit
    · rw [(List.mem_replicate.mp zero).2]
      decide
    · exact memToDigits digit
  value := valuePadded width n
  filled := by
    rw [lengthPadded]
    exact Nat.le_max_left _ _
  shortest := by
    intro longer
    rw [lengthPadded] at longer
    have long : width < (Nat.toDigits 16 n).length := by omega
    have full : width - (Nat.toDigits 16 n).length = 0 := by omega
    have single : (Nat.toDigits 16 0).length = 1 := by simp
    rw [hexPadded, String.toList_ofList, List.leftpad, full]
    apply headToDigits
    intro zero
    rw [zero, single] at long
    omega

theorem hexPaddedOne (n : Nat) : hexPadded 1 n = hex n := by
  have digit := List.length_pos_iff.mpr (Nat.toDigits_ne_nil (n := n) (b := 16))
  have full : 1 - (Nat.toDigits 16 n).length = 0 := by omega
  rw [hexPadded, List.leftpad, full, List.replicate_zero, List.nil_append, hex]

theorem shortestHex (n : Nat) : Padded 1 n (hex n) :=
  hexPaddedOne n ▸ paddedHex Nat.one_pos n

end HeapTables.Text
