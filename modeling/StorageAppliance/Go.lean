import Mathlib.Algebra.Group.Int.Defs
import Mathlib.Algebra.Group.Nat.Defs
import Mathlib.Data.Int.Init
import Mathlib.Data.List.Basic

/-!
# What the Go services take from their language

Byte slices are lists of bytes.  An `int64` is an integer, and `int64` wraps the
result of an operation that can overflow.  A function that can return an error
or panic returns an `Except` over `Fault`, together with the objects it leaves
behind where it changes any.

A reader is the bytes it still supplies and the error it ends with.
-/

namespace StorageAppliance.Go

/-- A byte slice. -/
abbrev Bytes :=
  List UInt8

/-- The errors that the modelled code tells apart, and all others. -/
inductive GoError where
  | eof
  | unexpectedEOF
  | message (text : String)
deriving DecidableEq, Repr

/-- The text of an error. -/
def GoError.text : GoError → String
  | .eof => "EOF"
  | .unexpectedEOF => "unexpected EOF"
  | .message text => text

/-- How a call fails to return a result. -/
inductive Fault where
  | error (error : GoError)
  | panic (message : String)
deriving DecidableEq, Repr

/-- `fmt.Errorf` of a finished text. -/
def errorf (text : String) : Fault :=
  .error (.message text)

/-- The value of an `int64` operation. -/
def int64 (value : ℤ) : ℤ :=
  value.bmod (2 ^ 64)

/-- The largest slice that `make` can allocate, in bytes. -/
def maxAlloc : ℤ :=
  2 ^ 48

/-- The length of a slice that is made, unless `make` panics. -/
def makeSliceOf (elementSize : Nat) (length : ℤ) : Except Fault Nat :=
  if 0 ≤ length ∧ length * elementSize ≤ maxAlloc then
    .ok length.toNat
  else
    .error (.panic "makeslice: len out of range")

/-- `make([]byte, length)`. -/
def makeSlice (length : ℤ) : Except Fault Nat :=
  makeSliceOf 1 length

/-- The bytes of a string. -/
def stringBytes (text : String) : Bytes :=
  text.toUTF8.data.toList

/-- `copy(target, source)`, for the content of the target. -/
def copy (target source : Bytes) : Bytes :=
  source.take target.length ++ target.drop source.length

/-- A zeroed slice. -/
def zeros (length : Nat) : Bytes :=
  List.replicate length 0

/-- `data[first:last]`, which panics outside of the data. -/
def slice (data : Bytes) (first last : ℤ) : Except Fault Bytes :=
  if 0 ≤ first ∧ first ≤ last ∧ last ≤ data.length then
    .ok ((data.take last.toNat).drop first.toNat)
  else
    .error (.panic "slice bounds out of range")

/-- The verb `%d`. -/
def decimal (number : ℤ) : String :=
  toString number

/-! ## Hashing -/

/-- The 64-bit FNV-1a hash. -/
def fnv64a (data : Bytes) : Nat :=
  data.foldl
    (fun hash byte => ((hash ^^^ byte.toNat) * 1099511628211) % 2 ^ 64)
    14695981039346656037

example : fnv64a (stringBytes "hello") = 11831194018420276491 := by
  decide +kernel

/-! ## Encoding -/

/-- A lower case hexadecimal digit. -/
def hexDigit (value : Nat) : Char :=
  if value < 10 then Char.ofNat (48 + value) else Char.ofNat (87 + value)

/-- `hex.EncodeToString`. -/
def hexEncode (data : Bytes) : String :=
  String.ofList
    (data.flatMap fun byte =>
      [hexDigit (byte.toNat / 16), hexDigit (byte.toNat % 16)])

example : hexEncode [0, 175] = "00af" := by
  decide +kernel

/-! ## Reading -/

/-- The bytes that a reader supplies, and the error that follows them. -/
structure Reader where
  bytes : Bytes
  failure : GoError := .eof
deriving DecidableEq

/-- `io.ReadFull` into a buffer of a given length. -/
def Reader.readFull (self : Reader) (length : Nat) :
    Bytes × Option GoError × Reader :=
  if length ≤ self.bytes.length then
    (self.bytes.take length, none,
      { self with bytes := self.bytes.drop length })
  else if self.bytes = [] then
    ([], some self.failure, self)
  else if self.failure = .eof then
    (self.bytes, some .unexpectedEOF, { self with bytes := [] })
  else
    (self.bytes, some self.failure, { self with bytes := [] })

/-- `io.ReadFull` into a buffer that is made for it. -/
def Reader.readData (self : Reader) (size : ℤ) : Except Fault Bytes :=
  match makeSlice size with
  | .error fault => .error fault
  | .ok length =>
      match self.readFull length with
      | (data, none, _) => .ok data
      | (_, some error, _) => .error (.error error)

/-! ## Results -/

section Results

variable
    {Failure Result Mapped : Type}

/-- A result that a check lets pass. -/
theorem ok_of_guard
    {check : Prop} [Decidable check] {failure : Failure}
    {rest : Except Failure Result} {result : Result}
    (returned : (if check then .error failure else rest) = .ok result) :
    ¬ check ∧ rest = .ok result := by
  split at returned
  · cases returned
  · rename_i passed
    exact ⟨passed, returned⟩

/-- A mapped result comes from a result. -/
theorem ok_of_map_eq_ok
    {returned : Except Failure Result} {map : Result → Mapped}
    {mapped : Mapped} (same : returned.map map = .ok mapped) :
    ∃ result, returned = .ok result ∧ map result = mapped := by
  cases returned with
  | error failure => cases same
  | ok result =>
      cases same
      exact ⟨result, rfl, rfl⟩

end Results

/-! ## Lemmas -/

section Lemmas

variable
    {value length : ℤ}
    {count : Nat}

theorem int64_of_range
    (lower : -2 ^ 63 ≤ value) (upper : value < 2 ^ 63) :
    int64 value = value := by
  apply Int.bmod_eq_of_le
  · omega
  · omega

/-- A sum that is too large wraps to a negative number. -/
theorem int64_of_large
    (lower : 2 ^ 63 ≤ value) (upper : value < 2 ^ 64) :
    int64 value = -(2 ^ 64 - value) := by
  have shifted : int64 value = int64 (value - 2 ^ 64) := by
    rw [int64, int64]
    exact (Int.sub_bmod_right value (2 ^ 64)).symm
  rw [shifted, int64_of_range (by omega) (by omega)]
  omega

/-- A slice is made if its elements fit into the memory. -/
theorem makeSliceOf_ok_iff {elementSize : Nat} :
    makeSliceOf elementSize length = .ok count ↔
      length = count ∧ length * elementSize ≤ maxAlloc := by
  rw [makeSliceOf]
  split
  · rename_i range
    rw [Except.ok.injEq]
    constructor
    · intro same
      exact ⟨by omega, range.2⟩
    · rintro ⟨same, _⟩
      omega
  · rename_i range
    simp only [reduceCtorEq, false_iff]
    rintro ⟨same, bounded⟩
    exact range ⟨by omega, bounded⟩

/-- A slice that is not made is a panic. -/
theorem makeSliceOf_error
    {elementSize : Nat} {fault : Fault}
    (failed : makeSliceOf elementSize length = .error fault) :
    fault = .panic "makeslice: len out of range" := by
  rw [makeSliceOf] at failed
  split at failed
  · cases failed
  · cases failed
    rfl

theorem makeSlice_eq (length : ℤ) :
    makeSlice length =
      if 0 ≤ length ∧ length ≤ maxAlloc then
        .ok length.toNat
      else
        .error (.panic "makeslice: len out of range") := by
  rw [makeSlice, makeSliceOf, Int.natCast_one, Int.mul_one]

theorem makeSlice_ok_iff :
    makeSlice length = .ok count ↔
      length = count ∧ length ≤ maxAlloc := by
  rw [makeSlice, makeSliceOf_ok_iff, Int.natCast_one, Int.mul_one]

theorem Reader.readFull_ok
    {reader rest : Reader} {data : Bytes}
    (read : reader.readFull count = (data, none, rest)) :
    data.length = count := by
  rw [Reader.readFull] at read
  split at read
  · rename_i enough
    cases read
    exact List.length_take_of_le enough
  · split at read
    · cases read
    · split at read
      · cases read
      · cases read

/-- Data that is read has the size of the buffer made for it. -/
theorem Reader.readData_ok
    {reader : Reader} {size : ℤ} {data : Bytes}
    (read : reader.readData size = .ok data) :
    makeSlice size = .ok data.length := by
  rw [Reader.readData] at read
  cases made : makeSlice size with
  | error fault =>
      rw [made] at read
      cases read
  | ok length =>
      simp only [made] at read
      split at read
      · rename_i data' rest full
        cases read
        rw [Reader.readFull_ok full]
      · cases read

/-- Copying over a slice of the same length replaces it. -/
theorem copy_of_length
    {target source : Bytes} (same : source.length = target.length) :
    copy target source = source := by
  rw [copy, List.take_of_length_le (Nat.le_of_eq same),
    List.drop_of_length_le (Nat.le_of_eq same.symm), List.append_nil]

end Lemmas

/-! ## Hexadecimal texts -/

theorem hexDigit_inj
    {left right : Nat} (leftFits : left < 16) (rightFits : right < 16)
    (same : hexDigit left = hexDigit right) : left = right := by
  have decided :
      ∀ left : Fin 16, ∀ right : Fin 16,
        hexDigit left = hexDigit right → left = right := by
    decide +kernel
  exact
    congrArg Fin.val (decided ⟨left, leftFits⟩ ⟨right, rightFits⟩ same)

/-- The bytes can be read from their hexadecimal text. -/
theorem hexEncode_injective : Function.Injective hexEncode := by
  intro left right same
  have texts := String.ofList_injective same
  clear same
  induction left generalizing right with
  | nil =>
      cases right with
      | nil => rfl
      | cons byte rest => cases texts
  | cons byte rest induction =>
      cases right with
      | nil => cases texts
      | cons other others =>
          simp only [List.flatMap_cons, List.cons_append, List.nil_append,
            List.cons.injEq] at texts
          rcases texts with ⟨high, low, tail⟩
          have bound := byte.toNat_lt
          have otherBound := other.toNat_lt
          have sameHigh := hexDigit_inj (by omega) (by omega) high
          have sameLow := hexDigit_inj (by omega) (by omega) low
          have sameByte : byte = other := by
            apply UInt8.toNat_inj.mp
            omega
          rw [sameByte, induction tail]
/-! ## Decimals -/

theorem toList_decimal_natCast (number : Nat) :
    (decimal number).toList = Nat.toDigits 10 number := by
  change number.repr.toList = _
  exact Nat.toList_repr

theorem toList_decimal_negSucc (number : Nat) :
    (decimal (Int.negSucc number)).toList =
      '-' :: Nat.toDigits 10 (number + 1) := by
  change ("-" ++ (number + 1).repr).toList = _
  rw [String.toList_append, Nat.toList_repr]
  rfl

/-- Texts that start differently are different. -/
theorem append_ne_of_head
    {first second : String} (rest : String)
    (different : first.toList.head? ≠ second.toList.head?)
    (nonempty : first.toList ≠ []) : first ++ rest ≠ second := by
  intro same
  apply different
  rw [← same, String.toList_append]
  cases list : first.toList with
  | nil => exact absurd list nonempty
  | cons head tail => rfl

theorem decimal_ne_empty (number : ℤ) : decimal number ≠ "" := by
  intro empty
  have list := congrArg String.toList empty
  cases number with
  | ofNat number =>
      rw [Int.ofNat_eq_natCast, toList_decimal_natCast] at list
      exact Nat.toDigits_ne_nil list
  | negSucc number =>
      rw [toList_decimal_negSucc] at list
      cases list

theorem toDigits_injective : Function.Injective (Nat.toDigits 10) := by
  intro left right same
  rw [← Nat.ofDigitChars_ten_toDigits (n := left), same,
    Nat.ofDigitChars_ten_toDigits]

/-- Decimals are made of digits and a sign. -/
theorem mem_decimal {char : Char} {number : ℤ}
    (member : char ∈ (decimal number).toList) :
    char.isDigit ∨ char = '-' := by
  cases number with
  | ofNat number =>
      rw [Int.ofNat_eq_natCast, toList_decimal_natCast] at member
      exact Or.inl
        (Nat.isDigit_of_mem_toDigits (by decide) (by decide) member)
  | negSucc number =>
      rw [toList_decimal_negSucc] at member
      rcases List.mem_cons.mp member with dash | digit
      · exact Or.inr dash
      · exact Or.inl
          (Nat.isDigit_of_mem_toDigits (by decide) (by decide) digit)

theorem decimal_injective : Function.Injective decimal := by
  intro left right same
  have lists := congrArg String.toList same
  have signed :
      ∀ first second : Nat,
        Nat.toDigits 10 first ≠ '-' :: Nat.toDigits 10 second := by
    intro first second equal
    have member : '-' ∈ Nat.toDigits 10 first := by
      rw [equal]
      simp
    have digit :=
      Nat.isDigit_of_mem_toDigits (by decide) (by decide) member
    exact absurd digit (by decide)
  cases left with
  | ofNat left =>
      cases right with
      | ofNat right =>
          simp only [Int.ofNat_eq_natCast, toList_decimal_natCast] at lists
          rw [toDigits_injective lists]
      | negSucc right =>
          simp only [Int.ofNat_eq_natCast, toList_decimal_natCast,
            toList_decimal_negSucc] at lists
          exact absurd lists (signed _ _)
  | negSucc left =>
      cases right with
      | ofNat right =>
          simp only [Int.ofNat_eq_natCast, toList_decimal_natCast,
            toList_decimal_negSucc] at lists
          exact absurd lists.symm (signed _ _)
      | negSucc right =>
          simp only [toList_decimal_negSucc, List.cons.injEq,
            true_and] at lists
          have equal := toDigits_injective lists
          rw [Nat.succ.inj equal]

end StorageAppliance.Go
