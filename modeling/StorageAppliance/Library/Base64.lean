import Mathlib.Data.List.Basic

/-!
# Base64

Encoding writes three bytes as four characters and pads the last group.
Decoding is lenient: it drops characters that are not in the alphabet, takes
padding only where a group can end, and stops at the first group that padding
completes.  `decode_encode` is the round trip, and by `decodeFrom_filter` it
goes on to hold when foreign characters, such as line ends, are put in between.
-/

namespace StorageAppliance.Library.Base64

/-- The characters by their values. -/
def alphabet : List Char :=
  "ABCDEFGHIJKLMNOPQRSTUVWXYZabcdefghijklmnopqrstuvwxyz0123456789+/".toList

/-- The character of a value. -/
def char (value : Nat) : Char :=
  alphabet.getD value '='

/-- The value of a character of the alphabet. -/
def value? (char : Char) : Option Nat :=
  alphabet.findIdx? fun other => other = char

/-! ## Encoding -/

/-- The characters of some bytes, with padding. -/
def encode : List UInt8 → List Char
  | [] => []
  | [first] =>
      [char (first.toNat / 4), char (first.toNat % 4 * 16), '=', '=']
  | [first, second] =>
      [char (first.toNat / 4),
        char (first.toNat % 4 * 16 + second.toNat / 16),
        char (second.toNat % 16 * 4), '=']
  | first :: second :: third :: rest =>
      char (first.toNat / 4) ::
        char (first.toNat % 4 * 16 + second.toNat / 16) ::
        char (second.toNat % 16 * 4 + third.toNat / 64) ::
        char (third.toNat % 64) :: encode rest

/-! ## Decoding -/

/-- Why a text is not decoded. -/
inductive DecodeError where
  | extraCharacter (characters : Nat)
  | incorrectPadding
deriving DecidableEq, Repr

/-- The place in a group, the bits left over, and what was seen of padding. -/
structure Group where
  position : Nat := 0
  left : Nat := 0
  pads : Nat := 0
  written : Nat := 0

/-- Decode from within a group. -/
def decodeFrom (group : Group) :
    List Char → Except DecodeError (List UInt8)
  | [] =>
      if group.position = 0 then
        .ok []
      else if group.position = 1 then
        .error (.extraCharacter (group.written / 3 * 4 + 1))
      else
        .error .incorrectPadding
  | next :: rest =>
      if next = '=' then
        if group.position < 2 then
          decodeFrom group rest
        else if 4 ≤ group.position + (group.pads + 1) then
          .ok []
        else
          decodeFrom { group with pads := group.pads + 1 } rest
      else
        match value? next with
        | none => decodeFrom group rest
        | some value =>
            if group.position = 0 then
              decodeFrom
                { position := 1, left := value, written := group.written }
                rest
            else if group.position = 1 then
              (decodeFrom
                { position := 2
                  left := value % 16
                  written := group.written + 1 } rest).map
                fun bytes =>
                  UInt8.ofNat (group.left * 4 + value / 16) :: bytes
            else if group.position = 2 then
              (decodeFrom
                { position := 3
                  left := value % 4
                  written := group.written + 1 } rest).map
                fun bytes =>
                  UInt8.ofNat (group.left * 16 + value / 4) :: bytes
            else
              (decodeFrom { written := group.written + 1 } rest).map
                fun bytes => UInt8.ofNat (group.left * 64 + value) :: bytes

/-- Decode a text. -/
def decode (text : List Char) : Except DecodeError (List UInt8) :=
  decodeFrom {} text

/-- A character that decoding looks at. -/
def known (next : Char) : Bool :=
  next = '=' || (value? next).isSome

/-! ## The alphabet -/

theorem value?_char {value : Nat} (small : value < 64) :
    value? (char value) = some value := by
  have all : ∀ value : Fin 64, value? (char value) = some value.val := by
    decide +kernel
  exact all ⟨value, small⟩

theorem char_ne_padding {value : Nat} (small : value < 64) :
    char value ≠ '=' := by
  have all : ∀ value : Fin 64, char value ≠ '=' := by
    decide +kernel
  exact all ⟨value, small⟩

theorem char_lt (value : Nat) : (char value).toNat < 128 := by
  have all : alphabet.all (fun next => next.toNat < 128) = true := by
    decide
  have listed : ∀ next ∈ alphabet, next.toNat < 128 :=
    fun next member => of_decide_eq_true (List.all_eq_true.mp all next member)
  rw [char, List.getD_eq_getElem?_getD]
  cases found : alphabet[value]? with
  | none => decide
  | some next => exact listed next (List.mem_of_getElem? found)

theorem known_char (value : Nat) : known (char value) = true := by
  have all : alphabet.all known = true := by
    decide
  have listed : ∀ next ∈ alphabet, known next = true :=
    List.all_eq_true.mp all
  rw [char, List.getD_eq_getElem?_getD]
  cases found : alphabet[value]? with
  | none => rfl
  | some next => exact listed next (List.mem_of_getElem? found)

/-- What holds of the alphabet and of the padding holds of encoded text. -/
theorem forall_mem_encode
    (holds : Char → Prop)
    (chars : ∀ value, holds (char value)) (padding : holds '=')
    (data : List UInt8) :
    ∀ next ∈ encode data, holds next := by
  induction data using encode.induct with
  | case1 => simp [encode]
  | case2 first => simp [encode, chars, padding]
  | case3 first second => simp [encode, chars, padding]
  | case4 first second third rest induction =>
      simp only [encode, List.forall_mem_cons, chars, true_and]
      exact induction

/-! ## Characters that are not looked at -/

/-- Foreign characters make no difference. -/
theorem decodeFrom_filter (group : Group) (text : List Char) :
    decodeFrom group (text.filter known) = decodeFrom group text := by
  induction text generalizing group with
  | nil => rfl
  | cons next rest induction =>
      by_cases looked : known next = true
      · rw [List.filter_cons_of_pos looked, decodeFrom, decodeFrom]
        simp only [induction]
      · have foreign := Bool.eq_false_iff.mpr looked
        simp only [known, Bool.or_eq_false_iff, decide_eq_false_iff_not,
          Option.isSome_eq_false_iff, Option.isNone_iff_eq_none] at foreign
        rw [List.filter_cons_of_neg looked, induction, decodeFrom,
          if_neg foreign.1, foreign.2]

/-! ## The round trip -/

section RoundTrip

variable
    {value left written : Nat}
    {rest : List Char}

/-- The characters of a group, one after the other. -/
theorem decodeFrom_first (small : value < 64) :
    decodeFrom { written := written } (char value :: rest) =
      decodeFrom { position := 1, left := value, written := written }
        rest := by
  rw [decodeFrom, if_neg (char_ne_padding small), value?_char small]
  rfl

theorem decodeFrom_second (small : value < 64) :
    decodeFrom { position := 1, left := left, written := written }
        (char value :: rest) =
      (decodeFrom
        { position := 2, left := value % 16, written := written + 1 }
        rest).map
        fun bytes => UInt8.ofNat (left * 4 + value / 16) :: bytes := by
  rw [decodeFrom, if_neg (char_ne_padding small), value?_char small]
  rfl

theorem decodeFrom_third (small : value < 64) :
    decodeFrom { position := 2, left := left, written := written }
        (char value :: rest) =
      (decodeFrom
        { position := 3, left := value % 4, written := written + 1 }
        rest).map
        fun bytes => UInt8.ofNat (left * 16 + value / 4) :: bytes := by
  rw [decodeFrom, if_neg (char_ne_padding small), value?_char small]
  rfl

theorem decodeFrom_fourth (small : value < 64) :
    decodeFrom { position := 3, left := left, written := written }
        (char value :: rest) =
      (decodeFrom { written := written + 1 } rest).map
        fun bytes => UInt8.ofNat (left * 64 + value) :: bytes := by
  rw [decodeFrom, if_neg (char_ne_padding small), value?_char small]
  rfl

/-- The bits of a byte, put together again. -/
theorem ofNat_of_eq {byte : UInt8} {number : Nat}
    (same : number = byte.toNat) : UInt8.ofNat number = byte := by
  rw [same]
  exact UInt8.ofNat_toNat

/-- What was encoded is decoded, also after other groups. -/
theorem decodeFrom_encode (data : List UInt8) (written : Nat) :
    decodeFrom { written := written } (encode data) = .ok data := by
  induction data using encode.induct generalizing written with
  | case1 => rfl
  | case2 first =>
      have bound := first.toNat_lt
      rw [encode, decodeFrom_first (by omega), decodeFrom_second (by omega)]
      have byte :
          UInt8.ofNat
              (first.toNat / 4 * 4 + first.toNat % 4 * 16 / 16) =
            first :=
        ofNat_of_eq (by omega)
      rw [byte]
      rfl
  | case3 first second =>
      have bound := first.toNat_lt
      have secondBound := second.toNat_lt
      rw [encode, decodeFrom_first (by omega),
        decodeFrom_second (by omega), decodeFrom_third (by omega)]
      have byte :
          UInt8.ofNat
              (first.toNat / 4 * 4 +
                (first.toNat % 4 * 16 + second.toNat / 16) / 16) =
            first :=
        ofNat_of_eq (by omega)
      have secondByte :
          UInt8.ofNat
              ((first.toNat % 4 * 16 + second.toNat / 16) % 16 * 16 +
                second.toNat % 16 * 4 / 4) =
            second :=
        ofNat_of_eq (by omega)
      rw [byte, secondByte]
      rfl
  | case4 first second third rest induction =>
      have bound := first.toNat_lt
      have secondBound := second.toNat_lt
      have thirdBound := third.toNat_lt
      rw [encode, decodeFrom_first (by omega),
        decodeFrom_second (by omega), decodeFrom_third (by omega),
        decodeFrom_fourth (by omega), induction]
      have byte :
          UInt8.ofNat
              (first.toNat / 4 * 4 +
                (first.toNat % 4 * 16 + second.toNat / 16) / 16) =
            first :=
        ofNat_of_eq (by omega)
      have secondByte :
          UInt8.ofNat
              ((first.toNat % 4 * 16 + second.toNat / 16) % 16 * 16 +
                (second.toNat % 16 * 4 + third.toNat / 64) / 4) =
            second :=
        ofNat_of_eq (by omega)
      have thirdByte :
          UInt8.ofNat
              ((second.toNat % 16 * 4 + third.toNat / 64) % 4 * 64 +
                third.toNat % 64) =
            third :=
        ofNat_of_eq (by omega)
      rw [byte, secondByte, thirdByte]
      rfl

end RoundTrip

/-- Decoding undoes encoding. -/
theorem decode_encode (data : List UInt8) :
    decode (encode data) = .ok data :=
  decodeFrom_encode data 0

/-- And foreign characters in between make no difference. -/
theorem decode_of_filter
    {text : List Char} {data : List UInt8}
    (same : text.filter known = encode data) :
    decode text = .ok data := by
  rw [decode, ← decodeFrom_filter, same]
  exact decode_encode data

end StorageAppliance.Library.Base64
