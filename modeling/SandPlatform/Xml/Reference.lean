import Mathlib.Data.Nat.Digits.Defs
import SandPlatform.Xml.Reading

/-!
# Character references

`GetCharacterRef` reads the digits of a reference backwards, from the semicolon to the
marker in front of them, and stores the UTF-8 of their number.  The weight of a digit
is kept in 32 bits, which does not matter to numbers of 32 bits.
-/

namespace SandPlatform.Xml

open SandPlatform.Foundation

/-! ## UTF-8 -/

/-- `BYTE_MASK`. -/
def byteMask : BitVec 64 := 0xBF

/-- `BYTE_MARK`. -/
def byteMark : BitVec 64 := 0x80

/-- `FIRST_BYTE_MARK`, by the number of bytes. -/
def firstByteMark : Nat → BitVec 64
  | 2 => 0xC0
  | 3 => 0xE0
  | 4 => 0xF0
  | 5 => 0xF8
  | 6 => 0xFC
  | _ => 0x00

/-- How many bytes `ConvertUTF32ToUTF8` writes. -/
def utf8Length (input : BitVec 64) : Nat :=
  if input < 0x80 then 1
  else if input < 0x800 then 2
  else if input < 0x10000 then 3
  else if input < 0x200000 then 4
  else 0

/-- The cases that fall through store the bytes from the last one to the first. -/
def utf8Cases (length : Nat) : Nat → BitVec 64 → Text → Text
  | 0, _, output => output
  | 1, input, output => (input ||| firstByteMark length).setWidth 8 :: output
  | case + 2, input, output =>
      utf8Cases length (case + 1) (input >>> 6)
        (((input ||| byteMark) &&& byteMask).setWidth 8 :: output)

/-- `ConvertUTF32ToUTF8`, with what it writes from the last byte to the first. -/
def convertUTF32ToUTF8 (input : BitVec 64) : Text :=
  utf8Cases (utf8Length input) (utf8Length input) input []

/-! ## References -/

/-- The value of a hexadecimal digit, as `GetCharacterRef` finds it. -/
def hexadecimalDigit (q : Byte) : Option Nat :=
  if byte '0' ≤ q ∧ q ≤ byte '9' then
    some (q - byte '0').toNat
  else if byte 'a' ≤ q ∧ q ≤ byte 'f' then
    some ((q - byte 'a').toNat + 10)
  else if byte 'A' ≤ q ∧ q ≤ byte 'F' then
    some ((q - byte 'A').toNat + 10)
  else
    none

/-- The value of a decimal digit, as `GetCharacterRef` finds it. -/
def decimalDigit (q : Byte) : Option Nat :=
  if byte '0' ≤ q ∧ q ≤ byte '9' then
    some (q - byte '0').toNat
  else
    none

/-- The loop that goes back to the marker, over the text in front of `q`, nearest byte
first.  The marker itself is behind that text. -/
def accumulate (base : BitVec 32) (digit : Byte → Option Nat) (marker : Byte) :
    Text → BitVec 32 → BitVec 64 → Option (BitVec 64)
  | [], _, ucs => some ucs
  | q :: before, mult, ucs =>
      if q = marker then
        some ucs
      else
        match digit q with
        | none => none
        | some value =>
            accumulate base digit marker before (mult * base)
              (ucs + (mult * .ofNat 32 value).setWidth 64)

/-- The part of `GetCharacterRef` behind the marker.  `none` is the null pointer. -/
def numericRef (base : BitVec 32) (digit : Byte → Option Nat) (marker : Byte) (p : Text) :
    Option (Text × Text) :=
  match cutAt [byte ';'] p with
  | none => none
  | some (digits, behind) =>
      (accumulate base digit marker digits.reverse 1 0).map fun ucs =>
        (convertUTF32ToUTF8 ucs, behind)

/-- The bytes that are stored, and the pointer that is returned. -/
def getCharacterRef (p : Text) : Option (Text × Text) :=
  match p with
  | _ :: hash :: first :: rest =>
      if hash = byte '#' then
        if first = byte 'x' then
          numericRef 16 hexadecimalDigit (byte 'x') rest
        else
          numericRef 10 decimalDigit (byte '#') (first :: rest)
      else
        some ([], hash :: first :: rest)
  | _ => some ([], p.drop 1)

theorem getCharacterRef_hash (q first : Byte) (rest : Text) :
    getCharacterRef (q :: byte '#' :: first :: rest) =
      if first = byte 'x' then numericRef 16 hexadecimalDigit (byte 'x') rest
      else numericRef 10 decimalDigit (byte '#') (first :: rest) :=
  rfl

/-! ## The UTF-8 of a character -/

theorem setWidth_trailing (n : Nat) :
    (((BitVec.ofNat 64 n ||| byteMark) &&& byteMask).setWidth 8 : Byte) =
      .ofNat 8 (n % 64 + 128) := by
  have low : ∀ b : Byte, (b ||| 0x80) &&& 0xBF = .ofNat 8 (b.toNat % 64 + 128) := by decide
  have shape : (((BitVec.ofNat 64 n ||| byteMark) &&& byteMask).setWidth 8 : Byte) =
      (BitVec.ofNat 8 n ||| 0x80) &&& 0xBF := by
    rw [BitVec.setWidth_and, BitVec.setWidth_or, BitVec.setWidth_ofNat_of_le (by decide)]
    rfl
  rw [shape, low, BitVec.toNat_ofNat, Nat.mod_mod_of_dvd _ (by decide)]

theorem setWidth_first {n : Nat} (mark : BitVec 64) (bits : Nat) (small : n < 2 ^ bits)
    (disjoint : ∀ b : Byte, b.toNat < 2 ^ bits →
      b ||| mark.setWidth 8 = .ofNat 8 (b.toNat % 2 ^ bits + mark.toNat))
    (fits : bits ≤ 8) :
    ((BitVec.ofNat 64 n ||| mark).setWidth 8 : Byte) = .ofNat 8 (n % 2 ^ bits + mark.toNat) := by
  have below : n < 2 ^ 8 := Nat.lt_of_lt_of_le small (Nat.pow_le_pow_right (by decide) fits)
  have value : (BitVec.ofNat 8 n).toNat = n := Nat.mod_eq_of_lt below
  rw [BitVec.setWidth_or, BitVec.setWidth_ofNat_of_le (by decide), disjoint _ (by rwa [value]),
    value]

theorem shiftRight_ofNat {n : Nat} (small : n < 2 ^ 64) (count : Nat) :
    BitVec.ofNat 64 n >>> count = .ofNat 64 (n / 2 ^ count) := by
  apply BitVec.eq_of_toNat_eq
  rw [BitVec.toNat_ushiftRight, BitVec.toNat_ofNat, BitVec.toNat_ofNat,
    Nat.mod_eq_of_lt small, Nat.shiftRight_eq_div_pow,
    Nat.mod_eq_of_lt (Nat.lt_of_le_of_lt (Nat.div_le_self _ _) small)]

theorem utf8Length_ofNat {n : Nat} (small : n < 2 ^ 64) :
    utf8Length (.ofNat 64 n) =
      if n < 0x80 then 1 else if n < 0x800 then 2 else if n < 0x10000 then 3
      else if n < 0x200000 then 4 else 0 := by
  have value : (BitVec.ofNat 64 n).toNat = n := Nat.mod_eq_of_lt small
  simp only [utf8Length, BitVec.lt_def, value]
  rfl

/-- The number of a character is stored as the UTF-8 of the character. -/
theorem convertUTF32ToUTF8_char (c : Char) :
    convertUTF32ToUTF8 (.ofNat 64 c.toNat) = (String.utf8EncodeChar c).map UInt8.toBitVec := by
  have small : c.toNat < 0x110000 := by
    rcases c.valid with below | above
    · exact Nat.lt_trans below (by decide)
    · exact above.2
  have wide : c.toNat < 2 ^ 64 := by omega
  have shift (count : Nat) : c.toNat / 2 ^ count < 2 ^ 64 :=
    Nat.lt_of_le_of_lt (Nat.div_le_self _ _) wide
  have value : c.val.toNat = c.toNat := rfl
  have byteOf (n : Nat) : (UInt8.ofNat n).toBitVec = .ofNat 8 n := rfl
  rw [convertUTF32ToUTF8, utf8Length_ofNat wide, String.utf8EncodeChar, value]
  by_cases one : c.toNat < 0x80
  · rw [if_pos one, if_pos (Nat.le_of_lt_succ one)]
    have first := setWidth_first 0 7 one (by decide) (by decide)
    rw [Nat.mod_eq_of_lt (show c.toNat < 2 ^ 7 from one)] at first
    simp only [utf8Cases, firstByteMark, List.map_cons, List.map_nil, byteOf, first]
    rfl
  · rw [if_neg one, if_neg (show ¬ c.toNat ≤ 0x7F by omega)]
    by_cases two : c.toNat < 0x800
    · rw [if_pos two, if_pos (Nat.le_of_lt_succ two)]
      have lead : c.toNat / 2 ^ 6 < 2 ^ 5 := by omega
      have first := setWidth_first 0xC0 5 lead (by decide) (by decide)
      simp only [utf8Cases, firstByteMark, List.map_cons, List.map_nil, byteOf,
        shiftRight_ofNat wide, setWidth_trailing, first]
      rfl
    · rw [if_neg two, if_neg (show ¬ c.toNat ≤ 0x7FF by omega)]
      by_cases three : c.toNat < 0x10000
      · rw [if_pos three, if_pos (Nat.le_of_lt_succ three)]
        have lead : c.toNat / 2 ^ 6 / 2 ^ 6 < 2 ^ 4 := by omega
        have first := setWidth_first 0xE0 4 lead (by decide) (by decide)
        simp only [utf8Cases, firstByteMark, List.map_cons, List.map_nil, byteOf,
          shiftRight_ofNat wide, shiftRight_ofNat (shift 6), setWidth_trailing, first]
        simp only [Nat.div_div_eq_div_mul]
        rfl
      · rw [if_neg three, if_pos (show c.toNat < 0x200000 by omega),
          if_neg (show ¬ c.toNat ≤ 0xFFFF by omega)]
        have lead : c.toNat / 2 ^ 6 / 2 ^ 6 / 2 ^ 6 < 2 ^ 3 := by omega
        have first := setWidth_first 0xF0 3 lead (by decide) (by decide)
        have shifted : c.toNat / 2 ^ 6 / 2 ^ 6 < 2 ^ 64 := by omega
        simp only [utf8Cases, firstByteMark, List.map_cons, List.map_nil, byteOf,
          shiftRight_ofNat wide, shiftRight_ofNat (shift 6), shiftRight_ofNat shifted,
          setWidth_trailing, first]
        simp only [Nat.div_div_eq_div_mul]
        rfl

/-! ## The number of a reference -/

/-- Digits that stand for a number, in either case and with any number of zeros in front
of them. -/
def Denotes (base : Nat) (digit : Byte → Option Nat) (digits : Text) (n : Nat) : Prop :=
  ∃ values, List.Forall₂ (fun q value => digit q = some value) digits.reverse values ∧
    Nat.ofDigits base values = n

theorem isSome_of_digits {digit : Byte → Option Nat} {digits : Text} {values : List Nat}
    (each : List.Forall₂ (fun q value => digit q = some value) digits values) :
    ∀ q ∈ digits, (digit q).isSome := by
  induction each with
  | nil => simp
  | cons here _ ih =>
      rw [List.forall_mem_cons]
      exact ⟨by rw [here]; rfl, ih⟩

theorem accumulate_of_digits {base : Nat} {digit : Byte → Option Nat} {marker : Byte}
    (noDigit : digit marker = none) {digits : Text} {values : List Nat}
    (each : List.Forall₂ (fun q value => digit q = some value) digits values)
    (weight : Nat) (ucs : BitVec 64)
    (small : weight * Nat.ofDigits base values < 2 ^ 32) :
    accumulate (.ofNat 32 base) digit marker digits (.ofNat 32 weight) ucs =
      some (ucs + .ofNat 64 (weight * Nat.ofDigits base values)) := by
  induction each generalizing weight ucs with
  | nil => simp [accumulate]
  | @cons q value digits values here each ih =>
      have notMarker : q ≠ marker := by
        rintro rfl
        rw [noDigit] at here
        cases here
      have split : weight * Nat.ofDigits base (value :: values) =
          weight * value + weight * base * Nat.ofDigits base values := by
        rw [Nat.ofDigits_cons, Nat.mul_add, Nat.mul_assoc]
      rw [split] at small
      have product : ((BitVec.ofNat 32 weight * BitVec.ofNat 32 value).setWidth 64) =
          BitVec.ofNat 64 (weight * value) := by
        apply BitVec.eq_of_toNat_eq
        rw [← BitVec.ofNat_mul, BitVec.toNat_setWidth, BitVec.toNat_ofNat, BitVec.toNat_ofNat,
          Nat.mod_eq_of_lt (show weight * value < 2 ^ 32 by omega)]
      rw [accumulate, if_neg notMarker, here]
      simp only
      rw [← BitVec.ofNat_mul, product, ih (weight * base) _ (by omega), split,
        BitVec.ofNat_add, BitVec.add_assoc]

theorem numericRef_of_denotes {base n : Nat} {digit : Byte → Option Nat} {marker : Byte}
    (noDigit : digit marker = none) (noDigit' : digit (byte ';') = none)
    {digits : Text} (denotes : Denotes base digit digits n) (small : n < 2 ^ 32)
    (behind : Text) :
    numericRef (.ofNat 32 base) digit marker (digits ++ byte ';' :: behind) =
      some (convertUTF32ToUTF8 (.ofNat 64 n), behind) := by
  rcases denotes with ⟨values, each, rfl⟩
  have clean : ¬ [byte ';'] <:+: digits := by
    rw [List.singleton_infix_iff]
    intro member
    have isDigit := isSome_of_digits each _ (List.mem_reverse.mpr member)
    simp [noDigit'] at isDigit
  have cut : cutAt [byte ';'] (digits ++ byte ';' :: behind) = some (digits, behind) := by
    have found := cutAt_append (endsFresh_singleton (byte ';')) clean behind
    rwa [List.append_assoc] at found
  have sum := accumulate_of_digits noDigit each 1 0 (by rwa [Nat.one_mul])
  rw [numericRef, cut]
  simp only
  rw [show (1 : BitVec 32) = .ofNat 32 1 from rfl, sum, Nat.one_mul]
  simp

/-- A reference in decimal or hexadecimal digits. -/
inductive RefersTo : Text → Nat → Prop
  | decimal {digits : Text} {n : Nat} (denotes : Denotes 10 decimalDigit digits n) :
      RefersTo (bytes ['&', '#'] ++ digits) n
  | hexadecimal {digits : Text} {n : Nat} (denotes : Denotes 16 hexadecimalDigit digits n) :
      RefersTo (bytes ['&', '#', 'x'] ++ digits) n

theorem getCharacterRef_of_refersTo {ref : Text} {n : Nat} (refers : RefersTo ref n)
    (small : n < 2 ^ 32) (behind : Text) :
    getCharacterRef (ref ++ byte ';' :: behind) =
      some (convertUTF32ToUTF8 (.ofNat 64 n), behind) := by
  cases refers with
  | @decimal digits n denotes =>
      have noMarker : decimalDigit (byte '#') = none := by decide
      have read := numericRef_of_denotes noMarker (by decide) denotes small behind
      rcases denotes with ⟨values, each, _⟩
      cases digits with
      | nil => exact read
      | cons first digits =>
          have notX : first ≠ byte 'x' := by
            rintro rfl
            have isDigit := isSome_of_digits each _ (List.mem_reverse.mpr List.mem_cons_self)
            revert isDigit
            decide
          exact (getCharacterRef_hash _ first _).trans ((if_neg notX).trans read)
  | hexadecimal denotes =>
      exact numericRef_of_denotes (by decide) (by decide) denotes small behind

/-- Every way to refer to a character by its number is read as the UTF-8 of the
character, whatever follows. -/
theorem getCharacterRef_char {ref : Text} (c : Char) (refers : RefersTo ref c.toNat)
    (behind : Text) :
    getCharacterRef (ref ++ byte ';' :: behind) =
      some ((String.utf8EncodeChar c).map UInt8.toBitVec, behind) := by
  have small : c.toNat < 2 ^ 32 := c.val.toNat_lt
  rw [getCharacterRef_of_refersTo refers small, convertUTF32ToUTF8_char]

/-- The reference `&#x4E2d;`. -/
theorem getCharacterRef_char_hexadecimal :
    getCharacterRef (bytes ['&', '#', 'x', '4', 'E', '2', 'd', ';', '<']) =
      some ([0xE4, 0xB8, 0xAD], bytes ['<']) := by
  have denotes : Denotes 16 hexadecimalDigit (bytes ['4', 'E', '2', 'd']) 0x4E2D := by
    refine ⟨[13, 2, 14, 4], ?_, by decide⟩
    refine .cons (by decide) (.cons (by decide) (.cons (by decide) (.cons (by decide) .nil)))
  exact getCharacterRef_char (Char.ofNat 0x4E2D) (.hexadecimal denotes) (bytes ['<'])

/-! ## The room for the bytes -/

theorem length_utf8Cases (length case : Nat) (input : BitVec 64) (output : Text) :
    (utf8Cases length case input output).length = case + output.length := by
  induction case generalizing input output with
  | zero => rw [utf8Cases, Nat.zero_add]
  | succ case ih =>
      cases case with
      | zero => rw [utf8Cases, List.length_cons, Nat.zero_add, Nat.add_comm]
      | succ case =>
          rw [utf8Cases, ih, List.length_cons]
          omega

theorem length_convertUTF32ToUTF8 (input : BitVec 64) :
    (convertUTF32ToUTF8 input).length = utf8Length input := by
  rw [convertUTF32ToUTF8, length_utf8Cases]
  rfl

theorem utf8Length_le (input : BitVec 64) : utf8Length input ≤ 4 := by
  unfold utf8Length
  split_ifs <;> decide

/-- Every digit makes room for one more byte than the number may need. -/
theorem length_of_numericRef {base : BitVec 32} {digit : Byte → Option Nat} {marker : Byte}
    {p value behind : Text} (read : numericRef base digit marker p = some (value, behind)) :
    ∃ taken, p = taken ++ behind ∧ value.length ≤ taken.length + 2 := by
  rw [numericRef] at read
  cases cut : cutAt [byte ';'] p with
  | none => simp [cut] at read
  | some parts =>
      rcases parts with ⟨digits, rest⟩
      simp only [cut] at read
      rcases Option.map_eq_some_iff.mp read with ⟨ucs, sum, same⟩
      cases same
      refine ⟨digits ++ [byte ';'], append_of_cutAt cut, ?_⟩
      rw [length_convertUTF32ToUTF8, List.length_append, List.length_singleton]
      cases digits with
      | nil =>
          cases sum
          decide
      | cons first digits =>
          have most := utf8Length_le ucs
          rw [List.length_cons]
          omega

/-- The pointer goes forward, at least by as many bytes as are stored. -/
theorem length_of_getCharacterRef {first : Byte} {rest value behind : Text}
    (read : getCharacterRef (first :: rest) = some (value, behind)) :
    ∃ taken, rest = taken ++ behind ∧ value.length ≤ taken.length + 1 := by
  match rest, read with
  | [], read =>
      cases read
      exact ⟨[], rfl, Nat.zero_le _⟩
  | [hash], read =>
      cases read
      exact ⟨[], rfl, Nat.zero_le _⟩
  | hash :: second :: rest, read =>
      rw [getCharacterRef] at read
      split_ifs at read with isHash isX
      · rcases length_of_numericRef read with ⟨taken, rfl, room⟩
        refine ⟨hash :: second :: taken, rfl, ?_⟩
        simp only [List.length_cons]
        omega
      · rcases length_of_numericRef read with ⟨taken, same, room⟩
        refine ⟨hash :: taken, by rw [same]; rfl, ?_⟩
        rw [List.length_cons]
        omega
      · cases read
        exact ⟨[], rfl, Nat.zero_le _⟩

end SandPlatform.Xml
