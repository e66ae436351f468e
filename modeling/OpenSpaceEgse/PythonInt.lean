import OpenSpaceEgse.Python
import Mathlib.Data.List.TakeWhile

/-!
# Numbers in text fields

`int(text, 0)`: the number that a text denotes as a Python literal, with its base from
the prefix, single underscores between digits, no leading zeros, and white space and a
sign around.  Digits of any script count, as in Python 3.11.  Its error shows the text as
`repr` writes it.

Decimal digits are converted in either direction only up to a limit, so that a number
that `int` accepts, with a prefix, may be too long for `str`.
-/

namespace OpenSpaceEgse

/-- The zeros of the runs of ten decimal digits in Unicode. -/
def decimalZeros : List ℕ :=
  [0x30, 0x660, 0x6F0, 0x7C0, 0x966, 0x9E6, 0xA66, 0xAE6, 0xB66, 0xBE6, 0xC66, 0xCE6, 0xD66,
    0xDE6, 0xE50, 0xED0, 0xF20, 0x1040, 0x1090, 0x17E0, 0x1810, 0x1946, 0x19D0, 0x1A80, 0x1A90,
    0x1B50, 0x1BB0, 0x1C40, 0x1C50, 0xA620, 0xA8D0, 0xA900, 0xA9D0, 0xA9F0, 0xAA50, 0xABF0,
    0xFF10, 0x104A0, 0x10D30, 0x11066, 0x110F0, 0x11136, 0x111D0, 0x112F0, 0x11450, 0x114D0,
    0x11650, 0x116C0, 0x11730, 0x118E0, 0x11950, 0x11C50, 0x11D50, 0x11DA0, 0x16A60, 0x16AC0,
    0x16B50, 0x1D7CE, 0x1D7D8, 0x1D7E2, 0x1D7EC, 0x1D7F6, 0x1E140, 0x1E2F0, 0x1E950, 0x1FBF0]

/-- `c.isspace()`. -/
def isSpace (c : Char) : Bool :=
  let n := c.toNat
  (0x09 ≤ n && n ≤ 0x0D) || (0x1C ≤ n && n ≤ 0x20) || (0x2000 ≤ n && n ≤ 0x200A) ||
    [0x85, 0xA0, 0x1680, 0x2028, 0x2029, 0x202F, 0x205F, 0x3000].contains n

/-- `text.strip()`. -/
def strip (text : String) : String :=
  String.ofList ((text.toList.dropWhile isSpace).reverse.dropWhile isSpace).reverse

/-- White space and decimal digits beyond ASCII, turned into those of ASCII.  The text ends
at the first character that has no counterpart, with a question mark in its place. -/
def foldToAscii : List Char → List Char
  | [] => []
  | c :: text =>
      if c.toNat < 127 then c :: foldToAscii text
      else if isSpace c then ' ' :: foldToAscii text
      else match decimalZeros.find? fun start => start ≤ c.toNat ∧ c.toNat < start + 10 with
        | some start => Char.ofNat (0x30 + (c.toNat - start)) :: foldToAscii text
        | none => ['?']

/-- What `int` reads of a text.  A text that is already ASCII stays as it is. -/
def transformToAscii (text : List Char) : List Char :=
  if text.all (·.toNat < 128) then text else foldToAscii text

/-- The white space that `int` skips. -/
def intSpace (c : Char) : Bool := c.toNat = 0x20 || (0x09 ≤ c.toNat && c.toNat ≤ 0x0D)

/-- The value of a digit, beyond every base if it is none. -/
def digitValue (c : Char) : ℕ :=
  if '0' ≤ c ∧ c ≤ '9' then c.toNat - 48
  else if 'a' ≤ c ∧ c ≤ 'z' then c.toNat - 87
  else if 'A' ≤ c ∧ c ≤ 'Z' then c.toNat - 55
  else 37

/-- The sign in front of a number, as a factor, and what follows it. -/
def readSign : List Char → ℤ × List Char
  | '+' :: text => (1, text)
  | '-' :: text => (-1, text)
  | text => (1, text)

/-- The underscore that may follow a prefix. -/
def skipUnderscore : List Char → List Char
  | '_' :: text => text
  | text => text

/-- The base of a number, whether it must be zero (it starts with a zero and has no
prefix), and its digits. -/
def readBase : List Char → ℕ × Bool × List Char
  | '0' :: 'x' :: text | '0' :: 'X' :: text => (16, false, skipUnderscore text)
  | '0' :: 'o' :: text | '0' :: 'O' :: text => (8, false, skipUnderscore text)
  | '0' :: 'b' :: text | '0' :: 'B' :: text => (2, false, skipUnderscore text)
  | '0' :: text => (10, true, '0' :: text)
  | text => (10, false, text)

/-- The greatest number of decimal digits that are converted. -/
def intMaxStrDigits : ℕ := 4300

/-! ## The representation of a text -/

/-- The lengths of the runs of characters that are not printable and of those that are, in
turns from the first code point on. -/
def printableRuns : List ℕ :=
  [32, 95, 34, 12, 1, 714, 2, 6, 4, 7, 1, 1, 1, 20, 1, 397, 1, 38, 2, 50, 2, 3, 1, 55, 8, 27, 4,
    6, 17, 22, 1, 192, 1, 48, 2, 59, 2, 101, 14, 59, 2, 49, 2, 15, 1, 28, 2, 1, 1, 11, 5, 31, 9,
    74, 1, 161, 1, 8, 2, 2, 2, 22, 1, 7, 1, 1, 3, 4, 2, 9, 2, 2, 2, 4, 8, 1, 4, 2, 1, 5, 2, 25, 2,
    3, 1, 6, 4, 2, 2, 22, 1, 7, 1, 2, 1, 2, 1, 2, 2, 1, 1, 5, 4, 2, 2, 3, 3, 1, 7, 4, 1, 1, 7, 17,
    10, 3, 1, 9, 1, 3, 1, 22, 1, 7, 1, 2, 1, 5, 2, 10, 1, 3, 1, 3, 2, 1, 15, 4, 2, 12, 7, 7, 1, 3,
    1, 8, 2, 2, 2, 22, 1, 7, 1, 2, 1, 5, 2, 9, 2, 2, 2, 3, 7, 3, 4, 2, 1, 5, 2, 18, 10, 2, 1, 6, 3,
    3, 1, 4, 3, 2, 1, 1, 1, 2, 3, 2, 3, 3, 3, 12, 4, 5, 3, 3, 1, 4, 2, 1, 6, 1, 14, 21, 5, 13, 1,
    3, 1, 23, 1, 16, 2, 9, 1, 3, 1, 4, 7, 2, 1, 3, 2, 1, 2, 4, 2, 10, 7, 22, 1, 3, 1, 23, 1, 10, 1,
    5, 2, 9, 1, 3, 1, 4, 7, 2, 6, 2, 1, 4, 2, 10, 1, 2, 13, 13, 1, 3, 1, 51, 1, 3, 1, 6, 4, 16, 2,
    26, 1, 3, 1, 18, 3, 24, 1, 9, 1, 1, 2, 7, 3, 1, 4, 6, 1, 1, 1, 8, 6, 10, 2, 3, 12, 58, 4, 29,
    37, 2, 1, 1, 1, 5, 1, 24, 1, 1, 1, 23, 2, 5, 1, 1, 1, 6, 2, 10, 2, 4, 32, 72, 1, 36, 4, 39, 1,
    36, 1, 15, 1, 13, 37, 198, 1, 1, 5, 1, 2, 377, 1, 4, 2, 7, 1, 1, 1, 4, 2, 41, 1, 4, 2, 33, 1,
    4, 2, 7, 1, 1, 1, 4, 2, 15, 1, 57, 1, 4, 2, 67, 2, 32, 3, 26, 6, 86, 2, 6, 2, 640, 1, 28, 3,
    89, 7, 22, 9, 24, 9, 20, 12, 13, 1, 3, 1, 2, 12, 94, 2, 10, 6, 10, 6, 14, 1, 11, 6, 89, 7, 43,
    5, 70, 10, 31, 1, 12, 4, 12, 4, 1, 3, 42, 2, 5, 11, 44, 4, 26, 6, 11, 3, 62, 2, 65, 1, 29, 2,
    11, 6, 10, 6, 14, 2, 31, 49, 77, 3, 47, 1, 116, 8, 60, 3, 15, 3, 60, 7, 43, 2, 11, 8, 43, 5,
    534, 2, 6, 2, 38, 2, 6, 2, 8, 1, 1, 1, 1, 1, 1, 1, 31, 2, 53, 1, 15, 1, 14, 2, 6, 1, 19, 2, 3,
    1, 9, 17, 24, 8, 47, 17, 2, 2, 27, 1, 13, 3, 33, 15, 33, 15, 140, 4, 663, 25, 11, 21, 1812, 2,
    32, 1, 349, 5, 45, 1, 1, 5, 1, 2, 56, 7, 2, 14, 24, 9, 7, 1, 7, 1, 7, 1, 7, 1, 7, 1, 7, 1, 7,
    1, 7, 1, 126, 34, 26, 1, 89, 12, 214, 26, 12, 5, 63, 1, 86, 2, 103, 5, 43, 1, 94, 1, 84, 12,
    47, 1, 29293, 3, 55, 9, 348, 20, 184, 8, 203, 5, 2, 1, 1, 1, 5, 24, 59, 3, 10, 6, 56, 8, 70, 8,
    12, 6, 116, 11, 30, 3, 78, 1, 11, 4, 33, 1, 55, 9, 14, 2, 10, 2, 103, 24, 28, 10, 6, 2, 6, 2,
    6, 9, 7, 1, 7, 1, 60, 4, 126, 2, 10, 6, 11172, 12, 23, 4, 49, 8452, 366, 2, 106, 38, 7, 12, 5,
    5, 26, 1, 5, 1, 1, 1, 2, 1, 2, 1, 125, 16, 445, 2, 54, 7, 1, 32, 42, 6, 51, 1, 19, 1, 4, 4, 5,
    1, 135, 4, 190, 3, 6, 2, 6, 2, 6, 2, 3, 3, 7, 1, 7, 13, 2, 2, 12, 1, 26, 1, 19, 1, 2, 1, 15, 2,
    14, 34, 123, 5, 3, 4, 45, 3, 88, 1, 13, 3, 1, 47, 46, 130, 29, 3, 49, 15, 28, 4, 36, 9, 30, 5,
    43, 5, 30, 1, 37, 4, 14, 42, 158, 2, 10, 6, 36, 4, 36, 4, 40, 8, 52, 11, 12, 1, 15, 1, 7, 1, 2,
    1, 11, 1, 15, 1, 7, 1, 2, 67, 311, 9, 22, 10, 8, 24, 6, 1, 42, 1, 9, 69, 6, 2, 1, 1, 44, 1, 2,
    3, 1, 2, 23, 1, 72, 8, 9, 48, 19, 1, 2, 5, 33, 3, 27, 5, 1, 64, 56, 4, 20, 2, 50, 1, 2, 5, 8,
    1, 3, 1, 29, 2, 3, 4, 10, 7, 9, 7, 64, 32, 39, 4, 12, 9, 54, 3, 29, 2, 27, 5, 26, 7, 4, 12, 7,
    80, 73, 55, 51, 13, 51, 7, 46, 8, 10, 294, 31, 1, 42, 1, 3, 2, 2, 78, 40, 8, 42, 22, 26, 38,
    28, 20, 23, 9, 78, 4, 36, 9, 62, 1, 5, 13, 25, 7, 10, 6, 53, 1, 18, 8, 39, 9, 96, 1, 20, 11,
    18, 1, 44, 65, 7, 1, 1, 1, 4, 1, 15, 1, 11, 6, 59, 5, 10, 6, 4, 1, 8, 2, 2, 2, 22, 1, 7, 1, 2,
    1, 5, 1, 10, 2, 2, 2, 3, 2, 1, 6, 1, 5, 7, 2, 7, 3, 5, 139, 92, 1, 5, 30, 72, 8, 10, 166, 54,
    2, 38, 34, 69, 11, 10, 6, 13, 19, 58, 6, 10, 54, 27, 2, 15, 4, 23, 185, 60, 100, 83, 12, 8, 2,
    1, 2, 8, 1, 2, 1, 30, 1, 2, 2, 12, 9, 10, 70, 8, 2, 46, 2, 11, 27, 72, 8, 83, 13, 73, 263, 9,
    1, 45, 1, 14, 10, 29, 3, 32, 2, 22, 1, 14, 73, 7, 1, 2, 1, 44, 3, 1, 1, 2, 1, 9, 8, 10, 6, 6,
    1, 2, 1, 37, 1, 2, 1, 6, 7, 10, 310, 25, 183, 1, 15, 50, 13, 923, 102, 111, 1, 5, 11, 196,
    2636, 99, 13, 1071, 4049, 583, 8633, 569, 7, 31, 1, 10, 4, 81, 1, 10, 6, 30, 2, 6, 10, 70, 10,
    10, 1, 7, 1, 21, 5, 19, 688, 91, 101, 75, 4, 57, 7, 17, 64, 5, 11, 2, 14, 6136, 8, 1238, 42, 9,
    8935, 4, 1, 7, 1, 2, 1, 291, 45, 3, 17, 4, 8, 396, 2308, 107, 5, 13, 3, 9, 7, 10, 2, 4, 4704,
    46, 2, 23, 9, 116, 60, 246, 10, 39, 2, 74, 8, 112, 21, 70, 154, 20, 12, 87, 9, 25, 135, 85, 1,
    71, 1, 2, 2, 1, 2, 2, 2, 4, 1, 12, 1, 1, 1, 7, 1, 65, 1, 4, 2, 8, 1, 7, 1, 28, 1, 4, 1, 5, 1,
    1, 3, 7, 1, 340, 2, 292, 2, 702, 15, 5, 1, 15, 1104, 31, 225, 7, 1, 17, 2, 7, 1, 2, 1, 5, 213,
    45, 3, 14, 2, 10, 4, 2, 320, 31, 17, 58, 5, 1, 1248, 7, 1, 4, 1, 2, 1, 15, 1, 197, 2, 16, 41,
    76, 4, 10, 4, 2, 785, 68, 76, 61, 194, 4, 1, 27, 1, 2, 1, 1, 2, 1, 1, 10, 1, 4, 1, 1, 1, 1, 6,
    1, 4, 1, 1, 1, 1, 1, 1, 3, 1, 2, 1, 1, 2, 1, 1, 1, 1, 1, 1, 1, 1, 1, 1, 2, 1, 1, 2, 4, 1, 7, 1,
    4, 1, 4, 1, 1, 1, 10, 1, 17, 5, 3, 1, 5, 1, 17, 52, 2, 270, 44, 4, 100, 12, 15, 2, 15, 1, 15,
    1, 37, 10, 174, 56, 29, 13, 44, 4, 9, 7, 2, 14, 6, 154, 984, 5, 16, 3, 13, 3, 116, 12, 89, 7,
    12, 4, 1, 15, 12, 4, 56, 8, 10, 6, 40, 8, 30, 2, 2, 78, 340, 12, 14, 2, 5, 3, 5, 3, 7, 9, 29,
    3, 11, 5, 6, 10, 10, 6, 8, 8, 7, 9, 147, 1, 55, 37, 10, 1030, 42720, 32, 4153, 7, 222, 2, 5762,
    14, 7473, 3103, 542, 1506, 4939, 716213, 240, 196112]

/-- Whether the run that holds a code point is printable, if the first run is as given. -/
def inPrintableRun (printable : Bool) : List ℕ → ℕ → Bool
  | [], _ => printable
  | run :: runs, n => if n < run then printable else inPrintableRun (!printable) runs (n - run)

/-- `c.isprintable()`. -/
def isPrintable (c : Char) : Bool := inPrintableRun false printableRuns c.toNat

/-- A number with the given count of hexadecimal digits. -/
def hexDigits (width n : ℕ) : List Char :=
  let digits := Nat.toDigits 16 n
  List.replicate (width - digits.length) '0' ++ digits

/-- A character of a text, as it stands between the given quotes. -/
def reprChar (quote c : Char) : List Char :=
  if c = quote ∨ c.toNat = 0x5C then [Char.ofNat 0x5C, c]
  else if c = '\t' then "\\t".toList
  else if c = '\n' then "\\n".toList
  else if c = '\r' then "\\r".toList
  else if isPrintable c then [c]
  else if c.toNat < 0x100 then "\\x".toList ++ hexDigits 2 c.toNat
  else if c.toNat < 0x10000 then "\\u".toList ++ hexDigits 4 c.toNat
  else "\\U".toList ++ hexDigits 8 c.toNat

/-- `repr(text)`: in double quotes if there are single ones in the text, and no double ones. -/
def reprOfText (text : String) : String :=
  let single := Char.ofNat 0x27
  let double := Char.ofNat 0x22
  let quote := if single ∈ text.toList ∧ double ∉ text.toList then double else single
  String.ofList (quote :: text.toList.flatMap (reprChar quote) ++ [quote])

/-! ## Conversions -/

/-- `int(text, 0)`. -/
def intOfText (text : String) : Except PyError ℤ :=
  let invalid : PyError := .valueError
    ("invalid literal for int() with base 0: " ++ String.ofList ((reprOfText text).toList.take 200))
  let (sign, unsigned) := readSign ((transformToAscii text.toList).dropWhile intSpace)
  let (base, zeroOnly, digits) := readBase unsigned
  let isDigit := fun c => digitValue c < base || c = '_'
  -- an empty group is a missing digit, or an underscore that stands between no two digits
  let groups := (digits.takeWhile isDigit).splitOn '_'
  let number := groups.flatten
  if groups.any List.isEmpty then .error invalid
  else if base = 10 ∧ number.length > intMaxStrDigits then
    .error (.valueError ("Exceeds the limit (" ++ toString intMaxStrDigits ++
      " digits) for integer string conversion: value has " ++ toString number.length ++
      " digits; use sys.set_int_max_str_digits() to increase the limit"))
  else
    let value := number.foldl (fun value c => value * base + digitValue c) 0
    if zeroOnly ∧ value ≠ 0 then .error invalid
    else if !(digits.dropWhile isDigit).all intSpace then .error invalid
    else .ok (sign * value)

lemma intOfText_raises (text : String) : OnlyValueErrors (intOfText text) := by
  simp only [intOfText]
  exact .ite (.valueError _) (.ite (.valueError _) (.ite (.valueError _) (.ite (.valueError _)
    (.ok _))))

example : intOfText " -0x_1f\n" = .ok (-31) := by decide

example : intOfText "7\x1c" =
    .error (.valueError "invalid literal for int() with base 0: '7\\x1c'") := by decide

/-- `str(n)`, also in an f-string. -/
def strOfInt (n : ℤ) : Except PyError String :=
  if (Nat.toDigits 10 n.natAbs).length > intMaxStrDigits then
    .error (.valueError ("Exceeds the limit (" ++ toString intMaxStrDigits ++
      " digits) for integer string conversion; use sys.set_int_max_str_digits() to increase" ++
      " the limit"))
  else .ok (toString n)

lemma strOfInt_raises (n : ℤ) : OnlyValueErrors (strOfInt n) := .ite (.valueError _) (.ok _)

/-- The number has no more decimal digits than are converted. -/
def Writable (n : ℤ) : Prop := (Nat.toDigits 10 n.natAbs).length ≤ intMaxStrDigits

instance (n : ℤ) : Decidable (Writable n) := inferInstanceAs (Decidable (_ ≤ _))

lemma strOfInt_of_writable {n : ℤ} (h : Writable n) : strOfInt n = .ok (toString n) :=
  if_neg (Nat.not_lt.mpr h)

lemma strOfInt_of_not_writable {n : ℤ} (h : ¬ Writable n) :
    ∃ msg, strOfInt n = .error (.valueError msg) :=
  ⟨_, if_pos (Nat.not_le.mp h)⟩

/-- A number of at most four digits can be written. -/
lemma writable_of_lt {n : ℤ} (h : n.natAbs < 10000) : Writable n := by
  have hdigits : (Nat.toDigits 10 n.natAbs).length ≤ 4 :=
    (Nat.length_toDigits_le_iff (by decide) (by decide)).mpr h
  exact hdigits.trans (by decide)

/-! ### Numbers too long for `str` -/

/-- The digits of a power of sixteen. -/
def powerDigits (n : ℕ) : List Char := '1' :: List.replicate n '0'

/-- A power of sixteen as a literal. -/
def hexPower (n : ℕ) : String := String.ofList ('0' :: 'x' :: powerDigits n)

lemma toList_hexPower (n : ℕ) : (hexPower n).toList = '0' :: 'x' :: powerDigits n :=
  String.toList_ofList

lemma forall_mem_powerDigits {p : Char → Prop} (n : ℕ) (hzero : p '0') (hone : p '1') :
    ∀ c ∈ powerDigits n, p c := by
  intro c hc
  rcases List.mem_cons.mp hc with rfl | hc
  · exact hone
  · rw [List.eq_of_mem_replicate hc]
    exact hzero

lemma forall_mem_hexPower {p : Char → Prop} (n : ℕ) (hzero : p '0') (hone : p '1') (hx : p 'x') :
    ∀ c ∈ (hexPower n).toList, p c := by
  rw [toList_hexPower, List.forall_mem_cons, List.forall_mem_cons]
  exact ⟨hzero, hx, forall_mem_powerDigits n hzero hone⟩

lemma foldl_powerDigits (n : ℕ) :
    (powerDigits n).foldl (fun value c => value * 16 + digitValue c) 0 = 16 ^ n := by
  have hzeros : ∀ value : ℕ, (List.replicate n '0').foldl
      (fun value c => value * 16 + digitValue c) value = value * 16 ^ n := by
    induction n with
    | zero => exact fun value => (Nat.mul_one value).symm
    | succ n ih =>
        intro value
        have hzero : digitValue '0' = 0 := by decide
        rw [List.replicate_succ, List.foldl_cons, hzero, ih, Nat.add_zero, Nat.pow_succ',
          Nat.mul_assoc]
  exact (hzeros 1).trans (Nat.one_mul _)

lemma strip_hexPower (n : ℕ) : strip (hexPower n) = hexPower n := by
  have hspace : ∀ c ∈ (hexPower n).toList, isSpace c = false := forall_mem_hexPower n rfl rfl rfl
  have hfront : (hexPower n).toList.dropWhile isSpace = (hexPower n).toList := by
    rw [toList_hexPower]
    rfl
  have hback : (hexPower n).toList.reverse.dropWhile isSpace = (hexPower n).toList.reverse := by
    refine List.dropWhile_eq_self_iff.mpr ?_
    intro hlength
    rw [hspace _ (List.mem_reverse.mp (List.getElem_mem hlength))]
    exact Bool.false_ne_true
  rw [strip, hfront, hback, List.reverse_reverse, String.ofList_toList]

/-- With a prefix, `int` accepts any number of digits. -/
lemma intOfText_hexPower (n : ℕ) : intOfText (hexPower n) = .ok (16 ^ n) := by
  have hascii : transformToAscii (hexPower n).toList = (hexPower n).toList :=
    if_pos (List.all_eq_true.mpr (forall_mem_hexPower n rfl rfl rfl))
  have hsign : readSign ((transformToAscii (hexPower n).toList).dropWhile intSpace) =
      (1, '0' :: 'x' :: powerDigits n) := by
    rw [hascii, toList_hexPower]
    rfl
  have hbase : readBase ('0' :: 'x' :: powerDigits n) = (16, false, powerDigits n) := rfl
  -- what follows the prefix are digits to the end
  have hdigit : ∀ c ∈ powerDigits n, (decide (digitValue c < 16) || decide (c = '_')) = true :=
    forall_mem_powerDigits n (by decide) (by decide)
  have hgroups : (powerDigits n).splitOn '_' = [powerDigits n] := by
    refine List.splitOn_eq_singleton ?_
    intro hmem
    exact forall_mem_powerDigits n (p := (· ≠ '_')) (by decide) (by decide) _ hmem rfl
  simp only [intOfText, hsign, hbase, List.takeWhile_eq_self_iff.mpr hdigit,
    List.dropWhile_eq_nil_iff.mpr hdigit, hgroups, List.flatten_singleton, foldl_powerDigits]
  simp [powerDigits]

lemma not_writable_pow {n : ℕ} (h : 100 ≤ n) : ¬ Writable (16 ^ (40 * n)) := by
  have hdigits : intMaxStrDigits ≤ 43 * n := Nat.mul_le_mul_left 43 h
  have hpower : (10 : ℕ) ^ 43 ≤ 16 ^ 40 := by decide
  have hle : 10 ^ intMaxStrDigits ≤ 16 ^ (40 * n) := by
    refine (Nat.pow_le_pow_right (by decide) hdigits).trans ?_
    rw [pow_mul, pow_mul]
    exact Nat.pow_le_pow_left hpower n
  rw [Writable, Int.natAbs_pow, Nat.length_toDigits_le_iff (by decide) (by decide), Nat.not_lt]
  exact hle

/-- There are numbers that can be typed and not written. -/
lemma exists_not_writable : ∃ text n, strip text = text ∧ intOfText text = .ok n ∧ ¬ Writable n :=
  ⟨_, _, strip_hexPower (40 * 100), intOfText_hexPower (40 * 100), not_writable_pow (Nat.le_refl _)⟩

end OpenSpaceEgse
