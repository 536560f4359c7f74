/-
This file models the parts of Rust's and Python's text the crate relies on:
`str::trim` with the Unicode `White_Space` set, `to_ascii_uppercase`,
`strip_prefix`, the `{:?}` rendering of a string, hexadecimal rendering, and a
Python `str`, which unlike a Rust one may hold lone surrogates and then has no
UTF-8 form. A Python exception is its class with its message.
-/

import Mathlib.Data.List.Basic

namespace SiphonSmpp

/-! ### Rust strings -/

/-- `char::is_whitespace`: the Unicode property `White_Space`. -/
def isWhitespace (character : Char) : Bool :=
  let code := character.toNat
  (9 ≤ code && code ≤ 13) || code == 0x20 || code == 0x85 || code == 0xA0 || code == 0x1680 ||
    (0x2000 ≤ code && code ≤ 0x200A) || code == 0x2028 || code == 0x2029 || code == 0x202F ||
    code == 0x205F || code == 0x3000

/-- `str::trim`, on the characters of a string. -/
def trim (text : List Char) : List Char :=
  ((text.dropWhile isWhitespace).reverse.dropWhile isWhitespace).reverse

/-- `str::strip_prefix`, falling back to the whole string. -/
def stripPrefixOrSelf (start text : List Char) : List Char :=
  if start.isPrefixOf text then text.drop start.length else text

/-- The characters beyond printable ASCII that `char::escape_debug` escapes: controls, formats,
separators, private use, noncharacters, variation selectors and combining marks for any script. It
also escapes the marks of single scripts and what is not assigned, by tables that change with the
compiler; those are left as they are here. -/
def escapedRanges : List (Nat × Nat) :=
  [(0x00, 0x1F), (0x7F, 0xA0), (0xAD, 0xAD), (0x0300, 0x036F), (0x0483, 0x0489), (0x0600, 0x0605),
   (0x061C, 0x061C), (0x06DD, 0x06DD), (0x070F, 0x070F), (0x0890, 0x0891), (0x08E2, 0x08E2),
   (0x1680, 0x1680), (0x180B, 0x180F), (0x1AB0, 0x1ACE), (0x1DC0, 0x1DFF), (0x2000, 0x200F),
   (0x2028, 0x202F), (0x205F, 0x206F), (0x20D0, 0x20F0), (0x3000, 0x3000), (0xE000, 0xF8FF),
   (0xFDD0, 0xFDEF), (0xFE00, 0xFE0F), (0xFE20, 0xFE2F), (0xFEFF, 0xFEFF), (0xFFF0, 0xFFFB),
   (0xFFFE, 0xFFFF), (0x110BD, 0x110BD), (0x110CD, 0x110CD), (0x13430, 0x13440),
   (0x1BCA0, 0x1BCA3), (0x1D173, 0x1D17A), (0xE0000, 0xE01EF), (0xF0000, 0x10FFFF)]

/-- One character of the `{:?}` rendering of a string. -/
def debugChar (character : Char) : String :=
  let code := character.toNat
  if character = '"' then "\\\""
  else if character = '\\' then "\\\\"
  else if character = '\n' then "\\n"
  else if character = '\r' then "\\r"
  else if character = '\t' then "\\t"
  else if character = '\x00' then "\\0"
  else if 0x20 ≤ code ∧ code < 0x7F then character.toString
  else if escapedRanges.any fun range => range.1 ≤ code && code ≤ range.2 then
    "\\u\x7b" ++ String.ofList (Nat.toDigits 16 code) ++ "\x7d"
  else character.toString

/-- The `{:?}` rendering of a string. -/
def debugText (text : String) : String :=
  "\"" ++ String.join (text.toList.map debugChar) ++ "\""

/-- The upper-case hexadecimal rendering of a number, padded with zeros to a width. -/
def hexText (width value : Nat) : String :=
  String.ofList ((Nat.toDigits 16 value).map Char.toUpper |>.leftpad width '0')

/-! ### Python text and exceptions -/

/-- A code point of a Python `str`: a Unicode scalar value or a lone surrogate. -/
inductive PyChar where
  | scalar (character : Char)
  | surrogate (offset : Fin 2048)
  deriving DecidableEq, Repr

abbrev PyStr := List PyChar

/-- The exception classes the crate raises or passes on. -/
inductive PyErrKind where
  | valueError
  | typeError
  | keyError
  | runtimeError
  | overflowError
  | unicodeEncodeError
  | exception (name : String)
  deriving DecidableEq, Repr

structure PyErr where
  kind : PyErrKind
  message : String
  deriving DecidableEq, Repr

def PyChar.toScalar? : PyChar → Option Char
  | .scalar character => some character
  | .surrogate _ => none

def PyChar.isSurrogate : PyChar → Bool
  | .scalar _ => false
  | .surrogate _ => true

/-- The text of the `UnicodeEncodeError` of a `str`, which is about its first run of
surrogates. -/
def PyStr.encodeError (text : PyStr) : String :=
  let start := (text.takeWhile fun character => !character.isSurrogate).length
  match (text.drop start).takeWhile PyChar.isSurrogate with
  | [.surrogate offset] =>
    "'utf-8' codec can't encode character '\\u" ++
      String.ofList (Nat.toDigits 16 (0xD800 + offset.val)) ++ "' in position " ++ toString start ++
      ": surrogates not allowed"
  | run =>
    "'utf-8' codec can't encode characters in position " ++ toString start ++ "-" ++
      toString (start + run.length - 1) ++ ": surrogates not allowed"

/-- `PyString::to_cow`: the UTF-8 form of a Python `str`, which a lone surrogate does not
have. -/
def PyStr.toCow (text : PyStr) : Except PyErr String :=
  match text.mapM PyChar.toScalar? with
  | some characters => .ok (String.ofList characters)
  | none => .error ⟨.unicodeEncodeError, text.encodeError⟩

/-- A sequence of two fallible steps succeeds when the first does and then the second. -/
theorem bind_eq_ok_iff {Error First Second : Type} (first : Except Error First)
    (second : First → Except Error Second) (result : Second) :
    first >>= second = .ok result ↔ ∃ value, first = .ok value ∧ second value = .ok result := by
  cases first with
  | error problem => exact ⟨nofun, fun ⟨_, failed, _⟩ => (nomatch failed)⟩
  | ok value =>
    refine ⟨fun done => ⟨value, rfl, done⟩, fun ⟨other, same, done⟩ => ?_⟩
    cases same
    exact done

theorem bind_eq_error_iff {Error First Second : Type} (first : Except Error First)
    (second : First → Except Error Second) (problem : Error) :
    first >>= second = .error problem ↔
      first = .error problem ∨ ∃ value, first = .ok value ∧ second value = .error problem := by
  cases first with
  | error other =>
    constructor
    · exact fun failed => Or.inl (congrArg Except.error (Except.error.inj failed))
    · rintro (failed | ⟨_, done, _⟩)
      · exact congrArg Except.error (Except.error.inj failed)
      · cases done
  | ok value =>
    refine ⟨fun failed => Or.inr ⟨value, rfl, failed⟩, fun either => ?_⟩
    obtain ⟨other, same, failed⟩ := either.resolve_left nofun
    cases same
    exact failed

/-- A guard that raises lets a computation through when its condition fails. -/
theorem ite_throw_eq_ok_iff {Error Value : Type} {condition : Prop} [Decidable condition]
    (error : Error) (rest : Unit → Except Error Value) (next : Except Error Value)
    (result : Value) :
    (if condition then throw error >>= rest else next) = .ok result ↔
      ¬ condition ∧ next = .ok result := by
  by_cases raised : condition
  · rw [if_pos raised]
    exact ⟨nofun, fun passed => absurd raised passed.1⟩
  · rw [if_neg raised]
    exact ⟨fun done => ⟨raised, done⟩, fun passed => passed.2⟩

theorem pure_eq_ok_iff {Error Value : Type} (value result : Value) :
    (pure value : Except Error Value) = .ok result ↔ result = value :=
  ⟨fun same => (Except.ok.inj same).symm, fun same => congrArg Except.ok same.symm⟩

end SiphonSmpp
