import OpenAddressing.Text.Concealed
import OpenAddressing.Text.Outline

/-!
# Quoted texts

A quoted text stands between double quotes.  Quotes, backslashes and the common
controls are written with a backslash, and characters that cannot be read when
they stand alone by their number.
-/

namespace OpenAddressing
namespace Quoted

/-- The number of a character in lower-case hexadecimal digits, between braces. -/
def byNumber (character : Char) : String :=
  "\\u\x7b" ++ String.ofList (Nat.toDigits 16 character.toNat) ++ "\x7d"

/-- A character as it stands between the quotes. -/
def escape (character : Char) : String :=
  match character with
  | '\x00' => "\\0"
  | '\t' => "\\t"
  | '\r' => "\\r"
  | '\n' => "\\n"
  | '"' => "\\\""
  | '\\' => "\\\\"
  | _ => if Concealed.conceals character then byNumber character else character.toString

/-- A text between double quotes. -/
def quote (text : String) : String :=
  "\"" ++ String.join (text.toList.map escape) ++ "\""

end Quoted

/-- The outline of a quoted text. -/
def Outline.quoted (text : String) : Outline :=
  .atom (Quoted.quote text)

/-- The outline of something that may be absent. -/
def Outline.optional : Option Outline → Outline
  | none => .atom "None"
  | some outline => .wrapped "Some" outline

end OpenAddressing
