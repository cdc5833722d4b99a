import SqlWire.Text.Printable

/-!
# Text in diagnostics

Diagnostics show text between double quotes, a tagged content as a tag with parentheses, and a
record as its name with fields between braces; a record that keeps some of its fields to itself ends
in two points.

Inside quotes, a double quote, a backslash, a tab, a line feed, a carriage return and the null
character are written with a backslash and one letter; every other character that is unprintable or
extends its neighbour is written by its code in hexadecimal.
-/
namespace SqlWire.Text

/-- Lower-case hexadecimal digits of a number, without leading zeros. -/
def hexDigits (value : Nat) : List Char := Nat.toDigits 16 value

/-- One character inside quotes. -/
def quoteChar (c : Char) : List Char :=
  if c == '"' then ['\\', '"']
  else if c == '\\' then ['\\', '\\']
  else if c == '\t' then ['\\', 't']
  else if c == '\n' then ['\\', 'n']
  else if c == '\r' then ['\\', 'r']
  else if c == '\x00' then ['\\', '0']
  else if isExtending c || isUnprintable c then
    ['\\', 'u', Char.ofNat 0x7B] ++ hexDigits c.toNat ++ [Char.ofNat 0x7D]
  else [c]

/-- A text between double quotes. -/
def quote (text : String) : String :=
  String.ofList ('"' :: text.toList.flatMap quoteChar ++ ['"'])

/-- A tag with its content in parentheses. -/
def tagged (tag content : String) : String := tag ++ "(" ++ content ++ ")"

/-- A name with entries between braces. -/
def braced (name : String) (entries : List String) : String :=
  name ++ " \x7b " ++ ", ".intercalate entries ++ " \x7d"

/-- A field with its content. -/
def fieldEntry (field : String × String) : String := field.1 ++ ": " ++ field.2

/-- A record with all its fields. -/
def record (name : String) (fields : List (String × String)) : String :=
  braced name (fields.map fieldEntry)

/-- A record that shows only some of its fields. -/
def partialRecord (name : String) (fields : List (String × String)) : String :=
  braced name (fields.map fieldEntry ++ [".."])

end SqlWire.Text
