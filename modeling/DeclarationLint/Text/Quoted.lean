import DeclarationLint.Text.Printable

/-!
# Quoted texts

A text shown inside a message stands between quotes, with a backslash before whatever would
be mistaken for something else. Single quotes are preferred; a text that holds one and no
double quote is put between double quotes instead.
-/
namespace DeclarationLint.Text

/-- Lower-case hexadecimal digits, padded with zeros to a width. -/
def hexDigits (width code : Nat) : List Char :=
  let digits := Nat.toDigits 16 code
  List.replicate (width - digits.length) '0' ++ digits

/-- How one character is written between quotes: the backslash, the quote in use and the
three common controls by name, other unprintable characters by code point. -/
def escape (quote c : Char) : List Char :=
  if c = quote || c = '\\' then ['\\', c]
  else if c = '\n' then ['\\', 'n']
  else if c = '\r' then ['\\', 'r']
  else if c = '\t' then ['\\', 't']
  else if isPrintable c then [c]
  else if c.toNat < 0x100 then '\\' :: 'x' :: hexDigits 2 c.toNat
  else if c.toNat < 0x10000 then '\\' :: 'u' :: hexDigits 4 c.toNat
  else '\\' :: 'U' :: hexDigits 8 c.toNat

def quoteFor (chars : List Char) : Char :=
  if chars.contains '\'' && !chars.contains '"' then '"' else '\''

/-- The text as it is shown in messages. -/
def quoted (text : String) : String :=
  let quote := quoteFor text.toList
  String.ofList (quote :: text.toList.flatMap (escape quote) ++ [quote])

end DeclarationLint.Text
