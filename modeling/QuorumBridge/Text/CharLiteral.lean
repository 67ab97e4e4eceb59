/-!
# A byte shown as a character literal

A fault that names a byte shows it as the character of the same code point,
between single quotes, in a form that can be read in a log: the quote and the
backslash are escaped, the usual controls have their short escapes, and any
other character without a printed form of its own is given by its code point.

Of the code points of one byte, those without a printed form are the controls
(below 0x20, and 0x7F to 0x9F), the no-break space 0xA0 and the soft hyphen
0xAD.

## Main definitions

* `CharLiteral.isPrinted`: Whether the character of a byte is shown as it is.
* `CharLiteral.ofByte`: The literal.
-/

namespace QuorumBridge

namespace CharLiteral

/-- Whether the character of this code point (below 256) is shown as it is. -/
def isPrinted (code : Nat) : Bool :=
  (0x20 ≤ code && code < 0x7F) || (0xA0 < code && code != 0xAD)

/-- What stands between the quotes for a byte. -/
def body (byte : UInt8) : List Char :=
  let c := Char.ofUInt8 byte
  if c = '\x00' then ['\\', '0']
  else if c = '\t' then ['\\', 't']
  else if c = '\n' then ['\\', 'n']
  else if c = '\r' then ['\\', 'r']
  -- A double quote needs no escape between single quotes.
  else if c = '\'' then ['\\', '\'']
  else if c = '\\' then ['\\', '\\']
  else if isPrinted byte.toNat then [c]
  else ['\\', 'u', '\x7b'] ++ Nat.toDigits 16 byte.toNat ++ ['\x7d']

/-- A byte as a character literal. -/
def ofByte (byte : UInt8) : String :=
  String.ofList ('\'' :: body byte ++ ['\''])

end CharLiteral

end QuorumBridge
