import UtxoWallet.Text.Classes

/-! # A character in single quotes

A message shows a character so that the reader can tell which one it is: what has no glyph of its
own is written by its code point.
-/

namespace UtxoWallet.Text

/-- The lower-case hexadecimal code point, without leading zeros. -/
def codePoint (c : Char) : List Char :=
  ['\\', 'u', '\x7b'] ++ Nat.toDigits 16 c.toNat ++ ['\x7d']

/-- Halfwidth sound marks. They join the character before them, but have a glyph of their own. -/
def isSoundMark (c : Char) : Bool := inRanges [(0xFF9E, 0xFF9F)] c

/-- Letters that only fill a place. -/
def isFiller (c : Char) : Bool :=
  inRanges [(0x115F, 0x1160), (0x3164, 0x3164), (0xFFA0, 0xFFA0)] c

/-- Whether a reader could not tell the character by its glyph. -/
def isObscure (c : Char) : Bool :=
  (isExtending c && !isSoundMark c) || isUnprintable c || isFiller c

def escaped (c : Char) : List Char :=
  if c = '\x00' then ['\\', '0']
  else if c = '\t' then ['\\', 't']
  else if c = '\n' then ['\\', 'n']
  else if c = '\r' then ['\\', 'r']
  else if c = '\'' then ['\\', '\'']
  else if c = '\\' then ['\\', '\\']
  else if isObscure c then codePoint c
  else [c]

def quoted (c : Char) : String := String.ofList ('\'' :: escaped c ++ ['\''])

end UtxoWallet.Text
