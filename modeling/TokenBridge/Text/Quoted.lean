import TokenBridge.Text.Blank
import TokenBridge.Text.Quoted.Table

/-!
# Quoted text

A text shown inside a message stands between double quotes. A quote or a
backslash inside it is preceded by a backslash; NUL, tab, newline and carriage
return have two-character forms; any other character that does not print, or
that would attach to its neighbour, is written as `\u` and its code point in
hexadecimal digits between braces. Apostrophes stand as they are.
-/

namespace TokenBridge.Text

def isPrintable (c : Char) : Bool := !inRanges unprintableRanges c.toNat

def isExtender (c : Char) : Bool := inRanges extenderRanges c.toNat

/-- The lower-case hexadecimal digits of a number, without leading zeros. -/
def hexDigits (n : Nat) : List Char := Nat.toDigits 16 n

def escapePoint (c : Char) : List Char :=
  '\\' :: 'u' :: '\x7b' :: hexDigits c.toNat ++ ['\x7d']

/-- How one character stands inside double quotes. -/
def quoteChar (c : Char) : List Char :=
  if c = '"' then ['\\', '"']
  else if c = '\\' then ['\\', '\\']
  else if c = '\n' then ['\\', 'n']
  else if c = '\r' then ['\\', 'r']
  else if c = '\t' then ['\\', 't']
  else if c = '\x00' then ['\\', '0']
  else if c.toNat < 0x7F ∧ 0x20 ≤ c.toNat then [c]
  else if isExtender c || !isPrintable c then escapePoint c
  else [c]

def quote (s : String) : String :=
  String.ofList ('"' :: s.toList.flatMap quoteChar ++ ['"'])

/-- A single character between apostrophes: here the apostrophe is escaped and the double quote
is not. -/
def quoteSingle (c : Char) : String :=
  String.ofList ('\'' ::
    (if c = '\'' then ['\\', '\''] else if c = '"' then ['"'] else quoteChar c) ++ ['\''])

end TokenBridge.Text
