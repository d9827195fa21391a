import TokenBridge.Text.LowerCase
import TokenBridge.Text.Quoted
import TokenBridge.Url.Punycode

/-!
# Domain names

The ASCII form of a domain name. Letters become small, wide forms of ASCII
characters become those characters and the ideographic full stops become `.`;
then every label with a character outside ASCII is written in Punycode behind
`xn--`. A name is refused if it holds a character that no domain name may hold,
a label that begins with a mark that belongs to the character before it, or a
label behind `xn--` that is not the Punycode of such a name.
-/

namespace TokenBridge.Url

/-- ASCII characters that no domain name holds. -/
def isForbidden (c : Char) : Bool :=
  decide (c.toNat ≤ 0x20) || c.toNat == 0x7F ||
    ['%', '#', '/', ':', '<', '>', '?', '@', '[', '\\', ']', '^', '|'].contains c

def isDropped (c : Char) : Bool :=
  c.toNat == 0xAD || c.toNat == 0x200B || c.toNat == 0x2060 || c.toNat == 0xFEFF ||
    (decide (0xFE00 ≤ c.toNat) && decide (c.toNat ≤ 0xFE0F))

def mapChar (c : Char) : List Char :=
  if isDropped c then []
  else if c.toNat = 0x3002 ∨ c.toNat = 0xFF0E ∨ c.toNat = 0xFF61 then ['.']
  else if 0xFF01 ≤ c.toNat ∧ c.toNat ≤ 0xFF5E then
    [Text.lowerPoint (Char.ofNat (c.toNat - 0xFEE0))]
  else if c = 'İ' then ['i', Char.ofNat 0x307]
  else [Text.lowerPoint c]

/-- A character outside ASCII that no domain name holds. -/
def isRefused (c : Char) : Bool :=
  decide (0x80 ≤ c.toNat) && (Text.isBlank c || !Text.isPrintable c || c.toNat == 0xFFFD)

/-- A label outside ASCII that a domain name may hold. -/
def isWideLabel (label : List Char) : Bool :=
  !label.any isRefused && !(label.head?.map Text.isExtender).getD false

/-- Labels between full stops. -/
def labels (cs : List Char) : List (List Char) := cs.splitOn '.'

/-- The label is Punycode of a label that needs it. -/
def isEncodedLabel (label : List Char) : Bool :=
  match Punycode.decode? label with
  | none => false
  | some decoded =>
    decoded.any (!Punycode.isBasic ·) && decoded.flatMap mapChar == decoded &&
      isWideLabel decoded && Punycode.encode decoded == label

def asciiLabel? (label : List Char) : Option (List Char) :=
  if label.all Punycode.isBasic then
    match label with
    | 'x' :: 'n' :: '-' :: '-' :: rest => if isEncodedLabel rest then some label else none
    | _ => some label
  else if !isWideLabel label then none
  else some ('x' :: 'n' :: '-' :: '-' :: Punycode.encode label)

def domainToAscii? (name : String) : Option String :=
  let mapped := name.toList.flatMap mapChar
  if mapped.any isForbidden then none
  else ((labels mapped).mapM asciiLabel?).map fun ls => ".".intercalate (ls.map String.ofList)

end TokenBridge.Url
