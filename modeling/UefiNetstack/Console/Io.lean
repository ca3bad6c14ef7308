import UefiNetstack.Api.Http

namespace UefiNetstack
open Constants

abbrev CHAR16 := BitVec 16

/-- `globals::st` with its `ConOut`, which may be null, and the characters that ConOut has been given. -/
structure Console where
  attached : Bool
  text : List CHAR16 := []
deriving DecidableEq

/-- A wide literal with its zero. -/
def wide (literal : String) : List CHAR16 := literal.toList.map (fun char => BitVec.ofNat 16 char.toNat) ++ [0#16]

/-- The characters of a buffer up to the first zero. -/
def wideText (buf : List CHAR16) : Option (List CHAR16) :=
  if 0#16 ∈ buf then some (buf.takeWhile (· ≠ 0#16)) else none

namespace Console

def printStr (str : List CHAR16) (console : Console) : Option Console :=
  if console.attached then (wideText str).map fun text => { console with text := console.text ++ text }
  else some console

/-- The loop that takes the digits of a value, the last digit first, and stores them in `tmp`. It has room for
the given number of further digits. -/
def storeDigits (digit : UINTN → CHAR16) (next : UINTN → UINTN) :
    Nat → UINTN → List CHAR16 → Option (List CHAR16)
  | room, val, tmp =>
    if val > 0#64 then
      match room with
      | 0 => none
      | room + 1 => storeDigits digit next room (next val) (tmp ++ [digit val])
    else some tmp

/-- The digits of `tmp` in the opposite order, `buf[j] = tmp[i - 1 - j]`. -/
def reversedDigits (tmp : List CHAR16) : List CHAR16 :=
  (List.range tmp.length).map fun j => tmp.getD (tmp.length - 1 - j) 0#16

/-- The characters go to `buf`, if it has room for them. -/
def printBuf (size : Nat) (buf : List CHAR16) (console : Console) : Option Console :=
  if buf.length ≤ size then console.printStr buf else none

def decDigit (val : UINTN) : CHAR16 := (0x30#64 + val % 0x0A#64).setWidth 16

def printDec (val : UINTN) (console : Console) : Option Console :=
  if val = 0#64 then console.printStr (wide "0")
  else do
    let tmp ← storeDigits decDigit (· / 0x0A#64) 0x16 val []
    console.printBuf 0x16 (reversedDigits tmp ++ [0#16])

/-- A hexadecimal digit. -/
def hexChar (d : UINTN) : CHAR16 := (if d < 0x0A#64 then 0x30#64 + d else 0x41#64 + d - 0x0A#64).setWidth 16

def hexDigit (val : UINTN) : CHAR16 := hexChar (val &&& 0x0F#64)

def printHex (val : UINTN) (console : Console) : Option Console :=
  if val = 0#64 then console.printStr (wide "0x0")
  else do
    let tmp ← storeDigits hexDigit (· >>> 0x04) 0x14 val []
    console.printBuf 0x14 ([0x30#16, 0x78#16] ++ reversedDigits tmp ++ [0#16])

def printIp (ip : UINT32) (console : Console) : Option Console := do
  let console ← console.printDec ((ip &&& 0xFF#32).setWidth 64)
  let console ← console.printStr (wide ".")
  let console ← console.printDec (((ip >>> 0x08) &&& 0xFF#32).setWidth 64)
  let console ← console.printStr (wide ".")
  let console ← console.printDec (((ip >>> 0x10) &&& 0xFF#32).setWidth 64)
  let console ← console.printStr (wide ".")
  console.printDec (((ip >>> 0x18) &&& 0xFF#32).setWidth 64)

/-- The two digits of a byte of a MAC. -/
def printMacByte (byte : UINT8) (console : Console) : Option Console :=
  let hi := (byte >>> 0x04) &&& 0x0F#8
  let lo := byte &&& 0x0F#8
  console.printStr [hexChar (hi.setWidth 64), hexChar (lo.setWidth 64), 0#16]

def printMac (mac : Mac) (console : Console) : Option Console :=
  (List.finRange 6).foldlM (fun console i => do
    let console ← if i.val > 0 then console.printStr (wide ":") else some console
    console.printMacByte (mac.get i)) console

/-- `CHAR8` is a signed character. -/
def widen (char : UINT8) : CHAR16 := char.signExtend 16

/-- One round of the loop of `print_ascii_n` reads `str[i]`, and `str[i - 1]` at a line feed. -/
def printAsciiChar (str : MappedMemory) (i : Nat) (console : Console) : Option Console :=
  if str.limit ≤ i then none
  else do
    let c := widen (str.byte i)
    let console ←
      if c = 0x0A#16 ∧ (i = 0 ∨ str.byte (i - 1) ≠ 0x0D#8) then console.printStr [0x0D#16, 0#16]
      else some console
    console.printStr [c, 0#16]

/-- A null pointer prints nothing. -/
def printAsciiN (str : Option MappedMemory) (len : UINTN) (console : Console) : Option Console :=
  match str with
  | none => some console
  | some str => (List.range len.toNat).foldlM (fun console i => console.printAsciiChar str i) console

end Console
end UefiNetstack
