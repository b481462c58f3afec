import ShellVet.Text.Quoted

/-!
# Text in files

Text files hold UTF-8. `decode` reads bytes strictly: at the first byte that fits no character it
says which bytes are at fault. `joinLineEnds` makes every line end a line feed.
-/

namespace ShellVet.Text

/-- Why bytes are not UTF-8. -/
inductive Utf8Flaw where
  | startByte
  | continuationByte
  | endOfData
  deriving DecidableEq, Repr

/-- A flaw with the first byte at fault, its place and the number of bytes at fault. -/
structure Utf8Fault where
  flaw : Utf8Flaw
  byte : UInt8
  pos : Nat
  count : Nat
  deriving DecidableEq, Repr

/-- The wording of a flaw. -/
def Utf8Flaw.message : Utf8Flaw → String
  | .startByte => "invalid start byte"
  | .continuationByte => "invalid continuation byte"
  | .endOfData => "unexpected end of data"

/-- The wording of a fault. -/
def Utf8Fault.message (fault : Utf8Fault) : String :=
  let place :=
    if fault.count = 1 then
      s!"byte 0x{String.ofList (hexDigits 2 fault.byte.toNat)} in position {fault.pos}"
    else s!"bytes in position {fault.pos}-{fault.pos + fault.count - 1}"
  s!"'utf-8' codec can't decode {place}: {fault.flaw.message}"

/-- Whether the byte continues a character. -/
def isContinuation (byte : UInt8) : Bool := 0x80 ≤ byte && byte < 0xc0

/-- Number of bytes of a character by its first one; zero for a byte that starts none. -/
def sequenceLength (first : UInt8) : Nat :=
  if first < 0x80 then 1
  else if first < 0xc2 then 0
  else if first < 0xe0 then 2
  else if first < 0xf0 then 3
  else if first < 0xf5 then 4
  else 0

/-- Whether the second byte of a character fits the first one: there are no overlong forms, no
halves of surrogate pairs and nothing above the last code point. -/
def fitsFirst (first second : UInt8) : Bool :=
  isContinuation second &&
    (if first = 0xe0 then 0xa0 ≤ second
     else if first = 0xed then second < 0xa0
     else if first = 0xf0 then 0x90 ≤ second
     else if first = 0xf4 then second < 0x90
     else true)

/-- How many of the bytes after the first one belong to its character. -/
def fittingCount (first : UInt8) (wanted : Nat) : List UInt8 → Nat
  | [] => 0
  | second :: rest =>
    if wanted = 0 || !fitsFirst first second then 0
    else 1 + ((rest.take (wanted - 1)).takeWhile isContinuation).length

/-- The code point of the bytes of a character. -/
def codeOf (first : UInt8) (more : List UInt8) : Nat :=
  let lead : Nat := match more.length with
    | 0 => first.toNat
    | 1 => first.toNat - 0xc0
    | 2 => first.toNat - 0xe0
    | _ => first.toNat - 0xf0
  more.foldl (fun code byte => code * 64 + (byte.toNat - 0x80)) lead

/-- Decodes bytes from a place on. The next `skip` bytes belong to a character already read. -/
def decodeFrom (pos skip : Nat) : List UInt8 → Except Utf8Fault (List Char)
  | [] => .ok []
  | first :: rest =>
    if skip > 0 then decodeFrom (pos + 1) (skip - 1) rest
    else
      let wanted := sequenceLength first - 1
      let fitting := fittingCount first wanted rest
      if sequenceLength first = 0 then .error ⟨.startByte, first, pos, 1⟩
      else if fitting = wanted then do
        return Char.ofNat (codeOf first (rest.take wanted)) :: (← decodeFrom (pos + 1) wanted rest)
      else if fitting = rest.length then .error ⟨.endOfData, first, pos, fitting + 1⟩
      else .error ⟨.continuationByte, first, pos, fitting + 1⟩

/-- Decodes bytes. -/
def decode (bytes : List UInt8) : Except Utf8Fault (List Char) :=
  decodeFrom 0 0 bytes

/-- Makes a carriage return, with or without a line feed after it, a line feed. -/
def joinLineEnds : List Char → List Char
  | '\r' :: '\n' :: rest => '\n' :: joinLineEnds rest
  | '\r' :: rest => '\n' :: joinLineEnds rest
  | c :: rest => c :: joinLineEnds rest
  | [] => []

end ShellVet.Text
