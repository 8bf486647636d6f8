/-!
# Reading UTF-8

Bytes are read one at a time. An ill-formed sequence is cut off after its longest correct
beginning, that beginning becomes one replacement character, and reading goes on with the
byte that did not fit.
-/
namespace DeclarationLint.Text.Utf8

/-- Stands for bytes that encode no character. -/
def replacement : Char := '\ufffd'

/-- An unfinished sequence: the bits read so far, how many bytes are missing, and the range
in which the next byte has to lie. -/
structure Open where
  bits : Nat
  missing : Nat
  lowest : Nat
  highest : Nat
deriving DecidableEq, Repr

/-- The sequence that a byte opens, if it opens one. The narrowed ranges shut out overlong
forms, surrogates and code points above the last one. -/
def opening? (byte : Nat) : Option Open :=
  if 0xc2 ≤ byte ∧ byte ≤ 0xdf then some ⟨byte - 0xc0, 1, 0x80, 0xbf⟩
  else if byte = 0xe0 then some ⟨0, 2, 0xa0, 0xbf⟩
  else if byte = 0xed then some ⟨0xd, 2, 0x80, 0x9f⟩
  else if 0xe1 ≤ byte ∧ byte ≤ 0xef then some ⟨byte - 0xe0, 2, 0x80, 0xbf⟩
  else if byte = 0xf0 then some ⟨0, 3, 0x90, 0xbf⟩
  else if byte = 0xf4 then some ⟨4, 3, 0x80, 0x8f⟩
  else if 0xf1 ≤ byte ∧ byte ≤ 0xf3 then some ⟨byte - 0xf0, 3, 0x80, 0xbf⟩
  else none

/-- Reads a byte where no sequence is open. -/
def start (byte : Nat) : List Char × Option Open :=
  if byte < 0x80 then ([Char.ofNat byte], none)
  else match opening? byte with
    | some sequence => ([], some sequence)
    | none => ([replacement], none)

/-- Reads a byte into an open sequence. -/
def extend (sequence : Open) (byte : Nat) : List Char × Option Open :=
  if sequence.lowest ≤ byte ∧ byte ≤ sequence.highest then
    let bits := sequence.bits * 0x40 + (byte - 0x80)
    if sequence.missing ≤ 1 then ([Char.ofNat bits], none)
    else ([], some ⟨bits, sequence.missing - 1, 0x80, 0xbf⟩)
  else
    let (chars, next) := start byte
    (replacement :: chars, next)

def run : Option Open → List UInt8 → List Char
  | none, [] => []
  | some _, [] => [replacement]
  | none, byte :: rest =>
    let (chars, next) := start byte.toNat
    chars ++ run next rest
  | some sequence, byte :: rest =>
    let (chars, next) := extend sequence byte.toNat
    chars ++ run next rest

/-- The text that bytes encode, with one replacement character for each ill-formed part. -/
def decode (bytes : List UInt8) : String :=
  String.ofList (run none bytes)

end DeclarationLint.Text.Utf8
