/-!
# Reading bytes as UTF-8 without refusing any

Lines arrive as bytes that nobody has checked. Reading them replaces each maximal piece that
starts a character but does not finish it, and each byte that starts none, by the replacement
character; a well-formed character reads as itself.
-/

namespace RemoteDebug.Text.Utf8

/-- The character that stands for bytes that are no character. -/
def replacement : Char :=
  '\uFFFD'

/-- Whether a byte continues a character. -/
def isTail (b : UInt8) : Bool :=
  0x80 ≤ b && b ≤ 0xBF

/-- Whether a second byte fits behind the first byte of a character of three. -/
def fitsThree (first second : UInt8) : Bool :=
  if first = 0xE0 then 0xA0 ≤ second && second ≤ 0xBF
  else if first = 0xED then 0x80 ≤ second && second ≤ 0x9F
  else isTail second

/-- Whether a second byte fits behind the first byte of a character of four. -/
def fitsFour (first second : UInt8) : Bool :=
  if first = 0xF0 then 0x90 ≤ second && second ≤ 0xBF
  else if first = 0xF4 then 0x80 ≤ second && second ≤ 0x8F
  else isTail second

/-- The six bits that a continuing byte carries. -/
def tailBits (b : UInt8) : Nat :=
  b.toNat % 64

/-- The character of two bytes that starts with `first`, and how many further bytes it takes. -/
def takeTwo (first : UInt8) : List UInt8 → Char × Nat
  | b :: _ =>
    if isTail b then (Char.ofNat (first.toNat % 32 * 64 + tailBits b), 1) else (replacement, 0)
  | [] => (replacement, 0)

/-- The character of three bytes that starts with `first`, and how many further bytes it takes. -/
def takeThree (first : UInt8) : List UInt8 → Char × Nat
  | b :: rest =>
    if fitsThree first b then
      match rest with
      | c :: _ =>
        if isTail c then
          (Char.ofNat (first.toNat % 16 * 4096 + tailBits b * 64 + tailBits c), 2)
        else (replacement, 1)
      | [] => (replacement, 1)
    else (replacement, 0)
  | [] => (replacement, 0)

/-- The character of four bytes that starts with `first`, and how many further bytes it takes. -/
def takeFour (first : UInt8) : List UInt8 → Char × Nat
  | b :: rest =>
    if fitsFour first b then
      match rest with
      | c :: rest' =>
        if isTail c then
          match rest' with
          | d :: _ =>
            if isTail d then
              (Char.ofNat (first.toNat % 8 * 262144 + tailBits b * 4096 + tailBits c * 64 +
                tailBits d), 3)
            else (replacement, 2)
          | [] => (replacement, 2)
        else (replacement, 1)
      | [] => (replacement, 1)
    else (replacement, 0)
  | [] => (replacement, 0)

/-- The character that starts with `first`, and how many further bytes it takes. -/
def takeChar (first : UInt8) (rest : List UInt8) : Char × Nat :=
  if first < 0x80 then (Char.ofNat first.toNat, 0)
  else if 0xC2 ≤ first && first ≤ 0xDF then takeTwo first rest
  else if 0xE0 ≤ first && first ≤ 0xEF then takeThree first rest
  else if 0xF0 ≤ first && first ≤ 0xF4 then takeFour first rest
  else (replacement, 0)

/-- The characters of a list of bytes, `newestFirst` having been read before them. -/
def decodeFrom (newestFirst : List Char) : List UInt8 → List Char
  | [] => newestFirst.reverse
  | first :: rest =>
    let (c, further) := takeChar first rest
    decodeFrom (c :: newestFirst) (rest.drop further)
termination_by bytes => bytes.length
decreasing_by
  rw [List.length_drop, List.length_cons]
  omega

/-- The text that a list of bytes holds, each ill-formed piece read as one replacement. -/
def decode (bytes : List UInt8) : String :=
  String.ofList (decodeFrom [] bytes)

end RemoteDebug.Text.Utf8
