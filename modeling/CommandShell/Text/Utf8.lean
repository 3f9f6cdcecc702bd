import CommandShell.Text

/-!
# UTF-8

Decoding is one pass over the bytes with at most one unfinished character in hand. It yields units:
a character, or `none` for a maximal stretch of bytes that begins like a character and cannot be
completed. The lossy reading puts U+FFFD for each such stretch, the strict one refuses the bytes.

## Main definitions
* `Utf8.encode`: the bytes of a text.
* `Utf8.units`: what a byte string holds, character by character.
* `Utf8.decodeLossy`, `Utf8.decode?`: its text, with broken parts replaced, or only if there are none.
* `Utf8.stretches`: the replaced reading in parts (`flatten_stretches`).
-/

namespace CommandShell.Utf8

/-- The bytes of a text. -/
def encode (text : Text) : Bytes :=
  text.flatMap String.utf8EncodeChar

@[simp] theorem encode_nil : encode [] = [] := rfl

@[simp] theorem encode_cons (c : Char) (text : Text) :
    encode (c :: text) = String.utf8EncodeChar c ++ encode text := rfl

@[simp] theorem encode_append (xs ys : Text) : encode (xs ++ ys) = encode xs ++ encode ys := by
  simp [encode]

/-- A character that has begun and still wants `more` bytes, the next of them from `low` to `high`. -/
structure Partial where
  /-- The bits read so far. -/
  code : Nat
  more : Nat
  low : UInt8
  high : UInt8

/-- What a byte stands for at the start of a character. -/
inductive Start
  /-- A whole unit: an ASCII character, or a byte that begins none. -/
  | unit (u : Option Char)
  /-- The first byte of a longer character. -/
  | lead (p : Partial)

/-- Reads a byte at the start of a character. The ranges for the second byte keep out overlong
forms, surrogates and values above U+10FFFF. -/
def start (b : UInt8) : Start :=
  if b < 0x80 then .unit (some (Char.ofNat b.toNat))
  else if b < 0xC2 then .unit none
  else if b < 0xE0 then .lead ⟨b.toNat - 0xC0, 1, 0x80, 0xBF⟩
  else if b < 0xF0 then
    .lead ⟨b.toNat - 0xE0, 2, if b = 0xE0 then 0xA0 else 0x80, if b = 0xED then 0x9F else 0xBF⟩
  else if b < 0xF5 then
    .lead ⟨b.toNat - 0xF0, 3, if b = 0xF0 then 0x90 else 0x80, if b = 0xF4 then 0x8F else 0xBF⟩
  else .unit none

/-- The bits with those of one more continuation byte behind them. -/
def Partial.extend (p : Partial) (b : UInt8) : Nat :=
  p.code * 64 + (b.toNat - 0x80)

/-- Decodes with an unfinished character in hand, if there is one. A byte that cannot continue it
ends it as broken and is then read at the start of a character. -/
def unitsFrom : Option Partial → Bytes → List (Option Char)
  | none, [] => []
  | some _, [] => [none]
  | some p, b :: bs =>
    if p.low ≤ b ∧ b ≤ p.high then
      if p.more ≤ 1 then some (Char.ofNat (p.extend b)) :: unitsFrom none bs
      else unitsFrom (some ⟨p.extend b, p.more - 1, 0x80, 0xBF⟩) bs
    else
      none :: match start b with
        | .unit u => u :: unitsFrom none bs
        | .lead q => unitsFrom (some q) bs
  | none, b :: bs =>
    match start b with
    | .unit u => u :: unitsFrom none bs
    | .lead q => unitsFrom (some q) bs

/-- The characters and broken stretches of a byte string, in order. -/
def units (bytes : Bytes) : List (Option Char) :=
  unitsFrom none bytes

/-- U+FFFD, which stands for bytes that are no text. -/
def replacement : Char := '\uFFFD'

/-- The text of a byte string, with U+FFFD for each broken stretch. -/
def decodeLossy (bytes : Bytes) : Text :=
  (units bytes).map (·.getD replacement)

/-- What is read with U+FFFD for what is broken, in stretches: those that are text, and each broken one
on its own. -/
def stretches : List (Option Char) → List Text
  | [] => []
  | none :: rest => [replacement] :: stretches rest
  | some c :: some d :: rest =>
    match stretches (some d :: rest) with
    | stretch :: later => (c :: stretch) :: later
    | [] => [[c]]
  | some c :: rest => [c] :: stretches rest

/-- The text of a byte string that holds no broken stretch. -/
def decode? (bytes : Bytes) : Option Text :=
  (units bytes).foldr (fun u text => do return (← u) :: (← text)) (some [])

/-- The stretches one behind the other are the whole reading. -/
theorem flatten_stretches (us : List (Option Char)) :
    (stretches us).flatten = us.map (·.getD replacement) := by
  fun_induction stretches us with
  | case1 => rfl
  | case2 rest ih => simp [ih]
  | case3 c d rest stretch later heq ih => rw [heq] at ih; simpa using ih
  | case4 c d rest heq ih => rw [heq] at ih; simp at ih
  | case5 c rest h ih => simp [ih]

end CommandShell.Utf8
