set_option autoImplicit false

/-! # UTF-8

Text as bytes and back. A byte that no well-formed sequence continues ends the sequence before it,
so a malformed run is cut into the longest pieces that begin a sequence; `decodeLossy` puts one
replacement character for each.
-/

namespace RegionClient.Utf8

/-- The bytes of a text. -/
def encode (s : String) : List UInt8 :=
  s.toList.flatMap String.utf8EncodeChar

/-- What a first byte announces: the bits it carries, how many bytes follow, and the range of the
first of them. The narrow ranges rule out overlong forms, surrogates and numbers above U+10FFFF. -/
structure Lead where
  bits : Nat
  following : Nat
  low : Nat
  high : Nat

/-- The announcement of a first byte, unless no sequence begins with it. -/
def lead? (b : Nat) : Option Lead :=
  if b < 0x80 then some ⟨b, 0, 0x80, 0xBF⟩
  else if b < 0xC2 then none
  else if b < 0xE0 then some ⟨b % 32, 1, 0x80, 0xBF⟩
  else if b = 0xE0 then some ⟨0, 2, 0xA0, 0xBF⟩
  else if b = 0xED then some ⟨13, 2, 0x80, 0x9F⟩
  else if b < 0xF0 then some ⟨b % 16, 2, 0x80, 0xBF⟩
  else if b = 0xF0 then some ⟨0, 3, 0x90, 0xBF⟩
  else if b < 0xF4 then some ⟨b % 8, 3, 0x80, 0xBF⟩
  else if b = 0xF4 then some ⟨4, 3, 0x80, 0x8F⟩
  else none

/-- Reads the bytes that follow a first one: the character, or none where the sequence breaks off,
and the bytes that are left. -/
def follow : Nat → Nat → Nat → Nat → List UInt8 → Option Char × List UInt8
  | bits, 0, _, _, rest => (some (Char.ofNat bits), rest)
  | _, _ + 1, _, _, [] => (none, [])
  | bits, k + 1, low, high, b :: rest =>
    if low ≤ b.toNat ∧ b.toNat ≤ high then follow (bits * 64 + b.toNat % 64) k 0x80 0xBF rest
    else (none, b :: rest)

theorem length_follow_le (bits k low high : Nat) (bytes : List UInt8) :
    (follow bits k low high bytes).2.length ≤ bytes.length := by
  induction k generalizing bits low high bytes with
  | zero => cases bytes <;> simp [follow]
  | succ k ih =>
    cases bytes with
    | nil => simp [follow]
    | cons b rest =>
      simp only [follow]
      split
      · exact Nat.le_trans (ih ..) (Nat.le_succ _)
      · simp

/-- One character, or none for a malformed piece, and the bytes that are left. -/
def next (b : UInt8) (rest : List UInt8) : Option Char × List UInt8 :=
  match lead? b.toNat with
  | none => (none, rest)
  | some l => follow l.bits l.following l.low l.high rest

theorem length_next_le (b : UInt8) (rest : List UInt8) : (next b rest).2.length ≤ rest.length := by
  unfold next
  split
  · exact Nat.le_refl _
  · exact length_follow_le ..

/-- The characters of a run of bytes, with none for each malformed piece. -/
def scan : List UInt8 → List (Option Char)
  | [] => []
  | b :: rest => (next b rest).1 :: scan (next b rest).2
termination_by bytes => bytes.length
decreasing_by exact Nat.lt_succ_of_le (length_next_le b rest)

/-- The text of a run of bytes, if all of it is well formed. -/
def decode? (bytes : List UInt8) : Option String :=
  ((scan bytes).mapM id).map String.ofList

/-- The text of a run of bytes, with U+FFFD for each malformed piece. -/
def decodeLossy (bytes : List UInt8) : String :=
  String.ofList ((scan bytes).map (·.getD (Char.ofNat 0xFFFD)))

end RegionClient.Utf8
