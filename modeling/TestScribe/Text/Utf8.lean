import TestScribe.Text.Basic

/-!
# UTF-8

Bytes are cut into pieces from left to right: a piece is one well-formed
character, or the longest run of bytes that could have begun a character and did
not become one. Decoding that replaces turns each faulty run into one U+FFFD;
strict decoding stops at the first faulty run and says where it stands and what
is wrong with it.

`pieces_encode`: cutting the encoding of a text gives its characters back and
nothing faulty, so both decodings undo `encode`.
-/

namespace TestScribe.Utf8

/-! ## Encoding -/

/-- The one to four bytes of a character. -/
def encodeChar (c : Char) : List UInt8 :=
  let n := c.toNat
  if n < 0x80 then [UInt8.ofNat n]
  else if n < 0x800 then [UInt8.ofNat (0xC0 + n / 64), UInt8.ofNat (0x80 + n % 64)]
  else if n < 0x10000 then
    [UInt8.ofNat (0xE0 + n / 4096), UInt8.ofNat (0x80 + n / 64 % 64), UInt8.ofNat (0x80 + n % 64)]
  else
    [UInt8.ofNat (0xF0 + n / 262144), UInt8.ofNat (0x80 + n / 4096 % 64),
     UInt8.ofNat (0x80 + n / 64 % 64), UInt8.ofNat (0x80 + n % 64)]

/-- The bytes of a text. -/
def encode (s : Text) : List UInt8 := s.flatMap encodeChar

/-! ## Decoding -/

/-- Why a run of bytes is no character. -/
inductive Fault
  /-- The first byte can begin no character. -/
  | badStart
  /-- A byte after the first is not one that may follow. -/
  | badContinuation
  /-- The input ends inside a character. -/
  | truncated
deriving Repr, DecidableEq

/-- A piece of the input: a character or a faulty run. -/
inductive Piece
  | char (c : Char)
  | bad (bytes : List UInt8) (fault : Fault)
deriving Repr, DecidableEq

/-- What a first byte promises: how many bytes follow, the bounds of the next one,
and the bits that the first byte contributes. -/
structure Lead where
  following : Nat
  low : Nat
  high : Nat
  bits : Nat
deriving DecidableEq

/-- The promise of a first byte; `none` for a byte that can begin no character.
The bounds of the second byte leave out overlong forms, surrogates and code
points beyond U+10FFFF. -/
def lead? (b : UInt8) : Option Lead :=
  let n := b.toNat
  if n < 0x80 then some ⟨0, 0x80, 0xBF, n⟩
  else if n < 0xC2 then none
  else if n < 0xE0 then some ⟨1, 0x80, 0xBF, n - 0xC0⟩
  else if n = 0xE0 then some ⟨2, 0xA0, 0xBF, 0⟩
  else if n = 0xED then some ⟨2, 0x80, 0x9F, 0xD⟩
  else if n < 0xF0 then some ⟨2, 0x80, 0xBF, n - 0xE0⟩
  else if n = 0xF0 then some ⟨3, 0x90, 0xBF, 0⟩
  else if n < 0xF4 then some ⟨3, 0x80, 0xBF, n - 0xF0⟩
  else if n = 0xF4 then some ⟨3, 0x80, 0x8F, 4⟩
  else none

/-- Reads the following bytes of a character: the run read so far is `seen`, its
last byte first, and `bits` is their value. -/
def follow : Nat → Nat → Nat → List UInt8 → Nat → List UInt8 → Piece × List UInt8
  | 0, _, _, _, bits, bs => (.char (Char.ofNat bits), bs)
  | _ + 1, _, _, seen, _, [] => (.bad seen.reverse .truncated, [])
  | n + 1, low, high, seen, bits, b :: bs =>
    if low ≤ b.toNat ∧ b.toNat ≤ high then
      follow n 0x80 0xBF (b :: seen) (bits * 64 + (b.toNat - 0x80)) bs
    else (.bad seen.reverse .badContinuation, b :: bs)

/-- The first piece of `b :: bs` and the bytes after it. -/
def next (b : UInt8) (bs : List UInt8) : Piece × List UInt8 :=
  match lead? b with
  | none => (.bad [b] .badStart, bs)
  | some l => follow l.following l.low l.high [b] l.bits bs

theorem follow_length_le (n low high : Nat) (seen : List UInt8) (bits : Nat) (bs : List UInt8) :
    (follow n low high seen bits bs).2.length ≤ bs.length := by
  induction n generalizing low high seen bits bs with
  | zero => simp [follow]
  | succ n ih =>
    cases bs with
    | nil => simp [follow]
    | cons b bs =>
      unfold follow
      split
      · exact Nat.le_succ_of_le (ih ..)
      · exact Nat.le_refl _

theorem next_length_le (b : UInt8) (bs : List UInt8) : (next b bs).2.length ≤ bs.length := by
  unfold next
  split
  · exact Nat.le_refl _
  · exact follow_length_le ..

/-- The pieces of the input in order. -/
def pieces (bytes : List UInt8) : List Piece :=
  match bytes with
  | [] => []
  | b :: bs => (next b bs).1 :: pieces (next b bs).2
termination_by bytes.length
decreasing_by exact Nat.lt_succ_of_le (next_length_le b bs)

/-- Decodes with U+FFFD for every faulty run. -/
def decodeReplacing (bytes : List UInt8) : Text :=
  (pieces bytes).map fun
    | .char c => c
    | .bad _ _ => '\uFFFD'

/-- Where and why strict decoding stopped: the offset of the faulty run, the run,
and what is wrong with it. -/
structure DecodeError where
  offset : Nat
  run : List UInt8
  fault : Fault
deriving Repr, DecidableEq

/-- Decodes the pieces that begin at `offset`, up to the first faulty one. -/
def decodePieces : Nat → List Piece → Except DecodeError Text
  | _, [] => .ok []
  | offset, .char c :: ps =>
    (decodePieces (offset + (encodeChar c).length) ps).map (c :: ·)
  | offset, .bad run fault :: _ => .error ⟨offset, run, fault⟩

/-- Decodes well-formed bytes; the first faulty run is an error. -/
def decode (bytes : List UInt8) : Except DecodeError Text :=
  decodePieces 0 (pieces bytes)

/-- The bytes of the mark U+FEFF that may stand at the start of a file. -/
def byteOrderMark : List UInt8 := [0xEF, 0xBB, 0xBF]

/-! ## Laws -/

theorem follow_encoded {n low high : Nat} {seen : List UInt8} {bits v : Nat} {rest : List UInt8}
    (hl : low ≤ 0x80 + v) (hh : 0x80 + v ≤ high) (hv : v < 64) :
    follow (n + 1) low high seen bits (UInt8.ofNat (0x80 + v) :: rest) =
      follow n 0x80 0xBF (UInt8.ofNat (0x80 + v) :: seen) (bits * 64 + v) rest := by
  have h : (UInt8.ofNat (0x80 + v)).toNat = 0x80 + v := by
    simp [UInt8.toNat_ofNat']; omega
  rw [follow, h, if_pos ⟨hl, hh⟩, Nat.add_sub_cancel_left]

private theorem lead?_ascii : ∀ n < 0x80, lead? (UInt8.ofNat n) = some ⟨0, 0x80, 0xBF, n⟩ := by
  decide

private theorem lead?_two : ∀ n < 32, 2 ≤ n →
    lead? (UInt8.ofNat (0xC0 + n)) = some ⟨1, 0x80, 0xBF, n⟩ := by
  decide

private theorem lead?_three : ∀ n < 16, lead? (UInt8.ofNat (0xE0 + n)) =
    some ⟨2, if n = 0 then 0xA0 else 0x80, if n = 13 then 0x9F else 0xBF, n⟩ := by
  decide

private theorem lead?_four : ∀ n < 5, lead? (UInt8.ofNat (0xF0 + n)) =
    some ⟨3, if n = 0 then 0x90 else 0x80, if n = 4 then 0x8F else 0xBF, n⟩ := by
  decide

/-- Reading the encoding of one character gives the character and leaves what
follows it. -/
theorem pieces_encodeChar_append (c : Char) (rest : List UInt8) :
    pieces (encodeChar c ++ rest) = .char c :: pieces rest := by
  have hvalid : c.toNat < 0xD800 ∨ 0xDFFF < c.toNat ∧ c.toNat < 0x110000 := c.valid
  have hc : Char.ofNat c.toNat = c := Char.ofNat_toNat c
  have step (b : UInt8) (bs : List UInt8) (h : next b (bs ++ rest) = (.char c, rest)) :
      pieces (b :: bs ++ rest) = .char c :: pieces rest := by
    rw [List.cons_append, pieces, h]
  unfold encodeChar
  simp only
  split
  · apply step
    simp [next, lead?_ascii c.toNat (by assumption), follow]
  · split
    · apply step
      simp only [next, lead?_two (c.toNat / 64) (by omega) (by omega), List.cons_append,
        List.nil_append]
      rw [follow_encoded (by omega) (by omega) (by omega)]
      simp only [follow]
      rw [show c.toNat / 64 * 64 + c.toNat % 64 = c.toNat by omega, hc]
    · split
      · apply step
        simp only [next, lead?_three (c.toNat / 4096) (by omega), List.cons_append,
          List.nil_append]
        rw [follow_encoded (by split <;> omega) (by split <;> omega) (by omega),
          follow_encoded (by omega) (by omega) (by omega)]
        simp only [follow]
        rw [show (c.toNat / 4096 * 64 + c.toNat / 64 % 64) * 64 + c.toNat % 64 = c.toNat by omega,
          hc]
      · apply step
        simp only [next, lead?_four (c.toNat / 262144) (by omega), List.cons_append,
          List.nil_append]
        rw [follow_encoded (by split <;> omega) (by split <;> omega) (by omega),
          follow_encoded (by omega) (by omega) (by omega),
          follow_encoded (by omega) (by omega) (by omega)]
        simp only [follow]
        rw [show ((c.toNat / 262144 * 64 + c.toNat / 4096 % 64) * 64 + c.toNat / 64 % 64) * 64
          + c.toNat % 64 = c.toNat by omega, hc]

/-- Cutting an encoded text gives its characters back. -/
theorem pieces_encode (s : Text) : pieces (encode s) = s.map Piece.char := by
  induction s with
  | nil => simp [encode, pieces]
  | cons c s ih =>
    have : encode (c :: s) = encodeChar c ++ encode s := by simp [encode]
    rw [this, pieces_encodeChar_append, ih, List.map_cons]

theorem decodePieces_map_char (offset : Nat) (s : Text) :
    decodePieces offset (s.map Piece.char) = .ok s := by
  induction s generalizing offset with
  | nil => rfl
  | cons c s ih => simp [decodePieces, ih, Except.map]

theorem decode_encode (s : Text) : decode (encode s) = .ok s := by
  rw [decode, pieces_encode, decodePieces_map_char]

theorem decodeReplacing_encode (s : Text) : decodeReplacing (encode s) = s := by
  rw [decodeReplacing, pieces_encode]
  induction s with
  | nil => rfl
  | cons c s ih => simpa using ih

end TestScribe.Utf8
