/-!
# Text

A text is a list of Unicode scalars. Everything the library reads or writes goes
through this one representation, so a rule about text is a rule about lists and
its proofs are inductions.

The file holds the few operations that lists do not already have: cutting a known
beginning or end, replacing a pattern from left to right, cutting at a separator.
-/

namespace TestScribe

/-- A text: its characters in order. -/
abbrev Text := List Char

namespace Text

/-! ## Beginnings and ends -/

/-- What follows `p` in `s`, when `s` begins with `p`. -/
def afterPrefix? : Text → Text → Option Text
  | [], s => some s
  | _ :: _, [] => none
  | p :: ps, c :: cs => if p = c then afterPrefix? ps cs else none

theorem afterPrefix?_append (p s : Text) : afterPrefix? p (p ++ s) = some s := by
  induction p with
  | nil => rfl
  | cons c p ih => simp [afterPrefix?, ih]

theorem eq_append_of_afterPrefix? {p s r : Text} (h : afterPrefix? p s = some r) :
    s = p ++ r := by
  induction p generalizing s with
  | nil => simpa [afterPrefix?] using h
  | cons c p ih =>
    cases s with
    | nil => simp [afterPrefix?] at h
    | cons d s =>
      by_cases hc : c = d
      · subst hc
        simp [afterPrefix?] at h
        simp [ih h]
      · simp [afterPrefix?, hc] at h

/-- `s` begins with `p`. -/
def beginsWith (p s : Text) : Bool := (afterPrefix? p s).isSome

/-- What stands before `e` in `s`, when `s` ends with `e`. -/
def beforeSuffix? (e s : Text) : Option Text :=
  (afterPrefix? e.reverse s.reverse).map List.reverse

theorem beforeSuffix?_append (s e : Text) : beforeSuffix? e (s ++ e) = some s := by
  simp [beforeSuffix?, afterPrefix?_append]

/-! ## Replacement -/

/-- Every occurrence of the nonempty `old` becomes `new`, searched from left to
right and never inside a replacement. An empty `old` changes nothing. -/
def replace (old new : Text) (s : Text) : Text :=
  match s with
  | [] => []
  | c :: cs =>
    match old with
    | [] => c :: cs
    | _ :: os =>
      match afterPrefix? old (c :: cs) with
      | some _ => new ++ replace old new (cs.drop os.length)
      | none => c :: replace old new cs
termination_by s.length

/-! ## Cutting -/

theorem length_dropWhile_le (p : Char → Bool) (s : Text) : (s.dropWhile p).length ≤ s.length :=
  (List.dropWhile_suffix p).length_le

/-- What stands before the first `c` and what stands after it. -/
def cutAt? (c : Char) : Text → Option (Text × Text)
  | [] => none
  | d :: s => if d = c then some ([], s) else (cutAt? c s).map fun r => (d :: r.1, r.2)

theorem cutAt?_append {c : Char} {a : Text} (ha : c ∉ a) (b : Text) :
    cutAt? c (a ++ c :: b) = some (a, b) := by
  induction a with
  | nil => rw [List.nil_append, cutAt?, if_pos rfl]
  | cons d a ih =>
    have hd : d ≠ c := fun h => ha (h ▸ List.mem_cons_self)
    rw [List.cons_append, cutAt?, if_neg hd, ih fun h => ha (List.mem_cons_of_mem _ h)]
    rfl

theorem eq_of_cutAt? {c : Char} {s a b : Text} (h : cutAt? c s = some (a, b)) :
    s = a ++ c :: b := by
  induction s generalizing a with
  | nil => simp [cutAt?] at h
  | cons d s ih =>
    by_cases hd : d = c
    · simp [cutAt?, hd] at h
      simp [← h.1, ← h.2, hd]
    · simp [cutAt?, hd] at h
      obtain ⟨a', h', rfl⟩ := h
      simp [ih h']

theorem not_mem_of_cutAt? {c : Char} {s a b : Text} (h : cutAt? c s = some (a, b)) :
    c ∉ a := by
  induction s generalizing a with
  | nil => cases h
  | cons d s ih =>
    rw [cutAt?] at h
    by_cases hd : d = c
    · rw [if_pos hd] at h
      obtain ⟨rfl, -⟩ := Prod.mk.inj (Option.some.inj h)
      exact List.not_mem_nil
    · rw [if_neg hd] at h
      obtain ⟨⟨a', b'⟩, hr, he⟩ := Option.map_eq_some_iff.mp h
      obtain ⟨rfl, rfl⟩ := Prod.mk.inj he
      rw [List.mem_cons, not_or]
      exact ⟨Ne.symm hd, ih hr⟩

theorem cutAt?_length_lt {c : Char} {s a b : Text} (h : cutAt? c s = some (a, b)) :
    b.length < s.length := by
  rw [eq_of_cutAt? h]
  simp
  omega

/-! ## Separators -/

/-- The pieces between the separators `sep`: one more than there are separators. -/
def splitAt (sep : Char) : Text → List Text
  | [] => [[]]
  | c :: cs =>
    if c = sep then [] :: splitAt sep cs
    else
      match splitAt sep cs with
      | [] => [[c]]
      | piece :: rest => (c :: piece) :: rest

theorem splitAt_ne_nil (sep : Char) (s : Text) : splitAt sep s ≠ [] := by
  cases s with
  | nil => simp [splitAt]
  | cons c cs =>
    unfold splitAt
    split
    · simp
    · split <;> simp

/-- A text without a separator is one piece. -/
theorem splitAt_of_not_mem {sep : Char} {s : Text} (h : sep ∉ s) :
    splitAt sep s = [s] := by
  induction s with
  | nil => rfl
  | cons c s ih =>
    have hc : c ≠ sep := fun hc => h (hc ▸ List.mem_cons_self)
    rw [splitAt, if_neg hc, ih fun hs => h (List.mem_cons_of_mem _ hs)]

/-- The texts one after the other, with `sep` between two neighbours. -/
def joinWith (sep : Text) : List Text → Text
  | [] => []
  | [t] => t
  | t :: ts => t ++ sep ++ joinWith sep ts

/-! ## Order -/

/-- The order of texts by their characters' code points, a beginning before the whole. -/
def le : Text → Text → Bool
  | [], _ => true
  | _ :: _, [] => false
  | c :: cs, d :: ds => if c = d then le cs ds else c < d

/-- The order of lists of texts, text by text. -/
def listLe : List Text → List Text → Bool
  | [], _ => true
  | _ :: _, [] => false
  | s :: ss, t :: ts => if s = t then listLe ss ts else le s t

/-! ## Numbers -/

/-- The decimal digits of a number, the highest first. -/
def ofNat (n : Nat) : Text := Nat.toDigits 10 n

/-- A signed number: a minus sign where needed, then the digits. -/
def ofInt : Int → Text
  | .ofNat n => ofNat n
  | .negSucc n => '-' :: ofNat (n + 1)

/-! ## Small letters of the ASCII alphabet -/

/-- The text with the ASCII capitals as small letters and all else as it was. -/
def lower (s : Text) : Text := s.map Char.toLower

end Text
end TestScribe
