import TestScribe.Markup.Lexer

/-!
# Where constructs end

Comments, sections and the content of `script` and `style` go on up to the first place where
they can end. What stands before that place holds no end of its own (`Unclosed`), whatever
comes after it; so it may be written down again with an end behind it, and is read up to
there:

> `until?_unclosed`: a text without an end is read up to the end that follows it.

All this rests on a few things that the ends of the three kinds have in common (`Closer`).
An end is found whatever follows it. How an end is written does not help a text in front of it
to end earlier. And two characters are foreign to every end: one that begins none can be put
in front of a text, and a backslash cuts off what stands before it.
-/

namespace TestScribe.Markup

/-! ## Ends -/

/-- The end tag of `name`. -/
def rawEnd? (name : Text) : Text → Option Text
  | '<' :: cs => afterRawEnd? name cs
  | _ => none

/-- The characters that ends begin with. -/
def endStarts : List Char := ['-', ']', '<']

/-- An end is found whatever follows it. -/
structure Stable (closes : Text → Option Text) : Prop where
  nil : closes [] = none
  append : ∀ {s rest : Text} (t : Text), closes s = some rest → closes (s ++ t) = some (rest ++ t)

/-- What the ends of a construct have in common, of which `mark` is the one that is written. -/
structure Closer (closes : Text → Option Text) (mark : Text) : Prop extends Stable closes where
  start : ∀ {c : Char} (s : Text), c ∉ endStarts → closes (c :: s) = none
  atMark : ∀ s : Text, closes (mark ++ s) = some s
  beforeMark : ∀ {u : Text} (s : Text), u ≠ [] → closes u = none → closes (u ++ (mark ++ s)) = none
  beforeBackslash : ∀ {u : Text} (s : Text), closes u = none → closes (u ++ '\\' :: s) = none

/-- No end begins in the text. -/
def Unclosed (closes : Text → Option Text) (s : Text) : Prop := ∀ u, u <:+ s → closes u = none

theorem unclosed_cons {closes : Text → Option Text} {c : Char} {s : Text} :
    Unclosed closes (c :: s) ↔ closes (c :: s) = none ∧ Unclosed closes s := by
  constructor
  · intro h
    exact ⟨h _ List.suffix_rfl, fun u hu => h u (hu.trans (List.suffix_cons c s))⟩
  · intro h u hu
    rcases List.suffix_cons_iff.mp hu with rfl | hu
    · exact h.1
    · exact h.2 u hu

theorem Unclosed.suffix {closes : Text → Option Text} {s t : Text} (h : Unclosed closes s)
    (ht : t <:+ s) : Unclosed closes t := fun u hu => h u (hu.trans ht)

section
variable {closes : Text → Option Text} {s inside rest : Text} (hc : Stable closes)
include hc

theorem Stable.unclosed_nil : Unclosed closes [] := by
  intro u hu
  rw [List.suffix_nil.mp hu]
  exact hc.nil

/-- Where a text goes on without ending, a part of it did not end either. -/
theorem Stable.eq_none_of_append {u v : Text} (h : closes (u ++ v) = none) : closes u = none := by
  cases hu : closes u with
  | none => rfl
  | some rest =>
    rw [hc.append v hu] at h
    cases h

/-- What is found before the first end has none. -/
theorem unclosed_of_until? (h : until? closes s = some (inside, rest)) :
    Unclosed closes inside := by
  -- What was found is a part of the text, and what it ends in is found in the text as well.
  suffices hpart : ∃ w, s = inside ++ w ∧ Unclosed closes inside from hpart.choose_spec.2
  induction s generalizing inside with
  | nil => cases h
  | cons c cs ih =>
    rw [until?] at h
    cases hhere : closes (c :: cs) with
    | some r =>
      rw [hhere] at h
      obtain ⟨rfl, rfl⟩ := Prod.mk.inj (Option.some.inj h)
      exact ⟨c :: cs, rfl, hc.unclosed_nil⟩
    | none =>
      rw [hhere] at h
      obtain ⟨⟨inside', rest'⟩, hlater, he⟩ := Option.map_eq_some_iff.mp h
      obtain ⟨rfl, rfl⟩ := Prod.mk.inj he
      obtain ⟨w, rfl, hunclosed⟩ := ih hlater
      exact ⟨w, rfl, unclosed_cons.mpr ⟨hc.eq_none_of_append hhere, hunclosed⟩⟩

end

section
variable {closes : Text → Option Text} {mark s : Text} (hc : Closer closes mark)
include hc

/-- In front of a text may stand what begins no end. -/
theorem Unclosed.append_left {p : Text} (hp : p.any endStarts.contains = false)
    (h : Unclosed closes s) : Unclosed closes (p ++ s) := by
  induction p with
  | nil => exact h
  | cons c p ih =>
    rw [List.any_cons, Bool.or_eq_false_iff] at hp
    have hstart : c ∉ endStarts := fun hmem => by
      rw [List.contains_iff_mem.mpr hmem] at hp
      cases hp.1
    exact unclosed_cons.mpr ⟨hc.start _ hstart, ih hp.2⟩

/-- A text without an end is read up to the end that follows it. -/
theorem until?_unclosed (h : Unclosed closes s) (rest : Text) :
    until? closes (s ++ (mark ++ rest)) = some (s, rest) := by
  induction s with
  | nil =>
    rw [List.nil_append]
    have hmark := hc.atMark rest
    cases hm : mark ++ rest with
    | nil =>
      rw [hm, hc.nil] at hmark
      cases hmark
    | cons c cs =>
      rw [hm] at hmark
      rw [until?, hmark]
  | cons c s ih =>
    obtain ⟨hhere, hlater⟩ := unclosed_cons.mp h
    have hgo := hc.beforeMark rest (List.cons_ne_nil c s) hhere
    rw [List.cons_append] at hgo ⊢
    rw [until?, hgo, ih hlater]
    rfl

end

/-! ## Blanks before the last character of an end -/

theorem dropWhile_append_cons {p : Char → Bool} {c : Char} (hc : p c = false) (s t : Text) :
    (s ++ c :: t).dropWhile p = s.dropWhile p ++ c :: t := by
  rw [List.dropWhile_append]
  split
  · rename_i h
    rw [List.isEmpty_iff.mp h, List.dropWhile_cons_of_neg (by rw [hc]; exact Bool.false_ne_true)]
    rfl
  · rfl

theorem dropWhile_append_of_cons {p : Char → Bool} {c : Char} {s r : Text}
    (h : s.dropWhile p = c :: r) (t : Text) : (s ++ t).dropWhile p = c :: (r ++ t) := by
  rw [List.dropWhile_append, h]
  rfl

/-- Where a character is looked for behind blanks, another one in the way is not passed. -/
theorem exists_of_dropWhile_append {p : Char → Bool} {c d : Char} {s t r : Text}
    (hd : p d = false) (hne : c ≠ d) (h : (s ++ d :: t).dropWhile p = c :: r) :
    ∃ r', s.dropWhile p = c :: r' := by
  rw [dropWhile_append_cons hd] at h
  cases hs : s.dropWhile p with
  | nil =>
    rw [hs] at h
    exact absurd (List.cons.inj h).1.symm hne
  | cons e r' =>
    rw [hs] at h
    obtain ⟨rfl, -⟩ := List.cons.inj h
    exact ⟨r', rfl⟩

/-! ## Comments -/

theorem commentEnd?_eq_some_iff {s rest : Text} : commentEnd? s = some rest ↔
    ∃ r, s = '-' :: '-' :: r ∧ r.dropWhile isBlank = '>' :: rest := by
  constructor
  · intro h
    unfold commentEnd? at h
    split at h
    · rename_i r
      split at h
      · rename_i rest' hr
        obtain rfl := Option.some.inj h
        exact ⟨r, rfl, hr⟩
      · cases h
    · cases h
  · rintro ⟨r, rfl, hr⟩
    rw [commentEnd?, hr]
    rfl

/-- A comment is not ended with the help of a character that is neither blank nor `>` but for
hyphens, of which an end needs two. -/
theorem commentEnd?_append_eq_none {u s : Text} {d : Char} (hblank : isBlank d = false)
    (hd : d ≠ '>') (hu : d = '-' → ∃ e t, s = e :: t ∧ e ≠ '>' ∧ isBlank e = false ∧ u ≠ [])
    (h : commentEnd? u = none) : commentEnd? (u ++ d :: s) = none := by
  rw [Option.eq_none_iff_forall_ne_some]
  intro rest hrest
  obtain ⟨r, he, hr⟩ := commentEnd?_eq_some_iff.mp hrest
  match u with
  | [] =>
    obtain ⟨hd', -⟩ := List.cons.inj he
    obtain ⟨-, -, -, -, -, hne⟩ := hu hd'
    exact hne rfl
  | [c] =>
    obtain ⟨-, htail⟩ := List.cons.inj he
    obtain ⟨hd', rfl⟩ := List.cons.inj htail
    obtain ⟨e, t, rfl, hne, hblank', -⟩ := hu hd'
    rw [List.dropWhile_cons_of_neg (by rw [hblank']; exact Bool.false_ne_true)] at hr
    exact hne (List.cons.inj hr).1
  | c :: c' :: u =>
    obtain ⟨rfl, htail⟩ := List.cons.inj he
    obtain ⟨rfl, rfl⟩ := List.cons.inj htail
    obtain ⟨r', hr'⟩ := exists_of_dropWhile_append hblank (Ne.symm hd) hr
    rw [commentEnd?_eq_some_iff.mpr ⟨u, rfl, hr'⟩] at h
    cases h

theorem closer_comment : Closer commentEnd? "-->".toList where
  nil := rfl
  start := by
    intro c s hc
    rw [Option.eq_none_iff_forall_ne_some]
    intro rest hrest
    obtain ⟨r, he, -⟩ := commentEnd?_eq_some_iff.mp hrest
    obtain ⟨rfl, -⟩ := List.cons.inj he
    exact hc (by decide)
  append := by
    intro s rest t h
    obtain ⟨r, rfl, hr⟩ := commentEnd?_eq_some_iff.mp h
    exact commentEnd?_eq_some_iff.mpr ⟨r ++ t, rfl, dropWhile_append_of_cons hr t⟩
  atMark := fun s => rfl
  beforeMark := fun s hne h => commentEnd?_append_eq_none (by decide) (by decide)
    (fun _ => ⟨'-', '>' :: s, rfl, by decide, by decide, hne⟩) h
  beforeBackslash := fun s h => commentEnd?_append_eq_none (by decide) (by decide)
    (fun hd => absurd hd (by decide)) h

/-- A comment ends with `>`. -/
theorem unclosed_comment_of_not_mem {s : Text} (h : '>' ∉ s) : Unclosed commentEnd? s := by
  intro u hu
  rw [Option.eq_none_iff_forall_ne_some]
  intro rest hrest
  obtain ⟨r, rfl, hr⟩ := commentEnd?_eq_some_iff.mp hrest
  have hmem : '>' ∈ r := (List.dropWhile_suffix isBlank).mem (hr ▸ List.mem_cons_self)
  exact h (hu.mem (List.mem_cons_of_mem _ (List.mem_cons_of_mem _ hmem)))

/-! ## Sections -/

theorem sectionEnd?_eq_some_iff {s rest : Text} : sectionEnd? s = some rest ↔
    ∃ r q, s = ']' :: r ∧ r.dropWhile isBlank = ']' :: q ∧ q.dropWhile isBlank = '>' :: rest := by
  constructor
  · intro h
    unfold sectionEnd? at h
    split at h
    · rename_i r
      split at h
      · rename_i q hr
        split at h
        · rename_i rest' hq
          obtain rfl := Option.some.inj h
          exact ⟨r, q, rfl, hr, hq⟩
        · cases h
      · cases h
    · cases h
  · rintro ⟨r, q, rfl, hr, hq⟩
    unfold sectionEnd?
    simp only [hr, hq]

/-- The same of sections, which need two brackets to end. -/
theorem sectionEnd?_append_eq_none {u s : Text} {d : Char} (hblank : isBlank d = false)
    (hd : d ≠ '>') (hu : d = ']' → ∃ e t, s = e :: t ∧ e ≠ '>' ∧ isBlank e = false ∧ u ≠ [])
    (h : sectionEnd? u = none) : sectionEnd? (u ++ d :: s) = none := by
  rw [Option.eq_none_iff_forall_ne_some]
  intro rest hrest
  obtain ⟨r, q, he, hr, hq⟩ := sectionEnd?_eq_some_iff.mp hrest
  cases u with
  | nil =>
    obtain ⟨-, -, -, -, -, hne⟩ := hu (List.cons.inj he).1
    exact hne rfl
  | cons c u =>
    obtain ⟨rfl, hr'⟩ := List.cons.inj he
    obtain rfl : r = u ++ d :: s := hr'.symm
    rw [dropWhile_append_cons hblank] at hr
    cases hv : u.dropWhile isBlank with
    | nil =>
      -- The character would have to be the second bracket.
      rw [hv] at hr
      obtain ⟨hd', rfl⟩ := List.cons.inj hr
      obtain ⟨e, t, rfl, hne, hblank', -⟩ := hu hd'
      rw [List.dropWhile_cons_of_neg (by rw [hblank']; exact Bool.false_ne_true)] at hq
      exact hne (List.cons.inj hq).1
    | cons c' v =>
      rw [hv] at hr
      obtain ⟨rfl, hq'⟩ := List.cons.inj hr
      obtain rfl : q = v ++ d :: s := hq'.symm
      obtain ⟨rest', hrest'⟩ := exists_of_dropWhile_append hblank (Ne.symm hd) hq
      rw [sectionEnd?_eq_some_iff.mpr ⟨u, v, rfl, hv, hrest'⟩] at h
      cases h

theorem closer_section : Closer sectionEnd? "]]>".toList where
  nil := rfl
  start := by
    intro c s hc
    rw [Option.eq_none_iff_forall_ne_some]
    intro rest hrest
    obtain ⟨r, q, he, -, -⟩ := sectionEnd?_eq_some_iff.mp hrest
    obtain ⟨rfl, -⟩ := List.cons.inj he
    exact hc (by decide)
  append := by
    intro s rest t h
    obtain ⟨r, q, rfl, hr, hq⟩ := sectionEnd?_eq_some_iff.mp h
    exact sectionEnd?_eq_some_iff.mpr
      ⟨r ++ t, q ++ t, rfl, dropWhile_append_of_cons hr t, dropWhile_append_of_cons hq t⟩
  atMark := fun s => rfl
  beforeMark := fun s hne h => sectionEnd?_append_eq_none (by decide) (by decide)
    (fun _ => ⟨']', '>' :: s, rfl, by decide, by decide, hne⟩) h
  beforeBackslash := fun s h => sectionEnd?_append_eq_none (by decide) (by decide)
    (fun hd => absurd hd (by decide)) h

/-! ## Conditions -/

theorem conditionEnd?_eq_some_iff {s rest : Text} : conditionEnd? s = some rest ↔
    ∃ r, s = ']' :: r ∧ r.dropWhile isBlank = '>' :: rest := by
  constructor
  · intro h
    unfold conditionEnd? at h
    split at h
    · rename_i r
      split at h
      · rename_i rest' hr
        obtain rfl := Option.some.inj h
        exact ⟨r, rfl, hr⟩
      · cases h
    · cases h
  · rintro ⟨r, rfl, hr⟩
    rw [conditionEnd?, hr]
    rfl

theorem stable_condition : Stable conditionEnd? where
  nil := rfl
  append := by
    intro s rest t h
    obtain ⟨r, rfl, hr⟩ := conditionEnd?_eq_some_iff.mp h
    exact conditionEnd?_eq_some_iff.mpr ⟨r ++ t, rfl, dropWhile_append_of_cons hr t⟩

/-- The end of a section ends like that of a condition. -/
theorem Unclosed.section_of_condition {s : Text} (h : Unclosed conditionEnd? s) :
    Unclosed sectionEnd? s := by
  intro u hu
  rw [Option.eq_none_iff_forall_ne_some]
  intro rest hrest
  obtain ⟨r, q, rfl, hr, hq⟩ := sectionEnd?_eq_some_iff.mp hrest
  have hlast : ']' :: q <:+ s :=
    (hr ▸ List.dropWhile_suffix isBlank).trans ((List.suffix_cons _ r).trans hu)
  have hnone := h _ hlast
  rw [conditionEnd?_eq_some_iff.mpr ⟨q, rfl, hq⟩] at hnone
  cases hnone

/-! ## Elements with raw content -/

theorem rawEnd?_eq_some_iff {name s rest : Text} : rawEnd? name s = some rest ↔
    ∃ r, s = '<' :: '/' :: r ∧ Text.lower ((r.dropWhile isBlank).take name.length) = name ∧
      ((r.dropWhile isBlank).drop name.length).dropWhile isBlank = '>' :: rest := by
  constructor
  · intro h
    unfold rawEnd? at h
    split at h
    · unfold afterRawEnd? at h
      split at h
      · rename_i r
        dsimp only at h
        split at h
        · rename_i hname
          split at h
          · rename_i rest' hr
            obtain rfl := Option.some.inj h
            exact ⟨r, rfl, hname, hr⟩
          · cases h
        · cases h
      · cases h
    · cases h
  · rintro ⟨r, rfl, hname, hr⟩
    rw [rawEnd?, afterRawEnd?, if_pos hname, hr]
    rfl

/-- Reading raw content is looking for the end tag. -/
theorem rawContent?_eq_until? (name s : Text) : rawContent? name s = until? (rawEnd? name) s := by
  induction s with
  | nil => rfl
  | cons c cs ih =>
    have hhere : (if c = '<' then afterRawEnd? name cs else none) = rawEnd? name (c :: cs) := by
      split
      · rename_i hc
        rw [hc]
        rfl
      · rename_i hc
        rw [rawEnd?]
        exact fun _ h => hc (List.cons.inj h).1
    rw [rawContent?, until?, hhere, ih]

/-- An end tag does not reach over a character that is in no name of an element with raw
content. -/
theorem rawEnd?_append_eq_none {name u s : Text} {d : Char} (hblank : isBlank d = false)
    (hmore : d ≠ '>') (hslash : d ≠ '/') (hsmall : d.toLower = d) (hname : d ∉ name)
    (hu : d = '<' → u ≠ []) (h : rawEnd? name u = none) : rawEnd? name (u ++ d :: s) = none := by
  rw [Option.eq_none_iff_forall_ne_some]
  intro rest hrest
  obtain ⟨r, he, hlower, hr⟩ := rawEnd?_eq_some_iff.mp hrest
  match u with
  | [] => exact hu (List.cons.inj he).1 rfl
  | [c] => exact hslash (List.cons.inj (List.cons.inj he).2).1
  | c :: c' :: u =>
    obtain ⟨rfl, htail⟩ := List.cons.inj he
    obtain ⟨rfl, hr'⟩ := List.cons.inj htail
    obtain rfl : r = u ++ d :: s := hr'.symm
    rw [dropWhile_append_cons hblank] at hlower hr
    -- The name was read before the character, or the character would be in it.
    have hlength : name.length ≤ (u.dropWhile isBlank).length := by
      refine Nat.not_lt.mp fun hlt => hname ?_
      have hmem : d ∈ (u.dropWhile isBlank ++ d :: s).take name.length := by
        rw [List.take_append]
        refine List.mem_append_right _ ?_
        obtain ⟨n, hn⟩ := Nat.exists_eq_add_of_lt hlt
        rw [hn, Nat.add_assoc, Nat.add_sub_cancel_left]
        exact List.mem_cons_self
      rw [← hlower, Text.lower]
      exact List.mem_map.mpr ⟨d, hmem, hsmall⟩
    rw [List.take_append_of_le_length hlength] at hlower
    rw [List.drop_append_of_le_length hlength] at hr
    obtain ⟨rest', hrest'⟩ := exists_of_dropWhile_append hblank (Ne.symm hmore) hr
    rw [rawEnd?_eq_some_iff.mpr ⟨u, rfl, hlower, hrest'⟩] at h
    cases h

/-- The elements with raw content. -/
theorem eq_of_raw {name : Text} (h : rawElements.contains name = true) :
    name = "script".toList ∨ name = "style".toList := by
  simpa [rawElements] using h

theorem closer_raw {name : Text} (hname : rawElements.contains name = true) :
    Closer (rawEnd? name) ("</".toList ++ name ++ ['>']) where
  nil := rfl
  start := by
    intro c s hc
    rw [Option.eq_none_iff_forall_ne_some]
    intro rest hrest
    obtain ⟨r, he, -, -⟩ := rawEnd?_eq_some_iff.mp hrest
    obtain ⟨rfl, -⟩ := List.cons.inj he
    exact hc (by decide)
  append := by
    intro s rest t h
    obtain ⟨r, rfl, hlower, hr⟩ := rawEnd?_eq_some_iff.mp h
    -- The name is not the last thing that was read.
    have hlength : name.length < (r.dropWhile isBlank).length := by
      refine Nat.not_le.mp fun hle => ?_
      rw [List.drop_eq_nil_of_le hle] at hr
      cases hr
    have happend : (r ++ t).dropWhile isBlank = r.dropWhile isBlank ++ t := by
      rw [List.dropWhile_append, if_neg]
      rw [List.isEmpty_iff]
      intro hnil
      rw [hnil] at hlength
      exact Nat.not_lt_zero _ hlength
    refine rawEnd?_eq_some_iff.mpr ⟨r ++ t, rfl, ?_, ?_⟩
    · rw [happend, List.take_append_of_le_length (Nat.le_of_lt hlength)]
      exact hlower
    · rw [happend, List.drop_append_of_le_length (Nat.le_of_lt hlength)]
      exact dropWhile_append_of_cons hr t
  atMark := by
    intro s
    rcases eq_of_raw hname with rfl | rfl
    · rfl
    · rfl
  beforeMark := by
    intro u s hne h
    have hless : '<' ∉ name := by
      rcases eq_of_raw hname with rfl | rfl
      · decide
      · decide
    exact rawEnd?_append_eq_none (by decide) (by decide) (by decide) (by decide) hless
      (fun _ => hne) h
  beforeBackslash := by
    intro u s h
    have hbackslash : '\\' ∉ name := by
      rcases eq_of_raw hname with rfl | rfl
      · decide
      · decide
    exact rawEnd?_append_eq_none (by decide) (by decide) (by decide) (by decide) hbackslash
      (fun hd => absurd hd (by decide)) h

end TestScribe.Markup
