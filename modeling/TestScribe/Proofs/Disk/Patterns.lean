import TestScribe.Disk.Glob
import TestScribe.Proofs.Disk.Files
import TestScribe.Proofs.Disk.Listing

/-!
# Files with an ending

A pattern of a star and a plain ending stands for the names with this ending
(`matches_star_iff`). What it finds in a directory is therefore what the directory lists
under such names:

> `find_star`: below a directory the pattern finds the listed names with the ending, in the
> order of the list.

Files with other names can come and go in the directory without any effect on this
(`listed_putFiles`).
-/

namespace TestScribe.Glob

/-! ## Plain endings -/

/-- The ending holds nothing that means something in a pattern. -/
def IsPlain (s : Text) : Prop := '*' ∉ s ∧ '?' ∉ s ∧ '[' ∉ s ∧ '/' ∉ s

instance (s : Text) : Decidable (IsPlain s) :=
  inferInstanceAs (Decidable ('*' ∉ s ∧ '?' ∉ s ∧ '[' ∉ s ∧ '/' ∉ s))

/-- The pattern of a star and an ending. -/
def starPattern (ending : Text) : Pattern := ⟨[.wild (.many :: ending.map .char)], false⟩

theorem glyphs_of_isPlain {s : Text} (h : IsPlain s) : glyphs s = s.map .char := by
  induction s with
  | nil =>
    rw [glyphs]
    rfl
  | cons c s ih =>
    obtain ⟨hstar, hone, hset, hslash⟩ := h
    have ih' := ih ⟨fun h => hstar (List.mem_cons_of_mem _ h),
      fun h => hone (List.mem_cons_of_mem _ h), fun h => hset (List.mem_cons_of_mem _ h),
      fun h => hslash (List.mem_cons_of_mem _ h)⟩
    have hc : c ≠ '*' := fun hc => hstar (hc ▸ List.mem_cons_self)
    have hc' : c ≠ '?' := fun hc => hone (hc ▸ List.mem_cons_self)
    have hc'' : c ≠ '[' := fun hc => hset (hc ▸ List.mem_cons_self)
    rw [glyphs, if_neg hc, if_neg hc', if_neg hc'', ih']
    rfl

theorem holdsDoubleStar_of_not_mem {s : Text} (h : '*' ∉ s) : holdsDoubleStar s = false := by
  induction s with
  | nil => rfl
  | cons c s ih =>
    have hc : c ≠ '*' := fun hc => h (hc ▸ List.mem_cons_self)
    rw [holdsDoubleStar]
    · exact ih fun hs => h (List.mem_cons_of_mem _ hs)
    · exact fun _ hc' _ => hc hc'

/-- A star, a point and a plain extension make a pattern of their own. -/
theorem pattern_star {ext : Text} (h : IsPlain ext) :
    pattern ("*.".toList ++ ext) = .ok (starPattern ('.' :: ext)) := by
  have hmark : "*.".toList = ['*', '.'] := rfl
  have hslash : '/' ∉ '*' :: '.' :: ext := by
    simp [h.2.2.2]
  have hending : IsPlain ('.' :: ext) := by
    simpa [IsPlain] using h
  have hpath : Path.ofText ('*' :: '.' :: ext) = ⟨.here, ['*' :: '.' :: ext]⟩ := by
    rw [Path.ofText, Path.namesOf, Text.splitAt_of_not_mem hslash]
    rfl
  have hlast : ('*' :: '.' :: ext).getLast? ≠ some '/' := fun hl =>
    hslash (List.mem_of_getLast? hl)
  have hsegment : segment ('*' :: '.' :: ext) = .ok (.wild (.many :: ('.' :: ext).map .char)) := by
    have hdouble : holdsDoubleStar ('*' :: '.' :: ext) = false := by
      rw [holdsDoubleStar]
      · exact holdsDoubleStar_of_not_mem hending.1
      · exact fun _ _ hc => absurd (List.cons.inj hc).1 (by decide)
    have hglyphs : glyphs ('*' :: '.' :: ext) = .many :: ('.' :: ext).map .char := by
      rw [glyphs, if_pos rfl, glyphs_of_isPlain hending]
    rw [segment, if_neg (by simp), hdouble, hglyphs]
    rfl
  rw [hmark]
  show pattern ('*' :: '.' :: ext) = _
  have hnames : ['*' :: '.' :: ext].mapM segment =
      .ok [.wild (.many :: ('.' :: ext).map .char)] := by
    rw [List.mapM_cons, hsegment]
    rfl
  rw [pattern, hpath]
  dsimp only
  rw [if_neg (List.cons_ne_nil _ _), if_neg (not_not_intro rfl), if_neg (List.cons_ne_nil _ _),
    hnames, decide_eq_false hlast]
  rfl

/-! ## Names that fit -/

theorem matches_chars (t s : Text) : «matches» (t.map .char) s = true ↔ s = t := by
  induction t generalizing s with
  | nil => cases s <;> simp [«matches»]
  | cons c t ih =>
    cases s with
    | nil => simp [«matches»]
    | cons d s =>
      rw [List.map_cons, «matches»]
      · simp [ih, Glyph.accepts]
      · exact nofun

theorem anyRest_iff {p : Text → Bool} {s : Text} :
    anyRest p s = true ↔ ∃ t, t <:+ s ∧ p t = true := by
  induction s with
  | nil => simp [anyRest]
  | cons c s ih =>
    rw [anyRest, Bool.or_eq_true, ih]
    constructor
    · rintro (h | ⟨t, ht, h⟩)
      · exact ⟨c :: s, List.suffix_rfl, h⟩
      · exact ⟨t, ht.trans (List.suffix_cons c s), h⟩
    · rintro ⟨t, ht, h⟩
      rcases List.suffix_cons_iff.mp ht with rfl | ht
      · exact .inl h
      · exact .inr ⟨t, ht, h⟩

/-- The names that fit are those with the ending. -/
theorem matches_star_iff (ending name : Text) :
    «matches» (.many :: ending.map .char) name = true ↔ ending <:+ name := by
  rw [«matches», anyRest_iff]
  constructor
  · rintro ⟨t, ht, h⟩
    exact (matches_chars ending t).mp h ▸ ht
  · exact fun h => ⟨ending, h, (matches_chars ending ending).mpr rfl⟩

/-! ## Finding them -/

section
variable {d : Disk} {here place : Place} {base : Path}

/-- The names with an ending that a directory lists, with what they are. -/
def listed (d : Disk) (place : Place) (ending : Text) : List (Text × Entry) :=
  (d.listing place).filter fun e => ending.isSuffixOf e.1

/-- Below a directory the pattern finds the listed names with the ending. -/
theorem find_star (hplace : d.resolve here base = .ok place)
    (hdir : d.at? place = some .directory) (ending : Text) :
    find d here base (starPattern ending) =
      .ok ((listed d place ending).map fun e => base.child e.1) := by
  have hthere : d.isDirectory here base = .ok true :=
    Disk.isDirectory_eq_true_iff.mpr ⟨place, hplace, hdir⟩
  -- Nothing follows the name in the pattern, so files will do as well as directories.
  have hfits : ∀ e : Text × Entry, («matches» (.many :: ending.map .char) e.1 &&
      (decide (e.2 = .directory) || ([] : List Segment).isEmpty && !false)) =
        ending.isSuffixOf e.1 := by
    intro e
    rw [List.isEmpty_nil, Bool.not_false, Bool.and_true, Bool.or_true, Bool.and_true,
      Bool.eq_iff_iff, matches_star_iff, List.isSuffixOf_iff_suffix]
  have hpaths : ∀ es : List (Text × Entry),
      (es.mapM fun e => select d here false (base.child e.1) []).map List.flatten =
        .ok (es.map fun e => base.child e.1) := by
    intro es
    induction es with
    | nil => rfl
    | cons e es ih =>
      rw [List.mapM_cons, select]
      cases hm : es.mapM fun e => select d here false (base.child e.1) [] with
      | error x =>
        rw [hm] at ih
        cases ih
      | ok ps =>
        rw [hm] at ih
        show Except.ok (base.child e.1 :: ps.flatten) = _
        rw [Except.ok.inj ih]
        rfl
  rw [find, hthere]
  dsimp only [starPattern]
  rw [select, hplace]
  dsimp only
  simp only [hfits]
  exact hpaths _

/-! ## Files that do not fit -/

theorem listed_put {p : Place} {ending : Text} (h : ∀ n above, p = n :: above → ¬ ending <:+ n)
    (e : Entry) : listed (d.put p e) place ending = listed d place ending := by
  -- An entry at the place is not among the listed ones.
  have hnone : ∀ e : Entry, ∀ es : Disk,
      listed ((p, e) :: es) place ending = listed es place ending := by
    intro e es
    unfold listed Disk.listing
    rw [List.filterMap_cons]
    cases hp : p with
    | nil => rfl
    | cons n above =>
      have hn : ending.isSuffixOf n = false := by
        rw [Bool.eq_false_iff, Ne, List.isSuffixOf_iff_suffix]
        exact h n above hp
      dsimp only
      split
      · rfl
      · rename_i x hx
        split at hx
        · cases hx
          rw [List.filter_cons_of_neg (by simp [hn])]
        · cases hx
  induction d with
  | nil => exact hnone e []
  | cons x xs ih =>
    rw [Disk.put]
    split
    · rename_i hx
      obtain ⟨q, e'⟩ := x
      obtain rfl : q = p := hx
      rw [hnone, hnone]
    · unfold listed Disk.listing at ih ⊢
      rw [List.filterMap_cons, List.filterMap_cons]
      split
      · exact ih
      · rw [List.filter_cons, List.filter_cons, ih]

/-- Files whose names do not have the ending make no difference. -/
theorem listed_putFiles {ending : Text} (fs : List PlacedFile)
    (h : ∀ f ∈ fs, ∀ n above, f.place = n :: above → ¬ ending <:+ n) :
    listed (d.putFiles fs) place ending = listed d place ending := by
  induction fs generalizing d with
  | nil => rfl
  | cons f fs ih =>
    rw [Disk.putFiles_cons, ih fun g hg => h g (List.mem_cons_of_mem _ hg),
      listed_put (h f List.mem_cons_self)]

theorem mem_listed {ending n : Text} {e : Entry} :
    (n, e) ∈ listed d place ending ↔ (n :: place, e) ∈ d ∧ ending <:+ n := by
  rw [listed, List.mem_filter, Disk.mem_listing, List.isSuffixOf_iff_suffix]

end

end TestScribe.Glob
