import TestScribe.Proofs.Dictionary
import TestScribe.Settings.Store

/-!
# Setting a value

Setting a value walks along its keys and adds the objects that are missing as it goes, before
it knows whether it will get to the end. That this never leaves anything behind has a simple
reason: where one object had to be added there is nothing further on that could be in the way
(`update_empty`), so whatever ends the walk stands in the part that was there before.

All laws come from what one key does. Either the first key of a walk leads into the entries of an
object, there or still to come, and the walk goes on in them (`update_inside`), or a value is in
the way and nothing happens (`update_inTheWay`); `walk_induction` follows these steps, and
`apart_induction` follows two walks as long as their keys are the same. Seen from outside, a walk
reads and writes nothing but the entry of its first key (`update_cases`).

> `set_framed`: a value is not set exactly if a value that is no object stands on the way to it,
> and the store is then what it was; once it is set it is read back in the kind of the old one,
> and every setting whose name is neither a beginning of this name nor continues it reads as before.
-/

namespace TestScribe.Settings

variable {es fs sub : Dictionary Json.Key Json} {k key : Text} {ks qs : List Text}
  {value v : Json}

/-! ## One key -/

theorem entries?_eq_some_iff : v.entries? = some es ↔ v = .obj es := by
  cases v with
  | obj fs => exact ⟨fun h => congrArg Json.obj (Option.some.inj h), fun h => by cases h; rfl⟩
  | _ => exact ⟨nofun, nofun⟩

/-- The entries that a key leads into: those of the object under it, and none where nothing
stands under it yet. No entries at all where another value is in the way. -/
def inside? (es : Dictionary Json.Key Json) (k : Text) : Option (Dictionary Json.Key Json) :=
  match es.get? (.text k) with
  | none => some []
  | some v => v.entries?

/-- Either there is an object under the key, or nothing yet. -/
theorem get?_of_inside (h : inside? es k = some sub) :
    es.get? (.text k) = some (.obj sub) ∨ es.get? (.text k) = none ∧ sub = [] := by
  rw [inside?] at h
  cases hget : es.get? (.text k) with
  | none =>
    rw [hget] at h
    exact .inr ⟨rfl, (Option.some.inj h).symm⟩
  | some v =>
    rw [hget] at h
    rw [entries?_eq_some_iff.mp h]
    exact .inl rfl

theorem get?_of_inTheWay (h : inside? es k = none) :
    ∃ v, es.get? (.text k) = some v ∧ v.entries? = none := by
  rw [inside?] at h
  cases hget : es.get? (.text k) with
  | none =>
    rw [hget] at h
    cases h
  | some v =>
    rw [hget] at h
    exact ⟨v, rfl, h⟩

theorem inside?_set_self (es : Dictionary Json.Key Json) (k : Text)
    (sub : Dictionary Json.Key Json) :
    inside? (es.set (.text k) (.obj sub)) k = some sub := by
  rw [inside?, Dictionary.get?_set_self]
  rfl

/-- Induction along the keys of a walk, which stops at a value in the way and otherwise goes on in
the entries that its key leads into. -/
@[elab_as_elim]
theorem walk_induction {motive : Text → List Text → Dictionary Json.Key Json → Prop}
    (one : ∀ k es, motive k [] es)
    (inTheWay : ∀ k key ks es, inside? es k = none → motive k (key :: ks) es)
    (inside : ∀ k key ks es sub, inside? es k = some sub → motive key ks sub →
      motive k (key :: ks) es)
    (k : Text) (ks : List Text) (es : Dictionary Json.Key Json) : motive k ks es := by
  induction ks generalizing k es with
  | nil => exact one k es
  | cons key ks ih =>
    cases hin : inside? es k with
    | none => exact inTheWay k key ks es hin
    | some sub => exact inside k key ks es sub hin (ih key sub)

/-- Induction along the keys that two walks share, where neither list of keys begins the other: at
the latest before one of them ends they part. -/
@[elab_as_elim]
theorem apart_induction
    {motive : List Text → List Text → Dictionary Json.Key Json → Prop}
    (parted : ∀ k l ks ls es, k ≠ l → motive (k :: ks) (l :: ls) es)
    (inTheWay : ∀ k key key' ks ls es, inside? es k = none →
      motive (k :: key :: ks) (k :: key' :: ls) es)
    (inside : ∀ k key key' ks ls es sub, inside? es k = some sub →
      motive (key :: ks) (key' :: ls) sub → motive (k :: key :: ks) (k :: key' :: ls) es)
    {ks ls : List Text} (hks : ¬ ks <+: ls) (hls : ¬ ls <+: ks)
    (es : Dictionary Json.Key Json) : motive ks ls es := by
  induction ks generalizing ls es with
  | nil => exact absurd ls.nil_prefix hks
  | cons k ks ih =>
    cases ls with
    | nil => exact absurd List.nil_prefix hls
    | cons l ls =>
      by_cases hkey : k = l
      · subst hkey
        rw [List.prefix_cons_inj] at hks hls
        cases ks with
        | nil => exact absurd ls.nil_prefix hks
        | cons key ks =>
          cases ls with
          | nil => exact absurd List.nil_prefix hls
          | cons key' ls =>
            cases hin : inside? es k with
            | none => exact inTheWay k key key' ks ls es hin
            | some sub => exact inside k key key' ks ls es sub hin (ih hks hls sub)
      · exact parted k l ks ls es hkey

/-- The entry of another key is left alone. -/
theorem get?_set_other (hkey : key ≠ k) (es : Dictionary Json.Key Json) (v : Json) :
    (es.set (.text k) v).get? (.text key) = es.get? (.text key) := by
  have hne : ¬ (Json.Key.text key == Json.Key.text k) = true := by
    intro heq
    exact hkey (Json.Key.Identity.text.inj (eq_of_beq heq))
  rw [Dictionary.get?_set, if_neg hne]

/-! ## Looking up -/

theorem find?_one (es : Dictionary Json.Key Json) (k : Text) :
    find? (.obj es) [k] = es.get? (.text k) := by
  rw [find?]
  cases es.get? (.text k) <;> rfl

theorem find?_congr (h : fs.get? (.text k) = es.get? (.text k)) (ks : List Text) :
    find? (.obj fs) (k :: ks) = find? (.obj es) (k :: ks) := by
  rw [find?, find?, h]

theorem find?_inside (h : inside? es k = some sub) (key : Text) (ks : List Text) :
    find? (.obj es) (k :: key :: ks) = find? (.obj sub) (key :: ks) := by
  rw [find?]
  rcases get?_of_inside h with hget | ⟨hget, rfl⟩
  · rw [hget]
    rfl
  · rw [hget]
    rfl

theorem find?_of_entries (h : v.entries? = none) (k : Text) (ks : List Text) :
    find? v (k :: ks) = none := by
  cases v with
  | obj es => cases h
  | _ => rfl

theorem find?_inTheWay (h : inside? es k = none) (key : Text) (ks : List Text) :
    find? (.obj es) (k :: key :: ks) = none := by
  obtain ⟨v, hget, hv⟩ := get?_of_inTheWay h
  rw [find?, hget]
  exact find?_of_entries hv key ks

/-! ## The walk, key by key -/

theorem update_one (value : Json) (k : Text) (es : Dictionary Json.Key Json) :
    update value [k] es =
      if isBeyond ((es.get? (.text k)).getD .null) value then (.error .beyond, es)
      else (.ok true, es.set (.text k) (cast ((es.get? (.text k)).getD .null) value)) := rfl

/-- Whether the object under the key was there or is added, the walk goes on in its entries. -/
theorem update_inside (h : inside? es k = some sub) (value : Json) (key : Text)
    (ks : List Text) :
    update value (k :: key :: ks) es =
      ((update value (key :: ks) sub).1,
        es.set (.text k) (.obj (update value (key :: ks) sub).2)) := by
  rw [update]
  rcases get?_of_inside h with hget | ⟨hget, rfl⟩
  · rw [Dictionary.setDefault_of_get? hget, hget]
  · rw [Dictionary.setDefault_of_missing hget, Dictionary.get?_set_self]
    dsimp only
    rw [Dictionary.set_set]

theorem update_inTheWay (h : inside? es k = none) (value : Json) (key : Text)
    (ks : List Text) : update value (k :: key :: ks) es = (.ok false, es) := by
  obtain ⟨v, hget, hv⟩ := get?_of_inTheWay h
  rw [update, Dictionary.setDefault_of_get? hget, hget]
  cases v with
  | obj es => cases hv
  | _ => rfl

/-- Where nothing is, nothing is beyond it. -/
theorem isBeyond_null (value : Json) : isBeyond .null value = false := by
  cases value <;> rfl

/-- Where nothing is, nothing is in the way. -/
theorem update_empty (value : Json) (k : Text) (ks : List Text) :
    (update value (k :: ks) []).1 = .ok true := by
  induction ks generalizing k with
  | nil =>
    rw [update_one, Dictionary.get?_nil, Option.getD_none, isBeyond_null]
    rfl
  | cons key ks ih =>
    have hin : inside? [] k = some [] := rfl
    rw [update_inside hin]
    exact ih key

/-- A walk that does not get to its end leaves nothing behind. -/
theorem update_of_not_set (h : (update value ks es).1 ≠ .ok true) :
    (update value ks es).2 = es := by
  cases ks with
  | nil => rfl
  | cons k ks =>
    induction k, ks, es using walk_induction with
    | one k es =>
      rw [update_one] at h ⊢
      split
      · rfl
      · rename_i hbeyond
        rw [if_neg hbeyond] at h
        exact absurd rfl h
    | inTheWay k key ks es hin => rw [update_inTheWay hin]
    | inside k key ks es sub hin ih =>
      rw [update_inside hin] at h ⊢
      rcases get?_of_inside hin with hget | ⟨-, rfl⟩
      · -- The object was there, and by induction nothing changed inside it.
        rw [ih h]
        exact Dictionary.set_of_get? hget
      · exact absurd (update_empty value key ks) h

/-- All that a walk reads and writes is the entry of its first key: among any entries with the
same value there it comes to the same end, and leaves them alone or sets this entry to the same
value. -/
theorem update_cases (value : Json) (k : Text) (ks : List Text)
    (es : Dictionary Json.Key Json) :
    (∃ r, r ≠ .ok true ∧ ∀ fs, fs.get? (.text k) = es.get? (.text k) →
      update value (k :: ks) fs = (r, fs)) ∨
    (∃ x, ∀ fs, fs.get? (.text k) = es.get? (.text k) →
      update value (k :: ks) fs = (.ok true, fs.set (.text k) x)) := by
  cases ks with
  | nil =>
    by_cases hbeyond : isBeyond ((es.get? (.text k)).getD .null) value = true
    · refine .inl ⟨.error .beyond, nofun, fun fs hfs => ?_⟩
      rw [update_one, hfs, if_pos hbeyond]
    · refine .inr ⟨cast ((es.get? (.text k)).getD .null) value, fun fs hfs => ?_⟩
      rw [update_one, hfs, if_neg hbeyond]
  | cons key ks =>
    have hsame : ∀ fs, fs.get? (.text k) = es.get? (.text k) → inside? fs k = inside? es k :=
      fun fs hfs => by rw [inside?, inside?, hfs]
    cases hin : inside? es k with
    | none =>
      exact .inl ⟨.ok false, nofun, fun fs hfs => update_inTheWay ((hsame fs hfs).trans hin) _ _ _⟩
    | some sub =>
      have hupdate := fun fs hfs => update_inside ((hsame fs hfs).trans hin) value key ks
      by_cases hset : (update value (key :: ks) sub).1 = .ok true
      · refine .inr ⟨.obj (update value (key :: ks) sub).2, fun fs hfs => ?_⟩
        rw [hupdate fs hfs, hset]
      · refine .inl ⟨(update value (key :: ks) sub).1, hset, fun fs hfs => ?_⟩
        have hfirst := congrArg Prod.fst (hupdate fs hfs)
        have hkept := update_of_not_set (hfirst ▸ hset)
        exact Prod.ext hfirst hkept

/-! ## What is read afterwards -/

/-- A value that was set is read back in the kind of the one it replaced. -/
theorem find?_update_self (h : (update value (k :: ks) es).1 = .ok true) :
    find? (.obj (update value (k :: ks) es).2) (k :: ks) =
      some (cast ((find? (.obj es) (k :: ks)).getD .null) value) := by
  induction k, ks, es using walk_induction with
  | one k es =>
    rw [find?_one, find?_one]
    rw [update_one] at h ⊢
    split at h
    · cases h
    · rename_i hbeyond
      rw [if_neg hbeyond, Dictionary.get?_set_self]
  | inTheWay k key ks es hin =>
    rw [update_inTheWay hin] at h
    cases h
  | inside k key ks es sub hin ih =>
    rw [update_inside hin] at h ⊢
    rw [find?_inside (inside?_set_self es k _), find?_inside hin]
    exact ih h

/-- Keys of which neither list begins the other lead to what they led to. -/
theorem find?_update_other (hks : ¬ ks <+: qs) (hqs : ¬ qs <+: ks) :
    find? (.obj (update value ks es).2) qs = find? (.obj es) qs := by
  refine apart_induction (fun k q ks qs es hkey => ?_) (fun k key key' ks qs es hin => ?_)
    (fun k key key' ks qs es sub hin ih => ?_) hks hqs es
  · rcases update_cases value k ks es with ⟨r, -, hupdate⟩ | ⟨x, hupdate⟩
    · rw [hupdate es rfl]
    · rw [hupdate es rfl]
      exact find?_congr (get?_set_other (Ne.symm hkey) es x) qs
  · rw [update_inTheWay hin]
  · rw [update_inside hin, find?_inside (inside?_set_self es k _), find?_inside hin]
    exact ih

/-! ## How it ends -/

/-- A value that is no object stands on the way, before the last key. -/
def InTheWay (store : Store) (ks : List Text) : Prop :=
  ∃ p v, p <+: ks ∧ p ≠ ks ∧ find? store p = some v ∧ v.entries? = none

theorem inTheWay_inside (h : inside? es k = some sub) :
    InTheWay (.obj es) (k :: key :: ks) ↔ InTheWay (.obj sub) (key :: ks) := by
  constructor
  · rintro ⟨p, v, hp, hne, hfind, hv⟩
    cases p with
    | nil =>
      rw [← Option.some.inj hfind] at hv
      cases hv
    | cons k' p =>
      obtain ⟨rfl, htail⟩ := List.cons_prefix_cons.mp hp
      cases p with
      | nil =>
        -- The value under the first key would itself be in the way.
        rw [find?_one] at hfind
        rw [inside?, hfind] at h
        exact absurd (h.symm.trans hv) nofun
      | cons key' p =>
        rw [find?_inside h] at hfind
        exact ⟨key' :: p, v, htail, fun he => hne (by rw [he]), hfind, hv⟩
  · rintro ⟨p, v, hp, hne, hfind, hv⟩
    cases p with
    | nil =>
      rw [← Option.some.inj hfind] at hv
      cases hv
    | cons key' p =>
      exact ⟨k :: key' :: p, v, List.cons_prefix_cons.mpr ⟨rfl, hp⟩,
        fun he => hne (List.cons.inj he).2, (find?_inside h key' p).trans hfind, hv⟩

theorem update_eq_false_iff :
    (update value (k :: ks) es).1 = .ok false ↔ InTheWay (.obj es) (k :: ks) := by
  induction k, ks, es using walk_induction with
  | one k es =>
    constructor
    · intro h
      rw [update_one] at h
      split at h <;> cases h
    · rintro ⟨p, v, hp, hne, hfind, hv⟩
      obtain rfl : p = [] := by
        cases p with
        | nil => rfl
        | cons k' p =>
          obtain ⟨rfl, htail⟩ := List.cons_prefix_cons.mp hp
          rw [List.prefix_nil.mp htail] at hne
          exact absurd rfl hne
      rw [← Option.some.inj hfind] at hv
      cases hv
  | inTheWay k key ks es hin =>
    obtain ⟨v, hget, hv⟩ := get?_of_inTheWay hin
    rw [update_inTheWay hin]
    refine iff_of_true rfl ⟨[k], v, ⟨key :: ks, rfl⟩, nofun, ?_, hv⟩
    rw [find?_one, hget]
  | inside k key ks es sub hin ih => rw [update_inside hin, inTheWay_inside hin, ← ih]

theorem update_eq_error_iff {e : Breakdown} :
    (update value (k :: ks) es).1 = .error e ↔
      isBeyond ((find? (.obj es) (k :: ks)).getD .null) value = true ∧ e = .beyond := by
  induction k, ks, es using walk_induction with
  | one k es =>
    rw [update_one, find?_one]
    split
    · rename_i hbeyond
      exact ⟨fun h => ⟨hbeyond, (Except.error.inj h).symm⟩, fun h => by rw [h.2]⟩
    · rename_i hbeyond
      exact iff_of_false nofun fun h => hbeyond h.1
  | inTheWay k key ks es hin =>
    rw [update_inTheWay hin, find?_inTheWay hin, Option.getD_none, isBeyond_null]
    exact iff_of_false nofun nofun
  | inside k key ks es sub hin ih => rw [update_inside hin, find?_inside hin, ← ih]

/-! ## Settings by name -/

theorem exists_keysOf (name : Text) : ∃ k ks, keysOf name = k :: ks :=
  List.exists_cons_of_ne_nil (Text.splitAt_ne_nil '.' name)

/-- With null for the default a reading shows what is there, and null for what is missing. -/
theorem get_null (store : Store) (name : Text) :
    get store name .null = (find? store (keysOf name)).getD .null := by
  rw [get, orDefault]
  cases (find? store (keysOf name)).getD .null <;> rfl

/-- Setting a value is an update of one place. It fails exactly if a value that is no object
stands on the way, and whatever keeps it from succeeding leaves the store as it was. Once it
succeeds, the value is read in the kind of the one that it replaced, and settings apart from it
read as before. -/
theorem set_framed {name : Text} {r : Except Breakdown Bool} {after : Store}
    (h : set (.obj es) name value = (r, after)) :
    (r = .ok false ↔ InTheWay (.obj es) (keysOf name)) ∧
    (r ≠ .ok true → after = .obj es) ∧
    (r = .ok true →
      (∀ default, get after name default =
        orDefault (cast (get (.obj es) name .null) value) default) ∧
      ∀ other, ¬ keysOf name <+: keysOf other → ¬ keysOf other <+: keysOf name →
        ∀ default, get after other default = get (.obj es) other default) := by
  obtain ⟨k, ks, hkeys⟩ := exists_keysOf name
  obtain ⟨rfl, rfl⟩ := Prod.mk.inj h
  refine ⟨?_, fun hr => congrArg Json.obj (update_of_not_set hr), fun hr => ⟨?_, ?_⟩⟩
  · rw [hkeys]
    exact update_eq_false_iff
  · intro default
    rw [hkeys] at hr
    rw [get_null, get, hkeys, find?_update_self hr]
    rfl
  · intro other hname hother default
    rw [get, get, find?_update_other hname hother]

/-- A section with a number and a text. -/
def section₁ : Store :=
  .obj [(.text "run".toList,
    .obj [(.text "retries".toList, .int 1), (.text "suffix".toList, .str "Cest".toList)])]

/-- The same section with another number. -/
def section₂ : Store :=
  .obj [(.text "run".toList,
    .obj [(.text "retries".toList, .int 7), (.text "suffix".toList, .str "Cest".toList)])]

/-- The number is set by a text, and the text beside it stays; no setting can be made inside
of the text. -/
theorem set_framed_number :
    set section₁ "run.retries".toList (.str " 7".toList) = (.ok true, section₂) ∧
      get section₂ "run.retries".toList .null = .int 7 ∧
      ¬ keysOf "run.retries".toList <+: keysOf "run.suffix".toList ∧
      ¬ keysOf "run.suffix".toList <+: keysOf "run.retries".toList ∧
      get section₂ "run.suffix".toList .null = get section₁ "run.suffix".toList .null ∧
      set section₁ "run.suffix.long.form".toList (.int 7) = (.ok false, section₁) ∧
      InTheWay section₁ (keysOf "run.suffix.long.form".toList) := by
  have hset : set section₁ "run.retries".toList (.str " 7".toList) = (.ok true, section₂) := rfl
  have hfail : set section₁ "run.suffix.long.form".toList (.int 7) = (.ok false, section₁) := rfl
  have hname : ¬ keysOf "run.retries".toList <+: keysOf "run.suffix".toList := by decide
  have hother : ¬ keysOf "run.suffix".toList <+: keysOf "run.retries".toList := by decide
  obtain ⟨hread, hframe⟩ := (set_framed hset).2.2 rfl
  exact ⟨hset, hread .null, hname, hother, hframe _ hname hother .null, hfail,
    (set_framed hfail).1.mp rfl⟩

end TestScribe.Settings
