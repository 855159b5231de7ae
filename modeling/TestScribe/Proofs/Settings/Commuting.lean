import TestScribe.Proofs.Settings.Updating

/-!
# Settings apart from each other

Two settings are apart where neither name begins the other: their keys part at some object, and
below it the two walks have nothing in common. Above it they do have: both may add the same
objects. So it matters that the first walk to come adds nothing but what the other one would have
found missing and added as well, and the argument goes along the keys that are shared. Where the
keys part, each walk is about the entry of its own key (`update_cases`).

> `set_comm`: of two values for settings that are apart, each is set or refused as it would be
> without the other, and the store comes out the same whichever comes first.

The same means the same mapping (`SameMapping`): keys that are new in one object stand in the
order in which they came.
-/

namespace TestScribe

/-! ## Mappings -/

namespace Json

/-- The values are the same, except that objects may keep their entries in another order. -/
inductive SameMapping : Json → Json → Prop
  | same (v : Json) : SameMapping v v
  | entries {es fs : Dictionary Key Json}
      (h : ∀ key, Option.Rel SameMapping (es.get? key) (fs.get? key)) :
      SameMapping (.obj es) (.obj fs)

namespace SameMapping

variable {es fs : Dictionary Key Json}

theorem rel_self (v : Option Json) : Option.Rel SameMapping v v := by
  cases v with
  | none => exact .none
  | some v => exact .some (.same v)

theorem of_get? (h : ∀ key, es.get? key = fs.get? key) : SameMapping (.obj es) (.obj fs) :=
  .entries fun key => h key ▸ rel_self _

/-- Entries with the same keys are the same mapping if their values are. -/
theorem set {v w : Json} (h : SameMapping v w) (es : Dictionary Key Json) (key : Key) :
    SameMapping (.obj (es.set key v)) (.obj (es.set key w)) := by
  refine .entries fun other => ?_
  rw [Dictionary.get?_set, Dictionary.get?_set]
  split
  · exact .some h
  · exact rel_self _

end SameMapping
end Json

namespace Settings

/-! ## Two updates -/

variable {es : Dictionary Json.Key Json} {k l : Text} {ks ls : List Text} {v w : Json}

/-- Keys that part at once: each update is about an entry of its own. -/
theorem update_comm_of_ne (h : k ≠ l) (ks ls : List Text) (es : Dictionary Json.Key Json)
    (v w : Json) :
    (update w (l :: ls) (update v (k :: ks) es).2).1 = (update w (l :: ls) es).1 ∧
      Json.SameMapping (.obj (update w (l :: ls) (update v (k :: ks) es).2).2)
        (.obj (update v (k :: ks) (update w (l :: ls) es).2).2) := by
  rcases update_cases v k ks es with ⟨r, -, hv⟩ | ⟨x, hv⟩
  · rcases update_cases w l ls es with ⟨r', -, hw⟩ | ⟨y, hw⟩
    · rw [hv es rfl, hw es rfl, hv es rfl]
      exact ⟨rfl, .same _⟩
    · rw [hv es rfl, hw es rfl, hv _ (get?_set_other h es y)]
      exact ⟨rfl, .same _⟩
  · have hw' := get?_set_other (Ne.symm h) es x
    rcases update_cases w l ls es with ⟨r', -, hw⟩ | ⟨y, hw⟩
    · rw [hv es rfl, hw _ hw', hw es rfl, hv es rfl]
      exact ⟨rfl, .same _⟩
    · rw [hv es rfl, hw _ hw', hw es rfl, hv _ (get?_set_other h es y)]
      refine ⟨rfl, .of_get? fun key => ?_⟩
      -- No key counts as both texts.
      have hne : key == .text k → ¬ (key == .text l) = true := fun hk hl =>
        h (Json.Key.Identity.text.inj (eq_of_beq (BEq.trans (BEq.symm hk) hl)))
      rw [Dictionary.get?_set, Dictionary.get?_set, Dictionary.get?_set, Dictionary.get?_set]
      by_cases hk : key == .text k
      · rw [if_pos hk, if_neg (hne hk), if_pos hk]
      · rw [if_neg hk, if_neg hk]

theorem update_comm (hks : ¬ ks <+: ls) (hls : ¬ ls <+: ks) (es : Dictionary Json.Key Json)
    (v w : Json) :
    (update w ls (update v ks es).2).1 = (update w ls es).1 ∧
      Json.SameMapping (.obj (update w ls (update v ks es).2).2)
        (.obj (update v ks (update w ls es).2).2) := by
  refine apart_induction (fun k l ks ls es hkey => update_comm_of_ne hkey ks ls es v w)
    (fun k key key' ks ls es hin => ?_) (fun k key key' ks ls es sub hin ih => ?_) hks hls es
  · rw [update_inTheWay hin, update_inTheWay hin, update_inTheWay hin]
    exact ⟨rfl, .same _⟩
  · -- Whichever walk comes second goes on in the entries that the first one left.
    rw [update_inside hin, update_inside hin, update_inside (inside?_set_self es k _),
      update_inside (inside?_set_self es k _), Dictionary.set_set, Dictionary.set_set]
    exact ⟨ih.1, ih.2.set es (.text k)⟩

/-- Values for settings apart from each other can be set in either order. -/
theorem set_comm {name other : Text} (hname : ¬ keysOf name <+: keysOf other)
    (hother : ¬ keysOf other <+: keysOf name) (store : Store) (v w : Json) :
    (set (set store name v).2 other w).1 = (set store other w).1 ∧
      (set (set store other w).2 name v).1 = (set store name v).1 ∧
      Json.SameMapping (set (set store name v).2 other w).2
        (set (set store other w).2 name v).2 := by
  cases store with
  | obj es =>
    obtain ⟨hend, hsame⟩ := update_comm hname hother es v w
    exact ⟨hend, (update_comm hother hname es w v).1, hsame⟩
  | _ => exact ⟨rfl, rfl, .same _⟩

/-- Both settings are new, and so is the object that they are in: whichever is set first comes
first in it. -/
theorem set_comm_new_section :
    ¬ keysOf "run.new.a".toList <+: keysOf "run.new.b.c".toList ∧
      ¬ keysOf "run.new.b.c".toList <+: keysOf "run.new.a".toList ∧
      (set (set section₁ "run.new.a".toList .null).2 "run.new.b.c".toList (.int 2)).1 =
        (set section₁ "run.new.b.c".toList (.int 2)).1 ∧
      Json.SameMapping
        (set (set section₁ "run.new.a".toList .null).2 "run.new.b.c".toList (.int 2)).2
        (set (set section₁ "run.new.b.c".toList (.int 2)).2 "run.new.a".toList .null).2 := by
  have hname : ¬ keysOf "run.new.a".toList <+: keysOf "run.new.b.c".toList := by decide
  have hother : ¬ keysOf "run.new.b.c".toList <+: keysOf "run.new.a".toList := by decide
  obtain ⟨hend, -, hsame⟩ := set_comm hname hother section₁ .null (.int 2)
  exact ⟨hname, hother, hend, hsame⟩

end Settings
end TestScribe
