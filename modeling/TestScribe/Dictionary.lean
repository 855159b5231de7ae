import TestScribe.Text.Basic

/-!
# Dictionaries in the order of insertion

A dictionary maps keys to values and remembers the order in which its keys first came.
Setting a key that is already there changes its value and neither its place nor the way
it is written: what counts as the same key is up to the kind of keys.

`get?_set` and `keys_set` say what setting does to the values and to the order.
-/

namespace TestScribe

/-- Keys with their values, the earliest key first. -/
abbrev Dictionary (κ α : Type) := List (κ × α)

namespace Dictionary

variable {κ α : Type}

/-- The keys in order. -/
def keys (d : Dictionary κ α) : List κ := d.map Prod.fst

@[simp] theorem keys_cons (e : κ × α) (es : Dictionary κ α) :
    keys (e :: es) = e.1 :: keys es := rfl

variable [BEq κ]

/-- The value of a key. -/
def get? (d : Dictionary κ α) (key : κ) : Option α := List.lookup key d

/-- Sets the value of a key. -/
def set (key : κ) (value : α) : Dictionary κ α → Dictionary κ α
  | [] => [(key, value)]
  | e :: es => if key == e.1 then (e.1, value) :: es else e :: set key value es

/-- Sets the value of a key that has none. -/
def setDefault (key : κ) (value : α) (d : Dictionary κ α) : Dictionary κ α :=
  if (d.get? key).isSome then d else d.set key value

/-- The dictionary that arises from setting the pairs one after the other. -/
def ofPairs (ps : List (κ × α)) : Dictionary κ α := ps.foldl (fun d p => d.set p.1 p.2) []

@[simp] theorem get?_nil (key : κ) : get? ([] : Dictionary κ α) key = none := rfl

@[simp] theorem get?_cons (e : κ × α) (es : Dictionary κ α) (key : κ) :
    get? (e :: es) key = if key == e.1 then some e.2 else get? es key := by
  unfold get?
  rw [List.lookup_cons]
  cases key == e.1 <;> rfl

/-- Setting a key gives it the value and leaves the others alone. -/
theorem get?_set [EquivBEq κ] (d : Dictionary κ α) (key key' : κ) (value : α) :
    (d.set key value).get? key' = if key' == key then some value else d.get? key' := by
  induction d with
  | nil => simp [set]
  | cons e es ih =>
    unfold set
    by_cases h : key == e.1
    · have hk : (key' == e.1) = (key' == key) := (BEq.congr_right h).symm
      rw [if_pos h, get?_cons, get?_cons, hk]
      split <;> rfl
    · rw [if_neg h, get?_cons, get?_cons, ih]
      by_cases hk : key' == e.1
      · have hn : ¬ (key' == key) = true := fun hc => h (BEq.trans (BEq.symm hc) hk)
        simp [hk, hn]
      · simp [hk]

/-- A new key comes last; an old one keeps its place. -/
theorem keys_set (d : Dictionary κ α) (key : κ) (value : α) :
    (d.set key value).keys = if d.keys.contains key then d.keys else d.keys ++ [key] := by
  induction d with
  | nil => simp [set, keys]
  | cons e es ih =>
    unfold set
    by_cases h : key == e.1
    · simp [h]
    · rw [if_neg h, keys_cons, keys_cons, ih]
      by_cases hm : (keys es).contains key <;> simp [h, hm]

end Dictionary
end TestScribe
