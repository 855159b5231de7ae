import TestScribe.Proofs.Settings.Updating
import TestScribe.Settings.Installation

/-!
# Calls on the loaded settings

Whatever is wrong with the settings file, loading ends with a store: a file that is missing, that
is no text, or whose text is no JSON document gives the empty one (`loadSettings_eq`). From then on
a store that is an object stays one, whatever is called (`after_object`), and there is one thing
left that breaks a call off, a number beyond all numbers of the kind that it is to have.

This needs the document to be an object, and nothing sees to that. A file that holds a list or a
number is loaded as well, and in such a store only readings of single settings come to an answer.

> `calls_answered_iff`: calls on the loaded settings are all answered exactly if the file holds no
> document but an object, or nothing but single settings is read, and no value that is set is
> beyond the one that it replaces.
-/

namespace TestScribe.Settings

/-- A call on the settings. -/
inductive Call
  /-- Asks for the entries of a section. -/
  | entriesOf (name : Text)
  /-- Asks for the value of a setting. -/
  | valueOf (name : Text) (default : Json)
  /-- Sets the value of a setting. -/
  | setValue (name : Text) (value : Json)

/-- What a call answers. -/
inductive Answer
  | entries (es : Dictionary Json.Key Json)
  | value (v : Json)
  | isSet (done : Bool)

namespace Call

/-- Makes a call: its answer, or how it broke off, and the store that it leaves. -/
def perform (store : Store) : Call → Except Breakdown Answer × Store
  | .entriesOf name =>
    match section? store name with
    | some es => (.ok (.entries es), store)
    | none => (.error .noObject, store)
  | .valueOf name default => (.ok (.value (get store name default)), store)
  | .setValue name value =>
    ((set store name value).1.map .isSet, (set store name value).2)

/-- The call asks for a single setting. -/
def IsReading (c : Call) : Prop := ∃ name default, c = .valueOf name default

/-- The call sets a number beyond all numbers of the kind that it replaces. -/
def IsBeyond (store : Store) (c : Call) : Prop :=
  ∃ name value, c = .setValue name value ∧ isBeyond (get store name .null) value = true

end Call

/-- What calls answer one after the other. -/
def answers (store : Store) : List Call → List (Except Breakdown Answer)
  | [] => []
  | c :: cs => (c.perform store).1 :: answers (c.perform store).2 cs

/-- The store after calls. -/
def after (store : Store) (calls : List Call) : Store :=
  calls.foldl (fun s c => (c.perform s).2) store

/-- Every call is answered when its turn comes. -/
def AllAnswered (store : Store) (calls : List Call) : Prop :=
  ∀ r ∈ answers store calls, ∃ a, r = .ok a

variable {store : Store} {es : Dictionary Json.Key Json} {c : Call} {calls : List Call}

theorem allAnswered_cons :
    AllAnswered store (c :: calls) ↔
      (∃ a, (c.perform store).1 = .ok a) ∧ AllAnswered (c.perform store).2 calls := by
  rw [AllAnswered, answers, List.forall_mem_cons]
  rfl

/-! ## An object -/

/-- No call makes anything but an object of an object. -/
theorem perform_object (c : Call) (es : Dictionary Json.Key Json) :
    ∃ es', (c.perform (.obj es)).2 = .obj es' := by
  cases c with
  | entriesOf name => exact ⟨es, rfl⟩
  | valueOf name default => exact ⟨es, rfl⟩
  | setValue name value => exact ⟨_, rfl⟩

theorem after_object (calls : List Call) (es : Dictionary Json.Key Json) :
    ∃ es', after (.obj es) calls = .obj es' := by
  induction calls generalizing es with
  | nil => exact ⟨es, rfl⟩
  | cons c calls ih =>
    obtain ⟨es', hes'⟩ := perform_object c es
    rw [after, List.foldl_cons, hes']
    exact ih es'

theorem perform_object_answered :
    (∃ a, (c.perform (.obj es)).1 = .ok a) ↔ ¬ c.IsBeyond (.obj es) := by
  cases c with
  | entriesOf name => exact iff_of_true ⟨_, rfl⟩ nofun
  | valueOf name default => exact iff_of_true ⟨_, rfl⟩ nofun
  | setValue name value =>
    obtain ⟨k, ks, hkeys⟩ := exists_keysOf name
    have hbroken : (set (.obj es) name value).1 = .error .beyond ↔
        isBeyond (get (.obj es) name .null) value = true := by
      rw [get_null, hkeys, set, hkeys]
      exact update_eq_error_iff.trans (and_iff_left rfl)
    have hbeyond : Call.IsBeyond (.obj es) (.setValue name value) ↔
        isBeyond (get (.obj es) name .null) value = true := by
      constructor
      · rintro ⟨name', value', hcall, h⟩
        cases hcall
        exact h
      · exact fun h => ⟨name, value, rfl, h⟩
    rw [hbeyond, ← hbroken, Call.perform]
    cases hset : (set (.obj es) name value).1 with
    | ok done => exact iff_of_true ⟨_, rfl⟩ nofun
    | error e =>
      -- An object breaks a call off for no other reason.
      have he : e = .beyond := by
        rw [set, hkeys] at hset
        exact (update_eq_error_iff.mp hset).2
      rw [he]
      exact iff_of_false nofun fun h => h rfl

theorem allAnswered_object :
    AllAnswered (.obj es) calls ↔
      ∀ before c later, calls = before ++ c :: later → ¬ c.IsBeyond (after (.obj es) before) := by
  induction calls generalizing es with
  | nil => exact iff_of_true nofun fun before c later h => by cases before <;> cases h
  | cons c calls ih =>
    obtain ⟨es', hes'⟩ := perform_object c es
    rw [allAnswered_cons, perform_object_answered, hes', ih]
    constructor
    · rintro ⟨hc, hcalls⟩ before c' later h
      cases before with
      | nil =>
        obtain ⟨rfl, -⟩ := List.cons.inj h
        exact hc
      | cons d before =>
        obtain ⟨rfl, hrest⟩ := List.cons.inj h
        rw [after, List.foldl_cons, hes']
        exact hcalls before c' later hrest
    · intro h
      refine ⟨h [] c calls rfl, fun before c' later hrest => ?_⟩
      have hthere := h (c :: before) c' later (congrArg (c :: ·) hrest)
      rw [after, List.foldl_cons, hes'] at hthere
      exact hthere

/-! ## Anything else -/

/-- A store that is no object is changed by nothing, and only readings are answered. -/
theorem perform_of_entries (h : store.entries? = none) (c : Call) :
    (c.perform store).2 = store ∧ ((∃ a, (c.perform store).1 = .ok a) ↔ c.IsReading) := by
  cases c with
  | entriesOf name =>
    rw [Call.perform, section?, h]
    exact ⟨rfl, iff_of_false nofun nofun⟩
  | valueOf name default => exact ⟨rfl, iff_of_true ⟨_, rfl⟩ ⟨name, default, rfl⟩⟩
  | setValue name value =>
    cases store with
    | obj es => cases h
    | _ => exact ⟨rfl, iff_of_false nofun nofun⟩

theorem after_of_entries (h : store.entries? = none) (calls : List Call) :
    after store calls = store := by
  induction calls with
  | nil => rfl
  | cons c calls ih =>
    rw [after, List.foldl_cons, (perform_of_entries h c).1]
    exact ih

theorem allAnswered_of_entries (h : store.entries? = none) :
    AllAnswered store calls ↔ ∀ c ∈ calls, c.IsReading := by
  induction calls with
  | nil => exact iff_of_true nofun nofun
  | cons c calls ih =>
    rw [allAnswered_cons, (perform_of_entries h c).2, (perform_of_entries h c).1, ih,
      List.forall_mem_cons]

theorem not_isBeyond_of_entries (h : store.entries? = none) (c : Call) :
    ¬ c.IsBeyond store := by
  rintro ⟨name, value, -, hbeyond⟩
  obtain ⟨k, ks, hkeys⟩ := exists_keysOf name
  rw [get_null, hkeys, find?_of_entries h, Option.getD_none, isBeyond_null] at hbeyond
  cases hbeyond

/-- Calls on any store are answered exactly if it is an object, or nothing but single settings
is read, and no value that is set is beyond the one that it replaces. -/
theorem allAnswered_iff :
    AllAnswered store calls ↔
      (store.entries? = none → ∀ c ∈ calls, c.IsReading) ∧
      ∀ before c later, calls = before ++ c :: later → ¬ c.IsBeyond (after store before) := by
  cases hstore : store.entries? with
  | none =>
    rw [allAnswered_of_entries hstore]
    refine ⟨fun h => ⟨fun _ => h, fun before c later _ => ?_⟩, fun h => h.1 rfl⟩
    rw [after_of_entries hstore]
    exact not_isBeyond_of_entries hstore c
  | some es =>
    rw [entries?_eq_some_iff.mp hstore, allAnswered_object]
    exact (and_iff_right nofun).symm

end Settings

/-! ## Loading -/

namespace Host

/-- The JSON document in the settings file, where there is one. -/
def settingsDocument? (h : Host) (d : Disk) : Option Json :=
  match d.at? h.settingsPlace with
  | some (.file bytes) => (Utf8.decode bytes).toOption.bind Json.read?
  | _ => none

theorem loadSettings_eq (h : Host) (d : Disk) :
    h.loadSettings d = (h.settingsDocument? d).getD (.obj []) := by
  rw [loadSettings, settingsDocument?]
  cases d.at? h.settingsPlace with
  | none => rfl
  | some e =>
    cases e with
    | directory => rfl
    | file bytes =>
      dsimp only
      rw [Settings.ofBytes]
      cases Utf8.decode bytes <;> rfl

end Host

namespace Settings

/-- What there is in the settings file decides about the store that is loaded from it, and with it
about all calls that come later. -/
theorem calls_answered_iff (h : Host) (d : Disk) (calls : List Call) :
    (h.settingsDocument? d = none → h.loadSettings d = .obj []) ∧
    ((∃ es, after (h.loadSettings d) calls = .obj es) ↔
      ∀ v, h.settingsDocument? d = some v → ∃ es, v = .obj es) ∧
    (AllAnswered (h.loadSettings d) calls ↔
      ((∃ v, h.settingsDocument? d = some v ∧ ∀ es, v ≠ .obj es) → ∀ c ∈ calls, c.IsReading) ∧
      ∀ before c later, calls = before ++ c :: later →
        ¬ c.IsBeyond (after (h.loadSettings d) before)) := by
  rw [allAnswered_iff, Host.loadSettings_eq]
  cases hdoc : h.settingsDocument? d with
  | none =>
    refine ⟨fun _ => rfl, iff_of_true (after_object calls []) nofun, ?_⟩
    exact and_congr_left fun _ => iff_of_true nofun nofun
  | some v =>
    have hplain : v.entries? = none ↔ ∀ es, v ≠ .obj es := by
      cases v with
      | obj es => exact iff_of_false nofun fun hne => hne es rfl
      | _ => exact iff_of_true rfl nofun
    refine ⟨nofun, ?_, ?_⟩
    · constructor
      · rintro ⟨es, hes⟩ v' hv'
        obtain rfl := Option.some.inj hv'
        cases hv : v.entries? with
        | none => exact ⟨es, (after_of_entries hv calls).symm.trans hes⟩
        | some es' => exact ⟨es', entries?_eq_some_iff.mp hv⟩
      · intro hobject
        obtain ⟨es, rfl⟩ := hobject v rfl
        exact after_object calls es
    · refine and_congr_left fun _ => imp_congr_left ?_
      exact hplain.trans ⟨fun hne => ⟨v, rfl, hne⟩, fun ⟨_, hv, hne⟩ => Option.some.inj hv ▸ hne⟩

/-- A host whose package is at the top. -/
def plainHost : Host := ⟨[], ["package".toList], .ofInt 0⟩

/-- A settings file with an empty list in it. -/
def listDisk : Disk :=
  [(["package".toList], .directory), (plainHost.settingsPlace, .file (Utf8.encode "[]".toList))]

/-- The list is loaded, and a section of it cannot be asked for. Without any file, too, a whole
number cannot be set to a number without bound. -/
theorem calls_broken_by_list :
    plainHost.settingsDocument? listDisk = some (.arr []) ∧
      plainHost.loadSettings listDisk = .arr [] ∧
      answers (plainHost.loadSettings listDisk) [.entriesOf "run".toList] = [.error .noObject] ∧
      plainHost.loadSettings [] = .obj [] ∧
      answers (plainHost.loadSettings [])
        [.setValue "n".toList (.int 1), .setValue "n".toList (.double (.infinite false))] =
          [.ok (.isSet true), .error .beyond] := by
  have hfile : listDisk.at? plainHost.settingsPlace =
      some (.file (Utf8.encode "[]".toList)) := rfl
  have hdoc : plainHost.settingsDocument? listDisk = some (.arr []) := by
    rw [Host.settingsDocument?, hfile]
    dsimp only
    rw [Utf8.decode_encode]
    rfl
  have hload : plainHost.loadSettings listDisk = .arr [] := by
    rw [Host.loadSettings_eq, hdoc]
    rfl
  refine ⟨hdoc, hload, ?_, rfl, rfl⟩
  rw [hload]
  rfl

end Settings
end TestScribe
