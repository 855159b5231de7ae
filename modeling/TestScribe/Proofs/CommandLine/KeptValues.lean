import TestScribe.CommandLine.Commands
import TestScribe.Proofs.Dictionary

/-!
# The values that reading keeps

Arguments are read one after the other, and what an option does may have to wait for its value. All
along, the values that are kept come from what the command declares (`Kept`), no name comes twice
among them, and what waits are options of the command. Every argument keeps this (`take_endsSoundly`),
and so it holds of the values that the reading ends with:

> `read_keeps`: every value that was read is a plain argument's, or what one of the options keeps.

So a flag that a command can only set to one value has this value or none.
-/

namespace TestScribe.CommandLine

variable {u : Usage} {r : Reading}

/-- The command has an option with this effect. -/
def IsOption (u : Usage) (e : Effect) : Prop := ∃ spelling, (spelling, e) ∈ u.options

/-- A value under a name, as a command can keep it. -/
inductive Kept (u : Usage) : Text × Json → Prop
  /-- A plain argument. -/
  | plain {name : Text} (hname : name ∈ u.plain) (s : Text) : Kept u (name, .str s)
  /-- What an option sets. -/
  | sets {name : Text} {value : Json} (h : IsOption u (.sets name value)) : Kept u (name, value)
  /-- A value that an option takes. -/
  | given {name : Text} (h : IsOption u (.takesValue name)) (value : Json) : Kept u (name, value)

/-! ## Options -/

/-- A run of one-letter options is made of options of the command. -/
def Cluster.IsSound (u : Usage) : Cluster → Prop
  | .complete effects => ∀ e ∈ effects, IsOption u e.1
  | .awaitsValue before name => (∀ e ∈ before, IsOption u e.1) ∧ IsOption u (.takesValue name)
  | .misuse => True

theorem isOption_of_lookup {s : Text} {e : Effect} (h : u.options.lookup s = some e) :
    IsOption u e := by
  have hmem : ∀ {options : List (Text × Effect)}, options.lookup s = some e →
      ∃ spelling, (spelling, e) ∈ options := by
    intro options
    induction options with
    | nil => exact nofun
    | cons o options ih =>
      intro h
      rw [List.lookup_cons] at h
      split at h
      · cases h
        exact ⟨o.1, List.mem_cons_self⟩
      · obtain ⟨spelling, hspelling⟩ := ih h
        exact ⟨spelling, List.mem_cons_of_mem _ hspelling⟩
  exact hmem h

/-- The run with one more flag before it. -/
def Cluster.behind (e : Effect) : Cluster → Cluster
  | .complete more => .complete ((e, none) :: more)
  | .awaitsValue before name => .awaitsValue ((e, none) :: before) name
  | .misuse => .misuse

theorem Cluster.IsSound.behind {e : Effect} {c : Cluster} (hc : c.IsSound u) (he : IsOption u e) :
    (c.behind e).IsSound u := by
  cases c with
  | complete more => exact List.forall_mem_cons.mpr ⟨he, hc⟩
  | awaitsValue before name => exact ⟨List.forall_mem_cons.mpr ⟨he, hc.1⟩, hc.2⟩
  | misuse => trivial

/-- What is attached to a one-letter flag is a run of options. -/
theorem cluster_of_letters {e : Effect} (he : ∀ name, e ≠ .takesValue name) (spelling : Text)
    (c : Char) (rest : Text) (fuel : Nat) :
    cluster u spelling e (some (c :: rest)) (fuel + 1) =
      if spelling.take 2 = ['-', '-'] then .misuse
      else (u.options.lookup ['-', c]).elim .misuse fun e' =>
        (cluster u ['-', c] e' (if rest = [] then none else some rest) fuel).behind e := by
  rw [cluster]
  · split
    · rfl
    · cases u.options.lookup ['-', c] with
      | none => rfl
      | some e' => rfl
  · exact he

theorem cluster_isSound (fuel : Nat) : ∀ {e : Effect} (spelling : Text) (attached : Option Text),
    IsOption u e → (cluster u spelling e attached fuel).IsSound u := by
  induction fuel with
  | zero => exact fun _ _ _ => trivial
  | succ fuel ih =>
    intro e spelling attached he
    have hone : ∀ v, Cluster.IsSound u (.complete [(e, v)]) := fun v =>
      List.forall_mem_singleton.mpr he
    have hletters : ∀ c rest, (∀ name, e ≠ .takesValue name) →
        (cluster u spelling e (some (c :: rest)) (fuel + 1)).IsSound u := by
      intro c rest hflag
      rw [cluster_of_letters hflag]
      split
      · trivial
      · cases hlookup : u.options.lookup ['-', c] with
        | none => trivial
        | some e' => exact (ih _ _ (isOption_of_lookup hlookup)).behind he
    cases e with
    | takesValue name =>
      cases attached with
      | none => exact ⟨List.forall_mem_nil _, he⟩
      | some v => exact hone _
    | sets name value =>
      rcases attached with _ | _ | ⟨c, rest⟩
      · exact hone _
      · trivial
      · exact hletters c rest fun _ => Effect.noConfusion
    | help =>
      rcases attached with _ | _ | ⟨c, rest⟩
      · exact hone _
      · trivial
      · exact hletters c rest fun _ => Effect.noConfusion

theorem isOption_of_mem_candidates {s spelling : Text} {e : Effect} {attached : Option Text}
    (h : (spelling, e, attached) ∈ candidates u s) : IsOption u e := by
  unfold candidates at h
  split at h
  · obtain ⟨o, ho, he⟩ := List.mem_map.mp h
    cases he
    exact ⟨o.1, (List.mem_filter.mp ho).1⟩
  · obtain ⟨o, ho, he⟩ := List.mem_filterMap.mp h
    split at he
    · cases he
      exact ⟨o.1, ho⟩
    · split at he
      · cases he
        exact ⟨o.1, ho⟩
      · cases he

/-- What is taken for an option is one of the command. -/
theorem isOption_of_kind {s spelling : Text} {e : Effect} {attached : Option Text}
    (h : kind u s = .option spelling e attached) : IsOption u e := by
  unfold kind at h
  split at h
  · split at h
    · cases h
    · split at h
      · rename_i hlookup
        cases h
        exact isOption_of_lookup hlookup
      · dsimp only at h
        split at h
        · rename_i hlookup
          cases h
          obtain ⟨v, -, hfound⟩ := Option.bind_eq_some_iff.mp hlookup
          exact isOption_of_lookup hfound
        · split at h
          · rename_i hcandidates
            cases h
            exact isOption_of_mem_candidates (hcandidates ▸ List.mem_cons_self)
          · cases h
          · split at h <;> cases h
  · cases h

theorem isOption_of_mem_kinds {arguments : List Text} {k : Text × Kind}
    (hk : k ∈ kinds u arguments) {spelling : Text} {e : Effect} {attached : Option Text}
    (h : k.2 = .option spelling e attached) : IsOption u e := by
  induction arguments with
  | nil => cases hk
  | cons s ss ih =>
    rw [kinds] at hk
    split at hk
    · rcases List.mem_cons.mp hk with rfl | hk
      · cases h
      · obtain ⟨t, -, rfl⟩ := List.mem_map.mp hk
        cases h
    · rcases List.mem_cons.mp hk with rfl | hk
      · exact isOption_of_kind h
      · exact ih hk

/-! ## Reading on -/

/-- What has been read and what waits comes from the command. -/
structure Reading.IsSound (u : Usage) (r : Reading) : Prop where
  nodup : r.values.keys.Nodup
  kept : ∀ e ∈ r.values, Kept u e
  awaited : ∀ name ∈ r.awaited, name ∈ u.plain
  waiting : ∀ before name, r.next = .value before name →
    (∀ e ∈ before, IsOption u e.1) ∧ IsOption u (.takesValue name)

/-- What waits does not matter once nothing does. -/
theorem Reading.IsSound.next (h : r.IsSound u) {next : Expectation}
    (hnext : ∀ before name, next = .value before name →
      (∀ e ∈ before, IsOption u e.1) ∧ IsOption u (.takesValue name)) :
    Reading.IsSound u { r with next } :=
  ⟨h.nodup, h.kept, h.awaited, hnext⟩

theorem Reading.IsSound.keep (h : r.IsSound u) {name : Text} {v : Json} (hv : Kept u (name, v)) :
    (r.keep name v).IsSound u := by
  refine ⟨Dictionary.nodup_keys_set h.nodup name v, fun e he => ?_, h.awaited, h.waiting⟩
  rcases Dictionary.mem_set he with he | rfl
  · exact h.kept e he
  · exact hv

/-- A step ends with a reading that comes from the command, or with no values at all. -/
def EndsSoundly (u : Usage) : Except Outcome Reading → Prop
  | .ok r => r.IsSound u
  | .error o => ∀ values, o ≠ .values values

theorem apply_endsSoundly {effects : List (Effect × Option Text)}
    (heffects : ∀ e ∈ effects, IsOption u e.1) (h : r.IsSound u) :
    EndsSoundly u (r.apply effects) := by
  induction effects generalizing r with
  | nil => exact h
  | cons e effects ih =>
    obtain ⟨effect, v⟩ := e
    rw [List.forall_mem_cons] at heffects
    cases effect with
    | help => exact nofun
    | sets name value => exact ih heffects.2 (h.keep (.sets heffects.1))
    | takesValue name => exact ih heffects.2 (h.keep (.given heffects.1 _))

theorem argument_endsSoundly {k : Kind} (h : r.IsSound u)
    (hk : ∀ spelling e attached, k = .option spelling e attached → IsOption u e) (s : Text) :
    EndsSoundly u (r.argument u s k) := by
  cases k with
  | ambiguous => exact nofun
  | unknown => exact ⟨h.nodup, h.kept, h.awaited, nofun⟩
  | plain =>
    rw [Reading.argument]
    split
    · exact ⟨h.nodup, h.kept, h.awaited, nofun⟩
    · rename_i name names hawaited
      have hnames := h.awaited
      rw [hawaited, List.forall_mem_cons] at hnames
      have hkept := h.keep (.plain hnames.1 s)
      exact ⟨hkept.nodup, hkept.kept, hnames.2, nofun⟩
  | separator =>
    rw [Reading.argument]
    split
    · exact h.next nofun
    · exact h.next nofun
  | option spelling e attached =>
    -- What is attached to a one-letter option may be further options, all of the command.
    have hcluster := cluster_isSound ((attached.map List.length).getD 0 + 1) spelling attached
      (hk spelling e attached rfl)
    rw [Reading.argument]
    split
    · exact nofun
    · rename_i effects heffects
      rw [heffects] at hcluster
      exact apply_endsSoundly hcluster (h.next nofun)
    · rename_i before name hwaits
      rw [hwaits] at hcluster
      refine h.next fun before' name' he => ?_
      cases he
      exact hcluster

/-- One argument keeps all that was said. -/
theorem take_endsSoundly {k : Text × Kind} (h : r.IsSound u)
    (hk : ∀ spelling e attached, k.2 = .option spelling e attached → IsOption u e) :
    EndsSoundly u (r.take u k) := by
  unfold Reading.take
  split
  · rename_i before name hnext _
    obtain ⟨hbefore, hname⟩ := h.waiting before name hnext
    have hnothing : Reading.IsSound u { r with next := .nothing } := h.next nofun
    have happly := apply_endsSoundly hbefore hnothing
    cases hr : Reading.apply { r with next := .nothing } before with
    | error o =>
      rw [hr] at happly
      exact happly
    | ok r₁ =>
      rw [hr] at happly
      exact happly.keep (.given hname _)
  · exact nofun
  · exact argument_endsSoundly h hk k.1

/-- And so do all of them. -/
theorem foldlM_take_endsSoundly {ks : List (Text × Kind)} (h : r.IsSound u)
    (hks : ∀ k ∈ ks, ∀ spelling e attached, k.2 = .option spelling e attached → IsOption u e) :
    EndsSoundly u (ks.foldlM (Reading.take u) r) := by
  induction ks generalizing r with
  | nil => exact h
  | cons k ks ih =>
    rw [List.forall_mem_cons] at hks
    rw [List.foldlM_cons]
    have hstep := take_endsSoundly h hks.1
    cases htake : r.take u k with
    | error o =>
      rw [htake] at hstep
      exact hstep
    | ok r₁ =>
      rw [htake] at hstep
      exact ih hstep hks.2

/-- The values that were read have a name each, and all come from what the command declares. -/
theorem read_keeps {arguments : List Text} {values : Dictionary Text Json}
    (h : read u arguments = .values values) :
    values.keys.Nodup ∧ ∀ e ∈ values, Kept u e := by
  have hstart : Reading.IsSound u ⟨[], u.plain, .nothing, false⟩ :=
    ⟨.nil, nofun, fun _ => id, nofun⟩
  have hend := foldlM_take_endsSoundly hstart
    fun k (hk : k ∈ kinds u arguments) spelling e attached => isOption_of_mem_kinds hk
  unfold read at h
  dsimp only at h
  split at h
  · cases h
  · split at h
    · rename_i o ho
      rw [ho] at hend
      exact absurd h (hend values)
    · rename_i r hr
      rw [hr] at hend
      unfold Reading.finish at h
      split at h
      · cases h
      · cases h
      · split at h
        · cases h
        · cases h
          exact ⟨hend.nodup, hend.kept⟩

end TestScribe.CommandLine
