import TestScribe.Generate.Settings
import TestScribe.Proofs.Dictionary

/-!
# Where the settings of a run come from

For each of its settings a run has an argument, a configured value and a default to go by, and the
rule is the same for all: the first of them that is there (`byPrecedence`). Null stands for nothing
in both places. The suffix and the two flags are merged as dictionaries, with null left out of both,
and so they follow the rule (`get?_merge`), a false flag and an empty suffix like any other value.

The two directories are chosen in another way. There what does not count as true is passed over,
and the empty text, which names the current directory, is among that. So an empty argument gives
way to the configured directory, and an empty configured one to the default.

> `build_by_precedence_iff`: settings whose values have their kinds are built, all but the
> directories by the rule, and a directory by the rule exactly if it is not passed over.

What is configured under other names is never asked for (`build_congr`).
-/

namespace TestScribe.Generate.Settings

/-! ## The rule -/

/-- The value under a name, where null is none. -/
def given? (es : Dictionary Text Json) (name : String) : Option Json :=
  (es.get? name.toList).filter fun v => !v.isNull

/-- The argument under a name, and without one the configured value. -/
def preferred? (arguments configured : Dictionary Text Json) (name : String) : Option Json :=
  (given? arguments name).or (given? configured name)

/-- The settings in which every argument goes before the configured value, and this one before the
default. The extensions have no argument. -/
def byPrecedence (h : Host) (d : Disk) (arguments configured : Dictionary Text Json) :
    Settings where
  input := ((preferred? arguments configured "input_dir").bind text?).elim
    (h.defaultDirectories d).1 Path.ofText
  output := ((preferred? arguments configured "output_dir").bind text?).elim
    (h.defaultDirectories d).2 Path.ofText
  inputExtension := ((given? configured "input_extension").bind text?).getD "html".toList
  classSuffix := ((preferred? arguments configured "class_suffix").bind text?).getD "Cest".toList
  outputExtension := ((given? configured "output_extension").bind text?).getD "php".toList
  failFast := ((preferred? arguments configured "fail_fast").bind bool?).getD false
  showProgress := ((preferred? arguments configured "show_progress").bind bool?).getD false

/-- The settings that are texts. -/
def textNames : List String :=
  ["input_dir", "output_dir", "input_extension", "class_suffix", "output_extension"]

/-- The settings that are truth values. -/
def flagNames : List String := ["fail_fast", "show_progress"]

/-- Every value is null or of the kind that its setting has. -/
structure WellTyped (es : Dictionary Text Json) : Prop where
  texts : ∀ name ∈ textNames, ∀ v ∈ given? es name, (text? v).isSome = true
  flags : ∀ name ∈ flagNames, ∀ v ∈ given? es name, (bool? v).isSome = true

/-- The preferred directory is the empty text, and it is not by chance that the configured one
behind it is the current directory as well. -/
def PassedOver (arguments configured : Dictionary Text Json) (name : String) : Prop :=
  preferred? arguments configured name = some (.str []) ∧
    ¬ ∃ t, t ≠ [] ∧ given? configured name = some (.str t) ∧ Path.ofText t = Path.ofText []

variable {arguments configured : Dictionary Text Json} {name : String}

theorem of_mem_preferred? {p : Json → Prop} (harguments : ∀ v ∈ given? arguments name, p v)
    (hconfigured : ∀ v ∈ given? configured name, p v) :
    ∀ v ∈ preferred? arguments configured name, p v := by
  intro v hv
  rcases Option.or_eq_some_iff.mp hv with h | ⟨-, h⟩
  · exact harguments v h
  · exact hconfigured v h

/-! ## Values that are merged -/

/-- Arguments go before configured values, and null is none of either. -/
theorem get?_merge (harguments : arguments.keys.Nodup) (hconfigured : configured.keys.Nodup) :
    (merge arguments configured).get? name.toList = preferred? arguments configured name := by
  rw [merge, Dictionary.get?_foldl_set (Dictionary.nodup_keys_filter harguments _),
    Dictionary.get?_filter_values harguments fun v => !v.isNull,
    Dictionary.get?_filter_values hconfigured fun v => !v.isNull]
  rfl

theorem given?_plain (es : Dictionary Text Json) (name : String) :
    given? (es.filter fun e => plainArguments.contains e.1) name =
      if plainArguments.contains name.toList then given? es name else none := by
  rw [given?, Dictionary.get?_filter_keys]
  split <;> rfl

/-- The merged value of a setting with an argument. -/
theorem get?_merge_plain (harguments : arguments.keys.Nodup) (hconfigured : configured.keys.Nodup)
    (hname : plainArguments.contains name.toList = true) :
    (merge (arguments.filter fun e => plainArguments.contains e.1) configured).get? name.toList =
      preferred? arguments configured name := by
  rw [get?_merge (Dictionary.nodup_keys_filter harguments _) hconfigured, preferred?, preferred?,
    given?_plain, if_pos hname]

/-- The merged value of a setting without an argument. -/
theorem get?_merge_other (harguments : arguments.keys.Nodup) (hconfigured : configured.keys.Nodup)
    (hname : plainArguments.contains name.toList = false) :
    (merge (arguments.filter fun e => plainArguments.contains e.1) configured).get? name.toList =
      given? configured name := by
  rw [get?_merge (Dictionary.nodup_keys_filter harguments _) hconfigured, preferred?,
    given?_plain, hname]
  rfl

theorem fieldOr_eq_some {α : Type} {read : Json → Option α} {fields : Dictionary Text Json}
    {value : Option Json} (default : α) (hvalue : fields.get? name.toList = value)
    (hread : ∀ v ∈ value, (read v).isSome = true) :
    fieldOr read fields name default = some ((value.bind read).getD default) := by
  rw [fieldOr, hvalue]
  cases value with
  | none => rfl
  | some v =>
    obtain ⟨a, ha⟩ := Option.isSome_iff_exists.mp (hread v rfl)
    show read v = some (((some v).bind read).getD default)
    rw [Option.bind_some, ha]
    rfl

/-! ## Directories -/

theorem value_eq (es : Dictionary Text Json) (name : String) :
    (es.get? name.toList).getD .null = (given? es name).getD .null := by
  rw [given?]
  cases es.get? name.toList with
  | none => rfl
  | some v => cases v <;> rfl

/-- A directory that is given as a text. -/
theorem exists_str {es : Dictionary Text Json} (h : ∀ v ∈ given? es name, (text? v).isSome = true) :
    given? es name = none ∨ ∃ t, given? es name = some (.str t) := by
  cases hgiven : given? es name with
  | none => exact .inl rfl
  | some v =>
    have htext := h v hgiven
    cases v with
    | str t => exact .inr ⟨t, rfl⟩
    | _ => cases htext

theorem ofText_ne_of_root {p : Path} (hp : p.anchor = .root) : p ≠ Path.ofText [] := by
  rintro rfl
  cases hp

/-- Where the empty text is preferred, the configured directory behind it is taken, or the default,
and this is the current directory only if it is configured so. -/
theorem ofText_nil_iff {default p : Path} (hroot : default.anchor = .root)
    (hconfigured : given? configured name = none ∨ given? configured name = some (.str []))
    (hp : p = default) :
    p = Path.ofText [] ↔
      ∃ t, t ≠ [] ∧ given? configured name = some (.str t) ∧ Path.ofText t = Path.ofText [] := by
  refine iff_of_false (hp ▸ ofText_ne_of_root hroot) ?_
  rintro ⟨t, hne, ht, -⟩
  rcases hconfigured with hc | hc
  · rw [hc] at ht
    cases ht
  · rw [hc] at ht
    cases ht
    exact hne rfl

/-- Directories that are texts are chosen, and by the rule unless the empty text is passed over. -/
theorem directory_eq_ok {default : Path} (hroot : default.anchor = .root)
    (harguments : ∀ v ∈ given? arguments name, (text? v).isSome = true)
    (hconfigured : ∀ v ∈ given? configured name, (text? v).isSome = true) :
    ∃ p, directory ((given? arguments name).getD .null) ((given? configured name).getD .null)
        default = .ok p ∧
      (p = ((preferred? arguments configured name).bind text?).elim default Path.ofText ↔
        ¬ PassedOver arguments configured name) := by
  have hpreferred : ∀ {v : Option Json}, preferred? arguments configured name = v →
      v ≠ some (.str []) → ¬ PassedOver arguments configured name := by
    rintro v rfl hne ⟨he, -⟩
    exact hne he
  have hempty : preferred? arguments configured name = some (.str []) → ∀ p,
      (p = Path.ofText [] ↔ ∃ t, t ≠ [] ∧ given? configured name = some (.str t) ∧
        Path.ofText t = Path.ofText []) →
      (p = ((preferred? arguments configured name).bind text?).elim default Path.ofText ↔
        ¬ PassedOver arguments configured name) := by
    intro he p hp
    rw [PassedOver, he, and_iff_right rfl, Classical.not_not]
    exact hp
  rcases exists_str harguments with ha | ⟨_ | ⟨c, t⟩, ha⟩
  · have hsame : preferred? arguments configured name = given? configured name := by
      rw [preferred?, ha, Option.none_or]
    rcases exists_str hconfigured with hc | ⟨_ | ⟨c, t⟩, hc⟩
    · rw [ha, hc]
      exact ⟨default, rfl, iff_of_true (by rw [hsame, hc]; rfl) (hpreferred (hsame.trans hc) nofun)⟩
    · rw [ha, hc]
      exact ⟨default, rfl, hempty (hsame.trans hc) _ (ofText_nil_iff hroot (.inr hc) rfl)⟩
    · rw [ha, hc]
      exact ⟨_, rfl, iff_of_true (by rw [hsame, hc]; rfl) (hpreferred (hsame.trans hc) nofun)⟩
  · have he : preferred? arguments configured name = some (.str []) := by
      rw [preferred?, ha, Option.some_or]
    rcases exists_str hconfigured with hc | ⟨_ | ⟨c, t⟩, hc⟩
    · rw [ha, hc]
      exact ⟨default, rfl, hempty he _ (ofText_nil_iff hroot (.inl hc) rfl)⟩
    · rw [ha, hc]
      exact ⟨default, rfl, hempty he _ (ofText_nil_iff hroot (.inr hc) rfl)⟩
    · rw [ha, hc]
      refine ⟨_, rfl, hempty he _ ?_⟩
      rw [hc]
      constructor
      · exact fun hp => ⟨c :: t, List.cons_ne_nil c t, rfl, hp⟩
      · rintro ⟨u, -, hu, hp⟩
        cases hu
        exact hp
  · have he : preferred? arguments configured name = some (.str (c :: t)) := by
      rw [preferred?, ha, Option.some_or]
    rw [ha]
    exact ⟨_, rfl, iff_of_true (by rw [he]; rfl) (hpreferred he nofun)⟩

theorem anchor_defaultDirectories (h : Host) (d : Disk) :
    (h.defaultDirectories d).1.anchor = .root ∧ (h.defaultDirectories d).2.anchor = .root := by
  rw [Host.defaultDirectories_eq]
  exact ⟨rfl, rfl⟩

/-! ## All settings -/

section
variable {h : Host} {d : Disk} {store : TestScribe.Settings.Store}
  {entries : Dictionary Json.Key Json}

/-- The settings that are no directories follow the rule. -/
theorem ofFields_merge (input output : Path) (harguments : arguments.keys.Nodup)
    (hconfigured : configured.keys.Nodup) (hgiven : WellTyped arguments)
    (hkinds : WellTyped configured) :
    ofFields input output
        (merge (arguments.filter fun e => plainArguments.contains e.1) configured) =
      some { byPrecedence h d arguments configured with input, output } := by
  have hplain : ∀ name, plainArguments.contains name.toList = true →
      (merge (arguments.filter fun e => plainArguments.contains e.1) configured).get? name.toList =
        preferred? arguments configured name := fun name =>
    get?_merge_plain harguments hconfigured
  have hother : ∀ name, plainArguments.contains name.toList = false →
      (merge (arguments.filter fun e => plainArguments.contains e.1) configured).get? name.toList =
        given? configured name := fun name =>
    get?_merge_other harguments hconfigured
  rw [ofFields,
    fieldOr_eq_some _ (hother "input_extension" (by decide)) (hkinds.texts _ (by decide)),
    fieldOr_eq_some _ (hplain "class_suffix" (by decide))
      (of_mem_preferred? (hgiven.texts _ (by decide)) (hkinds.texts _ (by decide))),
    fieldOr_eq_some _ (hother "output_extension" (by decide)) (hkinds.texts _ (by decide)),
    fieldOr_eq_some _ (hplain "fail_fast" (by decide))
      (of_mem_preferred? (hgiven.flags _ (by decide)) (hkinds.flags _ (by decide))),
    fieldOr_eq_some _ (hplain "show_progress" (by decide))
      (of_mem_preferred? (hgiven.flags _ (by decide)) (hkinds.flags _ (by decide)))]
  rfl

/-- Only what is configured under the names of settings matters. -/
theorem build_congr {store' : TestScribe.Settings.Store} {entries' : Dictionary Json.Key Json}
    (hsection : TestScribe.Settings.section? store sectionName = some entries)
    (hsection' : TestScribe.Settings.section? store' sectionName = some entries')
    (harguments : arguments.keys.Nodup) (hentries : (Json.fields entries).keys.Nodup)
    (hentries' : (Json.fields entries').keys.Nodup)
    (hsame : ∀ name ∈ textNames ++ flagNames,
      given? (Json.fields entries') name = given? (Json.fields entries) name) :
    build h d store' arguments = build h d store arguments := by
  have hfields : ∀ input output,
      ofFields input output
          (merge (arguments.filter fun e => plainArguments.contains e.1) (Json.fields entries')) =
        ofFields input output
          (merge (arguments.filter fun e => plainArguments.contains e.1) (Json.fields entries)) := by
    intro input output
    have hfield : ∀ {α : Type} (read : Json → Option α) (default : α),
        ∀ name ∈ textNames ++ flagNames,
          fieldOr read (merge (arguments.filter fun e => plainArguments.contains e.1)
              (Json.fields entries')) name default =
            fieldOr read (merge (arguments.filter fun e => plainArguments.contains e.1)
              (Json.fields entries)) name default := by
      intro α read default name hname
      have hplain := Dictionary.nodup_keys_filter harguments
        fun e => plainArguments.contains e.1
      rw [fieldOr, fieldOr, get?_merge hplain hentries, get?_merge hplain hentries', preferred?,
        preferred?, hsame name hname]
    rw [ofFields, ofFields, hfield _ _ "input_extension" (by decide),
      hfield _ _ "class_suffix" (by decide), hfield _ _ "output_extension" (by decide),
      hfield _ _ "fail_fast" (by decide), hfield _ _ "show_progress" (by decide)]
  rw [build, build, hsection, hsection']
  simp only [value_eq, hsame "input_dir" (by decide), hsame "output_dir" (by decide), hfields]

/-- Settings are built from any arguments and any configured values that have the kinds of their
settings. Apart from the directories they follow the rule of precedence, and each of the two
directories does exactly if it is not passed over. Nothing that is configured under other names
matters. -/
theorem build_by_precedence_iff
    (hsection : TestScribe.Settings.section? store sectionName = some entries)
    (harguments : arguments.keys.Nodup) (hentries : (Json.fields entries).keys.Nodup)
    (hgiven : WellTyped arguments) (hkinds : WellTyped (Json.fields entries)) :
    ∃ s, build h d store arguments = .ok s ∧
      s = { byPrecedence h d arguments (Json.fields entries) with
        input := s.input, output := s.output } ∧
      (s.input = (byPrecedence h d arguments (Json.fields entries)).input ↔
        ¬ PassedOver arguments (Json.fields entries) "input_dir") ∧
      (s.output = (byPrecedence h d arguments (Json.fields entries)).output ↔
        ¬ PassedOver arguments (Json.fields entries) "output_dir") ∧
      ∀ store' entries', TestScribe.Settings.section? store' sectionName = some entries' →
        (Json.fields entries').keys.Nodup →
        (∀ name ∈ textNames ++ flagNames,
          given? (Json.fields entries') name = given? (Json.fields entries) name) →
        build h d store' arguments = .ok s := by
  obtain ⟨hroot, hroot'⟩ := anchor_defaultDirectories h d
  obtain ⟨input, hinput, hrule⟩ := directory_eq_ok hroot
    (hgiven.texts "input_dir" (by decide)) (hkinds.texts "input_dir" (by decide))
  obtain ⟨output, houtput, hrule'⟩ := directory_eq_ok hroot'
    (hgiven.texts "output_dir" (by decide)) (hkinds.texts "output_dir" (by decide))
  have hbuild : build h d store arguments =
      .ok { byPrecedence h d arguments (Json.fields entries) with input, output } := by
    rw [build, hsection]
    simp only [value_eq, hinput, houtput]
    rw [ofFields_merge input output harguments hentries hgiven hkinds]
  refine ⟨_, hbuild, rfl, hrule, hrule', fun store' entries' hsection' hentries' hsame => ?_⟩
  rw [← hbuild]
  exact build_congr hsection hsection' harguments hentries hentries' hsame

end

/-! ## Arguments that count as false -/

/-- What is configured for runs: a directory, a suffix, a flag, a null and a setting that is none. -/
def configuredRun : Dictionary Text Json :=
  [("input_dir".toList, .str "recorded".toList), ("class_suffix".toList, .str "Test".toList),
    ("fail_fast".toList, .bool true), ("output_extension".toList, .null),
    ("colour".toList, .int 7)]

/-- A store with these settings. -/
def configuredStore : TestScribe.Settings.Store :=
  .record [("generator".toList, .record configuredRun)]

/-- An empty suffix and a false flag, and nothing for the directories. -/
def falseArguments : Dictionary Text Json :=
  [("input_dir".toList, .null), ("class_suffix".toList, .str []),
    ("fail_fast".toList, .bool false)]

/-- They go before what is configured. -/
theorem build_by_precedence_false_flag :
    TestScribe.Settings.section? configuredStore sectionName =
        some (configuredRun.map fun e => (.text e.1, e.2)) ∧
      falseArguments.keys.Nodup ∧
      (Json.fields (configuredRun.map fun e => (.text e.1, e.2))).keys.Nodup ∧
      WellTyped falseArguments ∧
      WellTyped (Json.fields (configuredRun.map fun e => (.text e.1, e.2))) ∧
      build ⟨["home".toList], [], .ofInt 0⟩ [] configuredStore falseArguments = .ok
        { input := ⟨.here, ["recorded".toList]⟩
          output := ⟨.root, ["home".toList, "output".toList]⟩
          inputExtension := "html".toList
          classSuffix := []
          outputExtension := "php".toList
          failFast := false
          showProgress := false } := by
  have hsection : TestScribe.Settings.section? configuredStore sectionName =
      some (configuredRun.map fun e => (.text e.1, e.2)) := rfl
  have harguments : falseArguments.keys.Nodup := by decide
  have hentries : (Json.fields (configuredRun.map fun e => (.text e.1, e.2))).keys.Nodup := by
    decide
  have hgiven : WellTyped falseArguments := ⟨by decide, by decide⟩
  have hkinds : WellTyped (Json.fields (configuredRun.map fun e => (.text e.1, e.2))) :=
    ⟨by decide, by decide⟩
  refine ⟨hsection, harguments, hentries, hgiven, hkinds, ?_⟩
  obtain ⟨s, hbuild, hrule, hinput, houtput, -⟩ := build_by_precedence_iff
    (h := ⟨["home".toList], [], .ofInt 0⟩) (d := []) hsection harguments hentries hgiven hkinds
  rw [hbuild, hrule, hinput.mpr (fun hpassed => nomatch hpassed.1),
    houtput.mpr (fun hpassed => nomatch hpassed.1)]
  rfl

/-- The empty text for the directory with the documents. -/
def emptyDirectory : Dictionary Text Json := [("input_dir".toList, .str [])]

/-- It is given, and names the current directory, but the default is taken. -/
theorem build_passes_over_empty :
    given? emptyDirectory "input_dir" = some (.str []) ∧
      (byPrecedence ⟨[], [], .ofInt 0⟩ [] emptyDirectory []).input = Path.ofText [] ∧
      ∃ s, build ⟨[], [], .ofInt 0⟩ [] (.obj []) emptyDirectory = .ok s ∧
        s.input = ⟨.root, ["input".toList]⟩ ∧ s.input ≠ Path.ofText [] :=
  ⟨rfl, rfl, _, rfl, rfl, by decide⟩

end TestScribe.Generate.Settings
