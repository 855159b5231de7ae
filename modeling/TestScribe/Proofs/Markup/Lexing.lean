import TestScribe.Proofs.Markup.Closing
import TestScribe.Proofs.Markup.Tags

/-!
# What a scan finds

A document may be written as loosely as it likes, but not everything can come out of a scan.
Names end where the characters of names end, and are in small letters; the attributes of a tag
do not repeat; a comment or a section holds no end of its own; and an element with raw content
comes with this content and its end tag, unless the document ends in it (`Lexed`).

> `lexed_of_tokens`: the tokens of every document are like this.

The invariant is kept by single steps (`stepOk_of_step`). It is stated with what may follow,
since the opening tag of raw content is the one thing that nothing may follow.
-/

namespace TestScribe.Markup

/-! ## Small letters -/

private theorem toLower_ascii : ∀ n < 128,
    (Char.ofNat n).toLower.toLower = (Char.ofNat n).toLower ∧
    (isLetter (Char.ofNat n) = true → isLetter (Char.ofNat n).toLower = true) ∧
      (isTagNameChar (Char.ofNat n) = true → isTagNameChar (Char.ofNat n).toLower = true) ∧
        (isAttributeStart (Char.ofNat n) = true →
          isAttributeStart (Char.ofNat n).toLower = true) ∧
            (isAttributeNameChar (Char.ofNat n) = true →
              isAttributeNameChar (Char.ofNat n).toLower = true) := by
  decide +kernel

/-- What a small letter is taken for if the letter was. -/
structure StaysSmall (c : Char) : Prop where
  small : c.toLower.toLower = c.toLower
  letter : isLetter c = true → isLetter c.toLower = true
  inTag : isTagNameChar c = true → isTagNameChar c.toLower = true
  startsAttribute : isAttributeStart c = true → isAttributeStart c.toLower = true
  inAttribute : isAttributeNameChar c = true → isAttributeNameChar c.toLower = true

theorem staysSmall (c : Char) : StaysSmall c := by
  by_cases hascii : c.toNat < 128
  · have h := toLower_ascii c.toNat hascii
    rw [Char.ofNat_toNat] at h
    obtain ⟨h₁, h₂, h₃, h₄, h₅⟩ := h
    exact ⟨h₁, h₂, h₃, h₄, h₅⟩
  · -- Beyond ASCII nothing is changed.
    have hself : c.toLower = c := by
      refine dif_neg fun h => hascii ?_
      exact Nat.lt_of_le_of_lt (UInt32.le_iff_toNat_le.mp h.2) (by decide)
    refine ⟨by rw [hself, hself], ?_, ?_, ?_, ?_⟩
    all_goals
      rw [hself]
      exact id

theorem lower_lower (s : Text) : Text.lower (Text.lower s) = Text.lower s := by
  rw [Text.lower, Text.lower, List.map_map]
  exact List.map_congr_left fun c _ => (staysSmall c).small

/-! ## Start tags -/

/-- The attributes of a start tag: their names are such, and different. -/
structure IsAttributes (as : Attributes) : Prop where
  names : ∀ a ∈ as, IsAttributeName a.1
  keys : as.keys.Nodup

theorem isTagName_lower {s : Text} (h : (s.head?.map isLetter).getD false = true) :
    IsTagName (Text.lower (s.takeWhile isTagNameChar)) := by
  refine ⟨?_, ?_, lower_lower _⟩
  · cases s with
    | nil => cases h
    | cons c s =>
      have hc : isLetter c = true := h
      have htag : isTagNameChar c = true := by
        have hend : "\t\n\r\x0c />\x00".toList.all (fun d => !isLetter d) = true := by decide
        rw [isTagNameChar, Bool.not_eq_true', ← Bool.not_eq_true, List.contains_iff_mem]
        intro hmem
        have := List.all_eq_true.mp hend c hmem
        rw [hc] at this
        cases this
      rw [List.takeWhile_cons_of_pos htag]
      exact (staysSmall c).letter hc
  · intro c hc
    obtain ⟨d, hd, rfl⟩ := List.mem_map.mp hc
    exact (staysSmall d).inTag (List.all_eq_true.mp List.all_takeWhile d hd)

theorem isAttributeName_lower {c : Char} {s : Text} (hc : isAttributeStart c = true) :
    IsAttributeName (Text.lower (c :: s.takeWhile isAttributeNameChar)) := by
  refine ⟨(staysSmall c).startsAttribute hc, ?_, lower_lower _⟩
  intro d hd
  obtain ⟨e, he, rfl⟩ := List.mem_map.mp hd
  exact (staysSmall e).inAttribute (List.all_eq_true.mp List.all_takeWhile e he)

theorem isAttributeName_of_mem_attributesFrom (separated : Bool) (s : Text) :
    ∀ a ∈ (attributesFrom separated s).1, IsAttributeName a.1 := by
  fun_induction attributesFrom separated s with
  | case1 =>
    intro a ha
    cases ha
  | case2 separated c cs hstart name after v hv more ih =>
    intro a ha
    rcases List.mem_cons.mp ha with rfl | ha
    · exact isAttributeName_lower (Bool.and_eq_true_iff.mp hstart).2
    · exact ih a ha
  | case3 separated c cs hstart name after hv more ih =>
    intro a ha
    rcases List.mem_cons.mp ha with rfl | ha
    · exact isAttributeName_lower (Bool.and_eq_true_iff.mp hstart).2
    · exact ih a ha
  | case4 =>
    intro a ha
    cases ha

/-- Values that can be resolved leave the names as they are. -/
theorem isAttributes_of_resolveValues? {raw : List (Text × Text)} {as : Attributes}
    (hraw : ∀ a ∈ raw, IsAttributeName a.1) (h : resolveValues? raw = some as) :
    IsAttributes as := by
  obtain ⟨ps, hps, rfl⟩ := Option.map_eq_some_iff.mp h
  have hkeys : ps.map Prod.fst = raw.map Prod.fst := by
    clear hraw h
    induction raw generalizing ps with
    | nil =>
      rw [List.mapM_nil] at hps
      obtain rfl := Option.some.inj hps
      rfl
    | cons a raw ih =>
      rw [List.mapM_cons] at hps
      obtain ⟨p, hp, hps⟩ := Option.bind_eq_some_iff.mp hps
      obtain ⟨ps', hps', he⟩ := Option.bind_eq_some_iff.mp hps
      obtain rfl := Option.some.inj he
      obtain ⟨v, -, rfl⟩ := Option.map_eq_some_iff.mp hp
      rw [List.map_cons, List.map_cons, ih ps' hps']
  obtain ⟨hnodup, hmem⟩ := Dictionary.keys_ofPairs ps
  refine ⟨fun a ha => ?_, hnodup⟩
  have hkey := hmem a.1 (List.mem_map_of_mem ha)
  rw [hkeys] at hkey
  obtain ⟨b, hb, hba⟩ := List.mem_map.mp hkey
  exact hba ▸ hraw b hb

/-! ## Constructs -/

/-- What a special construct can hold. -/
def MayHold : Special → Text → Prop
  | .comment, s => Unclosed commentEnd? s
  | .cdata, s => Unclosed sectionEnd? s
  | .declaration, _ => True
  | .doctype, s => '>' ∉ s
  | .instruction, s => '>' ∉ s

/-- What one construct is read as. -/
inductive Found : List Token → Prop
  | nothing : Found []
  | text (s : Text) : Found [.text s]
  | special {kind : Special} {s : Text} (hs : MayHold kind s) : Found [.special kind s]
  | closing (name : Text) : Found [.closing name]
  | emptyTag {name : Text} {as : Attributes} (hname : IsTagName name) (has : IsAttributes as) :
      Found [.emptyTag name as]
  | opening {name : Text} {as : Attributes} (hname : IsTagName name) (has : IsAttributes as) :
      Found [.opening name as]

section
variable {s rest : Text} {ts : List Token}

theorem found_startTag (hs : (s.head?.map isLetter).getD false = true)
    (h : startTag s = .ok (.complete ts rest)) : Found ts := by
  have hname := isTagName_lower hs
  have hraw := isAttributeName_of_mem_attributesFrom
    (endsApart (s.takeWhile isTagNameChar) || gapAt (s.dropWhile isTagNameChar))
    (skipGap (s.dropWhile isTagNameChar))
  have hend : ∀ {name : Text} {as : Attributes} {after : Text}, IsTagName name →
      IsAttributes as → endOfTag s name as after = .complete ts rest → Found ts := by
    intro name as after hname has h
    unfold endOfTag at h
    split at h
    · cases h
    · cases h
      exact .opening hname has
    · cases h
      exact .emptyTag hname has
    · split at h
      · cases h
      · cases h
        exact .text _
  unfold startTag at h
  dsimp only at h
  split at h
  · cases h
  · split at h
    · cases h
    · rename_i hsome
      rw [Bool.not_eq_true, Option.isNone_eq_false_iff, Option.isSome_iff_exists] at hsome
      obtain ⟨as, has⟩ := hsome
      have hreading := Except.ok.inj h
      rw [has] at hreading
      exact hend hname (isAttributes_of_resolveValues? hraw has) hreading

theorem found_endTag (h : endTag s = .complete ts rest) : Found ts := by
  unfold endTag at h
  split at h
  · cases h
  · rename_i inside rest' hcut
    split at h
    · cases h
      exact .closing _
    · split at h
      · cases h
        exact .nothing
      · cases h
        exact .special (unclosed_comment_of_not_mem (Text.not_mem_of_cutAt? hcut))

theorem found_specialReading {kind : Special} {found? : Option (Text × Text)}
    (hfound : ∀ r, found? = some r → MayHold kind r.1)
    (h : specialReading kind found? = .complete ts rest) : Found ts := by
  unfold specialReading at h
  split at h
  · cases h
    exact .special (hfound _ rfl)
  · cases h

theorem found_markedSection (h : markedSection s = .ok (.complete ts rest)) : Found ts := by
  unfold markedSection at h
  split at h
  · cases h
  · split at h
    · dsimp only at h
      split at h
      · cases h
      · split at h
        · cases h
        · cases h
        · rename_i inside rest' hfound
          cases h
          -- Whatever ends it, a section for characters holds no end of such a section.
          have hunclosed : Unclosed sectionEnd? inside := by
            split at hfound
            · exact unclosed_of_until? closer_section.toStable (Option.some.inj hfound)
            · split at hfound
              · exact (unclosed_of_until? stable_condition
                  (Option.some.inj hfound)).section_of_condition
              · cases hfound
          unfold sectionToken
          split
          · exact .special (hunclosed.suffix (List.drop_suffix 6 inside))
          · exact .special trivial
    · cases h

theorem found_declaration (h : declaration s = .ok (.complete ts rest)) : Found ts := by
  unfold declaration at h
  split at h
  · refine found_specialReading (fun r hr => ?_) (Except.ok.inj h)
    exact unclosed_of_until? closer_comment.toStable hr
  · exact found_markedSection h
  · split at h
    · split at h
      · rename_i inside rest' hcut
        cases h
        refine .special fun hmem => Text.not_mem_of_cutAt? hcut ?_
        exact List.mem_of_mem_drop hmem
      · cases h
    · refine found_specialReading (fun r hr => ?_) (Except.ok.inj h)
      exact unclosed_comment_of_not_mem (Text.not_mem_of_cutAt? hr)

end

/-! ## Tokens -/

/-- Tokens as scans find them. An element with raw content has this content and its end tag
behind its start tag, or nothing at all. -/
inductive Lexed : List Token → Prop
  | nil : Lexed []
  | text {s : Text} {ts : List Token} (h : Lexed ts) : Lexed (.text s :: ts)
  | special {kind : Special} {s : Text} {ts : List Token} (hs : MayHold kind s) (h : Lexed ts) :
      Lexed (.special kind s :: ts)
  | closing {name : Text} {ts : List Token} (h : Lexed ts) : Lexed (.closing name :: ts)
  | emptyTag {name : Text} {as : Attributes} {ts : List Token} (hname : IsTagName name)
      (has : IsAttributes as) (h : Lexed ts) : Lexed (.emptyTag name as :: ts)
  | opening {name : Text} {as : Attributes} {ts : List Token} (hname : IsTagName name)
      (has : IsAttributes as) (hraw : rawElements.contains name = false) (h : Lexed ts) :
      Lexed (.opening name as :: ts)
  | raw {name s : Text} {as : Attributes} {ts : List Token} (hname : IsTagName name)
      (has : IsAttributes as) (hraw : rawElements.contains name = true)
      (hs : Unclosed (rawEnd? name) s) (h : Lexed ts) :
      Lexed (.opening name as :: .text s :: .closing name :: ts)
  | cut {name : Text} {as : Attributes} (hname : IsTagName name) (has : IsAttributes as)
      (hraw : rawElements.contains name = true) : Lexed [.opening name as]

/-- The tokens can stand in front of others. -/
def Leads (ts : List Token) : Prop := ∀ us, Lexed us → Lexed (ts ++ us)

theorem Leads.lexed {ts : List Token} (h : Leads ts) : Lexed ts := by
  have h' := h [] .nil
  rwa [List.append_nil] at h'

theorem leads_nil : Leads [] := fun _ h => h

theorem leads_text (s : Text) : Leads [.text s] := fun _ h => .text h

theorem exists_of_map_eq_ok {ε α β : Type} {f : α → β} {x : Except ε α} {b : β}
    (h : x.map f = .ok b) : ∃ a, x = .ok a ∧ f a = b := by
  cases x with
  | error e => cases h
  | ok a => exact ⟨a, rfl, Except.ok.inj h⟩

/-- What is true of the tokens of a step: others may follow unless nothing is left. -/
def StepOk : Step → Prop
  | .go ts _ => Leads ts
  | .stop ts rest => Lexed ts ∧ (rest ≠ [] → Leads ts)

theorem stepOk_stop {ts : List Token} (h : Leads ts) (rest : Text) : StepOk (.stop ts rest) :=
  ⟨h.lexed, fun _ => h⟩

theorem stepOk_continueAfter {ts : List Token} (h : Found ts) (rest : Text) :
    StepOk (continueAfter ts rest) := by
  cases h with
  | nothing => exact leads_nil
  | text s => exact leads_text s
  | special hs => exact fun us hus => .special hs hus
  | closing name => exact fun us hus => .closing hus
  | emptyTag hname has => exact fun us hus => .emptyTag hname has hus
  | @opening name as hname has =>
    rw [continueAfter]
    by_cases hraw : rawElements.contains name = true
    · rw [if_pos hraw, rawContent?_eq_until?]
      cases hfound : until? (rawEnd? name) rest with
      | some r =>
        obtain ⟨inside, rest'⟩ := r
        have hunclosed := unclosed_of_until? (closer_raw hraw).toStable hfound
        exact fun us hus => .raw hname has hraw hunclosed hus
      | none => exact ⟨.cut hname has hraw, fun hne => absurd rfl hne⟩
    · rw [if_neg hraw]
      exact fun us hus => .opening hname has (Bool.eq_false_iff.mpr hraw) hus

theorem stepOk_asText (s : Text) : StepOk (asText s) := by
  unfold asText
  split
  · exact leads_text _
  · split
    · exact leads_text _
    · exact leads_text _

section
variable {last : Bool} {s : Text} {next : Step}

theorem stepOk_numberSign (h : numberSign s = .ok next) : StepOk next := by
  unfold numberSign at h
  split at h
  · split at h
    · cases h
    · cases h
      exact leads_text _
  · split at h
    · cases h
      exact stepOk_stop (leads_text _) _
    · cases h
      exact stepOk_stop leads_nil _

theorem stepOk_ampersand (h : ampersand last s = .ok next) : StepOk next := by
  unfold ampersand at h
  split at h
  · cases h
    exact stepOk_stop leads_nil _
  · exact stepOk_numberSign h
  · split at h
    · split at h
      · cases h
        exact leads_text _
      · split at h
        · cases h
          exact stepOk_stop leads_nil _
        · cases h
          exact stepOk_stop leads_nil _
    · cases h
      exact leads_text _

theorem stepOk_lessThan (h : lessThan last s = .ok next) : StepOk next := by
  unfold lessThan at h
  split at h
  · cases h
    exact stepOk_stop leads_nil _
  · rename_i c r
    dsimp only at h
    split at h
    · cases h
    · cases h
      exact leads_text _
    · rename_i ts rest hreading
      cases h
      -- Which construct it is, its first character says.
      have hfound : Found ts := by
        split at hreading
        · rename_i hletter
          obtain ⟨reading, hstart, he⟩ := exists_of_map_eq_ok hreading
          cases he
          exact found_startTag (s := c :: r) hletter hstart
        · split at hreading
          · exact found_endTag (Option.some.inj (Except.ok.inj hreading))
          · split at hreading
            · refine found_specialReading (fun x hx => ?_)
                (Option.some.inj (Except.ok.inj hreading))
              exact Text.not_mem_of_cutAt? (c := '>') hx
            · split at hreading
              · obtain ⟨reading, hdeclaration, he⟩ := exists_of_map_eq_ok hreading
                cases he
                exact found_declaration hdeclaration
              · cases hreading
      exact stepOk_continueAfter hfound rest
    · split at h
      · cases h
        exact stepOk_asText _
      · cases h
        exact stepOk_stop leads_nil _

/-- Every step finds what may be followed by others, or nothing is left. -/
theorem stepOk_of_step {c : Char} (h : step last c s = .ok next) : StepOk next := by
  unfold step at h
  split at h
  · exact stepOk_lessThan h
  · split at h
    · exact stepOk_ampersand h
    · cases h
      exact leads_text _

end

/-- So does a whole scan. -/
theorem stepOk_of_scan {last : Bool} {s rest : Text} {ts : List Token}
    (h : scan last s = .ok (ts, rest)) : StepOk (.stop ts rest) := by
  induction hn : s.length using Nat.strongRecOn generalizing s ts with
  | ind n ih =>
    cases s with
    | nil =>
      rw [scan] at h
      cases h
      exact stepOk_stop leads_nil _
    | cons c cs =>
      rw [scan] at h
      split at h
      · cases h
      · rename_i hstep
        cases h
        exact stepOk_of_step hstep
      · rename_i first rest' hstep
        split at h
        · cases h
        · rename_i r hscan
          cases h
          have hlead : Leads first := stepOk_of_step hstep
          have hlen : rest'.length < n := by
            have := step_length_le hstep
            rw [← hn, List.length_cons]
            omega
          obtain ⟨hlexed, hmore⟩ := ih _ hlen hscan rfl
          refine ⟨hlead _ hlexed, fun hne us hus => ?_⟩
          rw [List.append_assoc]
          exact hlead _ (hmore hne us hus)

/-- The tokens of any document. -/
theorem lexed_of_tokens {s : Text} {ts : List Token} (h : tokens s = .ok ts) : Lexed ts := by
  unfold tokens at h
  split at h
  · cases h
  · rename_i first rest hfirst
    obtain ⟨hlexed, hmore⟩ := stepOk_of_scan hfirst
    -- The second scan has nothing to read where nothing may follow.
    have hjoin : ∀ {us : List Token}, Lexed us → (rest = [] → us = []) → Lexed (first ++ us) := by
      intro us hus hnil
      by_cases hrest : rest = []
      · rw [hnil hrest, List.append_nil]
        exact hlexed
      · exact hmore hrest us hus
    split at h
    · cases h
    · rename_i second hsecond
      cases h
      refine hjoin (stepOk_of_scan hsecond).1 fun hrest => ?_
      rw [hrest, scan] at hsecond
      cases hsecond
      rfl
    · rename_i second remainder hne hsecond
      cases h
      obtain ⟨-, hmore'⟩ := stepOk_of_scan hsecond
      rw [List.append_assoc]
      refine hjoin (hmore' hne _ (.text .nil)) fun hrest => ?_
      rw [hrest, scan] at hsecond
      cases hsecond
      exact absurd rfl hne

end TestScribe.Markup
