import TestScribe.Json.Printer
import TestScribe.Json.Reader
import TestScribe.Proofs.Dictionary

/-!
# Printed values read back

A value is read in two steps, the cutting into tokens and the machine that takes them. Both go from
left to right, so what is printed for a part of a value can be looked at by itself: it is cut into
tokens of its own, whatever comes behind it (`Reads`), and they take the machine from waiting for a
value to having it, whatever is open around it (`Denotes`). A string ends at the first quote that no
backslash stands before, and inside of it every character is one unit, which is never a half of a
pair. Line ends and indents are nothing to the reader.

> `read?_print`: a value that is made of texts, printed with any indent, is read as the same value.

That the names of an object are different is needed: of entries with one name the reader keeps one.
-/

namespace TestScribe.Json

/-! ## Tokens -/

/-- The text is cut into these tokens. -/
inductive Cut : Text → List Token → Prop
  | nil {s : Text} (hs : s.dropWhile isSpace = []) : Cut s []
  | cons {s cs rest : Text} {c : Char} {t : Token} {ts : List Token}
      (hs : s.dropWhile isSpace = c :: cs) (ht : token? (c :: cs) = some (t, rest))
      (hlt : rest.length < s.length) (h : Cut rest ts) : Cut s (t :: ts)

theorem Cut.length_le {s : Text} {ts : List Token} (h : Cut s ts) : ts.length ≤ s.length := by
  induction h with
  | nil => exact Nat.zero_le _
  | cons _ _ hlt _ ih =>
    rw [List.length_cons]
    exact Nat.lt_of_le_of_lt ih hlt

theorem tokensWith_of_cut {s : Text} {ts : List Token} (h : Cut s ts) :
    ∀ fuel, ts.length < fuel → tokensWith fuel s = some ts := by
  induction h with
  | nil hs =>
    intro fuel hfuel
    cases fuel with
    | zero => cases hfuel
    | succ fuel => rw [tokensWith, hs]
  | cons hs ht _ _ ih =>
    intro fuel hfuel
    cases fuel with
    | zero => cases hfuel
    | succ fuel =>
      rw [tokensWith, hs]
      dsimp only
      rw [ht]
      dsimp only
      rw [ih fuel (Nat.lt_of_succ_lt_succ hfuel)]
      rfl

theorem tokens?_of_cut {s : Text} {ts : List Token} (h : Cut s ts) : tokens? s = some ts :=
  tokensWith_of_cut h _ (Nat.lt_succ_of_le h.length_le)

/-- A piece of a text is cut into tokens of its own, whatever comes behind it. -/
def Reads (piece : Text) (ts : List Token) : Prop :=
  ∀ rest us, Cut rest us → Cut (piece ++ rest) (ts ++ us)

theorem Reads.append {p q : Text} {ts us : List Token} (hp : Reads p ts) (hq : Reads q us) :
    Reads (p ++ q) (ts ++ us) := by
  intro rest vs h
  rw [List.append_assoc, List.append_assoc]
  exact hp _ _ (hq _ _ h)

/-- A token that a character opens. -/
theorem reads_token {c : Char} {p : Text} {t : Token} (hc : isSpace c = false)
    (ht : ∀ rest, token? (c :: (p ++ rest)) = some (t, rest)) : Reads (c :: p) [t] := by
  intro rest us h
  have hs : (c :: p ++ rest).dropWhile isSpace = c :: (p ++ rest) :=
    List.dropWhile_cons_of_neg (by rw [hc]; exact Bool.false_ne_true)
  refine .cons hs (ht rest) ?_ h
  simp only [List.length_append, List.length_cons]
  omega

theorem reads_spaces {p : Text} (hp : ∀ c ∈ p, isSpace c = true) : Reads p [] := by
  intro rest us h
  have hdrop : (p ++ rest).dropWhile isSpace = rest.dropWhile isSpace :=
    List.dropWhile_append_of_pos hp
  cases h with
  | nil hs => exact .nil (hdrop.trans hs)
  | cons hs ht hlt h =>
    refine .cons (hdrop.trans hs) ht ?_ h
    rw [List.length_append]
    exact Nat.lt_of_lt_of_le hlt (Nat.le_add_left _ _)

theorem reads_newLine (indent : Nat) : Reads (newLine indent) [] := by
  refine reads_spaces fun c hc => ?_
  rcases List.mem_cons.mp hc with rfl | hc
  · rfl
  · rw [List.eq_of_mem_replicate hc]
    rfl

/-! ## Strings -/

theorem unitOf?_control :
    ∀ n < 0x20, unitOf? '0' '0' (hexDigit (n / 16)) (hexDigit (n % 16)) = some n := by
  decide

/-- A printed character is one unit of the string. -/
theorem stringUnits?_escapeChar (c : Char) (rest : Text) :
    stringUnits? (escapeChar c ++ rest) =
      (stringUnits? rest).map fun r => (c.toNat :: r.1, r.2) := by
  unfold escapeChar
  split
  · subst_vars
    rfl
  split
  · subst_vars
    rfl
  split
  · subst_vars
    rfl
  split
  · subst_vars
    rfl
  split
  · subst_vars
    rfl
  split
  · subst_vars
    rfl
  split
  · subst_vars
    rfl
  split
  · rename_i hcontrol
    simp only [List.cons_append, List.nil_append]
    rw [stringUnits?, unitOf?_control c.toNat hcontrol]
  · rename_i hquote hbackslash _ _ _ _ _ hcontrol
    rw [List.singleton_append, stringUnits?, if_neg]
    · simp [hcontrol, hbackslash]
    · exact hquote
    · exact fun _ _ _ _ _ h => absurd h hbackslash
    · exact fun _ _ h => absurd h hbackslash

/-- No character is a half of a pair. -/
theorem isHalf_toNat (c : Char) : (isHighUnit c.toNat || isLowUnit c.toNat) = false := by
  have hvalid : c.toNat < 0xD800 ∨ 0xDFFF < c.toNat ∧ c.toNat < 0x110000 := c.valid
  rw [Bool.or_eq_false_iff, isHighUnit, isLowUnit]
  simp only [Bool.and_eq_false_iff, decide_eq_false_iff_not]
  omega

theorem ofUnits_toNat (s : Text) : ofUnits (s.map Char.toNat) = s := by
  induction s with
  | nil => rfl
  | cons c s ih =>
    have hone : (if isHighUnit c.toNat || isLowUnit c.toNat then '\uFFFD'
        else Char.ofNat c.toNat) = c := by
      rw [isHalf_toNat, if_neg Bool.false_ne_true, Char.ofNat_toNat]
    have hhigh : isHighUnit c.toNat = false := (Bool.or_eq_false_iff.mp (isHalf_toNat c)).1
    cases s with
    | nil => rw [List.map_cons, List.map_nil, ofUnits, hone]
    | cons d s =>
      rw [List.map_cons, List.map_cons, ofUnits, hhigh, Bool.false_and, if_neg Bool.false_ne_true,
        ← List.map_cons, ih]
      rw [← hhigh, hone]

theorem string?_escaped (s rest : Text) :
    string? (s.flatMap escapeChar ++ '"' :: rest) = some (s, rest) := by
  have hunits : stringUnits? (s.flatMap escapeChar ++ '"' :: rest) =
      some (s.map Char.toNat, rest) := by
    induction s with
    | nil => rfl
    | cons c s ih =>
      rw [List.flatMap_cons, List.append_assoc, stringUnits?_escapeChar, ih]
      rfl
  rw [string?, hunits, Option.map_some, ofUnits_toNat]

theorem reads_printString (s : Text) : Reads (printString s) [.value (.str s)] := by
  refine reads_token rfl fun rest => ?_
  show token? ('"' :: (s.flatMap escapeChar ++ ['"'] ++ rest)) = _
  rw [List.append_assoc, List.singleton_append, token?, string?_escaped]
  rfl

/-! ## Values -/

/-- The machine waits for a value. -/
def AwaitsValue (a : Awaited) : Prop := a = .value ∨ a = .valueOrEnd

/-- The text is cut into tokens that take the machine from waiting for a value to having this one,
whatever is open around it. -/
def Denotes (p : Text) (v : Json) : Prop :=
  ∃ ts, Reads p ts ∧ ∀ around a, AwaitsValue a →
    Machine.run ⟨around, a⟩ ts = some ⟨around, .after v⟩

theorem run_append (m : Machine) (ts us : List Token) :
    m.run (ts ++ us) = (m.run ts).bind fun n => n.run us :=
  List.foldlM_append

theorem run_cons (m : Machine) (t : Token) (ts : List Token) :
    m.run (t :: ts) = (m.take t).bind fun n => n.run ts :=
  List.foldlM_cons

theorem denotes_printString (s : Text) : Denotes (printString s) (.str s) := by
  refine ⟨_, reads_printString s, fun around a ha => ?_⟩
  rcases ha with rfl | rfl
  · rfl
  · rfl

/-- The last items of an array, with the bracket that ends it. -/
theorem items_denote (indent outer : Nat) {vs : List Json}
    (h : ∀ w ∈ vs, Denotes (w.print indent) w) :
    ∃ ts, Reads (print.items indent vs ++ newLine outer ++ [']']) ts ∧
      ∀ around done v, Machine.run ⟨.inArray done :: around, .after v⟩ ts =
        some ⟨around, .after (.arr (done.reverse ++ v :: vs))⟩ := by
  induction vs with
  | nil =>
    refine ⟨[.closeArray], (reads_newLine outer).append (reads_token rfl fun _ => rfl), ?_⟩
    intro around done v
    rw [← List.reverse_cons]
    rfl
  | cons w vs ih =>
    obtain ⟨ts, hts, hw⟩ := h w List.mem_cons_self
    obtain ⟨us, hus, hrun⟩ := ih fun x hx => h x (List.mem_cons_of_mem _ hx)
    have hcomma : Reads [','] [.comma] := reads_token rfl fun _ => rfl
    have hreads := (hcomma.append (reads_newLine indent)).append (hts.append hus)
    have hwritten : print.items indent (w :: vs) ++ newLine outer ++ [']'] =
        [','] ++ newLine indent ++
          (w.print indent ++ (print.items indent vs ++ newLine outer ++ [']'])) := by
      simp [print.items]
    refine ⟨_, hwritten ▸ hreads, fun around done v => ?_⟩
    have hstep : Machine.take ⟨.inArray done :: around, .after v⟩ .comma =
        some ⟨.inArray (v :: done) :: around, .value⟩ := rfl
    rw [List.append_nil, List.singleton_append, run_cons, hstep, Option.bind_some, run_append,
      hw _ _ (.inl rfl), Option.bind_some, hrun, List.reverse_cons, List.append_assoc,
      List.singleton_append]

theorem denotes_array {indent : Nat} {items : List Json}
    (h : ∀ v ∈ items, Denotes (v.print (indent + indentStep)) v) :
    Denotes (print indent (.arr items)) (.arr items) := by
  have hopen : Reads ['['] [.openArray] := reads_token rfl fun _ => rfl
  have hstep : ∀ {around a}, AwaitsValue a → Machine.take ⟨around, a⟩ .openArray =
      some ⟨.inArray [] :: around, .valueOrEnd⟩ := by
    intro around a ha
    rcases ha with rfl | rfl
    · rfl
    · rfl
  cases items with
  | nil =>
    have hclose : Reads [']'] [.closeArray] := reads_token rfl fun _ => rfl
    refine ⟨_, hopen.append hclose, fun around a ha => ?_⟩
    rw [List.singleton_append, run_cons, hstep ha]
    rfl
  | cons v vs =>
    obtain ⟨ts, hts, hv⟩ := h v List.mem_cons_self
    obtain ⟨us, hus, hrun⟩ :=
      items_denote (indent + indentStep) indent fun w hw => h w (List.mem_cons_of_mem _ hw)
    have hreads := (hopen.append (reads_newLine (indent + indentStep))).append (hts.append hus)
    have hwritten : print indent (.arr (v :: vs)) =
        ['['] ++ newLine (indent + indentStep) ++ (v.print (indent + indentStep) ++
          (print.items (indent + indentStep) vs ++ newLine indent ++ [']'])) := by
      simp [print]
    refine ⟨_, hwritten ▸ hreads, fun around a ha => ?_⟩
    rw [List.append_nil, List.singleton_append, run_cons, hstep ha, Option.bind_some, run_append,
      hv _ _ (.inr rfl), Option.bind_some, hrun]
    rfl

/-! ## Objects -/

/-- The entries of a record. -/
def named (fields : Dictionary Text Json) : List (Key × Json) := fields.map fun e => (.text e.1, e.2)

theorem fields_named (fields : Dictionary Text Json) : Json.fields (named fields) = fields := by
  rw [Json.fields, named, List.filterMap_map]
  exact List.filterMap_some

/-- An entry of an object: its name, the colon and its value. -/
theorem entry_denotes (k : Text) {p : Text} {v : Json} (h : Denotes p v) :
    ∃ ts, Reads (printString k ++ ": ".toList ++ p) ts ∧ ∀ around entries mayEnd,
      Machine.run ⟨around, .key entries mayEnd⟩ ts =
        some ⟨.inObject entries k :: around, .after v⟩ := by
  obtain ⟨ts, hts, hv⟩ := h
  have hspace : Reads [' '] [] := reads_spaces fun c hc => List.mem_singleton.mp hc ▸ rfl
  have hmark : Reads [':'] [.colon] := reads_token rfl fun _ => rfl
  have hcolon : Reads ": ".toList [.colon] := hmark.append hspace
  refine ⟨_, ((reads_printString k).append hcolon).append hts, fun around entries mayEnd => ?_⟩
  rw [List.append_assoc, List.singleton_append, run_cons]
  exact hv _ _ (.inl rfl)

/-- The last entries of an object, with the brace that ends it. -/
theorem entries_denote (indent outer : Nat) {fields : Dictionary Text Json}
    (h : ∀ e ∈ fields, Denotes (e.2.print indent) e.2) :
    ∃ ts, Reads (print.entries indent (named fields) ++ newLine outer ++ ['\x7d']) ts ∧
      ∀ around done k v, Machine.run ⟨.inObject done k :: around, .after v⟩ ts =
        some ⟨around, .after (.record (Dictionary.ofPairs (done.reverse ++ (k, v) :: fields)))⟩ := by
  induction fields with
  | nil =>
    refine ⟨[.closeObject], (reads_newLine outer).append (reads_token rfl fun _ => rfl), ?_⟩
    intro around done k v
    rw [← List.reverse_cons]
    rfl
  | cons e fields ih =>
    obtain ⟨ts, hts, hentry⟩ := entry_denotes e.1 (h e List.mem_cons_self)
    obtain ⟨us, hus, hrun⟩ := ih fun x hx => h x (List.mem_cons_of_mem _ hx)
    have hcomma : Reads [','] [.comma] := reads_token rfl fun _ => rfl
    have hreads := (hcomma.append (reads_newLine indent)).append (hts.append hus)
    have hwritten : print.entries indent (named (e :: fields)) ++ newLine outer ++ ['\x7d'] =
        [','] ++ newLine indent ++ (printString e.1 ++ ": ".toList ++ e.2.print indent ++
          (print.entries indent (named fields) ++ newLine outer ++ ['\x7d'])) := by
      simp [print.entries, named, Key.print]
    refine ⟨_, hwritten ▸ hreads, fun around done k v => ?_⟩
    have hstep : Machine.take ⟨.inObject done k :: around, .after v⟩ .comma =
        some ⟨around, .key ((k, v) :: done) false⟩ := rfl
    rw [List.append_nil, List.singleton_append, run_cons, hstep, Option.bind_some, run_append,
      hentry, Option.bind_some, hrun, List.reverse_cons, List.append_assoc,
      List.singleton_append]

theorem denotes_record {indent : Nat} {fields : Dictionary Text Json}
    (hnames : fields.keys.Nodup)
    (h : ∀ e ∈ fields, Denotes (e.2.print (indent + indentStep)) e.2) :
    Denotes (print indent (.record fields)) (.record fields) := by
  have hopen : Reads ['\x7b'] [.openObject] := reads_token rfl fun _ => rfl
  have hstep : ∀ {around a}, AwaitsValue a → Machine.take ⟨around, a⟩ .openObject =
      some ⟨around, .key [] true⟩ := by
    intro around a ha
    rcases ha with rfl | rfl
    · rfl
    · rfl
  cases fields with
  | nil =>
    have hclose : Reads ['\x7d'] [.closeObject] := reads_token rfl fun _ => rfl
    refine ⟨_, hopen.append hclose, fun around a ha => ?_⟩
    rw [List.singleton_append, run_cons, hstep ha]
    rfl
  | cons e fields =>
    obtain ⟨ts, hts, hentry⟩ := entry_denotes e.1 (h e List.mem_cons_self)
    obtain ⟨us, hus, hrun⟩ :=
      entries_denote (indent + indentStep) indent fun x hx => h x (List.mem_cons_of_mem _ hx)
    have hreads := (hopen.append (reads_newLine (indent + indentStep))).append (hts.append hus)
    have hwritten : print indent (.record (e :: fields)) =
        ['\x7b'] ++ newLine (indent + indentStep) ++
          (printString e.1 ++ ": ".toList ++ e.2.print (indent + indentStep) ++
            (print.entries (indent + indentStep) (named fields) ++ newLine indent ++
              ['\x7d'])) := by
      simp [print, record, named, Key.print]
    refine ⟨_, hwritten ▸ hreads, fun around a ha => ?_⟩
    rw [List.append_nil, List.singleton_append, run_cons, hstep ha, Option.bind_some, run_append,
      hentry, Option.bind_some, hrun, List.reverse_nil, List.nil_append,
      Dictionary.ofPairs_of_nodup hnames]

/-! ## Values made of texts -/

/-- A value that is made of texts, where no object has a name twice. -/
inductive Textual : Json → Prop
  | str (s : Text) : Textual (.str s)
  | arr {items : List Json} (h : ∀ v ∈ items, Textual v) : Textual (.arr items)
  | record {fields : Dictionary Text Json} (hnames : fields.keys.Nodup)
      (h : ∀ e ∈ fields, Textual e.2) : Textual (.record fields)

theorem denotes_print {v : Json} (h : Textual v) : ∀ indent, Denotes (v.print indent) v := by
  induction h with
  | str s => exact fun _ => denotes_printString s
  | arr _ ih => exact fun indent => denotes_array fun v hv => ih v hv (indent + indentStep)
  | record hnames _ ih =>
    exact fun indent => denotes_record hnames fun e he => ih e he (indent + indentStep)

/-- A value that is made of texts is read as it was printed. -/
theorem read?_print {v : Json} (h : Textual v) (indent : Nat) :
    read? (v.print indent) = some v := by
  obtain ⟨ts, hts, hrun⟩ := denotes_print h indent
  have hcut : Cut (v.print indent) ts := by
    have hall := hts [] [] (.nil rfl)
    rwa [List.append_nil, List.append_nil] at hall
  rw [read?, tokens?_of_cut hcut, Option.bind_some, hrun [] .value (.inl rfl)]

end TestScribe.Json
