import Mathlib.Data.List.Forall2
import TokenBridge.Json.Parser
import TokenBridge.Json.Reader
import TokenBridge.Proofs.Json.Printer
import TokenBridge.Proofs.Number.Digits

/-!
# Written values read back

A value is `Writable` if it has no fractions, keys that differ, and is not nested
too deep. Each kind of value is read off the front of a text, whatever comes next
that belongs to no number (`ReadsAs`); fuel as long as the text is enough. So the
text of a writable value is read as the value (`parse_written`), and what is
printed as the value with its members by their keys (`parse_print`).
-/

namespace TokenBridge.Json

variable {c : Char} {cs rest : List Char} {fuel depth n : Nat}

theorem skipSpace_cons (h : isSpace c = false) : skipSpace (c :: cs) = c :: cs :=
  List.dropWhile_cons_of_neg (by rw [h]; decide)

/-! ## Strings -/

theorem readUnit?_unitDigits (h : n < 0x20) (rest : List Char) :
    readUnit? (unitDigits n ++ rest) = some (n, rest) := by
  have hdigits : ∀ n < 0x20,
      unitDigits n = ['0', '0', Text.hexDigit (n / 16), Text.hexDigit (n % 16)] := by decide
  have hzero : Text.hexValue? '0' = some 0 := by decide
  rw [hdigits n h]
  simp only [List.cons_append, List.nil_append, readUnit?, hzero,
    Text.hexValue?_hexDigit (n := n / 16) (by omega),
    Text.hexValue?_hexDigit (n := n % 16) (by omega)]
  congr 2
  omega

theorem readEscapedPoint?_unitDigits (h : n < 0x20) (rest : List Char) :
    readEscapedPoint? (unitDigits n ++ rest) = some (Char.ofNat n, rest) := by
  rw [readEscapedPoint?, readUnit?_unitDigits h]
  simp only
  rw [if_neg (by omega), if_neg (by omega)]

theorem readChars_printChar (done : List Char) :
    readChars (fuel + 1) done (printChar c ++ cs) = readChars fuel (c :: done) cs := by
  unfold printChar
  split
  · next h => subst h; rfl
  split
  · next h => subst h; rfl
  split
  · next h => subst h; rfl
  split
  · next h => subst h; rfl
  split
  · next h => subst h; rfl
  split
  · next h => subst h; rfl
  split
  · next h => subst h; rfl
  split
  · next h =>
    have hpoint := readEscapedPoint?_unitDigits h cs
    rw [Char.ofNat_toNat] at hpoint
    rw [List.cons_append, List.cons_append, readChars, if_neg (by decide), if_pos rfl]
    simp only [hpoint]
  · next hquote hslash _ _ _ _ _ hcontrol =>
    rw [List.singleton_append]
    conv => lhs; unfold readChars
    simp only [if_neg hquote, if_neg hslash, if_neg hcontrol]

theorem readChars_flatMap (s done : List Char) (h : s.length < fuel) :
    readChars fuel done (s.flatMap printChar ++ '"' :: rest) =
      some (String.ofList (done.reverse ++ s), rest) := by
  induction s generalizing fuel done with
  | nil =>
    obtain ⟨fuel, rfl⟩ := Nat.exists_eq_succ_of_ne_zero (Nat.ne_of_gt h)
    rw [List.append_nil]
    rfl
  | cons c s ih =>
    rw [List.length_cons] at h
    obtain ⟨fuel, rfl⟩ := Nat.exists_eq_succ_of_ne_zero (n := fuel) (by omega)
    rw [List.flatMap_cons, List.append_assoc, Nat.succ_eq_add_one, readChars_printChar,
      ih (c :: done) (by omega), List.reverse_cons, List.append_assoc, List.singleton_append]

theorem length_le_flatMap_printChar (s : List Char) :
    s.length ≤ (s.flatMap printChar).length := by
  induction s with
  | nil => exact Nat.le_refl _
  | cons c s ih =>
    have hchar : 0 < (printChar c).length := by
      unfold printChar
      repeat' split
      all_goals simp
    rw [List.length_cons, List.flatMap_cons, List.length_append]
    omega

theorem readString_flatMap (s : String) :
    readString (s.toList.flatMap printChar ++ '"' :: rest) = some (s, rest) := by
  have hlength := length_le_flatMap_printChar s.toList
  have hfuel : s.toList.length < (s.toList.flatMap printChar ++ '"' :: rest).length + 1 := by
    rw [List.length_append]
    omega
  rw [readString, readChars_flatMap _ _ hfuel, List.reverse_nil, List.nil_append,
    String.ofList_toList]

/-! ## Values -/

/-- Nested at most `depth` deep, without fractions and without two members of one key. -/
inductive Writable : Nat → Json → Prop where
  | null {depth : Nat} : Writable depth null
  | bool {depth : Nat} (b : Bool) : Writable depth (bool b)
  | whole {depth n : Nat} : n < 2 ^ 64 → Writable depth (num (.whole n))
  | negative {depth n : Nat} : 0 < n → n ≤ 2 ^ 63 → Writable depth (num (.negative n))
  | str {depth : Nat} (s : String) : Writable depth (str s)
  | arr {depth : Nat} {items : List Json} : (∀ v ∈ items, Writable depth v) →
      Writable (depth + 1) (arr items)
  | obj {depth : Nat} {members : List (String × Json)} : (members.map (·.1)).Nodup →
      (∀ m ∈ members, Writable depth m.2) → Writable (depth + 1) (obj members)

/-- The characters are the text of a value, whatever comes next that belongs to no number. -/
structure ReadsAs (depth : Nat) (v : Json) (text : List Char) : Prop where
  first : ∃ c cs, text = c :: cs ∧ isSpace c = false ∧ c ≠ ']'
  reads : ∀ fuel rest, text.length ≤ fuel → JsonNumber.Stops rest →
    readValue fuel depth (text ++ rest) = some (v, rest)

theorem stops_cons (hdigit : Number.Binary64.isDigit c = false)
    (hother : c ≠ '.' ∧ c ≠ 'e' ∧ c ≠ 'E') : JsonNumber.Stops (c :: rest) := by
  rintro _ ⟨⟩
  exact ⟨hdigit, hother⟩

theorem readsAs_word {word : List Char} {v : Json} (hfirst : ∃ c cs, word = c :: cs ∧
      isSpace c = false ∧ c ≠ ']')
    (hread : ∀ fuel rest, readValue (fuel + 1) depth (word ++ rest) = some (v, rest)) :
    ReadsAs depth v word where
  first := hfirst
  reads fuel rest hfuel _ := by
    obtain ⟨c, cs, rfl, -⟩ := hfirst
    rw [List.length_cons] at hfuel
    obtain ⟨fuel, rfl⟩ := Nat.exists_eq_succ_of_ne_zero (n := fuel) (by omega)
    exact hread fuel rest

theorem readsAs_null : ReadsAs depth null ['n', 'u', 'l', 'l'] :=
  readsAs_word ⟨_, _, rfl, rfl, by decide⟩ fun _ _ => rfl

theorem readsAs_true : ReadsAs depth (bool true) ['t', 'r', 'u', 'e'] :=
  readsAs_word ⟨_, _, rfl, rfl, by decide⟩ fun _ _ => rfl

theorem readsAs_false : ReadsAs depth (bool false) ['f', 'a', 'l', 's', 'e'] :=
  readsAs_word ⟨_, _, rfl, rfl, by decide⟩ fun _ _ => rfl

theorem readsAs_str (s : String) :
    ReadsAs depth (str s) ('"' :: (s.toList.flatMap printChar ++ ['"'])) := by
  refine readsAs_word ⟨_, _, rfl, rfl, by decide⟩ fun fuel rest => ?_
  rw [List.cons_append, List.append_assoc, List.singleton_append, readValue,
    skipSpace_cons rfl]
  simp only [readString_flatMap, Option.map_some]

/-- A numeral is read as such: it starts with a digit or a sign. -/
theorem readsAs_num {text : List Char} {k : JsonNumber}
    (hfirst : ∃ c cs, text = c :: cs ∧ (Number.Binary64.isDigit c = true ∨ c = '-'))
    (hread : ∀ rest, JsonNumber.Stops rest → JsonNumber.read? (text ++ rest) = some (k, rest)) :
    ReadsAs depth (num k) text := by
  obtain ⟨c, cs, rfl, hc⟩ := hfirst
  have hother : ∀ d, Number.Binary64.isDigit d = false → d ≠ '-' → c ≠ d := by
    rintro d hd hminus rfl
    rcases hc with hc | hc
    · rw [hd] at hc
      cases hc
    · exact hminus hc
  have hspace : isSpace c = false := by
    simp only [isSpace, Bool.or_eq_false_iff, beq_eq_false_iff_ne]
    exact ⟨⟨⟨hother _ rfl (by decide), hother _ rfl (by decide)⟩, hother _ rfl (by decide)⟩,
      hother _ rfl (by decide)⟩
  refine ⟨⟨c, cs, rfl, hspace, hother _ rfl (by decide)⟩, fun fuel rest hfuel hrest => ?_⟩
  rw [List.length_cons] at hfuel
  obtain ⟨fuel, rfl⟩ := Nat.exists_eq_succ_of_ne_zero (n := fuel) (by omega)
  have hread := hread rest hrest
  rw [List.cons_append] at hread ⊢
  rw [readValue, skipSpace_cons hspace]
  split
  case h_7 =>
    rw [hread]
    rfl
  -- The character is none of those that the other values start with.
  all_goals
    next heq => exact absurd (List.cons.inj heq).1 (hother _ rfl (by decide))

theorem readsAs_whole (h : n < 2 ^ 64) : ReadsAs depth (num (.whole n)) (Nat.toDigits 10 n) := by
  obtain ⟨c, cs, heq, hdigit, -⟩ := JsonNumber.exists_toDigits_eq_cons n
  exact readsAs_num ⟨c, cs, heq, .inl hdigit⟩ fun _ hrest => JsonNumber.read?_toDigits h hrest

theorem readsAs_negative (hpos : 0 < n) (h : n ≤ 2 ^ 63) :
    ReadsAs depth (num (.negative n)) ('-' :: Nat.toDigits 10 n) :=
  readsAs_num ⟨'-', _, rfl, .inr rfl⟩ fun _ hrest => JsonNumber.read?_minus_toDigits hpos h hrest

/-! ## Arrays -/

def commas (texts : List (List Char)) : List Char := [','].intercalate texts

theorem commas_cons_cons (x y : List Char) (texts : List (List Char)) :
    commas (x :: y :: texts) = x ++ ',' :: commas (y :: texts) := by
  rw [commas, List.intercalate_cons_cons, List.append_assoc]
  rfl

theorem commas_singleton (x : List Char) : commas [x] = x := List.append_nil x

theorem toList_commaJoin (xs : List String) :
    (commaJoin xs).toList = commas (xs.map String.toList) := String.toList_intercalate

variable {v : Json} {items : List Json} {members : List (String × Json)}
  {texts : List (List Char)}

theorem readItems_commas (h : List.Forall₂ (ReadsAs depth) (v :: items) texts)
    (hfuel : (commas texts).length < fuel) :
    readItems fuel depth (commas texts ++ ']' :: rest) = some (v :: items, rest) := by
  induction items generalizing v texts fuel with
  | nil =>
    obtain ⟨text, _, hv, hnil, rfl⟩ := List.forall₂_cons_left_iff.1 h
    cases hnil
    obtain ⟨fuel, rfl⟩ := Nat.exists_eq_succ_of_ne_zero (n := fuel) (by omega)
    rw [commas_singleton] at hfuel ⊢
    rw [readItems, hv.reads fuel _ (by omega) (stops_cons rfl (by decide))]
    rfl
  | cons w items ih =>
    obtain ⟨text, _, hv, hitems, rfl⟩ := List.forall₂_cons_left_iff.1 h
    obtain ⟨next, texts, -, -, rfl⟩ := List.forall₂_cons_left_iff.1 hitems
    obtain ⟨fuel, rfl⟩ := Nat.exists_eq_succ_of_ne_zero (n := fuel) (by omega)
    obtain ⟨c, cs, rfl, -⟩ := hv.first
    rw [commas_cons_cons, List.length_append, List.length_cons, List.length_cons] at hfuel
    rw [commas_cons_cons, List.append_assoc, List.cons_append (a := ','), readItems,
      hv.reads fuel _ (by rw [List.length_cons]; omega) (stops_cons rfl (by decide))]
    simp only [skipSpace_cons (c := ',') rfl]
    rw [ih hitems (by omega)]
    rfl

theorem readsAs_arr (h : List.Forall₂ (ReadsAs depth) items texts) :
    ReadsAs (depth + 1) (arr items) ('[' :: (commas texts ++ [']'])) where
  first := ⟨_, _, rfl, rfl, by decide⟩
  reads fuel rest hfuel _ := by
    rw [List.length_cons, List.length_append, List.length_singleton] at hfuel
    obtain ⟨fuel, rfl⟩ := Nat.exists_eq_succ_of_ne_zero (n := fuel) (by omega)
    rw [List.cons_append, List.append_assoc, List.singleton_append, readValue,
      skipSpace_cons rfl]
    cases h with
    | nil => rfl
    | @cons v text items texts hv hitems =>
      have hread : readItems fuel depth (commas (text :: texts) ++ ']' :: rest) =
          some (v :: items, rest) := readItems_commas (.cons hv hitems) (by omega)
      have hstart : ∃ c cs, commas (text :: texts) ++ ']' :: rest = c :: cs ∧
          isSpace c = false ∧ c ≠ ']' := by
        obtain ⟨c, cs, rfl, hc⟩ := hv.first
        cases texts with
        | nil => exact ⟨c, _, by rw [commas_singleton]; rfl, hc⟩
        | cons => exact ⟨c, _, by rw [commas_cons_cons]; rfl, hc⟩
      obtain ⟨c, cs, hcons, hspace, hclose⟩ := hstart
      rw [hcons] at hread ⊢
      simp only [skipSpace_cons hspace]
      split
      · next heq => exact absurd (List.cons.inj heq).1 hclose
      · rw [hread]
        rfl

/-! ## Objects -/

def ReadsMember (depth : Nat) (m : String × Json) (text : List Char) : Prop :=
  ∃ value, ReadsAs depth m.2 value ∧
    text = '"' :: (m.1.toList.flatMap printChar ++ '"' :: ':' :: value)

theorem fresh_of_nodup {before : List (String × Json)} {m : String × Json}
    (h : ((before ++ m :: members).map (·.1)).Nodup) : m.1 ∉ before.map (·.1) := by
  rw [List.map_append, List.map_cons] at h
  exact fun hmem => (List.nodup_append.1 h).2.2 _ hmem _ List.mem_cons_self rfl

theorem insert_eq_append {key : String} (h : key ∉ members.map (·.1)) :
    insert members key v = members ++ [(key, v)] := by
  have hnone : members.any (·.1 == key) = false := by
    refine List.any_eq_false.2 fun m hm heq => h ?_
    rw [← beq_iff_eq.1 heq]
    exact List.mem_map_of_mem hm
  rw [insert, hnone]
  rfl

theorem readMembers_comma {m : String × Json} {text : List Char} (h : ReadsMember depth m text)
    (before : List (String × Json)) (hfuel : text.length ≤ fuel) :
    readMembers (fuel + 1) depth before (text ++ ',' :: rest) =
      readMembers fuel depth (insert before m.1 m.2) rest := by
  obtain ⟨value, hvalue, rfl⟩ := h
  rw [List.length_cons, List.length_append, List.length_cons, List.length_cons] at hfuel
  rw [List.cons_append, List.append_assoc, List.cons_append, List.cons_append, readMembers,
    skipSpace_cons rfl]
  simp only [readString_flatMap, skipSpace_cons (c := ':') rfl, skipSpace_cons (c := ',') rfl,
    hvalue.reads fuel _ (by omega) (stops_cons (c := ',') rfl (by decide))]

theorem readMembers_close {m : String × Json} {text : List Char} (h : ReadsMember depth m text)
    (before : List (String × Json)) (hfuel : text.length ≤ fuel) :
    readMembers (fuel + 1) depth before (text ++ '\x7d' :: rest) =
      some (insert before m.1 m.2, rest) := by
  obtain ⟨value, hvalue, rfl⟩ := h
  rw [List.length_cons, List.length_append, List.length_cons, List.length_cons] at hfuel
  rw [List.cons_append, List.append_assoc, List.cons_append, List.cons_append, readMembers,
    skipSpace_cons rfl]
  simp only [readString_flatMap, skipSpace_cons (c := ':') rfl, skipSpace_cons (c := '\x7d') rfl,
    hvalue.reads fuel _ (by omega) (stops_cons (c := '\x7d') rfl (by decide))]

theorem readMembers_commas {m : String × Json}
    (h : List.Forall₂ (ReadsMember depth) (m :: members) texts) (before : List (String × Json))
    (hn : ((before ++ m :: members).map (·.1)).Nodup) (hfuel : (commas texts).length < fuel) :
    readMembers fuel depth before (commas texts ++ '\x7d' :: rest) =
      some (before ++ m :: members, rest) := by
  induction members generalizing m texts fuel before with
  | nil =>
    obtain ⟨text, _, hm, hnil, rfl⟩ := List.forall₂_cons_left_iff.1 h
    cases hnil
    obtain ⟨fuel, rfl⟩ := Nat.exists_eq_succ_of_ne_zero (n := fuel) (by omega)
    rw [commas_singleton] at hfuel ⊢
    rw [Nat.succ_eq_add_one, readMembers_close hm before (by omega),
      insert_eq_append (fresh_of_nodup hn)]
  | cons m' members ih =>
    obtain ⟨text, _, hm, hmembers, rfl⟩ := List.forall₂_cons_left_iff.1 h
    obtain ⟨next, texts, -, -, rfl⟩ := List.forall₂_cons_left_iff.1 hmembers
    obtain ⟨fuel, rfl⟩ := Nat.exists_eq_succ_of_ne_zero (n := fuel) (by omega)
    rw [commas_cons_cons, List.length_append, List.length_cons] at hfuel
    have hmore : 0 < text.length := by
      obtain ⟨_, -, rfl⟩ := hm
      exact Nat.succ_pos _
    rw [commas_cons_cons, List.append_assoc, List.cons_append, Nat.succ_eq_add_one,
      readMembers_comma hm before (by omega), insert_eq_append (fresh_of_nodup hn)]
    have hsplit : before ++ m :: m' :: members = before ++ [(m.1, m.2)] ++ m' :: members := by
      rw [List.append_assoc, List.singleton_append]
    rw [hsplit] at hn ⊢
    exact ih hmembers _ hn (by omega)

theorem readsAs_obj (h : List.Forall₂ (ReadsMember depth) members texts)
    (hn : (members.map (·.1)).Nodup) :
    ReadsAs (depth + 1) (obj members) ('\x7b' :: (commas texts ++ ['\x7d'])) where
  first := ⟨_, _, rfl, rfl, by decide⟩
  reads fuel rest hfuel _ := by
    rw [List.length_cons, List.length_append, List.length_singleton] at hfuel
    obtain ⟨fuel, rfl⟩ := Nat.exists_eq_succ_of_ne_zero (n := fuel) (by omega)
    rw [List.cons_append, List.append_assoc, List.singleton_append, readValue,
      skipSpace_cons rfl]
    cases h with
    | nil => rfl
    | @cons m text members texts hm hmembers =>
      have hread : readMembers fuel depth [] (commas (text :: texts) ++ '\x7d' :: rest) =
          some (m :: members, rest) := readMembers_commas (.cons hm hmembers) [] hn (by omega)
      have hstart : ∃ cs, commas (text :: texts) ++ '\x7d' :: rest = '"' :: cs := by
        obtain ⟨_, -, rfl⟩ := hm
        cases texts with
        | nil => exact ⟨_, by rw [commas_singleton]; rfl⟩
        | cons => exact ⟨_, by rw [commas_cons_cons]; rfl⟩
      obtain ⟨cs, hcons⟩ := hstart
      rw [hcons] at hread ⊢
      simp only [skipSpace_cons (c := '"') rfl]
      change Option.map (fun r => (obj r.1, r.2)) (readMembers fuel depth [] ('"' :: cs)) = _
      rw [hread]
      rfl

/-! ## Documents -/

theorem toList_printString (s : String) :
    (printString s).toList = '"' :: (s.toList.flatMap printChar ++ ['"']) := by
  rw [printString, String.toList_ofList, List.cons_append]

theorem readsAs_written (h : Writable depth v) : ReadsAs depth v (written v).toList := by
  induction h with
  | null =>
    rw [written]
    exact readsAs_null
  | bool b =>
    cases b with
    | true =>
      rw [written]
      exact readsAs_true
    | false =>
      rw [written]
      exact readsAs_false
  | whole h =>
    rw [written, printNumber, Number.decimal, String.toList_ofList]
    exact readsAs_whole h
  | @negative _ n hpos h =>
    have htext : ("-" ++ Number.decimal n).toList = '-' :: Nat.toDigits 10 n := by
      simp [Number.decimal]
    rw [written, printNumber, htext]
    exact readsAs_negative hpos h
  | str s =>
    rw [written, toList_printString]
    exact readsAs_str s
  | @arr depth items _ ih =>
    have htext : (written (arr items)).toList =
        '[' :: (commas (items.map fun v => (written v).toList) ++ [']']) := by
      rw [written_arr, String.toList_append, String.toList_append, toList_commaJoin, List.map_map]
      rfl
    rw [htext]
    exact readsAs_arr (List.forall₂_map_right_iff.2 (List.forall₂_same.2 ih))
  | @obj depth members hn _ ih =>
    have htext : (written (obj members)).toList = '\x7b' :: (commas (members.map fun m =>
        (printString m.1 ++ ":" ++ written m.2).toList) ++ ['\x7d']) := by
      rw [written_obj, String.toList_append, String.toList_append, toList_commaJoin, List.map_map]
      rfl
    rw [htext]
    refine readsAs_obj (List.forall₂_map_right_iff.2 (List.forall₂_same.2 fun m hm => ?_)) hn
    refine ⟨_, ih m hm, ?_⟩
    rw [String.toList_append, String.toList_append, toList_printString, List.append_assoc,
      List.cons_append, List.append_assoc]
    rfl

theorem parse_written (h : Writable maxDepth v) : parse (written v) = some v := by
  have hread := (readsAs_written h).reads (2 * (written v).toList.length + 2) [] (by omega) nofun
  rw [List.append_nil] at hread
  rw [parse, parseWithin]
  simp only [hread]
  rfl

theorem Writable.arranged (o : MemberOrder) (h : Writable depth v) :
    Writable depth (arranged o v) := by
  induction h with
  | null => rw [arranged_null]; exact .null
  | bool b => rw [arranged_bool]; exact .bool b
  | whole h => rw [arranged_num]; exact .whole h
  | negative hpos h => rw [arranged_num]; exact .negative hpos h
  | str s => rw [arranged_str]; exact .str s
  | arr _ ih =>
    rw [arranged_arr]
    refine .arr fun v hv => ?_
    obtain ⟨w, hw, rfl⟩ := List.mem_map.1 hv
    exact ih w hw
  | obj hn _ ih =>
    rw [arranged_obj]
    refine .obj ?_ fun m hm => ?_
    · refine ((o.perm _).map _).nodup_iff.2 ?_
      rwa [List.map_map]
    · obtain ⟨m', hm', rfl⟩ := List.mem_map.1 ((o.perm _).mem_iff.1 hm)
      exact ih m' hm'

/-- What is printed is read as the value with its members by their keys. -/
theorem parse_print (h : Writable maxDepth v) : parse (print v) = some (arranged .byKey v) := by
  rw [print_eq_written]
  exact parse_written (h.arranged .byKey)

theorem writable_word {width : Nat} (hw : width ≤ 64) (w : BitVec width) :
    Writable depth (word w) :=
  .whole (Nat.lt_of_lt_of_le w.isLt (Nat.pow_le_pow_right (by decide) hw))

theorem writable_opt {α : Type} {write : α → Json} (h : ∀ a, Writable depth (write a))
    (a : Option α) : Writable depth (opt write a) := by
  cases a with
  | none => exact .null
  | some a => exact h a

/-- Whatever is written is read back: from the value with its members in any order, from its text,
and from what is printed. -/
def ReadsBack {α : Type} (write : α → Json) (read : Json → Option α) : Prop :=
  ∀ a, (∀ o, read (arranged o (write a)) = some a ∧
      (parse (written (arranged o (write a)))).bind read = some a) ∧
    read (write a) = some a ∧ (parse (print (write a))).bind read = some a

theorem readsBack {α : Type} {write : α → Json} {read : Json → Option α}
    (hwrite : ∀ a, Writable maxDepth (write a))
    (hread : ∀ o a, read (arranged o (write a)) = some a) : ReadsBack write read := by
  intro a
  refine ⟨fun o => ⟨hread o a, ?_⟩, ?_, ?_⟩
  · rw [parse_written ((hwrite a).arranged o)]
    exact hread o a
  · have hgiven := hread .given a
    rwa [arranged_given] at hgiven
  · rw [parse_print (hwrite a)]
    exact hread .byKey a

end TokenBridge.Json
