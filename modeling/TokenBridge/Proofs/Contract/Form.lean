import TokenBridge.Proofs.Contract.Value

/-!
# Forms of amounts and fees

An amount is a number in any number of one-element tuples. A fee has three
forms, likewise in one-element tuples: typed, by position, and by name, where
the name of the second amount may be missing. Decoding accepts these forms and
no others (`toAmount_eq_ok`, `ofValue_eq_ok`), and does not see the tuples
around them (`toAmount_nested`, `ofValue_nested`).
-/

namespace TokenBridge.Contract

/-! ## Amounts -/

namespace Value

/-- A value in a number of one-element tuples. -/
def nested : Nat → Value → Value
  | 0, v => v
  | depth + 1, v => .tuple [nested depth v]

def IsAmount (n : Amount) (v : Value) : Prop := ∃ depth, v = nested depth (.uint n)

theorem toAmount_nested (what : String) (depth : Nat) (v : Value) :
    (nested depth v).toAmount what = v.toAmount what := by
  induction depth with
  | zero => rfl
  | succ depth ih => exact ih

theorem toAmount_eq_ok {what : String} {v : Value} {n : Amount} :
    v.toAmount what = .ok n ↔ IsAmount n v := by
  constructor
  · intro h
    fun_induction toAmount what v with
    | case1 m =>
      cases h
      exact ⟨0, rfl⟩
    | case2 v ih =>
      obtain ⟨depth, rfl⟩ := ih h
      exact ⟨depth + 1, rfl⟩
    | case3 => cases h
  · rintro ⟨depth, rfl⟩
    exact toAmount_nested what depth (.uint n)

end Value

/-! ## Fees -/

namespace MessagingFee

open Value (IsAmount field? nested)

/-- The forms of a fee. What follows two amounts in a tuple, and what else is in a map, makes no
difference. -/
inductive Form (f : MessagingFee) : Value → Prop where
  | typed : Form f (.fee f)
  | positional {a b : Value} (rest : List Value) : IsAmount f.native a → IsAmount f.network b →
      Form f (.tuple (a :: b :: rest))
  | named {fields : List (String × Value)} {a b : Value} : field? "nativeFee" fields = some a →
      IsAmount f.native a → field? "lzTokenFee" fields = some b → IsAmount f.network b →
      Form f (.map fields)
  | nativeOnly {fields : List (String × Value)} {a : Value} : field? "nativeFee" fields = some a →
      IsAmount f.native a → field? "lzTokenFee" fields = none → f.network = 0 →
      Form f (.map fields)

/-- A form of a fee in one-element tuples. -/
def Encodes (f : MessagingFee) (v : Value) : Prop :=
  ∃ depth form, v = nested depth form ∧ Form f form

theorem ofValue_nested (depth : Nat) (v : Value) : ofValue (nested depth v) = ofValue v := by
  induction depth with
  | zero => rfl
  | succ depth ih =>
    rw [nested, ofValue]
    exact ih

theorem Form.encodes {f : MessagingFee} {v : Value} (h : Form f v) : Encodes f v := ⟨0, v, rfl, h⟩

theorem Form.ofValue_eq {f : MessagingFee} {v : Value} (h : Form f v) : ofValue v = .ok f := by
  obtain ⟨native, network⟩ := f
  cases h with
  | typed => rfl
  | positional rest ha hb =>
    rw [ofValue, Value.toAmount_eq_ok.2 ha, Value.toAmount_eq_ok.2 hb]
  | named ha hna hb hnb =>
    simp only [ofValue, ha, hb, Value.toAmount_eq_ok.2 hna, Value.toAmount_eq_ok.2 hnb]
    rfl
  | nativeOnly ha hna hb hzero =>
    simp only [ofValue, ha, hb, Value.toAmount_eq_ok.2 hna]
    rw [show network = 0 from hzero]

theorem ofValue_eq_ok {f : MessagingFee} {v : Value} : ofValue v = .ok f ↔ Encodes f v := by
  constructor
  · intro h
    fun_induction ofValue v with
    | case1 =>
      cases h
      exact Form.typed.encodes
    | case2 v ih =>
      obtain ⟨depth, form, rfl, hform⟩ := ih h
      exact ⟨depth + 1, form, rfl, hform⟩
    | case3 a b rest native network hb ha =>
      cases h
      exact (Form.positional rest (Value.toAmount_eq_ok.1 ha) (Value.toAmount_eq_ok.1 hb)).encodes
    | case9 fields a ha native hna hb =>
      cases h
      exact (Form.nativeOnly ha (Value.toAmount_eq_ok.1 hna) hb rfl).encodes
    | case10 fields a ha native hna b hb =>
      cases hnb : b.toAmount what with
      | error e =>
        rw [hnb] at h
        cases h
      | ok network =>
        rw [hnb] at h
        cases h
        exact (Form.named ha (Value.toAmount_eq_ok.1 hna) hb (Value.toAmount_eq_ok.1 hnb)).encodes
    | case4 | case5 | case6 | case7 | case8 | case11 => cases h
  · rintro ⟨depth, form, rfl, h⟩
    rw [ofValue_nested]
    exact h.ofValue_eq

/-- An amount and a fee are decoded from their forms in one-element tuples, and every other value is
told as one of another form. Tuples that are put around a value do not change what is told of it,
and the three forms of a fee give the same fee. -/
theorem decodes_forms (what : String) (v : Value) :
    (∀ n, v.toAmount what = .ok n ↔ IsAmount n v) ∧
    ((∀ n, ¬ IsAmount n v) → ∃ detail, v.toAmount what = .error (.decode what detail)) ∧
    (∀ f, ofValue v = .ok f ↔ Encodes f v) ∧
    ((∀ f, ¬ Encodes f v) → ∃ detail, ofValue v = .error (.decode "fee" detail)) ∧
    (∀ depth, (nested depth v).toAmount what = v.toAmount what ∧
      ofValue (nested depth v) = ofValue v) ∧
    ∀ f, ofValue (.fee f) = .ok f ∧
      (∀ rest, ofValue (.tuple (.uint f.native :: .uint f.network :: rest)) = .ok f) ∧
      ∀ fields, field? "nativeFee" fields = some (.uint f.native) →
        field? "lzTokenFee" fields = some (.uint f.network) → ofValue (.map fields) = .ok f := by
  refine ⟨fun _ => Value.toAmount_eq_ok, fun hno => ?_, fun _ => ofValue_eq_ok, fun hno => ?_,
    fun depth => ⟨Value.toAmount_nested what depth v, ofValue_nested depth v⟩,
    fun f => ⟨rfl, fun _ => rfl, fun fields ha hb => ?_⟩⟩
  · cases h : v.toAmount what with
    | ok n => exact absurd (Value.toAmount_eq_ok.1 h) (hno n)
    | error e =>
      obtain ⟨detail, rfl⟩ := Value.toAmount_eq_error h
      exact ⟨detail, rfl⟩
  · cases h : ofValue v with
    | ok f => exact absurd (ofValue_eq_ok.1 h) (hno f)
    | error e =>
      obtain ⟨detail, rfl⟩ := ofValue_eq_error h
      exact ⟨detail, rfl⟩
  · exact (Form.named ha ⟨0, rfl⟩ hb ⟨0, rfl⟩).ofValue_eq

end MessagingFee

end TokenBridge.Contract
