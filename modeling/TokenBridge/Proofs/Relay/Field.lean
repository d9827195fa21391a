import TokenBridge.Proofs.Json.Number
import TokenBridge.Relay.Message

/-!
# Whole numbers under several keys

A whole number of a message may stand under one of several keys. The first key
with a number or a decimal numeral decides, and its value is held to 64 bits:
cut towards zero, and moved to the next bound if it is below zero or has more
bits (`wholeField?_eq_some`). So the number that is taken is the one that the
value denotes only if that is a whole one of 64 bits already. Any other is turned
into a number that was not there, and keeps later keys from being read
(`wholeField?_takes`).
-/

namespace TokenBridge.Relay.Message

open Json (IsNumeric Denotes DenotesWhole find?)

/-! ## One value -/

/-- The whole number of 64 bits that a number or a numeral is held to. No text has an infinite
number or one that is none. -/
inductive HeldTo : Json → Nat → Prop where
  | number {k : JsonNumber} {q : ℚ} : k.value? = some q → HeldTo (.num k) (min ⌊q⌋₊ (2 ^ 64 - 1))
  | endless {x : Number.Binary64} : x.isFinite = false →
      HeldTo (.num (.real x)) (if x.isNaN || x.negative then 0 else 2 ^ 64 - 1)
  | numeral {s : String} {n : Nat} : Number.readUnsigned64 s = some n → HeldTo (.str s) n

variable {v : Json} {n : Nat} {w : BitVec 64}

theorem HeldTo.lt (h : HeldTo v n) : n < 2 ^ 64 := by
  cases h with
  | number => omega
  | endless => split <;> omega
  | numeral hs => exact Number.readUnsigned_lt hs

theorem exists_heldTo (h : IsNumeric v) : ∃ n, HeldTo v n := by
  cases h with
  | number k =>
    cases hq : k.value? with
    | some q => exact ⟨_, .number hq⟩
    | none =>
      cases k with
      | whole | negative => cases hq
      | real x => exact ⟨_, .endless (Number.Binary64.value?_eq_none.1 hq)⟩
  | numeral hs => exact ⟨_, .numeral hs⟩

theorem heldTo_of_denotes (h : Denotes v n) : HeldTo v (min n (2 ^ 64 - 1)) := by
  generalize hq : (n : ℚ) = q at h
  cases h with
  | number hk =>
    subst hq
    have hheld := HeldTo.number hk
    rwa [Nat.floor_natCast] at hheld
  | @numeral s m hs =>
    have hm : n = m := Nat.cast_injective hq
    have hlt := Number.readUnsigned_lt hs
    rw [hm, Nat.min_eq_left (by omega)]
    exact .numeral hs

theorem heldTo_of_lt (h : Denotes v n) (hlt : n < 2 ^ 64) : HeldTo v n := by
  have hheld := heldTo_of_denotes h
  rwa [Nat.min_eq_left (by omega)] at hheld

theorem wholeOfNumber_of_value? {k : JsonNumber} {q : ℚ} (h : k.value? = some q) :
    wholeOfNumber k = min ⌊q⌋₊ (2 ^ 64 - 1) := by
  cases k with
  | whole n =>
    cases h
    rw [wholeOfNumber, Nat.floor_natCast]
    split
    · omega
    · omega
  | negative n =>
    cases h
    have hfloor : ⌊-(n : ℚ)⌋₊ = 0 := Nat.floor_of_nonpos (neg_nonpos.2 (Nat.cast_nonneg n))
    rw [wholeOfNumber, hfloor, Nat.zero_min]
  | real x => exact Number.Binary64.truncateUnsigned64_of_value? h

theorem HeldTo.eq (h : HeldTo v n) : wholeValue? v = some (BitVec.ofNat 64 n) := by
  cases h with
  | number hq => rw [wholeValue?, wholeOfNumber_of_value? hq]
  | @endless x hx =>
    rw [wholeValue?, wholeOfNumber, Number.Binary64.truncateUnsigned64, hx]
    rfl
  | numeral hs =>
    rw [wholeValue?, hs]
    rfl

theorem HeldTo.unique {m : Nat} (hm : HeldTo v m) (hn : HeldTo v n) : m = n := by
  have hword := congrArg BitVec.toNat (Option.some.inj (hm.eq.symm.trans hn.eq))
  rwa [BitVec.toNat_ofNat, BitVec.toNat_ofNat, Nat.mod_eq_of_lt hm.lt,
    Nat.mod_eq_of_lt hn.lt] at hword

theorem wholeValue?_eq_none (h : ¬ IsNumeric v) : wholeValue? v = none := by
  cases v with
  | num k => exact absurd (.number k) h
  | str s =>
    cases hs : Number.readUnsigned64 s with
    | none =>
      rw [wholeValue?, hs]
      rfl
    | some n => exact absurd (.numeral hs) h
  | _ => rfl

theorem wholeValue?_eq_some : wholeValue? v = some w ↔ HeldTo v w.toNat := by
  constructor
  · intro h
    by_cases hv : IsNumeric v
    · obtain ⟨n, hn⟩ := exists_heldTo hv
      cases hn.eq.symm.trans h
      rwa [BitVec.toNat_ofNat, Nat.mod_eq_of_lt hn.lt]
    · cases (wholeValue?_eq_none hv).symm.trans h
  · intro h
    rw [h.eq, BitVec.ofNat_toNat, BitVec.setWidth_eq]

/-! ## Several keys -/

variable {members : List (String × Json)} {P : Json → Prop} {key : String} {keys : List String}

/-- The first of the keys whose value has a property, by that value. -/
inductive First (members : List (String × Json)) (P : Json → Prop) : List String → Json → Prop where
  | here {key : String} {keys : List String} {v : Json} : find? key members = some v → P v →
      First members P (key :: keys) v
  | later {key : String} {keys : List String} {v : Json} :
      (∀ u, find? key members = some u → ¬ P u) → First members P keys v →
      First members P (key :: keys) v

theorem First.holds (h : First members P keys v) : P v := by
  induction h with
  | here _ hv => exact hv
  | later _ _ ih => exact ih

theorem First.exists_key (h : First members P keys v) :
    ∃ key ∈ keys, find? key members = some v := by
  induction h with
  | here hfind => exact ⟨_, List.mem_cons_self, hfind⟩
  | later _ _ ih =>
    obtain ⟨key, hkey, hfind⟩ := ih
    exact ⟨key, List.mem_cons_of_mem _ hkey, hfind⟩

theorem First.unique {u : Json} (hu : First members P keys u) (hv : First members P keys v) :
    u = v := by
  induction hu with
  | here hfind hP =>
    cases hv with
    | here hfind' => exact Option.some.inj (hfind.symm.trans hfind')
    | later hno => exact absurd hP (hno _ hfind)
  | later hno _ ih =>
    cases hv with
    | here hfind hP => exact absurd hP (hno _ hfind)
    | later _ hv => exact ih hv

theorem exists_first (h : ∃ key ∈ keys, ∃ v, find? key members = some v ∧ P v) :
    ∃ v, First members P keys v := by
  induction keys with
  | nil =>
    obtain ⟨_, hkey, -⟩ := h
    cases hkey
  | cons key keys ih =>
    by_cases hkey : ∃ v, find? key members = some v ∧ P v
    · obtain ⟨v, hfind, hP⟩ := hkey
      exact ⟨v, .here hfind hP⟩
    · obtain ⟨k, hk, hv⟩ := h
      rcases List.mem_cons.1 hk with rfl | hk
      · exact absurd hv hkey
      · obtain ⟨v, hfirst⟩ := ih ⟨k, hk, hv⟩
        exact ⟨v, .later (fun u hfind hP => hkey ⟨u, hfind, hP⟩) hfirst⟩

theorem First.mono {Q : Json → Prop} (hPQ : ∀ v, P v → Q v) (h : First members Q keys v)
    (hv : P v) : First members P keys v := by
  induction h with
  | here hfind => exact .here hfind hv
  | later hno _ ih => exact .later (fun u hfind hP => hno u hfind (hPQ u hP)) (ih hv)

theorem First.exists_mono {Q : Json → Prop} (hPQ : ∀ v, P v → Q v) (h : First members P keys v) :
    ∃ u, First members Q keys u := by
  obtain ⟨key, hkey, hfind⟩ := h.exists_key
  exact exists_first ⟨key, hkey, v, hfind, hPQ v h.holds⟩

theorem wholeField?_cons : wholeField? members (key :: keys) =
    ((find? key members).bind wholeValue?).or (wholeField? members keys) := by
  unfold wholeField?
  rw [List.findSome?_cons]
  cases (find? key members).bind wholeValue? <;> rfl

theorem wholeField?_of_first (h : First members IsNumeric keys v) :
    wholeField? members keys = wholeValue? v := by
  induction h with
  | here hfind hv =>
    obtain ⟨n, hn⟩ := exists_heldTo hv
    rw [wholeField?_cons, hfind, Option.bind_some, hn.eq, Option.some_or]
  | @later key keys v hno _ ih =>
    have hnone : (find? key members).bind wholeValue? = none :=
      Option.bind_eq_none_iff.2 fun u hfind => wholeValue?_eq_none (hno u hfind)
    rw [wholeField?_cons, hnone, Option.none_or, ih]

theorem wholeField?_eq_none : wholeField? members keys = none ↔
    ∀ key ∈ keys, ∀ v, find? key members = some v → ¬ IsNumeric v := by
  constructor
  · intro h key hkey v hfind hv
    obtain ⟨u, hu⟩ := exists_first ⟨key, hkey, v, hfind, hv⟩
    obtain ⟨n, hn⟩ := exists_heldTo hu.holds
    cases h.symm.trans ((wholeField?_of_first hu).trans hn.eq)
  · intro h
    refine List.findSome?_eq_none_iff.2 fun key hkey => Option.bind_eq_none_iff.2 fun v hfind => ?_
    exact wholeValue?_eq_none (h key hkey v hfind)

theorem wholeField?_eq_some : wholeField? members keys = some w ↔
    ∃ v, First members IsNumeric keys v ∧ HeldTo v w.toNat := by
  constructor
  · intro h
    have hsome : ∃ key ∈ keys, ∃ v, find? key members = some v ∧ IsNumeric v := by
      by_contra hno
      have hnone : wholeField? members keys = none :=
        wholeField?_eq_none.2 fun key hkey v hfind hv => hno ⟨key, hkey, v, hfind, hv⟩
      cases hnone.symm.trans h
    obtain ⟨v, hv⟩ := exists_first hsome
    exact ⟨v, hv, wholeValue?_eq_some.1 ((wholeField?_of_first hv).symm.trans h)⟩
  · rintro ⟨v, hv, hheld⟩
    rw [wholeField?_of_first hv, wholeValue?_eq_some.2 hheld]

/-! ## Numbers that are taken as they stand -/

/-- The number is that of the first value to denote a whole one of 64 bits, and there is none if no
value denotes one. -/
def Exact (members : List (String × Json)) (keys : List String) (taken : Option (BitVec 64)) :
    Prop :=
  ∀ w, taken = some w ↔ ∃ v, First members DenotesWhole keys v ∧ Denotes v w.toNat

theorem denotes_iff_of_heldTo (h : HeldTo v n) : Denotes v n ↔ DenotesWhole v := by
  constructor
  · intro hn
    exact ⟨n, h.lt, hn⟩
  · rintro ⟨m, hlt, hm⟩
    rw [h.unique (heldTo_of_lt hm hlt)]
    exact hm

theorem exact_of_denotesWhole (h : ∀ v, First members IsNumeric keys v → DenotesWhole v) :
    Exact members keys (wholeField? members keys) := by
  intro w
  rw [wholeField?_eq_some]
  constructor
  · rintro ⟨v, hv, hheld⟩
    have hwhole := h v hv
    have hfirst := hv.mono (fun _ => DenotesWhole.isNumeric) hwhole
    exact ⟨v, hfirst, (denotes_iff_of_heldTo hheld).2 hwhole⟩
  · rintro ⟨v, hv, hdenotes⟩
    obtain ⟨u, hu⟩ := hv.exists_mono fun _ => DenotesWhole.isNumeric
    cases hv.unique (hu.mono (fun _ => DenotesWhole.isNumeric) (h u hu))
    exact ⟨v, hu, heldTo_of_lt hdenotes w.isLt⟩

/-- Of the values under the keys the first number or decimal numeral is taken, held to 64 bits: cut
towards zero, and moved to a bound where it lies beyond it. There is none if no value is one. The
number taken is the first whole one of 64 bits if the value that decides denotes such a number, and
where it does not, the number taken is not one that it denotes. -/
theorem wholeField?_takes (members : List (String × Json)) (keys : List String) :
    (∀ w, wholeField? members keys = some w ↔
      ∃ v, First members IsNumeric keys v ∧ HeldTo v w.toNat) ∧
    (wholeField? members keys = none ↔
      ∀ key ∈ keys, ∀ v, find? key members = some v → ¬ IsNumeric v) ∧
    ((∀ v, First members IsNumeric keys v → DenotesWhole v) →
      Exact members keys (wholeField? members keys)) ∧
    ∀ v, First members IsNumeric keys v → ¬ DenotesWhole v →
      ∃ w, wholeField? members keys = some w ∧ ¬ Denotes v w.toNat := by
  refine ⟨fun w => wholeField?_eq_some, wholeField?_eq_none, exact_of_denotesWhole, ?_⟩
  intro v hv hwhole
  obtain ⟨n, hn⟩ := exists_heldTo hv.holds
  have htaken : wholeField? members keys = some (BitVec.ofNat 64 n) :=
    (wholeField?_of_first hv).trans hn.eq
  refine ⟨_, htaken, ?_⟩
  rw [BitVec.toNat_ofNat, Nat.mod_eq_of_lt hn.lt, denotes_iff_of_heldTo hn]
  exact hwhole

/-- A negative number under the first key is taken for zero, and the number under the second key is
not read. -/
theorem wholeField?_of_negative :
    let members : List (String × Json) :=
      [("srcEid", .num (.negative 5)), ("srcChainId", .num (.whole 30110))]
    let keys := ["srcEid", "srcChainId"]
    First members DenotesWhole keys (.num (.whole 30110)) ∧
      wholeField? members keys = some 0 ∧ ¬ Exact members keys (wholeField? members keys) := by
  intro members keys
  have hnegative : ¬ DenotesWhole (.num (.negative 5)) := by
    rintro ⟨n, -, hn⟩
    have hvalue : (n : ℚ) = -(5 : Nat) := hn.unique (.number rfl)
    have hpos : (0 : ℚ) ≤ n := Nat.cast_nonneg n
    rw [hvalue] at hpos
    norm_num at hpos
  have hfirst : First members DenotesWhole keys (.num (.whole 30110)) := by
    refine .later ?_ (.here rfl ⟨30110, by omega, Json.denotes_whole 30110⟩)
    rintro u ⟨⟩
    exact hnegative
  have htaken : wholeField? members keys = some 0 := rfl
  refine ⟨hfirst, htaken, fun hexact => ?_⟩
  have hread : wholeField? members keys = some 30110 := by
    rw [hexact]
    exact ⟨_, hfirst, Json.denotes_whole 30110⟩
  cases htaken.symm.trans hread

end TokenBridge.Relay.Message
