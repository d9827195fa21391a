import Mathlib.Data.List.Nodup
import TokenBridge.Json.Reader
import TokenBridge.Proofs.Json.Printer

/-!
# What the strict readers accept

A strict reader accepts the one form that its value is written in, and a field
that may be left out counts as null where it is. The members of an object are
found by their keys, so their order makes no difference (`find?_arranged`,
`fields?_arranged`).
-/

namespace TokenBridge.Json

/-! ## Values -/

variable {v : Json}

theorem string?_str (s : String) : (str s).string? = some s := rfl

theorem string?_eq_some {s : String} : v.string? = some s ↔ v = .str s := by
  cases v <;> simp [string?]

theorem word?_eq_some {width : Nat} {w : BitVec width} :
    v.word? width = some w ↔ v = .word w := by
  constructor
  · intro h
    unfold word? at h
    split at h
    · split at h
      · next hlt =>
        cases h
        rw [word, BitVec.toNat_ofNat, Nat.mod_eq_of_lt hlt, nat]
      · cases h
    · cases h
  · rintro rfl
    simp [word?, word, nat, w.isLt]

theorem word?_word {width : Nat} (w : BitVec width) : (word w).word? width = some w :=
  word?_eq_some.2 rfl

theorem option?_eq_some {α : Type} {read : Json → Option α} {write : α → Json}
    (hread : ∀ v a, read v = some a ↔ v = write a) (hnull : ∀ a, write a ≠ null)
    {x : Option Json} {a : Option α} :
    option? read x = some a ↔ x.getD null = opt write a := by
  cases x with
  | none => cases a <;> simp [option?, opt, (hnull _).symm]
  | some v =>
    cases v with
    | null => cases a <;> simp [option?, opt, (hnull _).symm]
    | _ => cases a <;> simp [option?, opt, hread]

theorem option?_string {x : Option Json} {a : Option String} :
    option? string? x = some a ↔ x.getD null = opt str a :=
  option?_eq_some (fun _ _ => string?_eq_some) nofun

theorem option?_word {width : Nat} {x : Option Json} {a : Option (BitVec width)} :
    option? (word? width) x = some a ↔ x.getD null = opt word a :=
  option?_eq_some (fun _ _ => word?_eq_some) nofun

theorem option?_opt {α : Type} {read : Json → Option α} {write : α → Json}
    (hread : ∀ a, read (write a) = some a) (hnull : ∀ a, write a ≠ null) (a : Option α) :
    option? read (some (opt write a)) = some a := by
  cases a with
  | none => rfl
  | some a =>
    rw [opt, option?]
    · rw [hread]
      rfl
    · exact fun heq => hnull a heq

theorem list?_map {α : Type} {read : Json → Option α} {write : α → Json}
    (hread : ∀ a, read (write a) = some a) (as : List α) :
    list? read (arr (as.map write)) = some as := by
  rw [list?]
  induction as with
  | nil => rfl
  | cons a as ih =>
    rw [List.map_cons, List.mapM_cons, hread, ih]
    rfl

@[simp] theorem arranged_word {width : Nat} (o : MemberOrder) (w : BitVec width) :
    arranged o (word w) = word w := arranged_num _

/-! ## Members -/

variable {key : String} {members members' : List (String × Json)} {o : MemberOrder}

theorem find?_cons (m : String × Json) : find? key (m :: members) =
    if m.1 = key then some m.2 else find? key members := by
  unfold find?
  rw [List.find?_cons]
  by_cases h : m.1 = key
  · rw [if_pos h, beq_iff_eq.2 h]
    rfl
  · rw [if_neg h, beq_eq_false_iff_ne.2 h]

theorem find?_eq_some_iff (hn : (members.map (·.1)).Nodup) :
    find? key members = some v ↔ (key, v) ∈ members := by
  induction members with
  | nil => simp [find?]
  | cons m members ih =>
    rw [List.map_cons, List.nodup_cons] at hn
    rw [find?_cons, List.mem_cons]
    split
    · next h =>
      subst h
      have hother : (m.1, v) ∉ members := fun hmem => hn.1 (List.mem_map.2 ⟨_, hmem, rfl⟩)
      rw [Option.some.injEq, or_iff_left hother, Prod.ext_iff]
      exact ⟨fun h => ⟨rfl, h.symm⟩, fun h => h.2.symm⟩
    · next h =>
      rw [ih hn.2, or_iff_right]
      rintro rfl
      exact h rfl

theorem find?_of_perm (hp : members.Perm members') (hn : (members'.map (·.1)).Nodup) :
    find? key members = find? key members' := by
  refine Option.ext fun v => ?_
  rw [find?_eq_some_iff hn, find?_eq_some_iff ((hp.map _).nodup_iff.2 hn), hp.mem_iff]

theorem find?_map (f : Json → Json) :
    find? key (members.map fun m => (m.1, f m.2)) = (find? key members).map f := by
  induction members with
  | nil => rfl
  | cons m members ih =>
    rw [List.map_cons, find?_cons, find?_cons, ih]
    split
    · rfl
    · rfl

/-- A member is found whichever order the members are in. -/
theorem find?_arranged (hn : (members.map (·.1)).Nodup) :
    find? key (o.order (members.map fun m => (m.1, arranged o m.2))) =
      (find? key members).map (arranged o) := by
  rw [find?_of_perm (o.perm _) (by rwa [List.map_map]), find?_map]

theorem fields?_arranged (hn : (members.map (·.1)).Nodup) (names : List String) (spare : Nat) :
    fields? names spare (arranged o (obj members)) =
      some (names.map fun name => (find? name members).map (arranged o)) := by
  rw [arranged_obj, fields?]
  congr 1
  exact List.map_congr_left fun name _ => find?_arranged hn

end TokenBridge.Json
