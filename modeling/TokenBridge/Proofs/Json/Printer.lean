import TokenBridge.Json.Printer

/-!
# The orders of members

The members of an object may be written in any order. `arranged` puts those of a
value, at every depth, in a given order, and `written` is the compact text of a
value as its members stand. The printer writes them in the order of their keys
(`print_eq_written`).
-/

namespace TokenBridge.Json

/-- An order for the members of any object. -/
structure MemberOrder where
  order : List (String × Json) → List (String × Json)
  perm : ∀ members, (order members).Perm members

namespace MemberOrder

def given : MemberOrder := ⟨fun members => members, fun _ => .refl _⟩

def byKey : MemberOrder :=
  ⟨fun members => members.mergeSort fun a b => keyLe a.1 b.1, fun _ => List.mergeSort_perm ..⟩

end MemberOrder

/-- The value with the members of its objects in an order. -/
def arranged (o : MemberOrder) : Json → Json
  | arr items => arr (items.attach.map fun ⟨v, _⟩ => arranged o v)
  | obj members => obj (o.order (members.attach.map fun ⟨m, _⟩ => (m.1, arranged o m.2)))
  | v => v
  termination_by v => sizeOf v
  decreasing_by
    · have := List.sizeOf_lt_of_mem ‹_ ∈ items›
      simp; omega
    · rename_i h
      have := List.sizeOf_lt_of_mem h
      have : sizeOf m.2 < sizeOf m := by
        cases m; simp only [Prod.mk.sizeOf_spec]; omega
      simp; omega

/-- The compact text of a value, with its members as they stand. -/
def written : Json → String
  | null => "null"
  | bool true => "true"
  | bool false => "false"
  | num n => printNumber n
  | str s => printString s
  | arr items => "[" ++ commaJoin (items.attach.map fun ⟨v, _⟩ => written v) ++ "]"
  | obj members =>
    "\x7b" ++ commaJoin (members.attach.map fun ⟨m, _⟩ =>
      printString m.1 ++ ":" ++ written m.2) ++ "\x7d"
  termination_by v => sizeOf v
  decreasing_by
    · have := List.sizeOf_lt_of_mem ‹_ ∈ items›
      simp; omega
    · rename_i h
      have := List.sizeOf_lt_of_mem h
      have : sizeOf m.2 < sizeOf m := by
        cases m; simp only [Prod.mk.sizeOf_spec]; omega
      simp; omega

variable {o : MemberOrder} {items : List Json} {members : List (String × Json)}

@[simp] theorem arranged_null : arranged o null = null := by rw [arranged] <;> nofun
@[simp] theorem arranged_bool (b : Bool) : arranged o (bool b) = bool b := by
  rw [arranged] <;> nofun
@[simp] theorem arranged_num (n : JsonNumber) : arranged o (num n) = num n := by
  rw [arranged] <;> nofun
@[simp] theorem arranged_str (s : String) : arranged o (str s) = str s := by rw [arranged] <;> nofun

@[simp] theorem arranged_arr : arranged o (arr items) = arr (items.map (arranged o)) := by
  rw [arranged]
  exact congrArg arr (List.attach_map_val ..)

@[simp] theorem arranged_obj :
    arranged o (obj members) = obj (o.order (members.map fun m => (m.1, arranged o m.2))) := by
  rw [arranged]
  exact congrArg (fun ms => obj (o.order ms))
    (List.attach_map_val (f := fun m : String × Json => (m.1, arranged o m.2)))

@[simp] theorem arranged_opt {α : Type} {write : α → Json}
    (h : ∀ a, arranged o (write a) = write a) (a : Option α) :
    arranged o (opt write a) = opt write a := by
  cases a with
  | none => exact arranged_null
  | some a => exact h a

theorem written_arr :
    written (arr items) = "[" ++ commaJoin (items.map written) ++ "]" := by
  rw [written]
  exact congrArg (fun texts => "[" ++ commaJoin texts ++ "]") (List.attach_map_val ..)

theorem written_obj : written (obj members) = "\x7b" ++
    commaJoin (members.map fun m => printString m.1 ++ ":" ++ written m.2) ++ "\x7d" := by
  rw [written]
  exact congrArg (fun texts => "\x7b" ++ commaJoin texts ++ "\x7d")
    (List.attach_map_val (f := fun m : String × Json => printString m.1 ++ ":" ++ written m.2))

theorem print_arr : print (arr items) = "[" ++ commaJoin (items.map print) ++ "]" := by
  rw [print]
  exact congrArg (fun texts => "[" ++ commaJoin texts ++ "]") (List.attach_map_val ..)

theorem print_obj : print (obj members) = "\x7b" ++ commaJoin
    (((members.map fun m => (m.1, printString m.1 ++ ":" ++ print m.2)).mergeSort
      fun a b => keyLe a.1 b.1).map (·.2)) ++ "\x7d" := by
  rw [print]
  exact congrArg (fun texts : List (String × String) => "\x7b" ++ commaJoin
      ((texts.mergeSort fun a b => keyLe a.1 b.1).map (·.2)) ++ "\x7d")
    (List.attach_map_val (f := fun m : String × Json => (m.1, printString m.1 ++ ":" ++ print m.2)))

/-! ## Induction -/

/-- What holds of a list and an object if it holds of their values holds of every value. -/
theorem induction {P : Json → Prop} (hnull : P null) (hbool : ∀ b, P (bool b))
    (hnum : ∀ n, P (num n)) (hstr : ∀ s, P (str s))
    (harr : ∀ items, (∀ v ∈ items, P v) → P (arr items))
    (hobj : ∀ members, (∀ m ∈ members, P m.2) → P (obj members)) (v : Json) : P v :=
  @Json.rec P (fun items => ∀ v ∈ items, P v) (fun members => ∀ m ∈ members, P m.2)
    (fun m => P m.2) hnull hbool hnum hstr harr hobj nofun
    (fun _ _ hv hitems => List.forall_mem_cons.2 ⟨hv, hitems⟩) nofun
    (fun _ _ hm hmembers => List.forall_mem_cons.2 ⟨hm, hmembers⟩) (fun _ _ hv => hv) v

/-! ## The order of keys -/

theorem arranged_given (v : Json) : arranged .given v = v := by
  induction v using induction with
  | hnull => exact arranged_null
  | hbool b => exact arranged_bool b
  | hnum n => exact arranged_num n
  | hstr s => exact arranged_str s
  | harr items ih =>
    rw [arranged_arr, List.map_congr_left ih, List.map_id']
  | hobj members ih =>
    have hid : members.map (fun m => (m.1, arranged .given m.2)) = members := by
      refine (List.map_congr_left fun m hm => ?_).trans (List.map_id' members)
      rw [ih m hm]
    rw [arranged_obj, hid]
    rfl

/-- The printer writes the members in the order of their keys. -/
theorem print_eq_written (v : Json) : print v = written (arranged .byKey v) := by
  induction v using induction with
  | hnull => rw [arranged_null, print, written]
  | hbool b => cases b <;> rw [arranged_bool, print, written]
  | hnum n => rw [arranged_num, print, written]
  | hstr s => rw [arranged_str, print, written]
  | harr items ih =>
    rw [arranged_arr, print_arr, written_arr, List.map_map, List.map_congr_left ih]
    rfl
  | hobj members ih =>
    have htexts : members.map (fun m => (m.1, printString m.1 ++ ":" ++ print m.2)) =
        (members.map fun m => (m.1, arranged .byKey m.2)).map fun m =>
          (m.1, printString m.1 ++ ":" ++ written m.2) := by
      rw [List.map_map]
      refine List.map_congr_left fun m hm => ?_
      rw [ih m hm]
      rfl
    rw [arranged_obj, print_obj, written_obj, htexts, MemberOrder.byKey]
    -- The text of a member keeps its key, so texts and members are sorted alike.
    rw [← List.map_mergeSort (f := fun m : String × Json =>
      (m.1, printString m.1 ++ ":" ++ written m.2)) fun _ _ _ _ => rfl, List.map_map]
    rfl

end TokenBridge.Json
